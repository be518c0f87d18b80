/-
Module: NamedRefs.Proofs.Database.Independence
Purpose: Edits of different names may be made in either order.
Main exports: Edit, Edit.names, Catalog.edit, Catalog.AgreeOn, Catalog.edit_congr, Catalog.edit_comm,
  Store.Invariant.perform_edit, Database.disjoint_edits_commute
-/
import NamedRefs.Proofs.Database.Listing
import NamedRefs.Proofs.Store.Refinement

namespace NamedRefs

/-!
In a store the order of two edits shows: it decides which of them takes the slot that was vacated
last.  In the map from names to targets it does not.  There an edit reads its own names and the
settings, and writes nothing but its own names; so it finds the same before and after an edit of other
names.  A store answers by its map, and what depends on the slots goes no further than the order of a
pass, which listings do not show.
-/

/-- A call that changes a store at the names that it gives. -/
inductive Edit where
  | write (reference : Reference) (force : Bool) (expected : Option Target)
  | delete (name : String) (expected : Option Target)
  | rename (oldName newName : String) (force : Bool)
deriving DecidableEq

namespace Edit

/-- The call that makes the edit. -/
def call : Edit → Store.Call
  | write reference force expected => .write reference force expected
  | delete name expected => .delete name expected
  | rename oldName newName force => .rename oldName newName force

/-- The names that an edit gives.  The name in a symbolic target is not one of them. -/
def names : Edit → List String
  | write reference _ _ => [reference.name]
  | delete name _ => [name]
  | rename oldName newName _ => [oldName, newName]

end Edit

/-! ### Edits of a map -/

namespace Catalog

/-- Make an edit. -/
def edit (catalog : Catalog) : Edit → Except RefError Answer × Catalog
  | .write reference force expected => catalog.write reference force expected
  | .delete name expected => catalog.delete name expected
  | .rename oldName newName force => catalog.rename oldName newName force

/-- Two maps have the same settings, and the same targets for some names. -/
structure AgreeOn (names : List String) (first second : Catalog) : Prop where
  config : first.config = second.config
  targets : ∀ name ∈ names, first.targets[name]? = second.targets[name]?

section

variable {first second third : Catalog} {names : List String}

theorem AgreeOn.refl (names : List String) (catalog : Catalog) : AgreeOn names catalog catalog where
  config := rfl
  targets _ _ := rfl

/-- Which of two catalogs is named first does not matter. -/
theorem AgreeOn.symm (agree : AgreeOn names first second) : AgreeOn names second first where
  config := agree.config.symm
  targets name member := (agree.targets name member).symm

/-- Agreement on some names passes from a catalog to the next. -/
theorem AgreeOn.trans (agree : AgreeOn names first second) (further : AgreeOn names second third) :
    AgreeOn names first third where
  config := agree.config.trans further.config
  targets name member := (agree.targets name member).trans (further.targets name member)

/-- Catalogs go on agreeing when the same target is put into both. -/
theorem AgreeOn.insert (agree : AgreeOn names first second) (name : String) (target : Target) :
    AgreeOn names { first with targets := first.targets.insert name target }
      { second with targets := second.targets.insert name target } where
  config := agree.config
  targets other member := by
    simp only [Std.ExtTreeMap.getElem?_insert, agree.targets other member]

/-- Catalogs go on agreeing when the same name is taken out of both. -/
theorem AgreeOn.erase (agree : AgreeOn names first second) (name : String) :
    AgreeOn names { first with targets := first.targets.erase name }
      { second with targets := second.targets.erase name } where
  config := agree.config
  targets other member := by
    simp only [Std.ExtTreeMap.getElem?_erase, agree.targets other member]

/-- Catalogs that agree on a name both have it or both lack it. -/
theorem AgreeOn.mem_iff (agree : AgreeOn names first second) {name : String}
    (member : name ∈ names) : name ∈ first.targets ↔ name ∈ second.targets := by
  simp only [Std.ExtTreeMap.mem_iff_isSome_getElem?, agree.targets name member]

/-- A name is checked alike, for the check depends on the settings only. -/
theorem AgreeOn.nameFault?_eq (agree : AgreeOn names first second) (name : String) :
    first.nameFault? name = second.nameFault? name := by
  simp only [nameFault?, ruleFault?, agree.config]

/-- A reference is checked alike, for the check depends on the settings only. -/
theorem AgreeOn.referenceFault?_eq (agree : AgreeOn names first second) (reference : Reference) :
    first.referenceFault? reference = second.referenceFault? reference := by
  have sameTargetFault : first.targetFault? reference.name reference.target =
      second.targetFault? reference.name reference.target := by
    cases reference.target <;> simp only [targetFault?, ruleFault?, agree.config]
  simp only [referenceFault?, agree.nameFault?_eq, sameTargetFault]

end

/-- Two outcomes have the same answer, and maps that agree on some names. -/
structure AlikeOn (names : List String) (one other : Except RefError Answer × Catalog) : Prop where
  answer : one.1 = other.1
  agree : AgreeOn names one.2 other.2

/-- An edit is answered by the names that it gives, and leaves these names alike where it finds them
alike. -/
theorem edit_congr {first second : Catalog} {edit : Edit}
    (agree : AgreeOn edit.names first second) :
    AlikeOn edit.names (first.edit edit) (second.edit edit) := by
  cases edit with
  | write reference force expected =>
      have live := agree.targets reference.name List.mem_cons_self
      simp only [Catalog.edit, write, agree.referenceFault?_eq, live]
      cases second.referenceFault? reference with
      | some error => exact ⟨rfl, agree⟩
      | none =>
          cases second.targets[reference.name]? with
          | none =>
              simp only
              split
              · exact ⟨rfl, agree.insert reference.name reference.target⟩
              · exact ⟨rfl, agree⟩
          | some target =>
              simp only
              split
              · exact ⟨rfl, agree⟩
              · split
                · exact ⟨rfl, agree.insert reference.name reference.target⟩
                · exact ⟨rfl, agree⟩
  | delete name expected =>
      have live := agree.targets name List.mem_cons_self
      simp only [Catalog.edit, delete, live]
      cases second.targets[name]? with
      | none => exact ⟨rfl, agree⟩
      | some target =>
          simp only
          split
          · exact ⟨rfl, agree.erase name⟩
          · exact ⟨rfl, agree⟩
  | rename oldName newName force =>
      have live := agree.targets oldName List.mem_cons_self
      have given : newName ∈ (Edit.rename oldName newName force).names := by simp [Edit.names]
      have taken := agree.mem_iff given
      simp only [Catalog.edit, rename, agree.nameFault?_eq, live, taken]
      cases second.nameFault? newName with
      | some error => exact ⟨rfl, agree⟩
      | none =>
          simp only
          split
          · exact ⟨rfl, agree⟩
          · cases second.targets[oldName]? with
            | none => exact ⟨rfl, agree⟩
            | some target => exact ⟨rfl, (agree.erase oldName).insert newName target⟩

/-- Putting in a target changes nothing for other names. -/
theorem agreeOn_insert {names : List String} {name : String} (elsewhere : name ∉ names)
    (catalog : Catalog) (target : Target) :
    AgreeOn names { catalog with targets := catalog.targets.insert name target } catalog where
  config := rfl
  targets other member := by
    have different : name ≠ other := by
      rintro rfl
      exact elsewhere member
    simp [Std.ExtTreeMap.getElem?_insert, different]

/-- Taking out a name changes nothing for other names. -/
theorem agreeOn_erase {names : List String} {name : String} (elsewhere : name ∉ names)
    (catalog : Catalog) :
    AgreeOn names { catalog with targets := catalog.targets.erase name } catalog where
  config := rfl
  targets other member := by
    have different : name ≠ other := by
      rintro rfl
      exact elsewhere member
    simp [Std.ExtTreeMap.getElem?_erase, different]

/-- An edit leaves all other names as they are. -/
theorem edit_frame (catalog : Catalog) {edit : Edit} {names : List String}
    (apart : names.Disjoint edit.names) : AgreeOn names (catalog.edit edit).2 catalog := by
  have elsewhere : ∀ name ∈ edit.names, name ∉ names := fun name own other => apart other own
  have unchanged := AgreeOn.refl names catalog
  cases edit with
  | write reference force expected =>
      have written := agreeOn_insert (elsewhere reference.name List.mem_cons_self) catalog
        reference.target
      -- Whatever is checked, the outcome is one of these two maps.
      simp only [Catalog.edit, write]
      repeat' split
      all_goals first | exact written | exact unchanged
  | delete name expected =>
      have erased := agreeOn_erase (elsewhere name List.mem_cons_self) catalog
      simp only [Catalog.edit, delete]
      repeat' split
      all_goals first | exact erased | exact unchanged
  | rename oldName newName force =>
      have erased := agreeOn_erase (elsewhere oldName List.mem_cons_self) catalog
      have moved : ∀ target, AgreeOn names
          { catalog with targets := (catalog.targets.erase oldName).insert newName target }
          catalog := by
        intro target
        apply AgreeOn.trans _ erased
        have given : newName ∈ [oldName, newName] := by simp
        exact agreeOn_insert (elsewhere newName given)
          { catalog with targets := catalog.targets.erase oldName } target
      simp only [Catalog.edit, rename]
      repeat' split
      all_goals first | exact moved _ | exact unchanged

/-- An edit does not see an edit of other names that was made before it. -/
theorem edit_after (catalog : Catalog) {first second : Edit}
    (apart : first.names.Disjoint second.names) :
    AlikeOn first.names ((catalog.edit second).2.edit first) (catalog.edit first) :=
  edit_congr (catalog.edit_frame apart)

/-- After two edits in either order, the names of the first one are alike. -/
theorem edit_comm_on_first (catalog : Catalog) {first second : Edit}
    (apart : first.names.Disjoint second.names) :
    AgreeOn first.names ((catalog.edit first).2.edit second).2
      ((catalog.edit second).2.edit first).2 := by
  apply AgreeOn.trans ((catalog.edit first).2.edit_frame apart)
  exact (catalog.edit_after apart).agree.symm

/-- Edits of different names lead to the same map in either order. -/
theorem edit_comm (catalog : Catalog) {first second : Edit}
    (apart : first.names.Disjoint second.names) (name : String) :
    ((catalog.edit first).2.edit second).2.targets[name]? =
      ((catalog.edit second).2.edit first).2.targets[name]? := by
  by_cases ofFirst : name ∈ first.names
  · exact (catalog.edit_comm_on_first apart).targets name ofFirst
  · by_cases ofSecond : name ∈ second.names
    · exact ((catalog.edit_comm_on_first (List.disjoint_symm apart)).targets name ofSecond).symm
    · -- Neither edit touches the name.
      have apartFirst : [name].Disjoint first.names := by simpa using ofFirst
      have apartSecond : [name].Disjoint second.names := by simpa using ofSecond
      have one := ((catalog.edit first).2.edit_frame apartSecond).trans
        (catalog.edit_frame apartFirst)
      have other := ((catalog.edit second).2.edit_frame apartFirst).trans
        (catalog.edit_frame apartSecond)
      exact (one.trans other.symm).targets name List.mem_cons_self

end Catalog

/-! ### Edits of a store -/

namespace Store.Invariant

variable {store : Store}

/-- On a consistent store, an edit is answered as by the catalog and leads to its next state. -/
theorem perform_edit (invariant : store.Invariant) (edit : Edit) :
    ((store.perform edit.call).1, (store.perform edit.call).2.catalog) =
      store.catalog.edit edit := by
  cases edit with
  | write reference force expected => exact invariant.write_catalog reference force expected
  | delete name expected => exact invariant.delete_catalog name expected
  | rename oldName newName force => exact invariant.rename_catalog oldName newName force

/-- An edit of a consistent store is answered as the catalog says. -/
theorem answer_edit (invariant : store.Invariant) (edit : Edit) :
    (store.perform edit.call).1 = (store.catalog.edit edit).1 :=
  congrArg Prod.fst (invariant.perform_edit edit)

/-- An edit of a consistent store leads to the store that the catalog says. -/
theorem catalog_edit (invariant : store.Invariant) (edit : Edit) :
    (store.perform edit.call).2.catalog = (store.catalog.edit edit).2 :=
  congrArg Prod.snd (invariant.perform_edit edit)

/-- An edit is answered alike before and after an edit of other names. -/
theorem answer_edit_after (invariant : store.Invariant) {first second : Edit}
    (apart : first.names.Disjoint second.names) :
    ((store.perform second.call).2.perform first.call).1 = (store.perform first.call).1 := by
  rw [(invariant.perform second.call).answer_edit, invariant.catalog_edit, invariant.answer_edit]
  exact (store.catalog.edit_after apart).answer

/-- After two edits without a common name, in either order, every name has the same target. -/
theorem targetOf_edit_comm (invariant : store.Invariant) {first second : Edit}
    (apart : first.names.Disjoint second.names) (name : String) :
    ((store.perform first.call).2.perform second.call).2.targetOf name =
      ((store.perform second.call).2.perform first.call).2.targetOf name := by
  rw [← getElem?_targets_catalog, ← getElem?_targets_catalog,
    (invariant.perform first.call).catalog_edit, (invariant.perform second.call).catalog_edit,
    invariant.catalog_edit, invariant.catalog_edit]
  exact store.catalog.edit_comm apart name

end Store.Invariant

/-! ### Edits of a database -/

namespace Database

/-- In every store that calls lead to, two edits that give no name in common, whether they succeed or
fail, may be made in either order: each of them is answered alike in both, and the stores that they
lead to hold the same references, so that databases of these stores list, look up and resolve
alike. -/
theorem disjoint_edits_commute (config : StoreConfig) (calls : List Store.Call)
    (first second : Edit) (apart : first.names.Disjoint second.names) :
    let store := (Store.empty config).run calls
    let afterFirst := (store.perform first.call).2
    let afterSecond := (store.perform second.call).2
    let secondLast := (afterFirst.perform second.call).2
    let firstLast := (afterSecond.perform first.call).2
    (afterSecond.perform first.call).1 = (store.perform first.call).1 ∧
    (afterFirst.perform second.call).1 = (store.perform second.call).1 ∧
    (∀ reference, reference ∈ secondLast.references ↔ reference ∈ firstLast.references) ∧
    AnswersAlike ⟨secondLast⟩ ⟨firstLast⟩ := by
  intro store afterFirst afterSecond secondLast firstLast
  have invariant : store.Invariant := (Store.invariant_empty config).run calls
  have oneInvariant : secondLast.Invariant := (invariant.perform first.call).perform second.call
  have otherInvariant : firstLast.Invariant := (invariant.perform second.call).perform first.call
  have sameTargets : ∀ name, secondLast.targetOf name = firstLast.targetOf name :=
    invariant.targetOf_edit_comm apart
  refine ⟨invariant.answer_edit_after apart, invariant.answer_edit_after (List.disjoint_symm apart), ?_,
    answersAlike_of_sameTargets oneInvariant otherInvariant sameTargets⟩
  intro reference
  rw [oneInvariant.mem_references_iff_targetOf, otherInvariant.mem_references_iff_targetOf,
    sameTargets]

/-- A rename that displaces a reference, and a creation that takes the slot of the displaced one or a
new one, depending on the order. -/
theorem rename_and_creation_in_either_order :
    let store := (Store.empty .permissive).run
      [.write ⟨"a", .symbolic "x"⟩ false none, .write ⟨"b", .symbolic "y"⟩ false none]
    let replacement := Edit.rename "b" "a" true
    let creation := Edit.write ⟨"c", .symbolic "z"⟩ false none
    let created := ((store.perform replacement.call).2.perform creation.call).2
    let renamed := ((store.perform creation.call).2.perform replacement.call).2
    replacement.names.Disjoint creation.names ∧
    created.references = [.symbolic "c" "z", .symbolic "a" "y"] ∧
    renamed.references = [.symbolic "a" "y", .symbolic "c" "z"] ∧
    (∀ reference, reference ∈ created.references ↔ reference ∈ renamed.references) ∧
    AnswersAlike ⟨created⟩ ⟨renamed⟩ := by
  intro store replacement creation created renamed
  have apart : replacement.names.Disjoint creation.names := by
    simp [replacement, creation, Edit.names]
  have commute := disjoint_edits_commute .permissive
    [.write ⟨"a", .symbolic "x"⟩ false none, .write ⟨"b", .symbolic "y"⟩ false none]
    replacement creation apart
  exact ⟨apart, by decide, by decide, commute.2.2⟩

end Database

end NamedRefs

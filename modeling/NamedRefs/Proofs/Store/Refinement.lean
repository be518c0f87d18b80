/-
Module: NamedRefs.Proofs.Store.Refinement
Purpose: A store answers like the map from names to targets that it holds.
Main exports: Store.AgreesWith, Store.Invariant.write_catalog, Store.Invariant.delete_catalog,
  Store.Invariant.rename_catalog, Store.Invariant.perform_agrees, Store.trace_agrees_with_catalog
-/
import NamedRefs.Proofs.Store.Catalog
import NamedRefs.Proofs.Store.Contents

namespace NamedRefs

/-!
`Store.catalog` forgets the slots.  It commutes with every call: to perform the call and forget is to
forget and perform the call on the map.  One step of this simulation needs the invariant on the side
of the store; a run needs that the invariant goes on holding.
-/

namespace Store

/-! ### Forgetting the slots -/

@[simp] theorem config_catalog (store : Store) : store.catalog.config = store.config := rfl

/-- A catalog keeps the targets of the names of its store. -/
theorem getElem?_targets_catalog (store : Store) (name : String) :
    store.catalog.targets[name]? = store.targetOf name := by
  simp only [catalog, targetOf, find?]
  rw [Std.ExtTreeMap.getElem?_filterMap']
  cases store.index[name]? <;> rfl

/-- A store with the settings and the targets of a catalog has this catalog. -/
theorem catalog_eq {store : Store} {catalog : Catalog} (sameConfig : store.config = catalog.config)
    (sameTargets : ∀ name, store.targetOf name = catalog.targets[name]?) :
    store.catalog = catalog := by
  rcases catalog with ⟨config, targets⟩
  subst sameConfig
  have equal : store.catalog.targets = targets := by
    apply Std.ExtTreeMap.ext_getElem?
    intro name
    rw [getElem?_targets_catalog, sameTargets]
  rw [← equal]
  rfl

/-- An empty store has an empty catalog. -/
theorem catalog_empty (config : StoreConfig) : (empty config).catalog = Catalog.empty config := by
  apply catalog_eq rfl
  intro name
  rw [targetOf_of_not_indexed (by simp)]
  simp [Catalog.empty]

/-! ### Refusals -/

/-- Store and catalog find the same fault in a name, where names are validated at all. -/
theorem checkRules_catalog (store : Store) (name : String) :
    (if store.config.validateNames then (RefName.check name).mapError (.invalidName name)
      else .ok ()) = (store.catalog.ruleFault? name).elim (.ok ()) .error := by
  rw [Catalog.ruleFault?, RefName.check, config_catalog]
  by_cases strict : store.config.validateNames = true
  · rw [if_pos strict, if_pos strict]
    cases RefName.fault? name <;> rfl
  · rw [if_neg strict, if_neg strict]
    rfl

/-- Store and catalog refuse the same names for the same reasons. -/
theorem checkName_catalog (store : Store) (name : String) :
    checkName store.config name = (store.catalog.nameFault? name).elim (.ok ()) .error := by
  rw [checkName, Catalog.nameFault?, checkRules_catalog]
  split <;> rfl

/-- Store and catalog refuse the same targets for the same reasons. -/
theorem checkTarget_catalog (store : Store) (name : String) (target : Target) :
    checkTarget store.config name target =
      (store.catalog.targetFault? name target).elim (.ok ()) .error := by
  cases target with
  | direct id =>
      simp only [checkTarget, Catalog.targetFault?, ObjectId.isNull_eq_true_iff]
      split <;> rfl
  | symbolic target =>
      simp only [checkTarget, Catalog.targetFault?, checkRules_catalog]
      split <;> rfl

/-- Store and catalog refuse the same references for the same reasons. -/
theorem checkReference_catalog (store : Store) (reference : Reference) :
    checkReference store.config reference =
      (store.catalog.referenceFault? reference).elim (.ok ()) .error := by
  rw [checkReference, Catalog.referenceFault?, checkName_catalog, checkTarget_catalog]
  cases store.catalog.nameFault? reference.name <;> rfl

namespace Invariant

variable {store : Store}

/-! ### The names of the map -/

/-- A catalog is as large as its store. -/
theorem size_catalog (invariant : store.Invariant) :
    store.catalog.targets.size = store.size := by
  apply Std.ExtTreeMap.size_filterMap_eq_size_iff.mpr
  intro name member
  obtain ⟨target, held⟩ := invariant.occupied (Std.ExtTreeMap.getElem?_eq_some_getElem member)
  rw [held]
  rfl

/-- A catalog has the names its store contains. -/
theorem mem_targets_catalog (invariant : store.Invariant) (name : String) :
    name ∈ store.catalog.targets ↔ store.contains name = true := by
  rw [invariant.contains_eq_isSome, ← getElem?_targets_catalog,
    Std.ExtTreeMap.isSome_getElem?_iff_mem]

/-! ### Changes of the map -/

/-- A new reference is an insertion into the catalog. -/
theorem catalog_insertNew (invariant : store.Invariant) (reference : Reference) :
    (store.insertNew reference).catalog = { store.catalog with
      targets := store.catalog.targets.insert reference.name reference.target } := by
  apply catalog_eq (config_insertNew store reference)
  intro name
  rw [invariant.targetOf_insertNew, Std.ExtTreeMap.getElem?_insert, getElem?_targets_catalog]
  simp

/-- A slot filled anew is an insertion into the catalog, over the old target. -/
theorem catalog_fill (invariant : store.Invariant) {reference : Reference} {slot : Nat}
    {live : Target} (held : store.inSlot? slot = some ⟨reference.name, live⟩) :
    (store.fill slot reference).catalog = { store.catalog with
      targets := store.catalog.targets.insert reference.name reference.target } := by
  apply catalog_eq rfl
  intro name
  rw [invariant.targetOf_fill held, Std.ExtTreeMap.getElem?_insert, getElem?_targets_catalog]
  simp

/-- A slot given up is an erasure from the catalog. -/
theorem catalog_unlink (invariant : store.Invariant) {name : String} {slot : Nat}
    {target : Target} (held : store.inSlot? slot = some ⟨name, target⟩) :
    (store.unlink name slot).catalog = { store.catalog with
      targets := store.catalog.targets.erase name } := by
  apply catalog_eq rfl
  intro other
  rw [invariant.targetOf_unlink held, Std.ExtTreeMap.getElem?_erase, getElem?_targets_catalog]
  simp

/-- A rename is an erasure of the old name followed by an insertion of the new one. -/
theorem catalog_relabel (invariant : store.Invariant) {oldName newName : String} {slot : Nat}
    {target : Target} (held : store.inSlot? slot = some ⟨oldName, target⟩)
    (different : oldName ≠ newName) :
    (store.relabel oldName newName slot target).catalog = { store.catalog with
      targets := (store.catalog.targets.erase oldName).insert newName target } := by
  apply catalog_eq (by simp [Store.relabel])
  intro name
  rw [invariant.targetOf_relabel held different, Std.ExtTreeMap.getElem?_insert,
    Std.ExtTreeMap.getElem?_erase, getElem?_targets_catalog]
  simp

/-! ### One step -/

/-- A write of the store is a write of its catalog. -/
theorem write_catalog (invariant : store.Invariant) (reference : Reference) (force : Bool)
    (expected : Option Target) :
    ((store.write reference force expected).1.map fun () => Answer.done,
      (store.write reference force expected).2.catalog) =
      store.catalog.write reference force expected := by
  have accepted := checkReference_catalog store reference
  unfold Catalog.write
  cases fault : store.catalog.referenceFault? reference with
  | some error =>
      rw [fault] at accepted
      rw [write_of_refused accepted]
      rfl
  | none =>
      rw [fault] at accepted
      simp only [getElem?_targets_catalog]
      cases known : store.targetOf reference.name with
      | none =>
          rw [write_of_absent accepted (invariant.targetOf_eq_none_iff.mp known)]
          cases expected with
          | some token => rfl
          | none => simp [invariant.catalog_insertNew, Except.map]
      | some live =>
          obtain ⟨slot, held⟩ := invariant.targetOf_eq_some_iff.mp known
          rw [write_of_present accepted (invariant.indexed_of_inSlot? held) held]
          cases force with
          | false => rfl
          | true =>
              by_cases current : expected = none ∨ expected = some live
              · simp [isStale_eq_false_iff.mpr current, current, invariant.catalog_fill held,
                  Except.map]
              · simp [isStale_eq_true_iff.mpr current, current, Except.map]

/-- A delete of the store is a delete of its catalog. -/
theorem delete_catalog (invariant : store.Invariant) (name : String)
    (expected : Option Target) :
    ((store.delete name expected).1.map fun () => Answer.done,
      (store.delete name expected).2.catalog) = store.catalog.delete name expected := by
  unfold Catalog.delete
  simp only [getElem?_targets_catalog]
  cases known : store.targetOf name with
  | none =>
      rw [delete_of_absent (invariant.targetOf_eq_none_iff.mp known)]
      rfl
  | some live =>
      obtain ⟨slot, held⟩ := invariant.targetOf_eq_some_iff.mp known
      rw [delete_of_present (invariant.indexed_of_inSlot? held) held]
      by_cases current : expected = none ∨ expected = some live
      · simp [isStale_eq_false_iff.mpr current, current, invariant.catalog_unlink held,
          Except.map]
      · simp [isStale_eq_true_iff.mpr current, current, Except.map]

/-- A rename of the store is a rename of its catalog. -/
theorem rename_catalog (invariant : store.Invariant) (oldName newName : String) (force : Bool) :
    ((store.rename oldName newName force).1.map Answer.reference,
      (store.rename oldName newName force).2.catalog) =
      store.catalog.rename oldName newName force := by
  have accepted := checkName_catalog store newName
  unfold Catalog.rename
  cases fault : store.catalog.nameFault? newName with
  | some error =>
      rw [fault] at accepted
      rw [rename_of_refused accepted]
      rfl
  | none =>
      rw [fault] at accepted
      simp only [getElem?_targets_catalog, invariant.mem_targets_catalog]
      by_cases taken : store.contains newName = true ∧ force = false
      · rcases taken with ⟨used, unforced⟩
        subst unforced
        rw [rename_of_taken accepted used]
        simp [used, Except.map]
      · rw [if_neg taken]
        have free : store.contains newName = true → force = true :=
          fun used => Bool.of_not_eq_false fun unforced => taken ⟨used, unforced⟩
        cases known : store.targetOf oldName with
        | none =>
            rw [rename_of_absent accepted free (invariant.targetOf_eq_none_iff.mp known)]
            rfl
        | some target =>
            obtain ⟨slot, held⟩ := invariant.targetOf_eq_some_iff.mp known
            have indexed := invariant.indexed_of_inSlot? held
            by_cases different : oldName = newName
            · -- The store makes an exception of the own name; the map needs none.
              subst different
              have forced := free (contains_eq_true_iff.mpr ⟨slot, indexed⟩)
              subst forced
              have kept :=
                insert_erase_self ((getElem?_targets_catalog store oldName).trans known)
              rw [rename_self accepted indexed, invariant.lookup_eq, known]
              simp only [kept]
              rfl
            · rw [rename_of_present invariant accepted free different indexed held]
              simp [invariant.catalog_relabel held different, Except.map]

/-- A store contains the names of its catalog. -/
theorem contains_catalog (invariant : store.Invariant) (name : String) :
    store.contains name = decide (name ∈ store.catalog.targets) := by
  rw [Bool.eq_iff_iff, decide_eq_true_iff, invariant.mem_targets_catalog]

/-- A store is empty when its catalog is. -/
theorem isEmpty_catalog (invariant : store.Invariant) :
    store.isEmpty = (store.catalog.targets.size == 0) := by
  rw [invariant.size_catalog]
  exact Std.ExtTreeMap.isEmpty_eq_size_beq_zero

/-- A lookup in the store is one in its catalog. -/
theorem lookup_catalog (invariant : store.Invariant) (name : String) :
    (store.lookup name).map Answer.reference = store.catalog.lookup name := by
  rw [invariant.lookup_eq, Catalog.lookup, getElem?_targets_catalog]
  cases store.targetOf name <;> rfl

end Invariant

/-- An outcome is what a catalog says: the answer, where the catalog has one, and all that can be known
of the names afterwards, their number included. -/
structure AgreesWith (outcome : Outcome Answer)
    (specified : Option (Except RefError Answer) × Catalog) : Prop where
  answer : ∀ answer, specified.1 = some answer → outcome.1 = answer
  catalog : outcome.2.catalog = specified.2
  size : outcome.2.size = specified.2.targets.size

namespace Invariant

variable {store : Store}

/-- Every call of the store answers as its catalog does, where the catalog settles the answer, and
moves the catalog on as that call of the catalog does. -/
theorem perform_catalog (invariant : store.Invariant) (call : Call) :
    (∀ answer, (store.catalog.perform call).1 = some answer → (store.perform call).1 = answer) ∧
      (store.perform call).2.catalog = (store.catalog.perform call).2 := by
  cases call with
  | write reference force expected =>
      have step := invariant.write_catalog reference force expected
      simp only [Catalog.perform, ← step]
      exact ⟨fun answer equality => Option.some.inj equality, rfl⟩
  | delete name expected =>
      have step := invariant.delete_catalog name expected
      simp only [Catalog.perform, ← step]
      exact ⟨fun answer equality => Option.some.inj equality, rfl⟩
  | rename oldName newName force =>
      have step := invariant.rename_catalog oldName newName force
      simp only [Catalog.perform, ← step]
      exact ⟨fun answer equality => Option.some.inj equality, rfl⟩
  | lookup name =>
      rw [perform_lookup, Catalog.perform, ← invariant.lookup_catalog]
      exact ⟨fun answer equality => Option.some.inj equality, rfl⟩
  | contains name =>
      simp only [Catalog.perform, ← invariant.contains_catalog]
      exact ⟨fun answer equality => Option.some.inj equality, rfl⟩
  | isEmpty =>
      simp only [Catalog.perform, ← invariant.isEmpty_catalog]
      exact ⟨fun answer equality => Option.some.inj equality, rfl⟩
  | log call =>
      constructor
      · intro answer equality
        cases call <;> exact Option.some.inj equality
      · rfl
  | clear => exact ⟨fun answer equality => Option.some.inj equality, catalog_empty store.config⟩
  | config | compress | lock | unlock =>
      exact ⟨fun answer equality => Option.some.inj equality, rfl⟩
  | iterate | names | cursor | stats | describe =>
      constructor
      · intro answer unspecified
        contradiction
      · rfl

/-- One call of a store agrees with that of its catalog. -/
theorem perform_agrees (invariant : store.Invariant) (call : Call) :
    AgreesWith (store.perform call) (store.catalog.perform call) := by
  rcases invariant.perform_catalog call with ⟨answer, contents⟩
  refine ⟨answer, contents, ?_⟩
  rw [← contents, (invariant.perform call).size_catalog]

/-! ### Runs -/

/-- The calls of a run agree one by one with those of the catalog. -/
theorem trace_agrees (invariant : store.Invariant) (calls : List Call) :
    List.Forall₂ AgreesWith (store.trace calls) (store.catalog.trace calls) := by
  induction calls generalizing store with
  | nil => exact .nil
  | cons call calls inductionHypothesis =>
      have step := invariant.perform_agrees call
      have rest := inductionHypothesis (invariant.perform call)
      rw [step.catalog] at rest
      exact .cons step rest

end Invariant

/-- In every run from an empty store, each call is answered as the map from names to targets answers
it, and leaves the store with exactly the names and targets of the map. -/
theorem trace_agrees_with_catalog (config : StoreConfig) (calls : List Call) :
    (empty config).catalog = Catalog.empty config ∧ (empty config).size = 0 ∧
      List.Forall₂ AgreesWith ((empty config).trace calls)
        ((Catalog.empty config).trace calls) := by
  have agreement := (invariant_empty config).trace_agrees calls
  rw [catalog_empty] at agreement
  exact ⟨catalog_empty config, rfl, agreement⟩

end Store

end NamedRefs

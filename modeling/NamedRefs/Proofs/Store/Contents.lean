/-
Module: NamedRefs.Proofs.Store.Contents
Purpose: What each change of a store makes of the targets of its names.
Main exports: Store.Invariant.targetOf_eq_some_iff, Store.Invariant.lookup_eq,
  Store.Invariant.targetOf_insertNew, Store.Invariant.targetOf_unlink,
  Store.Invariant.targetOf_fill, Store.Invariant.targetOf_relabel, Store.Invariant.targetOf_write
-/
import NamedRefs.Proofs.Store.Consistency

namespace NamedRefs.Store

/-!
A caller sees names and targets, never slots.  Seen so, a consistent store is changed at the names of
the call and nowhere else: the slots of different names are different, so that whatever happens in
one of them cannot show under another name.
-/

/-! ### One entry at a time -/

/-- A name has the target that is held where its index leads. -/
theorem targetOf_of_indexed {store : Store} {name : String} {slot : Nat} {reference : Reference}
    (indexed : store.index[name]? = some slot) (held : store.inSlot? slot = some reference) :
    store.targetOf name = some reference.target := by
  simp [targetOf, find?, indexed, held]

/-- A name that is not indexed has no target. -/
theorem targetOf_of_not_indexed {store : Store} {name : String}
    (absent : store.index[name]? = none) : store.targetOf name = none := by
  simp [targetOf, find?, absent]

/-- A name keeps its target when its entry and what that entry leads to are kept. -/
theorem targetOf_congr {store next : Store} {name : String}
    (sameEntry : next.index[name]? = store.index[name]?)
    (sameSlot : ∀ slot, store.index[name]? = some slot → next.inSlot? slot = store.inSlot? slot) :
    next.targetOf name = store.targetOf name := by
  simp only [targetOf, find?]
  rw [sameEntry]
  cases indexed : store.index[name]? with
  | none => rfl
  | some slot => simp [sameSlot slot indexed]

namespace Invariant

variable {store : Store}

/-! ### Reading -/

/-- A name has a target exactly when a slot holds both. -/
theorem targetOf_eq_some_iff (invariant : store.Invariant) {name : String} {target : Target} :
    store.targetOf name = some target ↔ ∃ slot, store.inSlot? slot = some ⟨name, target⟩ := by
  rw [targetOf, Option.map_eq_some_iff]
  constructor
  · rintro ⟨⟨_, _⟩, found, rfl⟩
    obtain ⟨rfl, held⟩ := invariant.find?_eq_some_iff.mp found
    exact held
  · intro held
    exact ⟨⟨name, target⟩, invariant.find?_eq_some_iff.mpr ⟨rfl, held⟩, rfl⟩

/-- A name without a target is one that is not indexed: no index entry leads to a vacant slot. -/
theorem targetOf_eq_none_iff (invariant : store.Invariant) {name : String} :
    store.targetOf name = none ↔ store.index[name]? = none := by
  constructor
  · intro unknown
    cases indexed : store.index[name]? with
    | none => rfl
    | some slot =>
        obtain ⟨target, held⟩ := invariant.occupied indexed
        rw [targetOf_of_indexed indexed held] at unknown
        contradiction
  · exact targetOf_of_not_indexed

/-- A store contains the names that have a target. -/
theorem contains_eq_isSome (invariant : store.Invariant) (name : String) :
    store.contains name = (store.targetOf name).isSome := by
  rw [contains, Std.ExtTreeMap.contains_eq_isSome_getElem?]
  cases indexed : store.index[name]? with
  | none => rw [targetOf_of_not_indexed indexed]; rfl
  | some slot =>
      obtain ⟨target, held⟩ := invariant.occupied indexed
      rw [targetOf_of_indexed indexed held]
      rfl

/-- A lookup answers with the name that was asked for and its target. -/
theorem lookup_eq (invariant : store.Invariant) (name : String) :
    store.lookup name =
      match store.targetOf name with
      | some target => .ok ⟨name, target⟩
      | none => .error (.notFound name) := by
  rw [lookup_def, targetOf]
  cases found : store.find? name with
  | none => rfl
  | some reference =>
      obtain ⟨rfl, _⟩ := invariant.find?_eq_some_iff.mp found
      rfl

/-! ### Changes -/

/-- A new reference changes the target of its own name only. -/
theorem targetOf_insertNew (invariant : store.Invariant) (reference : Reference)
    (name : String) :
    (store.insertNew reference).targetOf name =
      if reference.name = name then some reference.target else store.targetOf name := by
  have entry := getElem?_index_insertNew store reference name
  by_cases same : reference.name = name
  · rw [if_pos same] at entry ⊢
    apply targetOf_of_indexed entry
    rw [inSlot?_eq_some_iff, slots_insertNew invariant, if_pos rfl]
  · rw [if_neg same] at entry ⊢
    apply targetOf_congr entry
    intro slot indexed
    simp only [inSlot?]
    rw [slots_insertNew invariant, if_neg (invariant.ne_openSlot indexed)]

/-- Giving up a slot takes the target from its own name only. -/
theorem targetOf_unlink (invariant : store.Invariant) {name : String} {slot : Nat}
    {target : Target} (held : store.inSlot? slot = some ⟨name, target⟩) (other : String) :
    (store.unlink name slot).targetOf other =
      if name = other then none else store.targetOf other := by
  have entry := getElem?_index_unlink store name slot other
  by_cases same : name = other
  · rw [if_pos same] at entry ⊢
    exact targetOf_of_not_indexed entry
  · rw [if_neg same] at entry ⊢
    apply targetOf_congr entry
    intro otherSlot indexed
    simp only [inSlot?]
    rw [slots_unlink (lt_size_of_inSlot? held), if_neg (invariant.slot_ne held indexed same)]

/-- Making room for a name takes the target from that name only. -/
theorem targetOf_displace (invariant : store.Invariant) (name other : String) :
    (store.displace name).targetOf other =
      if name = other then none else store.targetOf other := by
  unfold Store.displace
  cases indexed : store.index[name]? with
  | none =>
      by_cases same : name = other
      · subst same
        rw [if_pos rfl]
        exact targetOf_of_not_indexed indexed
      · rw [if_neg same]
  | some slot =>
      obtain ⟨target, held⟩ := invariant.occupied indexed
      exact invariant.targetOf_unlink held other

/-- A slot filled anew under a new name: the new name has the target, the old one has none. -/
theorem targetOf_rekey_fill (invariant : store.Invariant) {oldName newName : String} {slot : Nat}
    {live : Target} (held : store.inSlot? slot = some ⟨oldName, live⟩) (target : Target)
    (name : String) :
    ((store.rekey oldName newName slot).fill slot ⟨newName, target⟩).targetOf name =
      if newName = name then some target
      else if oldName = name then none
      else store.targetOf name := by
  have entry := getElem?_index_rekey store oldName newName slot name
  by_cases same : newName = name
  · rw [if_pos same] at entry ⊢
    have relabelled : ((store.rekey oldName newName slot).fill slot ⟨newName, target⟩).inSlot?
        slot = some ⟨newName, target⟩ := by
      rw [inSlot?_eq_some_iff, slots_rekey_fill (lt_size_of_inSlot? held), if_pos rfl]
    refine targetOf_of_indexed ?_ relabelled
    exact entry
  · rw [if_neg same] at entry ⊢
    by_cases old : oldName = name
    · rw [if_pos old] at entry ⊢
      exact targetOf_of_not_indexed entry
    · rw [if_neg old] at entry ⊢
      refine targetOf_congr entry fun otherSlot indexed => ?_
      simp only [inSlot?]
      rw [slots_rekey_fill (lt_size_of_inSlot? held),
        if_neg (invariant.slot_ne held indexed old)]

/-- A slot filled anew under its own name changes the target of that name only. -/
theorem targetOf_fill (invariant : store.Invariant) {reference : Reference} {slot : Nat}
    {live : Target} (held : store.inSlot? slot = some ⟨reference.name, live⟩) (name : String) :
    (store.fill slot reference).targetOf name =
      if reference.name = name then some reference.target else store.targetOf name := by
  have relabelled : ((store.rekey reference.name reference.name slot).fill slot reference).targetOf
      name = _ := invariant.targetOf_rekey_fill held reference.target name
  rw [rekey_self (invariant.indexed_of_inSlot? held)] at relabelled
  rw [relabelled]
  split <;> rfl

/-- A rename moves the target from the old name to the new one, and changes no other. -/
theorem targetOf_relabel (invariant : store.Invariant) {oldName newName : String} {slot : Nat}
    {target : Target} (held : store.inSlot? slot = some ⟨oldName, target⟩)
    (different : oldName ≠ newName) (name : String) :
    (store.relabel oldName newName slot target).targetOf name =
      if newName = name then some target
      else if oldName = name then none
      else store.targetOf name := by
  have stillHeld :=
    (invariant.inSlot?_displace (invariant.indexed_of_inSlot? held) different).trans held
  rw [Store.relabel, (invariant.displace newName).targetOf_rekey_fill stillHeld,
    invariant.targetOf_displace]
  by_cases same : newName = name <;> simp [same]

/-- A write that has succeeded gives its name the new target, whether or not it was in use. -/
theorem targetOf_write (invariant : store.Invariant) {next : Store} {reference : Reference}
    {force : Bool} {expected : Option Target}
    (written : store.write reference force expected = (.ok (), next)) (name : String) :
    next.targetOf name =
      if reference.name = name then some reference.target else store.targetOf name := by
  rcases write_cases invariant reference force expected with
    ⟨error, failed, _⟩ | ⟨other, succeeded, change⟩
  · cases failed.symm.trans written
  · cases succeeded.symm.trans written
    cases change with
    | created checked absent => exact invariant.targetOf_insertNew reference name
    | replaced checked held current => exact invariant.targetOf_fill held name
    | asked readsOnly => cases readsOnly

end Invariant
end NamedRefs.Store

/-
Module: NamedRefs.Proofs.Store.Slots
Purpose: What each elementary change makes of the slots, the vacant slots and the index.
Main exports: Store.openSlot, Store.slots_insertNew, Store.slots_unlink, Store.slots_fill,
  Store.Invariant.occupied, Store.Invariant.name_eq, Store.Invariant.find?_eq_some_iff,
  Store.Invariant.inSlot?_displace
-/
import NamedRefs.Store.Call

namespace NamedRefs.Store

/-!
Every change of a store is made of four elementary ones: `insertNew` opens a slot, `unlink` vacates
one, `fill` replaces what a slot holds and `rekey` moves an entry of the index.  The equations below
say slot by slot and name by name what each of them does, so that later proofs need not look at
arrays or trees.
-/

/-- The slot that the next new reference goes to. -/
def openSlot (store : Store) : Nat :=
  store.vacant.headD store.slots.size

/-! ### Reading a consistent store -/

/-- A slot holds a reference when it is there and is not vacant. -/
theorem inSlot?_eq_some_iff {store : Store} {slot : Nat} {reference : Reference} :
    store.inSlot? slot = some reference ↔ store.slots[slot]? = some (some reference) := by
  simp [inSlot?, Option.join_eq_some_iff]

/-- A slot that holds a reference is one of the store. -/
theorem lt_size_of_inSlot? {store : Store} {slot : Nat} {reference : Reference}
    (held : store.inSlot? slot = some reference) : slot < store.slots.size :=
  (Array.getElem?_eq_some_iff.mp (inSlot?_eq_some_iff.mp held)).1

/-- The references of a store are those its slots hold. -/
theorem mem_references_iff {store : Store} {reference : Reference} :
    reference ∈ store.references ↔ ∃ slot, store.inSlot? slot = some reference := by
  rw [references, List.mem_filterMap]
  simp only [inSlot?_eq_some_iff, id_eq, exists_eq_right, Array.mem_toList_iff,
    Array.mem_iff_getElem?]

/-- A name in use is one the index leads on from. -/
theorem contains_eq_true_iff {store : Store} {name : String} :
    store.contains name = true ↔ ∃ slot, store.index[name]? = some slot := by
  rw [contains, Std.ExtTreeMap.contains_eq_isSome_getElem?, Option.isSome_iff_exists]

/-- A name not in use is one the index has no entry for. -/
theorem contains_eq_false_iff {store : Store} {name : String} :
    store.contains name = false ↔ store.index[name]? = none := by
  rw [contains, Std.ExtTreeMap.contains_eq_isSome_getElem?, Option.isSome_eq_false_iff,
    Option.isNone_iff_eq_none]

namespace Invariant

variable {store : Store}

/-- An indexed slot holds a reference of exactly the indexed name. -/
theorem occupied (invariant : store.Invariant) {name : String} {slot : Nat}
    (indexed : store.index[name]? = some slot) :
    ∃ target, store.inSlot? slot = some ⟨name, target⟩ := by
  rcases invariant.indexed name slot indexed with ⟨target, held⟩
  exact ⟨target, inSlot?_eq_some_iff.mpr held⟩

/-- What a slot holds is indexed under its own name. -/
theorem indexed_of_inSlot? (invariant : store.Invariant) {slot : Nat} {name : String}
    {target : Target} (held : store.inSlot? slot = some ⟨name, target⟩) :
    store.index[name]? = some slot :=
  invariant.found slot ⟨name, target⟩ (inSlot?_eq_some_iff.mp held)

/-- A name that is held in a slot is in use. -/
theorem contains_of_inSlot? (invariant : store.Invariant) {slot : Nat} {name : String}
    {target : Target} (held : store.inSlot? slot = some ⟨name, target⟩) :
    store.contains name = true :=
  contains_eq_true_iff.mpr ⟨slot, invariant.indexed_of_inSlot? held⟩

/-- Two names never share a slot. -/
theorem name_eq (invariant : store.Invariant) {first second : String} {slot : Nat}
    (one : store.index[first]? = some slot) (two : store.index[second]? = some slot) :
    first = second := by
  rcases invariant.occupied one with ⟨firstTarget, firstHeld⟩
  rcases invariant.occupied two with ⟨secondTarget, secondHeld⟩
  rw [firstHeld] at secondHeld
  cases secondHeld
  rfl

/-- The slots of two names are different. -/
theorem slot_ne (invariant : store.Invariant) {name other : String} {slot otherSlot : Nat}
    {target : Target} (held : store.inSlot? slot = some ⟨name, target⟩)
    (otherIndexed : store.index[other]? = some otherSlot) (different : name ≠ other) :
    otherSlot ≠ slot := by
  rintro rfl
  exact different (invariant.name_eq (invariant.indexed_of_inSlot? held) otherIndexed)

/-- The names of two slots are different. -/
theorem name_ne (invariant : store.Invariant) {name other : String} {slot otherSlot : Nat}
    {target : Target} (held : store.inSlot? slot = some ⟨name, target⟩)
    (otherIndexed : store.index[other]? = some otherSlot) (apart : otherSlot ≠ slot) :
    name ≠ other := by
  rintro rfl
  rw [invariant.indexed_of_inSlot? held] at otherIndexed
  exact apart (Option.some.inj otherIndexed).symm

/-- Two slots never hold references of the same name. -/
theorem slot_eq (invariant : store.Invariant) {first second : Nat}
    {firstReference secondReference : Reference}
    (one : store.inSlot? first = some firstReference)
    (two : store.inSlot? second = some secondReference)
    (sameName : firstReference.name = secondReference.name) : first = second := by
  have indexed := invariant.indexed_of_inSlot? one
  rw [sameName, invariant.indexed_of_inSlot? two] at indexed
  exact (Option.some.inj indexed).symm

/-- A name is found exactly when some slot holds a reference of that name. -/
theorem find?_eq_some_iff (invariant : store.Invariant) {name : String} {reference : Reference} :
    store.find? name = some reference ↔
      reference.name = name ∧ ∃ slot, store.inSlot? slot = some reference := by
  rw [find?, Option.bind_eq_some_iff]
  constructor
  · rintro ⟨slot, indexed, held⟩
    obtain ⟨target, occupied⟩ := invariant.occupied indexed
    rw [held] at occupied
    cases occupied
    exact ⟨rfl, slot, held⟩
  · rintro ⟨rfl, slot, held⟩
    exact ⟨slot, invariant.indexed_of_inSlot? held, held⟩

/-- What a slot holds is what looking its name up gives. -/
theorem lookup_of_inSlot? (invariant : store.Invariant) {slot : Nat} {name : String}
    {target : Target} (held : store.inSlot? slot = some ⟨name, target⟩) :
    store.lookup name = .ok ⟨name, target⟩ :=
  lookup_eq_ok_iff.mpr (invariant.find?_eq_some_iff.mpr ⟨rfl, slot, held⟩)

/-- The open slot holds nothing. -/
theorem inSlot?_openSlot (invariant : store.Invariant) : store.inSlot? store.openSlot = none := by
  unfold openSlot
  cases vacantEq : store.vacant with
  | nil => simp [inSlot?]
  | cons slot rest =>
      have member : slot ∈ store.vacant := by simp [vacantEq]
      simp [inSlot?, (invariant.mem_vacant slot).mp member]

/-- What is left of the vacant slots when the open one is taken. -/
theorem mem_tail_vacant (invariant : store.Invariant) (slot : Nat) :
    slot ∈ store.vacant.tail ↔ slot ∈ store.vacant ∧ slot ≠ store.openSlot := by
  have distinct := invariant.vacant_nodup
  unfold openSlot
  cases vacantEq : store.vacant with
  | nil => simp
  | cons first rest =>
      rw [vacantEq] at distinct
      have unlisted : first ∉ rest := (List.nodup_cons.mp distinct).1
      constructor
      · intro member
        refine ⟨List.mem_cons_of_mem first member, ?_⟩
        rintro rfl
        exact unlisted member
      · rintro ⟨member, different⟩
        exact (List.mem_cons.mp member).resolve_left different

/-- The slot of a name is not open. -/
theorem ne_openSlot (invariant : store.Invariant) {name : String} {slot : Nat}
    (indexed : store.index[name]? = some slot) : slot ≠ store.openSlot := by
  rintro rfl
  obtain ⟨target, held⟩ := invariant.occupied indexed
  rw [invariant.inSlot?_openSlot] at held
  contradiction

end Invariant

private theorem getElem?_setIfInBounds_of_lt {slots : Array (Option Reference)} {slot : Nat}
    (inBounds : slot < slots.size) (content : Option Reference) (other : Nat) :
    (slots.setIfInBounds slot content)[other]? =
      if other = slot then some content else slots[other]? := by
  rw [Array.getElem?_setIfInBounds]
  by_cases same : other = slot
  · subst same
    simp [inBounds]
  · rw [if_neg (Ne.symm same), if_neg same]

/-! ### Opening a slot -/

@[simp] theorem config_insertNew (store : Store) (reference : Reference) :
    (store.insertNew reference).config = store.config := by
  unfold insertNew
  split <;> rfl

@[simp] theorem vacant_insertNew (store : Store) (reference : Reference) :
    (store.insertNew reference).vacant = store.vacant.tail := by
  unfold insertNew
  split <;> simp_all

@[simp] theorem index_insertNew (store : Store) (reference : Reference) :
    (store.insertNew reference).index = store.index.insert reference.name store.openSlot := by
  unfold insertNew openSlot
  split <;> simp_all

/-- A new reference is indexed at the slot it takes, and the other names are as before. -/
theorem getElem?_index_insertNew (store : Store) (reference : Reference) (name : String) :
    (store.insertNew reference).index[name]? =
      if reference.name = name then some store.openSlot else store.index[name]? := by
  simp [Std.ExtTreeMap.getElem?_insert]

/-- A new reference goes to the open slot, wherever that is; all other slots stay. -/
theorem slots_insertNew {store : Store} (invariant : store.Invariant) (reference : Reference)
    (slot : Nat) :
    (store.insertNew reference).slots[slot]? =
      if slot = store.openSlot then some (some reference) else store.slots[slot]? := by
  unfold insertNew openSlot
  cases vacantEq : store.vacant with
  | nil => simp [Array.getElem?_push]
  | cons first rest =>
      have member : first ∈ store.vacant := by simp [vacantEq]
      have ⟨inBounds, _⟩ :=
        Array.getElem?_eq_some_iff.mp ((invariant.mem_vacant first).mp member)
      exact getElem?_setIfInBounds_of_lt inBounds (some reference) slot

/-! ### Vacating a slot -/

@[simp] theorem config_unlink (store : Store) (name : String) (slot : Nat) :
    (store.unlink name slot).config = store.config := rfl

@[simp] theorem vacant_unlink (store : Store) (name : String) (slot : Nat) :
    (store.unlink name slot).vacant = slot :: store.vacant := rfl

@[simp] theorem index_unlink (store : Store) (name : String) (slot : Nat) :
    (store.unlink name slot).index = store.index.erase name := rfl

/-- A slot given up takes the index entry of its name with it, and no other. -/
theorem getElem?_index_unlink (store : Store) (name : String) (slot : Nat) (other : String) :
    (store.unlink name slot).index[other]? =
      if name = other then none else store.index[other]? := by
  simp [Std.ExtTreeMap.getElem?_erase]

/-- A slot given up is vacant, and the others are as before. -/
theorem slots_unlink {store : Store} {slot : Nat} (inBounds : slot < store.slots.size)
    (name : String) (other : Nat) :
    (store.unlink name slot).slots[other]? =
      if other = slot then some none else store.slots[other]? :=
  getElem?_setIfInBounds_of_lt inBounds none other

/-! ### Replacing what a slot holds -/

@[simp] theorem config_fill (store : Store) (slot : Nat) (reference : Reference) :
    (store.fill slot reference).config = store.config := rfl

@[simp] theorem vacant_fill (store : Store) (slot : Nat) (reference : Reference) :
    (store.fill slot reference).vacant = store.vacant := rfl

@[simp] theorem index_fill (store : Store) (slot : Nat) (reference : Reference) :
    (store.fill slot reference).index = store.index := rfl

/-- A slot filled anew holds the new reference, and the others are as before. -/
theorem slots_fill {store : Store} {slot : Nat} (inBounds : slot < store.slots.size)
    (reference : Reference) (other : Nat) :
    (store.fill slot reference).slots[other]? =
      if other = slot then some (some reference) else store.slots[other]? :=
  getElem?_setIfInBounds_of_lt inBounds (some reference) other

/-- Putting back what a slot holds changes nothing. -/
theorem fill_self {store : Store} {slot : Nat} {reference : Reference}
    (held : store.inSlot? slot = some reference) : store.fill slot reference = store := by
  have same : (store.fill slot reference).slots = store.slots := by
    apply Array.ext_getElem?
    intro other
    rw [slots_fill (lt_size_of_inSlot? held)]
    split
    · rename_i equal
      rw [equal, inSlot?_eq_some_iff.mp held]
    · rfl
  rcases store with ⟨config, slots, vacant, index⟩
  exact congrArg (fun slots => Store.mk config slots vacant index) same

/-! ### Moving an entry of the index -/

@[simp] theorem config_rekey (store : Store) (oldName newName : String) (slot : Nat) :
    (store.rekey oldName newName slot).config = store.config := rfl

@[simp] theorem slots_rekey (store : Store) (oldName newName : String) (slot : Nat) :
    (store.rekey oldName newName slot).slots = store.slots := rfl

@[simp] theorem vacant_rekey (store : Store) (oldName newName : String) (slot : Nat) :
    (store.rekey oldName newName slot).vacant = store.vacant := rfl

@[simp] theorem index_rekey (store : Store) (oldName newName : String) (slot : Nat) :
    (store.rekey oldName newName slot).index =
      (store.index.erase oldName).insert newName slot := rfl

/-- A new key leads to the slot, the old one nowhere, and the other names are as before. -/
theorem getElem?_index_rekey (store : Store) (oldName newName : String) (slot : Nat)
    (name : String) :
    (store.rekey oldName newName slot).index[name]? =
      if newName = name then some slot
      else if oldName = name then none
      else store.index[name]? := by
  simp [Std.ExtTreeMap.getElem?_insert, Std.ExtTreeMap.getElem?_erase]

/-- Moving an entry of the index does not show in the slots. -/
theorem slots_rekey_fill {store : Store} {slot : Nat} (inBounds : slot < store.slots.size)
    (oldName newName : String) (reference : Reference) (other : Nat) :
    ((store.rekey oldName newName slot).fill slot reference).slots[other]? =
      if other = slot then some (some reference) else store.slots[other]? :=
  slots_fill inBounds reference other

/-- Taking an entry out and putting it back. -/
theorem insert_erase_self {Value : Type} {entries : Std.ExtTreeMap String Value compare}
    {name : String} {value : Value} (known : entries[name]? = some value) :
    (entries.erase name).insert name value = entries := by
  apply Std.ExtTreeMap.ext_getElem?
  intro other
  rw [Std.ExtTreeMap.getElem?_insert, Std.ExtTreeMap.getElem?_erase]
  by_cases same : name = other <;> simp_all

/-- A key in place of itself changes nothing. -/
theorem rekey_self {store : Store} {name : String} {slot : Nat}
    (indexed : store.index[name]? = some slot) : store.rekey name name slot = store := by
  rw [rekey, insert_erase_self indexed]

/-! ### Making room for a name -/

@[simp] theorem config_displace (store : Store) (name : String) :
    (store.displace name).config = store.config := by
  unfold displace
  split <;> rfl

/-- Afterwards the name is free and no other entry has changed. -/
theorem index_displace (store : Store) (name : String) :
    (store.displace name).index = store.index.erase name := by
  unfold displace
  split
  · rename_i absent
    apply Std.ExtTreeMap.ext_getElem?
    intro other
    rw [Std.ExtTreeMap.getElem?_erase]
    by_cases same : name = other <;> simp_all
  · rfl

/-- Making room for a name takes its own index entry, and no other. -/
theorem getElem?_index_displace (store : Store) (name other : String) :
    (store.displace name).index[other]? =
      if name = other then none else store.index[other]? := by
  simp [index_displace, Std.ExtTreeMap.getElem?_erase]

/-- Making room for one name leaves the slot of another as it was. -/
theorem Invariant.inSlot?_displace {store : Store} (invariant : store.Invariant)
    {name other : String} {slot : Nat} (indexed : store.index[other]? = some slot)
    (different : other ≠ name) : (store.displace name).inSlot? slot = store.inSlot? slot := by
  unfold displace
  cases victimEq : store.index[name]? with
  | none => rfl
  | some victim =>
      obtain ⟨target, held⟩ := invariant.occupied victimEq
      have apart : slot ≠ victim := invariant.slot_ne held indexed different.symm
      simp only [inSlot?]
      rw [slots_unlink (lt_size_of_inSlot? held), if_neg apart]

end NamedRefs.Store

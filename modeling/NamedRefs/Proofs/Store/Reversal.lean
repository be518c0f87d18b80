/-
Module: NamedRefs.Proofs.Store.Reversal
Purpose: Calls that take another call back, and what they leave behind of it.
Main exports: Store.eq_of_entries, Store.Invariant.insertNew_unlink, Store.Invariant.relabel_relabel,
  Store.Invariant.unlink_insertNew, Store.Invariant.unlink_insertNew_of_full,
  Store.changes_can_be_taken_back
-/
import NamedRefs.Proofs.Store.Admission

namespace NamedRefs.Store

/-!
To take a change back is more than to restore the names and their targets: the reference has to come
back to its own slot, and the vacant slots to their old order.  Both follow from the slot vacated last
being the one that is filled first.  One trace stays where a creation had to open a new slot: no call
but `clear` ever closes a slot, so that the slot is vacant afterwards.

The call that takes a change back must also pass the checks.  It does, for it names what was stored,
and a store would take in again whatever it holds.
-/

/-- Stores with the same settings and the same vacant slots are equal when they agree slot by slot and
name by name. -/
theorem eq_of_entries {first second : Store} (sameConfig : first.config = second.config)
    (sameVacant : first.vacant = second.vacant)
    (sameSlots : ∀ slot : Nat, first.slots[slot]? = second.slots[slot]?)
    (sameIndex : ∀ name : String, first.index[name]? = second.index[name]?) : first = second := by
  rcases first with ⟨config, slots, vacant, index⟩
  rcases second with ⟨_, otherSlots, _, otherIndex⟩
  have equalSlots : slots = otherSlots := Array.ext_getElem? sameSlots
  have equalIndex : index = otherIndex := Std.ExtTreeMap.ext_getElem? sameIndex
  cases sameConfig
  cases sameVacant
  rw [equalSlots, equalIndex]

/-! ### Elementary changes -/

/-- Of two references put into the same slot the second one is left. -/
theorem fill_fill (store : Store) (slot : Nat) (first second : Reference) :
    (store.fill slot first).fill slot second = store.fill slot second := by
  simp [fill]

/-- A rename to a free name has no reference to displace. -/
theorem relabel_of_free {store : Store} {newName : String} (free : store.index[newName]? = none)
    (oldName : String) (slot : Nat) (target : Target) :
    store.relabel oldName newName slot target =
      (store.rekey oldName newName slot).fill slot ⟨newName, target⟩ := by
  simp [relabel, displace, free]

namespace Invariant

variable {store : Store}

/-- A slot that was vacated is the open one, so that its reference comes back to it. -/
theorem insertNew_unlink (invariant : store.Invariant) {name : String} {slot : Nat}
    {target : Target} (held : store.inSlot? slot = some ⟨name, target⟩) :
    (store.unlink name slot).insertNew ⟨name, target⟩ = store := by
  have opened : (store.unlink name slot).openSlot = slot := rfl
  apply eq_of_entries
  case sameConfig => simp
  case sameVacant => simp
  case sameSlots =>
    intro other
    rw [slots_insertNew (invariant.unlink held), opened, slots_unlink (lt_size_of_inSlot? held)]
    by_cases same : other = slot
    · rw [if_pos same, same, inSlot?_eq_some_iff.mp held]
    · rw [if_neg same, if_neg same]
  case sameIndex =>
    intro other
    rw [index_insertNew, opened, index_unlink,
      insert_erase_self (invariant.indexed_of_inSlot? held)]

/-- A slot that is relabelled holds its reference under the new name. -/
theorem inSlot?_relabel (invariant : store.Invariant) {oldName newName : String} {slot : Nat}
    {target : Target} (held : store.inSlot? slot = some ⟨oldName, target⟩)
    (different : oldName ≠ newName) :
    (store.relabel oldName newName slot target).inSlot? slot = some ⟨newName, target⟩ := by
  have stillHeld :=
    (invariant.inSlot?_displace (invariant.indexed_of_inSlot? held) different).trans held
  rw [inSlot?_eq_some_iff, Store.relabel, slots_rekey_fill (lt_size_of_inSlot? stillHeld),
    if_pos rfl]

/-- A slot that got a name that was free gets its old name back. -/
theorem relabel_relabel (invariant : store.Invariant) {oldName newName : String} {slot : Nat}
    {target : Target} (held : store.inSlot? slot = some ⟨oldName, target⟩)
    (different : oldName ≠ newName) (free : store.index[newName]? = none) :
    (store.relabel oldName newName slot target).relabel newName oldName slot target = store := by
  have left : (store.relabel oldName newName slot target).index[oldName]? = none := by
    rw [getElem?_index_relabel, if_neg different.symm, if_pos rfl]
  apply eq_of_entries
  case sameConfig => simp [Store.relabel]
  case sameVacant =>
    rw [relabel_of_free left, relabel_of_free free]
    simp
  case sameSlots =>
    intro other
    have relabelled := invariant.inSlot?_relabel held different
    rw [relabel_of_free left, slots_rekey_fill (lt_size_of_inSlot? relabelled),
      relabel_of_free free, slots_rekey_fill (lt_size_of_inSlot? held)]
    by_cases same : other = slot
    · rw [if_pos same, same, inSlot?_eq_some_iff.mp held]
    · rw [if_neg same, if_neg same]
  case sameIndex =>
    intro name
    rw [getElem?_index_relabel, getElem?_index_relabel]
    by_cases old : oldName = name
    · rw [if_pos old, ← old, invariant.indexed_of_inSlot? held]
    · rw [if_neg old]
      by_cases new : newName = name
      · rw [if_pos new, ← new, free]
      · rw [if_neg new, if_neg new, if_neg old]

/-- Removing a reference under a name that was free before leaves the index as it was. -/
theorem getElem?_index_unlink_insertNew {reference : Reference}
    (absent : store.index[reference.name]? = none) (name : String) :
    ((store.insertNew reference).unlink reference.name store.openSlot).index[name]? =
      store.index[name]? := by
  rw [getElem?_index_unlink, getElem?_index_insertNew]
  by_cases same : reference.name = name
  · rw [if_pos same, ← same, absent]
  · rw [if_neg same, if_neg same]

/-- Removing a new reference makes its slot the open one again. -/
theorem unlink_insertNew (invariant : store.Invariant) {reference : Reference}
    (absent : store.index[reference.name]? = none) (vacant : store.vacant ≠ []) :
    (store.insertNew reference).unlink reference.name store.openSlot = store := by
  obtain ⟨slot, rest, vacantEq⟩ := List.exists_cons_of_ne_nil vacant
  have opened : store.openSlot = slot := by simp [openSlot, vacantEq]
  have wasVacant : store.slots[slot]? = some none :=
    (invariant.mem_vacant slot).mp (by simp [vacantEq])
  have filled : (store.insertNew reference).inSlot? slot = some reference := by
    rw [inSlot?_eq_some_iff, slots_insertNew invariant, opened, if_pos rfl]
  apply eq_of_entries
  case sameConfig => simp
  case sameVacant => simp [opened, vacantEq]
  case sameSlots =>
    intro other
    rw [opened, slots_unlink (lt_size_of_inSlot? filled), slots_insertNew invariant, opened]
    by_cases same : other = slot
    · rw [if_pos same, same, wasVacant]
    · rw [if_neg same, if_neg same]
  case sameIndex => exact getElem?_index_unlink_insertNew absent

/-- Removing a new reference for which a slot was opened leaves this slot behind. -/
theorem unlink_insertNew_of_full (invariant : store.Invariant) {reference : Reference}
    (absent : store.index[reference.name]? = none) (full : store.vacant = []) :
    (store.insertNew reference).unlink reference.name store.openSlot =
      { store with slots := store.slots.push none, vacant := [store.slots.size] } := by
  have opened : store.openSlot = store.slots.size := by simp [openSlot, full]
  have filled : (store.insertNew reference).inSlot? store.slots.size = some reference := by
    rw [inSlot?_eq_some_iff, slots_insertNew invariant, opened, if_pos rfl]
  apply eq_of_entries
  case sameConfig => simp
  case sameVacant => simp [opened, full]
  case sameSlots =>
    intro other
    rw [opened, slots_unlink (lt_size_of_inSlot? filled), slots_insertNew invariant, opened,
      Array.getElem?_push]
    by_cases same : other = store.slots.size
    · rw [if_pos same, if_pos same]
    · rw [if_neg same, if_neg same, if_neg same]
  case sameIndex => exact getElem?_index_unlink_insertNew absent

/-! ### Calls -/

/-- A reference that was deleted can be created again. -/
theorem write_after_delete (invariant : store.Invariant) (admits : store.AdmitsContents)
    {name : String} {expected : Option Target} {next : Store}
    (deleted : store.delete name expected = (.ok (), next)) :
    ∃ reference, store.lookup name = .ok reference ∧
      ∀ force, next.write reference force none = (.ok (), store) := by
  obtain ⟨slot, target, held, rfl⟩ := invariant.delete_of_ok deleted
  refine ⟨⟨name, target⟩, invariant.lookup_of_inSlot? held, fun force => ?_⟩
  have absent : (store.unlink name slot).index[name]? = none := by
    rw [getElem?_index_unlink, if_pos rfl]
  have checked : checkReference (store.unlink name slot).config ⟨name, target⟩ = .ok () :=
    invariant.checkReference_of_inSlot? admits held
  rw [write_of_absent checked absent, invariant.insertNew_unlink held]
  rfl

/-- A reference that was renamed can be renamed back, if no other one had to make room. -/
theorem rename_after_rename (invariant : store.Invariant) (admits : store.AdmitsContents)
    {oldName newName : String} {force : Bool} {renamed : Reference} {next : Store}
    (different : oldName ≠ newName) (free : store.contains newName = false)
    (moved : store.rename oldName newName force = (.ok renamed, next)) :
    ∃ original, store.lookup oldName = .ok original ∧
      ∀ force, next.rename newName oldName force = (.ok original, store) := by
  obtain ⟨slot, target, held, rfl, rfl⟩ := invariant.rename_of_ok different moved
  refine ⟨⟨oldName, target⟩, invariant.lookup_of_inSlot? held, fun force => ?_⟩
  have nextInvariant := invariant.relabel held different
  have relabelled := invariant.inSlot?_relabel held different
  have left : (store.relabel oldName newName slot target).contains oldName = false := by
    rw [contains_eq_false_iff, getElem?_index_relabel, if_neg different.symm, if_pos rfl]
  have admitted := invariant.admitted_of_lookup admits (invariant.lookup_of_inSlot? held)
  have checked : checkName (store.relabel oldName newName slot target).config oldName = .ok () := by
    rw [Store.relabel, config_fill, config_rekey, config_displace]
    exact checkName_eq_ok_iff.mpr admitted.name
  rw [rename_of_present nextInvariant checked (by simp [left]) different.symm
    (nextInvariant.indexed_of_inSlot? relabelled) relabelled,
    invariant.relabel_relabel held different (contains_eq_false_iff.mp free)]

/-- A target that was replaced can be put back, also with the token that its replacement needs. -/
theorem write_after_write (invariant : store.Invariant) (admits : store.AdmitsContents)
    {reference old : Reference} {expected : Option Target} {next : Store}
    (looked : store.lookup reference.name = .ok old)
    (written : store.write reference true expected = (.ok (), next)) {token : Option Target}
    (fits : token = none ∨ token = some reference.target) :
    next.write old true token = (.ok (), store) := by
  obtain ⟨sameName, slot, held⟩ := invariant.find?_eq_some_iff.mp (lookup_eq_ok_iff.mp looked)
  rcases old with ⟨_, live⟩
  subst sameName
  cases invariant.write_of_held held written
  have replaced : (store.fill slot reference).inSlot? slot = some reference := by
    rw [inSlot?_eq_some_iff, slots_fill (lt_size_of_inSlot? held), if_pos rfl]
  have checked : checkReference (store.fill slot reference).config ⟨reference.name, live⟩ = .ok () :=
    invariant.checkReference_of_inSlot? admits held
  have indexed : (store.fill slot reference).index[reference.name]? = some slot :=
    invariant.indexed_of_inSlot? held
  rw [write_of_present checked indexed replaced, isStale_eq_false_iff.mpr fits, fill_fill,
    fill_self held]
  rfl

/-- A new reference can be deleted, also with the token that it needs. -/
theorem delete_after_write (invariant : store.Invariant) {reference : Reference} {force : Bool}
    {expected : Option Target} {next : Store}
    (written : store.write reference force expected = (.ok (), next))
    (free : store.contains reference.name = false) {token : Option Target}
    (fits : token = none ∨ token = some reference.target) :
    next.delete reference.name token =
      (.ok (), (store.insertNew reference).unlink reference.name store.openSlot) := by
  cases invariant.write_of_free written free
  have indexed : (store.insertNew reference).index[reference.name]? = some store.openSlot := by
    rw [getElem?_index_insertNew, if_pos rfl]
  have filled : (store.insertNew reference).inSlot? store.openSlot = some reference := by
    rw [inSlot?_eq_some_iff, slots_insertNew invariant, if_pos rfl]
  rw [delete_of_present indexed filled, isStale_eq_false_iff.mpr fits]
  rfl

end Invariant

/-- In every store that calls lead to, a change can be taken back so that nothing of it shows in any
part of the store: a deletion by creating the reference again, a rename to a free name by renaming
back, an overwriting by writing the old reference by force.  A creation is taken back by a deletion,
which restores the store if some slot was vacant; otherwise the slot that had to be opened stays, as
the last one and the only vacant one. -/
theorem changes_can_be_taken_back (config : StoreConfig) (calls : List Call) :
    let store := (empty config).run calls
    (∀ name expected next, store.delete name expected = (.ok (), next) →
      ∃ reference, store.lookup name = .ok reference ∧
        ∀ force, next.write reference force none = (.ok (), store)) ∧
    (∀ oldName newName force renamed next, oldName ≠ newName → store.contains newName = false →
      store.rename oldName newName force = (.ok renamed, next) →
      ∃ original, store.lookup oldName = .ok original ∧
        ∀ force, next.rename newName oldName force = (.ok original, store)) ∧
    (∀ reference old expected next, store.lookup reference.name = .ok old →
      store.write reference true expected = (.ok (), next) →
      ∀ token, token = none ∨ token = some reference.target →
        next.write old true token = (.ok (), store)) ∧
    ∀ reference force expected next, store.contains reference.name = false →
      store.write reference force expected = (.ok (), next) →
      ∀ token, token = none ∨ token = some reference.target →
        ((∃ slot : Nat, store.slots[slot]? = some none) →
          next.delete reference.name token = (.ok (), store)) ∧
        ((∀ slot : Nat, store.slots[slot]? ≠ some none) →
          next.delete reference.name token =
            (.ok (), { store with slots := store.slots.push none, vacant := [store.slots.size] })) := by
  intro store
  have invariant : store.Invariant := (invariant_empty config).run calls
  have admits : store.AdmitsContents :=
    (invariant_empty config).admitsContents_run (admitsContents_empty config) calls
  refine ⟨?deletion, ?rename, ?overwriting, ?creation⟩
  case deletion =>
    intro name expected next deleted
    exact invariant.write_after_delete admits deleted
  case rename =>
    intro oldName newName force renamed next different free moved
    exact invariant.rename_after_rename admits different free moved
  case overwriting =>
    intro reference old expected next looked written token fits
    exact invariant.write_after_write admits looked written fits
  case creation =>
    intro reference force expected next free written token fits
    have absent := contains_eq_false_iff.mp free
    rw [invariant.delete_after_write written free fits]
    constructor
    · rintro ⟨slot, isVacant⟩
      have listed := (invariant.mem_vacant slot).mpr isVacant
      rw [invariant.unlink_insertNew absent (List.ne_nil_of_mem listed)]
    · intro noneVacant
      have full : store.vacant = [] := by
        apply List.eq_nil_iff_forall_not_mem.mpr
        intro slot listed
        exact noneVacant slot ((invariant.mem_vacant slot).mp listed)
      rw [invariant.unlink_insertNew_of_full absent full]

/-- A deletion that is taken back leaves the order of a pass as it was; one that is followed by the
creation of another reference does not. -/
example :
    let calls : List Call := [.write ⟨"a", .symbolic "x"⟩ false none,
      .write ⟨"b", .symbolic "y"⟩ false none, .delete "a" none]
    ((empty .permissive).run (calls ++ [.write ⟨"a", .symbolic "x"⟩ false none])).references =
        [.symbolic "a" "x", .symbolic "b" "y"] ∧
      ((empty .permissive).run (calls ++ [.write ⟨"c", .symbolic "z"⟩ false none,
        .write ⟨"a", .symbolic "x"⟩ false none])).references =
        [.symbolic "c" "z", .symbolic "b" "y", .symbolic "a" "x"] := by
  decide

end NamedRefs.Store

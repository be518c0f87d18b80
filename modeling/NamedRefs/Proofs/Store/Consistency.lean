/-
Module: NamedRefs.Proofs.Store.Consistency
Purpose: The slots, the vacant slots and the index agree in every store that calls lead to.
Main exports: Store.Change.preserves_invariant, Store.Invariant.run, Store.Invariant.of_run,
  Store.Invariant.references_perm, Store.Invariant.keys_perm, Store.Invariant.size_slots,
  Store.run_keeps_slots_and_index_consistent
-/
import Mathlib.Data.List.Nodup
import NamedRefs.Proofs.Store.Change

namespace NamedRefs.Store

/-!
`Store.Invariant` ties the three parts of a store together.  Each elementary change keeps it under
the condition in which the operations make that change: a name is not in use before it is created,
and a slot that is vacated or relabelled holds a reference of the name given up.
-/

namespace Invariant

variable {store : Store}

/-! ### Elementary changes -/

/-- A new reference takes a vacant slot, or the one behind the last, and is indexed there. -/
theorem insertNew (invariant : store.Invariant) {reference : Reference}
    (absent : store.index[reference.name]? = none) : (store.insertNew reference).Invariant where
  indexed := by
    intro name slot indexed
    rw [getElem?_index_insertNew] at indexed
    rw [slots_insertNew invariant]
    by_cases same : reference.name = name
    · rw [if_pos same] at indexed
      cases indexed
      cases same
      exact ⟨reference.target, if_pos rfl⟩
    · rw [if_neg same] at indexed
      obtain ⟨target, held⟩ := invariant.indexed name slot indexed
      exact ⟨target, by rw [if_neg (invariant.ne_openSlot indexed), held]⟩
  found := by
    intro slot other held
    rw [slots_insertNew invariant] at held
    rw [getElem?_index_insertNew]
    by_cases opened : slot = store.openSlot
    · rw [if_pos opened] at held
      cases held
      rw [if_pos rfl, opened]
    · rw [if_neg opened] at held
      have indexed := invariant.found slot other held
      have different : reference.name ≠ other.name := by
        intro same
        rw [← same, absent] at indexed
        contradiction
      rw [if_neg different, indexed]
  vacant_nodup := by
    rw [vacant_insertNew]
    exact invariant.vacant_nodup.tail
  mem_vacant := by
    intro slot
    rw [vacant_insertNew, slots_insertNew invariant, invariant.mem_tail_vacant,
      invariant.mem_vacant slot]
    by_cases opened : slot = store.openSlot <;> simp [opened]

/-- A slot that is given up becomes vacant, and its name leaves the index with it. -/
theorem unlink (invariant : store.Invariant) {name : String} {slot : Nat} {target : Target}
    (held : store.inSlot? slot = some ⟨name, target⟩) : (store.unlink name slot).Invariant where
  indexed := by
    intro other otherSlot otherIndexed
    rw [getElem?_index_unlink] at otherIndexed
    rw [slots_unlink (lt_size_of_inSlot? held)]
    by_cases same : name = other
    · rw [if_pos same] at otherIndexed
      contradiction
    · rw [if_neg same] at otherIndexed
      obtain ⟨otherTarget, otherHeld⟩ := invariant.indexed other otherSlot otherIndexed
      have apart := invariant.slot_ne held otherIndexed same
      exact ⟨otherTarget, by rw [if_neg apart, otherHeld]⟩
  found := by
    intro otherSlot other otherHeld
    rw [slots_unlink (lt_size_of_inSlot? held)] at otherHeld
    by_cases vacated : otherSlot = slot
    · rw [if_pos vacated] at otherHeld
      cases otherHeld
    · rw [if_neg vacated] at otherHeld
      have otherIndexed := invariant.found otherSlot other otherHeld
      have different : name ≠ other.name := invariant.name_ne held otherIndexed vacated
      rw [getElem?_index_unlink, if_neg different, otherIndexed]
  vacant_nodup := by
    have listed := invariant.mem_vacant slot
    have occupied := inSlot?_eq_some_iff.mp held
    have unlisted : slot ∉ store.vacant := by simp [listed, occupied]
    exact List.nodup_cons.mpr ⟨unlisted, invariant.vacant_nodup⟩
  mem_vacant := by
    intro other
    rw [vacant_unlink, slots_unlink (lt_size_of_inSlot? held), List.mem_cons,
      invariant.mem_vacant other]
    by_cases same : other = slot <;> simp [same]

/-- A slot gets a new name that is not in use elsewhere, and any target. -/
theorem rekey_fill (invariant : store.Invariant) {oldName newName : String} {slot : Nat}
    {live : Target} (held : store.inSlot? slot = some ⟨oldName, live⟩)
    (free : ∀ other, store.index[newName]? = some other → other = slot) (target : Target) :
    ((store.rekey oldName newName slot).fill slot ⟨newName, target⟩).Invariant where
  indexed := by
    intro name otherSlot indexed
    rw [index_fill, getElem?_index_rekey] at indexed
    rw [slots_rekey_fill (lt_size_of_inSlot? held)]
    by_cases same : newName = name
    · rw [if_pos same] at indexed
      cases indexed
      cases same
      exact ⟨target, if_pos rfl⟩
    · rw [if_neg same] at indexed
      by_cases old : oldName = name
      · rw [if_pos old] at indexed
        contradiction
      · rw [if_neg old] at indexed
        obtain ⟨otherTarget, otherHeld⟩ := invariant.indexed name otherSlot indexed
        have apart := invariant.slot_ne held indexed old
        exact ⟨otherTarget, by rw [if_neg apart, otherHeld]⟩
  found := by
    intro otherSlot other otherHeld
    rw [slots_rekey_fill (lt_size_of_inSlot? held)] at otherHeld
    rw [index_fill, getElem?_index_rekey]
    by_cases relabelled : otherSlot = slot
    · rw [if_pos relabelled] at otherHeld
      cases otherHeld
      rw [if_pos rfl, relabelled]
    · rw [if_neg relabelled] at otherHeld
      have otherIndexed := invariant.found otherSlot other otherHeld
      -- A reference elsewhere cannot have the new name, for only this slot may have had it.
      have notNew : newName ≠ other.name := by
        intro same
        rw [← same] at otherIndexed
        exact relabelled (free otherSlot otherIndexed)
      have notOld : oldName ≠ other.name := invariant.name_ne held otherIndexed relabelled
      rw [if_neg notNew, if_neg notOld, otherIndexed]
  vacant_nodup := invariant.vacant_nodup
  mem_vacant := by
    intro other
    have occupied := inSlot?_eq_some_iff.mp held
    rw [vacant_fill, vacant_rekey, slots_rekey_fill (lt_size_of_inSlot? held),
      invariant.mem_vacant other]
    by_cases same : other = slot
    · simp [same, occupied]
    · rw [if_neg same]

/-- Replacing a target in place is relabelling a slot with the name that it has. -/
theorem fill (invariant : store.Invariant) {reference : Reference} {slot : Nat} {live : Target}
    (held : store.inSlot? slot = some ⟨reference.name, live⟩) :
    (store.fill slot reference).Invariant := by
  have indexed := invariant.indexed_of_inSlot? held
  have relabelled := invariant.rekey_fill held
    (fun other otherIndexed => Option.some.inj (otherIndexed.symm.trans indexed)) reference.target
  rw [rekey_self indexed] at relabelled
  exact relabelled

/-- Making room for a name gives up one reference at most. -/
theorem displace (invariant : store.Invariant) (name : String) :
    (store.displace name).Invariant := by
  unfold Store.displace
  cases indexed : store.index[name]? with
  | none => exact invariant
  | some slot =>
      obtain ⟨target, held⟩ := invariant.occupied indexed
      exact invariant.unlink held

/-- A renamed reference keeps its slot, and the index leads to it by the new name. -/
theorem relabel (invariant : store.Invariant) {oldName newName : String} {slot : Nat}
    {target : Target} (held : store.inSlot? slot = some ⟨oldName, target⟩)
    (different : oldName ≠ newName) :
    (store.relabel oldName newName slot target).Invariant := by
  have indexed := invariant.indexed_of_inSlot? held
  have stillHeld := (invariant.inSlot?_displace indexed different).trans held
  refine (invariant.displace newName).rekey_fill stillHeld ?_ target
  intro other used
  rw [getElem?_index_displace, if_pos rfl] at used
  contradiction

end Invariant

/-! ### Calls and runs -/

/-- Every change a call can make keeps slots, vacancies and index in step. -/
theorem Change.preserves_invariant {store next : Store} {call : Call}
    (change : Change store call next) (invariant : store.Invariant) : next.Invariant := by
  cases change with
  | created checked absent => exact invariant.insertNew absent
  | replaced checked held current => exact invariant.fill held
  | removed held current => exact invariant.unlink held
  | moved checked free different held => exact invariant.relabel held different
  | stayed checked used => exact invariant
  | cleared => exact invariant_empty store.config
  | asked readsOnly => exact invariant

namespace Invariant

variable {store : Store}

/-- What all changes of a store bring about or keep, any call keeps. -/
theorem of_perform {motive : Store → Prop} (invariant : store.Invariant) (holds : motive store)
    (kept : ∀ call next, Change store call next → motive next) (call : Call) :
    motive (store.perform call).2 := by
  rcases perform_cases invariant call with ⟨error, failed⟩ | ⟨answer, next, succeeded, change⟩
  · rw [failed]
    exact holds
  · rw [succeeded]
    exact kept call next change

/-- One call keeps the invariant, whatever it answers. -/
theorem perform (invariant : store.Invariant) (call : Call) :
    (store.perform call).2.Invariant := by
  apply invariant.of_perform invariant
  intro call next change
  exact change.preserves_invariant invariant

/-- A run of calls keeps the invariant, by induction on the calls. -/
theorem run (invariant : store.Invariant) (calls : List Call) : (store.run calls).Invariant := by
  induction calls generalizing store with
  | nil => exact invariant
  | cons call calls inductionHypothesis => exact inductionHypothesis (invariant.perform call)

/-- What all changes of consistent stores keep, any run keeps. -/
theorem of_run {motive : Store → Prop} (invariant : store.Invariant) (holds : motive store)
    (kept : ∀ current call next, current.Invariant → motive current → Change current call next →
      motive next) (calls : List Call) : motive (store.run calls) := by
  induction calls generalizing store with
  | nil => exact holds
  | cons call calls inductionHypothesis =>
      apply inductionHypothesis (invariant.perform call)
      exact invariant.of_perform holds (fun call next => kept store call next invariant holds) call

/-! ### Counting slots -/

/-- The vacant slots are the positions of the array that hold nothing, in some order. -/
theorem length_vacant (invariant : store.Invariant) :
    store.vacant.length = store.slots.countP Option.isNone := by
  have listed : store.vacant.Perm (store.slots.toList.findIdxs Option.isNone) := by
    apply (List.perm_ext_iff_of_nodup invariant.vacant_nodup List.nodup_findIdxs).mpr
    intro slot
    rw [invariant.mem_vacant slot, List.mem_findIdxs_iff_exists_getElem_pos]
    simp [Array.getElem?_eq_some_iff]
  rw [listed.length_eq, List.length_findIdxs, Array.countP_toList]

/-- No two references of a store have the same name. -/
theorem nodup_names (invariant : store.Invariant) :
    (store.references.map (·.name)).Nodup := by
  have apart : store.slots.toList.Pairwise fun first second =>
      ∀ one, first = some one → ∀ two, second = some two → one.name ≠ two.name := by
    rw [List.pairwise_iff_getElem]
    intro first second firstBound secondBound ordered one oneEq two twoEq sameName
    have oneHeld : store.inSlot? first = some one :=
      inSlot?_eq_some_iff.mpr (Array.getElem?_eq_some_iff.mpr ⟨firstBound, oneEq⟩)
    have twoHeld : store.inSlot? second = some two :=
      inSlot?_eq_some_iff.mpr (Array.getElem?_eq_some_iff.mpr ⟨secondBound, twoEq⟩)
    exact Nat.ne_of_lt ordered (invariant.slot_eq oneHeld twoHeld sameName)
  exact List.pairwise_map.mpr (List.pairwise_filterMap.mpr apart)

/-- No reference of a store is held twice. -/
theorem nodup_references (invariant : store.Invariant) : store.references.Nodup :=
  invariant.nodup_names.of_map

/-- Stores with the same references differ at most in the order in which they hold them. -/
theorem references_perm {other : Store} (invariant : store.Invariant)
    (otherInvariant : other.Invariant)
    (sameContents : ∀ reference, reference ∈ store.references ↔ reference ∈ other.references) :
    store.references.Perm other.references :=
  (List.perm_ext_iff_of_nodup invariant.nodup_references otherInvariant.nodup_references).mpr
    sameContents

/-- The names in use are the names that the slots hold, in some order. -/
theorem keys_perm (invariant : store.Invariant) :
    store.index.keys.Perm (store.references.map (·.name)) := by
  apply (List.perm_ext_iff_of_nodup Std.ExtTreeMap.nodup_keys invariant.nodup_names).mpr
  intro name
  rw [Std.ExtTreeMap.mem_keys, ← Std.ExtTreeMap.contains_iff_mem, List.mem_map]
  constructor
  · intro used
    obtain ⟨slot, indexed⟩ := contains_eq_true_iff.mp used
    obtain ⟨target, held⟩ := invariant.occupied indexed
    exact ⟨⟨name, target⟩, mem_references_iff.mpr ⟨slot, held⟩, rfl⟩
  · rintro ⟨reference, member, rfl⟩
    obtain ⟨slot, held⟩ := mem_references_iff.mp member
    exact contains_eq_true_iff.mpr ⟨slot, invariant.indexed_of_inSlot? held⟩

/-- The index has one entry for each reference. -/
theorem size_eq_length (invariant : store.Invariant) : store.size = store.references.length := by
  rw [size, ← Std.ExtTreeMap.length_keys, invariant.keys_perm.length_eq, List.length_map]

/-- The index has one entry for each occupied slot. -/
theorem size_eq_countP (invariant : store.Invariant) :
    store.size = store.slots.countP Option.isSome := by
  rw [invariant.size_eq_length, references, List.length_filterMap_eq_countP, Array.countP_toList]
  rfl

/-- Every slot is either occupied or vacant. -/
theorem size_slots (invariant : store.Invariant) :
    store.slots.size = store.size + store.vacant.length := by
  have unoccupied : (fun content : Option Reference => decide ¬content.isSome = true) =
      Option.isNone := by
    funext content
    cases content <;> rfl
  rw [invariant.size_eq_countP, invariant.length_vacant, ← unoccupied]
  exact Array.size_eq_countP_add_countP

end Invariant

/-- In every store that calls lead to, succeeding or failing, the index leads exactly to the occupied
slots, each one under the name of its reference, and the vacant slots are listed once each.  So no
name occupies two slots, and every slot is accounted for. -/
theorem run_keeps_slots_and_index_consistent (config : StoreConfig) (calls : List Call) :
    let store := (empty config).run calls
    (∀ name slot, store.index[name]? = some slot →
      slot < store.slots.size ∧ ∃ target, store.inSlot? slot = some ⟨name, target⟩) ∧
    (∀ slot reference, store.inSlot? slot = some reference →
      store.index[reference.name]? = some slot) ∧
    store.vacant.Nodup ∧
    (∀ slot, slot ∈ store.vacant ↔ store.slots[slot]? = some none) ∧
    (∀ first second one two, store.inSlot? first = some one → store.inSlot? second = some two →
      one.name = two.name → first = second) ∧
    store.size = store.slots.countP Option.isSome ∧
    store.slots.size = store.size + store.vacant.length := by
  intro store
  have invariant : store.Invariant := (invariant_empty config).run calls
  refine ⟨?_, fun slot reference held => invariant.indexed_of_inSlot? held,
    invariant.vacant_nodup, invariant.mem_vacant,
    fun first second one two oneHeld twoHeld => invariant.slot_eq oneHeld twoHeld,
    invariant.size_eq_countP, invariant.size_slots⟩
  intro name slot indexed
  obtain ⟨target, held⟩ := invariant.occupied indexed
  exact ⟨lt_size_of_inSlot? held, target, held⟩

end NamedRefs.Store

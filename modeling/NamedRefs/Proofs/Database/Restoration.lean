/-
Module: NamedRefs.Proofs.Database.Restoration
Purpose: The references of a store, created again in an empty one, give a store that answers alike.
Main exports: Store.creations, Store.Accepts, Store.Accepts.trace_creations,
  Store.Accepts.slots_run_creations, Database.dump_restores, Database.reversed_dump_restores
-/
import NamedRefs.Proofs.Database.Listing
import NamedRefs.Proofs.Store.Admission

namespace NamedRefs

/-!
An empty store takes in whatever another store of the same settings holds: each reference was checked
when it came in, and no two of them have the same name.  Without vacant slots every creation opens a
slot at the end, so the new store holds the references in the order in which they were created.  That
order may be any; only a pass over the slots can tell.
-/

namespace Store

/-- The calls that create references one after the other. -/
def creations (references : List Reference) : List Call :=
  references.map fun reference => .write reference false none

/-- References that a store can take in one after the other: each one passes the checks, and their names
are free and different. -/
structure Accepts (store : Store) (references : List Reference) : Prop where
  checked : ∀ reference ∈ references, checkReference store.config reference = .ok ()
  free : ∀ reference ∈ references, store.index[reference.name]? = none
  distinct : (references.map (·.name)).Nodup

namespace Accepts

variable {store : Store} {reference : Reference} {references : List Reference}

/-- The first of the references that a store accepts is created. -/
theorem perform_creation (accepts : store.Accepts (reference :: references)) :
    store.perform (.write reference false none) = (.ok .done, store.insertNew reference) := by
  have checked := accepts.checked reference List.mem_cons_self
  have absent := accepts.free reference List.mem_cons_self
  simp [perform_write, write_of_absent checked absent, Except.map]

/-- The references behind the first one are still acceptable after its creation. -/
theorem insertNew (accepts : store.Accepts (reference :: references)) :
    (store.insertNew reference).Accepts references where
  checked other member := by
    rw [config_insertNew]
    exact accepts.checked other (List.mem_cons_of_mem reference member)
  free other member := by
    have different : reference.name ≠ other.name := by
      intro same
      apply (List.nodup_cons.mp accepts.distinct).1
      exact List.mem_map.mpr ⟨other, member, same.symm⟩
    rw [getElem?_index_insertNew, if_neg different]
    exact accepts.free other (List.mem_cons_of_mem reference member)
  distinct := (List.nodup_cons.mp accepts.distinct).2

/-- Each creation succeeds. -/
theorem trace_creations (accepts : store.Accepts references) :
    ∀ outcome ∈ store.trace (creations references), outcome.1 = .ok .done := by
  induction references generalizing store with
  | nil =>
      intro outcome member
      contradiction
  | cons reference references inductionHypothesis =>
      intro outcome member
      have created := accepts.perform_creation
      rcases List.mem_cons.mp member with rfl | later
      · exact congrArg Prod.fst created
      · apply inductionHypothesis accepts.insertNew
        rwa [created] at later

/-- Where no slot is vacant, each creation opens a slot at the end. -/
theorem slots_run_creations (accepts : store.Accepts references) (full : store.vacant = []) :
    (store.run (creations references)).vacant = [] ∧
      (store.run (creations references)).slots.toList =
        store.slots.toList ++ references.map some := by
  induction references generalizing store with
  | nil => exact ⟨full, (List.append_nil _).symm⟩
  | cons reference references inductionHypothesis =>
      have stillFull : (store.insertNew reference).vacant = [] := by simp [full]
      have opened : (store.insertNew reference).slots = store.slots.push (some reference) := by
        simp [Store.insertNew, full]
      have rest := inductionHypothesis accepts.insertNew stillFull
      rw [opened, Array.toList_push, List.append_assoc] at rest
      have step : store.run (creations (reference :: references)) =
          (store.insertNew reference).run (creations references) :=
        congrArg (fun outcome => outcome.2.run (creations references)) accepts.perform_creation
      rw [step]
      exact rest

end Accepts

/-- An empty store of the same settings accepts all that a store holds, in any order. -/
theorem Invariant.accepts_references {store : Store} (invariant : store.Invariant)
    (admits : store.AdmitsContents) {order : List Reference}
    (rearranged : order.Perm store.references) : (empty store.config).Accepts order where
  checked reference member := by
    obtain ⟨slot, held⟩ := mem_references_iff.mp (rearranged.mem_iff.mp member)
    exact invariant.checkReference_of_inSlot? admits held
  free reference _ := by simp
  distinct := (rearranged.map _).nodup_iff.mpr invariant.nodup_names

end Store

namespace Database

/-- In every store that calls lead to, the references that a pass yields can be created again, in any
order, in an empty store of the same settings: each creation succeeds, and the new store lists, looks
up and resolves like the old one.  It has no vacant slots, and holds the references in the order of
their creation; so if this was the order of the pass, every pass over the new store, filtered or not,
yields what it yields over the old one. -/
theorem dump_restores (config : StoreConfig) (calls : List Store.Call) :
    let store := (Store.empty config).run calls
    ∀ order : List Reference, order.Perm (store.iterate none) →
      let restored := (Store.empty store.config).run (Store.creations order)
      (∀ outcome ∈ (Store.empty store.config).trace (Store.creations order),
        outcome.1 = .ok .done) ∧
      AnswersAlike ⟨restored⟩ ⟨store⟩ ∧
      restored.vacant = [] ∧ (∀ slot : Nat, restored.slots[slot]? ≠ some none) ∧
      (order = store.iterate none →
        ∀ pattern, restored.iterate pattern = store.iterate pattern) := by
  intro store order rearranged restored
  have invariant : store.Invariant := (Store.invariant_empty config).run calls
  have admits : store.AdmitsContents :=
    (Store.invariant_empty config).admitsContents_run (Store.admitsContents_empty config) calls
  have restoredInvariant : restored.Invariant := (Store.invariant_empty store.config).run _
  rw [store.iterate_none] at rearranged ⊢
  have accepts := invariant.accepts_references admits rearranged
  obtain ⟨full, slots⟩ := accepts.slots_run_creations rfl
  have inOrder : restored.references = order := by
    rw [Store.references, slots]
    simp
  have sameContents : ∀ reference,
      reference ∈ restored.references ↔ reference ∈ store.references := by
    intro reference
    rw [inOrder]
    exact rearranged.mem_iff
  refine ⟨accepts.trace_creations, ?alike, full, ?occupied, ?passes⟩
  case alike =>
    apply answersAlike_of_sameTargets restoredInvariant invariant
    exact Store.targetOf_eq_of_sameContents restoredInvariant invariant sameContents
  case occupied =>
    intro slot isVacant
    have listed := (restoredInvariant.mem_vacant slot).mpr isVacant
    rw [full] at listed
    contradiction
  case passes =>
    intro sameOrder pattern
    rw [Store.iterate_eq, Store.iterate_eq, Store.selected, Store.selected, inOrder, sameOrder]

/-- A store with a vacant slot, and its references created again in the opposite order. -/
theorem reversed_dump_restores :
    let store := (Store.empty .permissive).run
      [.write (.symbolic "a" "x") false none, .write (.symbolic "b" "a") false none,
        .write (.symbolic "c" "b") false none, .delete "a" none, .rename "c" "d" false]
    let order : List Reference := [.symbolic "d" "b", .symbolic "b" "a"]
    let restored := (Store.empty .permissive).run (Store.creations order)
    store.vacant = [0] ∧ order.Perm (store.iterate none) ∧
    restored.vacant = [] ∧ restored.iterate none ≠ store.iterate none ∧
    AnswersAlike ⟨restored⟩ ⟨store⟩ := by
  intro store order restored
  have passed : store.iterate none = [.symbolic "b" "a", .symbolic "d" "b"] := by
    rw [store.iterate_none]
    decide
  have rearranged : order.Perm (store.iterate none) := by
    rw [passed]
    exact List.Perm.swap _ _ []
  have restores := dump_restores .permissive
    [.write (.symbolic "a" "x") false none, .write (.symbolic "b" "a") false none,
      .write (.symbolic "c" "b") false none, .delete "a" none, .rename "c" "d" false]
    order rearranged
  refine ⟨by decide, rearranged, restores.2.2.1, ?_, restores.2.1⟩
  rw [passed, restored.iterate_none]
  decide

end Database

end NamedRefs

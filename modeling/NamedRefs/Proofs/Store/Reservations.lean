/-
Module: NamedRefs.Proofs.Store.Reservations
Purpose: A call that memory is refused to fails before it has changed anything; with any other memory
  it does what it does with enough.
Main exports: Store.Action.DoneOrRefused, Store.Action.DoneOrRefused.reserve,
  Store.Action.DoneOrRefused.error_of_ne, Store.Action.doneOrRefused_write,
  Store.Action.doneOrRefused_rename, Store.Action.doneOrRefused_delete, Store.performWithin_cases,
  Store.exists_run_eq_runWithin
-/
import NamedRefs.Store.Call

namespace NamedRefs.Store

/-!
An action with some memory is compared step by step with the same action with enough of it.  As long
as the steps are questions, checks and reservations, the store is the one that the action started from,
so a refusal among them leaves nothing behind.  Behind the first change the two actions have to be the
same: a reservation there would not fit into the comparison.
-/

namespace Action

variable {Result Next : Type} {store : Store}

/-- On a store, an action comes to what another one comes to, or memory is refused to it before it has
changed anything. -/
def DoneOrRefused (action full : Action Result) (store : Store) : Prop :=
  action.outcome store = full.outcome store ∨ action.outcome store = (.error .outOfMemory, store)

namespace DoneOrRefused

/-- What both actions have in common needs no comparing. -/
theorem refl (action : Action Result) : DoneOrRefused action action store :=
  Or.inl rfl

/-- A question leads on from the store it is asked about. -/
theorem get {next full : Store → Action Result}
    (rest : DoneOrRefused (next store) (full store) store) :
    DoneOrRefused (get >>= next) (get >>= full) store := by
  simpa only [DoneOrRefused, outcome_bind, outcome_get] using rest

/-- Behind a check the action goes on in the same store, or it has failed for either memory. -/
theorem check {next full : Result → Action Next} (check : Except RefError Result)
    (rest : ∀ value, DoneOrRefused (next value) (full value) store) :
    DoneOrRefused (liftM check >>= next) (liftM check >>= full) store := by
  cases check with
  | error error => exact .inl rfl
  | ok value => simpa only [DoneOrRefused, outcome_bind, outcome_liftM] using rest value

variable (memory : Memory)

/-- A reservation is granted or refused, and the store is as it was when it is refused. -/
theorem reserve (reservation : Reservation) {next full : Unit → Action Result}
    (rest : DoneOrRefused (next ()) (full ()) store) :
    DoneOrRefused (reserve memory reservation >>= next) (Action.reserve .ample reservation >>= full)
      store := by
  simp only [DoneOrRefused, outcome_bind, outcome_reserve, Memory.ample, if_true]
  cases memory reservation with
  | false => exact .inr rfl
  | true => exact rest

/-- A copy is made or refused, and the store is as it was when it is refused. -/
theorem copyTarget (target : Target) {next full : Target → Action Result}
    (rest : DoneOrRefused (next target) (full target) store) :
    DoneOrRefused (copyTarget memory target >>= next) (Action.copyTarget .ample target >>= full)
      store := by
  cases target with
  | direct id => exact rest
  | symbolic name =>
      simp only [Action.copyTarget, bind_assoc, pure_bind]
      exact reserve memory .target rest

/-- An action fails for anything but want of memory only where it fails with enough of it. -/
theorem error_of_ne {action full : Action Result} (compared : DoneOrRefused action full store)
    {error : RefError} (failed : (action.outcome store).1 = .error error)
    (different : error ≠ .outOfMemory) : (full.outcome store).1 = .error error := by
  rcases compared with done | refused
  · rwa [done] at failed
  · rw [refused] at failed
    cases failed
    contradiction

/-- Both actions are answered in the same way. -/
theorem answered {action full : Action Result} (compared : DoneOrRefused action full store)
    (answer : Result → Answer) :
    ((action.outcome store).1.map answer, (action.outcome store).2) =
        ((full.outcome store).1.map answer, (full.outcome store).2) ∨
      ((action.outcome store).1.map answer, (action.outcome store).2) =
        (.error .outOfMemory, store) := by
  rcases compared with done | refused
  · exact .inl (by rw [done])
  · exact .inr (by rw [refused]; rfl)

end DoneOrRefused

/-! ### The operations -/

section

variable (memory : Memory) (store : Store)

/-- A lookup copies what it has found, and changes nothing before. -/
theorem doneOrRefused_lookup (name : String) :
    DoneOrRefused (lookup memory name) (lookup .ample name) store := by
  apply DoneOrRefused.get
  split
  · exact .refl _
  · exact .reserve memory .name (.copyTarget memory _ (.refl _))

/-- A new reference has its copies and its places reserved before a slot is taken. -/
theorem doneOrRefused_insertNew (reference : Reference) :
    DoneOrRefused (insertNew memory reference) (insertNew .ample reference) store := by
  refine .reserve memory .name (.reserve memory .key (.copyTarget memory _ (.reserve memory .index
    (.get ?_))))
  split
  · exact .reserve memory .slot (.refl _)
  · exact .refl _

/-- A write of a name in use copies the new target before the old one is overwritten. -/
theorem doneOrRefused_write (reference : Reference) (force : Bool) (expected : Option Target) :
    DoneOrRefused (write memory reference force expected) (write .ample reference force expected)
      store := by
  refine .get (.check _ fun _ => ?_)
  split
  case h_1 =>
    split
    · exact .refl _
    · exact doneOrRefused_insertNew memory store reference
  case h_2 =>
    split
    · exact .refl _
    · exact .copyTarget memory _ (.refl _)

/-- Everything that a rename reserves, it reserves before the new name is freed. -/
theorem doneOrRefused_rename (oldName newName : String) (force : Bool) :
    DoneOrRefused (rename memory oldName newName force) (rename .ample oldName newName force)
      store := by
  refine .get (.check _ fun _ => ?_)
  split
  · exact .refl _
  · split
    · exact .refl _
    · split
      · exact doneOrRefused_lookup memory store oldName
      · refine .reserve memory .key (.reserve memory .name (.reserve memory .index ?_))
        -- What is left changes the store, and reserves nothing.
        split
        · exact .reserve memory .vacancy (.refl _)
        · exact .refl _

/-- A delete reserves its place on the free list before the slot is given up. -/
theorem doneOrRefused_delete (name : String) (expected : Option Target) :
    DoneOrRefused (delete memory name expected) (delete .ample name expected) store := by
  apply DoneOrRefused.get
  split
  · exact .refl _
  · split
    · exact .refl _
    · split
      · exact .refl _
      · exact .reserve memory .vacancy (.refl _)

end

end Action

/-! ### Calls and runs -/

variable (store : Store)

/-- With whatever memory, a call does what it does with enough, or it fails for want of memory and
nothing has changed. -/
theorem performWithin_cases (memory : Memory) (call : Call) :
    store.performWithin memory call = store.perform call ∨
      store.performWithin memory call = (.error .outOfMemory, store) := by
  cases call with
  | write reference force expected =>
      exact (Action.doneOrRefused_write memory store reference force expected).answered _
  | lookup name => exact (Action.doneOrRefused_lookup memory store name).answered _
  | delete name expected => exact (Action.doneOrRefused_delete memory store name expected).answered _
  | rename oldName newName force =>
      exact (Action.doneOrRefused_rename memory store oldName newName force).answered _
  | _ => exact .inl rfl

/-- Calls with whatever memory lead to a store that some of them lead to with enough. -/
theorem exists_run_eq_runWithin (steps : List (Memory × Call)) :
    ∃ calls, calls.Sublist (steps.map Prod.snd) ∧ store.runWithin steps = store.run calls := by
  induction steps generalizing store with
  | nil => exact ⟨[], .slnil, rfl⟩
  | cons step steps inductionHypothesis =>
      obtain ⟨memory, call⟩ := step
      rcases store.performWithin_cases memory call with done | refused
      · obtain ⟨calls, some, same⟩ := inductionHypothesis (store.perform call).2
        refine ⟨call :: calls, some.cons_cons call, ?_⟩
        rw [runWithin, List.foldl_cons, done]
        exact same
      · -- A call that memory was refused to is left out of the run.
        obtain ⟨calls, some, same⟩ := inductionHypothesis store
        refine ⟨calls, some.cons call, ?_⟩
        rw [runWithin, List.foldl_cons, refused]
        exact same

end NamedRefs.Store

/-
Module: NamedRefs.Proofs.Store.Atomicity
Purpose: A call that fails leaves every part of the store as it was, also if it fails for want of
  memory, and the branches that would break this are never taken.
Main exports: Store.Invariant.performWithin_eq_of_error, Store.Invariant.write_ne_notFound,
  Store.Invariant.delete_notFound, Store.Invariant.rename_notFound,
  Store.failed_call_keeps_store
-/
import NamedRefs.Proofs.Store.Consistency
import NamedRefs.Proofs.Store.Reservations

namespace NamedRefs.Store

/-!
A rename changes the index and the vacant slots before it looks into the slot of the old name.  If
that slot held nothing, the rename would fail in a changed store.  The operation alone does not rule
this out; the invariant does, for the slot of an indexed name is occupied, and displacing another
name leaves it so.  Memory is no way to fail behind a change either, as all of it is reserved before.
-/

/-! ### Faults of the checks -/

/-- A name that breaks a rule is refused as invalid. -/
theorem mapError_check_ne_notFound (name missing : String) :
    (RefName.check name).mapError (RefError.invalidName name) ≠ .error (.notFound missing) := by
  cases RefName.check name <;> simp [Except.mapError]

/-- A refused name is refused for itself, not for missing. -/
theorem checkName_ne_notFound (config : StoreConfig) (name missing : String) :
    checkName config name ≠ .error (.notFound missing) := by
  unfold checkName
  split
  · simp
  · split
    · exact mapError_check_ne_notFound name missing
    · simp

/-- A refused target is refused for itself, not for missing. -/
theorem checkTarget_ne_notFound (config : StoreConfig) (name : String) (target : Target)
    (missing : String) : checkTarget config name target ≠ .error (.notFound missing) := by
  cases target with
  | direct id =>
      simp only [checkTarget]
      split <;> simp
  | symbolic target =>
      simp only [checkTarget]
      split
      · simp
      · split
        · exact mapError_check_ne_notFound target missing
        · simp

/-- A refused reference is refused for itself, not for missing. -/
theorem checkReference_ne_notFound (config : StoreConfig) (reference : Reference)
    (missing : String) : checkReference config reference ≠ .error (.notFound missing) := by
  unfold checkReference
  cases checked : checkName config reference.name with
  | error error =>
      intro equality
      cases equality
      exact checkName_ne_notFound config reference.name missing checked
  | ok _ => exact checkTarget_ne_notFound config reference.name reference.target missing

namespace Invariant

variable {store : Store}

/-- A call that answers with an error leaves the store as it was. -/
theorem perform_eq_of_error (invariant : store.Invariant) {call : Call} {error : RefError}
    (failed : (store.perform call).1 = .error error) : (store.perform call).2 = store := by
  rcases perform_cases invariant call with ⟨_, unchanged⟩ | ⟨answer, next, succeeded, change⟩
  · rw [unchanged]
  · rw [succeeded] at failed
    contradiction

/-- Whichever reservations are refused, an error comes with the store as it was. -/
theorem performWithin_eq_of_error (invariant : store.Invariant) {memory : Memory} {call : Call}
    {error : RefError} (failed : (store.performWithin memory call).1 = .error error) :
    (store.performWithin memory call).2 = store := by
  rcases store.performWithin_cases memory call with done | refused
  · rw [done] at failed ⊢
    exact invariant.perform_eq_of_error failed
  · rw [refused]

/-- A run keeps the invariant, whatever memory each of its calls was given. -/
theorem runWithin (invariant : store.Invariant) (steps : List (Memory × Call)) :
    (store.runWithin steps).Invariant := by
  obtain ⟨calls, _, same⟩ := store.exists_run_eq_runWithin steps
  rw [same]
  exact invariant.run calls

/-! ### Names that are not found

An operation reports a name as not found only when the index does not have it: never behind an entry
of the index. -/

/-- A write names nothing that is missing, whatever memory it is given. -/
theorem write_ne_notFound (invariant : store.Invariant) (memory : Memory) (reference : Reference)
    (force : Bool) (expected : Option Target) (missing : String) :
    ((Action.write memory reference force expected).outcome store).1 ≠
      .error (.notFound missing) := by
  intro failed
  have failed : (store.write reference force expected).1 = .error (.notFound missing) :=
    (Action.doneOrRefused_write memory store reference force expected).error_of_ne failed (by simp)
  rcases write_cases invariant reference force expected with
    ⟨error, outcome, faulty | rfl | rfl⟩ | ⟨next, outcome, _⟩ <;> rw [outcome] at failed
  · cases failed
    exact checkReference_ne_notFound store.config reference missing faulty
  · cases failed
  · cases failed
  · cases failed

/-- A delete that misses a name misses the one it was asked for. -/
theorem delete_notFound (invariant : store.Invariant) {memory : Memory} {name missing : String}
    {expected : Option Target}
    (failed : ((Action.delete memory name expected).outcome store).1 = .error (.notFound missing)) :
    missing = name ∧ store.index[name]? = none := by
  have failed : (store.delete name expected).1 = .error (.notFound missing) :=
    (Action.doneOrRefused_delete memory store name expected).error_of_ne failed (by simp)
  rcases delete_cases invariant name expected with
    ⟨error, outcome, ⟨rfl, absent⟩ | rfl⟩ | ⟨next, outcome, _⟩ <;> rw [outcome] at failed
  · cases failed
    exact ⟨rfl, absent⟩
  · cases failed
  · cases failed

/-- A rename that misses a name misses the old one. -/
theorem rename_notFound (invariant : store.Invariant) {memory : Memory}
    {oldName newName missing : String} {force : Bool}
    (failed : ((Action.rename memory oldName newName force).outcome store).1 =
      .error (.notFound missing)) :
    missing = oldName ∧ store.index[oldName]? = none := by
  have failed : (store.rename oldName newName force).1 = .error (.notFound missing) :=
    (Action.doneOrRefused_rename memory store oldName newName force).error_of_ne failed (by simp)
  rcases rename_cases invariant oldName newName force with
    ⟨error, outcome, faulty | rfl | ⟨rfl, absent⟩⟩ | ⟨target, next, _, outcome, _⟩ <;>
      rw [outcome] at failed
  · cases failed
    exact absurd faulty (checkName_ne_notFound store.config newName missing)
  · cases failed
  · cases failed
    exact ⟨rfl, absent⟩
  · cases failed

end Invariant

/-- Take any store that calls lead to, some of which memory may have been refused to.  A call that fails
changes nothing in it, down to the slots and the order of the vacant ones, whichever reservations are
refused to it; and refused reservations show in no other way than that the call fails for want of
memory.  The slot of an indexed name holds a reference, also after a rename has made room for the new
name and moved the index entry; hence a name is reported as not found only where the index does not
have it. -/
theorem failed_call_keeps_store (config : StoreConfig) (steps : List (Memory × Call)) :
    let store := (empty config).runWithin steps
    (∀ memory call error, (store.performWithin memory call).1 = .error error →
      (store.performWithin memory call).2 = store) ∧
    (∀ memory call, store.performWithin memory call = store.perform call ∨
      store.performWithin memory call = (.error .outOfMemory, store)) ∧
    (∀ (name : String) (slot : Nat), store.index[name]? = some slot →
      store.inSlot? slot ≠ none) ∧
    (∀ (oldName newName : String) (slot : Nat), oldName ≠ newName →
      store.index[oldName]? = some slot →
      ((store.displace newName).rekey oldName newName slot).inSlot? slot ≠ none) ∧
    (∀ memory reference force expected missing,
      ((Action.write memory reference force expected).outcome store).1 ≠
        .error (.notFound missing)) ∧
    (∀ memory name expected missing,
      ((Action.delete memory name expected).outcome store).1 = .error (.notFound missing) →
        missing = name ∧ store.index[name]? = none) ∧
    (∀ memory oldName newName force missing,
      ((Action.rename memory oldName newName force).outcome store).1 = .error (.notFound missing) →
        missing = oldName ∧ store.index[oldName]? = none) := by
  intro store
  have invariant : store.Invariant := (invariant_empty config).runWithin steps
  have occupied : ∀ (name : String) (slot : Nat), store.index[name]? = some slot →
      store.inSlot? slot ≠ none := by
    intro name slot indexed nothing
    obtain ⟨target, held⟩ := invariant.occupied indexed
    rw [nothing] at held
    contradiction
  refine ⟨fun memory call error failed => invariant.performWithin_eq_of_error failed,
    store.performWithin_cases, occupied, ?_, invariant.write_ne_notFound,
    fun memory name expected missing => invariant.delete_notFound,
    fun memory oldName newName force missing => invariant.rename_notFound⟩
  intro oldName newName slot different indexed
  have kept : ((store.displace newName).rekey oldName newName slot).inSlot? slot =
      store.inSlot? slot := invariant.inSlot?_displace indexed different
  rw [kept]
  exact occupied oldName slot indexed

/-- A forced rename has to list the slot that it vacates.  If the list cannot grow, nothing is
displaced. -/
example :
    let store := (empty .permissive).run
      [.write ⟨"a", .symbolic "x"⟩ false none, .write ⟨"b", .symbolic "y"⟩ false none]
    let outcome := store.performWithin (· != .vacancy) (.rename "a" "b" true)
    outcome.1 = .error .outOfMemory ∧ outcome.2.lookup "b" = .ok ⟨"b", .symbolic "y"⟩ := by
  decide

/-! ### What the invariant rules out -/

/-- A store with an index entry that leads nowhere.  No calls lead to it. -/
private def dangling : Store :=
  { empty .permissive with index := Std.ExtTreeMap.empty.insert "a" 0 }

/-- Without the invariant a failed rename would leave the new name behind. -/
example : (dangling.rename "a" "b" false).1 = .error (.notFound "a") ∧
    (dangling.rename "a" "b" false).2.index["b"]? = some 0 := by
  decide

end NamedRefs.Store

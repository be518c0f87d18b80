/-
Module: NamedRefs.Proofs.Store.Ledger
Purpose: A store has as many references as were created and not removed, and as many slots as it has
  ever had references at once.
Main exports: Store.Ledger, Store.Ledger.enter, Store.Ledger.Balances, Store.Change.size_eq,
  Store.Change.slots_size_eq, Store.Ledger.Balances.run, Store.ledger_accounts_for_slots
-/
import NamedRefs.Proofs.Store.Consistency

namespace NamedRefs.Store

/-!
A ledger is kept beside a store.  It counts what calls bring about and notes the largest size, from the
answers and the names in use alone; clearing the store closes it and opens a new one.  Two equations
hold between a store and its ledger, and each change keeps both: the number of references is what the
counts say, and a new slot opens only when all others are occupied, which is when the size goes beyond
what it has ever been.
-/

namespace Call

/-- Whether a call that succeeds creates a reference: a write under a free name. -/
def creates (store : Store) : Call → Bool
  | .write reference _ _ => !store.contains reference.name
  | _ => false

/-- Whether a call that succeeds deletes a reference. -/
def deletes : Call → Bool
  | .delete _ _ => true
  | _ => false

/-- Whether a call that succeeds puts a reference in the place of another one: a rename to a name that
is in use elsewhere. -/
def displaces (store : Store) : Call → Bool
  | .rename oldName newName _ => oldName != newName && store.contains newName
  | _ => false

end Call

/-- What has happened to a store since it was cleared the last time, or since it was made. -/
structure Ledger where
  created : Nat := 0
  deleted : Nat := 0
  displaced : Nat := 0
  /-- The largest number of references. -/
  peak : Nat := 0

namespace Ledger

/-- Enter a call and the size after it.  A call that fails is not counted. -/
def enter (ledger : Ledger) (store : Store) (call : Call) : Ledger :=
  let (answer, next) := store.perform call
  if call = .clear then {}
  else
    { created := ledger.created + (answer.isOk && call.creates store).toNat
      deleted := ledger.deleted + (answer.isOk && call.deletes).toNat
      displaced := ledger.displaced + (answer.isOk && call.displaces store).toNat
      peak := max ledger.peak next.size }

/-- Enter calls one after the other. -/
def enterAll (ledger : Ledger) (store : Store) : List Call → Ledger
  | [] => ledger
  | call :: calls => (ledger.enter store call).enterAll (store.perform call).2 calls

/-- The store is in the state that the ledger accounts for. -/
structure Balances (ledger : Ledger) (store : Store) : Prop where
  size : store.size + ledger.deleted + ledger.displaced = ledger.created
  slots : store.slots.size = ledger.peak

end Ledger

/-! ### Sizes -/

/-- Dropping an entry that is there makes an index smaller by one, for putting it back makes it larger
by one. -/
private theorem size_erase_of_contains {index : Std.ExtTreeMap String Nat compare} {name : String}
    (used : index.contains name = true) : (index.erase name).size + 1 = index.size := by
  have known := Std.ExtTreeMap.getElem?_eq_some_getElem (Std.ExtTreeMap.contains_iff_mem.mp used)
  have restored : ((index.erase name).insert name _).size = index.size :=
    congrArg _ (insert_erase_self known)
  simpa [Std.ExtTreeMap.size_insert] using restored

section

variable {store : Store}

/-- A new reference makes the store one larger. -/
theorem size_insertNew {reference : Reference} (free : store.contains reference.name = false) :
    (store.insertNew reference).size = store.size + 1 := by
  simp only [contains] at free
  simp [size, Std.ExtTreeMap.size_insert, free]

/-- Giving up a slot makes the store one smaller. -/
theorem size_unlink {name : String} (used : store.contains name = true) (slot : Nat) :
    (store.unlink name slot).size + 1 = store.size :=
  size_erase_of_contains used

/-- Making room for a name makes the store smaller by one where the name was in use. -/
theorem size_displace (store : Store) (name : String) :
    (store.displace name).size + (store.contains name).toNat = store.size := by
  cases used : store.contains name with
  | false =>
      simp only [contains] at used
      simp [size, index_displace, Std.ExtTreeMap.size_erase, used]
  | true =>
      simp only [size, index_displace]
      exact size_erase_of_contains used

/-- A free name in place of one in use leaves the size as it was. -/
theorem size_rekey {oldName newName : String} (used : store.contains oldName = true)
    (free : store.contains newName = false) (slot : Nat) :
    (store.rekey oldName newName slot).size = store.size := by
  have moved : ((store.index.erase oldName).insert newName slot).size =
      (store.index.erase oldName).size + 1 := by
    simp only [contains] at free
    simp [Std.ExtTreeMap.size_insert, Std.ExtTreeMap.contains_erase, free]
  exact moved.trans (size_erase_of_contains used)

/-- A rename costs the store the reference it displaces, if there is one, and nothing else. -/
theorem size_relabel {oldName newName : String} (used : store.contains oldName = true)
    (different : oldName ≠ newName) (slot : Nat) (target : Target) :
    (store.relabel oldName newName slot target).size + (store.contains newName).toNat =
      store.size := by
  have stillUsed : (store.displace newName).contains oldName = true := by
    simp only [contains] at used
    simp [contains, index_displace, Std.ExtTreeMap.contains_erase, used, different.symm]
  have free : (store.displace newName).contains newName = false := by
    simp [contains, index_displace]
  have moved : (store.relabel oldName newName slot target).size = (store.displace newName).size :=
    size_rekey stillUsed free slot
  rw [moved]
  exact size_displace store newName

end

/-! ### Changes -/

section

variable {store next : Store} {call : Call}

/-- A change adds what it creates, and takes away what it deletes or displaces. -/
theorem Change.size_eq (change : Change store call next) (invariant : store.Invariant)
    (keeps : call ≠ .clear) :
    next.size + call.deletes.toNat + (call.displaces store).toNat =
      store.size + (call.creates store).toNat := by
  cases change with
  | @created reference force checked absent =>
      have free := contains_eq_false_iff.mpr absent
      simp [Call.deletes, Call.displaces, Call.creates, free, size_insertNew free]
  | @replaced reference expected slot live checked held current =>
      have used := invariant.contains_of_inSlot? held
      simp [Call.deletes, Call.displaces, Call.creates, used, size]
  | @removed name expected slot live held current =>
      have used := invariant.contains_of_inSlot? held
      simp [Call.deletes, Call.displaces, Call.creates, size_unlink used]
  | @moved oldName newName force slot target checked free different held =>
      have used := invariant.contains_of_inSlot? held
      have apart : (oldName != newName) = true := bne_iff_ne.mpr different
      simp only [Call.deletes, Call.displaces, Call.creates, apart, Bool.true_and,
        Bool.toNat_false, Nat.add_zero]
      exact size_relabel used different slot target
  | stayed checked used => simp [Call.deletes, Call.displaces, Call.creates]
  | cleared => contradiction
  | asked readsOnly =>
      cases call <;> first | rfl | contradiction

/-- A slot is added only when none is vacant, so the slots grow with the peak. -/
theorem slots_size_insertNew (invariant : store.Invariant) {reference : Reference}
    (absent : store.index[reference.name]? = none) :
    (store.insertNew reference).slots.size =
      max store.slots.size (store.insertNew reference).size := by
  have free := contains_eq_false_iff.mpr absent
  have before := invariant.size_slots
  have after := (invariant.insertNew absent).size_slots
  rw [size_insertNew free, vacant_insertNew, List.length_tail] at after
  rw [size_insertNew free]
  -- The new reference is one too many for the slots exactly when none of them is vacant.
  omega

/-- A change adds a slot only where the references do not fit into those that there are. -/
theorem Change.slots_size_eq (change : Change store call next) (invariant : store.Invariant)
    (keeps : call ≠ .clear) : next.slots.size = max store.slots.size next.size := by
  have after := (change.preserves_invariant invariant).size_slots
  have enough : next.slots.size = store.slots.size →
      next.slots.size = max store.slots.size next.size := by
    intro same
    omega
  cases change with
  | created checked absent => exact slots_size_insertNew invariant absent
  | replaced checked held current => exact enough (by simp [fill])
  | removed held current => exact enough (by simp [unlink])
  | moved checked free different held =>
      apply enough
      simp only [relabel, fill, rekey, displace]
      split <;> simp [unlink]
  | stayed checked used => exact enough rfl
  | cleared => contradiction
  | asked readsOnly => exact enough rfl

end

/-! ### Calls and runs -/

namespace Ledger

variable {ledger : Ledger} {store : Store}

/-- The empty ledger is that of an empty store. -/
theorem balances_empty (config : StoreConfig) : Balances {} (empty config) where
  size := rfl
  slots := rfl

/-- A failed call is entered as nothing but another look at the size. -/
theorem enter_of_error {error : RefError} {call : Call}
    (failed : store.perform call = (.error error, store)) :
    ledger.enter store call = { ledger with peak := max ledger.peak store.size } := by
  have keeps : call ≠ .clear := by
    rintro rfl
    cases failed
  simp [enter, failed, keeps, Except.isOk, Except.toBool]

theorem enter_of_ok {next : Store} {answer : Answer} {call : Call} (keeps : call ≠ .clear)
    (succeeded : store.perform call = (.ok answer, next)) :
    ledger.enter store call =
      { created := ledger.created + (call.creates store).toNat
        deleted := ledger.deleted + call.deletes.toNat
        displaced := ledger.displaced + (call.displaces store).toNat
        peak := max ledger.peak next.size } := by
  simp [enter, succeeded, keeps, Except.isOk, Except.toBool]

/-- One call, entered, leaves the books in balance. -/
theorem Balances.enter (balances : ledger.Balances store) (invariant : store.Invariant)
    (call : Call) : (ledger.enter store call).Balances (store.perform call).2 := by
  obtain ⟨sizeEq, slotsEq⟩ := balances
  rcases perform_cases invariant call with ⟨error, failed⟩ | ⟨answer, next, succeeded, change⟩
  · have enough := invariant.size_slots
    rw [enter_of_error failed, failed]
    refine ⟨sizeEq, ?_⟩
    simp only
    omega
  · by_cases clears : call = .clear
    · subst clears
      exact balances_empty store.config
    · have size := change.size_eq invariant clears
      have slots := change.slots_size_eq invariant clears
      rw [enter_of_ok clears succeeded, succeeded]
      refine ⟨?_, ?_⟩
      · simp only
        omega
      · simp only [← slotsEq]
        exact slots

/-- A run of calls, each entered, leaves the books in balance. -/
theorem Balances.run (balances : ledger.Balances store) (invariant : store.Invariant)
    (calls : List Call) : (ledger.enterAll store calls).Balances (store.run calls) := by
  induction calls generalizing ledger store with
  | nil => exact balances
  | cons call calls inductionHypothesis =>
      exact inductionHypothesis (balances.enter invariant call) (invariant.perform call)

end Ledger

/-- In every store that calls lead to, and with everything counted since it was cleared the last time, the
number of references is the number of those created less those deleted and those displaced by a rename.
The slots are as many as there were references at most at any point, so that the vacant ones are
the difference between that largest size and the present one, and figures about the store say so. -/
theorem ledger_accounts_for_slots (config : StoreConfig) (calls : List Call) :
    let store := (empty config).run calls
    let ledger := Ledger.enterAll {} (empty config) calls
    ledger.deleted + ledger.displaced ≤ ledger.created ∧
    store.size = ledger.created - ledger.deleted - ledger.displaced ∧
    store.slots.size = ledger.peak ∧
    store.size ≤ ledger.peak ∧
    store.vacant.length = ledger.peak - store.size ∧
    ∀ fits : store.buckets < bucketLimit, (store.stats fits).freeSlots = ledger.peak - store.size := by
  intro store ledger
  have invariant : store.Invariant := (invariant_empty config).run calls
  obtain ⟨sizeEq, slotsEq⟩ : ledger.Balances store :=
    (Ledger.balances_empty config).run (invariant_empty config) calls
  have slots := invariant.size_slots
  have vacant : store.vacant.length = ledger.peak - store.size := by omega
  have bounds : ledger.deleted + ledger.displaced ≤ ledger.created ∧ store.size ≤ ledger.peak := by
    omega
  refine ⟨bounds.1, by omega, slotsEq, bounds.2, vacant, ?_⟩
  intro fits
  exact vacant

end NamedRefs.Store

/-
Module: NamedRefs.Proofs.Store.Change
Purpose: The outcome of each call of a consistent store, and the changes that calls amount to.
Main exports: Store.write_of_present, Store.rename_of_present, Store.delete_of_present,
  Store.relabel, Store.Call.readsOnly, Store.Change, Store.perform_cases, Store.Invariant.write_of_free,
  Store.Invariant.write_of_held, Store.Invariant.delete_of_ok, Store.Invariant.rename_of_ok,
  Store.Invariant.change_of_ok
-/
import NamedRefs.Proofs.Store.Slots

namespace NamedRefs.Store

/-!
The defensive branches of `write`, `rename` and `delete`, in which the index leads to a slot that
holds nothing, are unreachable in a consistent store.  What is left of the three operations is said
here once, by cases on the checks and on the names in use.  `Change` then collects what a call that
succeeds makes of the store: a call either fails and changes nothing, or amounts to one change.
-/

/-! ### Expected targets -/

/-- A token is in order when there is none or it is the live target. -/
theorem isStale_eq_false_iff {expected : Option Target} {live : Target} :
    isStale expected live = false ↔ expected = none ∨ expected = some live := by
  cases expected <;> simp [isStale]

/-- A token is stale when there is one and the live target differs from it. -/
theorem isStale_eq_true_iff {expected : Option Target} {live : Target} :
    isStale expected live = true ↔ ¬(expected = none ∨ expected = some live) := by
  rw [← isStale_eq_false_iff, Bool.not_eq_false]

/-! ### Writing -/

section

variable {store : Store} {reference : Reference} {force : Bool} {expected : Option Target}

/-- A write whose reference is refused changes nothing. -/
theorem write_of_refused {error : RefError}
    (refused : checkReference store.config reference = .error error) :
    store.write reference force expected = (.error error, store) := by
  simp [write_def, refused]

/-- A write of a new name takes no token, for there is nothing it could be compared with. -/
theorem write_of_absent (checked : checkReference store.config reference = .ok ())
    (absent : store.index[reference.name]? = none) :
    store.write reference force expected =
      if expected.isSome then (.error (.modified reference.name), store)
      else (.ok (), store.insertNew reference) := by
  simp [write_def, checked, absent]

/-- A write of a name in use needs force and, where a token is given, the live target. -/
theorem write_of_present {slot : Nat} {live : Target}
    (checked : checkReference store.config reference = .ok ())
    (indexed : store.index[reference.name]? = some slot)
    (held : store.inSlot? slot = some ⟨reference.name, live⟩) :
    store.write reference force expected =
      if !force then (.error (.alreadyExists reference.name), store)
      else if isStale expected live then (.error (.modified reference.name), store)
      else (.ok (), store.fill slot reference) := by
  simp [write_def, checked, indexed, held]

end

/-! ### Deleting -/

section

variable {store : Store} {name : String} {expected : Option Target}

/-- A delete of a name not in use changes nothing. -/
theorem delete_of_absent (absent : store.index[name]? = none) :
    store.delete name expected = (.error (.notFound name), store) := by
  simp [delete_def, absent]

/-- A delete of a name in use gives up its slot, unless the token is stale. -/
theorem delete_of_present {slot : Nat} {live : Target} (indexed : store.index[name]? = some slot)
    (held : store.inSlot? slot = some ⟨name, live⟩) :
    store.delete name expected =
      if isStale expected live then (.error (.modified name), store)
      else (.ok (), store.unlink name slot) := by
  simp [delete_def, indexed, held]

end

/-! ### Renaming -/

/-- The store in which a slot has got its new name and whatever had that name is gone. -/
def relabel (store : Store) (oldName newName : String) (slot : Nat) (target : Target) : Store :=
  ((store.displace newName).rekey oldName newName slot).fill slot ⟨newName, target⟩

/-- A renamed reference is found under its new name, in the slot it had, and no longer under the old
one. -/
theorem getElem?_index_relabel (store : Store) (oldName newName : String) (slot : Nat)
    (target : Target) (name : String) :
    (store.relabel oldName newName slot target).index[name]? =
      if newName = name then some slot
      else if oldName = name then none
      else store.index[name]? := by
  rw [relabel, index_fill, getElem?_index_rekey, getElem?_index_displace]
  by_cases same : newName = name <;> simp [same]

section

variable {store : Store} {oldName newName : String} {force : Bool}

/-- A rename to a refused name changes nothing. -/
theorem rename_of_refused {error : RefError}
    (refused : checkName store.config newName = .error error) :
    store.rename oldName newName force = (.error error, store) := by
  simp [rename_def, refused]

/-- A rename to a name in use, without force, changes nothing. -/
theorem rename_of_taken (checked : checkName store.config newName = .ok ())
    (taken : store.contains newName = true) :
    store.rename oldName newName false = (.error (.alreadyExists newName), store) := by
  simp [rename_def, checked, taken]

/-- A rename of a name not in use changes nothing, also with force. -/
theorem rename_of_absent (checked : checkName store.config newName = .ok ())
    (free : store.contains newName = true → force = true)
    (absent : store.index[oldName]? = none) :
    store.rename oldName newName force = (.error (.notFound oldName), store) := by
  rw [rename_def, checked]
  cases force <;> simp_all

/-- Renaming a reference to its own name only looks it up. -/
theorem rename_self {name : String} {slot : Nat} (checked : checkName store.config name = .ok ())
    (indexed : store.index[name]? = some slot) :
    store.rename name name true = (store.lookup name, store) := by
  simp [rename_def, checked, indexed]

/-- The slot of the old name outlives the displacement of the new one, so that its reference is
found there after the index has changed. -/
theorem rename_of_present (invariant : store.Invariant) {slot : Nat} {target : Target}
    (checked : checkName store.config newName = .ok ())
    (free : store.contains newName = true → force = true) (different : oldName ≠ newName)
    (indexed : store.index[oldName]? = some slot)
    (held : store.inSlot? slot = some ⟨oldName, target⟩) :
    store.rename oldName newName force =
      (.ok ⟨newName, target⟩, store.relabel oldName newName slot target) := by
  have stillHeld : ((store.displace newName).rekey oldName newName slot).inSlot? slot =
      some ⟨oldName, target⟩ :=
    (invariant.inSlot?_displace indexed different).trans held
  rw [rename_def, checked]
  cases force <;>
    simp_all [relabel, DiscardingLog.rename, Except.map]

end

/-! ### Changes -/

/-- Whether a call only asks. -/
def Call.readsOnly : Call → Bool
  | .write _ _ _ | .delete _ _ | .rename _ _ _ | .clear => false
  | _ => true

/-- What a call that succeeds makes of a store.  Every guard that the call passed is part of the
case. -/
inductive Change (store : Store) : Call → Store → Prop where
  | created {reference : Reference} {force : Bool}
      (checked : checkReference store.config reference = .ok ())
      (absent : store.index[reference.name]? = none) :
      Change store (.write reference force none) (store.insertNew reference)
  | replaced {reference : Reference} {expected : Option Target} {slot : Nat} {live : Target}
      (checked : checkReference store.config reference = .ok ())
      (held : store.inSlot? slot = some ⟨reference.name, live⟩)
      (current : isStale expected live = false) :
      Change store (.write reference true expected) (store.fill slot reference)
  | removed {name : String} {expected : Option Target} {slot : Nat} {live : Target}
      (held : store.inSlot? slot = some ⟨name, live⟩)
      (current : isStale expected live = false) :
      Change store (.delete name expected) (store.unlink name slot)
  | moved {oldName newName : String} {force : Bool} {slot : Nat} {target : Target}
      (checked : checkName store.config newName = .ok ())
      (free : store.contains newName = true → force = true)
      (different : oldName ≠ newName)
      (held : store.inSlot? slot = some ⟨oldName, target⟩) :
      Change store (.rename oldName newName force) (store.relabel oldName newName slot target)
  | stayed {name : String} (checked : checkName store.config name = .ok ())
      (used : store.contains name = true) :
      Change store (.rename name name true) store
  | cleared : Change store .clear store.clear
  | asked {call : Call} (readsOnly : call.readsOnly = true) : Change store call store

section

variable {store : Store}

/-- A write fails for a reason that the caller gave, or it creates or replaces. -/
theorem write_cases (invariant : store.Invariant) (reference : Reference) (force : Bool)
    (expected : Option Target) :
    (∃ error, store.write reference force expected = (.error error, store) ∧
      (checkReference store.config reference = .error error ∨
        error = .alreadyExists reference.name ∨ error = .modified reference.name)) ∨
      ∃ next, store.write reference force expected = (.ok (), next) ∧
        Change store (.write reference force expected) next := by
  cases checked : checkReference store.config reference with
  | error error => exact Or.inl ⟨error, write_of_refused checked, Or.inl rfl⟩
  | ok _ =>
      cases indexed : store.index[reference.name]? with
      | none =>
          rw [write_of_absent checked indexed]
          cases expected with
          | none => exact Or.inr ⟨_, rfl, .created checked indexed⟩
          | some token => exact Or.inl ⟨_, rfl, Or.inr (Or.inr rfl)⟩
      | some slot =>
          obtain ⟨live, held⟩ := invariant.occupied indexed
          rw [write_of_present checked indexed held]
          cases force with
          | false => exact Or.inl ⟨_, rfl, Or.inr (Or.inl rfl)⟩
          | true =>
              cases current : isStale expected live with
              | true => exact Or.inl ⟨_, rfl, Or.inr (Or.inr rfl)⟩
              | false => exact Or.inr ⟨_, rfl, .replaced checked held current⟩

/-- A deletion fails because the name is not indexed or the token is stale, or it removes. -/
theorem delete_cases (invariant : store.Invariant) (name : String) (expected : Option Target) :
    (∃ error, store.delete name expected = (.error error, store) ∧
      (error = .notFound name ∧ store.index[name]? = none ∨ error = .modified name)) ∨
      ∃ next, store.delete name expected = (.ok (), next) ∧
        Change store (.delete name expected) next := by
  cases indexed : store.index[name]? with
  | none => exact Or.inl ⟨_, delete_of_absent indexed, Or.inl ⟨rfl, rfl⟩⟩
  | some slot =>
      obtain ⟨live, held⟩ := invariant.occupied indexed
      rw [delete_of_present indexed held]
      cases current : isStale expected live with
      | true => exact Or.inl ⟨_, rfl, Or.inr rfl⟩
      | false => exact Or.inr ⟨_, rfl, .removed held current⟩

/-- A rename fails because of the new name or because the old name is not indexed, or it answers with
the reference of the old name under the new one; a reference that moves to its own name stays. -/
theorem rename_cases (invariant : store.Invariant) (oldName newName : String) (force : Bool) :
    (∃ error, store.rename oldName newName force = (.error error, store) ∧
      (checkName store.config newName = .error error ∨ error = .alreadyExists newName ∨
        error = .notFound oldName ∧ store.index[oldName]? = none)) ∨
      ∃ target next, store.find? oldName = some ⟨oldName, target⟩ ∧
        store.rename oldName newName force = (.ok ⟨newName, target⟩, next) ∧
        Change store (.rename oldName newName force) next := by
  cases checked : checkName store.config newName with
  | error error => exact Or.inl ⟨error, rename_of_refused checked, Or.inl rfl⟩
  | ok _ =>
      by_cases free : store.contains newName = true → force = true
      · cases indexed : store.index[oldName]? with
        | none =>
            exact Or.inl ⟨_, rename_of_absent checked free indexed, Or.inr (Or.inr ⟨rfl, rfl⟩)⟩
        | some slot =>
            obtain ⟨target, held⟩ := invariant.occupied indexed
            have found : store.find? oldName = some ⟨oldName, target⟩ :=
              invariant.find?_eq_some_iff.mpr ⟨rfl, slot, held⟩
            by_cases different : oldName = newName
            · subst different
              have used := contains_eq_true_iff.mpr ⟨slot, indexed⟩
              have forced := free used
              subst forced
              refine Or.inr ⟨target, store, found, ?_, .stayed checked used⟩
              rw [rename_self checked indexed, lookup_eq_ok_iff.mpr found]
            · exact Or.inr ⟨target, _, found,
                rename_of_present invariant checked free different indexed held,
                .moved checked free different held⟩
      · rcases Classical.not_imp.mp free with ⟨taken, unforced⟩
        rw [Bool.not_eq_true] at unforced
        subst unforced
        exact Or.inl ⟨_, rename_of_taken checked taken, Or.inr (Or.inl rfl)⟩

/-- A call of a consistent store either fails and leaves the store alone, or it succeeds and amounts
to one change. -/
theorem perform_cases (invariant : store.Invariant) (call : Call) :
    (∃ error, store.perform call = (.error error, store)) ∨
      ∃ answer next, store.perform call = (.ok answer, next) ∧ Change store call next := by
  cases call with
  | write reference force expected =>
      rcases write_cases invariant reference force expected with
        ⟨error, failed, _⟩ | ⟨next, succeeded, change⟩
      · exact Or.inl ⟨error, by simp [perform_write, failed, Except.map]⟩
      · exact Or.inr ⟨.done, next, by simp [perform_write, succeeded, Except.map], change⟩
  | delete name expected =>
      rcases delete_cases invariant name expected with
        ⟨error, failed, _⟩ | ⟨next, succeeded, change⟩
      · exact Or.inl ⟨error, by simp [perform_delete, failed, Except.map]⟩
      · exact Or.inr ⟨.done, next, by simp [perform_delete, succeeded, Except.map], change⟩
  | rename oldName newName force =>
      rcases rename_cases invariant oldName newName force with
        ⟨error, failed, _⟩ | ⟨target, next, _, succeeded, change⟩
      · exact Or.inl ⟨error, by simp [perform_rename, failed, Except.map]⟩
      · exact Or.inr ⟨.reference ⟨newName, target⟩, next,
          by simp [perform_rename, succeeded, Except.map], change⟩
  | clear => exact Or.inr ⟨.nothing, store.clear, rfl, .cleared⟩
  | lookup name =>
      cases found : store.lookup name with
      | error error => exact Or.inl ⟨error, by simp [perform_lookup, found, Except.map]⟩
      | ok reference =>
          exact Or.inr ⟨.reference reference, store, by simp [perform_lookup, found, Except.map],
            .asked rfl⟩
  | log call =>
      cases answered : call.answer with
      | error error => exact Or.inl ⟨error, by simp [perform, performWithin, answered]⟩
      | ok answer => exact Or.inr ⟨answer, store, by simp [perform, performWithin, answered], .asked rfl⟩
  | lock name => exact Or.inl ⟨_, rfl⟩
  | unlock name update => exact Or.inl ⟨_, rfl⟩
  | contains | iterate | names | cursor | stats | isEmpty | config | describe | compress =>
      exact Or.inr ⟨_, store, rfl, .asked rfl⟩

end

/-! ### Calls that have succeeded

A call that is known to have succeeded has made the one change that its names allow. -/

namespace Invariant

variable {store next : Store}

/-- A call of a consistent store that has succeeded amounts to one change. -/
theorem change_of_ok (invariant : store.Invariant) {call : Call} {answer : Answer}
    (performed : store.perform call = (.ok answer, next)) : Change store call next := by
  rcases perform_cases invariant call with ⟨error, failed⟩ | ⟨other, after, succeeded, change⟩
  · cases failed.symm.trans performed
  · cases succeeded.symm.trans performed
    exact change

/-- A write under a free name succeeds in one way only. -/
theorem write_of_free (invariant : store.Invariant) {reference : Reference} {force : Bool}
    {expected : Option Target} (written : store.write reference force expected = (.ok (), next))
    (free : store.contains reference.name = false) : next = store.insertNew reference := by
  rcases write_cases invariant reference force expected with
    ⟨error, failed, _⟩ | ⟨other, succeeded, change⟩
  · rw [failed] at written
    cases written
  · cases succeeded.symm.trans written
    cases change with
    | created checked absent => rfl
    | replaced checked held current =>
        have used := invariant.contains_of_inSlot? held
        rw [free] at used
        contradiction
    | asked readsOnly => cases readsOnly

/-- A write over a stored reference fills its slot. -/
theorem write_of_held (invariant : store.Invariant) {reference : Reference} {force : Bool}
    {expected : Option Target} {slot : Nat} {live : Target}
    (held : store.inSlot? slot = some ⟨reference.name, live⟩)
    (written : store.write reference force expected = (.ok (), next)) :
    next = store.fill slot reference := by
  have indexed := invariant.indexed_of_inSlot? held
  cases checked : checkReference store.config reference with
  | error error =>
      rw [write_of_refused checked] at written
      cases written
  | ok _ =>
      rw [write_of_present checked indexed held] at written
      split at written
      · cases written
      · split at written <;> cases written
        rfl

/-- A deletion vacates the slot of its name. -/
theorem delete_of_ok (invariant : store.Invariant) {name : String} {expected : Option Target}
    (deleted : store.delete name expected = (.ok (), next)) :
    ∃ slot target, store.inSlot? slot = some ⟨name, target⟩ ∧ next = store.unlink name slot := by
  rcases delete_cases invariant name expected with
    ⟨error, failed, _⟩ | ⟨other, succeeded, change⟩
  · rw [failed] at deleted
    cases deleted
  · cases succeeded.symm.trans deleted
    cases change with
    | removed held current => exact ⟨_, _, held, rfl⟩
    | asked readsOnly => cases readsOnly

/-- A rename to another name relabels the slot of the old one. -/
theorem rename_of_ok (invariant : store.Invariant) {oldName newName : String} {force : Bool}
    {reference : Reference} (different : oldName ≠ newName)
    (renamed : store.rename oldName newName force = (.ok reference, next)) :
    ∃ slot target, store.inSlot? slot = some ⟨oldName, target⟩ ∧
      reference = ⟨newName, target⟩ ∧ next = store.relabel oldName newName slot target := by
  rcases rename_cases invariant oldName newName force with
    ⟨error, failed, _⟩ | ⟨target, other, found, succeeded, change⟩
  · rw [failed] at renamed
    cases renamed
  · cases succeeded.symm.trans renamed
    cases change with
    | @moved _ _ _ slot live checked free _ held =>
        have known := invariant.find?_eq_some_iff.mpr ⟨rfl, slot, held⟩
        cases found.symm.trans known
        exact ⟨slot, target, held, rfl, rfl⟩
    | stayed checked used => exact absurd rfl different
    | asked readsOnly => cases readsOnly

end Invariant

end NamedRefs.Store

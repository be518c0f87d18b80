/-
Module: NamedRefs.Proofs.Store.Admission
Purpose: A store holds nothing that its own checks would refuse.
Main exports: StoreConfig.AdmitsName, StoreConfig.AdmitsTarget, Reference.Admitted,
  Store.checkReference_eq_ok_iff, Store.Change.preserves_admission, Store.AdmitsContents,
  Store.Invariant.write_back
-/
import NamedRefs.Proofs.Store.Contents

namespace NamedRefs

/-!
A write checks the whole reference; a rename checks only the new name, and carries a target along that
was checked under another name.  This is enough because the check of a target does not depend on the
name, and because the settings of a store never change: what was admitted once is admitted always.
-/

/-- The names that a store takes in: not the empty one, and only valid ones when names are
validated. -/
def StoreConfig.AdmitsName (config : StoreConfig) (name : String) : Prop :=
  name ≠ "" ∧ (config.validateNames = true → RefName.check name = .ok ())

/-- The targets that a store takes in: no null identifier of either width, and the same names as for
references themselves. -/
def StoreConfig.AdmitsTarget (config : StoreConfig) : Target → Prop
  | .direct id => ∀ format, id ≠ ObjectId.null format
  | .symbolic name => config.AdmitsName name

/-- A reference both of whose parts a store takes in. -/
structure Reference.Admitted (reference : Reference) (config : StoreConfig) : Prop where
  name : config.AdmitsName reference.name
  target : config.AdmitsTarget reference.target

namespace Store

/-! ### The checks -/

/-- The check of a name lets pass what the settings admit. -/
theorem checkName_eq_ok_iff {config : StoreConfig} {name : String} :
    checkName config name = .ok () ↔ config.AdmitsName name := by
  rw [checkName, StoreConfig.AdmitsName]
  by_cases empty : name = ""
  · simp [empty]
  · by_cases strict : config.validateNames = true
    · cases RefName.check name <;> simp [empty, strict, Except.mapError]
    · simp [empty, strict]

/-- The target of a symbolic reference is checked like a name; only the refusal of the empty one is
worded differently. -/
theorem checkTarget_symbolic (config : StoreConfig) (name target : String) :
    checkTarget config name (.symbolic target) =
      if target = "" then .error (.invalidInput (.emptyTarget name))
      else checkName config target := by
  by_cases empty : target = "" <;> simp [checkTarget, checkName, empty]

/-- The check of a target lets pass what the settings admit. -/
theorem checkTarget_eq_ok_iff {config : StoreConfig} {name : String} {target : Target} :
    checkTarget config name target = .ok () ↔ config.AdmitsTarget target := by
  cases target with
  | direct id =>
      rw [checkTarget, StoreConfig.AdmitsTarget, ← id.isNull_eq_false_iff]
      cases id.isNull <;> simp
  | symbolic target =>
      rw [StoreConfig.AdmitsTarget, ← checkName_eq_ok_iff, checkTarget_symbolic]
      by_cases empty : target = ""
      · simp [checkName, empty]
      · rw [if_neg empty]

/-- The check of a reference lets pass what the settings admit. -/
theorem checkReference_eq_ok_iff {config : StoreConfig} {reference : Reference} :
    checkReference config reference = .ok () ↔ reference.Admitted config := by
  rw [checkReference]
  cases checked : checkName config reference.name with
  | error error =>
      constructor
      · intro accepted
        contradiction
      · intro admitted
        rw [checkName_eq_ok_iff.mpr admitted.name] at checked
        contradiction
  | ok _ =>
      constructor
      · intro accepted
        exact ⟨checkName_eq_ok_iff.mp checked, checkTarget_eq_ok_iff.mp accepted⟩
      · intro admitted
        exact checkTarget_eq_ok_iff.mpr admitted.target

/-! ### Contents -/

/-- Every reference that can be known of a store is one that the store would take in. -/
def AdmitsContents (store : Store) : Prop :=
  ∀ name target, store.targetOf name = some target →
    (Reference.mk name target).Admitted store.config

/-- A new store holds nothing that could be refused. -/
theorem admitsContents_empty (config : StoreConfig) : (empty config).AdmitsContents := by
  intro name target known
  rw [targetOf_of_not_indexed (by simp)] at known
  contradiction

/-- No change touches the settings. -/
theorem Change.config_eq {store next : Store} {call : Call} (change : Change store call next) :
    next.config = store.config := by
  cases change with
  | created checked absent => exact config_insertNew store _
  | replaced checked held current => rfl
  | removed held current => rfl
  | moved checked free different held => simp [relabel]
  | stayed checked used => rfl
  | cleared => rfl
  | asked readsOnly => rfl

/-- What is known after a change was known before, or was written and checked, or was known before
under the old name of a rename that has checked the new one. -/
theorem Change.origin {store next : Store} {call : Call} (change : Change store call next)
    (invariant : store.Invariant) {name : String} {target : Target}
    (known : next.targetOf name = some target) :
    store.targetOf name = some target ∨
      checkReference store.config ⟨name, target⟩ = .ok () ∨
      ∃ oldName, store.targetOf oldName = some target ∧ checkName store.config name = .ok () := by
  cases change with
  | @created reference force checked absent =>
      rw [invariant.targetOf_insertNew] at known
      split at known
      · cases known
        subst name
        exact Or.inr (Or.inl checked)
      · exact Or.inl known
  | @replaced reference expected slot live checked held current =>
      rw [invariant.targetOf_fill held] at known
      split at known
      · cases known
        subst name
        exact Or.inr (Or.inl checked)
      · exact Or.inl known
  | removed held current =>
      rw [invariant.targetOf_unlink held] at known
      split at known
      · contradiction
      · exact Or.inl known
  | @moved oldName newName force slot target checked free different held =>
      rw [invariant.targetOf_relabel held different] at known
      split at known
      · -- Only the new name is checked; the target is the one that the old name had.
        cases known
        subst name
        exact Or.inr (Or.inr ⟨oldName, invariant.targetOf_eq_some_iff.mpr ⟨slot, held⟩, checked⟩)
      · split at known
        · contradiction
        · exact Or.inl known
  | stayed checked used => exact Or.inl known
  | cleared =>
      rw [clear, targetOf_of_not_indexed (by simp)] at known
      contradiction
  | asked readsOnly => exact Or.inl known

/-- Every change a call can make leaves admitted contents in the store. -/
theorem Change.preserves_admission {store next : Store} {call : Call}
    (change : Change store call next) (invariant : store.Invariant)
    (admits : store.AdmitsContents) : next.AdmitsContents := by
  intro name target known
  rw [change.config_eq]
  rcases change.origin invariant known with before | checked | ⟨oldName, before, checked⟩
  · exact admits name target before
  · exact checkReference_eq_ok_iff.mp checked
  · exact ⟨checkName_eq_ok_iff.mp checked, (admits oldName target before).target⟩

/-! ### Runs -/

namespace Invariant

variable {store : Store}

/-- The settings of a store outlast every run. -/
theorem config_run (invariant : store.Invariant) (calls : List Call) :
    (store.run calls).config = store.config := by
  apply invariant.of_run (motive := fun current => current.config = store.config) rfl
  intro current call next _ same change
  exact change.config_eq.trans same

/-- Whatever calls are made of it, a store with admitted contents keeps to them. -/
theorem admitsContents_run (invariant : store.Invariant) (admits : store.AdmitsContents)
    (calls : List Call) : (store.run calls).AdmitsContents := by
  apply invariant.of_run admits
  intro current call next currentInvariant currentAdmits change
  exact change.preserves_admission currentInvariant currentAdmits

/-! ### Answers -/

/-- What a lookup finds would be admitted again. -/
theorem admitted_of_lookup (invariant : store.Invariant) (admits : store.AdmitsContents)
    {name : String} {reference : Reference} (looked : store.lookup name = .ok reference) :
    reference.Admitted store.config := by
  rw [invariant.lookup_eq] at looked
  cases known : store.targetOf name with
  | none =>
      rw [known] at looked
      contradiction
  | some target =>
      rw [known] at looked
      cases looked
      exact admits name target known

/-- What a rename answers would be admitted again. -/
theorem admitted_of_rename (invariant : store.Invariant) (admits : store.AdmitsContents)
    {oldName newName : String} {force : Bool} {reference : Reference}
    (renamed : (store.rename oldName newName force).1 = .ok reference) :
    reference.Admitted store.config := by
  rcases rename_cases invariant oldName newName force with
    ⟨error, failed, _⟩ | ⟨target, next, found, succeeded, change⟩
  · rw [failed] at renamed
    contradiction
  · rw [succeeded] at renamed
    cases renamed
    have before := invariant.admitted_of_lookup admits (lookup_eq_ok_iff.mpr found)
    have checked : checkName store.config newName = .ok () := by
      cases change with
      | moved checked free different held => exact checked
      | stayed checked used => exact checked
      | asked readsOnly => cases readsOnly
    exact ⟨checkName_eq_ok_iff.mp checked, before.target⟩

/-- Whatever a store holds passes its checks. -/
theorem checkReference_of_inSlot? (invariant : store.Invariant) (admits : store.AdmitsContents)
    {slot : Nat} {reference : Reference} (held : store.inSlot? slot = some reference) :
    checkReference store.config reference = .ok () :=
  checkReference_eq_ok_iff.mpr
    (invariant.admitted_of_lookup admits (invariant.lookup_of_inSlot? held))

/-- A stored reference can be written back at any time, and nothing changes. -/
theorem write_back (invariant : store.Invariant) (admits : store.AdmitsContents) {name : String}
    {reference : Reference} (looked : store.lookup name = .ok reference) :
    store.write reference true none = (.ok (), store) := by
  have checked := checkReference_eq_ok_iff.mpr (invariant.admitted_of_lookup admits looked)
  obtain ⟨_, slot, held⟩ := invariant.find?_eq_some_iff.mp (lookup_eq_ok_iff.mp looked)
  rw [write_of_present checked (invariant.indexed_of_inSlot? held) held, fill_self held]
  rfl

end Invariant

end Store

end NamedRefs

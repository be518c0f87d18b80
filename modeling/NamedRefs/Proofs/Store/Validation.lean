/-
Module: NamedRefs.Proofs.Store.Validation
Purpose: Validating names refuses some calls and has no other effect.
Main exports: RefName.BreaksRules, Store.Call.BreaksRules, Store.checkReference_of_breaksRules,
  Store.relaxed, Store.perform_of_breaksRules, Store.perform_relaxed, Store.AgreeApartFromSettings,
  Store.validation_only_gates
-/
import NamedRefs.Proofs.Store.Admission

namespace NamedRefs

/-!
A store that validates names differs from one that does not in the two checks alone.  A call that
breaks the naming rules is refused by the first store for exactly that reason, whatever the store
holds; on every other call the two checks come out alike.  So the strict store and the permissive one
go the same way, as long as the permissive one is spared the calls that the strict one refuses.
-/

/-- The name is refused wherever names are validated.  The empty name is another matter: every store
refuses it, and not because of the naming rules. -/
def RefName.BreaksRules (name : String) : Prop :=
  name ≠ "" ∧ ¬ RefName.IsValid name

instance (name : String) : Decidable (RefName.BreaksRules name) :=
  inferInstanceAs (Decidable (_ ∧ _))

namespace Store

/-- A call whose first fault is that a name breaks the rules: the name of a reference to write, the
name in its target when its own name is valid, or the new name of a rename. -/
def Call.BreaksRules : Call → Prop
  | .write reference _ _ => RefName.BreaksRules reference.name ∨
      RefName.IsValid reference.name ∧
        ∃ target ∈ reference.target.name?, RefName.BreaksRules target
  | .rename _ newName _ => RefName.BreaksRules newName
  | _ => False

instance : DecidablePred Call.BreaksRules
  | .write _ _ _ => inferInstanceAs (Decidable (_ ∨ _ ∧ _))
  | .rename _ newName _ => inferInstanceAs (Decidable (RefName.BreaksRules newName))
  | .lookup _ | .contains _ | .delete _ _ | .iterate _ | .names _ | .cursor _ _ | .stats | .isEmpty
  | .config | .describe | .clear | .compress | .log _ | .lock _ | .unlock _ _ =>
      inferInstanceAs (Decidable False)

/-! ### The checks -/

/-- A name that breaks no rule, and is not empty, is valid. -/
theorem isValid_of_not_breaksRules {name : String} (proper : ¬ RefName.BreaksRules name)
    (nonempty : name ≠ "") : RefName.IsValid name :=
  Classical.not_not.mp fun invalid => proper ⟨nonempty, invalid⟩

/-- A valid name is admitted under any settings. -/
theorem admitsName_of_isValid {name : String} (valid : RefName.IsValid name)
    (config : StoreConfig) : config.AdmitsName name := by
  refine ⟨?_, fun _ => (RefName.check_eq_ok_iff name).mpr valid⟩
  rintro rfl
  contradiction

/-- Where names are validated, a name that breaks the rules is refused for this reason. -/
theorem checkName_of_breaksRules {config : StoreConfig} (strict : config.validateNames = true)
    {name : String} (breaks : RefName.BreaksRules name) :
    ∃ fault, checkName config name = .error (.invalidName name fault) := by
  rcases breaks with ⟨nonempty, invalid⟩
  obtain ⟨fault, found⟩ := Option.ne_none_iff_exists'.mp invalid
  refine ⟨fault, ?_⟩
  simp [checkName, nonempty, strict, RefName.check, found, Except.mapError]

/-- Any other name is checked as if names were not validated. -/
theorem checkName_of_not_breaksRules {name : String} (proper : ¬ RefName.BreaksRules name)
    (config : StoreConfig) : checkName config name = checkName .permissive name := by
  by_cases empty : name = ""
  · simp [checkName, empty]
  · have valid := isValid_of_not_breaksRules proper empty
    rw [checkName_eq_ok_iff.mpr (admitsName_of_isValid valid config),
      checkName_eq_ok_iff.mpr (admitsName_of_isValid valid .permissive)]

/-- Where names are validated, a reference one of whose names breaks the rules is refused for this
reason, unless its own name is empty. -/
theorem checkReference_of_breaksRules {config : StoreConfig} (strict : config.validateNames = true)
    {reference : Reference} {force : Bool} {expected : Option Target}
    (breaks : (Call.write reference force expected).BreaksRules) :
    ∃ name fault, checkReference config reference = .error (.invalidName name fault) := by
  rcases reference with ⟨name, target⟩
  rcases breaks with nameBreaks | ⟨valid, inner, isTarget, targetBreaks⟩
  · obtain ⟨fault, refused⟩ := checkName_of_breaksRules strict nameBreaks
    exact ⟨name, fault, by simp [checkReference, refused]⟩
  · cases target with
    | direct id => contradiction
    | symbolic target =>
        cases isTarget
        have accepted : checkName config name = .ok () :=
          checkName_eq_ok_iff.mpr (admitsName_of_isValid valid config)
        obtain ⟨fault, refused⟩ := checkName_of_breaksRules strict targetBreaks
        refine ⟨inner, fault, ?_⟩
        simp [checkReference, accepted, checkTarget_symbolic, targetBreaks.1, refused]

/-- Any other reference is checked as if names were not validated. -/
theorem checkReference_of_not_breaksRules {reference : Reference} {force : Bool}
    {expected : Option Target} (proper : ¬ (Call.write reference force expected).BreaksRules)
    (config : StoreConfig) :
    checkReference config reference = checkReference .permissive reference := by
  rcases reference with ⟨name, target⟩
  rcases not_or.mp proper with ⟨properName, properTarget⟩
  simp only [checkReference, checkName_of_not_breaksRules properName config]
  cases accepted : checkName .permissive name with
  | error error => rfl
  | ok _ =>
      cases target with
      | direct id => rfl
      | symbolic target =>
          have valid : RefName.IsValid name :=
            isValid_of_not_breaksRules properName (checkName_eq_ok_iff.mp accepted).1
          have properInner : ¬ RefName.BreaksRules target := by
            intro breaks
            exact properTarget ⟨valid, target, rfl, breaks⟩
          simp only [checkTarget_symbolic, checkName_of_not_breaksRules properInner config]

/-- Where names are not validated, none is refused for breaking the rules. -/
theorem checkName_permissive_ne (name other : String) (fault : NameFault) :
    checkName .permissive name ≠ .error (.invalidName other fault) := by
  by_cases empty : name = "" <;> simp [checkName, StoreConfig.permissive, empty]

/-- A permissive store never complains of an invalid name. -/
theorem checkReference_permissive_ne (reference : Reference) (name : String) (fault : NameFault) :
    checkReference .permissive reference ≠ .error (.invalidName name fault) := by
  rcases reference with ⟨own, target⟩
  unfold checkReference
  cases checked : checkName .permissive own with
  | error error =>
      intro refused
      cases refused
      exact checkName_permissive_ne own name fault checked
  | ok _ =>
      cases target with
      | direct id => cases isNull : id.isNull <;> simp [checkTarget, isNull]
      | symbolic target =>
          by_cases empty : target = ""
          · simp [checkTarget_symbolic, empty]
          · simpa [checkTarget_symbolic, empty] using checkName_permissive_ne target name fault

/-! ### Refusals -/

/-- Where names are validated, a call that breaks the rules is refused for this reason, and changes
nothing. -/
theorem perform_of_breaksRules {store : Store} (strict : store.config.validateNames = true)
    {call : Call} (breaks : call.BreaksRules) :
    ∃ name fault, store.perform call = (.error (.invalidName name fault), store) := by
  cases call with
  | write reference force expected =>
      obtain ⟨name, fault, refused⟩ := checkReference_of_breaksRules strict breaks
      exact ⟨name, fault, by simp [perform_write, write_of_refused refused, Except.map]⟩
  | rename oldName newName force =>
      obtain ⟨fault, refused⟩ := checkName_of_breaksRules strict breaks
      exact ⟨newName, fault, by simp [perform_rename, rename_of_refused refused, Except.map]⟩
  | _ => contradiction

/-- No other call is ever refused for this reason. -/
theorem perform_ne_invalidName {store : Store} (invariant : store.Invariant) {call : Call}
    (proper : ¬ call.BreaksRules) (name : String) (fault : NameFault) :
    (store.perform call).1 ≠ .error (.invalidName name fault) := by
  cases call with
  | write reference force expected =>
      rcases write_cases invariant reference force expected with
        ⟨error, failed, refused | rfl | rfl⟩ | ⟨next, succeeded, _⟩
      · rw [checkReference_of_not_breaksRules proper] at refused
        simp only [perform_write, failed]
        rintro ⟨⟩
        exact checkReference_permissive_ne reference name fault refused
      · simp [perform_write, failed, Except.map]
      · simp [perform_write, failed, Except.map]
      · simp [perform_write, succeeded, Except.map]
  | delete other expected =>
      rcases delete_cases invariant other expected with
        ⟨error, failed, ⟨rfl, _⟩ | rfl⟩ | ⟨next, succeeded, _⟩
      · simp [perform_delete, failed, Except.map]
      · simp [perform_delete, failed, Except.map]
      · simp [perform_delete, succeeded, Except.map]
  | rename oldName newName force =>
      rcases rename_cases invariant oldName newName force with
        ⟨error, failed, refused | rfl | ⟨rfl, _⟩⟩ | ⟨target, next, _, succeeded, _⟩
      · rw [checkName_of_not_breaksRules proper] at refused
        simp only [perform_rename, failed]
        rintro ⟨⟩
        exact checkName_permissive_ne newName name fault refused
      · simp [perform_rename, failed, Except.map]
      · simp [perform_rename, failed, Except.map]
      · simp [perform_rename, succeeded, Except.map]
  | lookup other =>
      simp only [perform_lookup, lookup_def]
      split <;> simp [Except.map]
  | log call => cases call <;> rintro ⟨⟩
  | _ => rintro ⟨⟩

/-! ### The permissive store -/

/-- The store with all that it holds, but without the validation of names. -/
def relaxed (store : Store) : Store :=
  { store with config := { store.config with validateNames := false } }

section

variable (store : Store)

@[simp] theorem slots_relaxed : store.relaxed.slots = store.slots := rfl

@[simp] theorem vacant_relaxed : store.relaxed.vacant = store.vacant := rfl

@[simp] theorem index_relaxed : store.relaxed.index = store.index := rfl

@[simp] theorem inSlot?_relaxed (slot : Nat) : store.relaxed.inSlot? slot = store.inSlot? slot := rfl

@[simp] theorem contains_relaxed (name : String) :
    store.relaxed.contains name = store.contains name := rfl

/-- Validation has no part in a lookup. -/
@[simp] theorem lookup_relaxed (name : String) : store.relaxed.lookup name = store.lookup name := by
  rw [lookup_def, lookup_def]
  rfl

/-- Validation has no part in where a new reference goes. -/
@[simp] theorem insertNew_relaxed (reference : Reference) :
    store.relaxed.insertNew reference = (store.insertNew reference).relaxed := by
  simp only [insertNew, vacant_relaxed]
  split <;> rfl

/-- Validation has no part in making room. -/
@[simp] theorem displace_relaxed (name : String) :
    store.relaxed.displace name = (store.displace name).relaxed := by
  simp only [displace, index_relaxed]
  split <;> rfl

/-- A write that passes the same check does the same. -/
theorem write_relaxed {reference : Reference}
    (checked : checkReference store.relaxed.config reference = checkReference store.config reference)
    (force : Bool) (expected : Option Target) :
    store.relaxed.write reference force expected =
      ((store.write reference force expected).1,
        (store.write reference force expected).2.relaxed) := by
  simp only [write_def, checked, index_relaxed]
  cases checkReference store.config reference with
  | error error => rfl
  | ok _ =>
      cases store.index[reference.name]? with
      | none => cases expected <;> simp
      | some slot =>
          cases force with
          | false => rfl
          | true =>
              simp only [inSlot?_relaxed]
              cases store.inSlot? slot with
              | none => rfl
              | some live =>
                  cases current : isStale expected live.target <;> simp [current, fill, relaxed]

/-- Validation has no part in a delete. -/
theorem delete_relaxed (name : String) (expected : Option Target) :
    store.relaxed.delete name expected =
      ((store.delete name expected).1, (store.delete name expected).2.relaxed) := by
  simp only [delete_def, index_relaxed]
  cases store.index[name]? with
  | none => rfl
  | some slot =>
      simp only [inSlot?_relaxed]
      cases store.inSlot? slot with
      | none => rfl
      | some live => cases current : isStale expected live.target <;> simp [current, unlink, relaxed]

/-- A rename that passes the same check does the same. -/
theorem rename_relaxed {newName : String}
    (checked : checkName store.relaxed.config newName = checkName store.config newName)
    (oldName : String) (force : Bool) :
    store.relaxed.rename oldName newName force =
      ((store.rename oldName newName force).1, (store.rename oldName newName force).2.relaxed) := by
  simp only [rename_def, checked, index_relaxed, contains_relaxed]
  cases checkName store.config newName with
  | error error => rfl
  | ok _ =>
      cases store.contains newName && !force with
      | true => rfl
      | false =>
          cases store.index[oldName]? with
          | none => rfl
          | some slot =>
              by_cases same : oldName = newName
              · simp only [if_pos same, lookup_relaxed]
                rfl
              · have moved : (store.relaxed.displace newName).rekey oldName newName slot =
                    ((store.displace newName).rekey oldName newName slot).relaxed := by
                  rw [displace_relaxed]
                  rfl
                simp only [if_neg same, moved, inSlot?_relaxed]
                cases ((store.displace newName).rekey oldName newName slot).inSlot? slot with
                | none => rfl
                | some live => rfl

/-- A call that does not break the rules does the same where names are not validated, and is answered
alike, unless it asks for the settings. -/
theorem perform_relaxed {call : Call} (proper : ¬ call.BreaksRules) :
    (call ≠ .config → (store.relaxed.perform call).1 = (store.perform call).1) ∧
      (store.relaxed.perform call).2 = (store.perform call).2.relaxed := by
  cases call with
  | write reference force expected =>
      have checked : checkReference store.relaxed.config reference =
          checkReference store.config reference :=
        (checkReference_of_not_breaksRules proper _).trans
          (checkReference_of_not_breaksRules proper _).symm
      simp [perform_write, store.write_relaxed checked]
  | delete name expected =>
      simp [perform_delete, delete_relaxed]
  | rename oldName newName force =>
      have checked : checkName store.relaxed.config newName = checkName store.config newName :=
        (checkName_of_not_breaksRules proper _).trans (checkName_of_not_breaksRules proper _).symm
      simp [perform_rename, store.rename_relaxed checked]
  | lookup name => simp [perform_lookup]
  | config => exact ⟨fun other => absurd rfl other, rfl⟩
  | _ => exact ⟨fun _ => rfl, rfl⟩

end

/-! ### Runs -/

/-- Two calls with their outcomes are the same, except that the stores may have different settings. -/
structure AgreeApartFromSettings (one other : Call × Outcome Answer) : Prop where
  call : one.1 = other.1
  answer : one.1 ≠ .config → one.2.1 = other.2.1
  slots : one.2.2.slots = other.2.2.slots
  vacant : one.2.2.vacant = other.2.2.vacant
  index : one.2.2.index = other.2.2.index

/-- A call that breaks no rule does the same where names are validated as where they are not. -/
theorem agree_perform_relaxed (store : Store) {call : Call} (proper : ¬ call.BreaksRules) :
    AgreeApartFromSettings (call, store.perform call) (call, store.relaxed.perform call) := by
  obtain ⟨sameAnswer, sameStore⟩ := store.perform_relaxed proper
  refine ⟨rfl, fun notConfig => (sameAnswer notConfig).symm, ?_, ?_, ?_⟩ <;> simp [sameStore]

/-- Spared the calls that break the rules, the permissive store goes the way of the strict one. -/
theorem Invariant.trace_relaxed {store : Store} (invariant : store.Invariant)
    (strict : store.config.validateNames = true) (calls : List Call) :
    List.Forall₂ AgreeApartFromSettings
      ((calls.zip (store.trace calls)).filter fun step => ¬ step.1.BreaksRules)
      ((calls.filter fun call => ¬ call.BreaksRules).zip
        (store.relaxed.trace (calls.filter fun call => ¬ call.BreaksRules))) := by
  induction calls generalizing store with
  | nil => exact .nil
  | cons call calls inductionHypothesis =>
      have kept : (store.perform call).2.config = store.config := invariant.config_run [call]
      have stillStrict : (store.perform call).2.config.validateNames = true := by
        rw [kept, strict]
      have rest := inductionHypothesis (invariant.perform call) stillStrict
      rw [trace, List.zip_cons_cons]
      by_cases breaks : call.BreaksRules
      · obtain ⟨name, fault, refused⟩ := perform_of_breaksRules strict breaks
        simpa [breaks, refused] using rest
      · rw [List.filter_cons_of_pos (by simpa using breaks),
          List.filter_cons_of_pos (by simpa using breaks), trace, List.zip_cons_cons]
        rw [← (store.perform_relaxed breaks).2] at rest
        exact .cons (store.agree_perform_relaxed breaks) rest

/-- In every run of a store that validates names, a call is refused because of a name that breaks the
rules exactly when it gives such a name and has no earlier fault, whatever the store holds, and then
nothing changes.  A store with the same settings but without validation, to which only the other
calls of the run are made, answers them all alike, the question for the settings apart, and goes
through the same slots, vacant slots and index. -/
theorem validation_only_gates (config : StoreConfig) (calls : List Call) :
    let strict := empty { config with validateNames := true }
    let permissive := empty { config with validateNames := false }
    let remaining := calls.filter fun call => ¬ call.BreaksRules
    (∀ call,
      ((∃ name fault, ((strict.run calls).perform call).1 = .error (.invalidName name fault)) ↔
        call.BreaksRules) ∧
      (call.BreaksRules → ((strict.run calls).perform call).2 = strict.run calls)) ∧
    List.Forall₂ AgreeApartFromSettings
      ((calls.zip (strict.trace calls)).filter fun step => ¬ step.1.BreaksRules)
      (remaining.zip (permissive.trace remaining)) := by
  intro strict permissive remaining
  have start : strict.Invariant := invariant_empty _
  have invariant : (strict.run calls).Invariant := start.run calls
  have validates : (strict.run calls).config.validateNames = true := by
    rw [start.config_run]
    rfl
  refine ⟨?_, start.trace_relaxed rfl calls⟩
  intro call
  refine ⟨⟨?_, ?_⟩, ?_⟩
  · rintro ⟨name, fault, refused⟩
    apply Classical.not_not.mp
    intro proper
    exact perform_ne_invalidName invariant proper name fault refused
  · intro breaks
    obtain ⟨name, fault, refused⟩ := perform_of_breaksRules validates breaks
    exact ⟨name, fault, by rw [refused]⟩
  · intro breaks
    obtain ⟨name, fault, refused⟩ := perform_of_breaksRules validates breaks
    rw [refused]

/-- A reference with two faults is refused by both stores, for one fault here and for the other one
there; the call is not among those that are made to both. -/
example :
    let call : Call := .write (.direct "a b" (.null .sha1)) false none
    call.BreaksRules ∧
    ((empty {}).perform call).1 = .error (.invalidName "a b" (.forbiddenCharacter ' ')) ∧
    ((empty .permissive).perform call).1 = .error (.invalidInput (.nullTarget "a b")) := by
  decide

end Store

end NamedRefs

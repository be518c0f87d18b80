/-
Module: NamedRefs.Proofs.Wire.RoundTrip
Purpose: What is written in wire form is read back, and reading then writing is a normal form.
Main exports: LawfulWireForm and its instances, WireForm.RoundTrips, WireForm.RoundTrips.of_lawful,
  wire_forms_round_trip
-/
import NamedRefs.Proofs.ObjectId.Hexadecimal
import NamedRefs.Wire.Record

namespace NamedRefs

/-!
Every type writes one form and reads more: digits in upper case, arrays for records, records without
the fields that may be missing.  One law is enough for all of them: what was written is read back.
It passes from the parts of a value to the whole, field by field.
-/

/-- A type whose written form is among those that it reads. -/
class LawfulWireForm (Value : Type) [WireForm Value] : Prop where
  ofJson?_toJson (value : Value) : ofJson? (toJson value) = some value

export LawfulWireForm (ofJson?_toJson)

attribute [simp] ofJson?_toJson

namespace WireForm

/-- The written form of what is read. -/
def normal? (Value : Type) [WireForm Value] (json : Json) : Option Json :=
  (ofJson? json : Option Value).map toJson

/-- What a wire form is for: writing loses nothing, and reading followed by writing settles on one
form of each value. -/
structure RoundTrips (Value : Type) [WireForm Value] : Prop where
  restores : ∀ value : Value, ofJson? (toJson value) = some value
  injective : Function.Injective (toJson : Value → Json)
  normalizes : ∀ json normal, normal? Value json = some normal →
    (ofJson? normal : Option Value) = ofJson? json ∧ normal? Value normal = some normal

end WireForm

/-- The law gives everything else. -/
theorem WireForm.RoundTrips.of_lawful (Value : Type) [WireForm Value] [LawfulWireForm Value] :
    RoundTrips Value := by
  constructor
  case restores => exact ofJson?_toJson
  case injective =>
    intro first second same
    have read := ofJson?_toJson first
    rw [same, ofJson?_toJson] at read
    exact (Option.some.inj read).symm
  case normalizes =>
    intro json normal normalized
    obtain ⟨value, read, rfl⟩ := Option.map_eq_some_iff.mp normalized
    have again : ofJson? (toJson value) = some value := ofJson?_toJson value
    exact ⟨again.trans read.symm, congrArg (Option.map toJson) again⟩

/-! ### Parts of values -/

/-- A case is found under its name when no other case goes by that name. -/
theorem caseNamed?_name {Case : Type} {cases : List Case} {nameOf : Case → String} {chosen : Case}
    (isCase : chosen ∈ cases)
    (distinct : ∀ other ∈ cases, nameOf other = nameOf chosen → other = chosen) :
    caseNamed? cases nameOf (.string (nameOf chosen)) = some chosen := by
  have found : (cases.find? fun other => nameOf other == nameOf chosen).isSome :=
    List.find?_isSome.mpr ⟨chosen, isCase, beq_self_eq_true _⟩
  obtain ⟨first, isFirst⟩ := Option.isSome_iff_exists.mp found
  have sameName : nameOf first = nameOf chosen := by simpa using List.find?_some isFirst
  have same := distinct first (List.mem_of_find?_eq_some isFirst) sameName
  exact same ▸ isFirst

/-- A list of values written one by one is restored one by one. -/
theorem mapM_ofJson?_toJson {Value : Type} [WireForm Value] [LawfulWireForm Value]
    (values : List Value) : (values.map toJson).mapM ofJson? = some values := by
  induction values with
  | nil => rfl
  | cons value values inductionHypothesis =>
      rw [List.map_cons, List.mapM_cons, ofJson?_toJson, inductionHypothesis]
      rfl

namespace Json

/-- A word written as a number is restored. -/
@[simp] theorem word?_natural (value : UInt64) : word? (natural value.toNat) = some value := by
  have small : value.toNat < UInt64.size := value.toNat_lt_size
  rw [natural, word?, if_pos small]
  exact congrArg some UInt64.ofNat_toNat

/-- A value that may be missing is read back when its written form is never null. -/
theorem option?_ofOption {Value : Type} (read : Json → Option Value) (write : Value → Json)
    (readsBack : ∀ value, read (write value) = some value) (present : ∀ value, write value ≠ .null)
    (optional : Option Value) : option? read (ofOption write optional) = some optional := by
  cases optional with
  | none => rfl
  | some value =>
      rw [ofOption, option?, readsBack]
      · rfl
      · exact present value

end Json

/-! ### The types -/

instance : LawfulWireForm ObjectFormat where
  ofJson?_toJson format := caseNamed?_name (by cases format <;> decide) (by cases format <;> decide)

instance : LawfulWireForm TargetKind where
  ofJson?_toJson kind := caseNamed?_name (by cases kind <;> decide) (by cases kind <;> decide)

instance : LawfulWireForm StatusCode where
  ofJson?_toJson status := caseNamed?_name (by cases status <;> decide) (by cases status <;> decide)

instance : LawfulWireForm ObjectId where
  ofJson?_toJson id := by
    change (ObjectId.ofHex id.hex).toOption = some id
    rw [ObjectId.ofHex_hex]
    rfl

instance : LawfulWireForm Target where
  ofJson?_toJson target := by
    cases target with
    | direct id =>
        change (ofJson? (toJson id)).map Target.direct = some (.direct id)
        rw [ofJson?_toJson]
        rfl
    | symbolic name => rfl

instance : LawfulWireForm Reference where
  ofJson?_toJson reference := by
    change Reference.ofFields? (.string reference.name) (toJson reference.target) = some reference
    simp [Reference.ofFields?, Json.string?]

instance : LawfulWireForm LogEntry where
  ofJson?_toJson entry := by
    change LogEntry.ofFields? (toJson entry.oldId) (toJson entry.newId) (.string entry.committer)
      (Json.ofOption .string entry.message) = some entry
    have message : (Json.ofOption .string entry.message).option? Json.string? = some entry.message :=
      Json.option?_ofOption Json.string? Json.string (fun text => rfl) (fun text => nofun)
        entry.message
    simp [LogEntry.ofFields?, Json.string?, message]

instance : LawfulWireForm Reflog where
  ofJson?_toJson log := by
    change Reflog.ofFields? (.string log.name) (.array (log.entries.map toJson)) = some log
    simp only [Reflog.ofFields?, mapM_ofJson?_toJson]
    rfl

instance : LawfulWireForm StoreConfig where
  ofJson?_toJson config := by
    change StoreConfig.ofFields? (some (.natural config.initialCapacity.toNat))
      (some (.bool config.validateNames)) (some (.natural config.statsBuckets.toNat)) = some config
    simp [StoreConfig.ofFields?, Json.orDefault, Json.bool?]

/-- Every type of the wire format round trips: what is written is read back as the value that was
written, so no two values have the same written form, and any other accepted spelling of a value,
once it was read and written, is read as the same value and stays as it is. -/
theorem wire_forms_round_trip :
    WireForm.RoundTrips ObjectId ∧ WireForm.RoundTrips ObjectFormat ∧
    WireForm.RoundTrips Target ∧ WireForm.RoundTrips TargetKind ∧
    WireForm.RoundTrips Reference ∧ WireForm.RoundTrips LogEntry ∧
    WireForm.RoundTrips Reflog ∧ WireForm.RoundTrips StatusCode ∧
    WireForm.RoundTrips StoreConfig :=
  ⟨.of_lawful _, .of_lawful _, .of_lawful _, .of_lawful _, .of_lawful _, .of_lawful _,
    .of_lawful _, .of_lawful _, .of_lawful _⟩

/-- A configuration that stops early and one with a field that is none have the same normal form. -/
example :
    WireForm.normal? StoreConfig (.array [.integer 7]) =
      WireForm.normal? StoreConfig (.object [("colour", .null), ("initial_capacity", .integer 7)]) ∧
    WireForm.normal? StoreConfig (.array [.integer 7]) =
      some (.object [("initial_capacity", .integer 7), ("validate_names", .bool true),
        ("stats_buckets", .integer 1223)]) :=
  ⟨rfl, rfl⟩

end NamedRefs

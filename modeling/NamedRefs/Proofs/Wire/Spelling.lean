/-
Module: NamedRefs.Proofs.Wire.Spelling
Purpose: The spellings in which a record is read have the same outcome.
Main exports: Json.DistinctKeys, Json.Spells, Json.Respelled, ReadsFields, ReadsFields.of_respelled,
  SpellingsAgree, SpellingsAgree.of_reads, Reflog.ofJson?_of_respelled, StoreConfig.ofJson?_of_prefix,
  spellings_of_a_record_agree
-/
import Mathlib.Data.List.Forall2
import NamedRefs.Proofs.Wire.RoundTrip

namespace NamedRefs

/-!
A record is read from an object or from an array, by two readers.  Both hand the same list to what is
behind them: the values of the fields in their order, with gaps where the object has no such entry.
This is all that `ReadsFields` says of a type, and what it says is enough: an object is only asked for
its fields, so that neither the order of its entries nor any others matter, and a record whose fields
are all present gives the same list in either spelling.
-/

namespace Json

variable {names : List String} {entries first second : List (String × Json)} {name : String}
  {value json : Json} {values : List Json}

/-! ### Entries -/

/-- No key of an object comes twice. -/
def DistinctKeys (entries : List (String × Json)) : Prop :=
  (entries.map Prod.fst).Nodup

/-- The entries of an object that are fields of a record. -/
def known (names : List String) (entries : List (String × Json)) : List (String × Json) :=
  entries.filter fun entry => names.contains entry.1

/-- Among distinct keys, a field has the value that stands with its name. -/
theorem field?_eq_some_iff (distinct : DistinctKeys entries) :
    field? name entries = some value ↔ (name, value) ∈ entries := by
  induction entries with
  | nil => simp [field?]
  | cons entry entries inductionHypothesis =>
      rcases entry with ⟨key, content⟩
      obtain ⟨unused, distinct⟩ := List.nodup_cons.mp distinct
      rw [field?, List.lookup_cons, List.mem_cons]
      by_cases same : name = key
      · subst same
        have elsewhere : (name, value) ∉ entries :=
          fun member => unused (List.mem_map.mpr ⟨_, member, rfl⟩)
        simp [elsewhere, eq_comm]
      · have different : (name == key) = false := beq_false_of_ne same
        simp only [different, Prod.mk.injEq, same, false_and, false_or]
        exact inductionHypothesis distinct

/-- A field is found by its name alone, wherever it stands. -/
theorem field?_congr (firstDistinct : DistinctKeys first) (secondDistinct : DistinctKeys second)
    (sameFields : (known names first).Perm (known names second)) (isField : name ∈ names) :
    field? name first = field? name second := by
  have member : ∀ entries value, (name, value) ∈ known names entries ↔ (name, value) ∈ entries := by
    intro entries value
    simp [known, isField]
  apply Option.ext
  intro value
  rw [field?_eq_some_iff firstDistinct, field?_eq_some_iff secondDistinct, ← member first,
    ← member second]
  exact sameFields.mem_iff

/-! ### The first few fields under their names -/

/-- Names that are distinct make distinct keys. -/
theorem distinctKeys_zip (distinct : names.Nodup) (noLonger : values.length ≤ names.length) :
    DistinctKeys (names.zip values) := by
  have cut : names.zip values = (names.take values.length).zip values := by
    rw [List.zip_eq_zip_take_min, Nat.min_eq_right noLonger, List.take_length]
  rw [DistinctKeys, cut, List.map_fst_zip (List.length_take_le _ _)]
  exact distinct.sublist (List.take_sublist _ _)

/-- Values paired with the known names are all known. -/
theorem known_zip (names : List String) (values : List Json) :
    known names (names.zip values) = names.zip values := by
  apply List.filter_eq_self.mpr
  rintro ⟨name, value⟩ member
  exact List.contains_iff_mem.mpr (List.of_mem_zip member).1

/-! ### Spellings -/

/-- The two spellings of a record whose fields are all present and have these values: an object that
has each of them under its name, in any order and among other entries, and the array of the values. -/
inductive Spells (names : List String) (values : List Json) : Json → Prop where
  | object {entries : List (String × Json)} (distinct : DistinctKeys entries)
      (present : List.Forall₂ (fun name value => (name, value) ∈ entries) names values) :
      Spells names values (.object entries)
  | array (complete : values.length = names.length) : Spells names values (.array values)

/-- One spelling in the place of another.  Entries may be put into another order, and others that are
no fields may be added or removed; where all fields are present, the object and the array may stand
for one another. -/
inductive Respelled (names : List String) : Json → Json → Prop where
  | same (json : Json) : Respelled names json json
  | entries {first second : List (String × Json)} (firstDistinct : DistinctKeys first)
      (secondDistinct : DistinctKeys second)
      (sameFields : (known names first).Perm (known names second)) :
      Respelled names (.object first) (.object second)
  | complete {values : List Json} {first second : Json} (one : Spells names values first)
      (other : Spells names values second) : Respelled names first second

/-- The object of all names with their values spells these values. -/
theorem Spells.of_zip (distinct : names.Nodup) (complete : values.length = names.length) :
    Spells names values (.object (names.zip values)) := by
  apply Spells.object
  · exact distinctKeys_zip distinct (Nat.le_of_eq complete)
  · exact List.forall₂_iff_zip.mpr ⟨complete.symm, id⟩

/-- The fields of an object that has them all are its values, in the order of the names. -/
theorem map_field?_of_present (distinct : DistinctKeys entries)
    (present : List.Forall₂ (fun name value => (name, value) ∈ entries) names values) :
    names.map (field? · entries) = values.map some := by
  induction present with
  | nil => rfl
  | cons isEntry _ inductionHypothesis =>
      rw [List.map_cons, List.map_cons, inductionHypothesis,
        (field?_eq_some_iff distinct).mpr isEntry]

end Json

/-! ### Reading fields -/

/-- How a record is read: whatever its spelling, from the values of its fields in their order.  An
object may lack some of them. -/
structure ReadsFields (Value : Type) [WireForm Value] (names : List String)
    (read : List (Option Json) → Option Value) : Prop where
  object : ∀ entries,
    (ofJson? (.object entries) : Option Value) = read (names.map (Json.field? · entries))
  array : ∀ values, values.length = names.length →
    (ofJson? (.array values) : Option Value) = read (values.map some)

namespace ReadsFields

variable {Value : Type} [WireForm Value] {names : List String}
  {read : List (Option Json) → Option Value} {values : List Json} {first second json : Json}

/-- A record is read from any spelling of its values as from the values. -/
theorem of_spells (reads : ReadsFields Value names read) (spells : Json.Spells names values json) :
    ofJson? json = read (values.map some) := by
  cases spells with
  | object distinct present => rw [reads.object, Json.map_field?_of_present distinct present]
  | array complete => exact reads.array values complete

/-- Respelling a record does not change what it is read as, or that it is not read. -/
theorem of_respelled (reads : ReadsFields Value names read)
    (respelled : Json.Respelled names first second) :
    (ofJson? first : Option Value) = ofJson? second := by
  cases respelled with
  | same => rfl
  | entries firstDistinct secondDistinct sameFields =>
      rw [reads.object, reads.object]
      congr 1
      apply List.map_congr_left
      intro name isField
      exact Json.field?_congr firstDistinct secondDistinct sameFields isField
  | complete one other => rw [reads.of_spells one, reads.of_spells other]

end ReadsFields

/-- What the spellings of a record have to do with each other. -/
structure SpellingsAgree (Value : Type) [WireForm Value] (names : List String) : Prop where
  respelled : ∀ first second, Json.Respelled names first second →
    (ofJson? first : Option Value) = ofJson? second
  tooLong : ∀ values, names.length < values.length →
    (ofJson? (.array values) : Option Value) = none
  /-- The fields are those that are written, and the array of what is written for them is read. -/
  written : ∀ value : Value, ∃ values, values.length = names.length ∧
    toJson value = .object (names.zip values) ∧ ofJson? (.array values) = some value

/-- A record that is read by its field names is the same in all its spellings. -/
theorem SpellingsAgree.of_reads {Value : Type} [WireForm Value] [LawfulWireForm Value]
    {names : List String} {read : List (Option Json) → Option Value}
    (reads : ReadsFields Value names read) (distinct : names.Nodup)
    (tooLong : ∀ values, names.length < values.length →
      (ofJson? (.array values) : Option Value) = none)
    (writes : ∀ value : Value, ∃ values, values.length = names.length ∧
      toJson value = .object (names.zip values)) : SpellingsAgree Value names where
  respelled _ _ respelled := reads.of_respelled respelled
  tooLong := tooLong
  written value := by
    obtain ⟨values, complete, written⟩ := writes value
    refine ⟨values, complete, written, ?_⟩
    have asArray : Json.Respelled names (.array values) (toJson value) :=
      .complete (.array complete) (written ▸ .of_zip distinct complete)
    exact (reads.of_respelled asArray).trans (ofJson?_toJson value)

/-! ### The four records -/

namespace Reference

/-- The fields of a reference in their order. -/
def fieldNames : List String := ["name", "target"]

/-- Read a reference from its fields, all of which are needed. -/
def ofValues? : List (Option Json) → Option Reference
  | [some name, some target] => ofFields? name target
  | _ => none

theorem readsFields : ReadsFields Reference fieldNames ofValues? where
  object entries := by
    change ((Json.field? "name" entries).bind fun name =>
      (Json.field? "target" entries).bind fun target => ofFields? name target) =
        ofValues? [Json.field? "name" entries, Json.field? "target" entries]
    cases Json.field? "name" entries <;> cases Json.field? "target" entries <;> rfl
  array values complete := by
    match values, complete with
    | [_, _], _ => rfl

theorem spellingsAgree : SpellingsAgree Reference fieldNames := by
  apply SpellingsAgree.of_reads readsFields (by decide)
  · intro values tooLong
    match values, tooLong with
    | _ :: _ :: _ :: _, _ => rfl
  · intro reference
    exact ⟨[_, _], rfl, rfl⟩

end Reference

namespace LogEntry

/-- The fields of a log entry in their order. -/
def fieldNames : List String := ["old", "new", "committer", "message"]

/-- Read a log entry from its fields, of which the message may be missing. -/
def ofValues? : List (Option Json) → Option LogEntry
  | [some oldId, some newId, some committer, message] =>
      ofFields? oldId newId committer (message.getD .null)
  | _ => none

theorem readsFields : ReadsFields LogEntry fieldNames ofValues? where
  object entries := by
    change ((Json.field? "old" entries).bind fun oldId =>
      (Json.field? "new" entries).bind fun newId =>
        (Json.field? "committer" entries).bind fun committer =>
          ofFields? oldId newId committer ((Json.field? "message" entries).getD .null)) =
        ofValues? [Json.field? "old" entries, Json.field? "new" entries,
          Json.field? "committer" entries, Json.field? "message" entries]
    cases Json.field? "old" entries <;> cases Json.field? "new" entries <;>
      cases Json.field? "committer" entries <;> rfl
  array values complete := by
    match values, complete with
    | [_, _, _, _], _ => rfl

theorem spellingsAgree : SpellingsAgree LogEntry fieldNames := by
  apply SpellingsAgree.of_reads readsFields (by decide)
  · intro values tooLong
    match values, tooLong with
    | _ :: _ :: _ :: _ :: _ :: _, _ => rfl
  · intro entry
    exact ⟨[_, _, _, _], rfl, rfl⟩

end LogEntry

namespace Reflog

/-- The fields of a log in their order. -/
def fieldNames : List String := ["name", "entries"]

/-- Read a log from its fields, all of which are needed. -/
def ofValues? : List (Option Json) → Option Reflog
  | [some name, some entries] => ofFields? name entries
  | _ => none

theorem readsFields : ReadsFields Reflog fieldNames ofValues? where
  object entries := by
    change ((Json.field? "name" entries).bind fun name =>
      (Json.field? "entries" entries).bind fun contents => ofFields? name contents) =
        ofValues? [Json.field? "name" entries, Json.field? "entries" entries]
    cases Json.field? "name" entries <;> cases Json.field? "entries" entries <;> rfl
  array values complete := by
    match values, complete with
    | [_, _], _ => rfl

theorem spellingsAgree : SpellingsAgree Reflog fieldNames := by
  apply SpellingsAgree.of_reads readsFields (by decide)
  · intro values tooLong
    match values, tooLong with
    | _ :: _ :: _ :: _, _ => rfl
  · intro log
    exact ⟨[_, _], rfl, rfl⟩

/-- Log entries spelled in another way are the same log entries. -/
theorem mapM_ofJson?_of_respelled {elements others : List Json}
    (respelled : List.Forall₂ (Json.Respelled LogEntry.fieldNames) elements others) :
    (elements.mapM ofJson? : Option (List LogEntry)) = others.mapM ofJson? := by
  induction respelled with
  | nil => rfl
  | cons first _ inductionHypothesis =>
      rw [List.mapM_cons, List.mapM_cons, LogEntry.readsFields.of_respelled first,
        inductionHypothesis]

/-- The entries of a log may be respelled one by one, and the log around them as well. -/
theorem ofJson?_of_respelled {name first second : Json} {elements others : List Json}
    (respelled : List.Forall₂ (Json.Respelled LogEntry.fieldNames) elements others)
    (one : Json.Spells fieldNames [name, .array elements] first)
    (other : Json.Spells fieldNames [name, .array others] second) :
    (ofJson? first : Option Reflog) = ofJson? second := by
  rw [readsFields.of_spells one, readsFields.of_spells other]
  change ofFields? name (.array elements) = ofFields? name (.array others)
  simp only [ofFields?, mapM_ofJson?_of_respelled respelled]

end Reflog

namespace StoreConfig

/-- The fields of a configuration in their order. -/
def fieldNames : List String := ["initial_capacity", "validate_names", "stats_buckets"]

/-- Read a configuration from its fields, each of which may be missing. -/
def ofValues? : List (Option Json) → Option StoreConfig
  | [initialCapacity, validateNames, statsBuckets] =>
      ofFields? initialCapacity validateNames statsBuckets
  | _ => none

theorem readsFields : ReadsFields StoreConfig fieldNames ofValues? where
  object _ := rfl
  array values complete := by
    match values, complete with
    | [_, _, _], _ => rfl

/-- An array with more values than there are settings is refused. -/
theorem ofJson?_of_tooLong {values : List Json} (tooLong : fieldNames.length < values.length) :
    (ofJson? (.array values) : Option StoreConfig) = none :=
  if_neg (Nat.not_le.mpr tooLong)

theorem spellingsAgree : SpellingsAgree StoreConfig fieldNames := by
  apply SpellingsAgree.of_reads readsFields (by decide)
  · intro values
    exact ofJson?_of_tooLong
  · intro config
    exact ⟨[_, _, _], rfl, rfl⟩

/-- An array that stops early is read as the object of the fields that it has. -/
theorem ofJson?_of_prefix {values : List Json} (noLonger : values.length ≤ fieldNames.length) :
    (ofJson? (.array values) : Option StoreConfig) = ofJson? (.object (fieldNames.zip values)) := by
  match values, noLonger with
  | [], _ | [_], _ | [_, _], _ | [_, _, _], _ => rfl

/-- Every field that is left out is read as its default would be. -/
theorem ofJson?_append_defaults {values : List Json} (noLonger : values.length ≤ fieldNames.length) :
    (ofJson? (.array values) : Option StoreConfig) =
      ofJson? (.array (values ++
        [Json.natural 1223, .bool true, .natural 1223].drop values.length)) := by
  match values, noLonger with
  | [], _ | [_], _ | [_, _], _ | [_, _, _], _ => rfl

end StoreConfig

/-- Of each of the four records, an object with distinct keys is read by its fields alone, in whatever
order they come and whatever else is there; where it has all of them, the array of their values in
their order is read as the same value, or neither is read; and an array with more elements is never
read.  The entries of a log may be spelled either way, each one for itself.  An array of the first few
fields of a configuration is read as an object that has just these fields, and as if the written
defaults of the others followed. -/
theorem spellings_of_a_record_agree :
    SpellingsAgree Reference Reference.fieldNames ∧ SpellingsAgree LogEntry LogEntry.fieldNames ∧
    SpellingsAgree Reflog Reflog.fieldNames ∧ SpellingsAgree StoreConfig StoreConfig.fieldNames ∧
    (∀ name elements others first second,
      List.Forall₂ (Json.Respelled LogEntry.fieldNames) elements others →
      Json.Spells Reflog.fieldNames [name, .array elements] first →
      Json.Spells Reflog.fieldNames [name, .array others] second →
      (ofJson? first : Option Reflog) = ofJson? second) ∧
    ∃ defaults, toJson ({} : StoreConfig) = .object (StoreConfig.fieldNames.zip defaults) ∧
      ∀ values, values.length ≤ StoreConfig.fieldNames.length →
        (∀ entries, Json.DistinctKeys entries →
          (Json.known StoreConfig.fieldNames entries).Perm (StoreConfig.fieldNames.zip values) →
          (ofJson? (.array values) : Option StoreConfig) = ofJson? (.object entries)) ∧
        (ofJson? (.array values) : Option StoreConfig) =
          ofJson? (.array (values ++ defaults.drop values.length)) := by
  refine ⟨Reference.spellingsAgree, LogEntry.spellingsAgree, Reflog.spellingsAgree,
    StoreConfig.spellingsAgree, ?log, [Json.natural 1223, .bool true, .natural 1223], rfl,
    fun values noLonger => ⟨?fields, StoreConfig.ofJson?_append_defaults noLonger⟩⟩
  case log =>
    intro name elements others first second respelled one other
    exact Reflog.ofJson?_of_respelled respelled one other
  case fields =>
    intro entries distinct sameFields
    rw [StoreConfig.ofJson?_of_prefix noLonger]
    apply StoreConfig.readsFields.of_respelled
    apply Json.Respelled.entries (Json.distinctKeys_zip (by decide) noLonger) distinct
    rw [Json.known_zip]
    exact sameFields.symm

end NamedRefs

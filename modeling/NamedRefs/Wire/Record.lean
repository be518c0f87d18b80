/-
Module: NamedRefs.Wire.Record
Purpose: Wire forms of references, logs and configurations.
Main exports: WireForm instances of Reference, LogEntry, Reflog and StoreConfig
-/
import NamedRefs.Config
import NamedRefs.Reflog
import NamedRefs.Wire.Basic

namespace NamedRefs

/-!
A record travels as an object with one entry for each field.  On reading, entries with other names
are ignored, and the record may also be an array of its fields in their order.  A field of a
configuration may be missing from the object, or from the end of the array, and then has its
default; the message of a log entry may be missing from the object only.
-/

/-- Read a reference from its fields. -/
def Reference.ofFields? (name target : Json) : Option Reference := do
  return { name := ← name.string?, target := ← ofJson? target }

instance : WireForm Reference where
  toJson reference :=
    .object [("name", .string reference.name), ("target", toJson reference.target)]
  ofJson?
    | .object entries => do
        Reference.ofFields? (← Json.field? "name" entries) (← Json.field? "target" entries)
    | .array [name, target] => Reference.ofFields? name target
    | _ => none

/-- Read a log entry from its fields. -/
def LogEntry.ofFields? (oldId newId committer message : Json) : Option LogEntry := do
  return {
    oldId := ← ofJson? oldId
    newId := ← ofJson? newId
    committer := ← committer.string?
    message := ← message.option? Json.string? }

instance : WireForm LogEntry where
  toJson entry :=
    .object [
      ("old", toJson entry.oldId),
      ("new", toJson entry.newId),
      ("committer", .string entry.committer),
      ("message", Json.ofOption .string entry.message)]
  ofJson?
    | .object entries => do
        LogEntry.ofFields? (← Json.field? "old" entries) (← Json.field? "new" entries)
          (← Json.field? "committer" entries) ((Json.field? "message" entries).getD .null)
    | .array [oldId, newId, committer, message] =>
        LogEntry.ofFields? oldId newId committer message
    | _ => none

/-- Read a log from its fields. -/
def Reflog.ofFields? (name entries : Json) : Option Reflog :=
  match entries with
  | .array elements => do
      return { name := ← name.string?, entries := ← elements.mapM ofJson? }
  | _ => none

instance : WireForm Reflog where
  toJson log :=
    .object [("name", .string log.name), ("entries", .array (log.entries.map toJson))]
  ofJson?
    | .object fields => do
        Reflog.ofFields? (← Json.field? "name" fields) (← Json.field? "entries" fields)
    | .array [name, entries] => Reflog.ofFields? name entries
    | _ => none

/-- Read a field that has a default. -/
def Json.orDefault {Value : Type} (read : Json → Option Value) (default : Value) :
    Option Json → Option Value
  | none => some default
  | some json => read json

/-- Read a configuration from those of its fields that are present. -/
def StoreConfig.ofFields? (initialCapacity validateNames statsBuckets : Option Json) :
    Option StoreConfig := do
  let defaults : StoreConfig := {}
  return {
    initialCapacity := ← Json.orDefault Json.word? defaults.initialCapacity initialCapacity
    validateNames := ← Json.orDefault Json.bool? defaults.validateNames validateNames
    statsBuckets := ← Json.orDefault Json.word? defaults.statsBuckets statsBuckets }

instance : WireForm StoreConfig where
  toJson config :=
    .object [
      ("initial_capacity", .natural config.initialCapacity.toNat),
      ("validate_names", .bool config.validateNames),
      ("stats_buckets", .natural config.statsBuckets.toNat)]
  ofJson?
    | .object entries =>
        StoreConfig.ofFields? (Json.field? "initial_capacity" entries)
          (Json.field? "validate_names" entries) (Json.field? "stats_buckets" entries)
    | .array elements =>
        if elements.length ≤ 3 then
          StoreConfig.ofFields? elements[0]? elements[1]? elements[2]?
        else none
    | _ => none

end NamedRefs

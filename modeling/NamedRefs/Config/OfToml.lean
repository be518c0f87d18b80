/-
Module: NamedRefs.Config.OfToml
Purpose: Settings of a store read from a TOML document.
Main exports: StoreConfig.ofToml
-/
import NamedRefs.Config
import NamedRefs.Error
import NamedRefs.Toml.Standard

namespace NamedRefs.StoreConfig

/-!
Each setting has a key of its own, and a key that is missing leaves the default.  Other keys are
ignored.  There are no conversions between types: a number must be an integer that is not negative,
a switch must be a boolean.  Which texts are documents at all, and of which entries, is for the reader
of documents to say.
-/

/-- The number under a key. -/
def numberSetting (entries : Toml.Entries) (key : String) (default : UInt64) :
    Except ConfigFault UInt64 :=
  match Toml.find? key entries with
  | none => .ok default
  | some (.integer value) =>
      if 0 ≤ value then .ok value.toNat.toUInt64 else .error (.unsuitable key)
  | some _ => .error (.unsuitable key)

/-- The switch under a key. -/
def switchSetting (entries : Toml.Entries) (key : String) (default : Bool) :
    Except ConfigFault Bool :=
  match Toml.find? key entries with
  | none => .ok default
  | some (.boolean value) => .ok value
  | some _ => .error (.unsuitable key)

/-- The settings in the entries of a document. -/
def ofEntries (entries : Toml.Entries) : Except ConfigFault StoreConfig := do
  let defaults : StoreConfig := {}
  let initialCapacity ← numberSetting entries "initial_capacity" defaults.initialCapacity
  let validateNames ← switchSetting entries "validate_names" defaults.validateNames
  let statsBuckets ← numberSetting entries "stats_buckets" defaults.statsBuckets
  return { initialCapacity, validateNames, statsBuckets }

/-- Read settings from a text, with a reader of documents.  A text that asks for no buckets at all is
refused. -/
def ofToml (read : Toml.DocumentReader) (text : String) : Except ConfigFault StoreConfig :=
  match read text with
  | none => .error .malformed
  | some entries =>
      match ofEntries entries with
      | .error fault => .error fault
      | .ok config => if config.statsBuckets = 0 then .error .zeroBuckets else .ok config

end NamedRefs.StoreConfig

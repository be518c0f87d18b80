/-
Module: NamedRefs.Error
Purpose: The errors of the reference store and the status that each one is reported as.
Main exports: InputFault, ConfigFault, RefError, StatusCode, RefError.message, statusOf
-/
import NamedRefs.RefName.Fault

namespace NamedRefs

/-- Why a request is malformed although its name follows the naming rules. -/
inductive InputFault where
  | emptyName
  | nullTarget (name : String)
  | emptyTarget (name : String)
  /-- A reason that a caller states in its own words. -/
  | stated (reason : String)
deriving DecidableEq, Repr

/-- The reason in words. -/
def InputFault.message : InputFault → String
  | .emptyName => "ref name must not be empty"
  | .nullTarget name => s!"direct ref {name} has a null target"
  | .emptyTarget name => s!"symbolic ref {name} has an empty target"
  | .stated reason => reason

/-- Why a text gives no configuration. -/
inductive ConfigFault where
  /-- The text is not a document of key-value pairs. -/
  | malformed
  /-- The value of this key does not fit the setting. -/
  | unsuitable (key : String)
  | zeroBuckets
  /-- A reason that a caller states in its own words. -/
  | stated (reason : String)
deriving DecidableEq, Repr

/-- The reason in words. -/
def ConfigFault.message : ConfigFault → String
  | .malformed => "the text is not a valid document"
  | .unsuitable key => s!"the value of {key} does not fit"
  | .zeroBuckets => "stats_buckets must be non-zero"
  | .stated reason => reason

/-- The operations that a store may lack. -/
inductive Operation where
  | lock
  | unlock
deriving DecidableEq, Repr

/-- How the operation is called. -/
def Operation.name : Operation → String
  | .lock => "lock"
  | .unlock => "unlock"

/-- How an operation on references fails. -/
inductive RefError where
  | notFound (name : String)
  | alreadyExists (name : String)
  /-- The live value of the name is not the one that the caller expected. -/
  | modified (name : String)
  | invalidInput (fault : InputFault)
  | invalidName (name : String) (fault : NameFault)
  /-- The chain of symbolic references that starts here is cyclic or too long. -/
  | symbolicLoop (name : String)
  | outOfMemory
  | unimplemented (operation : Operation)
  | config (fault : ConfigFault)
deriving DecidableEq, Repr

/-- The error in words. -/
def RefError.message : RefError → String
  | .notFound name => s!"ref not found: {name}"
  | .alreadyExists name => s!"ref already exists: {name}"
  | .modified name => s!"ref was modified concurrently: {name}"
  | .invalidInput fault => s!"invalid input: {fault.message}"
  | .invalidName name fault => s!"invalid ref name: {name}: {fault.message}"
  | .symbolicLoop name => s!"symbolic ref chain too deep or cyclic at: {name}"
  | .outOfMemory => "out of memory"
  | .unimplemented operation => s!"operation not implemented: {operation.name}"
  | .config fault => s!"config error: {fault.message}"

/-- The status of a finished operation, coarser than its error. -/
inductive StatusCode where
  | success
  | notFound
  | alreadyExists
  | modified
  | invalidInput
  | outOfMemory
  | unimplemented
deriving DecidableEq, Repr

/-- How the status is called. -/
def StatusCode.name : StatusCode → String
  | .success => "Success"
  | .notFound => "NotFound"
  | .alreadyExists => "AlreadyExists"
  | .modified => "Modified"
  | .invalidInput => "InvalidInput"
  | .outOfMemory => "OutOfMemory"
  | .unimplemented => "Unimplemented"

/-- All statuses. -/
def StatusCode.all : List StatusCode :=
  [.success, .notFound, .alreadyExists, .modified, .invalidInput, .outOfMemory, .unimplemented]

/-- Everything that is wrong with the request itself is reported as one status. -/
def RefError.status : RefError → StatusCode
  | .notFound _ => .notFound
  | .alreadyExists _ => .alreadyExists
  | .modified _ => .modified
  | .invalidInput _ | .invalidName _ _ | .symbolicLoop _ | .config _ => .invalidInput
  | .outOfMemory => .outOfMemory
  | .unimplemented _ => .unimplemented

/-- The status of a result. -/
def statusOf {Result : Type} : Except RefError Result → StatusCode
  | .ok _ => .success
  | .error error => error.status

end NamedRefs

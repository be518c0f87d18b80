/-
Module: NamedRefs.Reflog
Purpose: Logs of the values that a reference had, and a keeper of logs that discards them.
Main exports: LogEntry, Reflog, DiscardingLog
-/
import NamedRefs.Error
import NamedRefs.Reference

namespace NamedRefs

/-- One change of a reference. -/
structure LogEntry where
  oldId : ObjectId
  newId : ObjectId
  committer : String
  message : Option String
deriving DecidableEq

/-- The changes of one reference. -/
structure Reflog where
  name : String
  entries : List LogEntry
deriving DecidableEq

/-!
A store without logs still answers every question about them: writing succeeds and keeps nothing, so
that there is never a log to be found.
-/

namespace DiscardingLog

/-- No reference has a log. -/
def hasLog (_name : String) : Bool := false

/-- Nothing needs to be prepared. -/
def ensure (_name : String) : Except RefError Unit := .ok ()

/-- There is no log to read. -/
def read (name : String) : Except RefError Reflog := .error (.notFound name)

/-- The log is dropped. -/
def write (_log : Reflog) : Except RefError Unit := .ok ()

/-- No log carries the old name. -/
def rename (_oldName _newName : String) : Except RefError Unit := .ok ()

/-- There is nothing to delete. -/
def delete (_name : String) : Except RefError Unit := .ok ()

end DiscardingLog

end NamedRefs

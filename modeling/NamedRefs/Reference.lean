/-
Module: NamedRefs.Reference
Purpose: References: names that stand for an object or for another name.
Main exports: Target, TargetKind, Reference
-/
import NamedRefs.ObjectId

namespace NamedRefs

/-- What a reference stands for. -/
inductive Target where
  /-- An object. -/
  | direct (id : ObjectId)
  /-- Whatever the reference of this name stands for. -/
  | symbolic (name : String)
deriving DecidableEq

/-- The two kinds of target. -/
inductive TargetKind where
  | direct
  | symbolic
deriving DecidableEq, Repr

/-- How the kind is called. -/
def TargetKind.name : TargetKind → String
  | .direct => "Direct"
  | .symbolic => "Symbolic"

namespace Target

/-- Which of the two kinds a target is of. -/
def kind : Target → TargetKind
  | .direct _ => .direct
  | .symbolic _ => .symbolic

/-- The object of a direct target. -/
def id? : Target → Option ObjectId
  | .direct id => some id
  | .symbolic _ => none

/-- The name in a symbolic target. -/
def name? : Target → Option String
  | .direct _ => none
  | .symbolic name => some name

/-- Whether a target stands for an object. -/
def isDirect (target : Target) : Bool :=
  target.kind == .direct

/-- Whether a target stands for another name. -/
def isSymbolic (target : Target) : Bool :=
  target.kind == .symbolic

/-- A direct target is shown by its digits, a symbolic one by the name behind a mark. -/
def toString : Target → String
  | .direct id => id.hex
  | .symbolic name => s!"ref: {name}"

instance : ToString Target := ⟨toString⟩

end Target

/-- A name together with its target. -/
structure Reference where
  name : String
  target : Target
deriving DecidableEq

namespace Reference

/-- A name for an object. -/
def direct (name : String) (id : ObjectId) : Reference :=
  { name, target := .direct id }

/-- A name for whatever another name stands for. -/
def symbolic (name target : String) : Reference :=
  { name, target := .symbolic target }

/-- The target first, then the name. -/
def toString (reference : Reference) : String :=
  s!"{reference.target} {reference.name}"

instance : ToString Reference := ⟨toString⟩

end Reference

end NamedRefs

/-
Module: NamedRefs.Wire.Json
Purpose: JSON values as the wire forms of the library see them.
Main exports: Json, Json.field?, Json.natural, Json.ofOption
-/

namespace NamedRefs

/-- A JSON value.  A number that is written with a fraction or an exponent is never taken for an
integer, so it is kept as it is written. -/
inductive Json where
  | null
  | bool (value : Bool)
  | integer (value : Int)
  | decimal (spelling : String)
  | string (value : String)
  | array (elements : List Json)
  | object (entries : List (String × Json))
deriving Repr, Inhabited, BEq

namespace Json

/-- The value of a field among the entries of an object. -/
def field? (name : String) (entries : List (String × Json)) : Option Json :=
  entries.lookup name

/-- A natural number. -/
def natural (value : Nat) : Json :=
  .integer (Int.ofNat value)

/-- The content of a string. -/
def string? : Json → Option String
  | .string value => some value
  | _ => none

/-- The value of a boolean. -/
def bool? : Json → Option Bool
  | .bool value => some value
  | _ => none

/-- An integer that fits sixty-four bits without a sign. -/
def word? : Json → Option UInt64
  | .integer (.ofNat value) => if value < UInt64.size then some value.toUInt64 else none
  | _ => none

/-- Write a value that may be missing; its absence is written as null. -/
def ofOption {Value : Type} (write : Value → Json) : Option Value → Json
  | some value => write value
  | none => .null

/-- Read a value that may be missing; null stands for its absence. -/
def option? {Value : Type} (read : Json → Option Value) : Json → Option (Option Value)
  | .null => some none
  | json => (read json).map some

end Json

end NamedRefs

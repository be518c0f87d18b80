/-
Module: NamedRefs.Wire.Basic
Purpose: Wire forms of identifiers, formats, kinds, statuses and targets.
Main exports: WireForm and its instances
-/
import NamedRefs.Error
import NamedRefs.Reference
import NamedRefs.Wire.Json

namespace NamedRefs

/-- A type whose values travel as JSON.  Writing has one form; reading may know several. -/
class WireForm (Value : Type) where
  toJson : Value → Json
  ofJson? : Json → Option Value

export WireForm (toJson ofJson?)

/-!
The cases of a type without contents travel by their names.  An object whose only entry gives the
name the value null is read as well.
-/

/-- The name of a case, in either of its spellings. -/
def Json.caseName? : Json → Option String
  | .string name => some name
  | .object [(name, .null)] => some name
  | _ => none

/-- Find the case that goes by a name. -/
def caseNamed? {Case : Type} (cases : List Case) (nameOf : Case → String) (json : Json) :
    Option Case :=
  json.caseName?.bind fun name => cases.find? fun candidate => nameOf candidate == name

instance : WireForm ObjectFormat where
  toJson format := .string format.name
  ofJson? := caseNamed? [.sha1, .sha256] ObjectFormat.name

instance : WireForm TargetKind where
  toJson kind := .string kind.name
  ofJson? := caseNamed? [.direct, .symbolic] TargetKind.name

instance : WireForm StatusCode where
  toJson status := .string status.name
  ofJson? := caseNamed? StatusCode.all StatusCode.name

/-- An identifier travels as its digits. -/
instance : WireForm ObjectId where
  toJson id := .string id.hex
  ofJson? json := json.string?.bind fun text => (ObjectId.ofHex text).toOption

/-- Read a target from its tag and content. -/
def Target.ofTagged? (tag : String) (content : Json) : Option Target :=
  if tag = TargetKind.direct.name then (ofJson? content).map .direct
  else if tag = TargetKind.symbolic.name then content.string?.map .symbolic
  else none

/-- A target travels as an object with one entry, which names its kind. -/
instance : WireForm Target where
  toJson
    | .direct id => .object [(TargetKind.direct.name, toJson id)]
    | .symbolic name => .object [(TargetKind.symbolic.name, .string name)]
  ofJson?
    | .object [(tag, content)] => Target.ofTagged? tag content
    | _ => none

end NamedRefs

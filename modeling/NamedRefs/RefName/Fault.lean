/-
Module: NamedRefs.RefName.Fault
Purpose: The reasons for which a reference name is refused.
Main exports: NameFault, NameFault.message
-/
import NamedRefs.Text.Quoted

namespace NamedRefs

/-- Why a text is not a reference name. -/
inductive NameFault where
  | empty
  | loneAt
  | controlCharacter (character : Char)
  | forbiddenCharacter (character : Char)
  | doubleDot
  | atBrace
  | slashAtEnd
  | dotAtEnd
  | doubleSlash
  | dottedComponent (component : String)
  | lockComponent (component : String)
  /-- A reason that a caller states in its own words; the naming rules never give it. -/
  | stated (reason : String)
deriving DecidableEq, Repr

/-- The reason in words. -/
def NameFault.message : NameFault → String
  | .empty => "ref name must not be empty"
  | .loneAt => "'@' alone is not a valid ref name"
  | .controlCharacter character =>
      s!"contains control character: {Text.quoteCharacter character}"
  | .forbiddenCharacter character =>
      s!"contains forbidden character: {Text.quoteCharacter character}"
  | .doubleDot => "must not contain '..'"
  | .atBrace => "must not contain '@\x7b'"
  | .slashAtEnd => "must not start or end with '/'"
  | .dotAtEnd => "must not end with '.'"
  | .doubleSlash => "must not contain consecutive slashes '//'"
  | .dottedComponent component =>
      s!"component must not start with '.': {Text.quoteText component}"
  | .lockComponent component =>
      s!"component must not end with '.lock': {Text.quoteText component}"
  | .stated reason => reason

end NamedRefs

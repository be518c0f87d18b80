/-
Module: NamedRefs.Glob.Token
Purpose: The parts of a compiled pattern and the texts that a sequence of them describes.
Main exports: ClassItem, Glob.Token, Glob.Token.accepts, Glob.Matches
-/

namespace NamedRefs.Glob

/-- A member of a bracket class. -/
inductive ClassItem where
  | member (character : Char)
  /-- All characters between two ends by code point; empty when the ends are out of order. -/
  | range (low high : Char)
deriving DecidableEq, Repr

/-- Whether the item covers the character. -/
def ClassItem.covers : ClassItem → Char → Bool
  | .member expected, character => expected == character
  | .range low high, character => low ≤ character && character ≤ high

/-- A part of a compiled pattern. -/
inductive Token where
  | literal (character : Char)
  | anyCharacter
  /-- Any run of characters. -/
  | star
  /-- One character of a class, or one outside it. -/
  | bracket (negated : Bool) (items : List ClassItem)
deriving DecidableEq, Repr

/-- Whether the token stands for this one character.  A star never does: what it absorbs is settled
by the rest of the pattern. -/
def Token.accepts : Token → Char → Bool
  | .literal expected, character => expected == character
  | .anyCharacter, _ => true
  | .star, _ => false
  | .bracket negated items, character => items.any (·.covers character) != negated

/-- The language of a sequence of tokens.  A star passes over some front part of the text and leaves
the rest to the tokens behind it; every other token takes one character that it accepts. -/
inductive Matches : List Token → List Char → Prop where
  | done : Matches [] []
  | star {tokens : List Token} {text : List Char} (skipped : List Char) :
      Matches tokens text → Matches (.star :: tokens) (skipped ++ text)
  | single {token : Token} {tokens : List Token} {character : Char} {text : List Char} :
      token.accepts character = true → Matches tokens text →
      Matches (token :: tokens) (character :: text)

end NamedRefs.Glob

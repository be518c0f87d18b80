/-
Module: NamedRefs.Text.Quoted
Purpose: Texts and characters as they are quoted in messages.
Main exports: Delimiter, escapeCharacter, quoteText, quoteCharacter
-/
import NamedRefs.Text.GraphemeExtend
import NamedRefs.Text.Printable

namespace NamedRefs.Text

/-!
A text is quoted between double marks and a character between single marks.  Inside, the mark in use
and the backslash take a backslash in front, four control characters have a short escape, and every
other character that a reader could not see, or not tell from the mark before it, is spelled by its
code point.
-/

/-- The mark that surrounds a quotation. -/
inductive Delimiter where
  | single
  | double
deriving DecidableEq, Repr

/-- The mark as a character. -/
def Delimiter.mark : Delimiter → Char
  | .single => '\''
  | .double => '"'

/-- The escape of a character by its code point, in lower-case hexadecimal without padding. -/
def codePointEscape (character : Char) : List Char :=
  ['\\', 'u', '\x7b'] ++ Nat.toDigits 16 character.toNat ++ ['\x7d']

/-- How one character is written inside a quotation. -/
def escapeCharacter (delimiter : Delimiter) (character : Char) : List Char :=
  if character = '\x00' then ['\\', '0']
  else if character = '\t' then ['\\', 't']
  else if character = '\n' then ['\\', 'n']
  else if character = '\r' then ['\\', 'r']
  else if character = '\\' || character = delimiter.mark then ['\\', character]
  else if isAttached character || !isPrintable character then codePointEscape character
  else [character]

/-- A sequence of characters between two marks. -/
def quote (delimiter : Delimiter) (characters : List Char) : String :=
  String.ofList
    (delimiter.mark :: characters.flatMap (escapeCharacter delimiter) ++ [delimiter.mark])

/-- A text between double marks. -/
def quoteText (text : String) : String :=
  quote .double text.toList

/-- A character between single marks. -/
def quoteCharacter (character : Char) : String :=
  quote .single [character]

end NamedRefs.Text

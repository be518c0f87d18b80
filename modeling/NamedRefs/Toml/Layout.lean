/-
Module: NamedRefs.Toml.Layout
Purpose: What stands between the parts of a TOML document: blanks, comments and line ends.
Main exports: Toml.Reader, Toml.isTextCharacter, Toml.skipBlanks, Toml.newline?, Toml.endLine?,
  Toml.skipLines, Toml.skipLayout, Toml.separated
-/

namespace NamedRefs.Toml

/-- A reader takes something off the front of a text, or refuses. -/
abbrev Reader (Result : Type) := List Char → Option (Result × List Char)

/-- The characters that may stand between the parts of a line. -/
def isBlank (character : Char) : Bool :=
  character == ' ' || character == '\t'

/-- The characters that comments and strings may hold: all but the control characters, of which the
tab alone is admitted. -/
def isTextCharacter (character : Char) : Bool :=
  character == '\t' || (0x20 ≤ character.toNat && character.toNat != 0x7F)

/-- Skip the blanks in front of a text. -/
def skipBlanks (text : List Char) : List Char :=
  text.dropWhile isBlank

/-- The text behind a line end, which is a line feed with or without a carriage return. -/
def newline? : List Char → Option (List Char)
  | '\n' :: rest => some rest
  | '\r' :: '\n' :: rest => some rest
  | _ => none

/-- Skip the comment that a text starts with. -/
def skipComment : List Char → List Char
  | '#' :: rest => rest.dropWhile isTextCharacter
  | text => text

/-- The text behind the current line, on which only blanks and a comment are left. -/
def endLine? (text : List Char) : Option (List Char) :=
  match skipComment (skipBlanks text) with
  | [] => some []
  | rest => newline? rest

/-- Skip blanks and line ends. -/
def skipLines : List Char → List Char
  | '\n' :: rest => skipLines rest
  | '\r' :: '\n' :: rest => skipLines rest
  | character :: rest => if isBlank character then skipLines rest else character :: rest
  | [] => []

/-- Skip blanks, line ends and comments.  The flag says whether the text starts inside a comment. -/
def skipLayoutFrom (inComment : Bool) : List Char → List Char
  | [] => []
  | '\r' :: '\n' :: rest => skipLayoutFrom false rest
  | character :: rest =>
      if inComment && isTextCharacter character then skipLayoutFrom true rest
      else if isBlank character || character == '\n' then skipLayoutFrom false rest
      else if character == '#' then skipLayoutFrom true rest
      else character :: rest

/-- Skip blanks, line ends and comments. -/
def skipLayout (text : List Char) : List Char :=
  skipLayoutFrom false text

/-- Read one or more items with a separator between each two. -/
def separated {Item : Type} (item : Reader Item) (separator : Char) (text : List Char) :
    Option (List Item × List Char) :=
  match item text with
  | none => none
  | some (first, rest) =>
      match rest with
      | [] => some ([first], [])
      | character :: after =>
          if _shorter : character = separator ∧ after.length < text.length then
            (separated item separator after).map fun (others, end_) => (first :: others, end_)
          else some ([first], rest)
termination_by text.length
decreasing_by exact _shorter.2

end NamedRefs.Toml

/-
Module: NamedRefs.Toml.Quotation
Purpose: The four kinds of quoted strings in a TOML document.
Main exports: Toml.Piece, Toml.readPieces, Toml.readLineString, Toml.readString
-/
import NamedRefs.Text.Hex
import NamedRefs.Toml.Layout

namespace NamedRefs.Toml

/-!
A basic string stands between double marks and knows escapes; a literal string stands between single
marks and knows none.  Either kind may also stand between triple marks, as a block: then it may run
over several lines, a line end right behind the opening marks does not count, and one or two marks
may stand inside, also right in front of the closing ones.
-/

/-- Read a number of exactly so many hexadecimal digits. -/
def readHexNumber : Nat → Nat → Reader Nat
  | 0, value, text => some (value, text)
  | _ + 1, _, [] => none
  | count + 1, value, character :: rest =>
      match Hex.characterValue? character with
      | none => none
      | some digit => readHexNumber count (16 * value + digit) rest

/-- Read a character that is given by its code point. -/
def readCodePoint (digits : Nat) (text : List Char) : Option (Char × List Char) :=
  match readHexNumber digits 0 text with
  | some (code, rest) => if code.isValidChar then some (Char.ofNat code, rest) else none
  | none => none

/-- Read an escape behind its backslash. -/
def readEscape : Reader Char
  | 'b' :: rest => some ('\x08', rest)
  | 't' :: rest => some ('\t', rest)
  | 'n' :: rest => some ('\n', rest)
  | 'f' :: rest => some ('\x0c', rest)
  | 'r' :: rest => some ('\r', rest)
  | '"' :: rest => some ('"', rest)
  | '\\' :: rest => some ('\\', rest)
  | 'u' :: rest => readCodePoint 4 rest
  | 'U' :: rest => readCodePoint 8 rest
  | _ => none

/-- The text behind a line end that is escaped, together with all blanks and line ends after it. -/
def continuation? (text : List Char) : Option (List Char) :=
  (newline? (skipBlanks text)).map skipLines

/-- One unit of a string: what it adds to the content, or the end of the string. -/
inductive Piece where
  | adds (content : List Char)
  | ends (content : List Char)
deriving DecidableEq, Repr

/-- Read units up to the one that ends the string. -/
def readPieces (piece : Reader Piece) (text : List Char) : Option (List Char × List Char) :=
  match piece text with
  | none => none
  | some (.ends content, rest) => some (content, rest)
  | some (.adds content, rest) =>
      if _shorter : rest.length < text.length then
        (readPieces piece rest).map fun (others, end_) => (content ++ others, end_)
      else none
termination_by text.length

/-- A character that stands for itself. -/
def plainPiece : Reader Piece
  | character :: rest =>
      if isTextCharacter character then some (.adds [character], rest) else none
  | [] => none

/-- One unit of a basic string. -/
def basicPiece : Reader Piece
  | '"' :: rest => some (.ends [], rest)
  | '\\' :: rest => (readEscape rest).map fun (character, after) => (.adds [character], after)
  | text => plainPiece text

/-- One unit of a literal string. -/
def literalPiece : Reader Piece
  | '\'' :: rest => some (.ends [], rest)
  | text => plainPiece text

/-- Marks inside a block.  Three of them end it, and up to two more right behind belong to its
content; fewer are content themselves. -/
def markPiece (mark : Char) : Reader Piece
  | text@(first :: rest) =>
      if first != mark then none
      else
        let count := min (text.takeWhile (· == mark)).length 5
        if count < 3 then some (.adds [mark], rest)
        else some (.ends (List.replicate (count - 3) mark), text.drop count)
  | [] => none

/-- A line end inside a block. -/
def linePiece (text : List Char) : Option (Piece × List Char) :=
  (newline? text).map fun rest => (.adds ['\n'], rest)

/-- A backslash inside a basic block: it joins two lines or starts an escape. -/
def backslashPiece : Reader Piece
  | '\\' :: rest =>
      match continuation? rest with
      | some after => some (.adds [], after)
      | none => (readEscape rest).map fun (character, after) => (.adds [character], after)
  | _ => none

/-- One unit of a basic block. -/
def basicBlockPiece (text : List Char) : Option (Piece × List Char) :=
  match text with
  | '"' :: _ => markPiece '"' text
  | '\\' :: _ => backslashPiece text
  | _ => linePiece text <|> plainPiece text

/-- One unit of a literal block. -/
def literalBlockPiece (text : List Char) : Option (Piece × List Char) :=
  match text with
  | '\'' :: _ => markPiece '\'' text
  | _ => linePiece text <|> plainPiece text

/-- Drop the line end that may follow the opening marks of a block. -/
def dropFirstLine (text : List Char) : List Char :=
  (newline? text).getD text

/-- Read a string that stays on one line. -/
def readLineString (text : List Char) : Option (String × List Char) :=
  let content :=
    match text with
    | '"' :: rest => readPieces basicPiece rest
    | '\'' :: rest => readPieces literalPiece rest
    | _ => none
  content.map fun (characters, rest) => (String.ofList characters, rest)

/-- Read a string of any kind. -/
def readString (text : List Char) : Option (String × List Char) :=
  let block (piece : Reader Piece) (rest : List Char) : Option (String × List Char) :=
    (readPieces piece (dropFirstLine rest)).map fun (characters, after) =>
      (String.ofList characters, after)
  match text with
  | '"' :: '"' :: '"' :: rest => block basicBlockPiece rest
  | '\'' :: '\'' :: '\'' :: rest => block literalBlockPiece rest
  | _ => readLineString text

end NamedRefs.Toml

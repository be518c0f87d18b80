/-
Module: NamedRefs.Toml.Inline
Purpose: Keys and values as they stand on the lines of a TOML document.
Main exports: Toml.readKey, Toml.readScalar, Toml.readValue, Toml.readPair
-/
import NamedRefs.Toml.Date
import NamedRefs.Toml.Value

namespace NamedRefs.Toml

/-- A key that is a path of names; the last one is the key proper. -/
structure KeyPath where
  path : List String
  key : String
deriving DecidableEq, Repr

/-- The names that make up a path at most. -/
def maxPathLength : Nat := 79

/-- The arrays and inline tables that may stand inside each other. -/
def maxNesting : Nat := 79

/-- The characters of a key without quotes. -/
def isBareCharacter (character : Char) : Bool :=
  character.isAlphanum || character == '-' || character == '_'

/-- Read one name of a key, in quotes or bare. -/
def readName (text : List Char) : Option (String × List Char) :=
  match text with
  | '"' :: _ | '\'' :: _ => readLineString text
  | _ =>
      let name := text.takeWhile isBareCharacter
      if name.isEmpty then none else some (String.ofList name, text.dropWhile isBareCharacter)

/-- Read one name of a key with the blanks around it. -/
def readSpacedName (text : List Char) : Option (String × List Char) :=
  (readName (skipBlanks text)).map fun (name, rest) => (name, skipBlanks rest)

/-- Read a key: names with dots between them. -/
def readKey (text : List Char) : Option (KeyPath × List Char) :=
  match separated readSpacedName '.' text with
  | none => none
  | some (names, rest) =>
      match names.getLast? with
      | none => none
      | some key =>
          if names.length ≤ maxPathLength then some ({ path := names.dropLast, key }, rest)
          else none

/-- Read a value that holds no other values. -/
def readScalar (text : List Char) : Option (Value × List Char) :=
  match text with
  | '"' :: _ | '\'' :: _ => (readString text).map fun (content, rest) => (.text content, rest)
  | 't' :: 'r' :: 'u' :: 'e' :: rest => some (.boolean true, rest)
  | 'f' :: 'a' :: 'l' :: 's' :: 'e' :: rest => some (.boolean false, rest)
  | _ =>
      (readDate text).map (fun (written, rest) => (.date written, rest))
        <|> (readFloat text).map (fun (written, rest) => (.float written, rest))
        <|> (readInteger text).map (fun (value, rest) => (.integer value, rest))

/-- Read a key and its value, with the blanks behind it. -/
def readPair (value : Reader Value) (text : List Char) : Option ((KeyPath × Value) × List Char) :=
  match readKey text with
  | some (key, '=' :: rest) =>
      (value (skipBlanks rest)).map fun (assigned, after) => ((key, assigned), skipBlanks after)
  | _ => none

/-- Read the elements of an array up to its closing bracket.  A comma may follow the last one. -/
def readElements (value : Reader Value) (text : List Char) : Option (List Value × List Char) :=
  match skipLayout text with
  | ']' :: rest => some ([], rest)
  | start =>
      match value start with
      | none => none
      | some (element, rest) =>
          match skipLayout rest with
          | ']' :: after => some ([element], after)
          | ',' :: after =>
              if _shorter : after.length < text.length then
                (readElements value after).map fun (elements, end_) => (element :: elements, end_)
              else none
          | _ => none
termination_by text.length

/-- The entries that pairs add up to. -/
def entriesOf (pairs : List (KeyPath × Value)) : Option Entries :=
  pairs.foldlM (fun entries (key, value) => assign key.key value key.path entries) []

/-- Read the pairs of an inline table up to its closing brace. -/
def readInlineTable (value : Reader Value) (text : List Char) : Option (Entries × List Char) :=
  match skipBlanks text with
  | '\x7d' :: rest => some ([], rest)
  | start =>
      match separated (readPair value) ',' start with
      | some (pairs, '\x7d' :: rest) => (entriesOf pairs).map fun entries => (entries, rest)
      | _ => none

/-- Read a value in which arrays and inline tables are nested up to the given depth. -/
def readValue : Nat → Reader Value
  | 0, text => readScalar text
  | depth + 1, text =>
      match text with
      | '[' :: rest =>
          (readElements (readValue depth) rest).map fun (elements, after) =>
            (.array elements, after)
      | '\x7b' :: rest =>
          (readInlineTable (readValue depth) rest).map fun (entries, after) =>
            (.inlineTable entries, after)
      | _ => readScalar text

end NamedRefs.Toml

/-
Module: NamedRefs.Toml.Document
Purpose: TOML documents: their statements and the table that the statements build.
Main exports: Toml.Statement, Toml.readStatements, Toml.build, Toml.parse?
-/
import NamedRefs.Toml.Inline

namespace NamedRefs.Toml

/-- A line of a document, or several lines that belong together. -/
inductive Statement where
  /-- A header `[a.b]`: the pairs behind it belong to this table. -/
  | table (header : KeyPath)
  /-- A header `[[a.b]]`: the pairs behind it belong to a new element of this key. -/
  | element (header : KeyPath)
  | pair (key : KeyPath) (value : Value)
deriving Repr

/-- Read a statement without the rest of its line. -/
def readStatement (text : List Char) : Option (Statement × List Char) :=
  match text with
  | '[' :: '[' :: rest =>
      match readKey rest with
      | some (header, ']' :: ']' :: after) => some (.element header, after)
      | _ => none
  | '[' :: rest =>
      match readKey rest with
      | some (header, ']' :: after) => some (.table header, after)
      | _ => none
  | _ =>
      (readPair (readValue maxNesting) text).map fun ((key, value), after) =>
        (.pair key value, after)

/-- Whether nothing but a comment can stand on the rest of this line. -/
def startsBlankLine : List Char → Bool
  | character :: _ => character == '#' || character == '\n' || character == '\r'
  | [] => true

/-- Read all statements of a document.  Each of them ends its line. -/
def readStatements (text : List Char) : Option (List Statement) :=
  match skipBlanks text with
  | [] => some []
  | start =>
      let statement? :=
        if startsBlankLine start then some (none, start)
        else (readStatement start).map fun (statement, rest) => (some statement, rest)
      match statement? with
      | none => none
      | some (statement, rest) =>
          match endLine? rest with
          | none => none
          | some next =>
              if _shorter : next.length < text.length then
                (readStatements next).map (statement.toList ++ ·)
              else none
termination_by text.length

/-- A document under construction: its entries and the header that new pairs belong to. -/
structure Draft where
  entries : Entries := []
  header : List String := []

/-- Add a statement. -/
def Draft.add (draft : Draft) : Statement → Option Draft
  | .table header =>
      (changeAt (openTable header.key) header.path draft.entries).map fun entries =>
        { entries, header := header.path ++ [header.key] }
  | .element header =>
      (changeAt (openElement header.key) header.path draft.entries).map fun entries =>
        { entries, header := header.path ++ [header.key] }
  | .pair key value =>
      (changeAt (assign key.key value key.path) draft.header draft.entries).map fun entries =>
        { draft with entries }

/-- The table that statements build. -/
def build (statements : List Statement) : Option Entries :=
  (statements.foldlM Draft.add {}).map (·.entries)

/-- Drop the byte order mark in front of a text. -/
def dropByteOrderMark : List Char → List Char
  | '\ufeff' :: rest => rest
  | text => text

/-- Read a document.  One that is nested more deeply than `maxNesting` or has a key of more parts than
`maxPathLength` is refused, whatever its meaning might be. -/
def parse? (text : String) : Option Entries :=
  (readStatements (dropByteOrderMark text.toList)).bind build

end NamedRefs.Toml

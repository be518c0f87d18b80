/-
Module: NamedRefs.Toml.Standard
Purpose: What whoever reads settings from TOML documents relies on, whichever reader reads them.
Main exports: Toml.DocumentReader, Toml.PlainValue, Toml.PlainPair, Toml.document,
  Toml.DocumentReader.Standard
-/
import NamedRefs.Toml.Inline

namespace NamedRefs.Toml

/-!
A reader of documents comes from outside, and there may be several.  They need not agree on every text:
one may give up on a document that nests deeper than it can follow.  What the standard says about
them here is little: the meaning of the plainest documents, in which each line gives a number or a
switch to a bare key, and the range of integers in all others.
-/

/-- A reader gives the entries of a document, or nothing if a text is none. -/
abbrev DocumentReader := String → Option Entries

/-- The values of the plainest kind. -/
inductive PlainValue where
  | number (count : Nat) (small : count < 0x8000000000000000)
  | switch (flag : Bool)

namespace PlainValue

/-- The value as a line ends with it. -/
def written : PlainValue → String
  | number count _ => toString count
  | switch flag => toString flag

/-- The value as an entry has it. -/
def value : PlainValue → Value
  | number count _ => .integer count
  | switch flag => .boolean flag

end PlainValue

/-- A bare key and a plain value for it. -/
structure PlainPair where
  key : String
  plain : PlainValue
  key_nonempty : key ≠ ""
  key_bare : ∀ character ∈ key.toList, isBareCharacter character = true

namespace PlainPair

/-- The pair as a line. -/
def line (pair : PlainPair) : String :=
  pair.key ++ " = " ++ pair.plain.written

/-- The pair as an entry of a table. -/
def entry (pair : PlainPair) : String × Value :=
  (pair.key, pair.plain.value)

end PlainPair

/-- The document of some lines, with or without an end of the last one. -/
def document (lines : List String) (ending : String) : String :=
  "\n".intercalate lines ++ ending

namespace DocumentReader

/-- What a reader of documents does as the standard says. -/
structure Standard (read : DocumentReader) : Prop where
  /-- Each line for a key of its own is an entry, and there are no others. -/
  distinct : ∀ (pairs : List PlainPair) (ending : String), (ending = "" ∨ ending = "\n") →
    (pairs.map PlainPair.key).Nodup → ∃ entries,
      read (document (pairs.map PlainPair.line) ending) = some entries ∧
        ∀ key, find? key entries = find? key (pairs.map PlainPair.entry)
  /-- A key must not be defined twice. -/
  repeated : ∀ (pairs : List PlainPair) (ending : String), (ending = "" ∨ ending = "\n") →
    ¬(pairs.map PlainPair.key).Nodup → read (document (pairs.map PlainPair.line) ending) = none
  /-- Integers are those of sixty-four bits. -/
  inRange : ∀ (text : String) (entries : Entries) (key : String) (number : Int),
    read text = some entries → find? key entries = some (.integer number) →
      -0x8000000000000000 ≤ number ∧ number < 0x8000000000000000

end DocumentReader

end NamedRefs.Toml

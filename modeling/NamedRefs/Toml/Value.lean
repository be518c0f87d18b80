/-
Module: NamedRefs.Toml.Value
Purpose: The values of a TOML document and the rules by which a document grows.
Main exports: Toml.Value, Toml.TableKind, Toml.Entries, Toml.find?, Toml.assign, Toml.openTable,
  Toml.openElement
-/

namespace NamedRefs.Toml

/-!
A document is a table of entries.  A table comes into being in one of three ways, and the way
decides what may still be added to it:

* its own header `[a.b]` opens it, once;
* the header of a table inside it implies it; it may then get a header of its own, once;
* a dotted key `a.b = 1` creates it; no header may open it later.

Values, among them inline tables, are complete as they stand.
-/

/-- How a table came into being. -/
inductive TableKind where
  | headed
  | implied
  | dotted
deriving DecidableEq, Repr

/-- A value.  Of the kinds that no setting has, floats and dates are kept as they are written. -/
inductive Value where
  | text (content : String)
  | integer (value : Int)
  | float (spelling : String)
  | boolean (value : Bool)
  | date (spelling : String)
  | array (elements : List Value)
  /-- A table written between braces. -/
  | inlineTable (entries : List (String × Value))
  /-- A table that is part of the document's frame. -/
  | table (kind : TableKind) (entries : List (String × Value))
  /-- The tables opened one after the other by headers `[[a]]`. -/
  | tables (elements : List (List (String × Value)))
deriving Repr, Inhabited

/-- The entries of a table, in the order in which they came. -/
abbrev Entries := List (String × Value)

/-- The value of a key. -/
def find? (key : String) (entries : Entries) : Option Value :=
  entries.lookup key

/-- Give a key another value, or add it behind the others. -/
def set (key : String) (value : Value) : Entries → Entries
  | [] => [(key, value)]
  | (other, present) :: rest =>
      if other = key then (key, value) :: rest else (other, present) :: set key value rest

@[simp] theorem find?_set_self (key : String) (value : Value) (entries : Entries) :
    find? key (set key value entries) = some value := by
  induction entries with
  | nil => simp [find?, set]
  | cons entry rest ih =>
      obtain ⟨other, present⟩ := entry
      by_cases same : other = key
      · simp [find?, set, same]
      · simpa [find?, set, same, List.lookup_cons, beq_eq_false_iff_ne.2 (Ne.symm same)] using ih

/-- Setting a key leaves the values of the others. -/
theorem find?_set_of_ne {key other : String} (different : other ≠ key) (value : Value)
    (entries : Entries) : find? other (set key value entries) = find? other entries := by
  induction entries with
  | nil => simp [find?, set, different]
  | cons entry rest ih =>
      obtain ⟨present, content⟩ := entry
      by_cases same : present = key
      · subst same
        simp [find?, set, List.lookup_cons, beq_eq_false_iff_ne.2 different]
      · simp only [find?] at ih
        simp [find?, set, same, List.lookup_cons, ih]

/-- Change the last element of a list, if there is one. -/
def changeLast {Element : Type} (change : Element → Option Element) :
    List Element → Option (List Element)
  | [] => none
  | [element] => (change element).map ([·])
  | element :: rest => (changeLast change rest).map (element :: ·)

/-- Assign a value to a new key of a table that was reached by a dotted path or by none. -/
def assignNew (key : String) (value : Value) (entries : Entries) : Option Entries :=
  match find? key entries with
  | some _ => none
  | none => some (set key value entries)

/-- Assign a value to the last key of a dotted path.  On its way the path creates tables, passes
through tables that have no header of their own, and enters the latest of several tables; it ends in
a table that dotted keys have created. -/
def assign (key : String) (value : Value) : List String → Entries → Option Entries
  | [], entries => assignNew key value entries
  | first :: path, entries =>
      match find? first entries with
      | none =>
          (assign key value path []).map fun inner => set first (.table .dotted inner) entries
      | some (.table kind inner) =>
          if kind = .headed || (path.isEmpty && kind != .dotted) then none
          else
            (assign key value path inner).map fun changed => set first (.table kind changed) entries
      | some (.tables elements) =>
          if path.isEmpty then none
          else
            (changeLast (assign key value path) elements).map fun changed =>
              set first (.tables changed) entries
      | some _ => none

/-- Change the entries of the table at the end of a header's path.  Tables that are missing on the
way are implied, and of several tables the latest one is meant. -/
def changeAt (change : Entries → Option Entries) : List String → Entries → Option Entries
  | [], entries => change entries
  | first :: path, entries =>
      match find? first entries with
      | none =>
          (changeAt change path []).map fun inner => set first (.table .implied inner) entries
      | some (.table kind inner) =>
          (changeAt change path inner).map fun changed => set first (.table kind changed) entries
      | some (.tables elements) =>
          (changeLast (changeAt change path) elements).map fun changed =>
            set first (.tables changed) entries
      | some _ => none

/-- Open the table of a header. -/
def openTable (key : String) (entries : Entries) : Option Entries :=
  match find? key entries with
  | none => some (set key (.table .headed []) entries)
  | some (.table .implied inner) => some (set key (.table .headed inner) entries)
  | some _ => none

/-- Open one more table under a key that holds several. -/
def openElement (key : String) (entries : Entries) : Option Entries :=
  match find? key entries with
  | none => some (set key (.tables [[]]) entries)
  | some (.tables elements) => some (set key (.tables (elements ++ [[]])) entries)
  | some _ => none

end NamedRefs.Toml

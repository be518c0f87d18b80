/-
Module: NamedRefs.Store.Cursor
Purpose: One pass over the references of a store.
Main exports: Cursor, Cursor.advance, Cursor.sizeHint, Cursor.collect, Cursor.Move, Cursor.play,
  NameCursor, NameCursor.ask, Store.cursor, Store.iterate, Store.names
-/
import NamedRefs.Glob
import NamedRefs.Store

namespace NamedRefs

/-!
A cursor walks the slots from the first to the last.  It passes over vacant slots and over names
that its glob does not select.  A move that finds nothing more exhausts the cursor; reaching the
last slot alone does not.
-/

/-- A pass over the references of a store. -/
structure Cursor where
  /-- The slots that are not examined yet. -/
  remaining : List (Option Reference)
  /-- The names to stop at; without a glob the cursor stops at all of them. -/
  glob : Option Glob
  exhausted : Bool := false

namespace Cursor

/-- Whether the cursor stops at a reference. -/
def stopsAt (glob : Option Glob) (reference : Reference) : Bool :=
  glob.all (·.selects reference.name)

/-- The first reference to stop at, and the slots behind it. -/
def seek (glob : Option Glob) :
    List (Option Reference) → Option (Reference × List (Option Reference))
  | [] => none
  | none :: slots => seek glob slots
  | some reference :: slots =>
      if stopsAt glob reference then some (reference, slots) else seek glob slots

/-- A search that finds a reference has examined its slot. -/
theorem seek_shorter {glob : Option Glob} {slots rest : List (Option Reference)}
    {reference : Reference} (found : seek glob slots = some (reference, rest)) :
    rest.length < slots.length := by
  fun_induction seek glob slots <;> grind

/-- Move to the next reference. -/
def advance (cursor : Cursor) : Option Reference × Cursor :=
  if cursor.exhausted then (none, cursor)
  else
    match seek cursor.glob cursor.remaining with
    | some (reference, slots) => (some reference, { cursor with remaining := slots })
    | none => (none, { cursor with remaining := [], exhausted := true })

/-- Move to the next reference and give its name. -/
def advanceName (cursor : Cursor) : Option String × Cursor :=
  let (found, next) := cursor.advance
  (found.map (·.name), next)

/-- How many references may follow: at least none, at most one for each slot not examined. -/
def sizeHint (cursor : Cursor) : Nat × Nat :=
  if cursor.exhausted then (0, 0) else (0, cursor.remaining.length)

/-- An exhausted cursor stays where it is. -/
theorem advance_of_exhausted {cursor : Cursor} (exhausted : cursor.exhausted = true) :
    cursor.advance = (none, cursor) := by
  simp [advance, exhausted]

/-- A step that yields a reference leaves fewer slots to examine. -/
theorem advance_shorter {cursor next : Cursor} {reference : Reference}
    (moved : cursor.advance = (some reference, next)) :
    next.remaining.length < cursor.remaining.length := by
  unfold advance at moved
  split at moved
  · simp at moved
  · split at moved
    · rename_i found
      cases moved
      exact seek_shorter found
    · simp at moved

/-- Move on until nothing is found, and keep what the view shows of each reference. -/
def collect {View : Type} (view : Reference → View) (cursor : Cursor) : List View × Cursor :=
  match _moved : cursor.advance with
  | (none, last) => ([], last)
  | (some reference, next) =>
      let (others, last) := next.collect view
      (view reference :: others, last)
termination_by cursor.remaining.length
decreasing_by exact advance_shorter _moved

/-- What can be asked of a cursor. -/
inductive Move where
  | next
  | nextName
  | isExhausted
  | sizeHint
  /-- Give up the cursor for the names that are left. -/
  | names
deriving DecidableEq, Repr

/-- What a move shows. -/
inductive Sight where
  | reference (found : Option Reference)
  | name (found : Option String)
  | exhausted (value : Bool)
  | sizeHint (low high : Nat)
  /-- The names that are left, and the size hints before and after they were taken. -/
  | names (before : Nat × Nat) (names : List String) (after : Nat × Nat)
deriving DecidableEq

/-- Make one move. -/
def move (cursor : Cursor) : Move → Sight × Cursor
  | .next =>
      let (found, next) := cursor.advance
      (.reference found, next)
  | .nextName =>
      let (found, next) := cursor.advanceName
      (.name found, next)
  | .isExhausted => (.exhausted cursor.exhausted, cursor)
  | .sizeHint => (.sizeHint cursor.sizeHint.1 cursor.sizeHint.2, cursor)
  | .names =>
      let (names, last) := cursor.collect (·.name)
      (.names cursor.sizeHint names last.sizeHint, last)

/-- Make moves one after the other. -/
def play (cursor : Cursor) : List Move → List Sight × Cursor
  | [] => ([], cursor)
  | first :: moves =>
      let (sight, next) := cursor.move first
      let (sights, last) := next.play moves
      (sight :: sights, last)

end Cursor

/-- A cursor that was given up for the names that are left. -/
structure NameCursor where
  cursor : Cursor

/-- Give up the cursor for the names that are left. -/
def Cursor.byName (cursor : Cursor) : NameCursor :=
  { cursor }

namespace NameCursor

/-- Move to the next name. -/
def next (names : NameCursor) : Option String × NameCursor :=
  let (found, cursor) := names.cursor.advanceName
  (found, { cursor })

/-- How many names may follow. -/
def sizeHint (names : NameCursor) : Nat × Nat :=
  names.cursor.sizeHint

/-- Move so many times. -/
def ask (names : NameCursor) : Nat → List (Option String) × NameCursor
  | 0 => ([], names)
  | count + 1 =>
      let (found, next) := names.next
      let (others, last) := next.ask count
      (found :: others, last)

end NameCursor

namespace Store

/-- A cursor in front of the first slot. -/
def cursor (store : Store) (pattern : Option String) : Cursor :=
  { remaining := store.slots.toList, glob := pattern.map Glob.ofPattern }

/-- The references that a pattern selects, in the order of their slots. -/
def iterate (store : Store) (pattern : Option String) : List Reference :=
  ((store.cursor pattern).collect id).1

/-- The names that a pattern selects, in the order of their slots. -/
def names (store : Store) (pattern : Option String) : List String :=
  ((store.cursor pattern).collect (·.name)).1

end Store

end NamedRefs

/-
Module: NamedRefs.Text.CodePoints
Purpose: Sets of characters given as tables of code point ranges.
Main exports: CodePoints, CodePoints.contains
-/

namespace NamedRefs.Text

/-- A set of code points, written as its maximal ranges in ascending order.  Both ends of a range
belong to the set. -/
abbrev CodePoints := Array (Nat × Nat)

/-- A character belongs to the set when one of the ranges holds its code point. -/
def CodePoints.contains (ranges : CodePoints) (character : Char) : Bool :=
  ranges.any fun (low, high) => low ≤ character.toNat && character.toNat ≤ high

end NamedRefs.Text

/-
Module: NamedRefs.Proofs.Sorting
Purpose: What sorting by a comparison makes of a list.
Main exports: ascending_mergeSort, eq_of_perm_of_isLE
-/

namespace NamedRefs

/-!
Sorting compares elements by a key.  The result ascends whatever the key is; that it does not depend
on the order in which the elements came needs more, namely that the comparison tells any two of them
apart.
-/

section

variable {Element Key : Type} {order : Key → Key → Ordering}

/-- Sorting by a key leaves the keys in ascending order. -/
theorem ascending_mergeSort [Std.TransCmp order] (key : Element → Key) (elements : List Element) :
    (elements.mergeSort fun first second => (order (key first) (key second)).isLE).Pairwise
      fun first second => (order (key first) (key second)).isLE = true := by
  apply List.pairwise_mergeSort
  · intro one two three
    exact Std.TransCmp.isLE_trans
  · intro one two
    have turned : order (key one) (key two) = (order (key two) (key one)).swap :=
      Std.OrientedCmp.eq_swap
    rw [turned]
    cases order (key two) (key one) <;> rfl

/-- Two ascending lists of the same elements are the same list. -/
theorem eq_of_perm_of_isLE [Std.OrientedCmp order] [Std.LawfulEqCmp order] {first second : List Key}
    (firstAscends : first.Pairwise fun one other => (order one other).isLE = true)
    (secondAscends : second.Pairwise fun one other => (order one other).isLE = true)
    (sameMembers : first.Perm second) : first = second := by
  refine sameMembers.eq_of_pairwise ?_ firstAscends secondAscends
  intro one other _ _ below above
  exact Std.LawfulEqCmp.eq_of_compare (Std.OrientedCmp.isLE_antisymm below above)

end

end NamedRefs

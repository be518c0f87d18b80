/-
Module: NamedRefs.Proofs.ObjectId.Order
Purpose: Identifiers are ordered like their hexadecimal forms, one width before the other, and sorting
  them does not depend on the order in which they came.
Main exports: Hex.byteOrder_encode, ObjectId.bytes_injective, ObjectId.compare_of_sameFormat,
  ObjectId.compare_sha1_sha256, ObjectId.filter_sort, ObjectId.map_hex_sort, ObjectId.sort_eq_append,
  ObjectId.order_is_that_of_hexadecimal_forms
-/
import NamedRefs.Proofs.ObjectId.Hexadecimal
import NamedRefs.Proofs.Sorting

namespace NamedRefs

/-!
A byte is compared as a number, its two digits as characters, the high one first.  Both comparisons
agree because digits ascend with their values: the digits proper stand before the letters, and the
letters are all in lower case.  Digit by digit this carries over to lists of bytes, and as each byte
takes two digits, a list that ends first does so on both sides.
-/

namespace Hex

/-! ### Digits in order -/

/-- The byte of a digit. -/
def digitByte (value : Nat) : UInt8 :=
  (digit value).toNat.toUInt8

/-- Digits are in the order of their values. -/
theorem compare_digitByte {first second : Nat} (firstSmall : first < 16)
    (secondSmall : second < 16) :
    compare (digitByte first) (digitByte second) = compare first second := by
  have everyPair : ∀ one other : Fin 16,
      compare (digitByte one) (digitByte other) = compare one.val other.val := by
    decide
  exact everyPair ⟨first, firstSmall⟩ ⟨second, secondSmall⟩

/-- Numbers of two digits are compared by the high digits first. -/
theorem compare_digits (first second : Nat) :
    (compare (first / 16) (second / 16)).then (compare (first % 16) (second % 16)) =
      compare first second := by
  rcases Nat.lt_trichotomy (first / 16) (second / 16) with below | level | above
  · have less : first < second := by omega
    rw [Nat.compare_eq_lt.mpr below, Nat.compare_eq_lt.mpr less, Ordering.lt_then]
  · rw [Nat.compare_eq_eq.mpr level, Ordering.eq_then]
    rcases Nat.lt_trichotomy (first % 16) (second % 16) with lower | same | higher
    · rw [Nat.compare_eq_lt.mpr lower, Nat.compare_eq_lt.mpr (by omega)]
    · rw [Nat.compare_eq_eq.mpr same, Nat.compare_eq_eq.mpr (by omega)]
    · rw [Nat.compare_eq_gt.mpr higher, Nat.compare_eq_gt.mpr (by omega)]
  · have greater : second < first := by omega
    rw [Nat.compare_eq_gt.mpr above, Nat.compare_eq_gt.mpr greater, Ordering.gt_then]

/-- Bytes are in the order of their values. -/
theorem compare_toNat (first second : UInt8) :
    compare first.toNat second.toNat = compare first second := by
  change compareOfLessAndEq first.toNat second.toNat = compareOfLessAndEq first second
  simp only [compareOfLessAndEq, UInt8.lt_iff_toNat_lt, UInt8.toNat_inj]

/-- Bytes are ordered like their digits. -/
theorem byteOrder_encode (first second : List UInt8) :
    Text.byteOrder (encode first) (encode second) = compare first second := by
  rw [Text.byteOrder, utf8Bytes_encode, utf8Bytes_encode]
  induction first generalizing second with
  | nil =>
      cases second with
      | nil => rfl
      | cons byte second => rfl
  | cons byte first inductionHypothesis =>
      cases second with
      | nil => rfl
      | cons other second =>
          have high := compare_digitByte (high_lt byte) (high_lt other)
          have low := compare_digitByte (low_lt byte) (low_lt other)
          simp only [digitByte] at high low
          simp only [List.flatMap_cons, bytePair, List.cons_append, List.nil_append, List.map_cons,
            List.compare_cons_cons, inductionHypothesis, high, low]
          rw [← Ordering.then_assoc, compare_digits, compare_toNat]

end Hex

/-! ### Comparing identifiers -/

instance : Std.TransOrd ObjectFormat where
  eq_swap := by
    intro first second
    cases first <;> cases second <;> rfl
  isLE_trans := by
    intro first second third
    cases first <;> cases second <;> cases third <;> decide

namespace ObjectId

variable {first second : ObjectId}

/-- The number of the bytes gives the format, so the bytes are all there is to an identifier. -/
theorem bytes_injective (same : first.bytes = second.bytes) : first = second := by
  have made := ofBytes_bytes first
  rw [same, ofBytes_bytes] at made
  exact (Except.ok.inj made).symm

instance : Std.TransOrd ObjectId :=
  inferInstanceAs (Std.TransCmp (compareLex (compareOn format) (compareOn bytes)))

instance : Std.LawfulEqOrd ObjectId where
  compare_self := by
    intro id
    exact Std.ReflCmp.compare_self
  eq_of_compare := by
    intro first second level
    have sameBytes := (Ordering.then_eq_eq.mp level).2
    exact bytes_injective (Std.LawfulEqOrd.eq_of_compare sameBytes)

/-- Within a format, ids are in the order of their digits. -/
theorem compare_of_sameFormat (sameFormat : first.format = second.format) :
    compare first second = Text.byteOrder first.hex second.hex := by
  rw [hex, hex, Hex.byteOrder_encode]
  change (compare first.format second.format).then (compare first.bytes second.bytes) = _
  rw [sameFormat, Std.ReflOrd.compare_self, Ordering.eq_then]

/-- Every id of the short format comes before every id of the long one. -/
theorem compare_sha1_sha256 (isSha1 : first.format = .sha1) (isSha256 : second.format = .sha256) :
    compare first second = .lt := by
  change (compare first.format second.format).then (compare first.bytes second.bytes) = .lt
  rw [isSha1, isSha256]
  rfl

/-! ### Sorting identifiers -/

/-- Sorting only moves ids about. -/
theorem sort_perm (ids : List ObjectId) : (sort ids).Perm ids :=
  List.mergeSort_perm _ _

/-- Sorted ids ascend. -/
theorem ascending_sort (ids : List ObjectId) :
    (sort ids).Pairwise fun one other => (compare one other).isLE = true :=
  ascending_mergeSort id ids

/-- Sorting the same ids gives the same list, however they were ordered before. -/
theorem sort_eq_of_perm {ids others : List ObjectId} (sameMembers : ids.Perm others) :
    sort ids = sort others := by
  apply eq_of_perm_of_isLE (ascending_sort ids) (ascending_sort others)
  exact (sort_perm ids).trans (sameMembers.trans (sort_perm others).symm)

/-- Sorting a part of the identifiers gives that part of the sorted ones. -/
theorem filter_sort (chosen : ObjectId → Bool) (ids : List ObjectId) :
    (sort ids).filter chosen = sort (ids.filter chosen) := by
  apply eq_of_perm_of_isLE ((ascending_sort ids).filter chosen) (ascending_sort _)
  exact ((sort_perm ids).filter chosen).trans (sort_perm _).symm

/-- Where all identifiers are of one format, their hexadecimal forms are sorted with them. -/
theorem map_hex_sort {ids : List ObjectId} {format : ObjectFormat}
    (sameFormat : ∀ id ∈ ids, id.format = format) :
    (sort ids).map hex =
      (ids.map hex).mergeSort fun one other => (Text.byteOrder one other).isLE := by
  apply List.map_mergeSort
  intro one isOne other isOther
  rw [compare_of_sameFormat ((sameFormat one isOne).trans (sameFormat other isOther).symm)]

/-- The shorter identifiers come first. -/
theorem sort_eq_append (ids : List ObjectId) :
    sort ids = (sort ids).filter (·.format == .sha1) ++ (sort ids).filter (·.format == .sha256) := by
  have others : (sort ids).filter (·.format == .sha256) =
      (sort ids).filter fun id => !(id.format == .sha1) := by
    congr 1
    funext id
    cases id.format <;> rfl
  apply eq_of_perm_of_isLE (ascending_sort ids)
  · refine List.pairwise_append.mpr
      ⟨(ascending_sort ids).filter _, (ascending_sort ids).filter _, ?_⟩
    intro short isShort long isLong
    have isSha1 := eq_of_beq (List.mem_filter.mp isShort).2
    have isSha256 := eq_of_beq (List.mem_filter.mp isLong).2
    rw [compare_sha1_sha256 isSha1 isSha256]
    rfl
  · rw [others]
    exact (List.filter_append_perm _ _).symm

/-- Identifiers are ordered totally, and only equal ones are level.  Those of the shorter format come
before those of the longer one, and two of the same format are ordered like their hexadecimal forms,
byte by byte.  So a list of identifiers is sorted in one way, whatever the order in which they came:
those of the shorter format first, and within each format their hexadecimal forms sorted. -/
theorem order_is_that_of_hexadecimal_forms :
    (∀ first second : ObjectId,
      (compare first second = .eq ↔ first = second) ∧
      compare first second = (compare second first).swap ∧
      (first.format = .sha1 → second.format = .sha256 → compare first second = .lt) ∧
      (first.format = second.format →
        compare first second = Text.byteOrder first.hex second.hex)) ∧
    (∀ first second third : ObjectId,
      compare first second ≠ .gt → compare second third ≠ .gt → compare first third ≠ .gt) ∧
    (∀ ids others : List ObjectId, ids.Perm others → sort ids = sort others) ∧
    ∀ ids : List ObjectId,
      (sort ids).Perm ids ∧
      (sort ids).Pairwise (fun first second => compare first second ≠ .gt) ∧
      sort ids =
        (sort ids).filter (·.format == .sha1) ++ (sort ids).filter (·.format == .sha256) ∧
      ∀ format, ((sort ids).filter (·.format == format)).map hex =
        ((ids.filter (·.format == format)).map hex).mergeSort fun first second =>
          (Text.byteOrder first second).isLE := by
  refine ⟨?pairs, ?transitive, fun ids others => sort_eq_of_perm, ?sorted⟩
  case pairs =>
    intro first second
    exact ⟨Std.LawfulEqOrd.compare_eq_iff_eq, Std.OrientedOrd.eq_swap, compare_sha1_sha256,
      compare_of_sameFormat⟩
  case transitive =>
    intro first second third
    simp only [Ordering.ne_gt_iff_isLE]
    exact Std.TransOrd.isLE_trans
  case sorted =>
    intro ids
    simp only [Ordering.ne_gt_iff_isLE]
    refine ⟨sort_perm ids, ascending_sort ids, sort_eq_append ids, fun format => ?_⟩
    rw [filter_sort]
    apply map_hex_sort
    intro id member
    exact eq_of_beq (List.mem_filter.mp member).2

end ObjectId

end NamedRefs

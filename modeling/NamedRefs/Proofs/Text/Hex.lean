/-
Module: NamedRefs.Proofs.Text.Hex
Purpose: Pairs of hexadecimal digits are read back as the bytes that they write, and a text that is
  none is refused for the first byte that is no digit.
Main exports: Text.toList_of_ascii, Hex.IsDigit, Hex.decode_encode, Hex.decodePairs_of_bad,
  Hex.decodePairs_of_digits, Hex.encode_of_decode
-/
import Mathlib.Data.List.Induction
import NamedRefs.Text.Hex

namespace NamedRefs

/-!
The reader works on the bytes of a text, the writer on characters.  Both meet in ASCII: a text all of
whose bytes are below 128 has one character for each byte.
-/

namespace Text

/-- The bytes of a text are those of its characters in turn. -/
theorem utf8Bytes_ofList (characters : List Char) :
    utf8Bytes (String.ofList characters) = characters.flatMap String.utf8EncodeChar := by
  simp [utf8Bytes, List.utf8Encode]

/-- A character below 128 is one byte, its own number. -/
theorem utf8EncodeChar_of_ascii {character : Char} (ascii : character.toNat < 128) :
    String.utf8EncodeChar character = [character.toNat.toUInt8] := by
  have small : character.val ≤ 127 := UInt32.le_iff_toNat_le.mpr (Nat.le_of_lt_succ ascii)
  exact String.utf8EncodeChar_eq_singleton (Char.utf8Size_eq_one_iff.mpr small)

/-- Every byte of a longer encoding is at least 128. -/
theorem ascii_of_utf8EncodeChar {character : Char}
    (small : ∀ byte ∈ String.utf8EncodeChar character, byte.toNat < 128) :
    character.toNat < 128 := by
  by_contra large
  have several : ¬ character.val.toNat ≤ 127 := fun one => large (Nat.lt_succ_of_le one)
  unfold String.utf8EncodeChar at small
  simp only [several, if_false] at small
  -- The first byte already shows that others follow it, however many they are.
  split_ifs at small
  all_goals
    have first := small _ List.mem_cons_self
    rw [UInt8.toNat_ofNat'] at first
    omega

/-- A text of bytes below 128 has a character for each of them. -/
theorem toList_of_ascii {text : String} (small : ∀ byte ∈ utf8Bytes text, byte.toNat < 128) :
    text.toList = (utf8Bytes text).map fun byte => Char.ofNat byte.toNat := by
  obtain ⟨characters, rfl⟩ : ∃ characters, text = String.ofList characters :=
    ⟨text.toList, String.ofList_toList.symm⟩
  rw [utf8Bytes_ofList] at small ⊢
  rw [String.toList_ofList]
  induction characters with
  | nil => rfl
  | cons character characters inductionHypothesis =>
      simp only [List.flatMap_cons, List.mem_append, or_imp, forall_and] at small
      have ascii := ascii_of_utf8EncodeChar small.1
      have sameCode : character.toNat.toUInt8.toNat = character.toNat :=
        UInt8.toNat_ofNat_of_lt (Nat.lt_trans ascii (by decide))
      rw [List.flatMap_cons, utf8EncodeChar_of_ascii ascii, List.singleton_append, List.map_cons,
        ← inductionHypothesis small.2, sameCode, Char.ofNat_toNat]

end Text

namespace Hex

variable {byte : UInt8} {bytes textBytes : List UInt8} {text : String}

/-! ### Digits -/

/-- The bytes of the digits of either case. -/
def IsDigit (byte : UInt8) : Prop :=
  ('0'.toNat ≤ byte.toNat ∧ byte.toNat ≤ '9'.toNat) ∨
    ('a'.toNat ≤ byte.toNat ∧ byte.toNat ≤ 'f'.toNat) ∨
    ('A'.toNat ≤ byte.toNat ∧ byte.toNat ≤ 'F'.toNat)

instance (byte : UInt8) : Decidable (IsDigit byte) :=
  inferInstanceAs (Decidable (_ ∨ _ ∨ _))

theorem IsDigit.ascii (isDigit : IsDigit byte) : byte.toNat < 128 := by
  simp only [IsDigit, Char.reduceToNat] at isDigit
  omega

/-- A byte without a value is one that is no digit. -/
theorem digitValue?_eq_none_iff : digitValue? byte = none ↔ ¬ IsDigit byte := by
  unfold digitValue? IsDigit
  grind

theorem exists_digitValue? (isDigit : IsDigit byte) : ∃ value, digitValue? byte = some value :=
  Option.ne_none_iff_exists'.mp fun isNone => digitValue?_eq_none_iff.mp isNone isDigit

theorem isDigit_of_digitValue? {value : Nat} (known : digitValue? byte = some value) :
    IsDigit byte := by
  by_contra notDigit
  rw [digitValue?_eq_none_iff.mpr notDigit] at known
  cases known

/-- The digit of a value that was read is the one that was read, in lower case. -/
theorem digit_of_digitValue? {value : Nat} (known : digitValue? byte = some value) :
    value < 16 ∧ digit value = (Char.ofNat byte.toNat).toLower := by
  have everyByte : ∀ code : Fin 256, ∀ value ∈ digitValue? (UInt8.ofNat code),
      value < 16 ∧ digit value = (Char.ofNat code).toLower := by
    decide +kernel
  have sameByte : UInt8.ofNat byte.toNat = byte := UInt8.ofNat_toNat
  exact everyByte ⟨byte.toNat, byte.toNat_lt⟩ value (sameByte.symm ▸ known)

/-! ### Writing and reading back -/

/-- The byte of a digit is read as the value that the digit writes. -/
theorem digitValue?_digit {value : Nat} (small : value < 16) :
    (digit value).toNat < 128 ∧ digitValue? (digit value).toNat.toUInt8 = some value := by
  have known := characterValue?_digit ⟨value, small⟩
  unfold characterValue? at known
  split at known
  · exact ⟨‹_›, known⟩
  · cases known

theorem high_lt (byte : UInt8) : byte.toNat / 16 < 16 := by
  have small := byte.toNat_lt
  omega

theorem low_lt (byte : UInt8) : byte.toNat % 16 < 16 :=
  Nat.mod_lt _ (by decide)

/-- Written out, bytes take two characters each. -/
theorem length_flatMap_bytePair (bytes : List UInt8) :
    (bytes.flatMap bytePair).length = 2 * bytes.length := by
  induction bytes with
  | nil => rfl
  | cons byte bytes inductionHypothesis =>
      rw [List.flatMap_cons, List.length_append, inductionHypothesis, List.length_cons]
      simp only [bytePair, List.length_cons, List.length_nil]
      omega

/-- The first bytes have the first digits. -/
theorem take_flatMap_bytePair (count : Nat) (bytes : List UInt8) :
    (bytes.flatMap bytePair).take (2 * count) = (bytes.take count).flatMap bytePair := by
  induction count generalizing bytes with
  | zero => rfl
  | succ count inductionHypothesis =>
      cases bytes with
      | nil => rfl
      | cons byte bytes =>
          rw [Nat.mul_succ, List.take_succ_cons, List.flatMap_cons, List.flatMap_cons,
            ← inductionHypothesis]
          rfl

/-- The text of an encoding is one byte a digit. -/
theorem utf8Bytes_encode (bytes : List UInt8) :
    Text.utf8Bytes (encode bytes) =
      (bytes.flatMap bytePair).map fun character => character.toNat.toUInt8 := by
  rw [encode, Text.utf8Bytes_ofList]
  induction bytes with
  | nil => rfl
  | cons byte bytes inductionHypothesis =>
      have highDigit := Text.utf8EncodeChar_of_ascii (digitValue?_digit (high_lt byte)).1
      have lowDigit := Text.utf8EncodeChar_of_ascii (digitValue?_digit (low_lt byte)).1
      simp only [List.flatMap_cons, List.flatMap_append, List.map_append, inductionHypothesis]
      simp only [bytePair, List.flatMap_cons, List.flatMap_nil, highDigit, lowDigit]
      rfl

/-- Bytes written out as pairs of digits are read back. -/
theorem decodePairs_bytePairs (bytes : List UInt8) (position : Nat) :
    decodePairs position
      ((bytes.flatMap bytePair).map fun character => character.toNat.toUInt8) = .ok bytes := by
  induction bytes generalizing position with
  | nil => rfl
  | cons byte bytes inductionHypothesis =>
      have readHigh := (digitValue?_digit (high_lt byte)).2
      have readLow := (digitValue?_digit (low_lt byte)).2
      simp only [List.flatMap_cons, bytePair, List.cons_append, List.nil_append, List.map_cons,
        decodePairs, readHigh, readLow, inductionHypothesis]
      rw [Nat.div_add_mod, UInt8.ofNat_toNat]
      rfl

/-- What was written is read back. -/
theorem decode_encode (bytes : List UInt8) : decode (encode bytes) = .ok bytes := by
  have even : (Text.utf8Bytes (encode bytes)).length % 2 ≠ 1 := by
    rw [utf8Bytes_encode, List.length_map, length_flatMap_bytePair]
    omega
  unfold decode
  rw [if_neg even, utf8Bytes_encode, decodePairs_bytePairs]

/-! ### Reading -/

/-- A text of odd length is refused before its digits are looked at. -/
theorem decode_of_odd (odd : (Text.utf8Bytes text).length % 2 = 1) :
    decode text = .error .oddLength :=
  if_pos odd

/-- A text of even length is read by pairs. -/
theorem decode_of_even (even : (Text.utf8Bytes text).length % 2 = 0) :
    decode text = decodePairs 0 (Text.utf8Bytes text) :=
  if_neg fun odd => by omega

/-- Where some byte is no digit there is a first such byte. -/
theorem exists_first_bad (someBad : ∃ byte ∈ textBytes, ¬ IsDigit byte) :
    ∃ front bad back, textBytes = front ++ bad :: back ∧ (∀ byte ∈ front, IsDigit byte) ∧
      ¬ IsDigit bad := by
  obtain ⟨byte, member, notDigit⟩ := someBad
  have found : (textBytes.find? fun byte => ¬ IsDigit byte).isSome :=
    List.find?_isSome.mpr ⟨byte, member, decide_eq_true notDigit⟩
  obtain ⟨bad, isFirst⟩ := Option.isSome_iff_exists.mp found
  obtain ⟨isBad, front, back, split, before⟩ := List.find?_eq_some_iff_append.mp isFirst
  refine ⟨front, bad, back, split, ?_, of_decide_eq_true isBad⟩
  intro byte inFront
  simpa using before byte inFront

/-- The first byte that is no digit is reported with its position. -/
theorem decodePairs_of_bad {front back : List UInt8} {bad : UInt8}
    (digits : ∀ byte ∈ front, IsDigit byte) (notDigit : ¬ IsDigit bad)
    (even : (front ++ bad :: back).length % 2 = 0) (position : Nat) :
    decodePairs position (front ++ bad :: back) =
      .error (.notADigit bad (position + front.length)) := by
  have badValue := digitValue?_eq_none_iff.mpr notDigit
  induction front using List.twoStepInduction generalizing position with
  | nil =>
      cases back with
      | nil => cases even
      | cons low back => simp [decodePairs, badValue]
  | singleton high =>
      obtain ⟨highValue, readHigh⟩ := exists_digitValue? (digits high List.mem_cons_self)
      simp [decodePairs, badValue, readHigh]
  | cons_cons high low front inductionHypothesis _ =>
      rw [List.forall_mem_cons, List.forall_mem_cons] at digits
      obtain ⟨highDigit, lowDigit, digits⟩ := digits
      obtain ⟨highValue, readHigh⟩ := exists_digitValue? highDigit
      obtain ⟨lowValue, readLow⟩ := exists_digitValue? lowDigit
      have fewer : (front ++ bad :: back).length % 2 = 0 := by
        simp only [List.cons_append, List.length_cons] at even
        omega
      have failed := inductionHypothesis digits fewer (position + 2)
      have samePlace : position + 2 + front.length = position + (high :: low :: front).length := by
        simp only [List.length_cons]
        omega
      simp only [List.cons_append, decodePairs, readHigh, readLow, failed, samePlace]
      rfl

/-- An even number of digits can be read. -/
theorem decodePairs_of_digits (digits : ∀ byte ∈ textBytes, IsDigit byte)
    (even : textBytes.length % 2 = 0) (position : Nat) :
    ∃ bytes, decodePairs position textBytes = .ok bytes := by
  induction textBytes using List.twoStepInduction generalizing position with
  | nil => exact ⟨[], rfl⟩
  | singleton byte => cases even
  | cons_cons high low rest inductionHypothesis _ =>
      rw [List.forall_mem_cons, List.forall_mem_cons] at digits
      obtain ⟨highDigit, lowDigit, digits⟩ := digits
      obtain ⟨highValue, readHigh⟩ := exists_digitValue? highDigit
      obtain ⟨lowValue, readLow⟩ := exists_digitValue? lowDigit
      have fewer : rest.length % 2 = 0 := by
        simp only [List.length_cons] at even
        omega
      obtain ⟨bytes, read⟩ := inductionHypothesis digits fewer (position + 2)
      exact ⟨UInt8.ofNat (16 * highValue + lowValue) :: bytes, by
        simp only [decodePairs, readHigh, readLow, read]
        rfl⟩

/-- The digits of the bytes that were read are those that were read, in lower case. -/
theorem bytePairs_of_decodePairs {position : Nat}
    (read : decodePairs position textBytes = .ok bytes) :
    (∀ byte ∈ textBytes, IsDigit byte) ∧
      bytes.flatMap bytePair = textBytes.map fun byte => (Char.ofNat byte.toNat).toLower := by
  fun_induction decodePairs position textBytes generalizing bytes with
  | case1 =>
      cases read
      simp
  | case2 | case3 | case4 => cases read
  | case5 position high low rest highValue lowValue readLow readHigh inductionHypothesis =>
      cases later : decodePairs (position + 2) rest with
      | error fault =>
          rw [later] at read
          cases read
      | ok others =>
          rw [later] at read
          cases read
          obtain ⟨digits, sameDigits⟩ := inductionHypothesis later
          obtain ⟨highSmall, highDigit⟩ := digit_of_digitValue? readHigh
          obtain ⟨lowSmall, lowDigit⟩ := digit_of_digitValue? readLow
          -- The byte falls apart into the two values that it was made of.
          have sameByte : (UInt8.ofNat (16 * highValue + lowValue)).toNat =
              16 * highValue + lowValue :=
            UInt8.toNat_ofNat_of_lt (by
              simp only [UInt8.size]
              omega)
          have sameHigh : (16 * highValue + lowValue) / 16 = highValue := by omega
          have sameLow : (16 * highValue + lowValue) % 16 = lowValue := by omega
          constructor
          · rw [List.forall_mem_cons, List.forall_mem_cons]
            exact ⟨isDigit_of_digitValue? readHigh, isDigit_of_digitValue? readLow, digits⟩
          · rw [List.flatMap_cons, sameDigits, bytePair, sameByte, sameHigh, sameLow, highDigit,
              lowDigit]
            rfl

/-- A text that is read as bytes consists of digits, two for each byte, and is their form up to the
case of the letters. -/
theorem encode_of_decode (read : decode text = .ok bytes) :
    (∀ byte ∈ Text.utf8Bytes text, IsDigit byte) ∧
      (Text.utf8Bytes text).length = 2 * bytes.length ∧ encode bytes = text.toLower := by
  have even : (Text.utf8Bytes text).length % 2 = 0 := by
    by_contra odd
    rw [decode_of_odd (Nat.mod_two_ne_zero.mp odd)] at read
    cases read
  rw [decode_of_even even] at read
  obtain ⟨digits, sameDigits⟩ := bytePairs_of_decodePairs read
  refine ⟨digits, ?length, ?lower⟩
  case length =>
    have sameLength := congrArg List.length sameDigits
    rwa [length_flatMap_bytePair, List.length_map, eq_comm] at sameLength
  case lower =>
    have characters := Text.toList_of_ascii fun byte member => (digits byte member).ascii
    have lowered : text.toLower.toList = text.toList.map Char.toLower := String.toList_map
    rw [← String.toList_inj, lowered, characters, List.map_map, encode, String.toList_ofList,
      sameDigits]
    rfl

end Hex

end NamedRefs

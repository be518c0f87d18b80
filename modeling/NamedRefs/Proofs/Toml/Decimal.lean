/-
Module: NamedRefs.Proofs.Toml.Decimal
Purpose: A number written in decimal digits up to the end of a line is read as that number.
Main exports: Toml.LineEnd, Toml.DigitsToEnd, Toml.DigitsToEnd.readDate_eq_none, Toml.Decimal,
  Toml.decimal_toDigits, Toml.readWhole_of_decimal, Toml.readScalar_toDigits
-/
import Mathlib.Algebra.Group.Nat.Defs
import NamedRefs.Toml.Inline

namespace NamedRefs.Toml

/-!
A value that starts with a digit may be a date, a float or an integer, and the readers are tried in
this order.  Digits up to the end of the line are no date, because a date has a dash or a colon between
its digits, and no float, because nothing follows that could be a fraction or an exponent.  As an
integer they are read to the end, with no superfluous zero in front.
-/

variable {text rest after : List Char} {number : Nat}

/-- What can stand behind the last character of a line. -/
inductive LineEnd : List Char → Prop where
  | ofText : LineEnd []
  | newline (next : List Char) : LineEnd ('\n' :: next)

/-- Decimal digits and then the end of the line. -/
inductive DigitsToEnd : List Char → Prop where
  | ends {rest : List Char} : LineEnd rest → DigitsToEnd rest
  | digit {character : Char} {rest : List Char} :
      character.isDigit = true → DigitsToEnd rest → DigitsToEnd (character :: rest)

/-- Digits in front of the end of a line are digits to the end. -/
theorem DigitsToEnd.append {digits : List Char}
    (areDigits : ∀ character ∈ digits, character.isDigit = true) (atEnd : LineEnd rest) :
    DigitsToEnd (digits ++ rest) := by
  induction digits with
  | nil => exact .ends atEnd
  | cons character digits inductionHypothesis =>
      rw [List.forall_mem_cons] at areDigits
      exact .digit areDigits.1 (inductionHypothesis areDigits.2)

/-! ### No date -/

/-- Digits of a fixed number leave digits to the end behind them. -/
theorem DigitsToEnd.readFixed (toEnd : DigitsToEnd text) {count value result : Nat}
    (read : readFixed count value text = some (result, after)) : DigitsToEnd after := by
  induction count generalizing text value with
  | zero =>
      cases read
      exact toEnd
  | succ count inductionHypothesis =>
      cases toEnd with
      | ends atEnd => cases atEnd <;> cases read
      | digit isDigit toEnd =>
          rw [Toml.readFixed] at read
          split at read
          · cases read
          · exact inductionHypothesis toEnd read

theorem DigitsToEnd.readTwo (toEnd : DigitsToEnd text) {low high result : Nat}
    (read : readTwo low high text = some (result, after)) : DigitsToEnd after :=
  toEnd.readFixed (Option.filter_eq_some_iff.mp read).1

/-- A mark that is no digit does not stand among digits. -/
theorem DigitsToEnd.readMark_eq_none (toEnd : DigitsToEnd text) (mark : Char)
    (noDigit : mark.isDigit = false) (noNewline : mark ≠ '\n') : readMark mark text = none := by
  cases toEnd with
  | ends atEnd =>
      cases atEnd with
      | ofText => rfl
      | newline next => simp [readMark, noNewline.symm]
  | @digit character rest isDigit toEnd =>
      have different : character ≠ mark := by
        rintro rfl
        rw [isDigit] at noDigit
        contradiction
      simp [readMark, different]

/-- Digits alone are no day. -/
theorem DigitsToEnd.readDay_eq_none (toEnd : DigitsToEnd text) : readDay text = none := by
  rw [readDay]
  cases readYear : Toml.readFixed 4 0 text with
  | none => rfl
  | some year =>
      obtain ⟨year, after⟩ := year
      simp [(toEnd.readFixed readYear).readMark_eq_none '-' rfl (by decide)]

/-- Digits alone are no time. -/
theorem DigitsToEnd.readTime_eq_none (toEnd : DigitsToEnd text) : readTime text = none := by
  rw [readTime]
  cases readHour : Toml.readTwo 0 23 text with
  | none => rfl
  | some hour =>
      obtain ⟨hour, after⟩ := hour
      simp [(toEnd.readTwo readHour).readMark_eq_none ':' rfl (by decide)]

/-- Digits alone are no date. -/
theorem DigitsToEnd.readDate_eq_none (toEnd : DigitsToEnd text) : readDate text = none := by
  simp [readDate, toEnd.readDay_eq_none, toEnd.readTime_eq_none]

/-! ### The digits of a number -/

theorem decimalValue?_of_isDigit {character : Char} (isDigit : character.isDigit = true) :
    decimalValue? character = some (character.toNat - '0'.toNat) := by
  rw [decimalValue?, if_pos]
  simpa [Char.isDigit, Char.le_def] using isDigit

/-- The values of digits. -/
def digitValues (digits : List Char) : List Nat :=
  digits.map fun character => character.toNat - '0'.toNat

/-- The value of a numeral is what its digits say to base ten. -/
theorem ofDigits_digitValues (digits : List Char) :
    ofDigits 10 (digitValues digits) = Nat.ofDigitChars 10 digits 0 := by
  rw [ofDigits, digitValues, List.foldl_map, Nat.ofDigitChars_eq_foldl]

/-- Digits are read up to the end of the line. -/
theorem moreDigits_of_digits {digits : List Char}
    (areDigits : ∀ character ∈ digits, character.isDigit = true) (atEnd : LineEnd rest) :
    moreDigits decimalValue? (digits ++ rest) = (digitValues digits, rest) := by
  induction digits with
  | nil => cases atEnd <;> rfl
  | cons character digits inductionHypothesis =>
      rw [List.forall_mem_cons] at areDigits
      have value := decimalValue?_of_isDigit areDigits.1
      have others := inductionHypothesis areDigits.2
      have noUnderscore : character ≠ '_' := by
        rintro rfl
        cases areDigits.1
      rw [List.cons_append, moreDigits]
      · simp [value, others, digitValues]
      · intro _ _ isUnderscore
        exact absurd isUnderscore noUnderscore

/-- The digits of a number, as the readers take them: no zero stands in front of others. -/
structure Decimal (first : Char) (digits : List Char) : Prop where
  first_isDigit : first.isDigit = true
  isDigit : ∀ character ∈ digits, character.isDigit = true
  no_leading_zero : first = '0' → digits = []

/-- Only zero is written with a zero in front. -/
theorem head?_toDigits_ne_zero {number : Nat} (positive : 0 < number) :
    (Nat.toDigits 10 number).head? ≠ some '0' := by
  induction number using Nat.strongRecOn with
  | ind number inductionHypothesis =>
      rcases Nat.lt_or_ge number 10 with small | large
      · have noZero : ∀ digit : Fin 10, 0 < digit.val → digit.val.digitChar ≠ '0' := by decide
        rw [Nat.toDigits_of_lt_base small]
        simpa using noZero ⟨number, small⟩ positive
      · have front := inductionHypothesis (number / 10) (by omega) (by omega)
        obtain ⟨first, digits, written⟩ :=
          List.exists_cons_of_ne_nil (Nat.toDigits_ne_nil (n := number / 10) (b := 10))
        rw [Nat.toDigits_of_base_le (by decide) large, written]
        rw [written] at front
        exact front

/-- A number is written as a decimal: a digit first, and no zero before others. -/
theorem decimal_toDigits (number : Nat) :
    ∃ first digits, Nat.toDigits 10 number = first :: digits ∧ Decimal first digits := by
  obtain ⟨first, digits, written⟩ :=
    List.exists_cons_of_ne_nil (Nat.toDigits_ne_nil (n := number) (b := 10))
  have areDigits : ∀ character ∈ first :: digits, character.isDigit = true := by
    intro character member
    exact Nat.isDigit_of_mem_toDigits (by decide) (Nat.le_refl 10) (written ▸ member)
  rw [List.forall_mem_cons] at areDigits
  refine ⟨first, digits, written, areDigits.1, areDigits.2, ?_⟩
  rintro rfl
  rcases Nat.eq_zero_or_pos number with rfl | positive
  · cases written
    rfl
  · have noZero := head?_toDigits_ne_zero positive
    rw [written] at noZero
    exact absurd rfl noZero

/-- A decimal is read up to the end of the line. -/
theorem readWhole_of_decimal {first : Char} {digits : List Char} (decimal : Decimal first digits)
    (atEnd : LineEnd rest) :
    readWhole (first :: (digits ++ rest)) = some (digitValues (first :: digits), rest) := by
  by_cases isZero : first = '0'
  · subst isZero
    rw [decimal.no_leading_zero rfl]
    rfl
  · rw [readWhole]
    · rw [readDigits, decimalValue?_of_isDigit decimal.first_isDigit]
      simp only [moreDigits_of_digits decimal.isDigit atEnd]
      rfl
    · intro _ split
      cases split
      exact isZero rfl

/-! ### No float, but an integer -/

theorem readFraction_of_lineEnd (atEnd : LineEnd rest) : readFraction rest = none := by
  cases atEnd <;> rfl

theorem readExponent_of_lineEnd (atEnd : LineEnd rest) : readExponent rest = none := by
  cases atEnd <;> rfl

variable {first : Char} {digits : List Char}

/-- A decimal begins with a digit and nothing else. -/
theorem Decimal.first_ne (decimal : Decimal first digits) (other : Char)
    (noDigit : other.isDigit = false) : first ≠ other := by
  rintro rfl
  rw [decimal.first_isDigit] at noDigit
  contradiction

/-- A decimal has no sign to be read. -/
theorem Decimal.readSign (decimal : Decimal first digits) (rest : List Char) :
    readSign (first :: rest) = (false, first :: rest) := by
  rw [Toml.readSign.eq_def]
  split
  · rename_i split
    exact absurd (List.cons.inj split).1 (decimal.first_ne _ rfl)
  · rename_i split
    exact absurd (List.cons.inj split).1 (decimal.first_ne _ rfl)
  · rfl

/-- A decimal alone is no float. -/
theorem Decimal.readFloat (decimal : Decimal first digits) (atEnd : LineEnd rest) :
    readFloat (first :: (digits ++ rest)) = none := by
  rw [Toml.readFloat, decimal.readSign]
  simp only
  split
  · rename_i split
    exact absurd (List.cons.inj split).1 (decimal.first_ne _ rfl)
  · rename_i split
    exact absurd (List.cons.inj split).1 (decimal.first_ne _ rfl)
  · simp [readWhole_of_decimal decimal atEnd, readFraction_of_lineEnd atEnd,
      readExponent_of_lineEnd atEnd]

/-- A decimal is read as the number it writes, provided that it can be stored. -/
theorem Decimal.readInteger (decimal : Decimal first digits) (atEnd : LineEnd rest) :
    readInteger (first :: (digits ++ rest)) =
      (some (Int.ofNat (ofDigits 10 (digitValues (first :: digits))), rest)).filter
        fun (value, _) => isStorable value := by
  have noPrefix : ∀ letter others, letter.isDigit = false → letter ≠ '\n' →
      first :: (digits ++ rest) ≠ '0' :: letter :: others := by
    intro letter others noDigit noNewline split
    obtain ⟨isZero, behind⟩ := List.cons.inj split
    rw [decimal.no_leading_zero isZero] at behind
    cases atEnd with
    | ofText => cases behind
    | newline next => exact noNewline (List.cons.inj behind).1.symm
  rw [Toml.readInteger]
  · simp only [decimal.readSign, readWhole_of_decimal decimal atEnd]
    rfl
  · exact fun others => noPrefix 'x' others rfl (by decide)
  · exact fun others => noPrefix 'o' others rfl (by decide)
  · exact fun others => noPrefix 'b' others rfl (by decide)

/-- A natural number below the word's half can be stored. -/
theorem isStorable_natCast {number : Nat} (small : number < 2 ^ 63) :
    isStorable number = true := by
  simp [isStorable]
  omega

/-- The digits of a number of sixty-three bits are read as an integer. -/
theorem readScalar_toDigits {number : Nat} (small : number < 2 ^ 63) (atEnd : LineEnd rest) :
    readScalar (Nat.toDigits 10 number ++ rest) = some (.integer number, rest) := by
  obtain ⟨first, digits, written, decimal⟩ := decimal_toDigits number
  have value : ofDigits 10 (digitValues (first :: digits)) = number := by
    rw [ofDigits_digitValues, ← written, Nat.ofDigitChars_ten_toDigits]
  have noDate : readDate (first :: (digits ++ rest)) = none :=
    (DigitsToEnd.digit decimal.first_isDigit (.append decimal.isDigit atEnd)).readDate_eq_none
  have integer : readInteger (first :: (digits ++ rest)) = some ((number : Int), rest) := by
    rw [decimal.readInteger atEnd, value]
    exact Option.filter_eq_some_iff.mpr ⟨rfl, isStorable_natCast small⟩
  rw [written, List.cons_append, readScalar]
  · rw [noDate, decimal.readFloat atEnd, integer]
    rfl
  all_goals
    intro _ split
    exact absurd (List.cons.inj split).1 (decimal.first_ne _ rfl)

end NamedRefs.Toml

/-
Module: NamedRefs.Proofs.Glob.Negation
Purpose: A sign behind the opening bracket turns a class into its complement and changes nothing else.
Main exports: Glob.compile_eq_bracket_iff, Glob.readClass_eq_unsigned_iff, Glob.readClass_signed,
  Glob.accepts_negated, Glob.selects_bracket_iff, Glob.sign_complements_class,
  Glob.sign_complements_closing_bracket
-/
import NamedRefs.Proofs.Glob.BracketClass
import NamedRefs.Proofs.Glob.Language

namespace NamedRefs.Glob

/-!
A class without a sign starts with its first member.  If a sign is put in front, the members still come
first behind it, so that a closing bracket is a member there as it was before, and from then on nothing
is read differently.  What is negated is the answer of all members together, not that of each one.
-/

variable {text rest body : List Char} {items : List ClassItem} {negated : Bool}

/-! ### Patterns that are one class -/

/-- Only the empty pattern has no tokens. -/
theorem compile_eq_nil_iff : compile text = [] ↔ text = [] := by
  constructor
  · intro noTokens
    cases text with
    | nil => rfl
    | cons first rest =>
        rw [compile_cons, Token.attach.eq_def] at noTokens
        split at noTokens <;> cases noTokens
  · rintro rfl
    exact compile_nil

/-- Only a bracket starts a class, and it is alone when its text ends with the pattern. -/
theorem compile_eq_bracket_iff :
    compile ('[' :: text) = [.bracket negated items] ↔
      readClass text = some ((negated, items), []) := by
  rw [compile_cons]
  cases read : readClass text with
  | none => simp [readToken, read, Token.attach]
  | some content =>
      obtain ⟨⟨sign, members⟩, after⟩ := content
      simp [readToken_bracket read, Token.attach, compile_eq_nil_iff, and_assoc]

/-- A class that is not negated has no sign in front of its members. -/
theorem readClass_eq_unsigned_iff : readClass body = some ((false, items), rest) ↔
    (body.head? ≠ some '!' ∧ body.head? ≠ some '^') ∧
      readItems false body = some (items, rest) := by
  rcases signed_or_unsigned body with ⟨sign, members, isSign, rfl⟩ | unsigned
  · rcases isSign with rfl | rfl
    · simp [readClass_of_signed (Or.inl rfl)]
    · simp [readClass_of_signed (Or.inr rfl)]
  · simp [readClass_of_unsigned unsigned.1 unsigned.2, unsigned]

/-- Behind a sign a class keeps its members and its end. -/
theorem readClass_signed (read : readClass body = some ((false, items), rest)) {sign : Char}
    (isSign : sign = '!' ∨ sign = '^') :
    readClass (sign :: body) = some ((true, items), rest) := by
  obtain ⟨_, members⟩ := readClass_eq_unsigned_iff.mp read
  rw [readClass_of_signed isSign, members]
  rfl

/-! ### What a class selects -/

/-- Of the same items, a class and its negation accept complementary characters. -/
theorem accepts_negated (items : List ClassItem) (character : Char) :
    (Token.bracket true items).accepts character =
      !(Token.bracket false items).accepts character := by
  simp [Token.accepts]

/-- A class selects the texts of one character that it accepts. -/
theorem selects_bracket_iff {pattern : String}
    (compiled : (ofPattern pattern).tokens = [.bracket negated items]) (text : String) :
    (ofPattern pattern).selects text = true ↔
      ∃ character, text = String.singleton character ∧
        (Token.bracket negated items).accepts character = true := by
  have different : Token.bracket negated items ≠ .star := nofun
  rw [selects, compiled, accepts_eq_true_iff, matches_cons_iff different]
  simp [matches_nil_iff, ← String.toList_inj]

/-- A pattern that is one class selects the characters that the class accepts. -/
theorem selects_bracket_singleton {pattern : String}
    (compiled : (ofPattern pattern).tokens = [.bracket negated items]) (character : Char) :
    (ofPattern pattern).selects (String.singleton character) =
      (Token.bracket negated items).accepts character := by
  rw [Bool.eq_iff_iff, selects_bracket_iff compiled]
  simp [← String.toList_inj]

/-- If a pattern is one class without a sign, then with either sign behind the opening bracket it is
one class with the same members in the same order, negated.  Of a class and its negation exactly one
selects a character, both signs mean the same, and no class selects a text that is not one character
long. -/
theorem sign_complements_class (body : String) (items : List ClassItem)
    (plain : (ofPattern ("[" ++ body ++ "]")).tokens = [.bracket false items]) :
    (ofPattern ("[!" ++ body ++ "]")).tokens = [.bracket true items] ∧
    (ofPattern ("[^" ++ body ++ "]")).tokens = [.bracket true items] ∧
    (∀ character, (ofPattern ("[!" ++ body ++ "]")).selects (String.singleton character) =
      !(ofPattern ("[" ++ body ++ "]")).selects (String.singleton character)) ∧
    (∀ text, (ofPattern ("[!" ++ body ++ "]")).selects text =
      (ofPattern ("[^" ++ body ++ "]")).selects text) ∧
    ∀ opening ∈ ["[", "[!", "[^"], ∀ text : String, text.length ≠ 1 →
      (ofPattern (opening ++ body ++ "]")).selects text = false := by
  have read : readClass (body.toList ++ [']']) = some ((false, items), []) := by
    rw [← compile_eq_bracket_iff]
    simpa [ofPattern] using plain
  have negated : ∀ sign : Char, sign = '!' ∨ sign = '^' →
      compile ('[' :: sign :: (body.toList ++ [']'])) = [.bracket true items] := by
    intro sign isSign
    exact compile_eq_bracket_iff.mpr (readClass_signed read isSign)
  have marked : (ofPattern ("[!" ++ body ++ "]")).tokens = [.bracket true items] := by
    simpa [ofPattern] using negated '!' (Or.inl rfl)
  have careted : (ofPattern ("[^" ++ body ++ "]")).tokens = [.bracket true items] := by
    simpa [ofPattern] using negated '^' (Or.inr rfl)
  refine ⟨marked, careted, ?complement, ?sameTexts, ?lengths⟩
  case complement =>
    intro character
    rw [selects_bracket_singleton marked, selects_bracket_singleton plain, accepts_negated]
  case sameTexts =>
    intro text
    rw [selects, selects, marked, careted]
  case lengths =>
    have oneCharacter : ∀ pattern sign, (ofPattern pattern).tokens = [.bracket sign items] →
        ∀ text : String, text.length ≠ 1 → (ofPattern pattern).selects text = false := by
      intro pattern sign compiled text otherLength
      rw [← Bool.not_eq_true, selects_bracket_iff compiled]
      rintro ⟨character, rfl, _⟩
      exact otherLength (String.length_singleton)
    simpa using ⟨oneCharacter _ _ plain, oneCharacter _ _ marked, oneCharacter _ _ careted⟩

/-- A class whose members are the closing bracket, a range and the closing bracket once more. -/
theorem sign_complements_closing_bracket :
    (ofPattern ("[" ++ "]a-c\\]" ++ "]")).tokens =
      [.bracket false [.member ']', .range 'a' 'c', .member ']']] ∧
    (ofPattern ("[!" ++ "]a-c\\]" ++ "]")).tokens =
      [.bracket true [.member ']', .range 'a' 'c', .member ']']] := by
  have read : readClass [']', 'a', '-', 'c', '\\', ']', ']'] =
      some ((false, [.member ']', .range 'a' 'c', .member ']']), []) := by
    cbv
  have plain : (ofPattern ("[" ++ "]a-c\\]" ++ "]")).tokens =
      [.bracket false [.member ']', .range 'a' 'c', .member ']']] :=
    compile_eq_bracket_iff.mpr read
  exact ⟨plain, (sign_complements_class "]a-c\\]" _ plain).1⟩

end NamedRefs.Glob

/-
Module: NamedRefs.Proofs.Glob.Plain
Purpose: A pattern without special characters selects the text that it is and no other, and every
  valid name is such a pattern.
Main exports: Glob.specialCharacters, Glob.IsPlain, Glob.compile_of_plain,
  Glob.accepts_of_starless, Glob.selects_of_isPlain, RefName.isPlain_of_isValid
-/
import Mathlib.Data.List.Forall2
import NamedRefs.Proofs.Glob.Language
import NamedRefs.Proofs.RefName.Components

namespace NamedRefs

/-!
A plain pattern compiles to one literal for each of its characters.  No star is among them, so
tokens and text are compared side by side, and match when both end together.
-/

namespace Glob

/-- The characters that do not stand for themselves in a pattern. -/
def specialCharacters : List Char :=
  ['*', '?', '[', '\\']

/-- A pattern in which every character stands for itself. -/
def IsPlain (pattern : String) : Prop :=
  ∀ character ∈ pattern.toList, character ∉ specialCharacters

/-! ### Compiling -/

/-- A character without special meaning is a literal. -/
theorem readToken_of_plain {first : Char} (plain : first ∉ specialCharacters) (rest : List Char) :
    readToken first rest = (.literal first, rest) := by
  unfold readToken
  split <;> simp_all [specialCharacters]

/-- A pattern without special characters is compiled character by character. -/
theorem compile_of_plain {pattern : List Char}
    (plain : ∀ character ∈ pattern, character ∉ specialCharacters) :
    compile pattern = pattern.map .literal := by
  induction pattern with
  | nil => exact compile_nil
  | cons first rest inductionHypothesis =>
      have literal := readToken_of_plain (plain first List.mem_cons_self) rest
      have others := inductionHypothesis fun character member =>
        plain character (List.mem_cons_of_mem first member)
      simp [compile_cons, literal, others, Token.attach]

/-! ### Matching -/

/-- Without stars tokens and characters are compared side by side. -/
theorem matches_iff_of_starless {tokens : List Token} (starless : .star ∉ tokens)
    (text : List Char) : Matches tokens text ↔
      List.Forall₂ (fun token character => token.accepts character = true) tokens text := by
  induction tokens generalizing text with
  | nil => simp [matches_nil_iff]
  | cons token tokens inductionHypothesis =>
      rw [List.mem_cons, not_or] at starless
      rw [matches_cons_iff (Ne.symm starless.1), List.forall₂_cons_left_iff]
      simp only [inductionHypothesis starless.2]
      grind

/-- Tokens without a star accept the texts of their own length, character by character. -/
theorem accepts_of_starless {tokens : List Token} (starless : .star ∉ tokens)
    (text : List Char) : accepts tokens text = true ↔
      List.Forall₂ (fun token character => token.accepts character = true) tokens text := by
  rw [accepts_eq_true_iff, matches_iff_of_starless starless]

/-- A plain pattern selects itself and nothing else. -/
theorem selects_of_isPlain {pattern : String} (plain : IsPlain pattern) (text : String) :
    (ofPattern pattern).selects text = true ↔ text = pattern := by
  have starless : .star ∉ pattern.toList.map Token.literal := by simp
  have compiled : (ofPattern pattern).tokens = pattern.toList.map .literal :=
    compile_of_plain plain
  rw [selects, compiled, accepts_of_starless starless, List.forall₂_map_left_iff]
  simp only [Token.accepts, beq_iff_eq, List.forall₂_eq_eq_eq]
  rw [String.toList_inj, eq_comm]

end Glob

namespace RefName

/-- The naming rules keep every special character of patterns out of names. -/
theorem isPlain_of_isValid {name : String} (valid : IsValid name) : Glob.IsPlain name := by
  intro character member special
  have refused : ∀ character ∈ Glob.specialCharacters, character ∈ forbiddenCharacters := by
    simp [Glob.specialCharacters, forbiddenCharacters]
  obtain ⟨_, _, _, noForbidden, _⟩ := (isValid_iff name).mp valid
  exact noForbidden character (refused character special) member

end RefName

end NamedRefs

/-
Module: NamedRefs.Proofs.Glob.Language
Purpose: One point of return is enough: the scan finds exactly the texts that the tokens describe.
Main exports: Glob.matches_star_iff, Glob.matches_cons_iff, Glob.Scan.Aligned, Glob.Scan.CanMatch,
  Glob.accepts_eq_true_iff, Glob.selects_eq_true_iff, Glob.scan_decides_language
-/
import Mathlib.Data.List.Infix
import NamedRefs.Glob

namespace NamedRefs.Glob

/-!
The scan forgets every star but the last one it passed.  Nothing is lost by that: the tokens between
two stars take one character each, so however much the first star absorbs, they take up equally much
text.  If the first star had absorbed more, then the second one would have been reached further back
in the text, and whatever can be matched from there the second star reaches by absorbing more itself.
-/

variable {token : Token} {tokens : List Token} {text : List Char}

/-! ### The language by the first token -/

/-- No tokens match nothing but the empty text. -/
theorem matches_nil_iff : Matches [] text ↔ text = [] := by
  constructor
  · intro described
    cases described
    rfl
  · rintro rfl
    exact .done

/-- A star takes any text in front of what the other tokens match. -/
theorem matches_star_iff :
    Matches (.star :: tokens) text ↔ ∃ rest, rest <:+ text ∧ Matches tokens rest := by
  constructor
  · intro described
    cases described with
    | star skipped behind => exact ⟨_, List.suffix_append skipped _, behind⟩
    | single accepted behind => cases accepted
  · rintro ⟨rest, ⟨skipped, rfl⟩, behind⟩
    exact .star skipped behind

/-- Any other token takes one character that it accepts. -/
theorem matches_cons_iff (different : token ≠ .star) :
    Matches (token :: tokens) text ↔
      ∃ character rest, text = character :: rest ∧ token.accepts character = true ∧
        Matches tokens rest := by
  constructor
  · intro described
    cases described with
    | star skipped behind => exact absurd rfl different
    | single accepted behind => exact ⟨_, _, rfl, accepted, behind⟩
  · rintro ⟨character, rest, rfl, accepted, behind⟩
    exact .single accepted behind

/-- At the end of the text only stars may be left. -/
theorem matches_empty_iff : Matches tokens [] ↔ ∀ token ∈ tokens, token = .star := by
  induction tokens with
  | nil => simp [matches_nil_iff]
  | cons token tokens inductionHypothesis =>
      by_cases isStar : token = .star
      · subst isStar
        simp [matches_star_iff, inductionHypothesis]
      · simp [matches_cons_iff isStar, isStar]

/-- A star absorbs nothing, or one character and then goes on absorbing. -/
theorem matches_star_iff_step :
    Matches (.star :: tokens) text ↔
      Matches tokens text ∨
        ∃ character rest, text = character :: rest ∧ Matches (.star :: tokens) rest := by
  cases text with
  | nil => simp [matches_star_iff]
  | cons character rest =>
      simp only [matches_star_iff, List.suffix_cons_iff, or_and_right, exists_or, exists_eq_left,
        List.cons.injEq, and_assoc, exists_and_left, exists_eq_left']

/-- In front of a star any text may stand. -/
theorem Matches.extend {rest : List Char} (described : Matches (.star :: tokens) rest)
    (isSuffix : rest <:+ text) : Matches (.star :: tokens) text := by
  obtain ⟨behind, within, described⟩ := matches_star_iff.mp described
  exact matches_star_iff.mpr ⟨behind, within.trans isSuffix, described⟩

/-- Tokens that are no stars take up as many characters as they are. -/
theorem Matches.behind_singles {passed : List Token} (starless : .star ∉ passed)
    (described : Matches (passed ++ tokens) text) :
    ∃ taken rest, text = taken ++ rest ∧ taken.length = passed.length ∧ Matches tokens rest := by
  induction passed generalizing text with
  | nil => exact ⟨[], text, rfl, rfl, described⟩
  | cons token passed inductionHypothesis =>
      rw [List.mem_cons, not_or] at starless
      obtain ⟨character, rest, rfl, accepted, described⟩ :=
        (matches_cons_iff (Ne.symm starless.1)).mp described
      obtain ⟨taken, behind, rfl, sameLength, described⟩ :=
        inductionHypothesis starless.2 described
      exact ⟨character :: taken, behind, rfl, congrArg Nat.succ sameLength, described⟩

/-! ### The characters that a token takes -/

/-- An item covers its one character, or those from the low end of its range to the high one. -/
theorem ClassItem.covers_eq_true_iff {item : ClassItem} {character : Char} :
    item.covers character = true ↔
      item = .member character ∨ ∃ low high, item = .range low high ∧
        low.toNat ≤ character.toNat ∧ character.toNat ≤ high.toNat := by
  cases item with
  | member expected => simp [covers]
  | range low high => simp [covers, Char.le_def, UInt32.le_iff_toNat_le]

/-- A class takes the characters that one of its members covers, a negated class all others. -/
theorem Token.accepts_bracket_iff {negated : Bool} {items : List ClassItem} {character : Char} :
    (Token.bracket negated items).accepts character = true ↔
      ((∃ item ∈ items, item.covers character = true) ↔ negated = false) := by
  rw [← List.any_eq_true]
  cases negated <;> cases covered : items.any (·.covers character) <;>
    simp [accepts, covered]

namespace Scan

/-! ### What a scan can still come to -/

/-- The tokens between the last star and the place where the scan stands are no stars, and each of
them has taken one character since. -/
def Aligned (scan : Scan) : Prop :=
  ∀ point ∈ scan.resume, ∃ passed read,
    point.tokens = passed ++ scan.tokens ∧ point.text = read ++ scan.text ∧
      passed.length = read.length ∧ .star ∉ passed

/-- A match is left: from where the scan stands, or with a last star that absorbs more than it has
absorbed yet. -/
def CanMatch (scan : Scan) : Prop :=
  Matches scan.tokens scan.text ∨
    ∃ point ∈ scan.resume, ∃ character rest,
      point.text = character :: rest ∧ Matches (.star :: point.tokens) rest

/-- A match is left after a step; at the end of a scan, it is the answer. -/
def Progress.CanMatch : Progress → Prop
  | .continues next => next.CanMatch
  | .ends matched => matched = true

variable {scan next : Scan}

/-- Coming back to the last star leaves the scan aligned. -/
theorem aligned_retreat (stepped : scan.retreat = .continues next) : next.Aligned := by
  unfold retreat at stepped
  split at stepped
  · cases stepped
    rintro point ⟨⟩
    exact ⟨[], [], rfl, rfl, rfl, List.not_mem_nil⟩
  all_goals cases stepped

/-- A step keeps the scan aligned. -/
theorem aligned_step (aligned : scan.Aligned) (stepped : scan.step = .continues next) :
    next.Aligned := by
  unfold step at stepped
  split at stepped
  · cases stepped
  · exact aligned_retreat stepped
  · rename_i character text token tokens hasText hasTokens
    split at stepped
    · cases stepped
      rintro point ⟨⟩
      exact ⟨[], [], rfl, rfl, rfl, List.not_mem_nil⟩
    · rename_i different
      split at stepped
      · cases stepped
        intro point isPoint
        obtain ⟨passed, read, sameTokens, sameText, sameLength, starless⟩ := aligned point isPoint
        refine ⟨passed ++ [token], read ++ [character], ?_, ?_, ?_, ?_⟩
        · simp [sameTokens, hasTokens]
        · simp [sameText, hasText]
        · simp [sameLength]
        · simp [starless, Ne.symm different]
      · exact aligned_retreat stepped

/-- Going back to the last star loses nothing when there is no match from where the scan stands. -/
theorem canMatch_retreat (stuck : ¬ Matches scan.tokens scan.text) :
    scan.retreat.CanMatch ↔ scan.CanMatch := by
  unfold retreat
  split
  · rename_i tokens character text resume
    have later : Matches (.star :: tokens) text ↔ _ := matches_star_iff_step
    simp [Progress.CanMatch, CanMatch, stuck, resume, later]
  · rename_i tokens resume
    simp [Progress.CanMatch, CanMatch, stuck, resume]
  · rename_i resume
    simp [Progress.CanMatch, CanMatch, stuck, resume]

/-- At the end of the text the last star cannot absorb more: too little would be left for the tokens
behind it. -/
theorem canMatch_at_end (aligned : scan.Aligned) (atEnd : scan.text = []) :
    scan.CanMatch ↔ Matches scan.tokens [] := by
  unfold CanMatch
  rw [atEnd]
  constructor
  · rintro (described | ⟨point, isPoint, character, rest, sameRest, described⟩)
    · exact described
    · obtain ⟨passed, read, sameTokens, sameText, sameLength, starless⟩ := aligned point isPoint
      rw [atEnd, List.append_nil, sameRest] at sameText
      obtain ⟨behind, within, described⟩ := matches_star_iff.mp described
      rw [sameTokens] at described
      obtain ⟨taken, left, rfl, longEnough, _⟩ := described.behind_singles starless
      have short := within.length_le
      simp only [← sameText, List.length_append, List.length_cons] at sameLength short
      omega
  · exact Or.inl

/-- At a star all earlier ones can be forgotten. -/
theorem canMatch_at_star (aligned : scan.Aligned) (atStar : scan.tokens = .star :: tokens) :
    scan.CanMatch ↔ Matches (.star :: tokens) scan.text := by
  unfold CanMatch
  rw [atStar]
  constructor
  · rintro (described | ⟨point, isPoint, character, rest, sameRest, described⟩)
    · exact described
    · obtain ⟨passed, read, sameTokens, sameText, sameLength, starless⟩ := aligned point isPoint
      obtain ⟨behind, within, described⟩ := matches_star_iff.mp described
      rw [sameTokens, atStar] at described
      -- The tokens up to this star take as much as they have read, but begin further back.
      obtain ⟨taken, left, rfl, takenLength, described⟩ := described.behind_singles starless
      apply described.extend
      have left_suffix : left <:+ point.text :=
        (List.suffix_append taken left).trans
          (within.trans (sameRest ▸ List.suffix_cons character rest))
      apply List.suffix_of_suffix_length_le left_suffix (sameText ▸ List.suffix_append read _)
      have short := within.length_le
      have long := congrArg List.length (sameRest.symm.trans sameText)
      simp only [List.length_append, List.length_cons] at short long
      omega
  · exact Or.inl

/-- A step neither loses a match nor makes one up. -/
theorem canMatch_step (aligned : scan.Aligned) : scan.step.CanMatch ↔ scan.CanMatch := by
  unfold step
  split
  · rename_i tokens atEnd
    rw [canMatch_at_end aligned atEnd, matches_empty_iff]
    simp [Progress.CanMatch]
  · rename_i character text hasText hasTokens
    apply canMatch_retreat
    rw [hasText, hasTokens, matches_nil_iff]
    exact List.cons_ne_nil character text
  · rename_i character text token tokens hasText hasTokens
    split
    · rename_i isStar
      subst isStar
      rw [canMatch_at_star aligned hasTokens, matches_star_iff_step]
      simp [Progress.CanMatch, CanMatch]
    · rename_i different
      split
      · rename_i accepted
        simp [Progress.CanMatch, CanMatch, hasText, hasTokens, matches_cons_iff different, accepted]
      · rename_i refused
        apply canMatch_retreat
        rw [hasText, hasTokens, matches_cons_iff different]
        rintro ⟨_, _, ⟨⟩, accepted, _⟩
        exact refused accepted

/-- A scan ends with a match exactly if there is one to be found. -/
theorem run_eq_true_iff (coherent : scan.Coherent) (aligned : scan.Aligned) :
    scan.run coherent = true ↔ scan.CanMatch := by
  fun_induction run scan coherent with
  | case1 scan coherent matched stepped =>
      rw [← canMatch_step aligned, stepped]
      rfl
  | case2 scan coherent next stepped inductionHypothesis =>
      rw [inductionHypothesis (aligned_step aligned stepped), ← canMatch_step aligned, stepped]
      rfl

end Scan

/-- The scan accepts exactly the texts of the language. -/
theorem accepts_eq_true_iff (tokens : List Token) (text : List Char) :
    accepts tokens text = true ↔ Matches tokens text := by
  have aligned : (Scan.start tokens text).Aligned := by
    rintro point ⟨⟩
  rw [accepts, Scan.run_eq_true_iff _ aligned]
  simp [Scan.CanMatch, Scan.start]

/-- A pattern selects exactly the texts in the language of its tokens. -/
theorem selects_eq_true_iff (pattern text : String) :
    (ofPattern pattern).selects text = true ↔ Matches (compile pattern.toList) text.toList :=
  accepts_eq_true_iff (compile pattern.toList) text.toList

/-- The scan finds a match exactly when the text is in the language of the tokens, whether or not
they come from a pattern.  In that language no tokens describe the empty text only; a star leaves
some rear part of the text to the tokens behind it; any other token takes one character and leaves
the rest.  A literal takes itself, the question mark anything, and a class the characters that are
among its members or within one of its ranges by code point, or all others if it is negated. -/
theorem scan_decides_language :
    (∀ tokens text, accepts tokens text = true ↔ Matches tokens text) ∧
    (∀ pattern text : String,
      (ofPattern pattern).selects text = true ↔
        Matches (compile pattern.toList) text.toList) ∧
    (∀ text, Matches [] text ↔ text = []) ∧
    (∀ tokens text,
      Matches (.star :: tokens) text ↔ ∃ rest, rest <:+ text ∧ Matches tokens rest) ∧
    (∀ token tokens text, token ≠ .star →
      (Matches (token :: tokens) text ↔
        ∃ character rest, text = character :: rest ∧ token.accepts character = true ∧
          Matches tokens rest)) ∧
    ∀ character,
      (∀ expected, (Token.literal expected).accepts character = true ↔ expected = character) ∧
      Token.anyCharacter.accepts character = true ∧
      ∀ negated items, (Token.bracket negated items).accepts character = true ↔
        ((∃ item ∈ items, item = .member character ∨
          ∃ low high, item = .range low high ∧
            low.toNat ≤ character.toNat ∧ character.toNat ≤ high.toNat) ↔ negated = false) := by
  refine ⟨accepts_eq_true_iff, ?patterns, fun text => matches_nil_iff,
    fun tokens text => matches_star_iff, fun token tokens text => matches_cons_iff, ?characters⟩
  case patterns =>
    intro pattern text
    exact accepts_eq_true_iff (ofPattern pattern).tokens text.toList
  case characters =>
    intro character
    refine ⟨fun expected => beq_iff_eq, rfl, fun negated items => ?_⟩
    simp only [Token.accepts_bracket_iff, ClassItem.covers_eq_true_iff]

/-- Two stars share a text in more than one way; the scan settles for the first place at which the
literal between them stands. -/
example : accepts (compile "*b*".toList) "abbc".toList = true := by
  cbv

end NamedRefs.Glob

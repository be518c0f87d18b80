/-
Module: NamedRefs.Proofs.Glob.Concatenation
Purpose: A pattern whose tokens all end within it selects, together with a second pattern behind it,
  the texts that can be cut into one for each of the two.
Main exports: Glob.SelfContained, Glob.compile_append, Glob.matches_append_iff,
  Glob.joined_patterns_select_joined_texts
-/
import NamedRefs.Proofs.Glob.BracketClass
import NamedRefs.Proofs.Glob.Language

namespace NamedRefs.Glob

/-!
Compiling looks ahead in two places: behind a backslash, and behind an opening bracket as far as the
closing one.  Where both find within the first pattern what they look for, nothing of the second
pattern is drawn into the first, and the tokens of both together are those of the first followed by
those of the second.  Only two stars that meet at the seam become one, which selects no other texts.
-/

/-- A pattern that is compiled without missing anything at its end: each opening bracket that starts
a token has its closing bracket, and no backslash that starts a token is the last character. -/
inductive SelfContained : List Char → Prop where
  | nil : SelfContained []
  | cons {first : Char} {rest : List Char} :
      (first = '[' → readClass rest ≠ none) → (first = '\\' → rest ≠ []) →
      SelfContained (readToken first rest).2 → SelfContained (first :: rest)

variable {token : Token} {tokens more : List Token} {text : List Char}

/-! ### Tokens of joined patterns -/

/-- A token that ends within the pattern is read there as before. -/
theorem readToken_append {first : Char} {rest : List Char}
    (closes : first = '[' → readClass rest ≠ none) (protects : first = '\\' → rest ≠ [])
    (behind : List Char) :
    readToken first (rest ++ behind) =
      ((readToken first rest).1, (readToken first rest).2 ++ behind) := by
  by_cases isBracket : first = '['
  · subst isBracket
    cases read : readClass rest with
    | none => exact absurd read (closes rfl)
    | some content =>
        obtain ⟨⟨negated, items⟩, after⟩ := content
        rw [readToken_bracket read, readToken_bracket (readClass_append read behind)]
  · by_cases isBackslash : first = '\\'
    · subst isBackslash
      obtain ⟨character, after, rfl⟩ := List.exists_cons_of_ne_nil (protects rfl)
      rfl
    · unfold readToken
      split <;> simp_all

/-- A second star in front adds nothing. -/
theorem attach_star_attach_star (tokens : List Token) :
    Token.star.attach (Token.star.attach tokens) = Token.star.attach tokens := by
  cases tokens with
  | nil => rfl
  | cons token tokens => cases token <;> rfl

/-- Tokens that were attached may be attached again in front of more. -/
theorem foldr_attach (token : Token) (tokens more : List Token) :
    (token.attach tokens).foldr Token.attach more =
      token.attach (tokens.foldr Token.attach more) := by
  rw [Token.attach.eq_def]
  split
  -- The star that is dropped here would also be dropped by the star it stands in front of.
  · exact (attach_star_attach_star _).symm
  · rfl

/-- The tokens of joined patterns are the tokens of the first one, attached to those of the second
one. -/
theorem compile_append {first : List Char} (selfContained : SelfContained first)
    (second : List Char) :
    compile (first ++ second) = (compile first).foldr Token.attach (compile second) := by
  induction selfContained with
  | nil => rw [compile_nil]; rfl
  | @cons first rest closes protects others inductionHypothesis =>
      calc compile (first :: rest ++ second)
          = (readToken first rest).1.attach (compile ((readToken first rest).2 ++ second)) := by
            rw [List.cons_append, compile_cons, readToken_append closes protects]
        _ = (readToken first rest).1.attach
              ((compile (readToken first rest).2).foldr Token.attach (compile second)) := by
            rw [inductionHypothesis]
        _ = (compile (first :: rest)).foldr Token.attach (compile second) := by
            rw [← foldr_attach, ← compile_cons]

/-! ### Texts of joined tokens -/

/-- Attaching a token is putting it in front as far as texts are concerned. -/
theorem matches_attach_iff : Matches (token.attach tokens) text ↔ Matches (token :: tokens) text := by
  unfold Token.attach
  split
  · rename_i tokens
    constructor
    · exact fun described => .star [] described
    · intro described
      obtain ⟨rest, isSuffix, described⟩ := matches_star_iff.mp described
      exact described.extend isSuffix
  · rfl

/-- Tokens with the same language can stand for each other behind any token. -/
theorem matches_cons_congr {others : List Token}
    (same : ∀ text, Matches tokens text ↔ Matches others text) :
    Matches (token :: tokens) text ↔ Matches (token :: others) text := by
  by_cases isStar : token = .star
  · subst isStar
    simp only [matches_star_iff, same]
  · simp only [matches_cons_iff isStar, same]

/-- Attaching tokens instead of appending them leaves the language as it is. -/
theorem matches_foldr_attach_iff :
    Matches (tokens.foldr Token.attach more) text ↔ Matches (tokens ++ more) text := by
  induction tokens generalizing text with
  | nil => rfl
  | cons token tokens inductionHypothesis =>
      rw [List.foldr_cons, matches_attach_iff]
      exact matches_cons_congr fun text => inductionHypothesis

/-- The language of tokens one behind the other has the texts put together from both. -/
theorem Matches.append {front back : List Char} (inFront : Matches tokens front)
    (behind : Matches more back) : Matches (tokens ++ more) (front ++ back) := by
  induction inFront with
  | done => exact behind
  | star skipped described inductionHypothesis =>
      rw [List.append_assoc]
      exact .star skipped inductionHypothesis
  | single accepted described inductionHypothesis => exact .single accepted inductionHypothesis

/-- The texts of joined tokens are the joined texts. -/
theorem matches_append_iff :
    Matches (tokens ++ more) text ↔
      ∃ front back, text = front ++ back ∧ Matches tokens front ∧ Matches more back := by
  constructor
  · intro described
    induction tokens generalizing text with
    | nil => exact ⟨[], text, rfl, .done, described⟩
    | cons token tokens inductionHypothesis =>
        cases described with
        | star skipped described =>
            obtain ⟨front, back, rfl, inFront, behind⟩ := inductionHypothesis described
            exact ⟨skipped ++ front, back, (List.append_assoc ..).symm, .star skipped inFront, behind⟩
        | @single _ _ character _ accepted described =>
            obtain ⟨front, back, rfl, inFront, behind⟩ := inductionHypothesis described
            exact ⟨character :: front, back, rfl, .single accepted inFront, behind⟩
  · rintro ⟨front, back, rfl, inFront, behind⟩
    exact inFront.append behind

/-- Behind a pattern whose tokens all end within it, a second pattern goes on where the first one has
ended: together they select a text exactly when it can be cut in two, the front selected by the first
pattern and the back by the second. -/
theorem joined_patterns_select_joined_texts (first second : String)
    (selfContained : SelfContained first.toList) (text : String) :
    (ofPattern (first ++ second)).selects text = true ↔
      ∃ front back, text = front ++ back ∧
        (ofPattern first).selects front = true ∧ (ofPattern second).selects back = true := by
  rw [selects_eq_true_iff, String.toList_append, compile_append selfContained,
    matches_foldr_attach_iff, matches_append_iff]
  constructor
  · rintro ⟨front, back, cut, inFront, behind⟩
    refine ⟨String.ofList front, String.ofList back, ?_, ?_, ?_⟩
    · rw [← String.ofList_append, ← cut, String.ofList_toList]
    · rwa [selects_eq_true_iff, String.toList_ofList]
    · rwa [selects_eq_true_iff, String.toList_ofList]
  · rintro ⟨front, back, rfl, inFront, behind⟩
    rw [selects_eq_true_iff] at inFront behind
    exact ⟨front.toList, back.toList, String.toList_append, inFront, behind⟩

/-- Two stars meet at the seam, behind a class that has the closing bracket and a dash as members. -/
theorem starred_patterns_joined :
    SelfContained "v[]a-]*".toList ∧
    (ofPattern "v[]a-]*").selects "v-r" = true ∧ (ofPattern "*[0-9]").selects "c7" = true ∧
    (ofPattern ("v[]a-]*" ++ "*[0-9]")).selects ("v-r" ++ "c7") = true := by
  have readFront : readClass [']', 'a', '-', ']', '*'] =
      some ((false, [.member ']', .member 'a', .member '-']), ['*']) := by
    cbv
  have readBack : readClass ['0', '-', '9', ']'] = some ((false, [.range '0' '9']), []) := by
    cbv
  have selfContained : SelfContained "v[]a-]*".toList := by
    have closes : readClass [']', 'a', '-', ']', '*'] ≠ none := readFront ▸ Option.some_ne_none _
    have behind : SelfContained (readToken '[' [']', 'a', '-', ']', '*']).2 := by
      rw [readToken_bracket readFront]
      exact .cons (by decide) (by decide) .nil
    exact .cons (by decide) (by decide) (.cons (fun _ => closes) (by decide) behind)
  have front : (ofPattern "v[]a-]*").selects "v-r" = true := by
    have compiled : compile "v[]a-]*".toList =
        [.literal 'v', .bracket false [.member ']', .member 'a', .member '-'], .star] := by
      simp [compile_cons, readToken, readFront, Token.attach]
    rw [selects_eq_true_iff, compiled]
    exact .single rfl (.single (by decide) (.star ['r'] .done))
  have back : (ofPattern "*[0-9]").selects "c7" = true := by
    have compiled : compile "*[0-9]".toList = [.star, .bracket false [.range '0' '9']] := by
      simp [compile_cons, readToken, readBack, Token.attach]
    rw [selects_eq_true_iff, compiled]
    exact .star ['c'] (.single (by decide) .done)
  refine ⟨selfContained, front, back, ?_⟩
  apply (joined_patterns_select_joined_texts "v[]a-]*" "*[0-9]" selfContained _).mpr
  exact ⟨"v-r", "c7", rfl, front, back⟩

/-- Without its closing bracket a class takes what it needs from the pattern behind it. -/
example :
    (ofPattern ("[a" ++ "]")).selects "a" = true ∧
    (ofPattern "[a").selects "[a" = true ∧ (ofPattern "[a").selects "a" = false := by
  cbv

end NamedRefs.Glob

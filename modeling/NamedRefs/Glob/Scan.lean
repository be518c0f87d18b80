/-
Module: NamedRefs.Glob.Scan
Purpose: Matching a text against tokens in one pass with a single point of return.
Main exports: Glob.Scan, Glob.Scan.step, Glob.Scan.Coherent, Glob.Scan.run, Glob.accepts
-/
import NamedRefs.Glob.Token

namespace NamedRefs.Glob

/-!
The scan takes tokens and characters off the front of both lists.  At a star it notes where it
stands and assumes that the star absorbs nothing; when it gets stuck later, it returns to the last
star, lets that star absorb one character more, and goes on from there.  Earlier stars are never
reconsidered.
-/

/-- Where to return to: the tokens behind the last star, and the text that it has not absorbed. -/
structure ReturnPoint where
  tokens : List Token
  text : List Char
deriving DecidableEq, Repr

/-- A scan in progress: the tokens and the text that are left, and the point of return once a star
was passed. -/
structure Scan where
  tokens : List Token
  text : List Char
  resume : Option ReturnPoint
deriving DecidableEq, Repr

namespace Scan

/-- What one step leads to. -/
inductive Progress where
  | continues (next : Scan)
  | ends (matched : Bool)
deriving DecidableEq, Repr

/-- Let the last star absorb one character more. -/
def retreat (scan : Scan) : Progress :=
  match scan.resume with
  | some ⟨tokens, _ :: text⟩ => .continues ⟨tokens, text, some ⟨tokens, text⟩⟩
  | some ⟨_, []⟩ | none => .ends false

/-- One step.  At the end of the text only stars may be left. -/
def step (scan : Scan) : Progress :=
  match scan.text, scan.tokens with
  | [], tokens => .ends (tokens.all (· == .star))
  | _ :: _, [] => scan.retreat
  | character :: text, token :: tokens =>
      if token = .star then
        .continues ⟨tokens, scan.text, some ⟨tokens, scan.text⟩⟩
      else if token.accepts character then .continues ⟨tokens, text, scan.resume⟩
      else scan.retreat

/-- What is left is never more than what was left at the point of return. -/
def Coherent (scan : Scan) : Prop :=
  ∀ point ∈ scan.resume, scan.tokens <:+ point.tokens ∧ scan.text <:+ point.text

/-- Text that may still be absorbed; before the first star one more than all of it. -/
def slack (scan : Scan) : Nat :=
  match scan.resume with
  | some point => point.text.length
  | none => scan.text.length + 1

/-- Tokens behind the point of return. -/
def reach (scan : Scan) : Nat :=
  match scan.resume with
  | some point => point.tokens.length
  | none => scan.tokens.length

/-- How far one scan is from its end compared with another: first the slack decides, then the reach,
then the text that is left. -/
def Nearer (next scan : Scan) : Prop :=
  next.slack < scan.slack ∨
    next.slack = scan.slack ∧
      (next.reach < scan.reach ∨ next.reach = scan.reach ∧ next.text.length < scan.text.length)

/-- Without a star to come back to there is nothing to keep in step. -/
theorem coherent_of_resume_eq_none {scan : Scan} (fresh : scan.resume = none) : scan.Coherent := by
  simp [Coherent, fresh]

/-- Coming back to the last star leaves the scan coherent. -/
theorem coherent_retreat {scan next : Scan} (stepped : scan.retreat = .continues next) :
    next.Coherent := by
  unfold retreat at stepped
  split at stepped
  · cases stepped
    simp [Coherent]
  all_goals cases stepped

/-- A step keeps the scan coherent. -/
theorem coherent_step {scan next : Scan} (coherent : scan.Coherent)
    (stepped : scan.step = .continues next) : next.Coherent := by
  unfold step at stepped
  split at stepped
  · cases stepped
  · exact coherent_retreat stepped
  · rename_i character text token tokens hasText hasTokens
    split at stepped
    · cases stepped
      simp [Coherent]
    · split at stepped
      · cases stepped
        intro point isPoint
        have outer := coherent point isPoint
        rw [hasText, hasTokens] at outer
        exact ⟨(List.suffix_cons token tokens).trans outer.1,
          (List.suffix_cons character text).trans outer.2⟩
      · exact coherent_retreat stepped

/-- Coming back to the last star brings the scan nearer to its end, for the star takes one more
character. -/
theorem nearer_retreat {scan next : Scan} (stepped : scan.retreat = .continues next) :
    next.Nearer scan := by
  unfold retreat at stepped
  split at stepped
  · rename_i tokens character text resume
    cases stepped
    left
    simp [slack, resume]
  all_goals cases stepped

/-- Every step brings a coherent scan nearer to its end. -/
theorem nearer_step {scan next : Scan} (coherent : scan.Coherent)
    (stepped : scan.step = .continues next) : next.Nearer scan := by
  unfold step at stepped
  split at stepped
  · cases stepped
  · exact nearer_retreat stepped
  · rename_i character text token tokens hasText hasTokens
    split at stepped
    · cases stepped
      cases resume : scan.resume with
      | none =>
          left
          simp [slack, resume]
      | some point =>
          have within := coherent point resume
          have fewerTokens := within.1.length_le
          have lessText := within.2.length_le
          rw [hasTokens, List.length_cons] at fewerTokens
          simp only [Nearer, slack, reach, resume]
          omega
    · split at stepped
      · cases stepped
        cases resume : scan.resume <;>
          simp [Nearer, slack, reach, resume, hasText]
      · exact nearer_retreat stepped

/-- Run a coherent scan to its end. -/
def run (scan : Scan) (coherent : scan.Coherent) : Bool :=
  match stepped : scan.step with
  | .ends matched => matched
  | .continues next => next.run (coherent_step coherent stepped)
termination_by (scan.slack, scan.reach, scan.text.length)
decreasing_by simpa [Prod.lex_def, Nearer] using nearer_step coherent stepped

/-- The scan in front of a whole text. -/
def start (tokens : List Token) (text : List Char) : Scan :=
  { tokens, text, resume := none }

end Scan

/-- Whether the tokens describe the whole text. -/
def accepts (tokens : List Token) (text : List Char) : Bool :=
  (Scan.start tokens text).run (Scan.coherent_of_resume_eq_none rfl)

end NamedRefs.Glob

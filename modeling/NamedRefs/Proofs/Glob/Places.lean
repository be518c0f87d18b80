/-
Module: NamedRefs.Proofs.Glob.Places
Purpose: The scan and the compiler told by places in the tokens, the text and the pattern: they never
  leave them, and they come to an end.
Main exports: Glob.Scan.Place, Glob.Scan.Place.step, Glob.Scan.Place.InRange,
  Glob.Scan.Place.inRange_step, Glob.Scan.Place.scan?_step, Glob.Scan.Place.Reached.exists_end,
  Glob.tokenAt?, Glob.TokenPlace, Glob.advances_of_tokenAt?, Glob.scan_and_compiler_stay_in_range
-/
import NamedRefs.Glob
import NamedRefs.Proofs.Glob.BracketClass

namespace NamedRefs.Glob

namespace Scan

/-!
### The scan by places

A scan holds what is left of the tokens and the text.  Here it is told by numbers instead: how many
tokens and characters lie behind it, and where the last star is.  A number can point anywhere, so a
step may look where there is nothing, and going back moves both numbers at once.
-/

/-- Where a scan stands. -/
structure Place where
  token : Nat
  character : Nat
  /-- The place of the last star, and the character up to which it has absorbed the text. -/
  resume : Option (Nat × Nat)
deriving DecidableEq, Repr

namespace Place

/-- What one step leads to. -/
inductive Progress where
  | continues (next : Place)
  | ends (matched : Bool)
  /-- There is no token or no character where the step looks. -/
  | outOfRange
deriving DecidableEq, Repr

/-- In front of all tokens and of the whole text. -/
def start : Place :=
  { token := 0, character := 0, resume := none }

/-- Let the last star absorb one character more. -/
def retreat (place : Place) : Progress :=
  match place.resume with
  | some (star, absorbed) => .continues ⟨star + 1, absorbed + 1, some (star, absorbed + 1)⟩
  | none => .ends false

section

variable (tokens : List Token) (text : List Char)

/-- One step.  At the end of the text only stars may be left. -/
def step (place : Place) : Progress :=
  if place.character < text.length then
    match tokens[place.token]? with
    | none => place.retreat
    | some token =>
        if token = .star then
          .continues ⟨place.token + 1, place.character, some (place.token, place.character)⟩
        else
          match text[place.character]? with
          | none => .outOfRange
          | some character =>
              if token.accepts character then
                .continues ⟨place.token + 1, place.character + 1, place.resume⟩
              else place.retreat
  else if place.token ≤ tokens.length then
    .ends ((tokens.drop place.token).all (· == .star))
  else .outOfRange

/-- The places that the scan of a whole text comes to. -/
inductive Reached : Place → Prop where
  | start : Reached start
  | step {place next : Place} :
      Reached place → place.step tokens text = .continues next → Reached next

/-- A place within the tokens and the text, behind the star that it would go back to. -/
structure InRange (place : Place) : Prop where
  token_le : place.token ≤ tokens.length
  character_le : place.character ≤ text.length
  resume : ∀ star absorbed, place.resume = some (star, absorbed) →
    tokens[star]? = some .star ∧ star < place.token ∧ absorbed ≤ place.character

/-- The scan that stands at a place. -/
def scan (place : Place) : Scan where
  tokens := tokens.drop place.token
  text := text.drop place.character
  resume := place.resume.map fun (star, absorbed) =>
    ⟨tokens.drop (star + 1), text.drop absorbed⟩

/-- What a step by places means for the scan. -/
def Progress.scan? : Progress → Option Scan.Progress
  | .continues next => some (.continues (next.scan tokens text))
  | .ends matched => some (.ends matched)
  | .outOfRange => none

end

variable {tokens : List Token} {text : List Char} {place next : Place}

/-! ### Places stay in range -/

/-- The scan starts within the tokens and the text. -/
theorem inRange_start : start.InRange tokens text where
  token_le := Nat.zero_le _
  character_le := Nat.zero_le _
  resume := nofun

/-- Coming back to the last star stays within the tokens and the text. -/
theorem inRange_retreat (inRange : place.InRange tokens text)
    (within : place.character < text.length) (stepped : place.retreat = .continues next) :
    next.InRange tokens text := by
  unfold retreat at stepped
  split at stepped
  · rename_i star absorbed resume
    obtain ⟨isStar, before, notBeyond⟩ := inRange.resume star absorbed resume
    have starWithin := inRange.token_le
    cases stepped
    refine ⟨?_, ?_, ?_⟩
    · exact Nat.le_trans before starWithin
    · exact Nat.le_trans (Nat.succ_le_succ notBeyond) within
    · rintro _ _ ⟨⟩
      exact ⟨isStar, Nat.lt_succ_self star, Nat.le_refl _⟩
  · cases stepped

/-- A step from a place in range leads to a place in range. -/
theorem inRange_step (inRange : place.InRange tokens text)
    (stepped : place.step tokens text = .continues next) : next.InRange tokens text := by
  unfold step at stepped
  split at stepped
  · rename_i within
    split at stepped
    · exact inRange_retreat inRange within stepped
    · rename_i token found
      have tokenWithin := (List.getElem?_eq_some_iff.mp found).1
      split at stepped
      · rename_i isStar
        cases stepped
        refine ⟨tokenWithin, inRange.character_le, ?_⟩
        rintro _ _ ⟨⟩
        exact ⟨isStar ▸ found, Nat.lt_succ_self _, Nat.le_refl _⟩
      · split at stepped
        · cases stepped
        · split at stepped
          · cases stepped
            refine ⟨tokenWithin, within, fun star absorbed resume => ?_⟩
            obtain ⟨isStar, before, notBeyond⟩ := inRange.resume star absorbed resume
            exact ⟨isStar, Nat.lt_succ_of_lt before, Nat.le_succ_of_le notBeyond⟩
          · exact inRange_retreat inRange within stepped
  · split at stepped <;> cases stepped

/-- Going back may take the scan to an earlier token and an earlier character. -/
example : step [.star, .literal 'a', .literal 'a', .literal 'b'] "aaab".toList ⟨3, 2, some (0, 0)⟩ =
    .continues ⟨1, 1, some (0, 1)⟩ := by
  decide

/-- No place that the scan reaches is out of range. -/
theorem Reached.inRange (reached : Reached tokens text place) : place.InRange tokens text := by
  induction reached with
  | start => exact inRange_start
  | step reached stepped inductionHypothesis => exact inRange_step inductionHypothesis stepped

/-! ### Places and scans take the same steps -/

/-- Coming back to the last star means the same for places as for what is left. -/
theorem scan?_retreat (inRange : place.InRange tokens text)
    (within : place.character < text.length) :
    place.retreat.scan? tokens text = some (place.scan tokens text).retreat := by
  unfold retreat Scan.retreat
  cases resume : place.resume with
  | none => simp [scan, resume, Progress.scan?]
  | some point =>
      obtain ⟨star, absorbed⟩ := point
      obtain ⟨_, _, notBeyond⟩ := inRange.resume star absorbed resume
      -- The star can absorb one more, for the scan has not come to the end of the text.
      have more := List.drop_eq_getElem_cons (Nat.lt_of_le_of_lt notBeyond within)
      have returns : (place.scan tokens text).resume =
          some ⟨tokens.drop (star + 1), text[absorbed] :: text.drop (absorbed + 1)⟩ := by
        simp only [scan, resume, Option.map_some, more]
      rw [returns]
      rfl

/-- From a place in range a step never looks where there is nothing, and it is the step of the scan
that stands there. -/
theorem scan?_step (inRange : place.InRange tokens text) :
    (place.step tokens text).scan? tokens text = some (place.scan tokens text).step := by
  by_cases within : place.character < text.length
  · have character := List.getElem?_eq_getElem within
    have leftText : (place.scan tokens text).text =
        text[place.character] :: text.drop (place.character + 1) :=
      List.drop_eq_getElem_cons within
    cases found : tokens[place.token]? with
    | none =>
        have leftTokens : (place.scan tokens text).tokens = [] :=
          List.drop_eq_nil_of_le (List.getElem?_eq_none_iff.mp found)
        simp only [step, if_pos within, found, Scan.step, leftText, leftTokens]
        exact scan?_retreat inRange within
    | some token =>
        obtain ⟨tokenWithin, isToken⟩ := List.getElem?_eq_some_iff.mp found
        have leftTokens : (place.scan tokens text).tokens =
            token :: tokens.drop (place.token + 1) :=
          isToken ▸ List.drop_eq_getElem_cons tokenWithin
        simp only [step, if_pos within, found, character, Scan.step, leftText, leftTokens]
        by_cases isStar : token = .star
        · rw [if_pos isStar, if_pos isStar, ← leftText]
          rfl
        · rw [if_neg isStar, if_neg isStar]
          by_cases accepted : token.accepts text[place.character] = true
          · rw [if_pos accepted, if_pos accepted]
            rfl
          · rw [if_neg accepted, if_neg accepted]
            exact scan?_retreat inRange within
  · have leftText : (place.scan tokens text).text = [] :=
      List.drop_eq_nil_of_le (Nat.le_of_not_lt within)
    simp only [step, if_neg within, if_pos inRange.token_le, Scan.step, leftText]
    rfl

/-- From a place within range no step reads outside of it. -/
theorem step_ne_outOfRange (inRange : place.InRange tokens text) :
    place.step tokens text ≠ .outOfRange := by
  intro outOfRange
  have same := scan?_step inRange
  rw [outOfRange] at same
  cases same

/-- The last star lies in front of the place, and so does the text that it has absorbed. -/
theorem coherent_scan (inRange : place.InRange tokens text) :
    (place.scan tokens text).Coherent := by
  intro point isPoint
  obtain ⟨⟨star, absorbed⟩, resume, rfl⟩ := Option.map_eq_some_iff.mp isPoint
  obtain ⟨_, before, notBeyond⟩ := inRange.resume star absorbed resume
  exact ⟨List.drop_suffix_drop_left tokens before, List.drop_suffix_drop_left text notBeyond⟩

/-- A step brings the scan nearer to its end, also when it goes back. -/
theorem nearer_of_step (inRange : place.InRange tokens text)
    (stepped : place.step tokens text = .continues next) :
    (next.scan tokens text).Nearer (place.scan tokens text) := by
  have same := scan?_step inRange
  rw [stepped] at same
  exact nearer_step (coherent_scan inRange) (Option.some.inj same).symm

/-- Where the scan continues, the place does so as well. -/
theorem Progress.eq_continues_of_scan? {progress : Progress} {scan : Scan}
    (same : progress.scan? tokens text = some (.continues scan)) :
    ∃ next, progress = .continues next ∧ next.scan tokens text = scan := by
  cases progress with
  | continues next =>
      cases same
      exact ⟨next, rfl, rfl⟩
  | ends matched => cases same
  | outOfRange => cases same

/-- Where the scan ends, the place does so with the same result. -/
theorem Progress.eq_ends_of_scan? {progress : Progress} {matched : Bool}
    (same : progress.scan? tokens text = some (.ends matched)) : progress = .ends matched := by
  cases progress with
  | continues next => cases same
  | ends answer =>
      cases same
      rfl
  | outOfRange => cases same

/-- From wherever the scan has come to, it comes to its end. -/
theorem Reached.exists_end {scan : Scan} (coherent : scan.Coherent)
    (reached : Reached tokens text place) (stands : place.scan tokens text = scan) :
    ∃ last, Reached tokens text last ∧ last.step tokens text = .ends (scan.run coherent) := by
  have same := scan?_step reached.inRange
  rw [stands] at same
  -- The induction is on the run of the scan; the place goes along with it.
  fun_induction Scan.run scan coherent generalizing place with
  | case1 scan coherent matched stepped =>
      rw [stepped] at same
      exact ⟨place, reached, Progress.eq_ends_of_scan? same⟩
  | case2 scan coherent scanned stepped inductionHypothesis =>
      rw [stepped] at same
      obtain ⟨next, taken, stands⟩ := Progress.eq_continues_of_scan? same
      have reached := reached.step taken
      exact inductionHypothesis reached stands (stands ▸ scan?_step reached.inRange)

end Place

end Scan

/-!
### The compiler by places

The compiler holds the rest of the pattern.  Whatever it reads, it leaves a rear part of that rest, so
that each token and each member of a class starts at a place of the pattern and ends at a later one.
-/

/-- The token that starts at a place of a pattern, with the place behind it. -/
def tokenAt? (pattern : List Char) (start : Nat) : Option (Token × Nat) :=
  match pattern.drop start with
  | [] => none
  | first :: rest =>
      some ((readToken first rest).1, pattern.length - (readToken first rest).2.length)

/-- The places that the compiler comes to: the start of each token, and the end of the last one. -/
inductive TokenPlace (pattern : List Char) : Nat → Prop where
  | start : TokenPlace pattern 0
  | behind {start next : Nat} {token : Token} :
      TokenPlace pattern start → tokenAt? pattern start = some (token, next) →
      TokenPlace pattern next

variable {pattern rest : List Char} {start next : Nat} {token : Token}

/-- A shorter rear part of what stands from a place on starts at a later place. -/
theorem place_of_suffix (isSuffix : rest <:+ pattern.drop start)
    (shorter : rest.length < (pattern.drop start).length) :
    rest = pattern.drop (pattern.length - rest.length) ∧ start < pattern.length - rest.length := by
  constructor
  · exact List.suffix_iff_eq_drop.mp (isSuffix.trans (List.drop_suffix start pattern))
  · rw [List.length_drop] at shorter
    omega

/-- What is left behind an item is the end of the text. -/
theorem readItem_suffix {text : List Char} {item : ClassItem}
    (read : readItem text = some (item, rest)) : rest <:+ text := by
  obtain ⟨form, _, rfl⟩ := readItem_eq_some_iff.mp read
  exact List.suffix_append form rest

/-- What is left behind a token is the end of the pattern. -/
theorem readToken_suffix (first : Char) (rest : List Char) :
    (readToken first rest).2 <:+ rest := by
  unfold readToken
  split
  · exact List.suffix_rfl
  · exact List.suffix_rfl
  · exact List.suffix_cons _ _
  · split
    · rename_i negated items after read
      obtain ⟨forms, _, rfl⟩ := readClass_eq_some_iff.mp read
      exact List.suffix_append forms after
    · exact List.suffix_rfl
  · exact List.suffix_rfl

/-- There is a token at every place within the pattern. -/
theorem tokenAt?_eq_none_iff : tokenAt? pattern start = none ↔ pattern.length ≤ start := by
  rw [← List.drop_eq_nil_iff, tokenAt?]
  split <;> simp_all

/-- Reading a token goes on within the pattern, and the compiler goes on from there. -/
theorem advances_of_tokenAt? (found : tokenAt? pattern start = some (token, next)) :
    start < next ∧ next ≤ pattern.length ∧
      compile (pattern.drop start) = token.attach (compile (pattern.drop next)) := by
  unfold tokenAt? at found
  split at found
  · cases found
  · rename_i first rest split
    cases found
    have isSuffix : (readToken first rest).2 <:+ pattern.drop start :=
      split ▸ (readToken_suffix first rest).trans (List.suffix_cons first rest)
    have shorter : (readToken first rest).2.length < (pattern.drop start).length :=
      split ▸ Nat.lt_succ_of_le (readToken_length first rest)
    obtain ⟨left, later⟩ := place_of_suffix isSuffix shorter
    refine ⟨later, Nat.sub_le _ _, ?_⟩
    rw [← left, split, compile_cons]

/-- At an opening bracket the class that starts behind it is read, or else the bracket alone. -/
theorem tokenAt?_bracket (opening : pattern[start]? = some '[') :
    tokenAt? pattern start =
      match classAt? pattern (start + 1) with
      | some ((negated, items), next) => some (.bracket negated items, next)
      | none => some (.literal '[', start + 1) := by
  obtain ⟨within, isBracket⟩ := List.getElem?_eq_some_iff.mp opening
  have split : pattern.drop start = '[' :: pattern.drop (start + 1) := by
    rw [List.drop_eq_getElem_cons within, isBracket]
  rw [tokenAt?, split, classAt?]
  cases read : readClass (pattern.drop (start + 1)) with
  | none =>
      have behind : pattern.length - (pattern.drop (start + 1)).length = start + 1 := by
        rw [List.length_drop]
        omega
      simp only [readToken, read, behind, Option.map_none]
  | some content =>
      obtain ⟨⟨negated, items⟩, after⟩ := content
      simp only [readToken, read, Option.map_some]

/-- The compiler never goes beyond the end of the pattern. -/
theorem TokenPlace.le_length (reached : TokenPlace pattern start) : start ≤ pattern.length := by
  cases reached with
  | start => exact Nat.zero_le _
  | behind reached found => exact (advances_of_tokenAt? found).2.1

/-- From wherever the compiler has come to, it comes to the end of the pattern. -/
theorem TokenPlace.at_end {start : Nat} (reached : TokenPlace pattern start) :
    TokenPlace pattern pattern.length := by
  cases found : tokenAt? pattern start with
  | none => exact Nat.le_antisymm reached.le_length (tokenAt?_eq_none_iff.mp found) ▸ reached
  | some content =>
      obtain ⟨token, next⟩ := content
      -- The next place is nearer to the end of the pattern; the recursion ends for that reason.
      have later := advances_of_tokenAt? found
      exact (reached.behind found).at_end
termination_by pattern.length - start
decreasing_by omega

/-- The scan and the compiler always come to their ends and never leave what they read.

The places that a scan comes to, with any tokens and any text, lie within both; the place of the last
star holds a star and lies in front, and the star has not absorbed more than was read.  So no step
looks at a token or a character that does not exist.  From the first one on, each of them is the step
of the scan that stands there and brings it nearer to its end, and after finitely many the scan ends
with its answer.

At every place of a pattern but its end a token starts.  It ends at a later place, which is within the
pattern and from which the compiler goes on, also when it is a class and when it is an opening bracket
that starts none; likewise for each member of a class.  So the compiler comes to the end of the pattern
and not beyond it. -/
theorem scan_and_compiler_stay_in_range :
    (∀ tokens text,
      Scan.Place.start.scan tokens text = Scan.start tokens text ∧
      (∀ place, Scan.Place.Reached tokens text place →
        place.InRange tokens text ∧
        place.step tokens text ≠ .outOfRange ∧
        (place.step tokens text).scan? tokens text = some (place.scan tokens text).step ∧
        ∀ next, place.step tokens text = .continues next →
          (next.scan tokens text).Nearer (place.scan tokens text)) ∧
      ∃ last, Scan.Place.Reached tokens text last ∧
        last.step tokens text = .ends (accepts tokens text)) ∧
    ∀ pattern : List Char,
      (∀ start, tokenAt? pattern start = none ↔ pattern.length ≤ start) ∧
      (∀ start token next, tokenAt? pattern start = some (token, next) →
        start < next ∧ next ≤ pattern.length ∧
        compile (pattern.drop start) = token.attach (compile (pattern.drop next))) ∧
      (∀ start, pattern[start]? = some '[' →
        tokenAt? pattern start =
          match classAt? pattern (start + 1) with
          | some ((negated, items), next) => some (.bracket negated items, next)
          | none => some (.literal '[', start + 1)) ∧
      (∀ start item rest, readItem (pattern.drop start) = some (item, rest) →
        ∃ next, start < next ∧ next ≤ pattern.length ∧ rest = pattern.drop next) ∧
      (∀ place, TokenPlace pattern place → place ≤ pattern.length) ∧
      TokenPlace pattern pattern.length := by
  refine ⟨fun tokens text => ⟨rfl, ?steps, ?ending⟩, fun pattern =>
    ⟨fun start => tokenAt?_eq_none_iff, fun start token next => advances_of_tokenAt?,
      fun start => tokenAt?_bracket, ?members, fun place => TokenPlace.le_length,
      TokenPlace.start.at_end⟩⟩
  case steps =>
    intro place reached
    have inRange := reached.inRange
    exact ⟨inRange, Scan.Place.step_ne_outOfRange inRange, Scan.Place.scan?_step inRange,
      fun next => Scan.Place.nearer_of_step inRange⟩
  case ending =>
    exact Scan.Place.Reached.start.exists_end (Scan.coherent_of_resume_eq_none rfl) rfl
  case members =>
    intro start item rest read
    obtain ⟨left, later⟩ := place_of_suffix (readItem_suffix read) (readItem_shorter read)
    exact ⟨_, later, Nat.sub_le _ _, left⟩

end NamedRefs.Glob

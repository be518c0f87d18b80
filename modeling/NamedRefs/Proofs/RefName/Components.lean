/-
Module: NamedRefs.Proofs.RefName.Components
Purpose: The rules that look at a whole name say the same as the grammar of its components.
Main exports: RefName.components_append, RefName.component_induction, RefName.isValid_iff,
  RefName.isValid_iff_wellFormed, RefName.WellFormed.join, RefName.valid_names_are_the_well_formed
-/
import Mathlib.Data.List.Infix
import NamedRefs.RefName.Grammar

namespace NamedRefs.RefName

/-!
A name is a first piece without a slash, and behind the slash that ends it another name; or it is a
single piece.  Each scan over the whole name is followed along this division.  A character or a pair
that is no slash lies within one piece; an empty piece shows as a slash at one of the two ends or as
two slashes side by side.
-/

variable {name first rest : List Char} {one two : Char}

/-! ### Dividing a name at its slashes -/

/-- Every name has a component, be it empty. -/
theorem components_ne_nil (name : List Char) : components name ≠ [] :=
  List.splitOnP_ne_nil _ name

/-- The components around a slash are those in front of it and those behind it. -/
theorem components_append (first rest : List Char) :
    components (first ++ '/' :: rest) = components first ++ components rest :=
  List.splitOnP_append_cons first rest (beq_self_eq_true '/')

/-- A name without a slash is its only component. -/
theorem components_of_slashless (slashless : '/' ∉ name) : components name = [name] := by
  apply List.splitOnP_eq_singleton
  intro character member
  apply beq_false_of_ne
  rintro rfl
  exact slashless member

/-- The piece in front of the first slash is the first component. -/
theorem components_piece_append (slashless : '/' ∉ first) (rest : List Char) :
    components (first ++ '/' :: rest) = first :: components rest := by
  rw [components_append, components_of_slashless slashless, List.singleton_append]

/-- Prove a property of names piece by piece. -/
@[elab_as_elim]
theorem component_induction {motive : List Char → Prop}
    (piece : ∀ name, '/' ∉ name → motive name)
    (join : ∀ first rest, '/' ∉ first → motive rest → motive (first ++ '/' :: rest))
    (name : List Char) : motive name := by
  by_cases slash : '/' ∈ name
  · obtain ⟨first, rest, rfl, slashless⟩ := List.eq_append_cons_of_mem slash
    exact join first rest slashless (component_induction piece join rest)
  · exact piece name slash
termination_by name.length
decreasing_by
  subst_vars
  simp only [List.length_append, List.length_cons]
  omega

/-! ### Scans of the whole name, piece by piece -/

/-- What holds of the slash holds of all characters of a name when it holds of those in the pieces. -/
theorem forall_mem_iff_components {allowed : Char → Prop} (slash : allowed '/') :
    (∀ character ∈ name, allowed character) ↔
      ∀ component ∈ components name, ∀ character ∈ component, allowed character := by
  induction name using component_induction with
  | piece name slashless => simp [components_of_slashless slashless]
  | join first rest slashless inductionHypothesis =>
      rw [components_piece_append slashless]
      simp [or_imp, forall_and, slash, inductionHypothesis]

/-- The scan for a pair of characters finds it wherever it stands. -/
theorem holdsPair_eq_true_iff : holdsPair one two name = true ↔ [one, two] <:+: name := by
  fun_induction holdsPair one two name with
  | case1 third fourth rest inductionHypothesis =>
      have atFront : [one, two] <+: third :: fourth :: rest ↔ third = one ∧ fourth = two := by
        simp [List.cons_prefix_cons, eq_comm]
      rw [Bool.or_eq_true, inductionHypothesis, List.infix_cons_iff (a := third), atFront,
        Bool.and_eq_true, beq_iff_eq, beq_iff_eq]
  | case2 name short =>
      match name, short with
      | [], _ => simp
      | [character], _ => simp [List.infix_cons_iff, List.cons_prefix_cons]
      | third :: fourth :: rest, short => exact absurd rfl (short third fourth rest)

/-- A pair without slashes does not reach across one. -/
theorem pair_infix_append_iff (one_ne : one ≠ '/') (two_ne : two ≠ '/') :
    [one, two] <:+: first ++ '/' :: rest ↔ [one, two] <:+: first ∨ [one, two] <:+: rest := by
  constructor
  · intro within
    rcases List.infix_append_iff.mp within with before | behind | ⟨front, back, split, isEnd, isStart⟩
    · exact Or.inl before
    · rcases List.infix_cons_iff.mp behind with starts | later
      · exact absurd (List.cons_prefix_cons.mp starts).1 one_ne
      · exact Or.inr later
    · cases back with
      | nil => exact Or.inl (split ▸ (List.append_nil front).symm ▸ isEnd.isInfix)
      | cons character back =>
          have isSlash := (List.cons_prefix_cons.mp isStart).1
          have member : character ∈ [one, two] := split ▸ by simp
          rcases List.mem_pair.mp member with rfl | rfl
          · exact absurd isSlash one_ne
          · exact absurd isSlash two_ne
  · rintro (before | behind)
    · exact before.trans (List.prefix_append first _).isInfix
    · exact behind.trans ((List.suffix_cons '/' rest).trans (List.suffix_append first _)).isInfix

/-- A pair without a slash stands in the name exactly if it stands in one of the components. -/
theorem pair_infix_iff_components (one_ne : one ≠ '/') (two_ne : two ≠ '/') :
    [one, two] <:+: name ↔ ∃ component ∈ components name, [one, two] <:+: component := by
  induction name using component_induction with
  | piece name slashless => simp [components_of_slashless slashless]
  | join first rest slashless inductionHypothesis =>
      rw [components_piece_append slashless, pair_infix_append_iff one_ne two_ne,
        inductionHypothesis]
      simp

/-- The last character of a name, when it is no slash, is the last one of the last piece. -/
theorem suffix_iff_last_component (one_ne : one ≠ '/') :
    [one] <:+ name ↔ ∃ component ∈ (components name).getLast?, [one] <:+ component := by
  induction name using component_induction with
  | piece name slashless => simp [components_of_slashless slashless]
  | join first rest slashless inductionHypothesis =>
      have sameLast : (components (first ++ '/' :: rest)).getLast? =
          (components rest).getLast? := by
        rw [components_append]
        exact List.getLast?_append_of_ne_nil _ (components_ne_nil rest)
      rw [sameLast, ← inductionHypothesis]
      simp only [List.singleton_suffix_iff_getLast?_eq_some, List.getLast?_append,
        List.getLast?_cons, Option.some_or, Option.some_inj]
      cases rest.getLast? <;> simp [one_ne.symm]

/-! ### Empty pieces -/

/-- A name begins with a slash exactly if its first component is empty. -/
theorem slash_prefix_append_iff (slashless : '/' ∉ first) :
    ['/'] <+: first ++ '/' :: rest ↔ first = [] := by
  cases first with
  | nil => simp
  | cons character first =>
      have different : '/' ≠ character := fun same => slashless (same ▸ List.mem_cons_self)
      simp [List.cons_prefix_cons, different]

/-- A name ends in a slash when its last component is empty. -/
theorem slash_suffix_append_iff :
    ['/'] <:+ first ++ '/' :: rest ↔ rest = [] ∨ ['/'] <:+ rest := by
  simp only [List.singleton_suffix_iff_getLast?_eq_some, List.getLast?_append,
    List.getLast?_cons, Option.some_or, Option.some_inj]
  cases rest using List.reverseRecOn <;> simp

/-- A name has two slashes in a row when an inner component is empty. -/
theorem slash_pair_append_iff (slashless : '/' ∉ first) :
    ['/', '/'] <:+: first ++ '/' :: rest ↔ ['/'] <+: rest ∨ ['/', '/'] <:+: rest := by
  induction first with
  | nil => simp [List.infix_cons_iff, List.cons_prefix_cons]
  | cons character first inductionHypothesis =>
      rw [List.mem_cons, not_or] at slashless
      rw [List.cons_append, List.infix_cons_iff, inductionHypothesis slashless.2]
      simp [List.cons_prefix_cons, slashless.1]

/-- An empty piece is a name without characters, a slash at one of the ends, or a double slash. -/
theorem nil_mem_components_iff :
    [] ∈ components name ↔
      name = [] ∨ (['/'] <+: name ∨ ['/'] <:+ name) ∨ ['/', '/'] <:+: name := by
  induction name using component_induction with
  | piece name slashless =>
      have nowhere : ∀ part, '/' ∈ part → ¬ part <:+: name := by
        intro part member within
        exact slashless (within.subset member)
      have noStart : ¬ ['/'] <+: name := fun starts => nowhere _ (by simp) starts.isInfix
      have noEnd : ¬ ['/'] <:+ name := fun ends => nowhere _ (by simp) ends.isInfix
      simp [components_of_slashless slashless, noStart, noEnd, nowhere, eq_comm]
  | join first rest slashless inductionHypothesis =>
      rw [components_piece_append slashless, List.mem_cons, inductionHypothesis,
        slash_prefix_append_iff slashless, slash_suffix_append_iff,
        slash_pair_append_iff slashless]
      simp [or_assoc, or_left_comm, eq_comm]

/-! ### The rules and the grammar -/

/-- A rule is silent when its condition does not hold. -/
theorem refuseIf_eq_none_iff {condition : Bool} {fault : NameFault} :
    refuseIf condition fault = none ↔ ¬ condition = true := by
  cases condition <;> simp [refuseIf]

/-- A component is in order when it neither begins with a dot nor ends as a lock file does. -/
theorem componentFault?_eq_none_iff {component : List Char} :
    componentFault? component = none ↔ ¬ ['.'] <+: component ∧ ¬ lockEnding <:+ component := by
  unfold componentFault?
  split
  · simp_all
  · split <;> simp_all

/-- All rules at once. -/
theorem isValid_iff (name : String) :
    IsValid name ↔
      name.toList ≠ [] ∧ name.toList ≠ ['@'] ∧
      (∀ character ∈ name.toList, isControl character = false) ∧
      (∀ character ∈ forbiddenCharacters, character ∉ name.toList) ∧
      ¬ ['.', '.'] <:+: name.toList ∧ ¬ ['@', '\x7b'] <:+: name.toList ∧
      ¬ (['/'] <+: name.toList ∨ ['/'] <:+ name.toList) ∧ ¬ ['.'] <:+ name.toList ∧
      ¬ ['/', '/'] <:+: name.toList ∧
      ∀ component ∈ components name.toList,
        ¬ ['.'] <+: component ∧ ¬ lockEnding <:+ component := by
  simp [IsValid, fault?, rules, refuseIf_eq_none_iff, componentFault?_eq_none_iff,
    ← holdsPair_eq_true_iff]

/-- The checks of a name, made on its text, hold exactly when the name is made of well-formed
components. -/
theorem isValid_iff_wellFormed (name : String) : IsValid name ↔ WellFormed name := by
  have control : (∀ character ∈ name.toList, isControl character = false) ↔ _ :=
    forall_mem_iff_components rfl
  have forbidden : (∀ character ∈ name.toList, character ∉ forbiddenCharacters) ↔ _ :=
    forall_mem_iff_components (by decide)
  have dots : ['.', '.'] <:+: name.toList ↔ _ :=
    pair_infix_iff_components (by decide) (by decide)
  have brace : ['@', '\x7b'] <:+: name.toList ↔ _ :=
    pair_infix_iff_components (by decide) (by decide)
  have lastDot : ['.'] <:+ name.toList ↔ _ := suffix_iff_last_component (by decide)
  rw [isValid_iff]
  constructor
  · rintro ⟨nonempty, notAt, noControl, noForbidden, noDots, noBrace, noSlashEnd, noDotEnd,
      noSlashes, edges⟩
    -- Three of the checks are one: none of the components is empty.
    have noEmpty : [] ∉ components name.toList := by
      rw [nil_mem_components_iff, not_or, not_or]
      exact ⟨nonempty, noSlashEnd, noSlashes⟩
    constructor
    case not_lone_at =>
      rintro rfl
      exact notAt rfl
    case components_wellFormed =>
      intro component member
      exact {
        nonempty := fun isEmpty => noEmpty (isEmpty ▸ member)
        no_control := control.mp noControl component member
        no_forbidden := forbidden.mp (fun character within isForbidden =>
          noForbidden character isForbidden within) component member
        no_double_dot := fun within => noDots (dots.mpr ⟨component, member, within⟩)
        no_at_brace := fun within => noBrace (brace.mpr ⟨component, member, within⟩)
        no_leading_dot := (edges component member).1
        no_lock_ending := (edges component member).2 }
    case last_component =>
      intro component isLast ends
      exact noDotEnd (lastDot.mpr ⟨component, isLast, ends⟩)
  · rintro ⟨notAt, wellFormed, lastComponent⟩
    have noEmpty : [] ∉ components name.toList := fun member =>
      (wellFormed [] member).nonempty rfl
    rw [nil_mem_components_iff, not_or, not_or] at noEmpty
    obtain ⟨nonempty, noSlashEnd, noSlashes⟩ := noEmpty
    refine ⟨nonempty, ?notAt, ?control, ?forbidden, ?dots, ?brace, noSlashEnd, ?lastDot, noSlashes,
      ?edges⟩
    case notAt =>
      intro loneAt
      exact notAt (String.toList_inj.mp loneAt)
    case control =>
      exact control.mpr fun component member => (wellFormed component member).no_control
    case forbidden =>
      intro character isForbidden within
      have allowed := forbidden.mpr fun component member => (wellFormed component member).no_forbidden
      exact allowed character within isForbidden
    case dots =>
      intro within
      obtain ⟨component, member, within⟩ := dots.mp within
      exact (wellFormed component member).no_double_dot within
    case brace =>
      intro within
      obtain ⟨component, member, within⟩ := brace.mp within
      exact (wellFormed component member).no_at_brace within
    case lastDot =>
      intro ends
      obtain ⟨component, isLast, ends⟩ := lastDot.mp ends
      exact lastComponent component isLast ends
    case edges =>
      intro component member
      have shape := wellFormed component member
      exact ⟨shape.no_leading_dot, shape.no_lock_ending⟩

/-- A control character is neither letter nor digit. -/
theorem isAlphanum_of_isControl {character : Char} (control : isControl character = true) :
    character.isAlphanum = false := by
  have ascii : character.toNat < 128 := by
    simp only [isControl, Bool.or_eq_true, decide_eq_true_eq, beq_iff_eq] at control
    omega
  have listed : ∀ code < 128, isControl (Char.ofNat code) = true →
      (Char.ofNat code).isAlphanum = false := by
    decide
  simpa using listed character.toNat ascii (by simpa using control)

/-- Every rule is about some character other than letters and digits. -/
theorem isValid_of_alphanumeric {name : String} (nonempty : name ≠ "")
    (alphanumeric : ∀ character ∈ name.toList, character.isAlphanum = true) : IsValid name := by
  have absent : ∀ character, character.isAlphanum = false → character ∉ name.toList := by
    intro character other member
    rw [alphanumeric character member] at other
    contradiction
  have nowhere : ∀ character part, character.isAlphanum = false → character ∈ part →
      ¬ part <:+: name.toList := by
    intro character part other member within
    exact absent character other (within.subset member)
  have whole : components name.toList = [name.toList] := components_of_slashless (absent '/' rfl)
  rw [isValid_iff, whole, List.forall_mem_singleton]
  refine ⟨?nonempty, ?loneAt, ?control, ?forbidden, nowhere '.' _ rfl (by decide),
    nowhere '@' _ rfl (by decide), ?slashes, ?dotEnd, nowhere '/' _ rfl (by decide), ?dotted, ?lock⟩
  case nonempty => simpa using nonempty
  case loneAt => exact fun loneAt => absent '@' rfl (loneAt ▸ List.mem_singleton_self '@')
  case control =>
    intro character member
    rw [← Bool.not_eq_true]
    exact fun control => absent character (isAlphanum_of_isControl control) member
  case forbidden =>
    have others : ∀ character ∈ forbiddenCharacters, character.isAlphanum = false := by
      simp [forbiddenCharacters]
    exact fun character isForbidden => absent character (others character isForbidden)
  case slashes =>
    rintro (atFront | atEnd)
    · exact nowhere '/' _ rfl (by decide) atFront.isInfix
    · exact nowhere '/' _ rfl (by decide) atEnd.isInfix
  case dotEnd => exact fun atEnd => nowhere '.' _ rfl (by decide) atEnd.isInfix
  case dotted => exact fun atFront => nowhere '.' _ rfl (by decide) atFront.isInfix
  case lock => exact fun atEnd => nowhere '.' _ rfl (by decide) atEnd.isInfix

/-- Two names joined by a slash are a name. -/
theorem WellFormed.join {first second : String} (firstForm : WellFormed first)
    (secondForm : WellFormed second) : WellFormed (first ++ "/" ++ second) := by
  have joined : (first ++ "/" ++ second).toList = first.toList ++ '/' :: second.toList := by
    simp
  have split : components (first ++ "/" ++ second).toList =
      components first.toList ++ components second.toList := by
    rw [joined, components_append]
  constructor
  case not_lone_at =>
    intro loneAt
    have slash : '/' ∈ "@".toList := by
      rw [← loneAt, joined]
      simp
    exact absurd slash (by decide)
  case components_wellFormed =>
    intro component member
    rw [split, List.mem_append] at member
    rcases member with inFirst | inSecond
    · exact firstForm.components_wellFormed component inFirst
    · exact secondForm.components_wellFormed component inSecond
  case last_component =>
    rw [split, List.getLast?_append_of_ne_nil _ (components_ne_nil _)]
    exact secondForm.last_component

/-- The check accepts exactly the names of the grammar: all pieces between slashes are well formed,
the last one does not end with a dot, and the name is not a lone at sign.  Hence two accepted names
joined by a slash are accepted. -/
theorem valid_names_are_the_well_formed :
    (∀ name, check name = .ok () ↔ WellFormed name) ∧
    ∀ first second, check first = .ok () → check second = .ok () →
      check (first ++ "/" ++ second) = .ok () := by
  have accepts : ∀ name, check name = .ok () ↔ WellFormed name := by
    intro name
    rw [check_eq_ok_iff, isValid_iff_wellFormed]
  refine ⟨accepts, ?_⟩
  intro first second firstValid secondValid
  rw [accepts] at firstValid secondValid ⊢
  exact firstValid.join secondValid

/-- A lone at sign is no name, but it may be a piece of one. -/
example : check "@" = .error .loneAt ∧ check "refs/heads/@" = .ok () := by
  decide

end NamedRefs.RefName

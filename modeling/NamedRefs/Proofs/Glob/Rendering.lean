/-
Module: NamedRefs.Proofs.Glob.Rendering
Purpose: Which tokens come from patterns, and that each sequence of such tokens can be written as a
  pattern that compiles to it.
Main exports: Glob.Token.Expressible, Glob.Canonical, Glob.canonical_compile,
  Glob.ClassForm.of_render, Glob.compile_render_append, Glob.compile_render,
  Glob.canonical_tokens_are_those_of_patterns
-/
import NamedRefs.Glob
import NamedRefs.Proofs.Glob.BracketClass

namespace NamedRefs.Glob

/-!
A rendered token protects every character that it names with a backslash, except for the upper end of
a range, which is read as it stands.  Nothing that follows can change what has been read: behind a
rendered member comes a backslash or the closing bracket, never a dash, and behind a rendered token a
new token starts.  Three things no pattern can say: two stars in a row, a class without members, and
a range up to the closing bracket.
-/

/-- What a pattern can say of a member. -/
def ClassItem.Expressible : ClassItem → Prop
  | .member _ => True
  | .range _ high => high ≠ ']'

/-- What a pattern can say of a token: a class has at least one member, and none of its ranges ends
with the closing bracket. -/
def Token.Expressible : Token → Prop
  | .literal _ | .anyCharacter | .star => True
  | .bracket _ items => items ≠ [] ∧ ∀ item ∈ items, item.Expressible

/-- The sequences of tokens that patterns compile to. -/
structure Canonical (tokens : List Token) : Prop where
  single_stars : ¬ [.star, .star] <:+: tokens
  expressible : ∀ token ∈ tokens, token.Expressible

variable {token : Token} {tokens : List Token} {item : ClassItem} {items : List ClassItem}
  {negated : Bool} {rest : List Char}

/-! ### Compiled tokens -/

/-- An item that was read can be written. -/
theorem ItemForm.expressible {form : List Char} (written : ItemForm item form rest) :
    item.Expressible := by
  cases written with
  | range rest unit allowed => exact allowed
  | member unit noRange => trivial

/-- Items that were read can be written. -/
theorem ItemsForm.expressible {forms : List Char} (written : ItemsForm items forms rest) :
    ∀ item ∈ items, item.Expressible := by
  induction written with
  | last written =>
      rw [List.forall_mem_singleton]
      exact written.expressible
  | more written goesOn others inductionHypothesis =>
      rw [List.forall_mem_cons]
      exact ⟨written.expressible, inductionHypothesis⟩

/-- A class that was read can be written. -/
theorem ClassForm.expressible {forms : List Char} (written : ClassForm negated items forms rest) :
    (Token.bracket negated items).Expressible := by
  refine ⟨written.items_ne_nil, ?_⟩
  cases written with
  | plain noMark noCaret members => exact members.expressible
  | negated isSign members => exact members.expressible

/-- A token that was read can be written. -/
theorem expressible_readToken (first : Char) (rest : List Char) :
    (readToken first rest).1.Expressible := by
  unfold readToken
  split
  · trivial
  · trivial
  · trivial
  · split
    · rename_i read
      obtain ⟨forms, written, _⟩ := readClass_eq_some_iff.mp read
      exact written.expressible
    · trivial
  · trivial

/-- No tokens are canonical. -/
theorem canonical_nil : Canonical [] where
  single_stars := by simp
  expressible := nofun

/-- Canonical tokens stay so without the first one. -/
theorem Canonical.tail (canonical : Canonical (token :: tokens)) : Canonical tokens where
  single_stars within := canonical.single_stars (List.infix_cons within)
  expressible _ member := canonical.expressible _ (List.mem_cons_of_mem token member)

/-- A star is not attached to another one. -/
theorem Canonical.attach (expressible : token.Expressible) (canonical : Canonical tokens) :
    Canonical (token.attach tokens) := by
  unfold Token.attach
  split
  · exact canonical
  · rename_i notBothStars
    constructor
    case single_stars =>
      intro within
      rcases List.infix_cons_iff.mp within with atFront | later
      · obtain ⟨isStar, front⟩ := List.cons_prefix_cons.mp atFront
        obtain ⟨more, rfl⟩ := front
        exact notBothStars more isStar.symm rfl
      · exact canonical.single_stars later
    case expressible =>
      rw [List.forall_mem_cons]
      exact ⟨expressible, canonical.expressible⟩

/-- A pattern is compiled to canonical tokens. -/
theorem canonical_compile (pattern : List Char) : Canonical (compile pattern) := by
  fun_induction compile pattern with
  | case1 => exact canonical_nil
  | case2 first rest inductionHypothesis =>
      exact inductionHypothesis.attach (expressible_readToken first rest)

/-! ### Rendered tokens -/

/-- The rendering of an item begins with a backslash. -/
theorem ClassItem.head?_render (item : ClassItem) (behind : List Char) :
    (item.render ++ behind).head? = some '\\' := by
  cases item <;> rfl

/-- The rendering of items begins with a backslash, and so with no sign. -/
theorem head?_render_items (nonempty : items ≠ []) (behind : List Char) :
    (items.flatMap ClassItem.render ++ behind).head? = some '\\' := by
  obtain ⟨first, others, rfl⟩ := List.exists_cons_of_ne_nil nonempty
  rw [List.flatMap_cons, List.append_assoc, first.head?_render]

/-- A rendered member is a written form of the member, unless a dash follows it. -/
theorem ItemForm.of_render (expressible : item.Expressible) (noDash : rest.head? ≠ some '-') :
    ItemForm item item.render rest := by
  cases item with
  | member character =>
      apply ItemForm.member (.escaped character)
      rintro high after rfl
      exact absurd rfl noDash
  | range low high => exact .range rest (.escaped low) expressible

/-- The rendering of items with a closing bracket is a written form of them. -/
theorem ItemsForm.of_render (nonempty : items ≠ [])
    (expressible : ∀ item ∈ items, item.Expressible) (rest : List Char) :
    ItemsForm items (items.flatMap ClassItem.render ++ [']']) rest := by
  induction items with
  | nil => exact absurd rfl nonempty
  | cons item others inductionHypothesis =>
      rw [List.forall_mem_cons] at expressible
      rw [List.flatMap_cons, List.append_assoc]
      cases others with
      | nil => exact .last (.of_render expressible.1 (by simp))
      | cons next others =>
          have behind := inductionHypothesis (List.cons_ne_nil next others) expressible.2
          have front := head?_render_items (List.cons_ne_nil next others) [']']
          refine .more (.of_render expressible.1 ?_) ?_ behind
          · rw [behind.head?_append, front]
            decide
          · rw [front]
            decide

/-- The rendering of a class is a written form of it. -/
theorem ClassForm.of_render (expressible : (Token.bracket negated items).Expressible)
    (rest : List Char) :
    ClassForm negated items
      ((if negated then ['!'] else []) ++ items.flatMap ClassItem.render ++ [']']) rest := by
  obtain ⟨nonempty, expressible⟩ := expressible
  have members := ItemsForm.of_render nonempty expressible rest
  cases negated with
  | true => exact .negated (Or.inl rfl) members
  | false =>
      have front := head?_render_items nonempty [']']
      refine .plain ?_ ?_ members
      · exact front ▸ by decide
      · exact front ▸ by decide

/-- A rendered token compiles to itself, whatever stands behind it. -/
theorem compile_render_append (expressible : token.Expressible) (rest : List Char) :
    compile (token.render ++ rest) = token.attach (compile rest) := by
  cases token with
  | literal character => exact compile_cons '\\' (character :: rest)
  | anyCharacter => exact compile_cons '?' rest
  | star => exact compile_cons '*' rest
  | bracket negated items =>
      have read := (ClassForm.of_render expressible rest).readClass
      rw [Token.render, List.cons_append, List.cons_append, List.cons_append, compile_cons,
        readToken_bracket read]

/-- Canonical tokens are attached to each other without a change. -/
theorem attach_of_canonical (canonical : Canonical (token :: tokens)) :
    token.attach tokens = token :: tokens := by
  unfold Token.attach
  split
  · rename_i others
    exact absurd (List.prefix_append [.star, .star] others).isInfix canonical.single_stars
  · rfl

/-- Tokens that a pattern can express are compiled back from their rendering. -/
theorem compile_render (canonical : Canonical tokens) : compile (render tokens) = tokens := by
  induction tokens with
  | nil => exact compile_nil
  | cons token tokens inductionHypothesis =>
      have expressible := canonical.expressible token List.mem_cons_self
      calc compile (render (token :: tokens))
          = compile (token.render ++ render tokens) := rfl
        _ = token.attach (compile (render tokens)) := compile_render_append expressible _
        _ = token.attach tokens := by rw [inductionHypothesis canonical.tail]
        _ = token :: tokens := attach_of_canonical canonical

/-- Patterns compile exactly to the canonical sequences of tokens: without two stars in a row, with
at least one member in each class, and with no range that ends with the closing bracket.  Each of
them is rendered as a pattern that compiles back to it, so rendering what a pattern compiles to gives
a pattern with the same tokens, which selects the same texts. -/
theorem canonical_tokens_are_those_of_patterns :
    (∀ tokens, (∃ pattern, (ofPattern pattern).tokens = tokens) ↔ Canonical tokens) ∧
    (∀ tokens, Canonical tokens → (ofPattern (String.ofList (render tokens))).tokens = tokens) ∧
    ∀ pattern,
      let again := ofPattern (String.ofList (render (ofPattern pattern).tokens))
      again.tokens = (ofPattern pattern).tokens ∧
        ∀ text, again.selects text = (ofPattern pattern).selects text := by
  have rendered : ∀ tokens, Canonical tokens →
      (ofPattern (String.ofList (render tokens))).tokens = tokens := by
    intro tokens canonical
    simp only [ofPattern, String.toList_ofList]
    exact compile_render canonical
  refine ⟨?image, rendered, ?again⟩
  case image =>
    intro tokens
    constructor
    · rintro ⟨pattern, rfl⟩
      exact canonical_compile pattern.toList
    · intro canonical
      exact ⟨_, rendered tokens canonical⟩
  case again =>
    intro pattern again
    have sameTokens : again.tokens = (ofPattern pattern).tokens :=
      rendered _ (canonical_compile pattern.toList)
    refine ⟨sameTokens, fun text => ?_⟩
    rw [selects, selects, sameTokens]

/-- A range up to the closing bracket, rendered, is a class that ends with that bracket. -/
example : compile (render [.bracket false [.range 'a' ']']]) =
    [.bracket false [.member 'a', .member '-'], .literal ']'] := by
  cbv

end NamedRefs.Glob

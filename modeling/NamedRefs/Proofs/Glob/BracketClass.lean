/-
Module: NamedRefs.Proofs.Glob.BracketClass
Purpose: Bracket classes are read exactly as they are written, in one way only, and where none is read
  the text has ended before its closing bracket.
Main exports: Glob.readItem_eq_some_iff, Glob.readItems_of_readItem, Glob.readClass_eq_some_iff,
  Glob.readClass_append, Glob.Unclosed, Glob.readClass_eq_none_iff, Glob.classAt?, Glob.ClassBetween,
  Glob.classAt?_eq_some_iff, Glob.bracket_class_is_read_by_its_written_form
-/
import NamedRefs.Glob.BracketClass

namespace NamedRefs.Glob

/-!
Whether a closing bracket ends the class depends on everything in front of it: it may be the first
member, a protected character, or a character behind a dash.  So the reader and the written forms are
compared from the left, member by member.  The reader never looks further than one member and the
two characters behind it, and a written form says of these two exactly what the reader asks of them.
-/

variable {text rest form forms : List Char} {low : Char} {item : ClassItem}
  {items : List ClassItem} {negated closable : Bool}

/-! ### The character that a member starts with -/

/-- The reader of units reads exactly the written forms of a unit. -/
theorem readUnit_eq_some_iff :
    readUnit text = some (low, rest) ↔ ∃ unit, UnitForm low unit ∧ text = unit ++ rest := by
  constructor
  · intro read
    unfold readUnit at read
    split at read
    · cases read
    · cases read
    · cases read
      exact ⟨_, .escaped low, rfl⟩
    · rename_i character after notAlone notEscape
      cases read
      have plain : low ≠ '\\' := by
        rintro rfl
        cases rest with
        | nil => exact notAlone rfl rfl
        | cons next after => exact notEscape next after rfl rfl
      exact ⟨_, .plain plain, rfl⟩
  · rintro ⟨unit, written, rfl⟩
    cases written with
    | plain plain => simp [readUnit, plain]
    | escaped => rfl

/-- A member cannot start at the end of the text, nor with a backslash that protects nothing. -/
theorem readUnit_eq_none_iff : readUnit text = none ↔ text = [] ∨ text = ['\\'] := by
  unfold readUnit
  split <;> simp_all

/-! ### One member -/

/-- No item is written as nothing. -/
theorem ItemForm.ne_nil (written : ItemForm item form rest) : form ≠ [] := by
  cases written with
  | range rest unit allowed => simp
  | member unit noRange => cases unit <;> exact List.cons_ne_nil _ _

/-- What stands behind an item does not change how it begins. -/
theorem ItemForm.head?_append (written : ItemForm item form rest) (behind : List Char) :
    (form ++ behind).head? = form.head? := by
  obtain ⟨first, others, rfl⟩ := List.exists_cons_of_ne_nil written.ne_nil
  rfl

/-- The reader of items reads exactly the written forms of an item. -/
theorem readItem_eq_some_iff :
    readItem text = some (item, rest) ↔ ∃ form, ItemForm item form rest ∧ text = form ++ rest := by
  constructor
  · intro read
    unfold readItem at read
    split at read
    · cases read
    · rename_i low high after readOne
      obtain ⟨unit, written, rfl⟩ := readUnit_eq_some_iff.mp readOne
      split at read
      · rename_i closing
        cases read
        refine ⟨unit, .member written ?_, rfl⟩
        rintro _ _ ⟨⟩
        exact closing
      · rename_i allowed
        cases read
        exact ⟨_, .range rest written allowed, by simp⟩
    · rename_i low after noRange readOne
      obtain ⟨unit, written, rfl⟩ := readUnit_eq_some_iff.mp readOne
      cases read
      refine ⟨unit, .member written ?_, rfl⟩
      intro high further same
      exact absurd same (noRange high further)
  · rintro ⟨form, written, rfl⟩
    cases written with
    | @range low high unit _ written allowed =>
        have readOne : readUnit (unit ++ ['-', high] ++ rest) = some (low, '-' :: high :: rest) :=
          readUnit_eq_some_iff.mpr ⟨unit, written, List.append_assoc unit _ rest⟩
        rw [readItem, readOne]
        exact if_neg allowed
    | member written noRange =>
        rw [readItem, readUnit_eq_some_iff.mpr ⟨form, written, rfl⟩]
        split
        · contradiction
        · rename_i high after same
          cases same
          rw [if_pos (noRange _ _ rfl)]
        · rename_i same
          cases same
          rfl

/-- An item cannot be read only where the text is over, or over behind a backslash. -/
theorem readItem_eq_none_iff : readItem text = none ↔ text = [] ∨ text = ['\\'] := by
  rw [← readUnit_eq_none_iff]
  unfold readItem
  split
  · simp_all
  · split <;> simp_all
  · simp_all

/-! ### All members -/

/-- A closing bracket ends the items where it is allowed to. -/
theorem readItems_closing : readItems true (']' :: rest) = some ([], rest) := by
  rw [readItems]
  rfl

/-- Where the class does not end, a member is read and then the members behind it. -/
theorem readItems_of_readItem (goesOn : closable = true → text.head? ≠ some ']')
    (read : readItem text = some (item, rest)) :
    readItems closable text =
      (readItems true rest).map fun (items, after) => (item :: items, after) := by
  cases text with
  | nil => cases read
  | cons character after =>
      have noEnd : ¬ (closable && character == ']') = true := by
        cases closable
        · exact Bool.false_ne_true
        · simpa using goesOn rfl
      rw [readItems, if_neg noEnd]
      split
      · rename_i failed
        cases failed.symm.trans read
      · rename_i same
        cases same.symm.trans read
        rfl

/-- A class has at least one item. -/
theorem ItemsForm.items_ne_nil (written : ItemsForm items forms rest) : items ≠ [] := by
  cases written <;> exact List.cons_ne_nil _ _

/-- An item and the closing bracket are at least two characters. -/
theorem ItemsForm.two_le_length (written : ItemsForm items forms rest) : 2 ≤ forms.length := by
  induction written with
  | last written =>
      have nonempty := List.length_pos_iff.mpr written.ne_nil
      simp only [List.length_append, List.length_singleton]
      omega
  | more written goesOn others inductionHypothesis =>
      simp only [List.length_append]
      omega

/-- The written form of items ends with the closing bracket. -/
theorem ItemsForm.getLast?_eq (written : ItemsForm items forms rest) :
    forms.getLast? = some ']' := by
  induction written with
  | last written => exact List.getLast?_concat
  | more written goesOn others inductionHypothesis =>
      rw [List.getLast?_append, inductionHypothesis, Option.some_or]

/-- What stands behind the items does not change how they begin. -/
theorem ItemsForm.head?_append (written : ItemsForm items forms rest) (behind : List Char) :
    (forms ++ behind).head? = forms.head? := by
  cases written with
  | last written => rw [written.head?_append, List.append_assoc, written.head?_append]
  | more written goesOn others =>
      rw [written.head?_append, List.append_assoc, written.head?_append]

/-- What is written as members is read as these members. -/
theorem ItemsForm.readItems (written : ItemsForm items forms rest)
    (goesOn : closable = true → forms.head? ≠ some ']') :
    readItems closable (forms ++ rest) = some (items, rest) := by
  induction written generalizing closable with
  | @last item form rest written =>
      have read : readItem (form ++ [']'] ++ rest) = some (item, ']' :: rest) :=
        readItem_eq_some_iff.mpr ⟨form, written, by simp⟩
      rw [← (ItemsForm.last written).head?_append rest] at goesOn
      rw [readItems_of_readItem goesOn read, readItems_closing]
      rfl
  | @more item items form forms rest written stillGoesOn others inductionHypothesis =>
      have read : readItem (form ++ forms ++ rest) = some (item, forms ++ rest) :=
        readItem_eq_some_iff.mpr ⟨form, written, by simp⟩
      rw [← (ItemsForm.more written stillGoesOn others).head?_append rest] at goesOn
      rw [readItems_of_readItem goesOn read, inductionHypothesis fun _ => stillGoesOn]
      rfl

/-- What is read as members was written as these members. -/
theorem exists_form_of_readItems (read : readItems closable text = some (items, rest))
    (goesOn : closable = true → text.head? ≠ some ']') :
    ∃ forms, ItemsForm items forms rest ∧ text = forms ++ rest := by
  fun_induction readItems closable text generalizing items with
  | case1 => cases read
  | case2 closable character after closing =>
      rw [Bool.and_eq_true, beq_iff_eq] at closing
      obtain ⟨isClosable, rfl⟩ := closing
      exact absurd rfl (goesOn isClosable)
  | case3 => cases read
  | case4 closable character after notClosing item remaining readOne inductionHypothesis =>
      obtain ⟨⟨others, behind⟩, readOthers, same⟩ := Option.map_eq_some_iff.mp read
      cases same
      obtain ⟨form, written, split⟩ := readItem_eq_some_iff.mp readOne
      -- Behind a member the class may end, so a bracket there does not start another one.
      by_cases closes : remaining.head? = some ']'
      · obtain ⟨_, rfl⟩ := List.head?_eq_some_iff.mp closes
        rw [readItems_closing] at readOthers
        cases readOthers
        exact ⟨form ++ [']'], .last written, by simp [split]⟩
      · obtain ⟨forms, writtenOthers, rfl⟩ := inductionHypothesis readOthers fun _ => closes
        rw [writtenOthers.head?_append] at closes
        exact ⟨form ++ forms, .more written closes writtenOthers, by simp [split]⟩

/-! ### A whole class -/

/-- Behind a sign the items are read into a negated class. -/
theorem readClass_of_signed {sign : Char} (isSign : sign = '!' ∨ sign = '^') (body : List Char) :
    readClass (sign :: body) =
      (readItems false body).map fun (items, rest) => ((true, items), rest) := by
  rcases isSign with rfl | rfl <;> rfl

/-- Without a sign the items are read into a class that is not negated. -/
theorem readClass_of_unsigned (noMark : text.head? ≠ some '!') (noCaret : text.head? ≠ some '^') :
    readClass text = (readItems false text).map fun (items, rest) => ((false, items), rest) := by
  have unsigned : readNegation text = (false, text) := by
    unfold readNegation
    split <;> simp_all
  rw [readClass, unsigned]

/-- A text either begins with one of the two signs or with neither of them. -/
theorem signed_or_unsigned (text : List Char) :
    (∃ sign body, (sign = '!' ∨ sign = '^') ∧ text = sign :: body) ∨
      text.head? ≠ some '!' ∧ text.head? ≠ some '^' := by
  cases text with
  | nil => exact Or.inr ⟨nofun, nofun⟩
  | cons first body =>
      by_cases isSign : first = '!' ∨ first = '^'
      · exact Or.inl ⟨first, body, isSign, rfl⟩
      · rw [not_or] at isSign
        simpa using Or.inr isSign

/-- What is written as a class is read as this class, whatever stands behind it. -/
theorem ClassForm.readClass (written : ClassForm negated items forms rest) :
    readClass (forms ++ rest) = some ((negated, items), rest) := by
  cases written with
  | plain noMark noCaret members =>
      have read : readItems false (forms ++ rest) = some (items, rest) := members.readItems nofun
      rw [← members.head?_append rest] at noMark noCaret
      rw [readClass_of_unsigned noMark noCaret, read]
      rfl
  | @negated _ _ forms _ isSign members =>
      have read : readItems false (forms ++ rest) = some (items, rest) := members.readItems nofun
      rw [List.cons_append, readClass_of_signed isSign, read]
      rfl

/-- The reader of classes reads exactly the written forms of a class. -/
theorem readClass_eq_some_iff :
    readClass text = some ((negated, items), rest) ↔
      ∃ forms, ClassForm negated items forms rest ∧ text = forms ++ rest := by
  constructor
  · intro read
    rcases signed_or_unsigned text with ⟨sign, body, isSign, rfl⟩ | ⟨noMark, noCaret⟩
    · rw [readClass_of_signed isSign, Option.map_eq_some_iff] at read
      obtain ⟨_, readBody, same⟩ := read
      cases same
      obtain ⟨forms, members, rfl⟩ := exists_form_of_readItems readBody nofun
      exact ⟨sign :: forms, .negated isSign members, rfl⟩
    · rw [readClass_of_unsigned noMark noCaret, Option.map_eq_some_iff] at read
      obtain ⟨_, readBody, same⟩ := read
      cases same
      obtain ⟨forms, members, rfl⟩ := exists_form_of_readItems readBody nofun
      rw [members.head?_append] at noMark noCaret
      exact ⟨forms, .plain noMark noCaret members, rfl⟩
  · rintro ⟨forms, written, rfl⟩
    exact written.readClass

/-- A class has items, whether it is negated or not. -/
theorem ClassForm.items_ne_nil (written : ClassForm negated items forms rest) : items ≠ [] := by
  cases written with
  | plain noMark noCaret members => exact members.items_ne_nil
  | negated isSign members => exact members.items_ne_nil

/-- A class is written with at least two characters behind the opening bracket. -/
theorem ClassForm.two_le_length (written : ClassForm negated items forms rest) :
    2 ≤ forms.length := by
  cases written with
  | plain noMark noCaret members => exact members.two_le_length
  | negated isSign members => exact Nat.le_succ_of_le members.two_le_length

/-- The written form of a class ends with the closing bracket. -/
theorem ClassForm.getLast?_eq (written : ClassForm negated items forms rest) :
    forms.getLast? = some ']' := by
  cases written with
  | plain noMark noCaret members => exact members.getLast?_eq
  | negated isSign members =>
      rw [List.getLast?_cons, members.getLast?_eq]
      rfl

/-! ### What stands behind a class -/

/-- A member keeps its form when nothing that could make it a range comes to stand behind it. -/
theorem ItemForm.in_front_of (written : ItemForm item form rest) {other : List Char}
    (sameDash : ∀ high after, other = '-' :: high :: after →
      ∃ further, rest = '-' :: high :: further) : ItemForm item form other := by
  cases written with
  | range _ unit allowed => exact .range other unit allowed
  | member unit noRange =>
      refine .member unit fun high after same => ?_
      obtain ⟨further, same⟩ := sameDash high after same
      exact noRange high further same

/-- The closing bracket shields the members from what stands behind it. -/
theorem ItemsForm.in_front_of (written : ItemsForm items forms rest) (other : List Char) :
    ItemsForm items forms other := by
  induction written with
  | last written =>
      refine .last (written.in_front_of ?_)
      rintro _ _ ⟨⟩
  | @more item items form forms rest written goesOn others inductionHypothesis =>
      refine .more (written.in_front_of ?_) goesOn inductionHypothesis
      intro high after same
      -- A dash and what is behind it are both within the other members: these have two characters.
      match forms, others.two_le_length with
      | first :: second :: behind, _ =>
          cases same
          exact ⟨behind ++ rest, rfl⟩

/-- A written form stays one in front of any other text. -/
theorem ClassForm.in_front_of (written : ClassForm negated items forms rest)
    (other : List Char) : ClassForm negated items forms other := by
  cases written with
  | plain noMark noCaret members => exact .plain noMark noCaret (members.in_front_of other)
  | negated isSign members => exact .negated isSign (members.in_front_of other)

/-- A class is read in front of a longer text as it is in front of a shorter one. -/
theorem readClass_append (read : readClass text = some ((negated, items), rest))
    (behind : List Char) : readClass (text ++ behind) = some ((negated, items), rest ++ behind) := by
  obtain ⟨forms, written, rfl⟩ := readClass_eq_some_iff.mp read
  rw [List.append_assoc]
  exact (written.in_front_of (rest ++ behind)).readClass

/-! ### Texts without a class -/

/-- A text that is used up by members, or breaks off inside an escape behind some, before a bracket
closes the class.  The flag says whether a closing bracket at its start would do so. -/
inductive Unclosed : Bool → List Char → Prop where
  | ended {closable : Bool} : Unclosed closable []
  | brokenOff {closable : Bool} : Unclosed closable ['\\']
  | member {closable : Bool} {item : ClassItem} {form rest : List Char} :
      ItemForm item form rest → (closable = true → form.head? ≠ some ']') →
      Unclosed true rest → Unclosed closable (form ++ rest)

/-- A text behind an opening bracket that ends before the class does. -/
inductive UnclosedClass : List Char → Prop where
  | plain {text : List Char} :
      text.head? ≠ some '!' → text.head? ≠ some '^' → Unclosed false text → UnclosedClass text
  | negated {sign : Char} {body : List Char} :
      sign = '!' ∨ sign = '^' → Unclosed false body → UnclosedClass (sign :: body)

/-- Items cannot be read exactly where the class is not closed. -/
theorem readItems_eq_none_iff : readItems closable text = none ↔ Unclosed closable text := by
  constructor
  · intro failed
    fun_induction readItems closable text with
    | case1 => exact .ended
    | case2 => cases failed
    | case3 closable character after notClosing readOne =>
        rcases readItem_eq_none_iff.mp readOne with isEmpty | isBackslash
        · cases isEmpty
        · exact isBackslash ▸ .brokenOff
    | case4 closable character after notClosing item remaining readOne inductionHypothesis =>
        rw [Option.map_eq_none_iff] at failed
        obtain ⟨form, written, split⟩ := readItem_eq_some_iff.mp readOne
        have goesOn : closable = true → form.head? ≠ some ']' := by
          rintro rfl
          rw [← written.head?_append remaining, ← split]
          simpa using notClosing
        exact split ▸ .member written goesOn (inductionHypothesis failed)
  · intro unclosed
    induction unclosed with
    | ended => rw [readItems]
    | @brokenOff closable =>
        rw [readItems]
        cases closable <;> rfl
    | @member closable item form rest written goesOn others inductionHypothesis =>
        have read : readItem (form ++ rest) = some (item, rest) :=
          readItem_eq_some_iff.mpr ⟨form, written, rfl⟩
        rw [← written.head?_append rest] at goesOn
        rw [readItems_of_readItem goesOn read, inductionHypothesis]
        rfl

/-- A class cannot be read exactly where it is not closed. -/
theorem readClass_eq_none_iff : readClass text = none ↔ UnclosedClass text := by
  constructor
  · intro failed
    rcases signed_or_unsigned text with ⟨sign, body, isSign, rfl⟩ | ⟨noMark, noCaret⟩
    · rw [readClass_of_signed isSign, Option.map_eq_none_iff, readItems_eq_none_iff] at failed
      exact .negated isSign failed
    · rw [readClass_of_unsigned noMark noCaret, Option.map_eq_none_iff,
        readItems_eq_none_iff] at failed
      exact .plain noMark noCaret failed
  · intro unclosed
    cases unclosed with
    | plain noMark noCaret members =>
        rw [readClass_of_unsigned noMark noCaret, readItems_eq_none_iff.mpr members]
        rfl
    | negated isSign members =>
        rw [readClass_of_signed isSign, readItems_eq_none_iff.mpr members]
        rfl

/-! ### Places in a pattern -/

/-- The class that starts at a place of a pattern, with the place behind it. -/
def classAt? (pattern : List Char) (start : Nat) : Option ((Bool × List ClassItem) × Nat) :=
  (readClass (pattern.drop start)).map fun (content, rest) =>
    (content, pattern.length - rest.length)

/-- Between two places of a pattern a class is written. -/
def ClassBetween (pattern : List Char) (start next : Nat) (negated : Bool)
    (items : List ClassItem) : Prop :=
  ∃ before forms rest, pattern = before ++ (forms ++ rest) ∧ before.length = start ∧
    start + forms.length = next ∧ ClassForm negated items forms rest

/-- A class is read at a place exactly if its written form stands there, up to the next place. -/
theorem classAt?_eq_some_iff {pattern : List Char} {start next : Nat} :
    classAt? pattern start = some ((negated, items), next) ↔
      ClassBetween pattern start next negated items := by
  constructor
  · intro found
    obtain ⟨⟨_, rest⟩, read, same⟩ := Option.map_eq_some_iff.mp found
    cases same
    obtain ⟨forms, written, split⟩ := readClass_eq_some_iff.mp read
    have whole : pattern = pattern.take start ++ (forms ++ rest) := by
      rw [← split, List.take_append_drop]
    have long := written.two_le_length
    have lengths := congrArg List.length split
    simp only [List.length_drop, List.length_append] at lengths
    refine ⟨pattern.take start, forms, rest, whole, List.length_take_of_le ?_, ?_, written⟩
    · omega
    · omega
  · rintro ⟨before, forms, rest, rfl, rfl, rfl, written⟩
    have behind : (before ++ (forms ++ rest)).length - rest.length =
        before.length + forms.length := by
      simp only [List.length_append]
      omega
    rw [classAt?, List.drop_left, written.readClass, ← behind]
    rfl

/-- The class that a pattern has at a place is the one that is written there.  Behind an opening
bracket comes a sign or none, then at least one member, and then the closing bracket, the first one
that stands between two members: the written forms say so.  No class can be written there in two
ways or with two ends; it takes up at least two characters, has members, and its last character is
the closing bracket.  There is no class exactly when the text from that place on is used up by the
sign and members, or breaks off behind a backslash, before a bracket closes the class. -/
theorem bracket_class_is_read_by_its_written_form (pattern : List Char) (start : Nat) :
    (∀ negated items next,
      classAt? pattern start = some ((negated, items), next) ↔
        ClassBetween pattern start next negated items) ∧
    (classAt? pattern start = none ↔ UnclosedClass (pattern.drop start)) ∧
    (∀ negated items next otherNegated otherItems otherNext,
      ClassBetween pattern start next negated items →
      ClassBetween pattern start otherNext otherNegated otherItems →
      negated = otherNegated ∧ items = otherItems ∧ next = otherNext) ∧
    ∀ negated items next, ClassBetween pattern start next negated items →
      start + 2 ≤ next ∧ next ≤ pattern.length ∧ pattern[next - 1]? = some ']' ∧ items ≠ [] := by
  refine ⟨fun negated items next => classAt?_eq_some_iff, ?nowhere, ?unique, ?extent⟩
  case nowhere =>
    rw [classAt?, Option.map_eq_none_iff, readClass_eq_none_iff]
  case unique =>
    intro negated items next otherNegated otherItems otherNext one other
    rw [← classAt?_eq_some_iff] at one other
    cases one.symm.trans other
    exact ⟨rfl, rfl, rfl⟩
  case extent =>
    rintro negated items next ⟨before, forms, rest, rfl, rfl, rfl, written⟩
    have long := written.two_le_length
    have closing : forms[forms.length - 1]? = some ']' := by
      rw [← List.getLast?_eq_getElem?, written.getLast?_eq]
    refine ⟨by omega, by simp, ?_, written.items_ne_nil⟩
    rw [Nat.add_sub_assoc (by omega), List.getElem?_append_right (Nat.le_add_right _ _),
      Nat.add_sub_cancel_left, List.getElem?_append_left (by omega), closing]

/-- A closing bracket that comes first, one that is protected, and a backslash behind a dash are all
members; only then does the class end. -/
example : classAt? "[^]\\]a-\\]z".toList 1 =
    some ((true, [.member ']', .member ']', .range 'a' '\\']), 9) := by
  cbv

end NamedRefs.Glob

/-
Module: NamedRefs.Proofs.Store.Traversal
Purpose: What a cursor shows, whichever moves are made: the selected references, each one once, in the
  order of their slots.
Main exports: Store.selected, Cursor.pending, Cursor.Item, Cursor.Sight.Shows, Cursor.play_shows,
  Store.iterate_eq, Store.names_eq, Store.cursor_shows_selected_in_slot_order
-/
import NamedRefs.Proofs.Store.Contents

namespace NamedRefs

/-!
`Cursor.pending` is all that matters of a cursor: the references that it has yet to stop at.  A move
that asks for a reference takes the first of them, and finds nothing only when none is left; no other
move takes any.  So after any moves what is pending are the selected references less as many as the
moves have yielded, and each sight can be told from that number.
-/

/-- The references that a pattern selects, in the order of their slots; without a pattern all. -/
def Store.selected (store : Store) (pattern : Option String) : List Reference :=
  store.references.filter fun reference =>
    pattern.all fun text => (Glob.ofPattern text).selects reference.name

namespace Cursor

/-! ### What is pending -/

/-- The references that a cursor has yet to stop at. -/
def pending (cursor : Cursor) : List Reference :=
  if cursor.exhausted then []
  else (cursor.remaining.filterMap id).filter (stopsAt cursor.glob)

/-- Nothing is pending when a pass is over. -/
theorem pending_of_exhausted {cursor : Cursor} (exhausted : cursor.exhausted = true) :
    cursor.pending = [] := by
  rw [pending, if_pos exhausted]

/-- Seeking finds the first reference to stop at and loses none behind it. -/
theorem filter_eq_of_seek_eq_some {glob : Option Glob} {slots rest : List (Option Reference)}
    {reference : Reference} (found : seek glob slots = some (reference, rest)) :
    (slots.filterMap id).filter (stopsAt glob) =
      reference :: (rest.filterMap id).filter (stopsAt glob) := by
  induction slots with
  | nil => contradiction
  | cons content slots inductionHypothesis =>
      cases content with
      | none => exact inductionHypothesis found
      | some first =>
          rw [seek] at found
          change (first :: slots.filterMap id).filter (stopsAt glob) = _
          by_cases stops : stopsAt glob first = true
          · rw [if_pos stops] at found
            cases found
            exact List.filter_cons_of_pos stops
          · rw [if_neg stops] at found
            rw [List.filter_cons_of_neg stops]
            exact inductionHypothesis found

/-- A search that finds nothing has passed over nothing it should have stopped at. -/
theorem filter_eq_nil_of_seek_eq_none {glob : Option Glob} {slots : List (Option Reference)}
    (nothing : seek glob slots = none) : (slots.filterMap id).filter (stopsAt glob) = [] := by
  induction slots with
  | nil => rfl
  | cons content slots inductionHypothesis =>
      cases content with
      | none => exact inductionHypothesis nothing
      | some first =>
          rw [seek] at nothing
          change (first :: slots.filterMap id).filter (stopsAt glob) = []
          by_cases stops : stopsAt glob first = true
          · rw [if_pos stops] at nothing
            contradiction
          · rw [if_neg stops] at nothing
            rw [List.filter_cons_of_neg stops]
            exact inductionHypothesis nothing

/-- Moving takes the first pending reference; the cursor is exhausted afterwards exactly when there
was none. -/
theorem advance_cases (cursor : Cursor) :
    (cursor.pending = [] ∧ cursor.advance.1 = none ∧ cursor.advance.2.pending = [] ∧
      cursor.advance.2.exhausted = true) ∨
      ∃ reference rest, cursor.pending = reference :: rest ∧
        cursor.advance.1 = some reference ∧ cursor.advance.2.pending = rest ∧
        cursor.advance.2.exhausted = false ∧ cursor.exhausted = false := by
  rcases cursor with ⟨remaining, glob, _ | _⟩
  · cases sought : seek glob remaining with
    | none =>
        left
        refine ⟨filter_eq_nil_of_seek_eq_none sought, ?_⟩
        simp [advance, sought, pending]
    | some found =>
        rcases found with ⟨reference, slots⟩
        right
        refine ⟨reference, _, filter_eq_of_seek_eq_some sought, ?_⟩
        simp [advance, sought, pending]
  · exact Or.inl ⟨rfl, rfl, rfl, rfl⟩

/-- A step of a pass yields the first reference that is pending. -/
theorem advance_fst (cursor : Cursor) : cursor.advance.1 = cursor.pending.head? := by
  rcases advance_cases cursor with ⟨pending, found, _⟩ | ⟨reference, rest, pending, found, _⟩
  · rw [pending, found, List.head?_nil]
  · rw [pending, found, List.head?_cons]

/-- A step of a pass leaves the others pending. -/
theorem pending_advance (cursor : Cursor) : cursor.advance.2.pending = cursor.pending.tail := by
  rcases advance_cases cursor with ⟨pending, _, left, _⟩ | ⟨reference, rest, pending, _, left, _⟩
  · rw [pending, left, List.tail_nil]
  · rw [pending, left, List.tail_cons]

/-- What a step yields is no longer pending, and nothing else has gone. -/
theorem pending_advance_eq_drop (cursor : Cursor) :
    cursor.advance.2.pending = cursor.pending.drop cursor.advance.1.toList.length := by
  rw [pending_advance, advance_fst]
  cases cursor.pending <;> simp

/-- A pass is over once a step of it has yielded nothing. -/
theorem exhausted_advance (cursor : Cursor) :
    cursor.advance.2.exhausted = (cursor.exhausted || cursor.advance.1.isNone) := by
  rcases advance_cases cursor with ⟨_, found, _, last⟩ | ⟨reference, rest, _, found, _, last, first⟩
  · rw [found, last, Option.isNone_none, Bool.or_true]
  · rw [found, last, first, Option.isNone_some, Bool.or_false]

/-- Taking all that is left takes what is pending. -/
theorem collect_eq {View : Type} (view : Reference → View) (cursor : Cursor) :
    (cursor.collect view).1 = cursor.pending.map view ∧
      (cursor.collect view).2.exhausted = true := by
  fun_induction collect view cursor with
  | case1 cursor last moved =>
      rcases advance_cases cursor with ⟨pending, _, _, exhausted⟩ | ⟨reference, rest, _, found, _⟩
      · rw [moved] at exhausted
        rw [pending]
        exact ⟨rfl, exhausted⟩
      · rw [moved] at found
        contradiction
  | case2 cursor reference next moved others last collected inductionHypothesis =>
      rcases advance_cases cursor with ⟨_, found, _⟩ | ⟨first, rest, pending, found, left, _⟩
      · rw [moved] at found
        contradiction
      · rw [moved] at found left
        cases found
        subst left
        rw [collected] at inductionHypothesis
        rw [pending, List.map_cons]
        exact ⟨congrArg _ inductionHypothesis.1, inductionHypothesis.2⟩

/-! ### Sights -/

/-- What a cursor yields: a reference, or only its name. -/
inductive Item where
  | reference (value : Reference)
  | name (value : String)
deriving DecidableEq

/-- Whether an item stands for a reference. -/
def Item.Of : Item → Reference → Prop
  | .reference value, stored => value = stored
  | .name value, stored => value = stored.name

namespace Sight

/-- What a sight yields. -/
def items : Sight → List Item
  | .reference found => found.toList.map .reference
  | .name found => found.toList.map .name
  | .exhausted _ | .sizeHint _ _ => []
  | .names _ values _ => values.map .name

/-- Whether a move has gone past the last reference.  Taking all names that are left does so. -/
def foundNothing : Sight → Bool
  | .reference found => found.isNone
  | .name found => found.isNone
  | .exhausted _ | .sizeHint _ _ => false
  | .names _ _ _ => true

/-- What a move shows when so many of the selected references were yielded before it, and when some
earlier move found nothing or none did.  Size hints are left open. -/
inductive Shows (selected : List Reference) (yielded : Nat) (ended : Bool) : Move → Sight → Prop where
  | next : Shows selected yielded ended .next (.reference selected[yielded]?)
  | nextName : Shows selected yielded ended .nextName (.name (selected[yielded]?.map (·.name)))
  | isExhausted : Shows selected yielded ended .isExhausted (.exhausted ended)
  | sizeHint (low high : Nat) : Shows selected yielded ended .sizeHint (.sizeHint low high)
  | names (before after : Nat × Nat) : Shows selected yielded ended .names
      (.names before ((selected.drop yielded).map (·.name)) after)

/-- Counting may start anywhere in the selection. -/
theorem Shows.of_drop {selected : List Reference} {skipped yielded : Nat} {ended : Bool} {move : Move}
    {sight : Sight} (shows : Shows (selected.drop skipped) yielded ended move sight) :
    Shows selected (skipped + yielded) ended move sight := by
  cases shows with
  | next =>
      rw [List.getElem?_drop]
      exact .next
  | nextName =>
      rw [List.getElem?_drop]
      exact .nextName
  | isExhausted => exact .isExhausted
  | sizeHint low high => exact .sizeHint low high
  | names before after =>
      rw [List.drop_drop]
      exact .names before after

end Sight

/-! ### One move -/

section

variable (cursor : Cursor) (move : Move)

/-- A move shows what is pending, from the first on. -/
theorem move_shows :
    (cursor.move move).1.Shows cursor.pending 0 cursor.exhausted move := by
  cases move with
  | next =>
      have found := cursor.advance_fst
      rw [List.head?_eq_getElem?] at found
      simp only [Cursor.move, found]
      exact .next
  | nextName =>
      have found := cursor.advance_fst
      rw [List.head?_eq_getElem?] at found
      simp only [Cursor.move, advanceName, found]
      exact .nextName
  | isExhausted => exact .isExhausted
  | sizeHint => exact .sizeHint _ _
  | names =>
      have taken := (cursor.collect_eq (·.name)).1
      simp only [Cursor.move, taken]
      exact .names _ _

/-- A pass is over once a move of it has found nothing. -/
theorem exhausted_move :
    (cursor.move move).2.exhausted =
      (cursor.exhausted || (cursor.move move).1.foundNothing) := by
  cases move with
  | next => exact cursor.exhausted_advance
  | nextName =>
      simp only [Cursor.move, advanceName, Sight.foundNothing, Option.isNone_map]
      exact cursor.exhausted_advance
  | isExhausted | sizeHint => simp [Cursor.move, Sight.foundNothing]
  | names => simp [Cursor.move, Sight.foundNothing, cursor.collect_eq]

theorem length_items_next :
    (cursor.move .next).1.items.length = cursor.advance.1.toList.length := by
  simp [Cursor.move, Sight.items]

theorem length_items_nextName :
    (cursor.move .nextName).1.items.length = cursor.advance.1.toList.length := by
  cases found : cursor.advance.1 <;> simp [Cursor.move, advanceName, Sight.items, found]

/-- A move takes as many pending references as it yields. -/
theorem pending_move :
    (cursor.move move).2.pending = cursor.pending.drop (cursor.move move).1.items.length := by
  cases move with
  | next =>
      rw [length_items_next]
      exact cursor.pending_advance_eq_drop
  | nextName =>
      rw [length_items_nextName]
      exact cursor.pending_advance_eq_drop
  | isExhausted | sizeHint => rfl
  | names =>
      have exhausted := (cursor.collect_eq (·.name)).2
      simp [Cursor.move, Sight.items, cursor.collect_eq, pending_of_exhausted exhausted]

/-- What a move yields stands for the first pending references. -/
theorem items_move :
    List.Forall₂ Item.Of (cursor.move move).1.items
      (cursor.pending.take (cursor.move move).1.items.length) := by
  have shows := cursor.move_shows move
  generalize (cursor.move move).1 = sight at shows
  cases shows with
  | next => cases cursor.pending <;> simp [Sight.items, Item.Of]
  | nextName => cases cursor.pending <;> simp [Sight.items, Item.Of]
  | isExhausted | sizeHint => exact .nil
  | names before after =>
      simp only [Sight.items, List.drop_zero, List.map_map, List.length_map, List.take_length,
        List.forall₂_map_left_iff]
      exact List.forall₂_same.mpr fun _ _ => rfl

end

/-! ### Any number of moves -/

theorem play_cons (cursor : Cursor) (move : Move) (moves : List Move) :
    cursor.play (move :: moves) =
      ((cursor.move move).1 :: ((cursor.move move).2.play moves).1,
        ((cursor.move move).2.play moves).2) := rfl

/-- Each move shows one sight. -/
theorem length_play (cursor : Cursor) (moves : List Move) :
    (cursor.play moves).1.length = moves.length := by
  induction moves generalizing cursor with
  | nil => rfl
  | cons move moves inductionHypothesis =>
      exact congrArg Nat.succ (inductionHypothesis (cursor.move move).2)

/-- A pass is over once one of its moves has found nothing. -/
theorem exhausted_play (cursor : Cursor) (moves : List Move) :
    (cursor.play moves).2.exhausted =
      (cursor.exhausted || (cursor.play moves).1.any (·.foundNothing)) := by
  induction moves generalizing cursor with
  | nil => exact (Bool.or_false _).symm
  | cons move moves inductionHypothesis =>
      rw [play_cons, inductionHypothesis, exhausted_move, List.any_cons, Bool.or_assoc]

/-- What the moves have yielded is no longer pending, and nothing else has gone. -/
theorem pending_play (cursor : Cursor) (moves : List Move) :
    (cursor.play moves).2.pending =
      cursor.pending.drop ((cursor.play moves).1.flatMap (·.items)).length := by
  induction moves generalizing cursor with
  | nil => rfl
  | cons move moves inductionHypothesis =>
      rw [play_cons, inductionHypothesis, pending_move, List.drop_drop, List.flatMap_cons,
        List.length_append]

/-- What moves yield stands for the pending references from the first one on. -/
theorem items_play (cursor : Cursor) (moves : List Move) :
    List.Forall₂ Item.Of ((cursor.play moves).1.flatMap (·.items))
      (cursor.pending.take ((cursor.play moves).1.flatMap (·.items)).length) := by
  induction moves generalizing cursor with
  | nil => exact .nil
  | cons move moves inductionHypothesis =>
      have rest := inductionHypothesis (cursor.move move).2
      rw [pending_move] at rest
      rw [play_cons, List.flatMap_cons, List.length_append, List.take_add]
      exact List.rel_append (cursor.items_move move) rest

/-- Each sight of a play is told by the sights before it. -/
theorem play_shows (cursor : Cursor) (moves : List Move) {position : Nat} {move : Move}
    {sight : Sight} (made : moves[position]? = some move)
    (seen : (cursor.play moves).1[position]? = some sight) :
    sight.Shows cursor.pending
      (((cursor.play moves).1.take position).flatMap (·.items)).length
      (cursor.exhausted || ((cursor.play moves).1.take position).any (·.foundNothing)) move := by
  induction moves generalizing cursor position with
  | nil => contradiction
  | cons first moves inductionHypothesis =>
      rw [play_cons] at seen ⊢
      cases position with
      | zero =>
          rw [List.getElem?_cons_zero, Option.some.injEq] at made seen
          subst made seen
          simpa using cursor.move_shows first
      | succ position =>
          have later := inductionHypothesis (cursor.move first).2 made seen
          rw [pending_move, exhausted_move, Bool.or_assoc] at later
          simpa using later.of_drop

/-- Once nothing was found, nothing is yielded any more. -/
theorem play_pairwise (cursor : Cursor) (moves : List Move) :
    (cursor.play moves).1.Pairwise fun earlier later =>
      earlier.foundNothing = true → later.items = [] := by
  induction moves generalizing cursor with
  | nil => exact .nil
  | cons move moves inductionHypothesis =>
      rw [play_cons]
      refine .cons ?_ (inductionHypothesis (cursor.move move).2)
      intro later member ended
      have exhausted : (cursor.move move).2.exhausted = true := by
        rw [exhausted_move, ended, Bool.or_true]
      have rest := (cursor.move move).2.items_play moves
      rw [pending_of_exhausted exhausted, List.take_nil, List.forall₂_nil_right_iff,
        List.flatMap_eq_nil_iff] at rest
      exact rest later member

end Cursor

namespace Store

/-! ### The selection -/

@[simp] theorem exhausted_cursor (store : Store) (pattern : Option String) :
    (store.cursor pattern).exhausted = false := rfl

/-- At first all selected references are pending. -/
@[simp] theorem pending_cursor (store : Store) (pattern : Option String) :
    (store.cursor pattern).pending = store.selected pattern := by
  cases pattern <;> rfl

/-- The references a pass runs through are those it selects. -/
theorem iterate_eq (store : Store) (pattern : Option String) :
    store.iterate pattern = store.selected pattern := by
  rw [iterate, (Cursor.collect_eq id _).1, pending_cursor, List.map_id]

/-- The names a pass runs through are those of the references it selects. -/
theorem names_eq (store : Store) (pattern : Option String) :
    store.names pattern = (store.selected pattern).map (·.name) := by
  rw [names, (Cursor.collect_eq _ _).1, pending_cursor]

theorem iterate_none (store : Store) : store.iterate none = store.references := by
  simp [iterate_eq, selected]

theorem names_none (store : Store) : store.names none = store.references.map (·.name) := by
  simp [names_eq, selected]

namespace Invariant

variable {store : Store}

/-- A reference is stored exactly when looking its name up gives it. -/
theorem mem_references_iff_lookup (invariant : store.Invariant) {reference : Reference} :
    reference ∈ store.references ↔ store.lookup reference.name = .ok reference := by
  rw [mem_references_iff, lookup_eq_ok_iff, invariant.find?_eq_some_iff]
  simp

/-- A pass selects what a lookup finds and its pattern matches. -/
theorem mem_selected_iff (invariant : store.Invariant) {pattern : Option String}
    {reference : Reference} :
    reference ∈ store.selected pattern ↔ store.lookup reference.name = .ok reference ∧
      ∀ text, pattern = some text → (Glob.ofPattern text).selects reference.name = true := by
  rw [selected, List.mem_filter, invariant.mem_references_iff_lookup]
  cases pattern <;> simp

/-- No name is selected twice. -/
theorem nodup_names_selected (invariant : store.Invariant) (pattern : Option String) :
    ((store.selected pattern).map (·.name)).Nodup :=
  invariant.nodup_names.sublist (List.filter_sublist.map _)

end Invariant

/-- In every store that calls lead to, the moves of a cursor yield the stored references that its
pattern selects, in the order of their slots and whichever move yields each.  Every sight is told by
the number of references yielded before it: the next one is shown, whole or by its name, until none
is left, and from then on nothing is; and the cursor calls itself exhausted exactly when some earlier
move has found nothing.  The selection has each reference once, under a name of its own and with the
target that looking this name up gives, and an exhausted cursor has yielded all of it. -/
theorem cursor_shows_selected_in_slot_order (config : StoreConfig) (calls : List Call)
    (pattern : Option String) :
    let store := (empty config).run calls
    let selected := store.selected pattern
    (selected.Sublist (store.slots.toList.filterMap id) ∧
      (selected.map (·.name)).Nodup ∧
      ∀ reference, reference ∈ selected ↔ store.lookup reference.name = .ok reference ∧
        ∀ text, pattern = some text → (Glob.ofPattern text).selects reference.name = true) ∧
    ∀ moves : List Cursor.Move,
      let sights := ((store.cursor pattern).play moves).1
      let items := sights.flatMap (·.items)
      sights.length = moves.length ∧
      List.Forall₂ Cursor.Item.Of items (selected.take items.length) ∧
      (∀ (position : Nat) (move : Cursor.Move) (sight : Cursor.Sight),
        moves[position]? = some move → sights[position]? = some sight →
        sight.Shows selected ((sights.take position).flatMap (·.items)).length
          ((sights.take position).any (·.foundNothing)) move) ∧
      (sights.Pairwise fun earlier later => earlier.foundNothing = true → later.items = []) ∧
      ((store.cursor pattern).play moves).2.exhausted = sights.any (·.foundNothing) ∧
      (sights.any (·.foundNothing) = true → List.Forall₂ Cursor.Item.Of items selected) := by
  intro store selected
  have invariant : store.Invariant := (invariant_empty config).run calls
  refine ⟨⟨List.filter_sublist, invariant.nodup_names_selected pattern,
    fun reference => invariant.mem_selected_iff⟩, ?_⟩
  intro moves sights items
  have exhausted := (store.cursor pattern).exhausted_play moves
  have yielded := (store.cursor pattern).items_play moves
  rw [exhausted_cursor, Bool.false_or] at exhausted
  rw [pending_cursor] at yielded
  refine ⟨Cursor.length_play _ moves, yielded, ?_, Cursor.play_pairwise _ moves, exhausted, ?_⟩
  · intro position move sight made seen
    simpa using Cursor.play_shows (store.cursor pattern) moves made seen
  · intro ended
    -- Nothing is pending in an exhausted cursor, so what was yielded is all there was.
    have nothingLeft := (store.cursor pattern).pending_play moves
    rw [Cursor.pending_of_exhausted (exhausted.trans ended), pending_cursor] at nothingLeft
    rwa [List.take_of_length_le (List.drop_eq_nil_iff.mp nothingLeft.symm)] at yielded

end Store

end NamedRefs

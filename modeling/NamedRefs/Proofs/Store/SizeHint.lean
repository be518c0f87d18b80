/-
Module: NamedRefs.Proofs.Store.SizeHint
Purpose: A size hint counts the slots that a cursor has not examined, and these bound what it can still
  yield.
Main exports: Cursor.move_spends, Cursor.play_spends, NameCursor.reduceOption_ask,
  NameCursor.ask_spends, NameCursor.collect_names, Store.Unexamined, Store.Passes,
  Store.Passes.play, Store.Passes.ask, Store.hint_counts_unexamined_slots
-/
import Mathlib.Data.List.ReduceOption
import NamedRefs.Proofs.Store.Traversal

namespace NamedRefs

/-!
A cursor examines the slots one after the other and stops in each whose reference it yields.  So the
slots that it has not examined are those behind the last reference that it has yielded, and none once
it has found nothing.  Each further item has a slot of its own among them: whatever moves are made,
the items that they yield and the hint afterwards are together at most the hint before.
-/

namespace Cursor

/-! ### What moves take from the hint -/

/-- A pass that is over promises nothing more. -/
theorem sizeHint_of_exhausted {cursor : Cursor} (exhausted : cursor.exhausted = true) :
    cursor.sizeHint = (0, 0) := by
  rw [sizeHint, if_pos exhausted]

/-- A pass under way promises no more than the slots it has not examined. -/
theorem sizeHint_of_scanning {cursor : Cursor} (scanning : cursor.exhausted = false) :
    cursor.sizeHint = (0, cursor.remaining.length) := by
  rw [sizeHint, if_neg (by simp [scanning])]

/-- A pending reference is in a slot that is not examined. -/
theorem length_pending_le (cursor : Cursor) : cursor.pending.length ≤ cursor.sizeHint.2 := by
  unfold pending sizeHint
  split
  · exact Nat.le_refl 0
  · exact Nat.le_trans (List.length_filter_le ..) (List.length_filterMap_le ..)

/-- A vacant slot counts as long as it is not examined, though nothing comes of it. -/
example : ({ remaining := [none, none], glob := none } : Cursor).sizeHint = (0, 2) := by
  rfl

/-- What a step of a pass yields is taken off its bound. -/
theorem advance_spends (cursor : Cursor) :
    cursor.advance.2.sizeHint.2 + cursor.advance.1.toList.length ≤ cursor.sizeHint.2 := by
  unfold advance
  split
  · rename_i exhausted
    simp [sizeHint_of_exhausted exhausted]
  · rename_i scanning
    rw [Bool.not_eq_true] at scanning
    split
    · rename_i reference slots found
      have shorter := seek_shorter found
      simpa [sizeHint, scanning] using Nat.succ_le_of_lt shorter
    · simp [sizeHint]

/-- The items that a move yields are taken off the hint. -/
theorem move_spends (cursor : Cursor) (move : Move) :
    (cursor.move move).2.sizeHint.2 + (cursor.move move).1.items.length ≤ cursor.sizeHint.2 := by
  cases move with
  | next =>
      rw [length_items_next]
      exact cursor.advance_spends
  | nextName =>
      rw [length_items_nextName]
      exact cursor.advance_spends
  | isExhausted | sizeHint => exact Nat.le_refl _
  | names =>
      have exhausted := (cursor.collect_eq (·.name)).2
      simpa [Cursor.move, Sight.items, cursor.collect_eq, sizeHint_of_exhausted exhausted]
        using cursor.length_pending_le

/-- The items that moves yield are taken off the hint. -/
theorem play_spends (cursor : Cursor) (moves : List Move) :
    (cursor.play moves).2.sizeHint.2 + ((cursor.play moves).1.flatMap (·.items)).length ≤
      cursor.sizeHint.2 := by
  induction moves generalizing cursor with
  | nil => exact Nat.le_refl _
  | cons move moves inductionHypothesis =>
      have first := cursor.move_spends move
      have others := inductionHypothesis (cursor.move move).2
      simp only [play_cons, List.flatMap_cons, List.length_append]
      omega

/-- Seeking finds what it finds in the last slot that it looks at. -/
theorem suffix_of_seek {glob : Option Glob} {slots rest : List (Option Reference)}
    {reference : Reference} (found : seek glob slots = some (reference, rest)) :
    some reference :: rest <:+ slots := by
  induction slots with
  | nil => contradiction
  | cons content slots inductionHypothesis =>
      cases content with
      | none => exact (inductionHypothesis found).trans (List.suffix_cons none slots)
      | some first =>
          rw [seek] at found
          split at found
          · cases found
            exact List.suffix_rfl
          · exact (inductionHypothesis found).trans (List.suffix_cons (some first) slots)

end Cursor

namespace NameCursor

/-! ### Names one after the other -/

variable (cursor : Cursor) (count : Nat)

theorem fst_ask_succ :
    (cursor.byName.ask (count + 1)).1 =
      cursor.advance.1.map (·.name) :: (cursor.advance.2.byName.ask count).1 := rfl

theorem snd_ask_succ :
    (cursor.byName.ask (count + 1)).2 = (cursor.advance.2.byName.ask count).2 := rfl

/-- The items behind one more question are that of the first step and those of the rest. -/
theorem length_reduceOption_ask_succ :
    (cursor.byName.ask (count + 1)).1.reduceOption.length =
      cursor.advance.1.toList.length +
        (cursor.advance.2.byName.ask count).1.reduceOption.length := by
  rw [fst_ask_succ]
  cases cursor.advance.1 <;> simp [Nat.add_comm]

/-- The names that are found are those of the pending references. -/
theorem reduceOption_ask :
    (cursor.byName.ask count).1.reduceOption = (cursor.pending.map (·.name)).take count := by
  induction count generalizing cursor with
  | zero => rfl
  | succ count inductionHypothesis =>
      have others := inductionHypothesis cursor.advance.2
      rw [Cursor.pending_advance] at others
      rw [fst_ask_succ, Cursor.advance_fst]
      cases pending : cursor.pending with
      | nil => simpa [pending] using others
      | cons reference rest => simpa [pending] using others

/-- Asking exhausts a cursor when no name is found. -/
theorem exhausted_ask :
    (cursor.byName.ask count).2.cursor.exhausted =
      (cursor.exhausted || (cursor.byName.ask count).1.contains none) := by
  induction count generalizing cursor with
  | zero => exact (Bool.or_false _).symm
  | succ count inductionHypothesis =>
      rw [snd_ask_succ, inductionHypothesis, Cursor.exhausted_advance, fst_ask_succ]
      cases cursor.advance.1 <;> simp

/-- More names than there are pending references are not found. -/
theorem exhausted_ask_of_lt {cursor : Cursor} {count : Nat}
    (beyond : cursor.pending.length < count) :
    (cursor.byName.ask count).2.cursor.exhausted = true := by
  induction count generalizing cursor with
  | zero => contradiction
  | succ count inductionHypothesis =>
      rw [snd_ask_succ]
      rcases cursor.advance_cases with ⟨_, _, _, last⟩ | ⟨reference, rest, pending, _, left, _⟩
      · rw [exhausted_ask, last, Bool.true_or]
      · rw [pending, List.length_cons] at beyond
        exact inductionHypothesis (left ▸ Nat.lt_of_succ_lt_succ beyond)

/-- The names that are found are taken off the hint. -/
theorem ask_spends :
    (cursor.byName.ask count).2.sizeHint.2 + (cursor.byName.ask count).1.reduceOption.length ≤
      cursor.sizeHint.2 := by
  induction count generalizing cursor with
  | zero => exact Nat.le_refl _
  | succ count inductionHypothesis =>
      have first := cursor.advance_spends
      have others := inductionHypothesis cursor.advance.2
      rw [snd_ask_succ, length_reduceOption_ask_succ]
      omega

/-- Taking all names that are left is asking for them until none is found. -/
theorem collect_names :
    cursor.collect (·.name) =
      ((cursor.byName.ask (cursor.pending.length + 1)).1.reduceOption,
        (cursor.byName.ask (cursor.pending.length + 1)).2.cursor) := by
  fun_induction Cursor.collect (·.name) cursor with
  | case1 cursor last moved =>
      have nothing : cursor.pending = [] := by
        rw [← List.head?_eq_none_iff, ← cursor.advance_fst, moved]
      rw [nothing, List.length_nil, fst_ask_succ, snd_ask_succ, moved]
      rfl
  | case2 cursor reference next moved others last collected inductionHypothesis =>
      have left := cursor.pending_advance
      have found := cursor.advance_fst
      rw [moved] at left found
      have pending : cursor.pending = reference :: next.pending := by
        rw [left, List.eq_cons_of_mem_head? found.symm]
        rfl
      rw [pending, List.length_cons, fst_ask_succ, snd_ask_succ, moved]
      rw [collected] at inductionHypothesis
      cases inductionHypothesis
      rfl

end NameCursor

namespace Store

/-! ### The slots that are not examined -/

/-- How many slots are not examined when a pass has yielded so many of the selected references and
has found nothing at some time, or has not. -/
inductive Unexamined (store : Store) (selected : List Reference) : Nat → Bool → Nat → Prop where
  /-- At first no slot is examined. -/
  | start : Unexamined store selected 0 false store.slots.size
  /-- The slots up to the one of the last reference that was yielded are examined. -/
  | behind {yielded slot left : Nat} {reference : Reference} :
      selected[yielded]? = some reference → store.index[reference.name]? = some slot →
      slot + 1 + left = store.slots.size → Unexamined store selected (yielded + 1) false left
  /-- All slots are examined when nothing is found. -/
  | ended {yielded : Nat} : Unexamined store selected yielded true 0

/-- A cursor on its way through the slots, having yielded so many of the selected references. -/
structure Passes (store : Store) (selected : List Reference) (yielded : Nat) (cursor : Cursor) :
    Prop where
  within : cursor.remaining <:+ store.slots.toList
  pending : cursor.pending = selected.drop yielded
  unexamined : store.Unexamined selected yielded cursor.exhausted cursor.remaining.length

/-- What stands in front of a rear part of the slots is indexed at the place in front of it. -/
theorem Invariant.exists_slot_of_suffix {store : Store} (invariant : store.Invariant)
    {reference : Reference} {rest : List (Option Reference)}
    (isSuffix : some reference :: rest <:+ store.slots.toList) :
    ∃ slot, store.index[reference.name]? = some slot ∧
      slot + 1 + rest.length = store.slots.size := by
  obtain ⟨front, whole⟩ := isSuffix
  have held : store.slots[front.length]? = some (some reference) := by
    rw [← Array.getElem?_toList, ← whole]
    simp
  have size := congrArg List.length whole
  simp only [List.length_append, List.length_cons, Array.length_toList] at size
  exact ⟨front.length, invariant.found front.length reference held, by omega⟩

namespace Passes

variable {store : Store} {selected : List Reference} {yielded : Nat} {cursor : Cursor}

/-- A new pass is at the start of what it selects. -/
theorem start (store : Store) (pattern : Option String) :
    store.Passes (store.selected pattern) 0 (store.cursor pattern) where
  within := List.suffix_rfl
  pending := store.pending_cursor pattern
  unexamined := .start

/-- In a pass over a store the bound is the number of slots not examined, whether it is over or not.
-/
theorem sizeHint_eq (passes : store.Passes selected yielded cursor) :
    cursor.sizeHint = (0, cursor.remaining.length) := by
  have unexamined := passes.unexamined
  cases exhausted : cursor.exhausted with
  | false => exact Cursor.sizeHint_of_scanning exhausted
  | true =>
      rw [exhausted] at unexamined
      generalize cursor.remaining.length = left at unexamined ⊢
      cases unexamined
      exact Cursor.sizeHint_of_exhausted exhausted

/-- A step of a pass gets as much further as it yields. -/
theorem advance (passes : store.Passes selected yielded cursor) (invariant : store.Invariant) :
    store.Passes selected (yielded + cursor.advance.1.toList.length) cursor.advance.2 := by
  have pending : cursor.advance.2.pending =
      selected.drop (yielded + cursor.advance.1.toList.length) := by
    rw [cursor.pending_advance_eq_drop, passes.pending, List.drop_drop]
  cases exhausted : cursor.exhausted with
  | true =>
      rw [Cursor.advance_of_exhausted exhausted]
      exact passes
  | false =>
      cases sought : Cursor.seek cursor.glob cursor.remaining with
      | none =>
          have moved : cursor.advance = (none, { cursor with remaining := [], exhausted := true }) := by
            simp [Cursor.advance, exhausted, sought]
          rw [moved] at pending ⊢
          exact ⟨List.nil_suffix, pending, .ended⟩
      | some found =>
          obtain ⟨reference, slots⟩ := found
          have moved : cursor.advance = (some reference, { cursor with remaining := slots }) := by
            simp [Cursor.advance, exhausted, sought]
          have next : selected[yielded]? = some reference := by
            rw [← List.head?_drop, ← passes.pending, ← cursor.advance_fst, moved]
          have within := (Cursor.suffix_of_seek sought).trans passes.within
          obtain ⟨slot, indexed, size⟩ := invariant.exists_slot_of_suffix within
          rw [moved] at pending ⊢
          refine ⟨(List.suffix_cons _ slots).trans within, pending, ?_⟩
          rw [exhausted]
          exact .behind next indexed size

/-- Collecting the rest of a pass gets as much further as it yields. -/
theorem collect {View : Type} (view : Reference → View)
    (passes : store.Passes selected yielded cursor) (invariant : store.Invariant) :
    store.Passes selected (yielded + (cursor.collect view).1.length) (cursor.collect view).2 := by
  fun_induction Cursor.collect view cursor generalizing yielded with
  | case1 cursor last moved =>
      have passes := passes.advance invariant
      rwa [moved] at passes
  | case2 cursor reference next moved others last collected inductionHypothesis =>
      have passes := passes.advance invariant
      rw [moved] at passes
      have rest := inductionHypothesis passes
      rw [collected] at rest
      rw [List.length_cons, Nat.add_comm others.length, ← Nat.add_assoc]
      exact rest

/-- Each move of a pass gets as much further as it yields. -/
theorem move (passes : store.Passes selected yielded cursor) (invariant : store.Invariant)
    (move : Cursor.Move) :
    store.Passes selected (yielded + (cursor.move move).1.items.length) (cursor.move move).2 := by
  cases move with
  | next =>
      rw [Cursor.length_items_next]
      exact passes.advance invariant
  | nextName =>
      rw [Cursor.length_items_nextName]
      exact passes.advance invariant
  | isExhausted | sizeHint => exact passes
  | names => simpa [Cursor.move, Cursor.Sight.items] using passes.collect (·.name) invariant

/-- The moves of a pass, one after the other, get as much further as they yield together. -/
theorem play (passes : store.Passes selected yielded cursor) (invariant : store.Invariant)
    (moves : List Cursor.Move) :
    store.Passes selected (yielded + ((cursor.play moves).1.flatMap (·.items)).length)
      (cursor.play moves).2 := by
  induction moves generalizing cursor yielded with
  | nil => exact passes
  | cons move moves inductionHypothesis =>
      rw [Cursor.play_cons, List.flatMap_cons, List.length_append, ← Nat.add_assoc]
      exact inductionHypothesis (passes.move invariant move)

/-- Asking a pass for names gets as much further as there are names among the answers. -/
theorem ask (passes : store.Passes selected yielded cursor) (invariant : store.Invariant)
    (count : Nat) :
    store.Passes selected (yielded + (cursor.byName.ask count).1.reduceOption.length)
      (cursor.byName.ask count).2.cursor := by
  induction count generalizing cursor yielded with
  | zero => exact passes
  | succ count inductionHypothesis =>
      rw [NameCursor.snd_ask_succ, NameCursor.length_reduceOption_ask_succ, ← Nat.add_assoc]
      exact inductionHypothesis (passes.advance invariant)

end Passes

/-- In every store that calls lead to, and after any moves of a cursor, the size hint is zero and the
number of slots that are not examined yet: all slots as long as nothing was yielded, then those behind
the slot of the last reference that was yielded, and none once a move has found nothing.  The items
that any further moves yield and the hint after them are together at most the hint before.  So the
hint bounds what can still be yielded, it never rises, each item lowers it, and nothing is yielded when
it is zero; and the hint of an exhausted cursor stays zero.  A cursor that is given up for its names
keeps its hint.  The names that are then asked for one by one are those of the references that are
left, and the same holds of the hint between any two of them until nothing is found.  Taking all
names at once is asking for them until then. -/
theorem hint_counts_unexamined_slots (config : StoreConfig) (calls : List Call)
    (pattern : Option String) (moves : List Cursor.Move) :
    let store := (empty config).run calls
    let selected := store.selected pattern
    let sights := ((store.cursor pattern).play moves).1
    let cursor := ((store.cursor pattern).play moves).2
    let yielded := (sights.flatMap (·.items)).length
    let ended := sights.any (·.foundNothing)
    let rest := selected.drop yielded
    (cursor.remaining <:+ store.slots.toList ∧
      cursor.sizeHint = (0, cursor.remaining.length) ∧
      cursor.move .sizeHint = (.sizeHint 0 cursor.remaining.length, cursor) ∧
      store.Unexamined selected yielded ended cursor.remaining.length) ∧
    (∀ further : List Cursor.Move,
      let items := (cursor.play further).1.flatMap (·.items)
      let last := (cursor.play further).2
      last.sizeHint.2 + items.length ≤ cursor.sizeHint.2 ∧
      (cursor.exhausted = true → last.sizeHint = (0, 0))) ∧
    cursor.byName.sizeHint = cursor.sizeHint ∧
    (∀ count : Nat,
      let found := (cursor.byName.ask count).1
      let names := (cursor.byName.ask count).2
      found.reduceOption = (rest.map (·.name)).take count ∧
      names.sizeHint = (0, names.cursor.remaining.length) ∧
      store.Unexamined selected (yielded + found.reduceOption.length)
        (ended || found.contains none) names.cursor.remaining.length ∧
      (rest.length < count → names.sizeHint = (0, 0)) ∧
      ∀ further : Nat,
        (names.ask further).2.sizeHint.2 + (names.ask further).1.reduceOption.length ≤
          names.sizeHint.2) ∧
    cursor.move .names =
      (.names cursor.sizeHint (rest.map (·.name)) (0, 0),
        (cursor.byName.ask (rest.length + 1)).2.cursor) := by
  intro store selected sights cursor yielded ended rest
  have invariant : store.Invariant := (invariant_empty config).run calls
  have passes : store.Passes selected yielded cursor := by
    have passes := (Passes.start store pattern).play invariant moves
    rwa [Nat.zero_add] at passes
  have exhausted : cursor.exhausted = ended := Cursor.exhausted_play _ moves
  have pending : cursor.pending = rest := passes.pending
  have shown : cursor.move .sizeHint = (.sizeHint 0 cursor.remaining.length, cursor) := by
    rw [Cursor.move, passes.sizeHint_eq]
  refine ⟨⟨passes.within, passes.sizeHint_eq, shown, exhausted ▸ passes.unexamined⟩, ?moves, rfl,
    ?names, ?taken⟩
  case moves =>
    intro further items last
    refine ⟨cursor.play_spends further, fun isExhausted => Cursor.sizeHint_of_exhausted ?_⟩
    rw [Cursor.exhausted_play, isExhausted, Bool.true_or]
  case names =>
    intro count found names
    have passesOn : store.Passes selected (yielded + found.reduceOption.length) names.cursor :=
      passes.ask invariant count
    have exhaustedThen : names.cursor.exhausted = (ended || found.contains none) := by
      rw [← exhausted]
      exact NameCursor.exhausted_ask cursor count
    have taken : found.reduceOption = (rest.map (·.name)).take count := by
      rw [← pending]
      exact NameCursor.reduceOption_ask cursor count
    refine ⟨taken, passesOn.sizeHint_eq, exhaustedThen ▸ passesOn.unexamined, fun beyond => ?_,
      NameCursor.ask_spends names.cursor⟩
    exact Cursor.sizeHint_of_exhausted (NameCursor.exhausted_ask_of_lt (pending ▸ beyond))
  case taken =>
    have last := (cursor.collect_eq (·.name)).2
    have collected := NameCursor.collect_names cursor
    rw [pending] at collected
    simp only [Cursor.move, Cursor.sizeHint_of_exhausted last]
    rw [(cursor.collect_eq (·.name)).1, collected, pending]

end Store

end NamedRefs

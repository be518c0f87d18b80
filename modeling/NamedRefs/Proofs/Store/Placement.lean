/-
Module: NamedRefs.Proofs.Store.Placement
Purpose: A reference stays in its slot for as long as it lives, and a new one takes the slot that was
  vacated last.
Main exports: Store.Call.nameAfter?, Store.nameAfterCalls?, Store.Precedes, Store.IsVacant,
  Store.VacatedLater, Store.Invariant.index_run_of_nameAfterCalls?, Store.Invariant.precedes_iff,
  Store.vacant_pairwise, Store.references_keep_their_slots
-/
import Mathlib.Data.List.Induction
import NamedRefs.Proofs.Store.Traversal

namespace NamedRefs.Store

/-!
A stored reference has no identity but its name, and a rename changes that.  So a reference is followed
through a run by the names that the calls give it, until a call removes it.  No call moves a reference
that lives on, and therefore the order in which a pass meets two of them is settled when the later one
is created.

Where a new reference goes is settled by the list of vacant slots.  That list is ordered by time: of any
two slots in it, the one in front was still occupied when the other one was vacant for good.
-/

/-! ### Following a reference -/

/-- The name under which a call that succeeds leaves the reference of a name.  There is none when the
call removes the reference: by deleting it, by giving its name to another one, or with all others. -/
def Call.nameAfter? (name : String) : Call → Option String
  | .delete other _ => if other = name then none else some name
  | .rename oldName newName _ =>
      if oldName = name then some newName
      else if newName = name then none
      else some name
  | .clear => none
  | _ => some name

/-- The name under which a call leaves the reference of a name; a call that fails renames nothing. -/
def nameAfterCall? (store : Store) (call : Call) (name : String) : Option String :=
  if (store.perform call).1.isOk then call.nameAfter? name else some name

/-- The name under which calls leave the reference of a name, unless one of them removes it. -/
def nameAfterCalls? (store : Store) : List Call → String → Option String
  | [], name => some name
  | call :: calls, name =>
      (store.nameAfterCall? call name).bind ((store.perform call).2.nameAfterCalls? calls)

/-- A call that only reads leaves every name as it is. -/
theorem Call.nameAfter?_of_readsOnly {call : Call} (readsOnly : call.readsOnly = true)
    (name : String) : call.nameAfter? name = some name := by
  cases call <;> first | rfl | contradiction

/-- A change moves no reference that it does not remove. -/
theorem Change.index_nameAfter? {store next : Store} {call : Call} (change : Change store call next)
    (invariant : store.Invariant) {name last : String} {slot : Nat}
    (indexed : store.index[name]? = some slot) (followed : call.nameAfter? name = some last) :
    next.index[last]? = some slot := by
  cases change with
  | @created reference force checked absent =>
      cases followed
      have different : reference.name ≠ name := by
        rintro rfl
        rw [absent] at indexed
        contradiction
      rw [getElem?_index_insertNew, if_neg different, indexed]
  | replaced checked held current =>
      cases followed
      exact indexed
  | @removed other expected otherSlot live held current =>
      by_cases same : other = name
      · simp [Call.nameAfter?, same] at followed
      · simp only [Call.nameAfter?, if_neg same] at followed
        cases followed
        rw [getElem?_index_unlink, if_neg same, indexed]
  | @moved oldName newName force otherSlot target checked free different held =>
      rw [getElem?_index_relabel]
      by_cases old : oldName = name
      · subst old
        simp only [Call.nameAfter?, if_pos] at followed
        cases followed
        rw [if_pos rfl, ← invariant.indexed_of_inSlot? held, indexed]
      · by_cases taken : newName = name
        · -- The reference that is displaced is not followed any further.
          simp [Call.nameAfter?, old, taken] at followed
        · simp only [Call.nameAfter?, if_neg old, if_neg taken] at followed
          cases followed
          rw [if_neg taken, if_neg old, indexed]
  | @stayed other checked used =>
      by_cases same : other = name <;> simp [Call.nameAfter?, same] at followed
      all_goals
        subst followed
        exact indexed
  | cleared => contradiction
  | asked readsOnly =>
      rw [Call.nameAfter?_of_readsOnly readsOnly] at followed
      cases followed
      exact indexed

/-- A reference that a call does not delete is in the same slot behind it, under the name it has
then. -/
theorem Invariant.index_perform_of_nameAfterCall? {store : Store} (invariant : store.Invariant)
    {call : Call} {name last : String} {slot : Nat} (indexed : store.index[name]? = some slot)
    (followed : store.nameAfterCall? call name = some last) :
    (store.perform call).2.index[last]? = some slot := by
  unfold nameAfterCall? at followed
  rcases perform_cases invariant call with ⟨error, failed⟩ | ⟨answer, next, succeeded, change⟩
  · rw [failed] at followed ⊢
    cases followed
    exact indexed
  · rw [succeeded] at followed ⊢
    exact change.index_nameAfter? invariant indexed followed

/-- Calls move no reference that they do not remove. -/
theorem Invariant.index_run_of_nameAfterCalls? {store : Store} (invariant : store.Invariant)
    {calls : List Call} {name last : String} {slot : Nat}
    (indexed : store.index[name]? = some slot)
    (followed : store.nameAfterCalls? calls name = some last) :
    (store.run calls).index[last]? = some slot := by
  induction calls generalizing store name with
  | nil =>
      cases followed
      exact indexed
  | cons call calls inductionHypothesis =>
      obtain ⟨between, first, rest⟩ := Option.bind_eq_some_iff.mp followed
      apply inductionHypothesis (invariant.perform call) ?_ rest
      exact invariant.index_perform_of_nameAfterCall? indexed first

/-! ### The order of two references -/

/-- A pass over all references meets one name before the other. -/
def Precedes (store : Store) (first second : String) : Prop :=
  [first, second].Sublist (store.names none)

/-- An indexed name is listed by a pass without a pattern. -/
theorem Invariant.mem_names_none {store : Store} (invariant : store.Invariant) {name : String}
    {slot : Nat} (indexed : store.index[name]? = some slot) : name ∈ store.names none := by
  obtain ⟨target, held⟩ := invariant.occupied indexed
  rw [names_none]
  exact List.mem_map.mpr ⟨⟨name, target⟩, mem_references_iff.mpr ⟨slot, held⟩, rfl⟩

/-- A pass meets the names in the order of their slots. -/
theorem Invariant.names_pairwise {store : Store} (invariant : store.Invariant) :
    (store.names none).Pairwise fun first second => ∀ firstSlot secondSlot,
      store.index[first]? = some firstSlot → store.index[second]? = some secondSlot →
        firstSlot < secondSlot := by
  have inOrder : store.slots.toList.Pairwise fun first second =>
      ∀ one, first = some one → ∀ two, second = some two → ∀ firstSlot secondSlot,
        store.index[one.name]? = some firstSlot → store.index[two.name]? = some secondSlot →
          firstSlot < secondSlot := by
    rw [List.pairwise_iff_getElem]
    intro first second firstBound secondBound ordered one oneEq two twoEq firstSlot secondSlot
      oneIndexed twoIndexed
    have oneFound := invariant.found first one (Array.getElem?_eq_some_iff.mpr ⟨firstBound, oneEq⟩)
    have twoFound :=
      invariant.found second two (Array.getElem?_eq_some_iff.mpr ⟨secondBound, twoEq⟩)
    cases oneFound.symm.trans oneIndexed
    cases twoFound.symm.trans twoIndexed
    exact ordered
  rw [names_none]
  exact List.pairwise_map.mpr (List.pairwise_filterMap.mpr inOrder)

/-- One name comes before another in a pass exactly when its slot does. -/
theorem Invariant.precedes_iff {store : Store} (invariant : store.Invariant) {first second : String}
    {firstSlot secondSlot : Nat} (firstIndexed : store.index[first]? = some firstSlot)
    (secondIndexed : store.index[second]? = some secondSlot) :
    store.Precedes first second ↔ firstSlot < secondSlot := by
  have inOrder := invariant.names_pairwise
  constructor
  · intro precedes
    exact List.pairwise_iff_forall_sublist.mp inOrder precedes _ _ firstIndexed secondIndexed
  · intro ordered
    obtain ⟨before, after, cut⟩ := List.append_of_mem (invariant.mem_names_none firstIndexed)
    have secondMember := invariant.mem_names_none secondIndexed
    rw [cut] at inOrder secondMember
    rw [Precedes, cut]
    -- The second name stands behind the first one, for anywhere else its slot would be too low.
    rcases List.mem_append.mp secondMember with early | late
    · have reversed := (List.pairwise_append.mp inOrder).2.2 second early first
        List.mem_cons_self _ _ secondIndexed firstIndexed
      omega
    · rcases List.mem_cons.mp late with rfl | behind
      · cases firstIndexed.symm.trans secondIndexed
        omega
      · apply List.Sublist.trans _ (List.sublist_append_right before (first :: after))
        exact (List.singleton_sublist.mpr behind).cons_cons first

/-! ### The order of vacant slots -/

/-- A slot that the store has, and that holds nothing. -/
def IsVacant (store : Store) (slot : Nat) : Prop :=
  store.slots[slot]? = some none

/-- In a run, one slot was vacated after another one: at some point it was still occupied, and from there
on the other one was vacant. -/
def VacatedLater (start : Store) (calls : List Call) (slot other : Nat) : Prop :=
  ∃ earlier later, calls = earlier ++ later ∧
    (∃ reference, (start.run earlier).inSlot? slot = some reference) ∧
    ∀ since, since <+: later → (start.run (earlier ++ since)).IsVacant other

/-- A run may be cut into two anywhere. -/
theorem run_append (store : Store) (calls others : List Call) :
    store.run (calls ++ others) = (store.run calls).run others :=
  List.foldl_append

/-- A slot vacated later than another one is so behind one more call, if that leaves the other vacant. -/
theorem VacatedLater.snoc {start : Store} {calls : List Call} {slot other : Nat}
    (vacated : VacatedLater start calls slot other) {call : Call}
    (still : (start.run (calls ++ [call])).IsVacant other) :
    VacatedLater start (calls ++ [call]) slot other := by
  obtain ⟨earlier, later, rfl, occupied, vacant⟩ := vacated
  refine ⟨earlier, later ++ [call], List.append_assoc .., occupied, ?_⟩
  intro since part
  rcases List.prefix_concat_iff.mp part with rfl | inside
  · rwa [← List.append_assoc]
  · exact vacant since inside

/-- The slot that the last call has vacated was vacated after all others. -/
theorem VacatedLater.of_last {start : Store} {calls : List Call} {slot other : Nat}
    {reference : Reference} (occupied : (start.run calls).inSlot? slot = some reference)
    {call : Call} (before : (start.run calls).IsVacant other)
    (after : (start.run (calls ++ [call])).IsVacant other) :
    VacatedLater start (calls ++ [call]) slot other := by
  refine ⟨calls, [call], rfl, ⟨reference, occupied⟩, ?_⟩
  intro since part
  have whole : since <+: [] ++ [call] := part
  rcases List.prefix_concat_iff.mp whole with rfl | inside
  · exact after
  · rw [List.prefix_nil.mp inside, List.append_nil]
    exact before

/-- A change takes slots off the front of the vacant ones, or puts a slot there that was occupied. -/
theorem Change.vacant_cases {store next : Store} {call : Call} (change : Change store call next)
    (invariant : store.Invariant) :
    next.vacant <:+ store.vacant ∨
      ∃ slot reference, store.inSlot? slot = some reference ∧
        next.vacant = slot :: store.vacant := by
  cases change with
  | created checked absent =>
      rw [vacant_insertNew]
      exact Or.inl (List.tail_suffix store.vacant)
  | replaced checked held current => exact Or.inl List.suffix_rfl
  | removed held current => exact Or.inr ⟨_, _, held, rfl⟩
  | @moved oldName newName force slot target checked free different held =>
      rw [relabel, vacant_fill, vacant_rekey, displace]
      cases indexed : store.index[newName]? with
      | none => exact Or.inl List.suffix_rfl
      | some victim =>
          obtain ⟨target, victimHeld⟩ := invariant.occupied indexed
          exact Or.inr ⟨victim, _, victimHeld, rfl⟩
  | stayed checked used => exact Or.inl List.suffix_rfl
  | cleared => exact Or.inl List.nil_suffix
  | asked readsOnly => exact Or.inl List.suffix_rfl

/-- A call takes from the front of the free list, or puts one held slot in front of it. -/
theorem Invariant.vacant_perform_cases {store : Store} (invariant : store.Invariant) (call : Call) :
    (store.perform call).2.vacant <:+ store.vacant ∨
      ∃ slot reference, store.inSlot? slot = some reference ∧
        (store.perform call).2.vacant = slot :: store.vacant := by
  rcases perform_cases invariant call with ⟨error, failed⟩ | ⟨answer, next, succeeded, change⟩
  · rw [failed]
    exact Or.inl List.suffix_rfl
  · rw [succeeded]
    exact change.vacant_cases invariant

/-- The vacant slots are listed with the one vacated last in front. -/
theorem vacant_pairwise (config : StoreConfig) (calls : List Call) :
    ((empty config).run calls).vacant.Pairwise (VacatedLater (empty config) calls) := by
  induction calls using List.reverseRecOn with
  | nil => exact .nil
  | append_singleton calls call inductionHypothesis =>
      have invariant := (invariant_empty config).run calls
      have nextInvariant := (invariant_empty config).run (calls ++ [call])
      have stepped : (empty config).run (calls ++ [call]) =
          (((empty config).run calls).perform call).2 := run_append ..
      rcases invariant.vacant_perform_cases call with kept | ⟨slot, reference, occupied, vacated⟩
      · rw [← stepped] at kept
        apply (inductionHypothesis.sublist kept.sublist).imp_of_mem
        intro slot other _ member later
        exact later.snoc ((nextInvariant.mem_vacant other).mp member)
      · rw [← stepped] at vacated
        have still : ∀ other ∈ ((empty config).run calls).vacant,
            ((empty config).run (calls ++ [call])).IsVacant other := by
          intro other member
          apply (nextInvariant.mem_vacant other).mp
          rw [vacated]
          exact List.mem_cons_of_mem slot member
        rw [vacated]
        refine .cons ?_ ?_
        · intro other member
          exact .of_last occupied ((invariant.mem_vacant other).mp member) (still other member)
        · apply inductionHypothesis.imp_of_mem
          intro one other _ member later
          exact later.snoc (still other member)

/-! ### Where a new reference goes -/

/-- The open slot is the one vacated last, or a new one at the end. -/
theorem openSlot_cases (config : StoreConfig) (calls : List Call) :
    let store := (empty config).run calls
    ((∀ slot, ¬ store.IsVacant slot) ∧ store.openSlot = store.slots.size) ∨
      store.IsVacant store.openSlot ∧ ∀ other, store.IsVacant other → other ≠ store.openSlot →
        VacatedLater (empty config) calls store.openSlot other := by
  intro store
  have invariant : store.Invariant := (invariant_empty config).run calls
  have inOrder := vacant_pairwise config calls
  have listed : ∀ slot, slot ∈ store.vacant ↔ store.IsVacant slot := invariant.mem_vacant
  unfold openSlot
  change store.vacant.Pairwise _ at inOrder
  cases vacantEq : store.vacant with
  | nil =>
      refine Or.inl ⟨?_, rfl⟩
      intro slot vacant
      rw [← listed, vacantEq] at vacant
      contradiction
  | cons first rest =>
      right
      refine ⟨(listed first).mp (by simp [vacantEq]), ?_⟩
      intro other vacant different
      rw [← listed, vacantEq] at vacant
      rw [vacantEq] at inOrder
      have behind := (List.mem_cons.mp vacant).resolve_left different
      exact (List.pairwise_cons.mp inOrder).1 other behind

/-- In every store that calls lead to, a reference that is followed through further calls by its name
stays in its slot until one of them removes it, however often it is overwritten and renamed.  Hence a
pass meets two references in the same order for as long as both live.  A new reference goes to the slot
that was vacated after all other vacant ones, or, when no slot is vacant, to a new slot behind all
others. -/
theorem references_keep_their_slots (config : StoreConfig) (calls : List Call) :
    let store := (empty config).run calls
    (∀ later name slot last, store.index[name]? = some slot →
      store.nameAfterCalls? later name = some last →
      (store.run later).index[last]? = some slot ∧
        ∃ target, (store.run later).inSlot? slot = some ⟨last, target⟩) ∧
    (∀ later first second firstLast secondLast,
      store.contains first = true → store.nameAfterCalls? later first = some firstLast →
      store.contains second = true → store.nameAfterCalls? later second = some secondLast →
      (store.Precedes first second ↔ (store.run later).Precedes firstLast secondLast)) ∧
    ∀ reference force expected next, store.write reference force expected = (.ok (), next) →
      store.contains reference.name = false →
      ∃ slot, next.index[reference.name]? = some slot ∧ next.inSlot? slot = some reference ∧
        (((∀ other, ¬ store.IsVacant other) ∧ slot = store.slots.size) ∨
          store.IsVacant slot ∧ ∀ other, store.IsVacant other → other ≠ slot →
            VacatedLater (empty config) calls slot other) := by
  intro store
  have invariant : store.Invariant := (invariant_empty config).run calls
  refine ⟨?stays, ?order, ?placed⟩
  case stays =>
    intro later name slot last indexed followed
    have kept := invariant.index_run_of_nameAfterCalls? indexed followed
    exact ⟨kept, (invariant.run later).occupied kept⟩
  case order =>
    intro later first second firstLast secondLast firstUsed firstFollowed secondUsed secondFollowed
    obtain ⟨firstSlot, firstIndexed⟩ := contains_eq_true_iff.mp firstUsed
    obtain ⟨secondSlot, secondIndexed⟩ := contains_eq_true_iff.mp secondUsed
    have firstKept := invariant.index_run_of_nameAfterCalls? firstIndexed firstFollowed
    have secondKept := invariant.index_run_of_nameAfterCalls? secondIndexed secondFollowed
    rw [invariant.precedes_iff firstIndexed secondIndexed,
      (invariant.run later).precedes_iff firstKept secondKept]
  case placed =>
    intro reference force expected next written free
    cases invariant.write_of_free written free
    refine ⟨store.openSlot, ?_, ?_, openSlot_cases config calls⟩
    · rw [getElem?_index_insertNew, if_pos rfl]
    · rw [inSlot?_eq_some_iff, slots_insertNew invariant, if_pos rfl]

/-- The slot of the reference that a rename displaces is filled before the slot of one that was deleted
earlier. -/
example : ((empty .permissive).run
    [.write ⟨"a", .symbolic "x"⟩ false none, .write ⟨"b", .symbolic "x"⟩ false none,
      .write ⟨"c", .symbolic "x"⟩ false none, .delete "a" none, .rename "c" "b" true,
      .write ⟨"d", .symbolic "x"⟩ false none, .write ⟨"e", .symbolic "x"⟩ false none]).references.map
    (·.name) = ["e", "d", "b"] := by
  decide

end NamedRefs.Store

/-
Module: NamedRefs.Proofs.Database.Listing
Purpose: Listings are sorted and complete, and what a database answers depends on its contents alone,
  not on the calls that led to them.
Main exports: Database.listNames_eq, Database.list_pairwise, Database.resolve_congr,
  Database.AnswersAlike, Database.answersAlike_of_sameTargets,
  Database.answers_depend_on_contents_only
-/
import NamedRefs.Proofs.Database.Resolution
import NamedRefs.Proofs.Sorting
import NamedRefs.Proofs.Store.Traversal

namespace NamedRefs

/-!
Two stores with the same references may hold them in different slots, and so meet them in different
orders.  Sorting removes the difference, because no two references of a store have the same name: a
list of them can be put into strictly ascending order in one way only.  All else that a database
answers goes through `lookup`, which does not see slots at all.
-/

/-! ### Equal contents -/

namespace Store

/-- The references in the slots are the names with their targets. -/
theorem Invariant.mem_references_iff_targetOf {store : Store} (invariant : store.Invariant)
    {reference : Reference} :
    reference ∈ store.references ↔
      store.targetOf reference.name = some reference.target := by
  rw [mem_references_iff, invariant.targetOf_eq_some_iff]

variable {first second : Store}

/-- Of the same references, a pattern selects the same ones, up to the order of the slots. -/
theorem selected_perm (firstInvariant : first.Invariant) (secondInvariant : second.Invariant)
    (sameContents : ∀ reference, reference ∈ first.references ↔ reference ∈ second.references)
    (pattern : Option String) : (first.selected pattern).Perm (second.selected pattern) :=
  (firstInvariant.references_perm secondInvariant sameContents).filter _

/-- The same references give each name the same target. -/
theorem targetOf_eq_of_sameContents (firstInvariant : first.Invariant)
    (secondInvariant : second.Invariant)
    (sameContents : ∀ reference, reference ∈ first.references ↔ reference ∈ second.references)
    (name : String) : first.targetOf name = second.targetOf name := by
  apply Option.ext
  intro target
  rw [firstInvariant.targetOf_eq_some_iff, secondInvariant.targetOf_eq_some_iff,
    ← mem_references_iff, ← mem_references_iff]
  exact sameContents ⟨name, target⟩

end Store

namespace Database

/-! ### Sorted listings -/

/-- Names listed by themselves are the names of the references listed. -/
theorem listNames_eq (database : Database) (pattern : Option String) :
    database.listNames pattern = (database.list pattern).map (·.name) := by
  rw [listNames, list, Store.names_eq, Store.iterate_eq]
  refine (List.map_mergeSort ?_).symm
  intro one _ other _
  rfl

/-- A listing is what the pattern selects, in another order. -/
theorem list_perm (database : Database) (pattern : Option String) :
    (database.list pattern).Perm (database.store.selected pattern) := by
  rw [list, Store.iterate_eq]
  exact List.mergeSort_perm _ _

/-- A listing ascends strictly by name. -/
theorem list_pairwise {database : Database} (invariant : database.store.Invariant)
    (pattern : Option String) : (database.list pattern).Pairwise fun first second =>
      Text.byteOrder first.name second.name = .lt := by
  have ascending : (database.list pattern).Pairwise fun first second =>
      (Text.byteOrder first.name second.name).isLE = true :=
    ascending_mergeSort Reference.name _
  have distinct : (database.list pattern).Pairwise fun first second =>
      first.name ≠ second.name := by
    apply List.pairwise_map.mp
    exact ((database.list_perm pattern).map _).nodup_iff.mpr
      (invariant.nodup_names_selected pattern)
  refine ascending.imp₂ ?_ distinct
  intro one two inOrder different
  rcases Ordering.isLE_iff_eq_lt_or_eq_eq.mp inOrder with below | level
  · exact below
  · exact absurd (Std.LawfulEqCmp.eq_of_compare level) different

/-- References in strictly ascending order are determined by which they are. -/
theorem eq_of_perm_of_ascending {one other : List Reference}
    (oneAscends : one.Pairwise fun first second =>
      Text.byteOrder first.name second.name = .lt)
    (otherAscends : other.Pairwise fun first second =>
      Text.byteOrder first.name second.name = .lt)
    (sameMembers : one.Perm other) : one = other := by
  refine sameMembers.eq_of_pairwise ?_ oneAscends otherAscends
  intro first second _ _ below above
  exact absurd above (Std.OrientedCmp.not_lt_of_lt below)

/-! ### Resolution -/

/-- Resolving a name needs nothing of a database but its lookups. -/
theorem resolve_congr {first second : Database}
    (sameLookups : ∀ name, first.store.lookup name = second.store.lookup name) (name : String) :
    first.resolve name = second.resolve name :=
  resolve_congr_of_visited fun other _ => sameLookups other

/-! ### Answers -/

/-- The slots in which the references were met do not show in a listing. -/
theorem list_congr {first second : Database} (firstInvariant : first.store.Invariant)
    (secondInvariant : second.store.Invariant)
    (sameContents : ∀ reference,
      reference ∈ first.store.references ↔ reference ∈ second.store.references)
    (pattern : Option String) : first.list pattern = second.list pattern := by
  apply eq_of_perm_of_ascending
  · exact list_pairwise firstInvariant pattern
  · exact list_pairwise secondInvariant pattern
  · apply (first.list_perm pattern).trans
    apply List.Perm.trans _ (second.list_perm pattern).symm
    exact Store.selected_perm firstInvariant secondInvariant sameContents pattern

/-- Two databases list, look up and resolve alike. -/
structure AnswersAlike (first second : Database) : Prop where
  list : ∀ pattern, first.list pattern = second.list pattern
  listNames : ∀ pattern, first.listNames pattern = second.listNames pattern
  lookup : ∀ name, first.store.lookup name = second.store.lookup name
  contains : ∀ name, first.store.contains name = second.store.contains name
  resolve : ∀ name, first.resolve name = second.resolve name
  resolveId : ∀ name, first.resolveId name = second.resolveId name

/-- All these answers come from the targets of the names. -/
theorem answersAlike_of_sameTargets {first second : Database}
    (firstInvariant : first.store.Invariant) (secondInvariant : second.store.Invariant)
    (sameTargets : ∀ name, first.store.targetOf name = second.store.targetOf name) :
    AnswersAlike first second := by
  have sameContents : ∀ reference,
      reference ∈ first.store.references ↔ reference ∈ second.store.references := by
    intro reference
    rw [firstInvariant.mem_references_iff_targetOf, secondInvariant.mem_references_iff_targetOf,
      sameTargets]
  have sameList := list_congr firstInvariant secondInvariant sameContents
  have sameLookups : ∀ name, first.store.lookup name = second.store.lookup name := by
    intro name
    rw [firstInvariant.lookup_eq, secondInvariant.lookup_eq, sameTargets]
  have sameEnds := resolve_congr sameLookups
  refine ⟨sameList, ?names, sameLookups, ?used, sameEnds, ?ids⟩
  case names =>
    intro pattern
    rw [listNames_eq, listNames_eq, sameList]
  case used =>
    intro name
    rw [firstInvariant.contains_eq_isSome, secondInvariant.contains_eq_isSome, sameTargets]
  case ids =>
    intro name
    rw [resolveId, resolveId, sameEnds]

/-- Whatever calls led to them, two databases that hold the same references answer alike: in their
listings, in what they say of a single name and in what a name is resolved to.  A listing ascends
strictly by the bytes of the names and has exactly the references that the pattern selects, each one
as looking its name up gives it; the names listed by themselves are the names of these. -/
theorem answers_depend_on_contents_only {first second : Database} (firstReached : first.Reachable)
    (secondReached : second.Reachable)
    (sameContents : ∀ reference,
      reference ∈ first.store.references ↔ reference ∈ second.store.references) :
    (∀ pattern, first.list pattern = second.list pattern ∧
      first.listNames pattern = second.listNames pattern) ∧
    (∀ name, first.store.lookup name = second.store.lookup name ∧
      first.store.contains name = second.store.contains name ∧
      first.resolve name = second.resolve name ∧
      first.resolveId name = second.resolveId name) ∧
    ∀ pattern,
      ((first.list pattern).Pairwise fun one other =>
        Text.byteOrder one.name other.name = .lt) ∧
      (∀ reference, reference ∈ first.list pattern ↔
        first.store.lookup reference.name = .ok reference ∧
          ∀ text, pattern = some text → (Glob.ofPattern text).selects reference.name = true) ∧
      first.listNames pattern = (first.list pattern).map (·.name) := by
  have firstInvariant := firstReached.invariant
  have secondInvariant := secondReached.invariant
  have alike : AnswersAlike first second :=
    answersAlike_of_sameTargets firstInvariant secondInvariant
      (Store.targetOf_eq_of_sameContents firstInvariant secondInvariant sameContents)
  refine ⟨fun pattern => ⟨alike.list pattern, alike.listNames pattern⟩, fun name =>
    ⟨alike.lookup name, alike.contains name, alike.resolve name, alike.resolveId name⟩, ?shape⟩
  case shape =>
    intro pattern
    refine ⟨list_pairwise firstInvariant pattern, ?_, first.listNames_eq pattern⟩
    intro reference
    rw [(first.list_perm pattern).mem_iff, firstInvariant.mem_selected_iff]

/-- Two references in the order of their creation. -/
def straightforward : Database :=
  (empty .permissive).run
    [.create (.symbolic "a" "x"), .create (.symbolic "b" "y")]

/-- The same two references the other way round: the second one took a slot that was used before. -/
def roundabout : Database :=
  (empty {}).run
    [.create (.symbolic "c" "x"), .create (.symbolic "a" "z"), .store (.delete "c" none),
      .create (.symbolic "b" "y"), .store (.write (.symbolic "a" "x") true none)]

/-- The two histories leave different slots behind, and no listing shows it. -/
theorem roundabout_answers_like_straightforward :
    straightforward.store.references ≠ roundabout.store.references ∧
    (∀ reference, reference ∈ straightforward.store.references ↔
      reference ∈ roundabout.store.references) ∧
    (∀ pattern, straightforward.list pattern = roundabout.list pattern) ∧
    ∀ name, straightforward.resolve name = roundabout.resolve name := by
  have one : straightforward.store.references = [.symbolic "a" "x", .symbolic "b" "y"] := by
    decide
  have other : roundabout.store.references = [.symbolic "b" "y", .symbolic "a" "x"] := by
    decide
  have sameContents : ∀ reference, reference ∈ straightforward.store.references ↔
      reference ∈ roundabout.store.references := by
    intro reference
    rw [one, other]
    exact (List.Perm.swap _ _ []).mem_iff
  have answers := answers_depend_on_contents_only ⟨_, _, rfl⟩ ⟨_, _, rfl⟩ sameContents
  refine ⟨by rw [one, other]; decide, sameContents, ?_, ?_⟩
  · intro pattern
    exact (answers.1 pattern).1
  · intro name
    exact (answers.2.1 name).2.2.1

end Database

end NamedRefs

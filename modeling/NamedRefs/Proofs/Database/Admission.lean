/-
Module: NamedRefs.Proofs.Database.Admission
Purpose: Whatever a database answers with has passed the checks of its store.
Main exports: Database.of_resolve, Database.resolve_of_resolveId, Database.admitsContents_run,
  Database.answers_pass_checks
-/
import NamedRefs.Proofs.Database.Listing
import NamedRefs.Proofs.Store.Admission

namespace NamedRefs

/-!
All that is stored has passed the checks, and every answer that shows a reference shows a stored one:
at once, at the end of a chain of symbolic references, or in the place of a cursor.
-/

/-- Whatever a cursor yields stands for a reference that was pending. -/
theorem Cursor.exists_pending_of_yielded {cursor : Cursor} {moves : List Move} {item : Item}
    (yielded : item ∈ (cursor.play moves).1.flatMap (·.items)) :
    ∃ reference ∈ cursor.pending, item.Of reference := by
  have inOrder := cursor.items_play moves
  obtain ⟨position, bound, rfl⟩ := List.getElem_of_mem yielded
  have boundPending := inOrder.length_eq ▸ bound
  refine ⟨_, ?_, inOrder.get bound boundPending⟩
  exact List.mem_of_mem_take (List.getElem_mem boundPending)

namespace Database

section

variable {database : Database}

/-! ### Ends of chains -/

/-- What holds of the first reference and of all that are looked up holds of the last one. -/
theorem of_follow {motive : Reference → Prop} (looked : ∀ name reference,
      database.store.lookup name = .ok reference → motive reference)
    {start : String} {hops : Nat} {current reference : Reference} (holds : motive current)
    (followed : database.follow start hops current = .ok reference) : motive reference := by
  induction hops generalizing current with
  | zero =>
      rcases current with ⟨name, id | next⟩
      · rw [follow_direct] at followed
        cases followed
        exact holds
      · rw [follow_symbolic_zero] at followed
        contradiction
  | succ hops inductionHypothesis =>
      rcases current with ⟨name, id | next⟩
      · rw [follow_direct] at followed
        cases followed
        exact holds
      · rw [follow_symbolic_succ] at followed
        cases found : database.store.lookup next with
        | error error =>
            rw [found] at followed
            contradiction
        | ok nextReference =>
            rw [found] at followed
            exact inductionHypothesis (looked next nextReference found) followed

/-- What holds of everything that a lookup gives holds of everything that is resolved. -/
theorem of_resolve {motive : Reference → Prop} (looked : ∀ name reference,
      database.store.lookup name = .ok reference → motive reference)
    {name : String} {reference : Reference} (resolved : database.resolve name = .ok reference) :
    motive reference := by
  rw [resolve] at resolved
  cases found : database.store.lookup name with
  | error error =>
      rw [found] at resolved
      contradiction
  | ok current =>
      rw [found] at resolved
      exact of_follow looked (looked name current found) resolved

/-- A name that resolves to an object resolves to a direct reference to it. -/
theorem resolve_of_resolveId {name : String} {id : ObjectId}
    (resolved : database.resolveId name = .ok id) :
    ∃ last, database.resolve name = .ok ⟨last, .direct id⟩ := by
  cases found : database.resolve name with
  | error error =>
      rw [resolveId_of_error found] at resolved
      contradiction
  | ok reference =>
      obtain ⟨other, direct⟩ := direct_of_resolve found
      rcases reference with ⟨last, target⟩
      cases direct
      rw [resolveId_of_direct found] at resolved
      cases resolved
      exact ⟨last, rfl⟩

end

/-! ### Runs -/

/-- Calls to a database leave the settings alone. -/
theorem config_run (config : StoreConfig) (calls : List Call) :
    ((empty config).run calls).store.config = config := by
  rw [store_run]
  exact (Store.invariant_empty config).config_run _

/-- Whatever calls do to a database, its references pass the checks. -/
theorem admitsContents_run (config : StoreConfig) (calls : List Call) :
    ((empty config).run calls).store.AdmitsContents := by
  rw [store_run]
  exact (Store.invariant_empty config).admitsContents_run (Store.admitsContents_empty config) _

/-- In every database that calls lead to, every stored reference has an admitted name and an admitted
target: neither is ever empty, no identifier is null, and all names are valid when names are
validated.  So is every reference in an answer, looked up, renamed, yielded by a cursor, listed or
resolved, and every name shown without its target; no name is resolved to a null identifier.  What
a lookup gives can be written back by force, and the store stays as it was in all its parts. -/
theorem answers_pass_checks (config : StoreConfig) (calls : List Call) :
    let database := (empty config).run calls
    let store := database.store
    (store.config = config ∧ ∀ reference ∈ store.references, reference.Admitted config) ∧
    (∀ name reference, store.lookup name = .ok reference →
      reference.Admitted config ∧ store.write reference true none = (.ok (), store)) ∧
    (∀ oldName newName force reference,
      (store.rename oldName newName force).1 = .ok reference → reference.Admitted config) ∧
    (∀ pattern, (∀ reference ∈ store.iterate pattern, reference.Admitted config) ∧
      (∀ name ∈ store.names pattern, config.AdmitsName name) ∧
      ∀ moves, ∀ item ∈ ((store.cursor pattern).play moves).1.flatMap (·.items),
        ∃ reference, item.Of reference ∧ reference.Admitted config) ∧
    (∀ pattern, (∀ reference ∈ database.list pattern, reference.Admitted config) ∧
      ∀ name ∈ database.listNames pattern, config.AdmitsName name) ∧
    (∀ name reference, database.resolve name = .ok reference → reference.Admitted config) ∧
    ∀ name id, database.resolveId name = .ok id → ∀ format, id ≠ ObjectId.null format := by
  intro database store
  have invariant : store.Invariant := invariant_run (Store.invariant_empty config) calls
  have admits : store.AdmitsContents := admitsContents_run config calls
  have sameConfig : store.config = config := config_run config calls
  have looked : ∀ name reference, store.lookup name = .ok reference →
      reference.Admitted config := by
    intro name reference found
    rw [← sameConfig]
    exact invariant.admitted_of_lookup admits found
  have selected : ∀ pattern, ∀ reference ∈ store.selected pattern,
      reference.Admitted config := by
    intro pattern reference member
    exact looked _ _ (invariant.mem_selected_iff.mp member).1
  have resolved : ∀ name reference, database.resolve name = .ok reference →
      reference.Admitted config := fun name reference => of_resolve looked
  refine ⟨⟨sameConfig, ?stored⟩, ?lookups, ?renames, ?cursors, ?listings, resolved, ?ids⟩
  case stored =>
    intro reference member
    exact looked _ _ (invariant.mem_references_iff_lookup.mp member)
  case lookups =>
    intro name reference found
    exact ⟨looked name reference found, invariant.write_back admits found⟩
  case renames =>
    intro oldName newName force reference renamed
    rw [← sameConfig]
    exact invariant.admitted_of_rename admits renamed
  case cursors =>
    intro pattern
    rw [store.iterate_eq, store.names_eq]
    refine ⟨selected pattern, ?_, ?_⟩
    · intro name named
      obtain ⟨reference, member, rfl⟩ := List.mem_map.mp named
      exact (selected pattern reference member).name
    · intro moves item yielded
      obtain ⟨reference, pending, same⟩ := Cursor.exists_pending_of_yielded yielded
      rw [Store.pending_cursor] at pending
      exact ⟨reference, same, selected pattern reference pending⟩
  case listings =>
    intro pattern
    have listed : ∀ reference ∈ database.list pattern, reference.Admitted config := by
      intro reference member
      exact selected pattern reference ((database.list_perm pattern).mem_iff.mp member)
    refine ⟨listed, ?_⟩
    intro name named
    rw [listNames_eq] at named
    obtain ⟨reference, member, rfl⟩ := List.mem_map.mp named
    exact (listed reference member).name
  case ids =>
    intro name id found
    obtain ⟨last, ends⟩ := resolve_of_resolveId found
    exact (resolved name ⟨last, .direct id⟩ ends).target

end Database

end NamedRefs

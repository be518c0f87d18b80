/-
Module: NamedRefs.Proofs.Database.Footprint
Purpose: Resolving a name depends on the names that are looked up for it, on each one of them, and on
  no others.
Main exports: Store.Leads.transfer, Database.mem_visits_iff, Store.Invariant.targetOf_edit,
  Database.resolve_of_gone, Database.resolution_depends_on_visited_names
-/
import NamedRefs.Proofs.Database.Independence

namespace NamedRefs

/-!
The names that are looked up for a name are those at most five hops away on its chain.  Where none of
them is edited, every lookup is answered as before, and so the chain is followed as before.  Where one
of them goes away, by a deletion or by a rename, the chain up to it is still there: the targets of the
other names are left alone, also those that are symbolic and lead to the name that is gone.  So the
chain ends there now.
-/

/-! ### Names on a chain -/

/-- A chain up to a name outlasts every change that keeps the symbolic targets of the other names.  It
only gets shorter, where it had passed the name before. -/
theorem Store.Leads.transfer {first second : Store} {name last : String} {hops : Nat}
    (leads : first.Leads name hops last)
    (kept : ∀ other next, other ≠ last → first.targetOf other = some (.symbolic next) →
      second.targetOf other = some (.symbolic next)) :
    ∃ fewer ≤ hops, second.Leads name fewer last := by
  induction leads with
  | here name => exact ⟨0, Nat.le_refl 0, .here name⟩
  | @hop name next last hops symbolic rest inductionHypothesis =>
      by_cases arrived : name = last
      · subst arrived
        exact ⟨0, Nat.zero_le _, .here name⟩
      · obtain ⟨fewer, within, leads⟩ := inductionHypothesis kept
        have first := kept name next arrived symbolic
        exact ⟨fewer + 1, Nat.succ_le_succ within, .hop first leads⟩

namespace Database

variable {database : Database}

/-- A walk visits the name it starts from, and then what the walk from its target visits. -/
theorem mem_visits_succ_iff (invariant : database.store.Invariant) {limit : Nat}
    {name other : String} :
    other ∈ database.visits (limit + 1) name ↔ other = name ∨
      ∃ next, database.store.targetOf name = some (.symbolic next) ∧
        other ∈ database.visits limit next := by
  rw [visits, invariant.lookup_eq]
  rcases database.store.targetOf name with _ | id | next <;> simp

/-- The names that are looked up are those that are near enough. -/
theorem mem_visits_iff (invariant : database.store.Invariant) {limit : Nat}
    {name other : String} :
    other ∈ database.visits limit name ↔
      ∃ hops ≤ limit, database.store.Leads name hops other := by
  induction limit generalizing name with
  | zero =>
      constructor
      · intro member
        cases List.mem_singleton.mp member
        exact ⟨0, Nat.le_refl 0, .here other⟩
      · rintro ⟨hops, inTime, leads⟩
        cases leads with
        | here => exact database.mem_visits_self 0 other
        | hop symbolic rest => contradiction
  | succ limit inductionHypothesis =>
      constructor
      · intro member
        rcases (mem_visits_succ_iff invariant).mp member with rfl | ⟨next, symbolic, later⟩
        · exact ⟨0, Nat.zero_le _, .here other⟩
        · obtain ⟨hops, inTime, leads⟩ := inductionHypothesis.mp later
          exact ⟨hops + 1, Nat.succ_le_succ inTime, .hop symbolic leads⟩
      · rintro ⟨hops, inTime, leads⟩
        apply (mem_visits_succ_iff invariant).mpr
        cases leads with
        | here => exact Or.inl rfl
        | @hop _ next _ hops symbolic rest =>
            have later := inductionHypothesis.mpr ⟨hops, Nat.le_of_succ_le_succ inTime, rest⟩
            exact Or.inr ⟨next, symbolic, later⟩

end Database

/-! ### Names that are edited -/

namespace Store.Invariant

variable {store next : Store}

/-- An edit leaves the other names as they are. -/
theorem targetOf_edit (invariant : store.Invariant) {edit : Edit} {name : String}
    (elsewhere : name ∉ edit.names) :
    (store.perform edit.call).2.targetOf name = store.targetOf name := by
  have apart : [name].Disjoint edit.names := by simpa using elsewhere
  have unchanged := (store.catalog.edit_frame apart).targets name List.mem_cons_self
  rwa [← invariant.catalog_edit, getElem?_targets_catalog, getElem?_targets_catalog] at unchanged

/-- An edit does not show in the lookup of a name that it does not mention. -/
theorem lookup_edit (invariant : store.Invariant) {edit : Edit} {name : String}
    (elsewhere : name ∉ edit.names) :
    (store.perform edit.call).2.lookup name = store.lookup name := by
  rw [(invariant.perform edit.call).lookup_eq, invariant.lookup_eq,
    invariant.targetOf_edit elsewhere]

/-- A name that has been deleted has no target. -/
theorem targetOf_of_deleted (invariant : store.Invariant) {gone : String}
    {expected : Option Target} (change : Change store (.delete gone expected) next) :
    next.targetOf gone = none := by
  cases change with
  | removed held current => exact (invariant.targetOf_unlink held gone).trans (if_pos rfl)
  | asked readsOnly => cases readsOnly

/-- A name that has been given up for another one has no target. -/
theorem targetOf_of_renamed (invariant : store.Invariant) {gone newName : String} {force : Bool}
    (change : Change store (.rename gone newName force) next) (different : gone ≠ newName) :
    next.targetOf gone = none := by
  cases change with
  | moved checked free _ held =>
      rw [invariant.targetOf_relabel held different, if_neg different.symm, if_pos rfl]
  | stayed checked used => exact absurd rfl different
  | asked readsOnly => cases readsOnly

end Store.Invariant

namespace Database

variable {database next : Database}

/-- A call changes a database as the call to its store changes the store. -/
theorem store_perform {call : Call} {onStore : Store.Call} (passedOn : call.onStore? = some onStore)
    (database : Database) :
    (database.perform call).2.store = (database.store.perform onStore).2 := by
  cases call <;> cases passedOn <;> rfl

/-- A call that has succeeded has succeeded for the store. -/
theorem perform_store_of_ok {call : Store.Call} {answer : Answer}
    (performed : database.perform (.store call) = (.ok answer, next)) :
    database.store.perform call = (.ok answer, next.store) := by
  have answered : (database.store.perform call).1 = .ok answer := congrArg Prod.fst performed
  have moved : (database.store.perform call).2 = next.store :=
    congrArg (fun outcome => outcome.2.store) performed
  exact Prod.ext answered moved

/-- Where an edit makes away with a name that was looked up, and gives no other name that was in use,
the chain ends at the name. -/
theorem resolve_of_gone (invariant : database.store.Invariant) (edit : Edit) {answer : Answer}
    (performed : database.perform (.store edit.call) = (.ok answer, next)) {name gone : String}
    (member : gone ∈ database.visited name) (missing : next.store.targetOf gone = none)
    (free : ∀ other ∈ edit.names, other ≠ gone → database.store.targetOf other = none) :
    next.resolve name = .error (.notFound gone) ∧
      next.resolveId name = .error (.notFound gone) := by
  have moved : (database.store.perform edit.call).2 = next.store :=
    congrArg Prod.snd (perform_store_of_ok performed)
  have nextInvariant : next.store.Invariant := moved ▸ invariant.perform edit.call
  have kept : ∀ other symbolic, other ≠ gone →
      database.store.targetOf other = some (.symbolic symbolic) →
      next.store.targetOf other = some (.symbolic symbolic) := by
    intro other symbolic different known
    have elsewhere : other ∉ edit.names := by
      intro own
      rw [free other own different] at known
      contradiction
    rw [← moved, invariant.targetOf_edit elsewhere, known]
  obtain ⟨hops, inTime, leads⟩ := (mem_visits_iff invariant).mp member
  obtain ⟨fewer, within, stillLeads⟩ := leads.transfer kept
  have failed := resolve_of_missing nextInvariant stillLeads missing (Nat.le_trans within inTime)
  exact ⟨failed, resolveId_of_error failed⟩

/-- In every database that calls lead to, a name is resolved by the names that are looked up for it,
which are those at most five hops away.  A call that edits none of them, whether it succeeds or
fails, leaves what the name is resolved to as it was.  As soon as one of them is deleted, or renamed
to another name that was free, it is reported as not found: symbolic references to it are never
rewritten, for an edit changes no reference but those of its own names. -/
theorem resolution_depends_on_visited_names (config : StoreConfig) (calls : List Call)
    (name : String) :
    let database := (empty config).run calls
    (∀ other, other ∈ database.visited name ↔
      ∃ hops ≤ 5, database.store.Leads name hops other) ∧
    (∀ call edit, call.onStore? = some (Edit.call edit) →
      let next := (database.perform call).2
      (∀ other, other ∉ edit.names → next.store.lookup other = database.store.lookup other) ∧
      (edit.names.Disjoint (database.visited name) →
        next.resolve name = database.resolve name ∧
          next.resolveId name = database.resolveId name)) ∧
    (∀ gone expected answer next, gone ∈ database.visited name →
      database.perform (.store (.delete gone expected)) = (.ok answer, next) →
      next.resolve name = .error (.notFound gone) ∧
        next.resolveId name = .error (.notFound gone)) ∧
    (∀ gone newName force answer next, gone ∈ database.visited name →
      gone ≠ newName → database.store.contains newName = false →
      database.perform (.store (.rename gone newName force)) = (.ok answer, next) →
      next.resolve name = .error (.notFound gone) ∧
        next.resolveId name = .error (.notFound gone)) := by
  intro database
  have invariant : database.store.Invariant := invariant_run (Store.invariant_empty config) calls
  refine ⟨fun other => mem_visits_iff invariant, ?edited, ?deleted, ?renamed⟩
  case edited =>
    intro call edit passedOn next
    have others : ∀ other, other ∉ edit.names →
        next.store.lookup other = database.store.lookup other := by
      intro other elsewhere
      rw [store_perform passedOn]
      exact invariant.lookup_edit elsewhere
    refine ⟨others, fun apart => ?_⟩
    have sameEnd : next.resolve name = database.resolve name := by
      symm
      apply resolve_congr_of_visited
      intro other member
      exact (others other fun own => apart own member).symm
    exact ⟨sameEnd, by rw [resolveId, resolveId, sameEnd]⟩
  case deleted =>
    intro gone expected answer next member performed
    have change := invariant.change_of_ok (perform_store_of_ok performed)
    have missing := invariant.targetOf_of_deleted change
    apply resolve_of_gone invariant (.delete gone expected) performed member missing
    intro other own different
    exact absurd (List.mem_singleton.mp own) different
  case renamed =>
    intro gone newName force answer next member different free performed
    have change := invariant.change_of_ok (perform_store_of_ok performed)
    have missing := invariant.targetOf_of_renamed change different
    apply resolve_of_gone invariant (.rename gone newName force) performed member missing
    intro other own otherName
    rcases List.mem_pair.mp own with rfl | rfl
    · exact absurd rfl otherName
    · rw [invariant.contains_eq_isSome] at free
      simpa using free

/-- When the branch under HEAD is renamed, HEAD goes on standing for the old name. -/
example :
    let before := (empty {}).run
      [.create (.direct "refs/heads/main" (.filled .sha1 170)), .setHead "refs/heads/main"]
    let after := before.run [.store (.rename "refs/heads/main" "refs/heads/trunk" false)]
    before.visited "HEAD" = ["HEAD", "refs/heads/main"] ∧
    after.resolve "HEAD" = .error (.notFound "refs/heads/main") ∧
    after.resolveId "refs/heads/trunk" = .ok (.filled .sha1 170) := by
  decide

end Database

end NamedRefs

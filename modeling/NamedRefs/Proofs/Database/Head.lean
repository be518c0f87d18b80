/-
Module: NamedRefs.Proofs.Database.Head
Purpose: What HEAD is resolved to after it has been made to stand for another name.
Main exports: Store.Leads.congr, Database.targetOf_setHead, Database.setHead_of_error,
  Database.resolve_head_of_onChain, Database.resolve_head_of_ends, Database.resolve_head_of_goesOn,
  Database.head_leads_one_hop_further
-/
import NamedRefs.Proofs.Database.Footprint

namespace NamedRefs

/-!
Once HEAD stands for a name, its chain is the chain of that name with one hop in front.  As long as
HEAD is not on the chain itself, the chain is as it was, and one hop less is left for it: the name may
be resolved where HEAD no longer is.  Where the chain had come to HEAD, no matter what HEAD stood for,
it now comes back there for ever.
-/

/-- A chain is kept by every change that keeps the targets of the names on it. -/
theorem Store.Leads.congr {first second : Store} {name last : String} {hops : Nat}
    (leads : first.Leads name hops last)
    (same : ∀ passed other, first.Leads name passed other →
      second.targetOf other = first.targetOf other) :
    second.Leads name hops last := by
  induction leads with
  | here name => exact .here name
  | @hop name next last hops symbolic rest inductionHypothesis =>
      have kept : second.targetOf name = some (.symbolic next) :=
        (same 0 name (.here name)).trans symbolic
      exact .hop kept (inductionHypothesis fun passed other leads =>
        same (passed + 1) other (.hop symbolic leads))

namespace Database

section

variable {database next : Database} {target last : String} {hops : Nat}

/-! ### Setting HEAD -/

/-- Pointing HEAD at a name is a forced write without an expected target. -/
theorem write_of_setHead {result : Except RefError Unit}
    (pointed : database.setHead target = (result, next)) :
    database.store.write (.symbolic headName target) true none = (result, next.store) := by
  have answered : (database.store.write (.symbolic headName target) true none).1 = result :=
    congrArg Prod.fst pointed
  have moved : (database.store.write (.symbolic headName target) true none).2 = next.store :=
    congrArg (fun outcome => outcome.2.store) pointed
  exact Prod.ext answered moved

/-- Where HEAD could not be set, nothing has changed. -/
theorem setHead_of_error (invariant : database.store.Invariant) {error : RefError}
    (failed : database.setHead target = (.error error, next)) : next = database := by
  have written := write_of_setHead failed
  rcases Store.write_cases invariant (.symbolic headName target) true none with
    ⟨other, unchanged, _⟩ | ⟨other, succeeded, _⟩
  · have sameStore : next.store = database.store :=
      congrArg Prod.snd (written.symm.trans unchanged)
    exact congrArg Database.mk sameStore
  · cases succeeded.symm.trans written

/-- Once HEAD has been set, it stands for the given name, and the other names are left alone. -/
theorem targetOf_setHead (invariant : database.store.Invariant)
    (pointed : database.setHead target = (.ok (), next)) (name : String) :
    next.store.targetOf name =
      if headName = name then some (.symbolic target) else database.store.targetOf name :=
  invariant.targetOf_write (write_of_setHead pointed) name

/-- HEAD stands for the name that it has been pointed at. -/
theorem targetOf_head (invariant : database.store.Invariant)
    (pointed : database.setHead target = (.ok (), next)) :
    next.store.targetOf headName = some (.symbolic target) := by
  rw [targetOf_setHead invariant pointed, if_pos rfl]

/-- Pointing HEAD elsewhere does not change any other name. -/
theorem targetOf_setHead_of_ne (invariant : database.store.Invariant)
    (pointed : database.setHead target = (.ok (), next)) {name : String}
    (different : name ≠ headName) :
    next.store.targetOf name = database.store.targetOf name := by
  rw [targetOf_setHead invariant pointed, if_neg different.symm]

/-- The store stays consistent when HEAD is pointed at a name. -/
theorem invariant_setHead (invariant : database.store.Invariant)
    (pointed : database.setHead target = (.ok (), next)) : next.store.Invariant := by
  have moved : (database.perform (.setHead target)).2 = next := congrArg Prod.snd pointed
  rw [← moved]
  exact invariant_run invariant [.setHead target]

/-! ### The chain of HEAD -/

/-- A chain that HEAD is on leads back to HEAD, once HEAD stands for its start. -/
theorem resolve_head_of_onChain (invariant : database.store.Invariant)
    (pointed : database.setHead target = (.ok (), next))
    (onChain : database.store.Leads target hops headName) :
    next.resolve headName = .error (.symbolicLoop headName) := by
  obtain ⟨fewer, _, leadsBack⟩ : ∃ fewer ≤ hops, next.store.Leads target fewer headName := by
    apply onChain.transfer
    intro other further different symbolic
    rw [targetOf_setHead_of_ne invariant pointed different, symbolic]
  have cycle : next.store.Leads headName (fewer + 1) headName :=
    .hop (targetOf_head invariant pointed) leadsBack
  obtain ⟨middle, further, leads, symbolic⟩ := cycle.symbolic_of_cycle maxHops
  exact resolve_of_deep (invariant_setHead invariant pointed) leads symbolic

/-- Where HEAD is not on the chain of a name, its own chain is that chain with one more hop. -/
theorem leads_head (invariant : database.store.Invariant)
    (pointed : database.setHead target = (.ok (), next))
    (offChain : ∀ passed, ¬ database.store.Leads target passed headName)
    (leads : database.store.Leads target hops last) :
    next.store.Leads headName (hops + 1) last ∧
      next.store.targetOf last = database.store.targetOf last := by
  have kept : ∀ passed other, database.store.Leads target passed other →
      next.store.targetOf other = database.store.targetOf other := by
    intro passed other leads
    apply targetOf_setHead_of_ne invariant pointed
    rintro rfl
    exact offChain passed leads
  exact ⟨.hop (targetOf_head invariant pointed) (leads.congr kept), kept hops last leads⟩

/-- A chain that leaves a hop to spare is followed from HEAD to its end. -/
theorem resolve_head_of_ends (invariant : database.store.Invariant)
    (pointed : database.setHead target = (.ok (), next))
    (offChain : ∀ passed, ¬ database.store.Leads target passed headName)
    (leads : database.store.Leads target hops last)
    (ends : ∀ further, database.store.targetOf last ≠ some (.symbolic further))
    (inTime : hops < maxHops) : next.resolve headName = database.store.lookup last := by
  have nextInvariant := invariant_setHead invariant pointed
  obtain ⟨leadsFromHead, sameTarget⟩ := leads_head invariant pointed offChain leads
  rw [← sameTarget] at ends
  rw [resolve_of_ends nextInvariant leadsFromHead ends inTime, nextInvariant.lookup_eq,
    invariant.lookup_eq, sameTarget]

/-- A chain that goes on where its last hop is the last one at all is too long from HEAD. -/
theorem resolve_head_of_goesOn (invariant : database.store.Invariant)
    (pointed : database.setHead target = (.ok (), next))
    (offChain : ∀ passed, ¬ database.store.Leads target passed headName) {further : String}
    (leads : database.store.Leads target hops last) (atLimit : hops + 1 = maxHops)
    (goesOn : database.store.targetOf last = some (.symbolic further)) :
    next.resolve headName = .error (.symbolicLoop headName) := by
  obtain ⟨leadsFromHead, sameTarget⟩ := leads_head invariant pointed offChain leads
  rw [atLimit] at leadsFromHead
  exact resolve_of_deep (invariant_setHead invariant pointed) leadsFromHead (sameTarget.trans goesOn)

end

/-- In every database that calls lead to, let HEAD be set to a name with success.  If HEAD is that
name or on the chain of that name, be it on the way or at the end, HEAD is a loop afterwards.
Otherwise HEAD is resolved to the end of that chain, as the name was before, if the chain ends at
most four hops away, and reported as a loop if it goes on from there, even if it ends with the next
hop and the name itself is still resolved.  A failure to set HEAD changes nothing. -/
theorem head_leads_one_hop_further (config : StoreConfig) (calls : List Call) (target : String) :
    let database := (empty config).run calls
    let store := database.store
    (∀ next, database.setHead target = (.ok (), next) →
      ((∃ hops, store.Leads target hops headName) →
        next.resolve headName = .error (.symbolicLoop headName)) ∧
      ((∀ hops, ¬ store.Leads target hops headName) →
        (∀ hops last, store.Leads target hops last →
          (∀ further, store.targetOf last ≠ some (.symbolic further)) → hops ≤ 4 →
          next.resolve headName = database.resolve target ∧
            database.resolve target = store.lookup last) ∧
        ((∀ hops last, store.Leads target hops last → hops ≤ 4 →
            ∃ further, store.targetOf last = some (.symbolic further)) →
          next.resolve headName = .error (.symbolicLoop headName)) ∧
        ∀ last id, store.Leads target 5 last → store.targetOf last = some (.direct id) →
          database.resolve target = .ok ⟨last, .direct id⟩ ∧
            next.resolve headName = .error (.symbolicLoop headName))) ∧
    ∀ error next, database.setHead target = (.error error, next) →
      ∀ name, next.store.targetOf name = store.targetOf name := by
  intro database store
  have invariant : store.Invariant := invariant_run (Store.invariant_empty config) calls
  refine ⟨fun next pointed => ⟨?onChain, fun offChain => ⟨?ends, ?goesOn, ?lastHop⟩⟩, ?failed⟩
  case onChain =>
    rintro ⟨hops, onChain⟩
    exact resolve_head_of_onChain invariant pointed onChain
  case ends =>
    intro hops last leads ends inTime
    have resolved : database.resolve target = store.lookup last :=
      resolve_of_ends invariant leads ends (Nat.le_succ_of_le inTime)
    have resolvedHead :=
      resolve_head_of_ends invariant pointed offChain leads ends (Nat.lt_succ_of_le inTime)
    exact ⟨resolvedHead.trans resolved.symm, resolved⟩
  case goesOn =>
    intro goesOn
    obtain ⟨middle, further, leads, symbolic⟩ :=
      Store.Leads.symbolic_of_goesOn fun hops inTime last leads => goesOn hops last leads inTime
    exact resolve_head_of_goesOn invariant pointed offChain leads rfl symbolic
  case lastHop =>
    intro last id leads direct
    have ends : ∀ further, store.targetOf last ≠ some (.symbolic further) := by simp [direct]
    have resolved : database.resolve target = store.lookup last :=
      resolve_of_ends invariant leads ends (Nat.le_refl 5)
    rw [invariant.lookup_eq, direct] at resolved
    obtain ⟨middle, further, leadsThere, symbolic⟩ := leads.symbolic_before (Nat.lt_succ_self 4)
    exact ⟨resolved, resolve_head_of_goesOn invariant pointed offChain leadsThere rfl symbolic⟩
  case failed =>
    intro error next failed name
    rw [setHead_of_error invariant failed]

/-- A chain may also come to HEAD as to its end, where HEAD stood for an object.  Setting HEAD takes
that end away: before, the name was resolved to HEAD within one hop, and now both are a loop. -/
theorem object_of_head_is_lost :
    let id := ObjectId.filled .sha1 170
    let database := (empty {}).run
      [.create (.direct "HEAD" id), .create (.symbolic "refs/heads/main" "HEAD")]
    let outcome := database.setHead "refs/heads/main"
    outcome.1 = .ok () ∧
      (¬ ∃ hops, database.store.Leads "refs/heads/main" hops headName ∧
        (database.store.targetOf headName = none ∨
          ∃ further, database.store.targetOf headName = some (.symbolic further))) ∧
      database.store.Leads "refs/heads/main" 1 "HEAD" ∧
      database.store.targetOf "HEAD" = some (.direct id) ∧
      database.resolve "refs/heads/main" = .ok ⟨"HEAD", .direct id⟩ ∧
      outcome.2.resolve headName ≠ database.resolve "refs/heads/main" ∧
      outcome.2.resolve headName = .error (.symbolicLoop headName) := by
  intro id database outcome
  have stands : database.store.targetOf headName = some (.direct id) := by decide
  refine ⟨by decide, ?_, .hop (by decide) (.here "HEAD"), stands, by decide, by decide, by decide⟩
  rintro ⟨hops, _, missing | ⟨further, symbolic⟩⟩
  · cases stands.symm.trans missing
  · cases stands.symm.trans symbolic

end Database

end NamedRefs

/-
Module: NamedRefs.Proofs.Database.Resolution
Purpose: Where a name leads when symbolic references are followed, and what resolving it answers.
Main exports: Store.Leads, Database.store_run, Database.Reachable.invariant, Database.resolve_of_ends,
  Database.resolve_of_deep, Database.visited, Database.resolve_congr_of_visited,
  Database.resolve_follows_chain
-/
import NamedRefs.Database
import NamedRefs.Proofs.Store.Contents

namespace NamedRefs

/-!
`Store.Leads` follows symbolic targets without any limit, as far as they go.  A name leads to at most
one name in a given number of hops, and only symbolic references are left behind on the way; so the
chain of a name ends, if it ends at all, at the first name that is missing or direct.  Resolution
examines the first six names of the chain: it stops at an end among them, and gives up otherwise.
-/

/-- From one name, following so many symbolic references, one arrives at another. -/
inductive Store.Leads (store : Store) : String → Nat → String → Prop where
  | here (name : String) : Leads store name 0 name
  | hop {name next last : String} {hops : Nat}
      (symbolic : store.targetOf name = some (.symbolic next))
      (rest : Leads store next hops last) : Leads store name (hops + 1) last

namespace Store.Leads

variable {store : Store}

/-- One more hop at the end. -/
theorem snoc {name last next : String} {hops : Nat} (leads : store.Leads name hops last)
    (symbolic : store.targetOf last = some (.symbolic next)) :
    store.Leads name (hops + 1) next := by
  induction leads with
  | here name => exact .hop symbolic (.here next)
  | hop first rest inductionHypothesis => exact .hop first (inductionHypothesis symbolic)

/-- Every name passed on the way is symbolic. -/
theorem symbolic_before {name last : String} {hops : Nat} (leads : store.Leads name hops last)
    {earlier : Nat} (before : earlier < hops) :
    ∃ middle next, store.Leads name earlier middle ∧
      store.targetOf middle = some (.symbolic next) := by
  induction leads generalizing earlier with
  | here name => contradiction
  | hop symbolic rest inductionHypothesis =>
      cases earlier with
      | zero => exact ⟨_, _, .here _, symbolic⟩
      | succ earlier =>
          obtain ⟨middle, next, leads, passed⟩ :=
            inductionHypothesis (Nat.lt_of_succ_lt_succ before)
          exact ⟨middle, next, .hop symbolic leads, passed⟩

/-- A chain that has not ended yet has a symbolic reference at this distance. -/
theorem symbolic_of_goesOn {name : String} {hops : Nat}
    (goesOn : ∀ fewer ≤ hops, ∀ last, store.Leads name fewer last →
      ∃ next, store.targetOf last = some (.symbolic next)) :
    ∃ middle next, store.Leads name hops middle ∧
      store.targetOf middle = some (.symbolic next) := by
  induction hops with
  | zero =>
      obtain ⟨next, symbolic⟩ := goesOn 0 (Nat.le_refl 0) name (.here name)
      exact ⟨name, next, .here name, symbolic⟩
  | succ hops inductionHypothesis =>
      obtain ⟨middle, next, leads, symbolic⟩ :=
        inductionHypothesis fun fewer within => goesOn fewer (Nat.le_succ_of_le within)
      have further := leads.snoc symbolic
      obtain ⟨afterwards, alsoSymbolic⟩ := goesOn (hops + 1) (Nat.le_refl _) next further
      exact ⟨next, afterwards, further, alsoSymbolic⟩

/-- A chain without an end has a symbolic reference at every distance. -/
theorem symbolic_of_endless {name : String}
    (endless : ∀ hops last, store.Leads name hops last →
      ∃ next, store.targetOf last = some (.symbolic next)) (hops : Nat) :
    ∃ middle next, store.Leads name hops middle ∧
      store.targetOf middle = some (.symbolic next) :=
  symbolic_of_goesOn fun fewer _ => endless fewer

/-- A chain goes on where another one has led to. -/
theorem trans {name middle last : String} {hops more : Nat}
    (leads : store.Leads name hops middle) (onward : store.Leads middle more last) :
    store.Leads name (hops + more) last := by
  induction leads with
  | here name => rwa [Nat.zero_add]
  | hop symbolic rest inductionHypothesis =>
      rw [Nat.add_right_comm]
      exact .hop symbolic (inductionHypothesis onward)

/-- A chain that comes back to its start goes round for ever. -/
theorem symbolic_of_cycle {name : String} {hops : Nat} (cycle : store.Leads name (hops + 1) name)
    (distance : Nat) :
    ∃ middle next, store.Leads name distance middle ∧
      store.targetOf middle = some (.symbolic next) := by
  have goesRound : ∃ far, distance < far ∧ store.Leads name far name := by
    induction distance with
    | zero => exact ⟨hops + 1, Nat.succ_pos hops, cycle⟩
    | succ distance inductionHypothesis =>
        obtain ⟨far, beyond, leads⟩ := inductionHypothesis
        exact ⟨far + (hops + 1), by omega, leads.trans cycle⟩
  obtain ⟨far, beyond, leads⟩ := goesRound
  exact leads.symbolic_before beyond

/-- A name that is missing leads nowhere else. -/
theorem eq_of_missing {name last : String} {hops : Nat} (leads : store.Leads name hops last)
    (missing : store.targetOf name = none) : last = name := by
  cases leads with
  | here => rfl
  | hop symbolic rest =>
      rw [missing] at symbolic
      contradiction

end Store.Leads

namespace Database

/-! ### Runs of a database -/

/-- The call to the store, if any, by which a call of the database can change it. -/
def Call.onStore? : Call → Option Store.Call
  | .store call => some call
  | .create reference => some (.write reference false none)
  | .setHead target => some (.write (.symbolic headName target) true none)
  | .list _ | .listNames _ | .resolve _ | .resolveId _ | .describe => none

/-- A run of a database is a run of its store. -/
theorem store_run (database : Database) (calls : List Call) :
    (database.run calls).store = database.store.run (calls.filterMap Call.onStore?) := by
  induction calls generalizing database with
  | nil => rfl
  | cons call calls inductionHypothesis =>
      change ((database.perform call).2.run calls).store = _
      rw [inductionHypothesis]
      cases call <;> rfl

/-- Calls to a database keep its store consistent. -/
theorem invariant_run {database : Database} (invariant : database.store.Invariant)
    (calls : List Call) : (database.run calls).store.Invariant := by
  rw [store_run]
  exact invariant.run _

/-- A database that calls lead to has a consistent store. -/
theorem Reachable.invariant {database : Database} (reached : database.Reachable) :
    database.store.Invariant := by
  rcases reached with ⟨config, calls, rfl⟩
  exact invariant_run (Store.invariant_empty config) calls

/-! ### Following a chain -/

section

variable {database : Database}

/-- A direct reference is the end of every chain. -/
theorem follow_direct (start : String) (limit : Nat) (name : String) (id : ObjectId) :
    database.follow start limit ⟨name, .direct id⟩ = .ok ⟨name, .direct id⟩ := by
  cases limit <;> rfl

/-- A chain that goes on when no more hops are allowed is taken for a loop. -/
theorem follow_symbolic_zero (start name next : String) :
    database.follow start 0 ⟨name, .symbolic next⟩ = .error (.symbolicLoop start) := rfl

/-- While hops are left, a symbolic reference is followed to its target. -/
theorem follow_symbolic_succ (start : String) (limit : Nat) (name next : String) :
    database.follow start (limit + 1) ⟨name, .symbolic next⟩ =
      match database.store.lookup next with
      | .error error => .error error
      | .ok reference => database.follow start limit reference := rfl

/-- A chain that ends in time is followed to its end, missing or not. -/
theorem follow_of_ends (invariant : database.store.Invariant) {name last : String} {hops : Nat}
    (leads : database.store.Leads name hops last)
    (ends : ∀ next, database.store.targetOf last ≠ some (.symbolic next)) {target : Target}
    (known : database.store.targetOf name = some target) (start : String) {limit : Nat}
    (inTime : hops ≤ limit) :
    database.follow start limit ⟨name, target⟩ = database.store.lookup last := by
  induction leads generalizing target limit with
  | here name =>
      rw [invariant.lookup_eq, known]
      cases target with
      | direct id => exact follow_direct start limit name id
      | symbolic next => exact absurd known (ends next)
  | @hop name next last hops symbolic rest inductionHypothesis =>
      rw [symbolic] at known
      cases known
      obtain ⟨limit, rfl⟩ : ∃ fewer, limit = fewer + 1 := ⟨limit - 1, by omega⟩
      rw [follow_symbolic_succ, invariant.lookup_eq next]
      cases nextKnown : database.store.targetOf next with
      | none =>
          rw [rest.eq_of_missing nextKnown, invariant.lookup_eq, nextKnown]
      | some nextTarget =>
          exact inductionHypothesis ends nextKnown (Nat.le_of_succ_le_succ inTime)

/-- Where the limit is used up at a symbolic reference, the start is named. -/
theorem follow_of_deep (invariant : database.store.Invariant) {name middle next : String}
    {limit : Nat} (leads : database.store.Leads name limit middle)
    (symbolic : database.store.targetOf middle = some (.symbolic next)) {target : Target}
    (known : database.store.targetOf name = some target) (start : String) :
    database.follow start limit ⟨name, target⟩ = .error (.symbolicLoop start) := by
  induction leads generalizing target with
  | here name =>
      rw [symbolic] at known
      cases known
      exact follow_symbolic_zero start name next
  | @hop name second middle hops first rest inductionHypothesis =>
      rw [first] at known
      cases known
      rw [follow_symbolic_succ, invariant.lookup_eq second]
      cases secondKnown : database.store.targetOf second with
      | none =>
          rw [rest.eq_of_missing secondKnown, secondKnown] at symbolic
          contradiction
      | some secondTarget => exact inductionHypothesis symbolic secondKnown

/-- Nothing but a direct reference is ever arrived at, however long the chain. -/
theorem direct_of_follow {start : String} {limit : Nat} {current reference : Reference}
    (followed : database.follow start limit current = .ok reference) :
    ∃ id, reference.target = .direct id := by
  induction limit generalizing current with
  | zero =>
      rcases current with ⟨name, id | next⟩
      · rw [follow_direct] at followed
        cases followed
        exact ⟨id, rfl⟩
      · rw [follow_symbolic_zero] at followed
        contradiction
  | succ limit inductionHypothesis =>
      rcases current with ⟨name, id | next⟩
      · rw [follow_direct] at followed
        cases followed
        exact ⟨id, rfl⟩
      · rw [follow_symbolic_succ] at followed
        cases looked : database.store.lookup next with
        | error error =>
            rw [looked] at followed
            contradiction
        | ok found =>
            rw [looked] at followed
            exact inductionHypothesis followed

/-! ### Resolving a name -/

/-- What a name resolves to is a direct reference. -/
theorem direct_of_resolve {name : String} {reference : Reference}
    (resolved : database.resolve name = .ok reference) : ∃ id, reference.target = .direct id := by
  unfold resolve at resolved
  split at resolved
  · contradiction
  · exact direct_of_follow resolved

/-- A name whose chain ends in time resolves to what a lookup of the last name gives. -/
theorem resolve_of_ends (invariant : database.store.Invariant) {name last : String} {hops : Nat}
    (leads : database.store.Leads name hops last)
    (ends : ∀ next, database.store.targetOf last ≠ some (.symbolic next))
    (inTime : hops ≤ maxHops) : database.resolve name = database.store.lookup last := by
  rw [resolve, invariant.lookup_eq name]
  cases known : database.store.targetOf name with
  | none => rw [leads.eq_of_missing known, invariant.lookup_eq, known]
  | some target => exact follow_of_ends invariant leads ends known name inTime

/-- A name whose chain goes on behind the last hop allowed resolves to nothing. -/
theorem resolve_of_deep (invariant : database.store.Invariant) {name middle next : String}
    (leads : database.store.Leads name maxHops middle)
    (symbolic : database.store.targetOf middle = some (.symbolic next)) :
    database.resolve name = .error (.symbolicLoop name) := by
  rw [resolve, invariant.lookup_eq name]
  cases known : database.store.targetOf name with
  | none =>
      rw [leads.eq_of_missing known, known] at symbolic
      contradiction
  | some target => exact follow_of_deep invariant leads symbolic known name

/-- A name that ends its chain in time because it is missing is named. -/
theorem resolve_of_missing (invariant : database.store.Invariant) {name gone : String} {hops : Nat}
    (leads : database.store.Leads name hops gone) (missing : database.store.targetOf gone = none)
    (inTime : hops ≤ maxHops) : database.resolve name = .error (.notFound gone) := by
  have ends : ∀ next, database.store.targetOf gone ≠ some (.symbolic next) := by simp [missing]
  apply (resolve_of_ends invariant leads ends inTime).trans
  rw [invariant.lookup_eq, missing]

/-- If a name does not resolve, there is no object either, for the same reason. -/
theorem resolveId_of_error {name : String} {error : RefError}
    (failed : database.resolve name = .error error) : database.resolveId name = .error error := by
  rw [resolveId, failed]

/-- The object of a name is the one that its direct reference stands for. -/
theorem resolveId_of_direct {name last : String} {id : ObjectId}
    (resolved : database.resolve name = .ok ⟨last, .direct id⟩) :
    database.resolveId name = .ok id := by
  rw [resolveId, resolved]
  rfl

end

/-! ### The names that are looked up -/

/-- Look a name up and follow what it stands for.  Resolution begins so, and so it goes on after each
hop. -/
def arrive (database : Database) (start : String) (limit : Nat) (name : String) :
    Except RefError Reference :=
  match database.store.lookup name with
  | .error error => .error error
  | .ok reference => database.follow start limit reference

/-- Resolving a name is arriving at the end of its chain within the allowed hops. -/
theorem resolve_eq_arrive (database : Database) (name : String) :
    database.resolve name = database.arrive name maxHops name := rfl

/-- The names that are looked up from a name on, with so many hops left.  The last one may be
missing. -/
def visits (database : Database) : Nat → String → List String
  | 0, name => [name]
  | limit + 1, name =>
      match database.store.lookup name with
      | .ok ⟨_, .symbolic next⟩ => name :: database.visits limit next
      | .ok ⟨_, .direct _⟩ | .error _ => [name]

/-- The names that are looked up when a name is resolved. -/
def visited (database : Database) (name : String) : List String :=
  database.visits maxHops name

section

variable {first second : Database}

/-- A walk visits the name that it starts from. -/
theorem mem_visits_self (database : Database) (limit : Nat) (name : String) :
    name ∈ database.visits limit name := by
  cases limit with
  | zero => exact List.mem_cons_self
  | succ limit =>
      unfold visits
      split <;> exact List.mem_cons_self

/-- From a symbolic reference a walk goes on to its target. -/
theorem visits_of_symbolic {database : Database} {name found next : String}
    (looked : database.store.lookup name = .ok ⟨found, .symbolic next⟩) (limit : Nat) :
    database.visits (limit + 1) name = name :: database.visits limit next := by
  rw [visits, looked]

/-- What is looked up alike ends alike: the other names do not matter. -/
theorem arrive_congr {limit : Nat} {name : String}
    (sameLookups : ∀ other ∈ first.visits limit name,
      first.store.lookup other = second.store.lookup other) (start : String) :
    first.arrive start limit name = second.arrive start limit name := by
  induction limit generalizing name with
  | zero =>
      rw [arrive, arrive, sameLookups name (first.mem_visits_self 0 name)]
      rcases second.store.lookup name with error | ⟨found, id | next⟩
      · rfl
      · exact (follow_direct start 0 found id).trans (follow_direct start 0 found id).symm
      · rfl
  | succ limit inductionHypothesis =>
      have here := sameLookups name (first.mem_visits_self (limit + 1) name)
      rw [arrive, arrive, ← here]
      rcases looked : first.store.lookup name with error | ⟨found, id | next⟩
      · rfl
      · exact (follow_direct start _ found id).trans (follow_direct start _ found id).symm
      · change first.arrive start limit next = second.arrive start limit next
        apply inductionHypothesis
        intro other later
        apply sameLookups
        rw [visits_of_symbolic looked]
        exact List.mem_cons_of_mem name later

/-- A name is resolved by the names that are looked up for it. -/
theorem resolve_congr_of_visited {name : String}
    (sameLookups : ∀ other ∈ first.visited name,
      first.store.lookup other = second.store.lookup other) :
    first.resolve name = second.resolve name := by
  rw [resolve_eq_arrive, resolve_eq_arrive]
  exact arrive_congr sameLookups name

end

/-- In every database that calls lead to, resolving a name answers with the end of its chain when that
is at most five hops away: the stored reference where the end is direct, and its name as not found
where it is missing.  A chain that goes on for six hops or for ever is reported as a loop at the
start.  The object of a name follows the same cases, for what is resolved is always direct. -/
theorem resolve_follows_chain (config : StoreConfig) (calls : List Call) (name : String) :
    let database := (empty config).run calls
    let store := database.store
    (∀ hops last id, store.Leads name hops last → store.targetOf last = some (.direct id) →
      hops ≤ 5 →
      store.lookup last = .ok ⟨last, .direct id⟩ ∧
        database.resolve name = .ok ⟨last, .direct id⟩ ∧ database.resolveId name = .ok id) ∧
    (∀ hops last, store.Leads name hops last → store.targetOf last = none → hops ≤ 5 →
      database.resolve name = .error (.notFound last) ∧
        database.resolveId name = .error (.notFound last)) ∧
    (∀ hops last, store.Leads name hops last →
      (∀ next, store.targetOf last ≠ some (.symbolic next)) → 6 ≤ hops →
      database.resolve name = .error (.symbolicLoop name) ∧
        database.resolveId name = .error (.symbolicLoop name)) ∧
    ((∀ hops last, store.Leads name hops last →
        ∃ next, store.targetOf last = some (.symbolic next)) →
      database.resolve name = .error (.symbolicLoop name) ∧
        database.resolveId name = .error (.symbolicLoop name)) ∧
    (∀ reference, database.resolve name = .ok reference →
      ∃ id, reference.target = .direct id) := by
  intro database store
  have invariant : store.Invariant := invariant_run (Store.invariant_empty config) calls
  refine ⟨?direct, ?missing, ?deep, ?endless, fun reference => direct_of_resolve⟩
  case direct =>
    intro hops last id leads direct inTime
    have ends : ∀ next, store.targetOf last ≠ some (.symbolic next) := by simp [direct]
    have stored : store.lookup last = .ok ⟨last, .direct id⟩ := by
      rw [invariant.lookup_eq, direct]
    have resolved := (resolve_of_ends invariant leads ends inTime).trans stored
    exact ⟨stored, resolved, resolveId_of_direct resolved⟩
  case missing =>
    intro hops last leads missing inTime
    have ends : ∀ next, store.targetOf last ≠ some (.symbolic next) := by simp [missing]
    have absent : store.lookup last = .error (.notFound last) := by
      rw [invariant.lookup_eq, missing]
    have failed := (resolve_of_ends invariant leads ends inTime).trans absent
    exact ⟨failed, resolveId_of_error failed⟩
  case deep =>
    intro hops last leads ends tooFar
    obtain ⟨middle, next, leadsThere, symbolic⟩ := leads.symbolic_before tooFar
    have failed := resolve_of_deep invariant leadsThere symbolic
    exact ⟨failed, resolveId_of_error failed⟩
  case endless =>
    intro endless
    obtain ⟨middle, next, leadsThere, symbolic⟩ :=
      Store.Leads.symbolic_of_endless endless maxHops
    have failed := resolve_of_deep invariant leadsThere symbolic
    exact ⟨failed, resolveId_of_error failed⟩

end Database

end NamedRefs

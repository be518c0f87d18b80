/-
Module: NamedRefs.Proofs.Database.Cycles
Purpose: Which of the names that are reported as a loop have a chain that comes back to itself.
Main exports: Store.Leads.onward, Store.Revisits, Store.Revisits.symbolic_at,
  Store.Invariant.revisits_of_few, Store.Invariant.ends_of_not_revisits, Database.resolve_of_revisits,
  Database.resolve_of_not_revisits, Database.loops_are_chains_that_come_back
-/
import Mathlib.Data.Finset.Card
import Mathlib.Data.Fintype.Fin
import NamedRefs.Proofs.Database.Listing

namespace NamedRefs

/-!
Resolution keeps no account of the names it has passed.  It counts hops, and reports a loop when the
count is used up.  A chain that comes to some name a second time goes round from there for ever, so it
is always reported.  The converse depends on the store: every name that is passed on the way is
symbolic, and where the symbolic references are no more than the hops that are counted, a chain that
uses up the count has passed one of them twice.
-/

namespace Store

/-- What lies behind a name of the chain is the chain of that name. -/
theorem Leads.onward {store : Store} {name middle last : String} {hops more : Nat}
    (there : store.Leads name hops middle) (leads : store.Leads name (hops + more) last) :
    store.Leads middle more last := by
  induction there with
  | here name => rwa [Nat.zero_add] at leads
  | hop symbolic rest inductionHypothesis =>
      rw [Nat.add_right_comm] at leads
      cases leads with
      | hop alsoSymbolic further =>
          cases symbolic.symm.trans alsoSymbolic
          exact inductionHypothesis further

/-- Following symbolic references from a name, one comes to some name a second time. -/
def Revisits (store : Store) (name : String) : Prop :=
  ∃ again earlier later, earlier < later ∧ store.Leads name earlier again ∧
    store.Leads name later again

/-- A chain that comes back to itself never ends. -/
theorem Revisits.symbolic_at {store : Store} {name : String} (revisits : store.Revisits name)
    (distance : Nat) :
    ∃ middle next, store.Leads name distance middle ∧
      store.targetOf middle = some (.symbolic next) := by
  obtain ⟨again, earlier, later, before, there, back⟩ := revisits
  obtain ⟨period, rfl⟩ : ∃ period, later = earlier + (period + 1) :=
    ⟨later - earlier - 1, by omega⟩
  have cycle : store.Leads again (period + 1) again := there.onward back
  obtain ⟨middle, next, leads, symbolic⟩ := cycle.symbolic_of_cycle distance
  have beyond : distance < earlier + distance + 1 := by omega
  exact ((there.trans leads).snoc symbolic).symbolic_before beyond

/-- The names of the symbolic references. -/
def symbolicNames (store : Store) : Finset String :=
  ((store.references.filter (·.target.isSymbolic)).map (·.name)).toFinset

/-- There are no more names of symbolic references than symbolic references. -/
theorem card_symbolicNames_le (store : Store) :
    store.symbolicNames.card ≤ store.references.countP (·.target.isSymbolic) := by
  rw [List.countP_eq_length_filter, ← List.length_map (·.name)]
  exact List.toFinset_card_le _

namespace Invariant

variable {store : Store} {name : String}

/-- A name with a symbolic target is the name of a symbolic reference. -/
theorem mem_symbolicNames (invariant : store.Invariant) {next : String}
    (symbolic : store.targetOf name = some (.symbolic next)) : name ∈ store.symbolicNames := by
  have stored : ⟨name, .symbolic next⟩ ∈ store.references :=
    invariant.mem_references_iff_targetOf.mpr symbolic
  rw [symbolicNames, List.mem_toFinset, List.mem_map]
  exact ⟨_, List.mem_filter.mpr ⟨stored, rfl⟩, rfl⟩

/-- More stops at symbolic references than there are such references: one of them is made twice. -/
theorem revisits_of_few (invariant : store.Invariant) {limit : Nat}
    (few : store.references.countP (·.target.isSymbolic) ≤ limit)
    (goesOn : ∀ distance ≤ limit, ∃ middle next, store.Leads name distance middle ∧
      store.targetOf middle = some (.symbolic next)) : store.Revisits name := by
  choose stop next leads symbolic using fun distance : Fin (limit + 1) =>
    goesOn distance (Nat.le_of_lt_succ distance.isLt)
  have crowded : store.symbolicNames.card < (Finset.univ : Finset (Fin (limit + 1))).card := by
    rw [Finset.card_univ, Fintype.card_fin]
    exact Nat.lt_succ_of_le (Nat.le_trans store.card_symbolicNames_le few)
  obtain ⟨one, -, other, -, different, same⟩ :=
    Finset.exists_ne_map_eq_of_card_lt_of_maps_to crowded
      fun distance _ => invariant.mem_symbolicNames (symbolic distance)
  have leadsAlso : store.Leads name other (stop one) := same ▸ leads other
  rcases Nat.lt_or_gt_of_ne (Fin.val_ne_of_ne different) with before | after
  · exact ⟨stop one, one, other, before, leads one, leadsAlso⟩
  · exact ⟨stop one, other, one, after, leadsAlso, leads one⟩

/-- A chain without a repetition comes to an end before the symbolic references are used up. -/
theorem ends_of_not_revisits (invariant : store.Invariant) {limit : Nat}
    (few : store.references.countP (·.target.isSymbolic) ≤ limit)
    (onlyOnce : ¬ store.Revisits name) :
    ∃ hops ≤ limit, ∃ last, store.Leads name hops last ∧
      ∀ next, store.targetOf last ≠ some (.symbolic next) := by
  by_contra endless
  apply onlyOnce
  apply invariant.revisits_of_few few
  intro distance inTime
  apply Leads.symbolic_of_goesOn
  intro fewer within last leads
  by_contra notSymbolic
  have ends : ∀ next, store.targetOf last ≠ some (.symbolic next) :=
    fun next symbolic => notSymbolic ⟨next, symbolic⟩
  exact endless ⟨fewer, Nat.le_trans within inTime, last, leads, ends⟩

end Invariant

end Store

namespace Database

variable {database : Database} {name : String}

/-- A chain that comes back to a name never ends, so the name resolves to nothing. -/
theorem resolve_of_revisits (invariant : database.store.Invariant)
    (revisits : database.store.Revisits name) :
    database.resolve name = .error (.symbolicLoop name) := by
  obtain ⟨middle, next, leads, symbolic⟩ := revisits.symbolic_at maxHops
  exact resolve_of_deep invariant leads symbolic

/-- With few symbolic references, a chain without a repetition ends in time, and its name resolves
from there. -/
theorem resolve_of_not_revisits (invariant : database.store.Invariant)
    (few : database.store.references.countP (·.target.isSymbolic) ≤ maxHops)
    (onlyOnce : ¬ database.store.Revisits name) :
    ∃ hops ≤ maxHops, ∃ last, database.store.Leads name hops last ∧
      (∀ next, database.store.targetOf last ≠ some (.symbolic next)) ∧
      database.resolve name = database.store.lookup last := by
  obtain ⟨hops, inTime, last, leads, ends⟩ := invariant.ends_of_not_revisits few onlyOnce
  exact ⟨hops, inTime, last, leads, ends, resolve_of_ends invariant leads ends inTime⟩

/-- In every database that calls lead to, a name whose chain comes to some name a second time, however
long the way there and however long the way round, is reported as a loop.  Where there are at most
five symbolic references, nothing else is reported as a loop: a chain that visits no name twice ends
within five hops, and the name is answered with what is stored at the end. -/
theorem loops_are_chains_that_come_back (config : StoreConfig) (calls : List Call)
    (name : String) :
    let database := (empty config).run calls
    let store := database.store
    (store.Revisits name →
      database.resolve name = .error (.symbolicLoop name) ∧
        database.resolveId name = .error (.symbolicLoop name)) ∧
    (store.references.countP (·.target.isSymbolic) ≤ 5 →
      (∀ start, database.resolve name = .error (.symbolicLoop start) → store.Revisits name) ∧
      (¬ store.Revisits name → ∃ hops ≤ 5, ∃ last, store.Leads name hops last ∧
        (∀ next, store.targetOf last ≠ some (.symbolic next)) ∧
        database.resolve name = store.lookup last)) := by
  intro database store
  have invariant : store.Invariant := invariant_run (Store.invariant_empty config) calls
  refine ⟨fun revisits => ?revisits, fun few => ⟨?looped, ?ended⟩⟩
  case revisits =>
    have looped := resolve_of_revisits invariant revisits
    exact ⟨looped, resolveId_of_error looped⟩
  case looped =>
    intro start looped
    by_contra onlyOnce
    obtain ⟨_, _, last, _, _, resolved⟩ := resolve_of_not_revisits invariant few onlyOnce
    rw [resolved] at looped
    -- A lookup fails in one way only, and that is another one.
    cases (Store.lookup_eq_error_iff.mp looped).2
  case ended =>
    intro onlyOnce
    exact resolve_of_not_revisits invariant few onlyOnce

/-- Six symbolic references in a row are too many, although they come to an end. -/
example :
    let database := (empty .permissive).run [.create (.direct "g" (.filled .sha1 170)),
      .create (.symbolic "f" "g"), .create (.symbolic "e" "f"), .create (.symbolic "d" "e"),
      .create (.symbolic "c" "d"), .create (.symbolic "b" "c"), .create (.symbolic "a" "b")]
    database.resolve "a" = .error (.symbolicLoop "a") ∧
      database.resolve "b" = .ok (.direct "g" (.filled .sha1 170)) := by
  decide

end Database

end NamedRefs

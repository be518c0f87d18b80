/-
Module: NamedRefs.Proofs.Store.Interleaving
Purpose: Clients that share a store, and that say which target they mean to replace, do not undo what
  others did behind their backs.
Main exports: Store.Event, Store.history, Store.Cautious, Store.Disciplined, Store.WritesAnew,
  Store.Tracked.never_again, Store.Tracked.unchanged_between, Store.no_update_is_lost
-/
import NamedRefs.Proofs.Store.Contents

namespace NamedRefs.Store

/-!
A token proves nothing by itself: the target that a client has read may be gone and have come back
before the client's own call.  It cannot come back when no target is written twice.  Then a name that
has lost a target never has it again, so that a token that still fits tells that the name was not
changed since the token was read.
-/

/-! ### One name -/

namespace Call

/-- Whether a call may change what is known of a name. -/
def concerns (name : String) : Call → Bool
  | .write reference _ _ => reference.name == name
  | .delete other _ => other == name
  | .rename oldName newName _ => oldName == name || newName == name
  | .clear => true
  | _ => false

/-- Whether a call changes a name, if at all, by writing or removing it under this very name. -/
def isDirectAt (name : String) : Call → Bool
  | .rename oldName newName _ => oldName != name && newName != name
  | .clear => false
  | _ => true

/-- The target that a call would give to a name. -/
def value? (name : String) : Call → Option Target
  | .write reference _ _ => if reference.name = name then some reference.target else none
  | _ => none

/-- The target that a call requires of a name that it changes. -/
def token? (name : String) : Call → Option Target
  | .write reference true (some token) => if reference.name = name then some token else none
  | .delete other (some token) => if other = name then some token else none
  | _ => none

/-- A call that does not concern a name does not change it by a detour. -/
theorem isDirectAt_of_not_concerns {name : String} {call : Call}
    (elsewhere : call.concerns name = false) : call.isDirectAt name = true := by
  cases call <;> simp_all [concerns, isDirectAt]

/-- A call that only reads concerns no name. -/
theorem not_concerns_of_readsOnly {name : String} {call : Call} (readsOnly : call.readsOnly = true) :
    call.concerns name = false := by
  cases call <;> first | rfl | contradiction

/-- A call about another name has no value to write to this one. -/
theorem value?_of_not_concerns {name : String} {call : Call}
    (elsewhere : call.concerns name = false) : call.value? name = none := by
  cases call <;> simp_all [concerns, value?]

/-- A token is brought by a forced write or by a deletion of the name. -/
theorem token?_cases {name : String} {call : Call} {token : Target}
    (named : call.token? name = some token) :
    (∃ target, call = .write ⟨name, target⟩ true (some token)) ∨
      call = .delete name (some token) := by
  unfold token? at named
  split at named
  · rename_i reference brought
    obtain ⟨rfl, rfl⟩ : reference.name = name ∧ brought = token := by simpa using named
    exact Or.inl ⟨reference.target, rfl⟩
  · rename_i other brought
    obtain ⟨rfl, rfl⟩ : other = name ∧ brought = token := by simpa using named
    exact Or.inr rfl
  · contradiction

end Call

/-- A direct change of a name gives it the target of the call, or none. -/
theorem Change.targetOf_of_isDirectAt {store next : Store} {call : Call}
    (change : Change store call next) (invariant : store.Invariant) {name : String}
    (direct : call.isDirectAt name = true) :
    next.targetOf name =
      if call.concerns name then call.value? name else store.targetOf name := by
  cases change with
  | created checked absent =>
      rw [invariant.targetOf_insertNew]
      simp only [Call.concerns, Call.value?, beq_iff_eq]
      split <;> rfl
  | replaced checked held current =>
      rw [invariant.targetOf_fill held]
      simp only [Call.concerns, Call.value?, beq_iff_eq]
      split <;> rfl
  | removed held current =>
      rw [invariant.targetOf_unlink held]
      simp only [Call.concerns, Call.value?, beq_iff_eq]
  | moved checked free different held =>
      rw [invariant.targetOf_relabel held different]
      simp_all [Call.isDirectAt, Call.concerns]
  | stayed checked used =>
      simp_all [Call.isDirectAt, Call.concerns]
  | cleared => contradiction
  | asked readsOnly =>
      rw [Call.not_concerns_of_readsOnly readsOnly]
      rfl

/-! ### Tokens -/

namespace Invariant

variable {store : Store}

/-- A forced write with a token finds the token, or it is refused for the reference that it brings, or
it fails because the token does not fit. -/
theorem write_with_token (invariant : store.Invariant) (reference : Reference) (token : Target) :
    (∃ next, store.write reference true (some token) = (.ok (), next) ∧
      store.targetOf reference.name = some token) ∨
    ∃ error, store.write reference true (some token) = (.error error, store) ∧
      (checkReference store.config reference = .error error ∨
        checkReference store.config reference = .ok () ∧ error = .modified reference.name ∧
          store.targetOf reference.name ≠ some token) := by
  cases checked : checkReference store.config reference with
  | error error => exact Or.inr ⟨error, write_of_refused checked, Or.inl rfl⟩
  | ok _ =>
      cases indexed : store.index[reference.name]? with
      | none =>
          right
          refine ⟨_, write_of_absent checked indexed, Or.inr ⟨rfl, rfl, ?_⟩⟩
          rw [targetOf_of_not_indexed indexed]
          exact nofun
      | some slot =>
          obtain ⟨live, held⟩ := invariant.occupied indexed
          have known := targetOf_of_indexed indexed held
          rw [write_of_present checked indexed held, known]
          by_cases fits : token = live
          · subst fits
            exact Or.inl ⟨store.fill slot reference, by simp [isStale], rfl⟩
          · right
            refine ⟨_, by simp [isStale, fits], Or.inr ⟨rfl, rfl, ?_⟩⟩
            exact fun same => fits (Option.some.inj same).symm

/-- A deletion with a token finds the token, or it fails because the name is missing or has another
target. -/
theorem delete_with_token (invariant : store.Invariant) (name : String) (token : Target) :
    (∃ next, store.delete name (some token) = (.ok (), next) ∧
      store.targetOf name = some token) ∨
    ∃ error, store.delete name (some token) = (.error error, store) ∧
      (error = .notFound name ∧ store.targetOf name = none ∨
        error = .modified name ∧ ∃ live, store.targetOf name = some live ∧ live ≠ token) := by
  cases indexed : store.index[name]? with
  | none =>
      exact Or.inr ⟨_, delete_of_absent indexed, Or.inl ⟨rfl, targetOf_of_not_indexed indexed⟩⟩
  | some slot =>
      obtain ⟨live, held⟩ := invariant.occupied indexed
      have known := targetOf_of_indexed indexed held
      rw [delete_of_present indexed held, known]
      by_cases fits : token = live
      · subst fits
        exact Or.inl ⟨store.unlink name slot, by simp [isStale], rfl⟩
      · right
        exact ⟨_, by simp [isStale, fits], Or.inr ⟨rfl, live, rfl, Ne.symm fits⟩⟩

end Invariant

/-! ### Events -/

/-- A call that a client makes on a shared store, and the store that it meets. -/
structure Event (Client : Type) where
  client : Client
  call : Call
  found : Store

variable {Client : Type}

namespace Event

/-- What the client is told. -/
def answer (event : Event Client) : Except RefError Answer :=
  (event.found.perform event.call).1

/-- The store that the next client meets. -/
def left (event : Event Client) : Store :=
  (event.found.perform event.call).2

/-- Whether a call that may change a name has succeeded. -/
def mutates (name : String) (event : Event Client) : Bool :=
  event.answer.isOk && event.call.concerns name

/-- The target that a call has given to a name. -/
def written? (name : String) (event : Event Client) : Option Target :=
  if event.answer.isOk then event.call.value? name else none

/-- The token with which a call has succeeded on a name. -/
def spent? (name : String) (event : Event Client) : Option Target :=
  if event.answer.isOk then event.call.token? name else none

/-- The target under which a client has found a name. -/
def seen? (name : String) (event : Event Client) : Option Target :=
  match event.call, event.answer with
  | .lookup asked, .ok (.reference reference) =>
      if asked = name then some reference.target else none
  | _, _ => none

section

variable {name : String} {event : Event Client}

/-- An event that leaves the name alone writes no target to it. -/
theorem written?_of_not_mutates (still : event.mutates name = false) :
    event.written? name = none := by
  unfold written?
  split
  · rename_i succeeded
    rw [mutates, succeeded, Bool.true_and] at still
    exact Call.value?_of_not_concerns still
  · rfl

/-- What a direct call leaves under a name: what it has written there, unless it changes nothing. -/
theorem targetOf_left (invariant : event.found.Invariant)
    (direct : event.call.isDirectAt name = true) :
    event.left.targetOf name =
      if event.mutates name then event.written? name else event.found.targetOf name := by
  unfold left mutates written? answer
  rcases perform_cases invariant event.call with
    ⟨error, failed⟩ | ⟨answer, next, succeeded, change⟩
  · rw [failed]
    rfl
  · rw [succeeded]
    exact change.targetOf_of_isDirectAt invariant direct

/-- What a client has seen of a name is what the store held of it then. -/
theorem targetOf_found_of_seen {target : Target} (seen : event.seen? name = some target) :
    event.found.targetOf name = some target := by
  rcases event with ⟨client, call, found⟩
  cases call with
  | lookup asked =>
      simp only [seen?, answer, perform_lookup] at seen
      cases looked : found.lookup asked with
      | error error =>
          rw [looked] at seen
          contradiction
      | ok reference =>
          rw [looked] at seen
          obtain ⟨rfl, rfl⟩ : asked = name ∧ reference.target = target := by
            simpa [Except.map] using seen
          rw [targetOf, lookup_eq_ok_iff.mp looked, Option.map_some]
  | _ => contradiction

/-- A token is spent when the call that carries it succeeds. -/
theorem spent?_eq_some_iff {token : Target} :
    event.spent? name = some token ↔
      event.answer.isOk = true ∧ event.call.token? name = some token := by
  simp [spent?]

/-- A token is spent on the target that it names. -/
theorem targetOf_found_of_spent (invariant : event.found.Invariant) {token : Target}
    (spent : event.spent? name = some token) : event.found.targetOf name = some token := by
  obtain ⟨succeeded, named⟩ := spent?_eq_some_iff.mp spent
  rcases event with ⟨client, call, found⟩
  rcases Call.token?_cases named with ⟨target, rfl⟩ | rfl
  · rcases invariant.write_with_token ⟨name, target⟩ token with
      ⟨next, _, known⟩ | ⟨error, failed, _⟩
    · exact known
    · rw [answer, perform_write, failed] at succeeded
      contradiction
  · rcases invariant.delete_with_token name token with
      ⟨next, _, known⟩ | ⟨error, failed, _⟩
    · exact known
    · rw [answer, perform_delete, failed] at succeeded
      contradiction

/-- Spending a token changes the name. -/
theorem mutates_of_spent {token : Target} (spent : event.spent? name = some token) :
    event.mutates name = true := by
  obtain ⟨succeeded, named⟩ := spent?_eq_some_iff.mp spent
  rw [mutates, succeeded, Bool.true_and]
  rcases Call.token?_cases named with ⟨target, same⟩ | same <;> simp [same, Call.concerns]

end

end Event

/-! ### Histories -/

/-- What happens when clients make calls in the given order. -/
def history (store : Store) : List (Client × Call) → List (Event Client)
  | [] => []
  | (client, call) :: schedule =>
      ⟨client, call, store⟩ :: (store.perform call).2.history schedule

/-- The target under which a client has found a name the last time. -/
def lastSeen? [DecidableEq Client] (name : String) (client : Client) (past : List (Event Client)) :
    Option Target :=
  past.reverse.findSome? fun event => if event.client = client then event.seen? name else none

/-- A call that touches a name, if at all, to create it, or with the target that the client has seen
last as its token. -/
inductive Cautious [DecidableEq Client] (name : String) (past : List (Event Client))
    (client : Client) : Call → Prop where
  | elsewhere {call : Call} (elsewhere : call.concerns name = false) :
      Cautious name past client call
  | creating (target : Target) : Cautious name past client (.write ⟨name, target⟩ false none)
  | updating (target : Target) {token : Target} (seen : lastSeen? name client past = some token) :
      Cautious name past client (.write ⟨name, target⟩ true (some token))
  | removing {token : Target} (seen : lastSeen? name client past = some token) :
      Cautious name past client (.delete name (some token))

/-- After some past, all calls are cautious about a name. -/
def Disciplined [DecidableEq Client] (name : String) (past : List (Event Client)) :
    List (Event Client) → Prop
  | [] => True
  | event :: future =>
      Cautious name past event.client event.call ∧ Disciplined name (past ++ [event]) future

/-- No target is written to a name twice, and none that the name has at first. -/
def WritesAnew (name : String) (store : Store) (events : List (Event Client)) : Prop :=
  ((store.targetOf name).toList ++ events.filterMap (Event.written? name)).Nodup

section

variable [DecidableEq Client] {name : String} {past events : List (Event Client)}

/-- A cautious client changes the name directly, if at all. -/
theorem Cautious.isDirectAt {client : Client} {call : Call}
    (cautious : Cautious name past client call) : call.isDirectAt name = true := by
  cases cautious with
  | elsewhere elsewhere => exact Call.isDirectAt_of_not_concerns elsewhere
  | creating target => rfl
  | updating target seen => rfl
  | removing seen => rfl

/-- The token of a cautious client is what it last saw of the name. -/
theorem Cautious.lastSeen_of_token {client : Client} {call : Call} {token : Target}
    (cautious : Cautious name past client call) (named : call.token? name = some token) :
    lastSeen? name client past = some token := by
  cases cautious with
  | elsewhere elsewhere =>
      rcases Call.token?_cases named with ⟨target, rfl⟩ | rfl <;> simp [Call.concerns] at elsewhere
  | creating target => contradiction
  | updating target seen =>
      rw [Call.token?, if_pos rfl] at named
      rwa [← named]
  | removing seen =>
      rw [Call.token?, if_pos rfl] at named
      rwa [← named]

/-- Every call of a disciplined history changes the name directly, if at all. -/
theorem Disciplined.isDirectAt (disciplined : Disciplined name past events) :
    ∀ event ∈ events, event.call.isDirectAt name = true := by
  induction events generalizing past with
  | nil => exact fun event member => nomatch member
  | cons first events inductionHypothesis =>
      obtain ⟨cautious, rest⟩ := disciplined
      intro event member
      rcases List.mem_cons.mp member with rfl | later
      · exact cautious.isDirectAt
      · exact inductionHypothesis rest event later

/-- Each call of a disciplined history was made with the events before it in view. -/
theorem Disciplined.cautious {between future : List (Event Client)} {event : Event Client}
    (disciplined : Disciplined name past (between ++ event :: future)) :
    Cautious name (past ++ between) event.client event.call := by
  induction between generalizing past with
  | nil =>
      rw [List.append_nil]
      exact disciplined.1
  | cons first between inductionHypothesis =>
      rw [List.append_cons]
      exact inductionHypothesis disciplined.2

end

/-- Where values are written anew, none of them is the target the store started with. -/
theorem WritesAnew.written_ne {name : String} {store : Store} {events : List (Event Client)}
    (anew : WritesAnew name store events) {target : Target}
    (live : store.targetOf name = some target) :
    ∀ event ∈ events, event.written? name ≠ some target := by
  intro event member written
  rw [WritesAnew, live] at anew
  refine (List.nodup_append.mp anew).2.2 target (Option.mem_toList.mpr rfl) target ?_ rfl
  exact List.mem_filterMap.mpr ⟨event, member, written⟩

/-! ### Targets that do not come back -/

/-- Where a history stands that is to be followed at one name: its calls change the name directly
only, and what they write is new. -/
structure Tracked (name : String) (store : Store) (schedule : List (Client × Call)) : Prop where
  invariant : store.Invariant
  direct : ∀ event ∈ store.history schedule, event.call.isDirectAt name = true
  anew : WritesAnew name store (store.history schedule)

namespace Tracked

variable {name : String} {store : Store} {schedule : List (Client × Call)}

section

variable {client : Client} {call : Call}

/-- A tracked call leaves the name with the target it writes, or as it was. -/
theorem targetOf_perform (tracked : Tracked name store ((client, call) :: schedule)) :
    (store.perform call).2.targetOf name =
      if (Event.mk client call store).mutates name then (Event.mk client call store).written? name
      else store.targetOf name := by
  have direct := tracked.direct (Event.mk client call store) List.mem_cons_self
  have left : (Event.mk client call store).left.targetOf name = _ :=
    Event.targetOf_left tracked.invariant direct
  exact left

/-- What is tracked of a schedule stays tracked when its first call has been made. -/
theorem step (tracked : Tracked name store ((client, call) :: schedule)) :
    Tracked name (store.perform call).2 schedule where
  invariant := tracked.invariant.perform call
  direct event member := tracked.direct event (List.mem_cons_of_mem _ member)
  anew := by
    have anew := tracked.anew
    rw [WritesAnew, history, List.filterMap_cons] at anew
    rw [WritesAnew, tracked.targetOf_perform]
    cases changed : (Event.mk client call store).mutates name with
    | false =>
        rwa [Event.written?_of_not_mutates changed] at anew
    | true =>
        -- What the name had before is dropped, and the rest is the same list cut elsewhere.
        refine anew.sublist (.trans ?_ (List.sublist_append_right ..))
        cases (Event.mk client call store).written? name <;> exact .refl _

end

/-- From each of its events on, a history is followed as well. -/
theorem split (tracked : Tracked name store schedule) {earlier later : List (Event Client)}
    {event : Event Client} (cut : store.history schedule = earlier ++ event :: later) :
    ∃ remaining, Tracked name event.found ((event.client, event.call) :: remaining) ∧
      event.left.history remaining = later := by
  induction earlier generalizing store schedule with
  | nil =>
      cases schedule with
      | nil => contradiction
      | cons entry schedule =>
          obtain ⟨rfl, rest⟩ := List.cons.inj cut
          exact ⟨schedule, tracked, rest⟩
  | cons first earlier inductionHypothesis =>
      cases schedule with
      | nil => contradiction
      | cons entry schedule => exact inductionHypothesis tracked.step (List.cons.inj cut).2

/-- Every event of a history found the store in order. -/
theorem invariant_found (tracked : Tracked name store schedule) {event : Event Client}
    (member : event ∈ store.history schedule) : event.found.Invariant := by
  obtain ⟨earlier, later, cut⟩ := List.append_of_mem member
  obtain ⟨remaining, current, _⟩ := tracked.split cut
  exact current.invariant

/-- A target that a name does not have, and that nobody writes, is never found there. -/
theorem targetOf_ne (tracked : Tracked name store schedule) {target : Target}
    (other : store.targetOf name ≠ some target)
    (unwritten : ∀ event ∈ store.history schedule, event.written? name ≠ some target) :
    ∀ event ∈ store.history schedule, event.found.targetOf name ≠ some target := by
  induction schedule generalizing store with
  | nil => exact fun event member => nomatch member
  | cons entry schedule inductionHypothesis =>
      intro event member
      rcases List.mem_cons.mp member with rfl | later
      · exact other
      · apply inductionHypothesis tracked.step _ _ event later
        -- The first call writes some other target, or leaves the name as it is.
        · rw [tracked.targetOf_perform]
          split
          · exact unwritten _ List.mem_cons_self
          · exact other
        · intro writer writes
          exact unwritten writer (List.mem_cons_of_mem _ writes)

/-- Once a name has lost a target, the name is never found with it again. -/
theorem never_again {client : Client} {call : Call}
    (tracked : Tracked name store ((client, call) :: schedule)) {target : Target}
    (live : store.targetOf name = some target)
    (changed : (Event.mk client call store).mutates name = true) :
    ∀ event ∈ (store.perform call).2.history schedule, event.found.targetOf name ≠ some target := by
  have unwritten := tracked.anew.written_ne live
  apply tracked.step.targetOf_ne
  · rw [tracked.targetOf_perform, if_pos changed]
    exact unwritten _ List.mem_cons_self
  · intro writer writes
    exact unwritten writer (List.mem_cons_of_mem _ writes)

/-- Between two points at which a name has the same target, nobody changes the name. -/
theorem unchanged_between (tracked : Tracked name store schedule) {target : Target}
    (live : store.targetOf name = some target) {between future : List (Event Client)}
    {event : Event Client} (cut : store.history schedule = between ++ event :: future)
    (still : event.found.targetOf name = some target) :
    ∀ other ∈ between, other.mutates name = false := by
  induction between generalizing store schedule with
  | nil => exact fun other member => nomatch member
  | cons first between inductionHypothesis =>
      cases schedule with
      | nil => contradiction
      | cons entry schedule =>
          rcases entry with ⟨client, call⟩
          obtain ⟨rfl, rest⟩ := List.cons.inj cut
          -- Had the first call changed the name, the event could not have found the target there.
          have unchanged : (Event.mk client call store).mutates name = false := by
            apply Bool.eq_false_iff.mpr
            intro changed
            refine tracked.never_again live changed event ?_ still
            rw [rest]
            exact List.mem_append_right _ List.mem_cons_self
          have kept : (store.perform call).2.targetOf name = some target := by
            rw [tracked.targetOf_perform, unchanged]
            exact live
          intro other member
          rcases List.mem_cons.mp member with rfl | later
          · exact unchanged
          · exact inductionHypothesis tracked.step kept rest other later

/-- No target is a token twice. -/
theorem nodup_spent (tracked : Tracked name store schedule) :
    ((store.history schedule).filterMap (Event.spent? name)).Nodup := by
  induction schedule generalizing store with
  | nil => exact .nil
  | cons entry schedule inductionHypothesis =>
      rcases entry with ⟨client, call⟩
      have rest := inductionHypothesis tracked.step
      rw [history, List.filterMap_cons]
      cases spent : (Event.mk client call store).spent? name with
      | none => exact rest
      | some token =>
          -- A token that is spent is gone, and a later event that spends it would have found it.
          refine List.nodup_cons.mpr ⟨?_, rest⟩
          intro again
          obtain ⟨event, member, spentAgain⟩ := List.mem_filterMap.mp again
          have live := Event.targetOf_found_of_spent tracked.invariant spent
          have changed := Event.mutates_of_spent spent
          refine tracked.never_again live changed event member ?_
          exact Event.targetOf_found_of_spent (tracked.step.invariant_found member) spentAgain

/-- A token that is spent is what the name has, and has had without a change since anybody has read
it. -/
theorem unchanged_since_seen (tracked : Tracked name store schedule)
    {earlier between future : List (Event Client)} {read event : Event Client} {token : Target}
    (cut : store.history schedule = earlier ++ read :: between ++ event :: future)
    (seen : read.seen? name = some token) (spent : event.spent? name = some token) :
    ∀ other ∈ between, other.mutates name = false := by
  have live := Event.targetOf_found_of_seen seen
  obtain ⟨_, atEvent, _⟩ := tracked.split cut
  have still := Event.targetOf_found_of_spent atEvent.invariant spent
  rw [List.append_assoc, List.cons_append] at cut
  obtain ⟨remaining, current, rest⟩ := tracked.split cut
  have cutAtRead : read.found.history ((read.client, read.call) :: remaining) =
      (read :: between) ++ event :: future :=
    congrArg (read :: ·) rest
  intro other member
  exact current.unchanged_between live cutAtRead still other (List.mem_cons_of_mem _ member)

end Tracked

/-- In every store that calls lead to, a forced write or a deletion with a token succeeds only where
the name has that token for its target; otherwise it fails, and changes nothing: the write with the
error of its checks or else as modified, the deletion as missing or modified.  Hence clients that
share a store in any order lose no update of a name.  If a name is changed only by creating it, and by
writes and deletions whose token is what the client has seen there last, and if no target is written
to it twice, nor the one that it has at first, then a token is spent on exactly the target that the
client has read, with no change of the name since anybody has read it, and no two calls spend the same
token. -/
theorem no_update_is_lost (config : StoreConfig) (calls : List Call) [DecidableEq Client] :
    let store := (empty config).run calls
    (∀ (reference : Reference) (token : Target),
      (∃ next, store.write reference true (some token) = (.ok (), next) ∧
        store.targetOf reference.name = some token) ∨
      ∃ error, store.write reference true (some token) = (.error error, store) ∧
        (checkReference store.config reference = .error error ∨
          checkReference store.config reference = .ok () ∧ error = .modified reference.name ∧
            store.targetOf reference.name ≠ some token)) ∧
    (∀ (name : String) (token : Target),
      (∃ next, store.delete name (some token) = (.ok (), next) ∧
        store.targetOf name = some token) ∨
      ∃ error, store.delete name (some token) = (.error error, store) ∧
        (error = .notFound name ∧ store.targetOf name = none ∨
          error = .modified name ∧ ∃ live, store.targetOf name = some live ∧ live ≠ token)) ∧
    ∀ (name : String) (schedule : List (Client × Call)),
      let events := store.history schedule
      Disciplined name [] events → WritesAnew name store events →
      (∀ past event future token, events = past ++ event :: future →
        event.spent? name = some token →
        event.found.targetOf name = some token ∧
        event.left.targetOf name = event.written? name ∧
        lastSeen? name event.client past = some token ∧
        ∀ earlier read between, past = earlier ++ read :: between →
          read.seen? name = some token → ∀ other ∈ between, other.mutates name = false) ∧
      (events.filterMap (Event.spent? name)).Nodup := by
  intro store
  have invariant : store.Invariant := (invariant_empty config).run calls
  refine ⟨invariant.write_with_token, invariant.delete_with_token, ?_⟩
  intro name schedule events disciplined anew
  have tracked : Tracked name store schedule := ⟨invariant, disciplined.isDirectAt, anew⟩
  refine ⟨?_, tracked.nodup_spent⟩
  intro past event future token cut spent
  obtain ⟨_, current, _⟩ := tracked.split cut
  have live := Event.targetOf_found_of_spent current.invariant spent
  have changed : event.left.targetOf name = event.written? name := by
    have direct : event.call.isDirectAt name = true := current.direct event List.mem_cons_self
    rw [Event.targetOf_left current.invariant direct, Event.mutates_of_spent spent, if_pos rfl]
  rw [cut] at disciplined
  have seen := disciplined.cautious.lastSeen_of_token (Event.spent?_eq_some_iff.mp spent).2
  refine ⟨live, changed, seen, ?_⟩
  intro earlier read between splitPast read_seen
  subst splitPast
  exact tracked.unchanged_since_seen cut read_seen spent

/-- Two clients that read the same target and both update it: the second one has to read again, and
after its deletion the name can be created with a new target. -/
def handover : List (Nat × Call) :=
  [(1, .write ⟨"HEAD", .symbolic "refs/heads/main"⟩ false none),
    (1, .lookup "HEAD"),
    (2, .lookup "HEAD"),
    (2, .write ⟨"HEAD", .symbolic "refs/heads/dev"⟩ true (some (.symbolic "refs/heads/main"))),
    (1, .write ⟨"HEAD", .symbolic "refs/heads/fix"⟩ true (some (.symbolic "refs/heads/main"))),
    (1, .lookup "HEAD"),
    (1, .delete "HEAD" (some (.symbolic "refs/heads/dev"))),
    (2, .write ⟨"HEAD", .symbolic "refs/heads/release"⟩ false none)]

/-- In the handover only the tokens that were live when they were used are spent, one by each client. -/
theorem handover_loses_no_update :
    let store := (empty .permissive).run []
    let events := store.history handover
    Disciplined "HEAD" [] events ∧ WritesAnew "HEAD" store events ∧
      events.filterMap (Event.spent? "HEAD") =
        [.symbolic "refs/heads/main", .symbolic "refs/heads/dev"] ∧
      ∀ past event future token, events = past ++ event :: future →
        event.spent? "HEAD" = some token →
        event.found.targetOf "HEAD" = some token ∧
        event.left.targetOf "HEAD" = event.written? "HEAD" ∧
        lastSeen? "HEAD" event.client past = some token ∧
        ∀ earlier read between, past = earlier ++ read :: between →
          read.seen? "HEAD" = some token → ∀ other ∈ between, other.mutates "HEAD" = false := by
  intro store events
  have disciplined : Disciplined "HEAD" [] events :=
    ⟨.creating _, .elsewhere rfl, .elsewhere rfl, .updating _ (by decide), .updating _ (by decide),
      .elsewhere rfl, .removing (by decide), .creating _, trivial⟩
  have anew : WritesAnew "HEAD" store events := by
    unfold WritesAnew
    decide
  refine ⟨disciplined, anew, by decide, ?_⟩
  exact ((no_update_is_lost .permissive []).2.2 "HEAD" handover disciplined anew).1

/-- The checks of a write come before its token is compared: not every write with a token that does
not fit fails as modified. -/
theorem bad_target_is_refused_whatever_the_token :
    let store := (empty .permissive).run
      [.write ⟨"HEAD", .symbolic "refs/heads/main"⟩ false none]
    let outcome := store.write ⟨"HEAD", .symbolic ""⟩ true (some (.symbolic "refs/heads/dev"))
    store.targetOf "HEAD" ≠ some (.symbolic "refs/heads/dev") ∧
      outcome.1 ≠ .error (.modified "HEAD") ∧
      outcome.1 = .error (.invalidInput (.emptyTarget "HEAD")) := by
  decide

end NamedRefs.Store

/-
Module: NamedRefs.Store.Call
Purpose: The calls that a store answers, and runs of several calls.
Main exports: LogCall, Answer, Store.Call, Store.performWithin, Store.perform, Store.trace, Store.run,
  Store.runWithin
-/
import NamedRefs.Reflog
import NamedRefs.Store.Cursor
import NamedRefs.Store.Stats

namespace NamedRefs

/-- What can be asked about logs. -/
inductive LogCall where
  | has (name : String)
  | ensure (name : String)
  | read (name : String)
  | write (log : Reflog)
  | rename (oldName newName : String)
  | delete (name : String)
deriving DecidableEq

/-- What a call comes to when it reports no error. -/
inductive Answer where
  | done
  /-- The call has no result and cannot fail. -/
  | nothing
  /-- The call panics, and so has no result. -/
  | panicked
  | flag (value : Bool)
  | text (value : String)
  | id (value : ObjectId)
  | reference (value : Reference)
  | references (values : List Reference)
  | names (values : List String)
  | sights (values : List Cursor.Sight)
  | stats (value : Stats)
  | config (value : StoreConfig)
  | log (value : Reflog)
deriving DecidableEq

/-- Answer a call about logs. -/
def LogCall.answer : LogCall → Except RefError Answer
  | .has name => .ok (.flag (DiscardingLog.hasLog name))
  | .ensure name => (DiscardingLog.ensure name).map fun () => .done
  | .read name => (DiscardingLog.read name).map .log
  | .write log => (DiscardingLog.write log).map fun () => .done
  | .rename oldName newName => (DiscardingLog.rename oldName newName).map fun () => .done
  | .delete name => (DiscardingLog.delete name).map fun () => .done

namespace Store

/-- A call to a store. -/
inductive Call where
  | write (reference : Reference) (force : Bool) (expected : Option Target)
  | lookup (name : String)
  | contains (name : String)
  | delete (name : String) (expected : Option Target)
  | rename (oldName newName : String) (force : Bool)
  | iterate (pattern : Option String)
  | names (pattern : Option String)
  | cursor (pattern : Option String) (moves : List Cursor.Move)
  | stats
  | isEmpty
  | config
  | describe
  | clear
  | compress
  | log (call : LogCall)
  | lock (name : String)
  | unlock (name : String) (update : Option Reference)
deriving DecidableEq

/-- Answer a call, as far as there is memory for it.  There is nothing to compress in memory, and names
cannot be locked. -/
def performWithin (memory : Memory) (store : Store) : Call → Outcome Answer
  | .write reference force expected =>
      let (result, next) := (Action.write memory reference force expected).outcome store
      (result.map fun () => .done, next)
  | .lookup name =>
      let (result, next) := (Action.lookup memory name).outcome store
      (result.map .reference, next)
  | .contains name => (.ok (.flag (store.contains name)), store)
  | .delete name expected =>
      let (result, next) := (Action.delete memory name expected).outcome store
      (result.map fun () => .done, next)
  | .rename oldName newName force =>
      let (result, next) := (Action.rename memory oldName newName force).outcome store
      (result.map .reference, next)
  | .iterate pattern => (.ok (.references (store.iterate pattern)), store)
  | .names pattern => (.ok (.names (store.names pattern)), store)
  | .cursor pattern moves => (.ok (.sights ((store.cursor pattern).play moves).1), store)
  | .stats =>
      (.ok (if fits : store.buckets < bucketLimit then .stats (store.stats fits) else .panicked), store)
  | .isEmpty => (.ok (.flag store.isEmpty), store)
  | .config => (.ok (.config store.config), store)
  | .describe => (.ok (.text store.describe), store)
  | .clear => (.ok .nothing, store.clear)
  | .compress => (.ok .done, store)
  | .log call => (call.answer, store)
  | .lock _ => (.error (.unimplemented .lock), store)
  | .unlock _ _ => (.error (.unimplemented .unlock), store)

/-- Answer a call, with memory enough. -/
def perform (store : Store) (call : Call) : Outcome Answer :=
  store.performWithin .ample call

section

variable (store : Store)

theorem perform_write (reference : Reference) (force : Bool) (expected : Option Target) :
    store.perform (.write reference force expected) =
      ((store.write reference force expected).1.map fun () => .done,
        (store.write reference force expected).2) := rfl

theorem perform_lookup (name : String) :
    store.perform (.lookup name) = ((store.lookup name).map .reference, store) := by
  simp only [perform, performWithin, Action.outcome_lookup_ample]

theorem perform_delete (name : String) (expected : Option Target) :
    store.perform (.delete name expected) =
      ((store.delete name expected).1.map fun () => .done, (store.delete name expected).2) := rfl

theorem perform_rename (oldName newName : String) (force : Bool) :
    store.perform (.rename oldName newName force) =
      ((store.rename oldName newName force).1.map .reference,
        (store.rename oldName newName force).2) := rfl

end

/-- Answer calls one after the other: every answer, with the store after the call. -/
def trace (store : Store) : List Call → List (Outcome Answer)
  | [] => []
  | call :: calls =>
      let outcome := store.perform call
      outcome :: outcome.2.trace calls

/-- The store after calls. -/
def run (store : Store) (calls : List Call) : Store :=
  calls.foldl (fun current call => (current.perform call).2) store

/-- The store after calls, with some memory for each of them. -/
def runWithin (store : Store) (steps : List (Memory × Call)) : Store :=
  steps.foldl (fun current step => (current.performWithin step.1 step.2).2) store

end Store

end NamedRefs

/-
Module: NamedRefs.Store
Purpose: An in-memory store of references: slots, a list of vacant slots and an index by name, and the
  operations on it, which reserve memory before they change anything.
Main exports: Store, Store.empty, Store.targetOf, Reservation, Memory, Store.Action,
  Store.Action.outcome, Store.Action.write, Store.Action.rename, Store.Action.delete, Store.lookup,
  Store.contains, Store.write, Store.rename, Store.delete, Store.clear, Store.Invariant
-/
import Std.Data.ExtTreeMap
import NamedRefs.Config
import NamedRefs.Error
import NamedRefs.Reflog
import NamedRefs.RefName.Rules

namespace NamedRefs

/-!
References live in numbered slots.  A removed reference leaves its slot vacant, and the slot that was
vacated last is filled first; only when no slot is vacant does a new one open at the end.  The
index finds the slot of a name.

An operation answers with its result and the store afterwards; if it fails, that is the store which
it had reached by then.  It consists of checks, reservations of memory, and changes, in this order
with one exception: a rename looks into the slot of its reference only after it has changed the
index, and would fail there if the slot were vacant.  That it never is has to be proved.

Each reservation may be refused, and the operation then fails for want of memory.  Where nothing is
said about memory, there is enough of it.  Memory that is taken without being reserved, as for the
texts of answers, is not spoken of: the program does not outlive its refusal.
-/

/-- A store of references. -/
structure Store where
  config : StoreConfig
  /-- The references by slot number; a vacant slot holds none. -/
  slots : Array (Option Reference)
  /-- The vacant slots, the one vacated last in front. -/
  vacant : List Nat
  /-- The slot of each name. -/
  index : Std.ExtTreeMap String Nat compare

/-- What an operation may need memory for. -/
inductive Reservation where
  /-- A copy of a name, to be kept in a slot or handed out. -/
  | name
  /-- A copy of a name, to be kept in the index. -/
  | key
  /-- A copy of the name in a symbolic target. -/
  | target
  /-- One more entry of the index. -/
  | index
  /-- One more slot. -/
  | slot
  /-- One more vacant slot in the list. -/
  | vacancy
deriving DecidableEq, Repr

/-- Which reservations of an operation are granted. -/
abbrev Memory := Reservation → Bool

/-- Memory for everything. -/
def Memory.ample : Memory := fun _ => true

namespace Store

/-- The result of an operation and the store after it. -/
abbrev Outcome (Result : Type) := Except RefError Result × Store

/-- A store without references. -/
def empty (config : StoreConfig) : Store :=
  { config, slots := #[], vacant := [], index := ∅ }

@[simp] theorem config_empty (config : StoreConfig) : (empty config).config = config := rfl

@[simp] theorem slots_empty (config : StoreConfig) : (empty config).slots = #[] := rfl

@[simp] theorem vacant_empty (config : StoreConfig) : (empty config).vacant = [] := rfl

@[simp] theorem index_empty (config : StoreConfig) : (empty config).index = ∅ := rfl

/-- Number of references. -/
def size (store : Store) : Nat :=
  store.index.size

/-- Whether the store holds no references. -/
def isEmpty (store : Store) : Bool :=
  store.index.isEmpty

/-- The reference in a slot. -/
def inSlot? (store : Store) (slot : Nat) : Option Reference :=
  store.slots[slot]?.join

/-- The reference of a name. -/
def find? (store : Store) (name : String) : Option Reference :=
  store.index[name]?.bind store.inSlot?

/-- The target of a name: what a caller can know about the name. -/
def targetOf (store : Store) (name : String) : Option Target :=
  (store.find? name).map (·.target)

/-- The references in the order of their slots. -/
def references (store : Store) : List Reference :=
  store.slots.toList.filterMap id

/-- A short description for diagnostics. -/
def describe (store : Store) : String :=
  s!"MemoryRefdb \x7b ref_count: {store.size}, free_slots: {store.vacant.length} \x7d"

/-! ### Reading -/

/-- Whether a name is in use. -/
def contains (store : Store) (name : String) : Bool :=
  store.index.contains name

/-! ### Checks -/

/-- Check the name of a new reference.  Even a store that accepts all names refuses the empty
one. -/
def checkName (config : StoreConfig) (name : String) : Except RefError Unit :=
  if name = "" then .error (.invalidInput .emptyName)
  else if config.validateNames then (RefName.check name).mapError (.invalidName name)
  else .ok ()

/-- Check the target of a new reference. -/
def checkTarget (config : StoreConfig) (name : String) : Target → Except RefError Unit
  | .direct id =>
      if id.isNull then .error (.invalidInput (.nullTarget name)) else .ok ()
  | .symbolic target =>
      if target = "" then .error (.invalidInput (.emptyTarget name))
      else if config.validateNames then (RefName.check target).mapError (.invalidName target)
      else .ok ()

/-- Check a new reference: its name first, then its target. -/
def checkReference (config : StoreConfig) (reference : Reference) : Except RefError Unit :=
  match checkName config reference.name with
  | .error error => .error error
  | .ok () => checkTarget config reference.name reference.target

/-! ### Changes -/

/-- Put a reference into a slot. -/
def fill (store : Store) (slot : Nat) (reference : Reference) : Store :=
  { store with slots := store.slots.setIfInBounds slot (some reference) }

/-- Add a reference under a name that is not in use.  The room for it has been reserved. -/
def insertNew (store : Store) (reference : Reference) : Store :=
  match store.vacant with
  | slot :: vacant =>
      { store.fill slot reference with
        vacant
        index := store.index.insert reference.name slot }
  | [] =>
      { store with
        slots := store.slots.push (some reference)
        index := store.index.insert reference.name store.slots.size }

/-- Remove the reference of a name from its slot. -/
def unlink (store : Store) (name : String) (slot : Nat) : Store :=
  { store with
    slots := store.slots.setIfInBounds slot none
    vacant := slot :: store.vacant
    index := store.index.erase name }

/-- Whether a live target differs from the one that a caller expects, if it expects one. -/
def isStale (expected : Option Target) (live : Target) : Bool :=
  expected.any (· != live)

/-- Remove the reference that stands in the way of a new name. -/
def displace (store : Store) (name : String) : Store :=
  match store.index[name]? with
  | none => store
  | some slot => store.unlink name slot

/-- Move the name of a slot. -/
def rekey (store : Store) (oldName newName : String) (slot : Nat) : Store :=
  { store with index := (store.index.erase oldName).insert newName slot }

/-! ### Actions -/

/-- A step of an operation, or several of them.  It may change the store, and it may fail; what it
has changed by then stays changed. -/
abbrev Action (Result : Type) := ExceptT RefError (StateM Store) Result

namespace Action

variable {Result Next : Type} {store : Store}

/-- What an action comes to on a store. -/
def outcome (action : Action Result) (store : Store) : Outcome Result :=
  (ExceptT.run action).run store

@[simp] theorem outcome_pure (value : Result) :
    (pure value : Action Result).outcome store = (.ok value, store) := rfl

@[simp] theorem outcome_throw (error : RefError) :
    (throw error : Action Result).outcome store = (.error error, store) := rfl

@[simp] theorem outcome_get : (get : Action Store).outcome store = (.ok store, store) := rfl

@[simp] theorem outcome_modify (change : Store → Store) :
    (modify change : Action Unit).outcome store = (.ok (), change store) := rfl

/-- A check fails or passes, and changes nothing. -/
@[simp] theorem outcome_liftM (check : Except RefError Result) :
    (liftM check : Action Result).outcome store = (check, store) := by
  cases check <;> rfl

/-- An action goes on from the store that its first part has reached, unless that part has failed. -/
@[simp] theorem outcome_bind (first : Action Result) (next : Result → Action Next) :
    (first >>= next).outcome store =
      match first.outcome store with
      | (.ok value, reached) => (next value).outcome reached
      | (.error error, reached) => (.error error, reached) := by
  simp only [outcome, ExceptT.run_bind, StateT.run_bind]
  change (match (ExceptT.run first).run store with | (result, reached) => _) = _
  rcases (ExceptT.run first).run store with ⟨_ | _, _⟩ <;> rfl

@[simp] theorem outcome_map (change : Result → Next) (action : Action Result) :
    (change <$> action).outcome store =
      ((action.outcome store).1.map change, (action.outcome store).2) := by
  rw [map_eq_pure_bind, outcome_bind]
  rcases action.outcome store with ⟨_ | _, _⟩ <;> rfl

variable (memory : Memory)

/-- Reserve memory. -/
def reserve (reservation : Reservation) : Action Unit :=
  if memory reservation then pure () else throw .outOfMemory

@[simp] theorem outcome_reserve (reservation : Reservation) :
    (reserve memory reservation).outcome store =
      if memory reservation then (.ok (), store) else (.error .outOfMemory, store) := by
  unfold reserve
  split <;> rfl

/-- Copy a target.  Only a name in it takes memory. -/
def copyTarget : Target → Action Target
  | .direct id => pure (.direct id)
  | .symbolic name => do
      reserve memory .target
      return .symbolic name

/-- Look a name up and copy what is found. -/
def lookup (name : String) : Action Reference := do
  match (← get).find? name with
  | none => throw (.notFound name)
  | some reference =>
      reserve memory .name
      let target ← copyTarget memory reference.target
      return { reference with target }

/-- Add a reference under a name that is not in use.  A slot takes memory only if none is vacant. -/
def insertNew (reference : Reference) : Action Unit := do
  reserve memory .name
  reserve memory .key
  let target ← copyTarget memory reference.target
  reserve memory .index
  if (← get).vacant.isEmpty then
    reserve memory .slot
  modify (·.insertNew { reference with target })

/-- Create a reference, or replace the target of an existing one when forced to.  With an expected
target the name must exist and have that target. -/
def write (reference : Reference) (force : Bool) (expected : Option Target) : Action Unit := do
  let store ← get
  checkReference store.config reference
  match store.index[reference.name]? with
  | none =>
      if expected.isSome then throw (.modified reference.name)
      else insertNew memory reference
  | some slot =>
      if !force then throw (.alreadyExists reference.name)
      else
        let target ← copyTarget memory reference.target
        match store.inSlot? slot with
        | none => throw (.notFound reference.name)
        | some live =>
            if isStale expected live.target then throw (.modified reference.name)
            else modify (·.fill slot { live with target })

/-- Give a reference another name; it stays in its slot, and its log follows it.  A reference that
already has the new name is displaced when forced. -/
def rename (oldName newName : String) (force : Bool) : Action Reference := do
  let store ← get
  checkName store.config newName
  if store.contains newName && !force then throw (.alreadyExists newName)
  else
    match store.index[oldName]? with
    | none => throw (.notFound oldName)
    | some slot =>
        if oldName = newName then lookup memory oldName
        else
          reserve memory .key
          reserve memory .name
          reserve memory .index
          if store.contains newName then
            reserve memory .vacancy
          modify (·.displace newName)
          modify (·.rekey oldName newName slot)
          -- The one exit behind a change.
          match (← get).inSlot? slot with
          | none => throw (.notFound oldName)
          | some live =>
              let renamed := { live with name := newName }
              modify (·.fill slot renamed)
              DiscardingLog.rename oldName newName
              return renamed

/-- Remove a reference.  With an expected target it must still have that target. -/
def delete (name : String) (expected : Option Target) : Action Unit := do
  let store ← get
  match store.index[name]? with
  | none => throw (.notFound name)
  | some slot =>
      match store.inSlot? slot with
      | none => throw (.notFound name)
      | some live =>
          if isStale expected live.target then throw (.modified name)
          else
            reserve memory .vacancy
            modify (·.unlink name slot)

end Action

/-! ### Operations -/

section

variable {store : Store}

/-- A target is copied as it is. -/
@[simp] theorem Action.outcome_copyTarget_ample (target : Target) :
    (Action.copyTarget .ample target).outcome store = (.ok target, store) := by
  cases target <;> simp [Action.copyTarget, Memory.ample, Except.map]

/-- With ample memory a new reference is always inserted. -/
@[simp] theorem Action.outcome_insertNew_ample (reference : Reference) :
    (Action.insertNew .ample reference).outcome store = (.ok (), store.insertNew reference) := by
  by_cases full : store.vacant = [] <;> simp [Action.insertNew, Memory.ample, full]

end

/-- Look a name up, with memory enough. -/
def lookup (store : Store) (name : String) : Except RefError Reference :=
  ((Action.lookup .ample name).outcome store).1

/-- A lookup leaves the store as it was. -/
@[simp] theorem Action.outcome_lookup_ample (store : Store) (name : String) :
    (Action.lookup .ample name).outcome store = (store.lookup name, store) := by
  cases found : store.find? name <;>
    simp [Store.lookup, Action.lookup, found, Memory.ample, Except.map]

/-- The ways of a lookup, without its reservations. -/
theorem lookup_def (store : Store) (name : String) : store.lookup name =
    match store.find? name with
    | some reference => .ok reference
    | none => .error (.notFound name) := by
  cases found : store.find? name <;>
    simp [lookup, Action.lookup, found, Memory.ample, Except.map]

/-- A lookup answers with what is found under the name. -/
theorem lookup_eq_ok_iff {store : Store} {name : String} {reference : Reference} :
    store.lookup name = .ok reference ↔ store.find? name = some reference := by
  rw [lookup_def]
  split <;> simp_all

/-- Looking a name up fails in one way only. -/
theorem lookup_eq_error_iff {store : Store} {name : String} {error : RefError} :
    store.lookup name = .error error ↔ store.find? name = none ∧ error = .notFound name := by
  rw [lookup_def]
  split
  · simp_all
  · rename_i missing
    simp only [missing, Except.error.injEq, true_and]
    exact eq_comm

/-- Create a reference, or replace the target of an existing one, with memory enough. -/
def write (store : Store) (reference : Reference) (force : Bool) (expected : Option Target) :
    Outcome Unit :=
  (Action.write .ample reference force expected).outcome store

/-- The ways of a write, without its reservations. -/
theorem write_def (store : Store) (reference : Reference) (force : Bool)
    (expected : Option Target) : store.write reference force expected =
    match checkReference store.config reference with
    | .error error => (.error error, store)
    | .ok () =>
        match store.index[reference.name]? with
        | none =>
            if expected.isSome then (.error (.modified reference.name), store)
            else (.ok (), store.insertNew reference)
        | some slot =>
            if !force then (.error (.alreadyExists reference.name), store)
            else
              match store.inSlot? slot with
              | none => (.error (.notFound reference.name), store)
              | some live =>
                  if isStale expected live.target then (.error (.modified reference.name), store)
                  else (.ok (), store.fill slot { live with target := reference.target }) := by
  simp only [write, Action.write, Action.outcome_bind, Action.outcome_get, Action.outcome_liftM]
  cases checkReference store.config reference with
  | error error => rfl
  | ok _ =>
      cases store.index[reference.name]? with
      | none => cases expected <;> simp
      | some slot =>
          cases force with
          | false => rfl
          | true =>
              cases held : store.inSlot? slot with
              | none => simp [held]
              | some live => cases current : isStale expected live.target <;> simp [held, current]

/-- Give a reference another name, with memory enough. -/
def rename (store : Store) (oldName newName : String) (force : Bool) : Outcome Reference :=
  (Action.rename .ample oldName newName force).outcome store

/-- The ways of a rename, without its reservations. -/
theorem rename_def (store : Store) (oldName newName : String) (force : Bool) :
    store.rename oldName newName force =
    match checkName store.config newName with
    | .error error => (.error error, store)
    | .ok () =>
        if store.contains newName && !force then (.error (.alreadyExists newName), store)
        else
          match store.index[oldName]? with
          | none => (.error (.notFound oldName), store)
          | some slot =>
              if oldName = newName then (store.lookup oldName, store)
              else
                let moved := (store.displace newName).rekey oldName newName slot
                match moved.inSlot? slot with
                | none => (.error (.notFound oldName), moved)
                | some live =>
                    let renamed := { live with name := newName }
                    ((DiscardingLog.rename oldName newName).map fun () => renamed,
                      moved.fill slot renamed) := by
  simp only [rename, Action.rename, Action.outcome_bind, Action.outcome_get, Action.outcome_liftM]
  cases checkName store.config newName with
  | error error => rfl
  | ok _ =>
      cases store.contains newName && !force with
      | true => rfl
      | false =>
          cases store.index[oldName]? with
          | none => rfl
          | some slot =>
              by_cases same : oldName = newName
              · simp [same]
              · cases held : ((store.displace newName).rekey oldName newName slot).inSlot? slot <;>
                  cases store.contains newName <;>
                    simp [same, held, Memory.ample, DiscardingLog.rename, Except.map]

/-- Remove a reference, with memory enough. -/
def delete (store : Store) (name : String) (expected : Option Target) : Outcome Unit :=
  (Action.delete .ample name expected).outcome store

/-- The ways of a removal, without its reservation. -/
theorem delete_def (store : Store) (name : String) (expected : Option Target) :
    store.delete name expected =
    match store.index[name]? with
    | none => (.error (.notFound name), store)
    | some slot =>
        match store.inSlot? slot with
        | none => (.error (.notFound name), store)
        | some live =>
            if isStale expected live.target then (.error (.modified name), store)
            else (.ok (), store.unlink name slot) := by
  simp only [delete, Action.delete, Action.outcome_bind, Action.outcome_get]
  cases store.index[name]? with
  | none => rfl
  | some slot =>
      cases held : store.inSlot? slot with
      | none => simp [held]
      | some live => cases current : isStale expected live.target <;>
          simp [held, current, Memory.ample]

/-- Drop all references and all slots. -/
def clear (store : Store) : Store :=
  empty store.config

/-! ### The invariant -/

/-- What ties the parts of a store together: the index and the slots agree, and the vacant slots are
listed, each one once. -/
structure Invariant (store : Store) : Prop where
  indexed : ∀ name slot, store.index[name]? = some slot →
    ∃ target, store.slots[slot]? = some (some (Reference.mk name target))
  found : ∀ (slot : Nat) (reference : Reference), store.slots[slot]? = some (some reference) →
    store.index[reference.name]? = some slot
  vacant_nodup : store.vacant.Nodup
  mem_vacant : ∀ slot, slot ∈ store.vacant ↔ store.slots[slot]? = some none

/-- A new store is in order: it has no slots that could be out of step. -/
theorem invariant_empty (config : StoreConfig) : (empty config).Invariant where
  indexed := by simp
  found := by simp
  vacant_nodup := by simp
  mem_vacant := by simp

end Store

end NamedRefs

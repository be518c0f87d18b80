/-
Module: NamedRefs.Proofs.Store.Catalog
Purpose: The calls of a store as they look to a caller who knows nothing of slots: a map from names
  to targets.
Main exports: Catalog, Catalog.write, Catalog.delete, Catalog.rename, Catalog.perform,
  Catalog.trace, Store.catalog
-/
import NamedRefs.Store.Call

namespace NamedRefs

/-!
A catalog is a finite map from names to targets.  It answers the calls of a store by the map alone:
there are no slots that could be mixed up, no entries that could go stale, and a rename to the own
name is no special case.  Calls that show the order of the slots, or count the vacant ones, have no
answer here.
-/

/-- A map from names to targets, with the settings of the store that it describes. -/
structure Catalog where
  config : StoreConfig
  targets : Std.ExtTreeMap String Target compare

namespace Catalog

/-- The catalog without names. -/
def empty (config : StoreConfig) : Catalog :=
  { config, targets := ∅ }

/-! ### Refusals -/

/-- Why a name breaks the rules, where the rules are on. -/
def ruleFault? (catalog : Catalog) (name : String) : Option RefError :=
  if catalog.config.validateNames then (RefName.fault? name).map (.invalidName name) else none

/-- Why a name is refused: the empty one always, any other for breaking the rules. -/
def nameFault? (catalog : Catalog) (name : String) : Option RefError :=
  if name = "" then some (.invalidInput .emptyName) else catalog.ruleFault? name

/-- Why the target of a name is refused: null ids and empty names always, any other name for breaking
the rules. -/
def targetFault? (catalog : Catalog) (name : String) : Target → Option RefError
  | .direct id =>
      if id = ObjectId.null id.format then some (.invalidInput (.nullTarget name)) else none
  | .symbolic target =>
      if target = "" then some (.invalidInput (.emptyTarget name)) else catalog.ruleFault? target

/-- Why a reference is refused; its name comes before its target. -/
def referenceFault? (catalog : Catalog) (reference : Reference) : Option RefError :=
  (catalog.nameFault? reference.name).or
    (catalog.targetFault? reference.name reference.target)

/-! ### Changes -/

/-- A new name must not be expected to have a value; an old one must be forced, and must have the
expected value if there is one. -/
def write (catalog : Catalog) (reference : Reference) (force : Bool) (expected : Option Target) :
    Except RefError Answer × Catalog :=
  let written :=
    { catalog with targets := catalog.targets.insert reference.name reference.target }
  match catalog.referenceFault? reference with
  | some error => (.error error, catalog)
  | none =>
      match catalog.targets[reference.name]? with
      | none =>
          if expected = none then (.ok .done, written)
          else (.error (.modified reference.name), catalog)
      | some live =>
          if force = false then (.error (.alreadyExists reference.name), catalog)
          else if expected = none ∨ expected = some live then (.ok .done, written)
          else (.error (.modified reference.name), catalog)

/-- A name must exist, and must have the expected value if there is one. -/
def delete (catalog : Catalog) (name : String) (expected : Option Target) :
    Except RefError Answer × Catalog :=
  match catalog.targets[name]? with
  | none => (.error (.notFound name), catalog)
  | some live =>
      if expected = none ∨ expected = some live then
        (.ok .done, { catalog with targets := catalog.targets.erase name })
      else (.error (.modified name), catalog)

/-- The new name takes the target of the old one, over whatever it stood for before. -/
def rename (catalog : Catalog) (oldName newName : String) (force : Bool) :
    Except RefError Answer × Catalog :=
  match catalog.nameFault? newName with
  | some error => (.error error, catalog)
  | none =>
      if newName ∈ catalog.targets ∧ force = false then
        (.error (.alreadyExists newName), catalog)
      else
        match catalog.targets[oldName]? with
        | none => (.error (.notFound oldName), catalog)
        | some target =>
            (.ok (.reference ⟨newName, target⟩),
              { catalog with targets := (catalog.targets.erase oldName).insert newName target })

/-! ### Calls -/

/-- The answer to a question about one name. -/
def lookup (catalog : Catalog) (name : String) : Except RefError Answer :=
  match catalog.targets[name]? with
  | some target => .ok (.reference ⟨name, target⟩)
  | none => .error (.notFound name)

/-- No name ever has a log, and changing one succeeds without a trace. -/
def log : LogCall → Except RefError Answer
  | .has _ => .ok (.flag false)
  | .read name => .error (.notFound name)
  | .ensure _ | .write _ | .rename _ _ | .delete _ => .ok .done

/-- Answer a call, if the map determines the answer, and give the map afterwards. -/
def perform (catalog : Catalog) : Store.Call → Option (Except RefError Answer) × Catalog
  | .write reference force expected =>
      let (answer, next) := catalog.write reference force expected
      (some answer, next)
  | .delete name expected =>
      let (answer, next) := catalog.delete name expected
      (some answer, next)
  | .rename oldName newName force =>
      let (answer, next) := catalog.rename oldName newName force
      (some answer, next)
  | .lookup name => (some (catalog.lookup name), catalog)
  | .contains name => (some (.ok (.flag (decide (name ∈ catalog.targets)))), catalog)
  | .isEmpty => (some (.ok (.flag (catalog.targets.size == 0))), catalog)
  | .config => (some (.ok (.config catalog.config)), catalog)
  | .clear => (some (.ok .nothing), empty catalog.config)
  | .compress => (some (.ok .done), catalog)
  | .log call => (some (log call), catalog)
  | .lock _ => (some (.error (.unimplemented .lock)), catalog)
  | .unlock _ _ => (some (.error (.unimplemented .unlock)), catalog)
  | .iterate _ | .names _ | .cursor _ _ | .stats | .describe => (none, catalog)

/-- Answer calls one after the other: every answer, with the catalog after the call. -/
def trace (catalog : Catalog) : List Store.Call → List (Option (Except RefError Answer) × Catalog)
  | [] => []
  | call :: calls =>
      let outcome := catalog.perform call
      outcome :: outcome.2.trace calls

end Catalog

/-- What a caller can know of the names in a store. -/
def Store.catalog (store : Store) : Catalog where
  config := store.config
  targets := store.index.filterMap fun _ slot => (store.inSlot? slot).map (·.target)

end NamedRefs

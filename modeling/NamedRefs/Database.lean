/-
Module: NamedRefs.Database
Purpose: A store as a host program uses it: sorted listings, symbolic resolution and HEAD.
Main exports: Database, Database.list, Database.listNames, Database.resolve, Database.resolveId,
  Database.setHead, Database.Call, Database.perform, Database.run, Database.Reachable
-/
import NamedRefs.Store.Call

namespace NamedRefs

/-- A reference store with the conventions of its host. -/
structure Database where
  store : Store

namespace Database

/-- The name of the reference to the current branch. -/
def headName : String := "HEAD"

/-- The number of symbolic references that are followed at most. -/
def maxHops : Nat := 5

/-- A database without references. -/
def empty (config : StoreConfig) : Database :=
  { store := Store.empty config }

/-- A short description for diagnostics; the contents are not shown. -/
def describe (_database : Database) : String :=
  "Refdb \x7b .. \x7d"

/-! ### Listings -/

/-- The references that a pattern selects, sorted by name. -/
def list (database : Database) (pattern : Option String) : List Reference :=
  (database.store.iterate pattern).mergeSort fun first second =>
    (Text.byteOrder first.name second.name).isLE

/-- The names that a pattern selects, sorted. -/
def listNames (database : Database) (pattern : Option String) : List String :=
  (database.store.names pattern).mergeSort fun first second =>
    (Text.byteOrder first second).isLE

/-! ### Resolution -/

/-- Follow symbolic references from the current one, at most the given number of times.  When the
chain does not end in time, its start is named. -/
def follow (database : Database) (start : String) : Nat → Reference → Except RefError Reference
  | hops, current =>
      match current.target, hops with
      | .direct _, _ => .ok current
      | .symbolic _, 0 => .error (.symbolicLoop start)
      | .symbolic name, hops + 1 =>
          match database.store.lookup name with
          | .error error => .error error
          | .ok next => database.follow start hops next

/-- The direct reference that a name finally stands for. -/
def resolve (database : Database) (name : String) : Except RefError Reference :=
  match database.store.lookup name with
  | .error error => .error error
  | .ok reference => database.follow name maxHops reference

/-- The object that a name finally stands for. -/
def resolveId (database : Database) (name : String) : Except RefError ObjectId :=
  match database.resolve name with
  | .error error => .error error
  | .ok reference =>
      match reference.target.id? with
      | some id => .ok id
      | none => .error (.symbolicLoop name)

/-! ### Changes -/

/-- Create a reference whose name must not be in use. -/
def create (database : Database) (reference : Reference) : Except RefError Unit × Database :=
  let (result, store) := database.store.write reference false none
  (result, { store })

/-- Let HEAD stand for another name, whether it existed before or not. -/
def setHead (database : Database) (target : String) : Except RefError Unit × Database :=
  let (result, store) := database.store.write (.symbolic headName target) true none
  (result, { store })

/-! ### Calls -/

/-- A call to a database. -/
inductive Call where
  /-- A call that the store answers. -/
  | store (call : Store.Call)
  | create (reference : Reference)
  | list (pattern : Option String)
  | listNames (pattern : Option String)
  | resolve (name : String)
  | resolveId (name : String)
  | setHead (target : String)
  | describe
deriving DecidableEq

/-- Answer a call. -/
def perform (database : Database) : Call → Except RefError Answer × Database
  | .store call =>
      let (result, store) := database.store.perform call
      (result, { store })
  | .create reference =>
      let (result, next) := database.create reference
      (result.map fun () => .done, next)
  | .list pattern => (.ok (.references (database.list pattern)), database)
  | .listNames pattern => (.ok (.names (database.listNames pattern)), database)
  | .resolve name => ((database.resolve name).map .reference, database)
  | .resolveId name => ((database.resolveId name).map .id, database)
  | .setHead target =>
      let (result, next) := database.setHead target
      (result.map fun () => .done, next)
  | .describe => (.ok (.text database.describe), database)

/-- The database after calls. -/
def run (database : Database) (calls : List Call) : Database :=
  calls.foldl (fun current call => (current.perform call).2) database

/-- A database that some calls lead to from an empty one. -/
def Reachable (database : Database) : Prop :=
  ∃ config calls, (empty config).run calls = database

end Database

end NamedRefs

/-
Module: NamedRefs.Config
Purpose: The settings of a reference store.
Main exports: StoreConfig, StoreConfig.permissive, defaultBuckets
-/

namespace NamedRefs

/-- Number of buckets over which names are spread unless a configuration says otherwise. -/
def defaultBuckets : UInt64 := 1223

/-- The settings of a store. -/
structure StoreConfig where
  /-- Number of references to make room for in advance. -/
  initialCapacity : UInt64 := defaultBuckets
  /-- Whether names must follow the naming rules. -/
  validateNames : Bool := true
  /-- Number of buckets over which the statistics spread the names. -/
  statsBuckets : UInt64 := defaultBuckets
deriving DecidableEq, Repr, Inhabited

/-- Settings under which every name but the empty one is accepted. -/
def StoreConfig.permissive : StoreConfig :=
  { validateNames := false }

end NamedRefs

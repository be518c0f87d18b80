/-
Module: NamedRefs.Store.Stats
Purpose: Figures about the contents of a store.
Main exports: Stats, bucketLimit, Tally, Tally.start, Tally.count, Store.buckets, Store.tally,
  Store.stats
-/
import NamedRefs.RefName.Hash
import NamedRefs.Store

namespace NamedRefs

/-!
The names of a store are spread over a table of buckets, and the table is laid out in memory as a
whole.  Each bucket takes eight bytes of it, and no block of memory has `2 ^ 63` bytes.  A store may be
configured with more buckets than that allows; it then works as any other, but there are no figures
about it.
-/

/-- Figures about a store. -/
@[ext]
structure Stats where
  references : Nat
  direct : Nat
  symbolic : Nat
  freeSlots : Nat
  /-- The most names that fall into one bucket. -/
  longestChain : Nat
deriving DecidableEq, Repr

/-- The least number of buckets for which no table can be laid out. -/
def bucketLimit : Nat := Nat.pow 2 60

/-- What has been counted on the way through the slots. -/
structure Tally (buckets : Nat) where
  references : Nat
  direct : Nat
  symbolic : Nat
  /-- For each bucket the number of names that fall into it. -/
  chains : Vector Nat buckets
  fits : buckets < bucketLimit

namespace Tally

variable {buckets : Nat}

/-- Nothing has been counted. -/
def start (fits : buckets < bucketLimit) : Tally buckets :=
  { references := 0, direct := 0, symbolic := 0, chains := .replicate buckets 0, fits }

/-- Count one more reference. -/
def count (positive : 0 < buckets) (tally : Tally buckets) (reference : Reference) :
    Tally buckets :=
  let bucket := RefName.bucketOf reference.name buckets
  have inRange : bucket < buckets := RefName.bucketOf_lt reference.name positive
  let counted :=
    { tally with
      references := tally.references + 1
      chains := tally.chains.set bucket (tally.chains[bucket] + 1) }
  match reference.target.kind with
  | .direct => { counted with direct := tally.direct + 1 }
  | .symbolic => { counted with symbolic := tally.symbolic + 1 }

end Tally

namespace Store

/-- Number of buckets over which the names are spread; none at all counts as one. -/
def buckets (store : Store) : Nat :=
  max store.config.statsBuckets.toNat 1

/-- There is always a bucket to fall into. -/
theorem buckets_pos (store : Store) : 0 < store.buckets :=
  Nat.le_max_right _ _

/-- Count the references slot by slot. -/
def tally (store : Store) (fits : store.buckets < bucketLimit) : Tally store.buckets :=
  store.references.foldl (Tally.count store.buckets_pos) (Tally.start fits)

/-- The figures of a store, if there can be a table of its buckets. -/
def stats (store : Store) (fits : store.buckets < bucketLimit) : Stats :=
  let tally := store.tally fits
  { references := tally.references
    direct := tally.direct
    symbolic := tally.symbolic
    freeSlots := store.vacant.length
    longestChain := tally.chains.toList.max?.getD 0 }

end Store

end NamedRefs

/-
Module: NamedRefs.Proofs.Store.Statistics
Purpose: The figures of a store count what can be looked up in it, and the longest chain is the largest
  number of names in one bucket.
Main exports: Tally.Counts, Tally.Counts.count, Tally.Counts.foldl, Store.counts_tally, Store.live,
  Store.namesIn, Store.Invariant.encard_live_of_kind, Store.Invariant.encard_namesIn,
  Store.isGreatest_longestChain, Store.Invariant.references_le_mul_longestChain, Store.stats_congr,
  Store.statistics_are_exact, Store.too_many_buckets_panic
-/
import Mathlib.Algebra.Order.BigOperators.Group.Finset
import Mathlib.Data.Set.Card
import NamedRefs.Proofs.Store.Admission
import NamedRefs.Proofs.Store.Traversal

namespace NamedRefs

/-!
The figures are added up slot by slot, but what they count can be said without slots: the references
that lookups give, and the names in use that fall into a bucket.  No reference and no name occupies two
slots, so nothing is counted twice.  Each name falls into exactly one of the buckets.  The names are
therefore at least as many as those of the fullest bucket, and at most that number for each bucket.
-/

/-! ### Counting -/

namespace Tally

variable {buckets : Nat} {tally : Tally buckets} {counted : List Reference}

/-- What a tally says when these references have been counted. -/
structure Counts (tally : Tally buckets) (counted : List Reference) : Prop where
  references : tally.references = counted.length
  direct : tally.direct = counted.countP (·.target.kind == .direct)
  symbolic : tally.symbolic = counted.countP (·.target.kind == .symbolic)
  chains : ∀ bucket (inRange : bucket < buckets), tally.chains[bucket] =
    counted.countP (RefName.bucketOf ·.name buckets == bucket)

/-- A tally starts as the count of no references. -/
theorem counts_start (fits : buckets < bucketLimit) : (start fits).Counts [] where
  references := rfl
  direct := rfl
  symbolic := rfl
  chains _ inRange := Vector.getElem_replicate inRange

section

variable (positive : 0 < buckets) (tally) (reference : Reference)

theorem references_count : (tally.count positive reference).references = tally.references + 1 := by
  rcases reference with ⟨name, _ | _⟩ <;> rfl

theorem direct_count : (tally.count positive reference).direct =
    tally.direct + if reference.target.kind == .direct then 1 else 0 := by
  rcases reference with ⟨name, _ | _⟩ <;> rfl

theorem symbolic_count : (tally.count positive reference).symbolic =
    tally.symbolic + if reference.target.kind == .symbolic then 1 else 0 := by
  rcases reference with ⟨name, _ | _⟩ <;> rfl

/-- A counted reference lengthens the chain of its own bucket, and no other. -/
theorem getElem_chains_count {bucket : Nat} (inRange : bucket < buckets) :
    (tally.count positive reference).chains[bucket] = tally.chains[bucket] +
      if RefName.bucketOf reference.name buckets == bucket then 1 else 0 := by
  have falls := RefName.bucketOf_lt reference.name positive
  have lengthened : (tally.count positive reference).chains = tally.chains.set
      (RefName.bucketOf reference.name buckets)
      (tally.chains[RefName.bucketOf reference.name buckets] + 1) falls := by
    rcases reference with ⟨name, _ | _⟩ <;> rfl
  simp only [lengthened, Vector.getElem_set, beq_iff_eq]
  split
  case isTrue same => simp only [same]
  case isFalse => rfl

end

/-- One more reference is counted in all, for its kind and in its bucket, and nowhere else. -/
theorem Counts.count (counts : tally.Counts counted) (positive : 0 < buckets)
    (reference : Reference) :
    (tally.count positive reference).Counts (counted ++ [reference]) where
  references := by
    rw [references_count, counts.references, List.length_append, List.length_singleton]
  direct := by
    rw [direct_count, counts.direct, List.countP_append, List.countP_singleton]
  symbolic := by
    rw [symbolic_count, counts.symbolic, List.countP_append, List.countP_singleton]
  chains bucket inRange := by
    rw [getElem_chains_count, counts.chains bucket inRange, List.countP_append,
      List.countP_singleton]

/-- Counting goes on from what has been counted before. -/
theorem Counts.foldl (counts : tally.Counts counted) (positive : 0 < buckets)
    (references : List Reference) :
    (references.foldl (Tally.count positive) tally).Counts (counted ++ references) := by
  induction references generalizing tally counted with
  | nil => rwa [List.append_nil]
  | cons reference references inductionHypothesis =>
      rw [List.foldl_cons, List.append_cons]
      exact inductionHypothesis (counts.count positive reference)

end Tally

namespace Store

section

variable (store : Store) (fits : store.buckets < bucketLimit)

/-- The tally of a store is the count of all its references. -/
theorem counts_tally : (store.tally fits).Counts store.references :=
  (Tally.counts_start fits).foldl store.buckets_pos store.references

/-- The figure for references is their number. -/
theorem stats_references : (store.stats fits).references = store.references.length :=
  (store.counts_tally fits).references

/-- The figure for direct references is the number of those with an object id for target. -/
theorem stats_direct :
    (store.stats fits).direct = store.references.countP (·.target.kind == .direct) :=
  (store.counts_tally fits).direct

/-- The figure for symbolic references is the number of those with a name for target. -/
theorem stats_symbolic :
    (store.stats fits).symbolic = store.references.countP (·.target.kind == .symbolic) :=
  (store.counts_tally fits).symbolic

/-- The call for figures is answered with them as long as there can be a table of the buckets. -/
theorem answer_stats : (store.perform .stats).1 = .ok (.stats (store.stats fits)) := by
  simp only [perform, performWithin, dif_pos fits]

/-- With more buckets the call panics. -/
theorem answer_stats_of_le (tooMany : bucketLimit ≤ store.buckets) :
    (store.perform .stats).1 = .ok .panicked := by
  simp only [perform, performWithin, dif_neg (Nat.not_lt.mpr tooMany)]

end

/-- Number of names that fall into a bucket. -/
def chainLength (store : Store) (bucket : Nat) : Nat :=
  store.references.countP fun reference =>
    RefName.bucketOf reference.name store.buckets == bucket

/-- The references that can be looked up. -/
def live (store : Store) : Set Reference :=
  {reference | store.lookup reference.name = .ok reference}

/-- The names in use that fall into a bucket, of so many buckets in all. -/
def namesIn (store : Store) (buckets bucket : Nat) : Set String :=
  {name | store.contains name = true ∧ RefName.bucketOf name buckets = bucket}

/-- What a list without repetitions holds is as much as the list is long. -/
private theorem encard_setOf_mem {Element : Type} [DecidableEq Element] {elements : List Element}
    (distinct : elements.Nodup) : {element | element ∈ elements}.encard = elements.length := by
  rw [← List.coe_toFinset, Set.encard_coe_eq_coe_finsetCard, List.toFinset_card_of_nodup distinct]

/-! ### What is counted -/

namespace Invariant

variable {store : Store}

/-- The figure for references is the size of the store. -/
theorem stats_references_eq_size (invariant : store.Invariant)
    (fits : store.buckets < bucketLimit) : (store.stats fits).references = store.size :=
  (store.stats_references fits).trans invariant.size_eq_length.symm

/-- The live references are those the slots hold. -/
theorem live_eq (invariant : store.Invariant) :
    store.live = {reference | reference ∈ store.references} :=
  Set.ext fun _ => invariant.mem_references_iff_lookup.symm

/-- No live reference is held twice. -/
theorem encard_live (invariant : store.Invariant) :
    store.live.encard = store.references.length := by
  rw [invariant.live_eq, encard_setOf_mem invariant.nodup_references]

/-- The live references of one kind are as many as a pass counts. -/
theorem encard_live_of_kind (invariant : store.Invariant) (kind : TargetKind) :
    {reference ∈ store.live | reference.target.kind = kind}.encard =
      store.references.countP (·.target.kind == kind) := by
  have listed : {reference ∈ store.live | reference.target.kind = kind} =
      {reference | reference ∈ store.references.filter (·.target.kind == kind)} := by
    ext reference
    simp [invariant.live_eq]
  rw [listed, encard_setOf_mem (invariant.nodup_references.filter _),
    List.countP_eq_length_filter]

/-- The names in use are those a pass meets. -/
theorem contains_iff_mem_names (invariant : store.Invariant) {name : String} :
    store.contains name = true ↔ name ∈ store.references.map (·.name) := by
  rw [← invariant.keys_perm.mem_iff, Std.ExtTreeMap.mem_keys]
  exact Std.ExtTreeMap.contains_iff_mem

/-- A chain is as long as there are names in use in its bucket. -/
theorem encard_namesIn (invariant : store.Invariant) (bucket : Nat) :
    (store.namesIn store.buckets bucket).encard = store.chainLength bucket := by
  have listed : store.namesIn store.buckets bucket =
      {name | name ∈ (store.references.map (·.name)).filter
        (RefName.bucketOf · store.buckets == bucket)} := by
    ext name
    simp only [namesIn, Set.mem_ofPred_eq, List.mem_filter, invariant.contains_iff_mem_names,
      beq_iff_eq]
  rw [listed, encard_setOf_mem (invariant.nodup_names.filter _), ← List.countP_eq_length_filter,
    List.countP_map]
  rfl

end Invariant

/-- Every reference is counted as direct or as symbolic, and none as both. -/
theorem direct_add_symbolic (store : Store) (fits : store.buckets < bucketLimit) :
    (store.stats fits).direct + (store.stats fits).symbolic = (store.stats fits).references := by
  have otherwise : (fun reference : Reference =>
      decide ¬(reference.target.kind == .direct) = true) = (·.target.kind == .symbolic) := by
    funext reference
    rcases reference with ⟨name, _ | _⟩ <;> rfl
  rw [stats_direct, stats_symbolic, stats_references, ← otherwise]
  exact (List.length_eq_countP_add_countP _).symm

/-! ### The longest chain -/

section

variable (store : Store) (fits : store.buckets < bucketLimit)

/-- The tallied chains are those of the buckets. -/
theorem mem_chains_iff {length : Nat} :
    length ∈ (store.tally fits).chains.toList ↔
      ∃ bucket < store.buckets, store.chainLength bucket = length := by
  rw [Vector.mem_toList_iff, Vector.mem_iff_getElem]
  constructor
  · rintro ⟨bucket, inRange, isLength⟩
    exact ⟨bucket, inRange, ((store.counts_tally fits).chains bucket inRange).symm.trans isLength⟩
  · rintro ⟨bucket, inRange, isLength⟩
    exact ⟨bucket, inRange, ((store.counts_tally fits).chains bucket inRange).trans isLength⟩

/-- The figure for the longest chain is the greatest length a bucket has. -/
theorem isGreatest_longestChain :
    IsGreatest {length | ∃ bucket < store.buckets, store.chainLength bucket = length}
      (store.stats fits).longestChain := by
  have occupied : (store.tally fits).chains.toList ≠ [] := by
    apply List.ne_nil_of_length_pos
    rw [Vector.length_toList]
    exact store.buckets_pos
  obtain ⟨longest, isLongest⟩ := Option.isSome_iff_exists.mp (List.isSome_max?_iff.mpr occupied)
  have figure : (store.stats fits).longestChain = longest := by
    change (store.tally fits).chains.toList.max?.getD 0 = longest
    rw [isLongest, Option.getD_some]
  obtain ⟨member, largest⟩ := List.max?_eq_some_iff.mp isLongest
  rw [figure]
  constructor
  · exact (store.mem_chains_iff fits).mp member
  · intro length isLength
    exact largest length ((store.mem_chains_iff fits).mpr isLength)

/-- No chain is longer than there are references. -/
theorem longestChain_le_references :
    (store.stats fits).longestChain ≤ (store.stats fits).references := by
  obtain ⟨bucket, _, isLongest⟩ := (store.isGreatest_longestChain fits).1
  rw [← isLongest, stats_references]
  exact List.countP_le_length

end

/-- If no bucket holds more names than the fullest one, all together hold at most so many times more. -/
theorem Invariant.references_le_mul_longestChain {store : Store} (invariant : store.Invariant)
    (fits : store.buckets < bucketLimit) :
    (store.stats fits).references ≤ store.buckets * (store.stats fits).longestChain := by
  have distinct : store.references.Nodup := invariant.nodup_references
  have inRange : ∀ reference ∈ store.references.toFinset,
      RefName.bucketOf reference.name store.buckets ∈ Finset.range store.buckets := by
    intro reference _
    exact Finset.mem_range.mpr (RefName.bucketOf_lt reference.name store.buckets_pos)
  have few : ∀ bucket ∈ Finset.range store.buckets, (store.references.toFinset.filter
      fun reference => RefName.bucketOf reference.name store.buckets = bucket).card ≤
        (store.stats fits).longestChain := by
    intro bucket inRange
    have sameCount : (store.references.toFinset.filter fun reference =>
        RefName.bucketOf reference.name store.buckets = bucket).card =
          store.chainLength bucket := by
      rw [chainLength, List.countP_eq_length_filter, ← List.toFinset_card_of_nodup
        (distinct.filter _), List.toFinset_filter]
      simp only [beq_iff_eq]
    rw [sameCount]
    exact (store.isGreatest_longestChain fits).2 ⟨bucket, Finset.mem_range.mp inRange, rfl⟩
  have bound := Finset.card_le_mul_card_image_of_maps_to inRange _ few
  rwa [List.toFinset_card_of_nodup distinct, Finset.card_range, Nat.mul_comm,
    ← stats_references _ fits] at bound

/-- All chains are empty exactly when the store is. -/
theorem Invariant.longestChain_eq_zero_iff {store : Store} (invariant : store.Invariant)
    (fits : store.buckets < bucketLimit) :
    (store.stats fits).longestChain = 0 ↔ store.isEmpty = true := by
  have emptyIff : store.isEmpty = true ↔ store.size = 0 := by
    rw [isEmpty, Std.ExtTreeMap.isEmpty_eq_size_beq_zero, beq_iff_eq, size]
  have least := store.longestChain_le_references fits
  have most := invariant.references_le_mul_longestChain fits
  rw [emptyIff, ← invariant.stats_references_eq_size fits]
  constructor
  · intro longest
    rw [longest, Nat.mul_zero] at most
    exact Nat.le_zero.mp most
  · intro noReferences
    exact Nat.le_zero.mp (noReferences ▸ least)

/-! ### Equal contents -/

/-- The figures of two stores with the same references and as many buckets differ in the vacant slots
at most. -/
theorem stats_congr {first second : Store} (sameReferences : first.references.Perm second.references)
    (sameBuckets : first.buckets = second.buckets) (firstFits : first.buckets < bucketLimit)
    (secondFits : second.buckets < bucketLimit) :
    { first.stats firstFits with freeSlots := (second.stats secondFits).freeSlots } =
      second.stats secondFits := by
  have sameLengths : ∀ length,
      (∃ bucket < first.buckets, first.chainLength bucket = length) ↔
        ∃ bucket < second.buckets, second.chainLength bucket = length := by
    intro length
    simp only [chainLength, sameBuckets, sameReferences.countP_eq]
  ext
  case references => rw [stats_references, stats_references, sameReferences.length_eq]
  case direct => rw [stats_direct, stats_direct, sameReferences.countP_eq]
  case symbolic => rw [stats_symbolic, stats_symbolic, sameReferences.countP_eq]
  case freeSlots => rfl
  case longestChain =>
    have longest := first.isGreatest_longestChain firstFits
    simp only [sameLengths] at longest
    exact longest.unique (second.isGreatest_longestChain secondFits)

/-- A run leaves the number of buckets as configured, or at one where none was configured. -/
theorem buckets_run (config : StoreConfig) (calls : List Call) :
    ((empty config).run calls).buckets = max config.statsBuckets.toNat 1 := by
  rw [Store.buckets, (invariant_empty config).config_run calls, config_empty]

/-- In every store that calls lead to, the figures can be had as long as there can be a table of the
configured number of buckets, or of one if that is zero; otherwise the call panics.  The figures count
the references that can be looked up, all of them and those of each kind, and the slots that hold
none.  With the names spread over the buckets, the longest chain is the largest number of names in use
that fall into one of them.  It is at most the number of references, which is at most as many times
larger as there are buckets, and it is zero only when the store is empty.  Another store with the same
references and as many buckets has the same figures, but for the vacant slots. -/
theorem statistics_are_exact (config : StoreConfig) (calls : List Call) :
    let store := (empty config).run calls
    let buckets := max config.statsBuckets.toNat 1
    (bucketLimit ≤ buckets → (store.perform .stats).1 = .ok .panicked) ∧
    (buckets < bucketLimit → ∃ stats, (store.perform .stats).1 = .ok (.stats stats) ∧
      (stats.references = store.size ∧ stats.references = stats.direct + stats.symbolic ∧
        store.live.encard = stats.references ∧
        {reference ∈ store.live | reference.target.kind = .direct}.encard = stats.direct ∧
        {reference ∈ store.live | reference.target.kind = .symbolic}.encard = stats.symbolic ∧
        stats.freeSlots = store.slots.countP Option.isNone) ∧
      ((∀ bucket < buckets, (store.namesIn buckets bucket).encard ≤ stats.longestChain) ∧
        ∃ bucket < buckets, (store.namesIn buckets bucket).encard = stats.longestChain) ∧
      (stats.longestChain ≤ stats.references ∧
        stats.references ≤ buckets * stats.longestChain ∧
        (stats.longestChain = 0 ↔ store.isEmpty = true)) ∧
      ∀ otherConfig otherCalls,
        let other := (empty otherConfig).run otherCalls
        max otherConfig.statsBuckets.toNat 1 = buckets → other.live = store.live →
          ∃ otherStats, (other.perform .stats).1 = .ok (.stats otherStats) ∧
            { otherStats with freeSlots := stats.freeSlots } = stats) := by
  intro store buckets
  have invariant : store.Invariant := (invariant_empty config).run calls
  have sameBuckets : store.buckets = buckets := buckets_run config calls
  constructor
  · intro tooMany
    exact store.answer_stats_of_le (sameBuckets ▸ tooMany)
  · intro few
    have fits : store.buckets < bucketLimit := sameBuckets ▸ few
    refine ⟨store.stats fits, store.answer_stats fits, ⟨invariant.stats_references_eq_size fits,
      (store.direct_add_symbolic fits).symm, ?live, ?direct, ?symbolic, invariant.length_vacant⟩,
      ⟨?atMost, ?attained⟩, ?bounds, ?contents⟩
    case live => rw [invariant.encard_live, ← stats_references]
    case direct => rw [invariant.encard_live_of_kind, ← stats_direct]
    case symbolic => rw [invariant.encard_live_of_kind, ← stats_symbolic]
    case atMost =>
      intro bucket inRange
      rw [← sameBuckets, invariant.encard_namesIn]
      exact_mod_cast (store.isGreatest_longestChain fits).2 ⟨bucket, sameBuckets ▸ inRange, rfl⟩
    case attained =>
      obtain ⟨bucket, inRange, isLongest⟩ := (store.isGreatest_longestChain fits).1
      refine ⟨bucket, sameBuckets ▸ inRange, ?_⟩
      rw [← sameBuckets, invariant.encard_namesIn, isLongest]
    case bounds =>
      rw [← sameBuckets]
      exact ⟨store.longestChain_le_references fits, invariant.references_le_mul_longestChain fits,
        invariant.longestChain_eq_zero_iff fits⟩
    case contents =>
      intro otherConfig otherCalls other asManyBuckets sameContents
      have otherInvariant : other.Invariant := (invariant_empty otherConfig).run otherCalls
      have otherBuckets : other.buckets = store.buckets :=
        (buckets_run otherConfig otherCalls).trans (asManyBuckets.trans sameBuckets.symm)
      have otherFits : other.buckets < bucketLimit := otherBuckets ▸ fits
      have sameReferences : other.references.Perm store.references := by
        apply otherInvariant.references_perm invariant
        intro reference
        rw [otherInvariant.mem_references_iff_lookup, invariant.mem_references_iff_lookup]
        exact Set.ext_iff.mp sameContents reference
      exact ⟨other.stats otherFits, other.answer_stats otherFits,
        stats_congr sameReferences otherBuckets otherFits fits⟩

/-- An empty store with just too many buckets has no figures, although all of them would be zero. -/
theorem too_many_buckets_panic :
    ((empty { statsBuckets := 1152921504606846976 }).run []).isEmpty = true ∧
      (((empty { statsBuckets := 1152921504606846976 }).run []).perform .stats).1 =
        .ok .panicked := by
  decide

end Store

end NamedRefs

/-
Module: NamedRefs.Proofs.Store.Collisions
Purpose: There are as many names with one hash as one likes, and names with one hash form a single chain
  in a store that holds nothing else.
Main exports: RefName.twinName, RefName.hash_twinName, RefName.collidingNames,
  Store.exists_run_holding, Store.Invariant.longestChain_eq_size,
  Store.colliding_names_form_one_chain
-/
import NamedRefs.Proofs.Database.Restoration
import NamedRefs.Proofs.RefName.Components
import NamedRefs.Proofs.RefName.Hash
import NamedRefs.Proofs.Store.Statistics

namespace NamedRefs

/-!
`Aa` and `BB` are names of one length and one hash.  Within a longer name either can stand for the other
without changing the hash, so names that are put together from these two blocks, equally many of them,
all collide.  They consist of letters and are valid; any store takes them in.
-/

namespace RefName

open Text

/-! ### Names with one hash -/

/-- A name of one block for each flag: `Aa` where it is set and `BB` where it is not. -/
def twinName : List Bool → String
  | [] => ""
  | true :: flags => "Aa" ++ twinName flags
  | false :: flags => "BB" ++ twinName flags

/-- Each flag adds two bytes to its name. -/
theorem length_utf8Bytes_twinName (flags : List Bool) :
    (utf8Bytes (twinName flags)).length = 2 * flags.length := by
  induction flags with
  | nil => rfl
  | cons flag flags inductionHypothesis =>
      cases flag <;>
        rw [twinName, utf8Bytes_append, List.length_append, inductionHypothesis, List.length_cons,
          Nat.mul_succ, Nat.add_comm] <;> rfl

/-- The first block can be exchanged. -/
theorem hash_twinName_cons (flag : Bool) (flags : List Bool) :
    hash (twinName (flag :: flags)) = hash ("BB" ++ twinName flags) := by
  cases flag with
  | false => rfl
  | true =>
      have exchanged : hash ("" ++ "Aa" ++ twinName flags) = hash ("" ++ "BB" ++ twinName flags) :=
        (hash_exchange_iff (by rfl) "" (twinName flags)).mpr (by rfl)
      simpa only [String.empty_append, twinName] using exchanged

/-- With equally many blocks all names have the same hash. -/
theorem hash_twinName {flags others : List Bool} (sameLength : flags.length = others.length) :
    hash (twinName flags) = hash (twinName others) := by
  induction flags generalizing others with
  | nil => rw [List.length_eq_zero_iff.mp sameLength.symm]
  | cons flag flags inductionHypothesis =>
      obtain ⟨other, others, rfl⟩ := List.exists_cons_of_length_eq_add_one sameLength.symm
      have sameRest := inductionHypothesis (Nat.succ.inj sameLength)
      have asLong : (utf8Bytes (twinName flags)).length = (utf8Bytes (twinName others)).length := by
        rw [length_utf8Bytes_twinName, length_utf8Bytes_twinName, Nat.succ.inj sameLength]
      have exchanged := (hash_exchange_iff asLong "BB" "").mpr sameRest
      simp only [String.append_empty] at exchanged
      rw [hash_twinName_cons, hash_twinName_cons, exchanged]

/-- The flags can be read off the name. -/
theorem twinName_injective : Function.Injective twinName := by
  intro flags others sameName
  induction flags generalizing others with
  | nil =>
      match others with
      | [] => rfl
      | true :: _ | false :: _ => simp [twinName, ← String.toList_inj] at sameName
  | cons flag flags inductionHypothesis =>
      match flag, others with
      | true, [] | false, [] => simp [twinName, ← String.toList_inj] at sameName
      | true, true :: others | false, false :: others =>
          rw [inductionHypothesis (String.append_right_inj _ |>.mp sameName)]
      | true, false :: others | false, true :: others =>
          simp [twinName, ← String.toList_inj] at sameName

/-- The names made of flags are of letters and digits only. -/
theorem alphanumeric_twinName (flags : List Bool) :
    ∀ character ∈ (twinName flags).toList, character.isAlphanum = true := by
  induction flags with
  | nil => nofun
  | cons flag flags inductionHypothesis =>
      cases flag <;> simpa [twinName] using inductionHypothesis

/-- As many names as asked for: in each one `Aa` stands in front of another number of `BB`. -/
def collidingNames (count : Nat) : List String :=
  (List.range count).map fun leading =>
    twinName (List.replicate leading true ++ List.replicate (count - leading) false)

/-- The colliding names are different names. -/
theorem nodup_collidingNames (count : Nat) : (collidingNames count).Nodup := by
  apply List.nodup_range.map
  intro leading other sameName
  have sameCount := congrArg (List.count true) (twinName_injective sameName)
  simpa [List.count_replicate] using sameCount

/-- The colliding names have one hash. -/
theorem hash_of_mem_collidingNames {count : Nat} {name : String}
    (member : name ∈ collidingNames count) :
    hash name = hash (twinName (List.replicate count true)) := by
  obtain ⟨leading, inRange, rfl⟩ := List.mem_map.mp member
  have short := List.mem_range.mp inRange
  apply hash_twinName
  simp only [List.length_append, List.length_replicate]
  omega

/-- The colliding names pass the checks of a name. -/
theorem isValid_of_mem_collidingNames {count : Nat} {name : String}
    (member : name ∈ collidingNames count) : IsValid name := by
  obtain ⟨leading, inRange, rfl⟩ := List.mem_map.mp member
  have short := List.mem_range.mp inRange
  refine isValid_of_alphanumeric ?nonempty (alphanumeric_twinName _)
  intro isEmpty
  have noBytes := congrArg (fun name => (utf8Bytes name).length) isEmpty
  simp only [length_utf8Bytes_twinName, List.length_append, List.length_replicate,
    utf8Bytes_empty, List.length_nil] at noBytes
  omega

end RefName

namespace Store

/-! ### Stores that hold given names -/

/-- Any valid names, each one once, can be the names of a store. -/
theorem exists_run_holding (config : StoreConfig) {names : List String} (distinct : names.Nodup)
    (valid : ∀ name ∈ names, RefName.IsValid name) :
    ∃ calls, ∀ name, ((empty config).run calls).contains name = true ↔ name ∈ names := by
  let references := names.map fun name => Reference.mk name (.symbolic name)
  have sameNames : references.map (·.name) = names := by
    simp [references, Function.comp_def]
  have accepts : (empty config).Accepts references := by
    constructor
    case checked =>
      intro reference member
      obtain ⟨name, isName, rfl⟩ := List.mem_map.mp member
      have admitted : config.AdmitsName name := by
        refine ⟨?_, fun _ => (RefName.check_eq_ok_iff name).mpr (valid name isName)⟩
        rintro rfl
        exact absurd (valid "" isName) (by decide)
      exact checkReference_eq_ok_iff.mpr ⟨admitted, admitted⟩
    case free => simp
    case distinct => rwa [sameNames]
  have inOrder : ((empty config).run (creations references)).references = references := by
    rw [Store.references, (accepts.slots_run_creations rfl).2]
    simp
  refine ⟨creations references, fun name => ?_⟩
  rw [((invariant_empty config).run _).contains_iff_mem_names, inOrder, sameNames]

/-- A store is as large as a list of the names in use, each named once. -/
theorem Invariant.size_eq_length_of_names {store : Store} (invariant : store.Invariant)
    {names : List String} (distinct : names.Nodup)
    (inUse : ∀ name, store.contains name = true ↔ name ∈ names) : store.size = names.length := by
  have sameNames : (store.references.map (·.name)).Perm names := by
    apply (List.perm_ext_iff_of_nodup invariant.nodup_names distinct).mpr
    intro name
    rw [← inUse, invariant.contains_iff_mem_names]
  rw [invariant.size_eq_length, ← sameNames.length_eq, List.length_map]

/-- Names with one hash all fall into one bucket, however many buckets there are. -/
theorem Invariant.longestChain_eq_size {store : Store} (invariant : store.Invariant) {value : UInt32}
    (collide : ∀ name, store.contains name = true → RefName.hash name = value)
    (fits : store.buckets < bucketLimit) : (store.stats fits).longestChain = store.size := by
  have sameBucket : store.chainLength (value.toNat % store.buckets) = store.references.length := by
    rw [chainLength, List.countP_eq_length]
    intro reference member
    have inUse : store.contains reference.name = true :=
      invariant.contains_iff_mem_names.mpr (List.mem_map_of_mem member)
    rw [beq_iff_eq, RefName.bucketOf, collide reference.name inUse]
  have inRange : value.toNat % store.buckets < store.buckets := Nat.mod_lt _ store.buckets_pos
  apply Nat.le_antisymm
  · exact (store.longestChain_le_references fits).trans_eq (invariant.stats_references_eq_size fits)
  · rw [invariant.size_eq_length, ← sameBucket]
    exact (store.isGreatest_longestChain fits).2 ⟨_, inRange, rfl⟩

/-- The hash of a name as a key of the index and its plain hash have the same collisions.  Two names of
one length can stand for each other within a longer name without changing its hash exactly when they
collide.  There are as many valid names of one hash as one likes, any of these names can be the names of
a store, and a store whose names are some that collide reports a chain of all of them, whatever its
number of buckets, unless there are so many that it reports nothing. -/
theorem colliding_names_form_one_chain (config : StoreConfig) :
    (∀ one two, RefName.keyHash one = RefName.keyHash two ↔ RefName.hash one = RefName.hash two) ∧
    (∀ one two, (Text.utf8Bytes one).length = (Text.utf8Bytes two).length → ∀ before behind,
      (RefName.hash (before ++ one ++ behind) = RefName.hash (before ++ two ++ behind) ↔
        RefName.hash one = RefName.hash two)) ∧
    (∀ count, ∃ names : List String, names.length = count ∧ names.Nodup ∧
      (∀ name ∈ names, RefName.IsValid name) ∧ ∃ value, ∀ name ∈ names, RefName.hash name = value) ∧
    (∀ names : List String, names.Nodup → (∀ name ∈ names, RefName.IsValid name) →
      ∃ calls, ∀ name, ((empty config).run calls).contains name = true ↔ name ∈ names) ∧
    ∀ calls (names : List String), names.Nodup →
      (∃ value, ∀ name ∈ names, RefName.hash name = value) →
      let store := (empty config).run calls
      (∀ name, store.contains name = true ↔ name ∈ names) →
        (max config.statsBuckets.toNat 1 < bucketLimit → ∃ stats,
          (store.perform .stats).1 = .ok (.stats stats) ∧ stats.longestChain = names.length) ∧
        (bucketLimit ≤ max config.statsBuckets.toNat 1 →
          (store.perform .stats).1 = .ok .panicked) := by
  refine ⟨fun one two => RefName.keyHash_eq_iff,
    fun one two sameLength => RefName.hash_exchange_iff sameLength, ?many,
    fun names => exists_run_holding config, ?chain⟩
  case many =>
    intro count
    refine ⟨RefName.collidingNames count, ?_, RefName.nodup_collidingNames count,
      fun name => RefName.isValid_of_mem_collidingNames, _,
      fun name => RefName.hash_of_mem_collidingNames⟩
    rw [RefName.collidingNames, List.length_map, List.length_range]
  case chain =>
    rintro calls names distinct ⟨value, collide⟩ store inUse
    have invariant : store.Invariant := (invariant_empty config).run calls
    have collideInUse : ∀ name, store.contains name = true → RefName.hash name = value :=
      fun name used => collide name ((inUse name).mp used)
    rw [← buckets_run config calls]
    constructor
    · intro fits
      refine ⟨store.stats fits, store.answer_stats fits, ?_⟩
      rw [invariant.longestChain_eq_size collideInUse fits,
        invariant.size_eq_length_of_names distinct inUse]
    · exact store.answer_stats_of_le

/-- Two names of one hash make no chain among just too many buckets. -/
theorem colliding_names_go_unreported :
    let config : StoreConfig := { validateNames := false, statsBuckets := 1152921504606846976 }
    let store := (empty config).run
      [.write ⟨"Aa", .symbolic "HEAD"⟩ false none, .write ⟨"BB", .symbolic "HEAD"⟩ false none]
    RefName.hash "Aa" = RefName.hash "BB" ∧ store.size = 2 ∧
      (store.perform .stats).1 = .ok .panicked := by
  decide

/-- Names of different lengths may collide as well, but they cannot stand for each other. -/
example : RefName.hash "\x1f" = RefName.hash "\x01\x00" ∧
    RefName.hash ("a" ++ "\x1f") ≠ RefName.hash ("a" ++ "\x01\x00") := by
  decide

end Store

end NamedRefs

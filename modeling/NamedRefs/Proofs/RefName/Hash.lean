/-
Module: NamedRefs.Proofs.RefName.Hash
Purpose: The hash of a name is the number that its bytes write in base 31, modulo `2 ^ 32`, however the
  bytes are fed, and which names collide does not depend on what stands around them.
Main exports: RefName.numeral, RefName.numeral_append, RefName.toNat_hashBytes,
  RefName.hash_is_numeral_modulo_word, RefName.hashBytes_left_inj, RefName.keyHash_eq_iff,
  RefName.hash_exchange_iff
-/
import Mathlib.Algebra.BigOperators.Fin
import Mathlib.Data.List.Infix
import Mathlib.Data.Nat.ModEq
import Mathlib.Tactic.Ring
import NamedRefs.RefName.Hash

namespace NamedRefs.RefName

open Text

/-!
Each step multiplies by the base and adds a digit, as one does to read a number, and only afterwards
drops what does not fit into a word.  Dropping early or late makes no difference to the remainder, so
the hash is the remainder of the number that all bytes write together.  Multiplication by 31 can be
undone modulo `2 ^ 32`, because 31 is odd: two states that differ are kept apart by any bytes that
follow.
-/

variable {state other : UInt32} {byte : UInt8} {bytes first second : List UInt8}

/-! ### The number that bytes write -/

/-- The number whose digits in base 31 are the bytes, the most significant one in front. -/
def numeral (bytes : List UInt8) : Nat :=
  ∑ place : Fin bytes.length, bytes[place].toNat * 31 ^ (bytes.length - 1 - place)

theorem numeral_nil : numeral [] = 0 := rfl

/-- The first byte of a numeral weighs as much as the number of bytes behind it says. -/
theorem numeral_cons (byte : UInt8) (bytes : List UInt8) :
    numeral (byte :: bytes) = byte.toNat * 31 ^ bytes.length + numeral bytes := by
  simp only [numeral, List.length_cons, Fin.sum_univ_succ, Fin.getElem_fin, Fin.val_zero,
    Fin.val_succ, List.getElem_cons_zero, List.getElem_cons_succ, Nat.add_sub_cancel, Nat.sub_zero,
    Nat.sub_sub, Nat.add_comm 1]

/-- Digits behind a number shift it by their count. -/
theorem numeral_append (first second : List UInt8) :
    numeral (first ++ second) = numeral first * 31 ^ second.length + numeral second := by
  induction first with
  | nil => rw [List.nil_append, numeral_nil, Nat.zero_mul, Nat.zero_add]
  | cons byte first inductionHypothesis =>
      rw [List.cons_append, numeral_cons, numeral_cons, inductionHypothesis, List.length_append]
      ring

/-! ### The hash as a number -/

/-- One step of the hash as arithmetic on natural numbers: times 31, plus the byte, modulo the word.
-/
theorem toNat_hashStep (state : UInt32) (byte : UInt8) :
    (hashStep state byte).toNat = (state.toNat * 31 + byte.toNat) % 2 ^ 32 := by
  simp [hashStep]

/-- A hash that goes on from a state is that of a number with the state as its leading part. -/
theorem toNat_hashBytes (state : UInt32) (bytes : List UInt8) :
    (hashBytes state bytes).toNat =
      (state.toNat * 31 ^ bytes.length + numeral bytes) % 2 ^ 32 := by
  induction bytes generalizing state with
  | nil =>
      rw [numeral_nil, List.length_nil, Nat.pow_zero, Nat.mul_one, Nat.add_zero]
      exact (Nat.mod_eq_of_lt state.toNat_lt).symm
  | cons byte bytes inductionHypothesis =>
      have stepped : hashBytes state (byte :: bytes) = hashBytes (hashStep state byte) bytes := rfl
      have sameRest : (state.toNat * 31 + byte.toNat) % 2 ^ 32 * 31 ^ bytes.length + numeral bytes ≡
          (state.toNat * 31 + byte.toNat) * 31 ^ bytes.length + numeral bytes [MOD 2 ^ 32] :=
        ((Nat.mod_modEq _ _).mul_right _).add_right _
      rw [stepped, inductionHypothesis, toNat_hashStep, sameRest, numeral_cons, List.length_cons]
      ring_nf

/-- The hash of a name is its bytes read as a numeral to base 31, modulo the word. -/
theorem toNat_hash (name : String) :
    (hash name).toNat = numeral (utf8Bytes name) % 2 ^ 32 := by
  rw [hash, toNat_hashBytes]
  simp

/-- The hash of a joined name is made of the hashes of its parts. -/
theorem toNat_hash_append (front back : String) :
    (hash (front ++ back)).toNat =
      ((hash front).toNat * 31 ^ (utf8Bytes back).length + (hash back).toNat) % 2 ^ 32 := by
  rw [toNat_hash, toNat_hash, toNat_hash, utf8Bytes_append, numeral_append]
  exact ((Nat.mod_modEq _ _).symm.mul_right _).add (Nat.mod_modEq _ _).symm

namespace Hasher

variable {hasher : Hasher}

/-- Pieces are hashed as what they are put together. -/
theorem finish_foldl_write (hasher : Hasher) (pieces : List (List UInt8)) :
    (pieces.foldl write hasher).finish = hashBytes hasher.state pieces.flatten := by
  induction pieces generalizing hasher with
  | nil => rfl
  | cons piece pieces inductionHypothesis =>
      rw [List.foldl_cons, inductionHypothesis, List.flatten_cons, hashBytes_append]
      rfl

/-- What is seen on the way is what each front part of the pieces leads to. -/
theorem trace_eq (hasher : Hasher) (pieces : List (List UInt8)) :
    hasher.trace pieces = pieces.inits.map fun fed => (fed.foldl write hasher).finish := by
  induction pieces generalizing hasher with
  | nil => rfl
  | cons piece pieces inductionHypothesis =>
      rw [trace, inductionHypothesis, List.inits_cons, List.map_cons, List.map_map]
      rfl

end Hasher

/-- The hash of a name is the remainder modulo `2 ^ 32` of the number that its bytes write in base 31;
hashing two names in a row shifts the first hash by the length of the second name.  A hasher that is
fed in pieces shows before the first piece and after each one the remainder for all bytes fed so far.
How the bytes are cut does not matter, pieces may be empty, and the bytes of a name give the hash of
the name. -/
theorem hash_is_numeral_modulo_word :
    (∀ name, (hash name).toNat = numeral (utf8Bytes name) % 2 ^ 32) ∧
    (∀ front back, (hash (front ++ back)).toNat =
      ((hash front).toNat * 31 ^ (utf8Bytes back).length + (hash back).toNat) % 2 ^ 32) ∧
    (∀ pieces, (Hasher.trace {} pieces).map UInt32.toNat =
      pieces.inits.map fun fed => numeral fed.flatten % 2 ^ 32) ∧
    (∀ pieces others : List (List UInt8), pieces.flatten = others.flatten →
      (pieces.foldl Hasher.write {}).finish = (others.foldl Hasher.write {}).finish) ∧
    ∀ (name : String) (pieces : List (List UInt8)), pieces.flatten = utf8Bytes name →
      (pieces.foldl Hasher.write {}).finish = hash name := by
  refine ⟨toNat_hash, toNat_hash_append, ?pieces, ?cuts, ?names⟩
  case pieces =>
    intro pieces
    rw [Hasher.trace_eq, List.map_map]
    apply List.map_congr_left
    intro fed _
    rw [Function.comp_apply, Hasher.finish_foldl_write, toNat_hashBytes]
    simp
  case cuts =>
    intro pieces others sameBytes
    rw [Hasher.finish_foldl_write, Hasher.finish_foldl_write, sameBytes]
  case names =>
    intro name pieces areBytes
    rw [Hasher.finish_foldl_write, areBytes]
    rfl

/-! ### Collisions -/

/-- The number that undoes a multiplication by the base. -/
private theorem base_mul_inverse : (31 : UInt32) * 3186588639 = 1 := rfl

/-- A step can be undone: 31 is odd, hence invertible modulo the word. -/
theorem hashStep_left_inj : hashStep state byte = hashStep other byte ↔ state = other := by
  constructor
  · intro same
    have sameProduct : state * 31 = other * 31 := (UInt32.add_left_inj _).mp same
    calc state
      _ = state * 31 * 3186588639 := by rw [UInt32.mul_assoc, base_mul_inverse, UInt32.mul_one]
      _ = other * 31 * 3186588639 := by rw [sameProduct]
      _ = other := by rw [UInt32.mul_assoc, base_mul_inverse, UInt32.mul_one]
  · exact fun same => same ▸ rfl

/-- Bytes that follow neither make two states collide nor keep them apart. -/
theorem hashBytes_left_inj : hashBytes state bytes = hashBytes other bytes ↔ state = other := by
  induction bytes generalizing state other with
  | nil => rfl
  | cons byte bytes inductionHypothesis =>
      have behindByte : hashBytes (hashStep state byte) bytes =
          hashBytes (hashStep other byte) bytes ↔ hashStep state byte = hashStep other byte :=
        inductionHypothesis
      exact behindByte.trans hashStep_left_inj

/-- Bytes of one length collide behind a state when they collide behind any other. -/
theorem hashBytes_eq_iff (sameLength : first.length = second.length) :
    hashBytes state first = hashBytes state second ↔
      numeral first ≡ numeral second [MOD 2 ^ 32] := by
  rw [← UInt32.toNat_inj, toNat_hashBytes, toNat_hashBytes, sameLength]
  exact Nat.ModEq.add_iff_left rfl

/-- The wider word of the hash table tells no two names apart that their hashes do not. -/
theorem keyHash_eq_iff {front back : String} :
    keyHash front = keyHash back ↔ hash front = hash back :=
  hashStep_left_inj

/-- Names of one length can be exchanged within a longer name without changing its hash exactly when
they collide themselves. -/
theorem hash_exchange_iff {inner outer : String}
    (sameLength : (utf8Bytes inner).length = (utf8Bytes outer).length) (before behind : String) :
    hash (before ++ inner ++ behind) = hash (before ++ outer ++ behind) ↔
      hash inner = hash outer := by
  simp only [hash, utf8Bytes_append, hashBytes_append]
  rw [hashBytes_left_inj, hashBytes_eq_iff sameLength, hashBytes_eq_iff sameLength]

end NamedRefs.RefName

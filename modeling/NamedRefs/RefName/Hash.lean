/-
Module: NamedRefs.RefName.Hash
Purpose: The hash of a reference name and the bucket that it falls into.
Main exports: RefName.hash, RefName.bucketOf, RefName.bucket?, RefName.Hasher, RefName.keyHash
-/
import NamedRefs.Text.Bytes

namespace NamedRefs.RefName

/-!
The hash reads the UTF-8 bytes of a name as the digits of a number in base 31 and keeps its
remainder modulo `2 ^ 32`.
-/

/-- Append one digit to the number read so far. -/
def hashStep (state : UInt32) (byte : UInt8) : UInt32 :=
  state * 31 + byte.toUInt32

/-- Append several digits to the number read so far. -/
def hashBytes (state : UInt32) (bytes : List UInt8) : UInt32 :=
  bytes.foldl hashStep state

/-- The hash of a name. -/
def hash (name : String) : UInt32 :=
  hashBytes 0 (Text.utf8Bytes name)

/-- The bucket of a name among the given number of buckets. -/
def bucketOf (name : String) (buckets : Nat) : Nat :=
  (hash name).toNat % buckets

/-- The bucket of a name; without buckets there is none. -/
def bucket? (name : String) (buckets : Nat) : Option Nat :=
  if buckets = 0 then none else some (bucketOf name buckets)

/-- The hash of joined bytes goes on from that of the first. -/
theorem hashBytes_append (state : UInt32) (first second : List UInt8) :
    hashBytes state (first ++ second) = hashBytes (hashBytes state first) second := by
  simp [hashBytes]

/-- A name falls into one of the buckets there are. -/
theorem bucketOf_lt (name : String) {buckets : Nat} (positive : 0 < buckets) :
    bucketOf name buckets < buckets :=
  Nat.mod_lt _ positive

/-- A hash that is fed its bytes in pieces. -/
structure Hasher where
  state : UInt32 := 0
deriving DecidableEq, Repr

namespace Hasher

/-- Feed one piece. -/
def write (hasher : Hasher) (bytes : List UInt8) : Hasher :=
  { state := hashBytes hasher.state bytes }

/-- The hash of everything fed so far. -/
def finish (hasher : Hasher) : UInt32 :=
  hasher.state

/-- The hash before any piece and after each one. -/
def trace (hasher : Hasher) : List (List UInt8) → List UInt32
  | [] => [hasher.finish]
  | piece :: pieces => hasher.finish :: (hasher.write piece).trace pieces

end Hasher

/-- The byte that ends a text when it is hashed as a key of an index. -/
def keyTerminator : UInt8 := 0xFF

/-- The hash of a name as a key of an index: its bytes and then the terminator. -/
def keyHash (name : String) : UInt32 :=
  ((({} : Hasher).write (Text.utf8Bytes name)).write [keyTerminator]).finish

end NamedRefs.RefName

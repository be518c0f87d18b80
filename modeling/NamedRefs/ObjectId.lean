/-
Module: NamedRefs.ObjectId
Purpose: Identifiers of stored objects: twenty or thirty-two bytes, written in hexadecimal.
Main exports: ObjectFormat, ObjectId, ObjectIdFault, ObjectId.ofBytes, ObjectId.ofHex, ObjectId.hex,
  ObjectId.null, ObjectId.sort
-/
import NamedRefs.Text.Hex

namespace NamedRefs

/-- The two widths of an identifier.  The shorter one comes first in every order. -/
inductive ObjectFormat where
  | sha1
  | sha256
deriving DecidableEq, Repr, Ord

namespace ObjectFormat

/-- How the format is called. -/
def name : ObjectFormat → String
  | .sha1 => "Sha1"
  | .sha256 => "Sha256"

/-- Number of bytes of an identifier of this format. -/
def byteLength : ObjectFormat → Nat
  | .sha1 => 20
  | .sha256 => 32

/-- Number of hexadecimal digits of an identifier of this format. -/
def hexLength (format : ObjectFormat) : Nat :=
  2 * format.byteLength

end ObjectFormat

/-- An object identifier: as many bytes as its format asks for. -/
structure ObjectId where
  format : ObjectFormat
  bytes : List UInt8
  length_bytes : bytes.length = format.byteLength
deriving DecidableEq

/-- Why a value is not an object identifier. -/
inductive ObjectIdFault where
  | hex (fault : HexFault)
  | length (actual : Nat)
deriving DecidableEq, Repr

/-- The fault in words. -/
def ObjectIdFault.message : ObjectIdFault → String
  | .hex fault => s!"invalid hex string: {fault.message}"
  | .length actual => s!"invalid byte length: expected 20 or 32, got {actual}"

namespace ObjectId

/-- The identifier of these bytes; their number picks the format. -/
def ofBytes (bytes : List UInt8) : Except ObjectIdFault ObjectId :=
  if isSha1 : bytes.length = 20 then .ok ⟨.sha1, bytes, isSha1⟩
  else if isSha256 : bytes.length = 32 then .ok ⟨.sha256, bytes, isSha256⟩
  else .error (.length bytes.length)

/-- Read an identifier from hexadecimal digits of either case. -/
def ofHex (text : String) : Except ObjectIdFault ObjectId :=
  match Hex.decode text with
  | .error fault => .error (.hex fault)
  | .ok bytes => ofBytes bytes

/-- The identifier of a format all of whose bytes are the same. -/
def filled (format : ObjectFormat) (byte : UInt8) : ObjectId where
  format := format
  bytes := List.replicate format.byteLength byte
  length_bytes := List.length_replicate

/-- The identifier that names no object. -/
def null (format : ObjectFormat) : ObjectId :=
  filled format 0

/-- Whether every byte is zero. -/
def isNull (id : ObjectId) : Bool :=
  id.bytes.all (· == 0)

/-- The identifier in lower-case hexadecimal digits. -/
def hex (id : ObjectId) : String :=
  Hex.encode id.bytes

/-- The digits of the first four bytes, enough to tell identifiers apart on a screen. -/
def shortHex (id : ObjectId) : String :=
  Hex.encode (id.bytes.take 4)

/-- A short description for diagnostics. -/
def describe (id : ObjectId) : String :=
  s!"ObjectId({id.shortHex})"

instance : ToString ObjectId := ⟨hex⟩

/-- Formats are compared first, then the bytes lexicographically. -/
instance : Ord ObjectId where
  compare first second :=
    (compare first.format second.format).then (compare first.bytes second.bytes)

/-- A list of identifiers in ascending order. -/
def sort (ids : List ObjectId) : List ObjectId :=
  ids.mergeSort fun first second => (compare first second).isLE

/-- The null id of a format has as many zero bytes as the format is wide. -/
@[simp] theorem bytes_null (format : ObjectFormat) :
    (null format).bytes = List.replicate format.byteLength 0 := rfl

/-- What is called the null id is one. -/
theorem isNull_null (format : ObjectFormat) : (null format).isNull = true := by
  cases format <;> rfl

/-- An identifier is null when it is the null identifier of its own width. -/
theorem isNull_eq_true_iff (id : ObjectId) : id.isNull = true ↔ id = null id.format := by
  constructor
  · intro isNull
    have zeros : id.bytes = List.replicate id.format.byteLength 0 := by
      apply List.eq_replicate_iff.mpr
      constructor
      · exact id.length_bytes
      · intro byte member
        exact eq_of_beq (List.all_eq_true.mp isNull byte member)
    cases id
    simp_all [null, filled]
  · intro isNull
    rw [isNull]
    exact isNull_null id.format

/-- An identifier is not null when it is the null identifier of neither width. -/
theorem isNull_eq_false_iff (id : ObjectId) :
    id.isNull = false ↔ ∀ format, id ≠ null format := by
  rw [← Bool.not_eq_true, isNull_eq_true_iff]
  constructor
  · rintro differs format rfl
    exact differs rfl
  · intro differs
    exact differs id.format

/-- Any identifier is read back from its own bytes. -/
theorem ofBytes_bytes (id : ObjectId) : ofBytes id.bytes = .ok id := by
  obtain ⟨format, bytes, length_bytes⟩ := id
  cases format <;> simp_all [ofBytes, ObjectFormat.byteLength]

end ObjectId

end NamedRefs

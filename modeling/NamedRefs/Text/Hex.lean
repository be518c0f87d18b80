/-
Module: NamedRefs.Text.Hex
Purpose: Bytes written as pairs of hexadecimal digits.
Main exports: HexFault, Hex.digit, Hex.digitValue?, Hex.characterValue?, Hex.encode, Hex.decode
-/
import NamedRefs.Text.Bytes
import NamedRefs.Text.Quoted

namespace NamedRefs

/-- Why a text is not the hexadecimal form of a sequence of bytes. -/
inductive HexFault where
  /-- The number of bytes of the text is odd. -/
  | oddLength
  /-- The byte at this position of the text is the first that is not a digit. -/
  | notADigit (byte : UInt8) (position : Nat)
deriving DecidableEq, Repr

/-- The fault in words.  The bad byte is shown as the character with that code point. -/
def HexFault.message : HexFault → String
  | .oddLength => "Odd number of digits"
  | .notADigit byte position =>
      s!"Invalid character {Text.quoteCharacter (Char.ofNat byte.toNat)} at position {position}"

namespace Hex

/-- The digit of a value below sixteen, in lower case. -/
def digit (value : Nat) : Char :=
  if value < 10 then Char.ofNat ('0'.toNat + value) else Char.ofNat ('a'.toNat + (value - 10))

/-- The value of a byte that is a digit of either case. -/
def digitValue? (byte : UInt8) : Option Nat :=
  let code := byte.toNat
  if '0'.toNat ≤ code ∧ code ≤ '9'.toNat then some (code - '0'.toNat)
  else if 'a'.toNat ≤ code ∧ code ≤ 'f'.toNat then some (code - 'a'.toNat + 10)
  else if 'A'.toNat ≤ code ∧ code ≤ 'F'.toNat then some (code - 'A'.toNat + 10)
  else none

/-- The value of a character that is a digit of either case. -/
def characterValue? (character : Char) : Option Nat :=
  if character.toNat < 128 then digitValue? character.toNat.toUInt8 else none

/-- The two digits of a byte, the high one first. -/
def bytePair (byte : UInt8) : List Char :=
  [digit (byte.toNat / 16), digit (byte.toNat % 16)]

/-- A digit is read back as the value that it writes. -/
theorem characterValue?_digit (value : Fin 16) :
    characterValue? (digit value) = some value.val := by
  revert value
  decide

/-- The lower-case form of a sequence of bytes. -/
def encode (bytes : List UInt8) : String :=
  String.ofList (bytes.flatMap bytePair)

/-- Read pairs of digits; the first of them stands at the given position of the text. -/
def decodePairs (position : Nat) : List UInt8 → Except HexFault (List UInt8)
  | [] => .ok []
  | [_] => .error .oddLength
  | high :: low :: rest =>
      match digitValue? high, digitValue? low with
      | none, _ => .error (.notADigit high position)
      | some _, none => .error (.notADigit low (position + 1))
      | some highValue, some lowValue =>
          (decodePairs (position + 2) rest).map (UInt8.ofNat (16 * highValue + lowValue) :: ·)

/-- Read a text as pairs of digits.  An odd length is found before any bad digit. -/
def decode (text : String) : Except HexFault (List UInt8) :=
  let textBytes := Text.utf8Bytes text
  if textBytes.length % 2 = 1 then .error .oddLength else decodePairs 0 textBytes

end Hex

end NamedRefs

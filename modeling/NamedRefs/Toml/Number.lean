/-
Module: NamedRefs.Toml.Number
Purpose: Integers and floats in a TOML document.
Main exports: Toml.readInteger, Toml.readFloat, Toml.exceedsFloats
-/
import NamedRefs.Toml.Quotation

namespace NamedRefs.Toml

/-!
Digits may be grouped by single underscores, which stand between two digits.  A decimal integer has
no superfluous zero in front; hexadecimal, octal and binary ones have no sign.
-/

/-- The value of a decimal digit. -/
def decimalValue? (character : Char) : Option Nat :=
  if '0' ≤ character && character ≤ '9' then some (character.toNat - '0'.toNat) else none

/-- The value of a digit in a base up to sixteen. -/
def digitInBase? (base : Nat) (character : Char) : Option Nat :=
  (Hex.characterValue? character).filter (· < base)

/-- Read further digits, each perhaps behind an underscore. -/
def moreDigits (value? : Char → Option Nat) : List Char → List Nat × List Char
  | [] => ([], [])
  | '_' :: character :: rest =>
      match value? character with
      | some digit =>
          let (digits, end_) := moreDigits value? rest
          (digit :: digits, end_)
      | none => ([], '_' :: character :: rest)
  | character :: rest =>
      match value? character with
      | some digit =>
          let (digits, end_) := moreDigits value? rest
          (digit :: digits, end_)
      | none => ([], character :: rest)

/-- Read one or more digits. -/
def readDigits (value? : Char → Option Nat) : Reader (List Nat)
  | [] => none
  | character :: rest =>
      match value? character with
      | none => none
      | some digit =>
          let (digits, end_) := moreDigits value? rest
          some (digit :: digits, end_)

/-- The number that digits stand for in a base. -/
def ofDigits (base : Nat) (digits : List Nat) : Nat :=
  digits.foldl (fun value digit => base * value + digit) 0

/-- Read the digits of a decimal integer: a lone zero, or digits that start with another one. -/
def readWhole (text : List Char) : Option (List Nat × List Char) :=
  match text with
  | '0' :: rest => some ([0], rest)
  | _ => readDigits decimalValue? text

/-- Read a sign; without one the number is not negative. -/
def readSign : List Char → Bool × List Char
  | '-' :: rest => (true, rest)
  | '+' :: rest => (false, rest)
  | text => (false, text)

/-- The integer with this sign and magnitude. -/
def applySign (negative : Bool) (magnitude : Nat) : Int :=
  if negative then -Int.ofNat magnitude else Int.ofNat magnitude

/-- The integers that a document may hold are those of sixty-four bits. -/
def isStorable (value : Int) : Bool :=
  -0x8000000000000000 ≤ value && value < 0x8000000000000000

/-- Read an integer. -/
def readInteger (text : List Char) : Option (Int × List Char) :=
  let inBase (base : Nat) (digits : List Char) : Option (Int × List Char) :=
    (readDigits (digitInBase? base) digits).map fun (read, rest) =>
      (Int.ofNat (ofDigits base read), rest)
  let integer :=
    match text with
    | '0' :: 'x' :: rest => inBase 16 rest
    | '0' :: 'o' :: rest => inBase 8 rest
    | '0' :: 'b' :: rest => inBase 2 rest
    | _ =>
        let (negative, unsigned) := readSign text
        (readWhole unsigned).map fun (digits, rest) =>
          (applySign negative (ofDigits 10 digits), rest)
  integer.filter fun (value, _) => isStorable value

/-!
### Floats

A float has a fraction, an exponent or both.  It is read as a double, and a positive literal too
large for one is refused.  The largest double is `(2 ^ 53 - 1) * 2 ^ 971`; half a unit above it, at
`(2 ^ 54 - 1) * 2 ^ 970`, rounding starts to give infinity.
-/

/-- The least real number that rounds to infinity. -/
def floatBound : Nat := (Nat.pow 2 54 - 1) * Nat.pow 2 970

/-- Whether `mantissa * 10 ^ scale` rounds to infinity.  The bound has 309 digits, so only a number
with as many digits in front of its point has to be compared with it. -/
def exceedsFloats (mantissa : Nat) (scale : Int) : Bool :=
  if mantissa = 0 then false
  else
    let width := (Nat.toDigits 10 mantissa).length + scale
    if width ≠ 309 then 309 < width
    else if 0 ≤ scale then floatBound ≤ mantissa * Nat.pow 10 scale.toNat
    else floatBound * Nat.pow 10 (-scale).toNat ≤ mantissa

/-- Read a fraction. -/
def readFraction : Reader (List Nat)
  | '.' :: rest => readDigits decimalValue? rest
  | _ => none

/-- Read an exponent. -/
def readExponent : Reader Int
  | character :: rest =>
      if character == 'e' || character == 'E' then
        let (negative, digits) := readSign rest
        (readDigits decimalValue? digits).map fun (read, after) =>
          (applySign negative (ofDigits 10 read), after)
      else none
  | [] => none

/-- The text that a reader took from the front, given what it left. -/
def spelling (text rest : List Char) : String :=
  String.ofList (text.take (text.length - rest.length))

/-- Read a float and keep its spelling. -/
def readFloat (text : List Char) : Option (String × List Char) :=
  let (negative, unsigned) := readSign text
  match unsigned with
  | 'i' :: 'n' :: 'f' :: rest => some (spelling text rest, rest)
  | 'n' :: 'a' :: 'n' :: rest => some (spelling text rest, rest)
  | _ =>
      match readWhole unsigned with
      | none => none
      | some (whole, afterWhole) =>
          let fraction := readFraction afterWhole
          let (decimals, afterFraction) := fraction.getD ([], afterWhole)
          let exponent := readExponent afterFraction
          let (power, rest) := exponent.getD (0, afterFraction)
          if fraction.isNone && exponent.isNone then none
          else if !negative &&
              exceedsFloats (ofDigits 10 (whole ++ decimals)) (power - decimals.length) then none
          else some (spelling text rest, rest)

end NamedRefs.Toml

/-
Module: NamedRefs.Proofs.ObjectId.Hexadecimal
Purpose: Identifiers are read from exactly the hexadecimal texts of the two widths, and every other
  text is refused for the first of three causes.
Main exports: ObjectId.ofBytes_eq_ok_iff, ObjectId.ofHex_hex, ObjectId.hex_injective,
  ObjectId.exists_ofHex_iff, ObjectId.ofHex_of_bad, ObjectId.hexadecimal_form_is_exact
-/
import NamedRefs.ObjectId
import NamedRefs.Proofs.Text.Hex

namespace NamedRefs.ObjectId

/-!
The width of a text is looked at twice: its parity before any digit is read, and the number of bytes
after all of them were read.  A bad digit therefore comes between the two in rank.
-/

variable {text : String} {id : ObjectId} {bytes : List UInt8}

/-! ### Widths -/

/-- The bytes of an identifier are those that it was made of. -/
theorem ofBytes_eq_ok_iff : ofBytes bytes = .ok id ↔ id.bytes = bytes := by
  constructor
  · intro made
    unfold ofBytes at made
    split at made
    · cases made
      rfl
    · split at made
      · cases made
        rfl
      · cases made
  · rintro rfl
    exact ofBytes_bytes id

/-- Bytes are an id exactly if they are as many as one of the formats has. -/
theorem exists_ofBytes_iff :
    (∃ id, ofBytes bytes = .ok id) ↔ bytes.length = 20 ∨ bytes.length = 32 := by
  constructor
  · rintro ⟨id, made⟩
    rw [← ofBytes_eq_ok_iff.mp made, id.length_bytes]
    cases id.format
    · exact Or.inl rfl
    · exact Or.inr rfl
  · rintro (isSha1 | isSha256)
    · exact ⟨⟨.sha1, bytes, isSha1⟩, ofBytes_eq_ok_iff.mpr rfl⟩
    · exact ⟨⟨.sha256, bytes, isSha256⟩, ofBytes_eq_ok_iff.mpr rfl⟩

/-- Bytes of any other number are refused with that number. -/
theorem ofBytes_of_other_width (notSha1 : bytes.length ≠ 20) (notSha256 : bytes.length ≠ 32) :
    ofBytes bytes = .error (.length bytes.length) := by
  rw [ofBytes, dif_neg notSha1, dif_neg notSha256]

/-! ### Digits -/

/-- An identifier is read back from its digits. -/
theorem ofHex_hex (id : ObjectId) : ofHex id.hex = .ok id := by
  unfold ofHex hex
  rw [Hex.decode_encode]
  exact ofBytes_bytes id

/-- Ids with the same digits are the same. -/
theorem hex_injective {first second : ObjectId} (same : first.hex = second.hex) :
    first = second := by
  have read := ofHex_hex first
  rw [same, ofHex_hex] at read
  exact (Except.ok.inj read).symm

/-- Where a text is read as an identifier, the bytes that its digits write are those of the
identifier. -/
theorem decode_of_ofHex (read : ofHex text = .ok id) : Hex.decode text = .ok id.bytes := by
  unfold ofHex at read
  split at read
  · cases read
  · rename_i bytes decoded
    rw [decoded, ofBytes_eq_ok_iff.mp read]

/-- Digits of an even number are read as half as many bytes. -/
theorem ofHex_of_digits (digits : ∀ byte ∈ Text.utf8Bytes text, Hex.IsDigit byte)
    (even : (Text.utf8Bytes text).length % 2 = 0) :
    ∃ bytes, (Text.utf8Bytes text).length = 2 * bytes.length ∧ ofHex text = ofBytes bytes := by
  obtain ⟨bytes, decoded⟩ := Hex.decodePairs_of_digits digits even 0
  rw [← Hex.decode_of_even even] at decoded
  refine ⟨bytes, (Hex.encode_of_decode decoded).2.1, ?_⟩
  rw [ofHex, decoded]

/-- A text is read as an id exactly if it consists of hexadecimal digits, as many as one of the
formats has. -/
theorem exists_ofHex_iff :
    (∃ id, ofHex text = .ok id) ↔
      (∀ byte ∈ Text.utf8Bytes text, Hex.IsDigit byte) ∧
        ((Text.utf8Bytes text).length = 40 ∨ (Text.utf8Bytes text).length = 64) := by
  constructor
  · rintro ⟨id, read⟩
    obtain ⟨digits, sameLength, _⟩ := Hex.encode_of_decode (decode_of_ofHex read)
    have width := exists_ofBytes_iff.mp ⟨id, ofBytes_bytes id⟩
    refine ⟨digits, ?_⟩
    omega
  · rintro ⟨digits, width⟩
    obtain ⟨bytes, sameLength, readAs⟩ := ofHex_of_digits digits (by omega)
    rw [readAs, exists_ofBytes_iff]
    omega

/-- Of a text that is read only the case of its letters may be lost. -/
theorem hex_of_ofHex (read : ofHex text = .ok id) : id.hex = text.toLower :=
  (Hex.encode_of_decode (decode_of_ofHex read)).2.2

/-- The first byte that is no digit is named with its position. -/
theorem ofHex_of_bad (even : (Text.utf8Bytes text).length % 2 = 0)
    (someBad : ∃ byte ∈ Text.utf8Bytes text, ¬ Hex.IsDigit byte) :
    ∃ front bad back, Text.utf8Bytes text = front ++ bad :: back ∧
      (∀ byte ∈ front, Hex.IsDigit byte) ∧ ¬ Hex.IsDigit bad ∧
      ofHex text = .error (.hex (.notADigit bad front.length)) := by
  obtain ⟨front, bad, back, split, digits, notDigit⟩ := Hex.exists_first_bad someBad
  have failed := Hex.decodePairs_of_bad digits notDigit (split ▸ even) 0
  rw [← split, ← Hex.decode_of_even even, Nat.zero_add] at failed
  refine ⟨front, bad, back, split, digits, notDigit, ?_⟩
  rw [ofHex, failed]

/-- The short form is the first eight digits. -/
theorem shortHex_toList (id : ObjectId) : id.shortHex.toList = id.hex.toList.take 8 := by
  rw [shortHex, hex, Hex.encode, Hex.encode, String.toList_ofList, String.toList_ofList]
  exact (Hex.take_flatMap_bytePair 4 id.bytes).symm

/-- An id has as many digits as its format says. -/
theorem length_hex (id : ObjectId) : id.hex.length = id.format.hexLength := by
  rw [hex, Hex.encode, String.length_ofList, Hex.length_flatMap_bytePair, id.length_bytes]
  rfl

/-- A text is read as an identifier exactly when all its bytes are hexadecimal digits, 40 or 64 of
them; what is read has the text in lower case for its digits, the format of that many digits, and is
made from its own bytes.  Any other text is refused, for an odd number of bytes first, then for the
first byte that is no digit, and at last for the number of bytes that its digits write.  Every
identifier is read back from its digits, the short form has the first eight of them, and two texts
that are read stand for the same identifier exactly when they agree up to the case of letters. -/
theorem hexadecimal_form_is_exact :
    (∀ text,
      let textBytes := Text.utf8Bytes text
      ((∃ id, ofHex text = .ok id) ↔
        (∀ byte ∈ textBytes, Hex.IsDigit byte) ∧
          (textBytes.length = 40 ∨ textBytes.length = 64)) ∧
      (∀ id, ofHex text = .ok id →
        id.hex = text.toLower ∧
        (∀ format, format.hexLength = textBytes.length ↔ format = id.format) ∧
        ofBytes id.bytes = .ok id) ∧
      (textBytes.length % 2 = 1 → ofHex text = .error (.hex .oddLength)) ∧
      (textBytes.length % 2 = 0 → (∃ byte ∈ textBytes, ¬ Hex.IsDigit byte) →
        ∃ front bad back, textBytes = front ++ bad :: back ∧
          (∀ byte ∈ front, Hex.IsDigit byte) ∧ ¬ Hex.IsDigit bad ∧
          ofHex text = .error (.hex (.notADigit bad front.length))) ∧
      (textBytes.length % 2 = 0 → (∀ byte ∈ textBytes, Hex.IsDigit byte) →
        textBytes.length ≠ 40 → textBytes.length ≠ 64 →
        ofHex text = .error (.length (textBytes.length / 2)))) ∧
    (∀ id : ObjectId, ofHex id.hex = .ok id ∧
      id.shortHex.toList = id.hex.toList.take 8 ∧ id.shortHex.length = 8) ∧
    ∀ first second firstId secondId,
      ofHex first = .ok firstId → ofHex second = .ok secondId →
      (firstId = secondId ↔ first.toLower = second.toLower) := by
  refine ⟨?texts, ?identifiers, ?letterCase⟩
  case texts =>
    intro text
    refine ⟨exists_ofHex_iff, ?read, fun odd => ?odd, ofHex_of_bad, ?width⟩
    case read =>
      intro id read
      refine ⟨hex_of_ofHex read, fun format => ?_, ofBytes_bytes id⟩
      have sameLength := (Hex.encode_of_decode (decode_of_ofHex read)).2.1
      rw [id.length_bytes] at sameLength
      rw [sameLength, ObjectFormat.hexLength]
      cases format <;> cases id.format <;> decide
    case odd => rw [ofHex, Hex.decode_of_odd odd]
    case width =>
      intro even digits not40 not64
      obtain ⟨bytes, sameLength, readAs⟩ := ofHex_of_digits digits even
      rw [sameLength] at not40 not64 ⊢
      have half : 2 * bytes.length / 2 = bytes.length := by omega
      rw [readAs, half, ofBytes_of_other_width (by omega) (by omega)]
  case identifiers =>
    intro id
    refine ⟨ofHex_hex id, shortHex_toList id, ?_⟩
    have enough := length_hex id
    rw [← String.length_toList, shortHex_toList, List.length_take, String.length_toList, enough]
    cases id.format <;> rfl
  case letterCase =>
    intro first second firstId secondId readFirst readSecond
    rw [← hex_of_ofHex readFirst, ← hex_of_ofHex readSecond]
    constructor
    · rintro rfl
      rfl
    · exact hex_injective

/-- Positions count bytes: the letter in the middle takes two, and the first of them is no digit. -/
example : ofHex "aéb" = .error (.hex (.notADigit 0xC3 1)) := by
  decide

end NamedRefs.ObjectId

/-
Module: NamedRefs.Text.Bytes
Purpose: The bytes of a text and the order of texts by their bytes.
Main exports: utf8Bytes, byteOrder, utf8Bytes_append, utf8Bytes_inj
-/

namespace NamedRefs.Text

/-- The UTF-8 encoding of a text, byte by byte. -/
def utf8Bytes (text : String) : List UInt8 :=
  text.toByteArray.data.toList

@[simp] theorem utf8Bytes_empty : utf8Bytes "" = [] := rfl

@[simp] theorem utf8Bytes_append (first second : String) :
    utf8Bytes (first ++ second) = utf8Bytes first ++ utf8Bytes second := by
  simp [utf8Bytes]

/-- A text is determined by its bytes. -/
theorem utf8Bytes_inj {first second : String} :
    utf8Bytes first = utf8Bytes second ↔ first = second := by
  constructor
  · intro same
    apply String.toByteArray_inj.1
    apply ByteArray.ext
    exact Array.toList_inj.1 same
  · rintro rfl
    rfl

/-- Texts are sorted by the bytes of their encoding, compared lexicographically. -/
def byteOrder (first second : String) : Ordering :=
  compare (utf8Bytes first) (utf8Bytes second)

instance : Std.TransCmp byteOrder where
  eq_swap := by
    intro first second
    exact Std.OrientedOrd.eq_swap
  isLE_trans := by
    intro first second third
    exact Std.TransOrd.isLE_trans

/-- Only equal texts are level. -/
instance : Std.LawfulEqCmp byteOrder where
  compare_self := by
    intro text
    exact Std.ReflOrd.compare_self
  eq_of_compare := by
    intro first second level
    exact utf8Bytes_inj.mp (Std.LawfulEqOrd.eq_of_compare level)

end NamedRefs.Text

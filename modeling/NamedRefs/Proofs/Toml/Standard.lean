/-
Module: NamedRefs.Proofs.Toml.Standard
Purpose: The reader of documents in this library does as the standard says.
Main exports: Toml.standard_parse?
-/
import NamedRefs.Proofs.Toml.PlainPairs
import NamedRefs.Proofs.Toml.Storable

namespace NamedRefs.Toml

/-- The storable numbers are those of a signed word of 64 bits. -/
theorem isStorable_iff {number : Int} :
    isStorable number = true ↔
      -0x8000000000000000 ≤ number ∧ number < 0x8000000000000000 := by
  simp [isStorable]

/-- A document ends with its last line or with one newline behind it. -/
theorem lastLineEnd_of_eq {ending : String} (isEnding : ending = "" ∨ ending = "\n") :
    LastLineEnd ending.toList := by
  rcases isEnding with rfl | rfl
  · exact .missing
  · exact .newline

/-- It may refuse what is nested too deeply, but no plain line is. -/
theorem standard_parse? : DocumentReader.Standard parse? where
  distinct pairs ending isEnding distinct := by
    refine ⟨pairs.map PlainPair.entry, ?_, fun _ => rfl⟩
    rw [parse?_plainPairs pairs (lastLineEnd_of_eq isEnding), if_pos distinct]
  repeated pairs ending isEnding repeated := by
    rw [parse?_plainPairs pairs (lastLineEnd_of_eq isEnding), if_neg repeated]
  inRange text entries key number parsed found := by
    cases (storable_of_parse? parsed).of_find? found with
    | integer storable => exact isStorable_iff.mp storable

end NamedRefs.Toml

/-
Module: NamedRefs.Proofs.Toml.PlainPairs
Purpose: A document of lines that each give a value to a bare key is read as these keys with these
  values, unless a key occurs twice.
Main exports: Toml.Writes, Toml.writes_number, Toml.writes_switch, Toml.PlainValue.writes,
  Toml.PlainPair.readStatements_line, Toml.LastLineEnd, Toml.readStatements_lines,
  Toml.build_plainPairs, Toml.parse?_plainPairs
-/
import NamedRefs.Proofs.Toml.Decimal
import NamedRefs.Toml.Document
import NamedRefs.Toml.Standard

namespace NamedRefs.Toml

/-!
Each line is read by itself: its key ends in front of the first blank, its value at the end of the
line.  The readers stop where they should whatever the next lines hold, so the lines of a document are
read one after the other.  Without headers and dots all keys belong to the one table of the document,
which takes in each key once.
-/

variable {rest written : List Char} {value : Value} {name : List Char}

theorem skipBlanks_of_lineEnd (atEnd : LineEnd rest) : skipBlanks rest = rest := by
  cases atEnd <;> rfl

theorem endLine?_newline (next : List Char) : endLine? ('\n' :: next) = some next := rfl

/-! ### Values -/

/-- The text, up to the end of a line, is a written form of the value. -/
structure Writes (written : List Char) (value : Value) : Prop where
  skipBlanks_append : ∀ rest, LineEnd rest → skipBlanks (written ++ rest) = written ++ rest
  readValue_append : ∀ rest, LineEnd rest →
    readValue maxNesting (written ++ rest) = some (value, rest)

/-- Only a bracket or a brace makes a value hold others. -/
theorem readValue_of_scalar {first : Char} (noBracket : first ≠ '[') (noBrace : first ≠ '\x7b')
    (depth : Nat) (rest : List Char) :
    readValue depth (first :: rest) = readScalar (first :: rest) := by
  cases depth with
  | zero => rfl
  | succ depth =>
      rw [readValue]
      · exact fun _ split => noBracket (List.cons.inj split).1
      · exact fun _ split => noBrace (List.cons.inj split).1

/-- The digits of a number write it as an integer. -/
theorem writes_number {number : Nat} (small : number < 2 ^ 63) :
    Writes (Nat.toDigits 10 number) (.integer number) := by
  obtain ⟨first, digits, written, decimal⟩ := decimal_toDigits number
  constructor
  case skipBlanks_append =>
    intro rest _
    have noBlank : isBlank first = false := by
      simp [isBlank, decimal.first_ne ' ' rfl, decimal.first_ne '\t' rfl]
    rw [written, List.cons_append, skipBlanks, List.dropWhile_cons_of_neg (by simp [noBlank])]
  case readValue_append =>
    intro rest atEnd
    have scalar := readScalar_toDigits small atEnd
    rw [written, List.cons_append] at scalar ⊢
    rw [readValue_of_scalar (decimal.first_ne _ rfl) (decimal.first_ne _ rfl), scalar]

/-- The words for the truth values write them. -/
theorem writes_switch (flag : Bool) : Writes (toString flag).toList (.boolean flag) := by
  constructor
  case skipBlanks_append =>
    intro rest _
    cases flag <;> rfl
  case readValue_append =>
    intro rest _
    cases flag <;> rfl

/-- A plain value is written by its own text. -/
theorem PlainValue.writes (plain : PlainValue) : Writes plain.written.toList plain.value := by
  cases plain with
  | number count small =>
      have digits : (toString count).toList = Nat.toDigits 10 count := Nat.toList_repr
      rw [written, digits]
      exact writes_number small
  | switch flag => exact writes_switch flag

/-! ### Keys -/

/-- What is no part of a bare key cannot start one either. -/
theorem isBareCharacter_ne {character : Char} (bare : isBareCharacter character = true)
    (other : Char) (notBare : isBareCharacter other = false) : character ≠ other := by
  rintro rfl
  rw [bare] at notBare
  contradiction

theorem skipBlanks_of_bare {first : Char} (bare : isBareCharacter first = true) (rest : List Char) :
    skipBlanks (first :: rest) = first :: rest := by
  have noBlank : isBlank first = false := by
    simp [isBlank, isBareCharacter_ne bare ' ' rfl,
      isBareCharacter_ne bare '\t' rfl]
  rw [skipBlanks, List.dropWhile_cons_of_neg (by simp [noBlank])]

/-- A bare name is read up to the blank behind it. -/
theorem readName_of_bare {first : Char}
    (bare : ∀ character ∈ first :: name, isBareCharacter character = true) (rest : List Char) :
    readName (first :: name ++ ' ' :: rest) =
      some (String.ofList (first :: name), ' ' :: rest) := by
  have firstBare := bare first List.mem_cons_self
  have taken : (first :: name ++ ' ' :: rest).takeWhile isBareCharacter = first :: name := by
    rw [List.takeWhile_append_of_pos bare, List.takeWhile_cons_of_neg (by decide), List.append_nil]
  have dropped : (first :: name ++ ' ' :: rest).dropWhile isBareCharacter = ' ' :: rest := by
    rw [List.dropWhile_append_of_pos bare, List.dropWhile_cons_of_neg (by decide)]
  rw [readName]
  · rw [taken, dropped]
    rfl
  · exact fun _ split => isBareCharacter_ne firstBare _ rfl (List.cons.inj split).1
  · exact fun _ split => isBareCharacter_ne firstBare _ rfl (List.cons.inj split).1

/-- A bare key in front of the sign of equality is a path of its own. -/
theorem readKey_of_bare {first : Char}
    (bare : ∀ character ∈ first :: name, isBareCharacter character = true) (rest : List Char) :
    readKey (first :: name ++ ' ' :: '=' :: rest) =
      some ({ path := [], key := String.ofList (first :: name) }, '=' :: rest) := by
  have firstBare := bare first List.mem_cons_self
  have spaced : readSpacedName (first :: name ++ ' ' :: '=' :: rest) =
      some (String.ofList (first :: name), '=' :: rest) := by
    rw [readSpacedName, List.cons_append, skipBlanks_of_bare firstBare, ← List.cons_append,
      readName_of_bare bare]
    rfl
  rw [readKey, separated, spaced]
  rfl

/-! ### Lines -/

namespace PlainPair

/-- The pair as a statement of a document. -/
def statement (pair : PlainPair) : Statement :=
  .pair { path := [], key := pair.key } pair.plain.value

variable (pair : PlainPair)

/-- The key of a plain pair is not empty, and bare throughout. -/
theorem exists_key_eq_cons : ∃ first name, pair.key.toList = first :: name ∧
    ∀ character ∈ first :: name, isBareCharacter character = true := by
  obtain ⟨first, name, split⟩ :=
    List.exists_cons_of_ne_nil (mt String.toList_eq_nil_iff.mp pair.key_nonempty)
  exact ⟨first, name, split, split ▸ pair.key_bare⟩

theorem toList_line_append (rest : List Char) : pair.line.toList ++ rest =
    pair.key.toList ++ ' ' :: '=' :: ' ' :: (pair.plain.written.toList ++ rest) := by
  simp [line]

theorem skipBlanks_line (rest : List Char) :
    skipBlanks (pair.line.toList ++ rest) = pair.line.toList ++ rest := by
  obtain ⟨first, name, split, bare⟩ := pair.exists_key_eq_cons
  rw [toList_line_append, split]
  exact skipBlanks_of_bare (bare first List.mem_cons_self) _

theorem startsBlankLine_line (rest : List Char) :
    startsBlankLine (pair.line.toList ++ rest) = false := by
  obtain ⟨first, name, split, bare⟩ := pair.exists_key_eq_cons
  have firstBare := bare first List.mem_cons_self
  simp [toList_line_append, split, startsBlankLine, isBareCharacter_ne firstBare '#' rfl,
    isBareCharacter_ne firstBare '\n' rfl,
    isBareCharacter_ne firstBare '\r' rfl]

/-- The line of a plain pair is read as its key and its value. -/
theorem readPair_line (atEnd : LineEnd rest) :
    readPair (readValue maxNesting) (pair.line.toList ++ rest) =
      some (({ path := [], key := pair.key }, pair.plain.value), rest) := by
  obtain ⟨first, name, split, bare⟩ := pair.exists_key_eq_cons
  have sameKey : String.ofList (first :: name) = pair.key := by
    rw [← split, String.ofList_toList]
  have noBlank : skipBlanks (' ' :: (pair.plain.written.toList ++ rest)) =
      pair.plain.written.toList ++ rest :=
    pair.plain.writes.skipBlanks_append rest atEnd
  rw [readPair, toList_line_append, split, readKey_of_bare bare]
  simp [noBlank, pair.plain.writes.readValue_append rest atEnd, skipBlanks_of_lineEnd atEnd, sameKey]

/-- The line of a plain pair is read as the statement it makes. -/
theorem readStatement_line (atEnd : LineEnd rest) :
    readStatement (pair.line.toList ++ rest) = some (pair.statement, rest) := by
  obtain ⟨first, name, split, bare⟩ := pair.exists_key_eq_cons
  have noBracket : ∀ others, pair.line.toList ++ rest ≠ '[' :: others := by
    intro others same
    rw [toList_line_append, split] at same
    exact isBareCharacter_ne (bare first List.mem_cons_self) _ rfl (List.cons.inj same).1
  rw [readStatement]
  · rw [readPair_line pair atEnd]
    rfl
  · exact fun _ => noBracket _
  · exact fun _ => noBracket _

/-- A line is a statement, and reading goes on behind its end. -/
theorem readStatements_line (atEnd : LineEnd rest) {next : List Char}
    (ends : endLine? rest = some next) :
    readStatements (pair.line.toList ++ rest) =
      (readStatements next).map (pair.statement :: ·) := by
  have shorter : next.length < (pair.line.toList ++ rest).length := by
    have behind : next.length ≤ rest.length := by
      cases atEnd <;> cases ends <;> simp
    simp only [toList_line_append, List.length_append, List.length_cons]
    omega
  rw [readStatements, skipBlanks_line]
  split
  · rename_i isEmpty
    rw [isEmpty] at shorter
    cases shorter
  · simp only [startsBlankLine_line, readStatement_line pair atEnd, ends, Option.map_some,
      Bool.false_eq_true, if_false, dif_pos shorter]
    rfl

end PlainPair

/-! ### Documents -/

/-- What may stand behind the last line of a document. -/
inductive LastLineEnd : List Char → Prop where
  | missing : LastLineEnd []
  | newline : LastLineEnd ['\n']

variable {ending : List Char}

theorem LastLineEnd.lineEnd (last : LastLineEnd ending) : LineEnd ending := by
  cases last with
  | missing => exact .ofText
  | newline => exact .newline []

theorem LastLineEnd.endLine? (last : LastLineEnd ending) : endLine? ending = some [] := by
  cases last <;> rfl

theorem LastLineEnd.readStatements (last : LastLineEnd ending) : readStatements ending = some [] := by
  have empty : Toml.readStatements [] = some [] := by
    rw [Toml.readStatements]
    rfl
  cases last with
  | missing => exact empty
  | newline =>
      rw [Toml.readStatements]
      simp [skipBlanks, isBlank, startsBlankLine, endLine?_newline, empty]

/-- All lines are read, the last of them whether or not its end is there. -/
theorem readStatements_lines (pairs : List PlainPair) (last : LastLineEnd ending) :
    readStatements (['\n'].intercalate (pairs.map fun pair => pair.line.toList) ++ ending) =
      some (pairs.map PlainPair.statement) := by
  match pairs with
  | [] => exact last.readStatements
  | [pair] =>
      have ended := pair.readStatements_line last.lineEnd last.endLine?
      rw [LastLineEnd.missing.readStatements] at ended
      simpa using ended
  | pair :: next :: pairs =>
      -- Only here does a newline of the intercalation end the line.
      have others := readStatements_lines (next :: pairs) last
      simp only [List.map_cons, List.intercalate_cons_cons, List.append_assoc] at others ⊢
      rw [List.singleton_append, pair.readStatements_line (.newline _) (endLine?_newline _), others]
      rfl

/-! ### The table that plain pairs build -/

/-- A key is not found exactly when no entry has it. -/
theorem find?_eq_none_iff {key : String} {entries : Entries} :
    find? key entries = none ↔ key ∉ entries.map Prod.fst := by
  simp only [find?, List.lookup_eq_none_iff, List.mem_map, bne_iff_ne]
  grind

/-- A value for a new key goes behind the entries there are. -/
theorem set_of_new {key : String} {entries : Entries} (new : key ∉ entries.map Prod.fst)
    (value : Value) : set key value entries = entries ++ [(key, value)] := by
  induction entries with
  | nil => rfl
  | cons entry entries inductionHypothesis =>
      obtain ⟨other, present⟩ := entry
      rw [List.map_cons, List.mem_cons, not_or] at new
      rw [set, if_neg (Ne.symm new.1), inductionHypothesis new.2]
      rfl

/-- A key is assigned once; a second time is refused. -/
theorem assignNew_eq (key : String) (value : Value) (entries : Entries) :
    assignNew key value entries =
      if key ∈ entries.map Prod.fst then none else some (entries ++ [(key, value)]) := by
  by_cases present : key ∈ entries.map Prod.fst
  · obtain ⟨old, found⟩ := Option.ne_none_iff_exists'.mp
      (mt find?_eq_none_iff.mp (not_not_intro present))
    rw [assignNew, found, if_pos present]
  · rw [assignNew, find?_eq_none_iff.mpr present, if_neg present]
    simp only [set_of_new present]

/-- A plain pair adds an entry to the draft, unless its key has one. -/
theorem add_plainPair (entries : Entries) (pair : PlainPair) :
    Draft.add { entries } pair.statement =
      if pair.key ∈ entries.map Prod.fst then none
      else some { entries := entries ++ [pair.entry] } := by
  rw [PlainPair.statement, Draft.add, changeAt, assign, assignNew_eq, apply_ite (Option.map _)]
  rfl

/-- The keys that the table holds already are different; they stay so as long as pairs are added. -/
theorem foldlM_add_plainPairs (pairs : List PlainPair) {entries : Entries}
    (distinct : (entries.map Prod.fst).Nodup) :
    (pairs.map PlainPair.statement).foldlM Draft.add { entries } =
      if (entries.map Prod.fst ++ pairs.map PlainPair.key).Nodup then
        some { entries := entries ++ pairs.map PlainPair.entry }
      else none := by
  induction pairs generalizing entries with
  | nil => simp [distinct]
  | cons pair pairs inductionHypothesis =>
      rw [List.map_cons, List.foldlM_cons, add_plainPair]
      by_cases present : pair.key ∈ entries.map Prod.fst
      · have repeated : ¬(entries.map Prod.fst ++ (pair :: pairs).map PlainPair.key).Nodup := by
          intro distinct
          exact (List.nodup_append.mp distinct).2.2 _ present _ List.mem_cons_self rfl
        rw [if_pos present, if_neg repeated]
        rfl
      · have stillDistinct : ((entries ++ [pair.entry]).map Prod.fst).Nodup := by
          rw [List.map_append, List.nodup_append]
          refine ⟨distinct, List.pairwise_singleton _ _, ?_⟩
          rintro key member _ (_ | ⟨_, ⟨⟩⟩) rfl
          exact present member
        rw [if_neg present]
        simpa [PlainPair.entry] using inductionHypothesis stillDistinct

/-- Plain pairs build a table of their entries exactly when no key is there twice. -/
theorem build_plainPairs (pairs : List PlainPair) :
    build (pairs.map PlainPair.statement) =
      if (pairs.map PlainPair.key).Nodup then some (pairs.map PlainPair.entry) else none := by
  have noKeys : (([] : Entries).map Prod.fst).Nodup := List.Pairwise.nil
  rw [build, foldlM_add_plainPairs pairs noKeys, apply_ite (Option.map _)]
  rfl

/-! ### Reading the whole document -/

theorem dropByteOrderMark_of_head {text : List Char} (noMark : text.head? ≠ some '\ufeff') :
    dropByteOrderMark text = text := by
  rw [dropByteOrderMark.eq_def]
  split
  · exact absurd rfl noMark
  · rfl

theorem PlainPair.head?_line (pair : PlainPair) (rest : List Char) :
    (pair.line.toList ++ rest).head? ≠ some '\ufeff' := by
  obtain ⟨first, name, split, bare⟩ := pair.exists_key_eq_cons
  rw [toList_line_append, split]
  simpa using isBareCharacter_ne (bare first List.mem_cons_self) '\ufeff' rfl

/-- Lines of plain pairs do not begin with a byte order mark. -/
theorem head?_lines (pairs : List PlainPair) (last : LastLineEnd ending) :
    (['\n'].intercalate (pairs.map fun pair => pair.line.toList) ++ ending).head? ≠
      some '\ufeff' := by
  match pairs with
  | [] => cases last <;> simp
  | [pair] => simpa using pair.head?_line ending
  | pair :: next :: pairs =>
      simp only [List.map_cons, List.intercalate_cons_cons, List.append_assoc]
      exact pair.head?_line _

/-- A document of plain pairs has the entries of the pairs, and none is read if a key is repeated. -/
theorem parse?_plainPairs (pairs : List PlainPair) {ending : String}
    (last : LastLineEnd ending.toList) :
    parse? (document (pairs.map PlainPair.line) ending) =
      if (pairs.map PlainPair.key).Nodup then some (pairs.map PlainPair.entry) else none := by
  have characters : (document (pairs.map PlainPair.line) ending).toList =
      ['\n'].intercalate (pairs.map fun pair => pair.line.toList) ++ ending.toList := by
    rw [document, String.toList_append, String.toList_intercalate, List.map_map]
    rfl
  rw [parse?, characters, dropByteOrderMark_of_head (head?_lines pairs last),
    readStatements_lines pairs last]
  exact build_plainPairs pairs

end NamedRefs.Toml

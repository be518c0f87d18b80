/-
Module: NamedRefs.Proofs.Toml.Storable
Purpose: A document that is read holds no integer of more than sixty-four bits, however deep.
Main exports: Toml.Value.Storable, Toml.StorableEntries, Toml.KeepsStorable, Toml.ReadsStorable,
  Toml.readsStorable_readValue, Toml.storable_of_build, Toml.storable_of_parse?
-/
import NamedRefs.Toml.Document

namespace NamedRefs.Toml

/-!
Integers come from one reader alone, and it refuses those that do not fit.  All else moves values
about: into arrays and inline tables, and then along the path of a key into the document.  The
argument has these two halves.  The readers give storable values, and a change of a table that keeps
its values storable still does so where a path leads to a table further inside.
-/

variable {text rest : List Char} {value : Value} {entries changed : Entries} {key : String}

/-- All integers in a value are ones that a document may hold. -/
inductive Value.Storable : Value → Prop where
  | text (content : String) : Storable (.text content)
  | integer {value : Int} : isStorable value = true → Storable (.integer value)
  | float (spelling : String) : Storable (.float spelling)
  | boolean (value : Bool) : Storable (.boolean value)
  | date (spelling : String) : Storable (.date spelling)
  | array {elements : List Value} :
      (∀ element ∈ elements, Storable element) → Storable (.array elements)
  | inlineTable {entries : Entries} :
      (∀ entry ∈ entries, Storable entry.2) → Storable (.inlineTable entries)
  | table {kind : TableKind} {entries : Entries} :
      (∀ entry ∈ entries, Storable entry.2) → Storable (.table kind entries)
  | tables {elements : List Entries} :
      (∀ entries ∈ elements, ∀ entry ∈ entries, Storable entry.2) → Storable (.tables elements)

/-- All integers in a table are ones that a document may hold. -/
def StorableEntries (entries : Entries) : Prop :=
  ∀ entry ∈ entries, entry.2.Storable

theorem storableEntries_nil : StorableEntries [] :=
  List.forall_mem_nil _

/-- A value that is found among storable entries is storable. -/
theorem StorableEntries.of_find? (storable : StorableEntries entries)
    (found : find? key entries = some value) : value.Storable := by
  obtain ⟨before, behind, split, _⟩ := List.lookup_eq_some_iff.mp found
  exact storable (key, value) (by simp [split])

/-- The entries of a storable table are storable. -/
theorem Value.Storable.inner {kind : TableKind} (storable : (Value.table kind entries).Storable) :
    StorableEntries entries := by
  cases storable with
  | table storable => exact storable

/-- The elements of a storable array of tables are storable. -/
theorem Value.Storable.elements {elements : List Entries}
    (storable : (Value.tables elements).Storable) :
    ∀ entries ∈ elements, StorableEntries entries := by
  cases storable with
  | tables storable => exact storable

/-- A storable value set among storable entries leaves them storable. -/
theorem StorableEntries.set (storable : StorableEntries entries) (newStorable : value.Storable) :
    StorableEntries (set key value entries) := by
  induction entries with
  | nil => exact List.forall_mem_singleton.mpr newStorable
  | cons entry entries inductionHypothesis =>
      obtain ⟨front, behind⟩ := List.forall_mem_cons.mp storable
      rw [Toml.set]
      split
      · exact List.forall_mem_cons.mpr ⟨newStorable, behind⟩
      · exact List.forall_mem_cons.mpr ⟨front, inductionHypothesis behind⟩

/-! ### Changes of a table -/

/-- A change that takes storable entries to storable entries. -/
def KeepsStorable (change : Entries → Option Entries) : Prop :=
  ∀ ⦃entries changed⦄, StorableEntries entries → change entries = some changed →
    StorableEntries changed

/-- A change of the last element that keeps entries storable keeps the elements so. -/
theorem storable_of_changeLast {change : Entries → Option Entries} (keeps : KeepsStorable change)
    {elements changed : List Entries} (storable : ∀ entries ∈ elements, StorableEntries entries)
    (result : changeLast change elements = some changed) :
    ∀ entries ∈ changed, StorableEntries entries := by
  match elements with
  | [] => cases result
  | [element] =>
      obtain ⟨last, changesTo, rfl⟩ := Option.map_eq_some_iff.mp result
      exact List.forall_mem_singleton.mpr (keeps (storable element List.mem_cons_self) changesTo)
  | element :: next :: elements =>
      obtain ⟨front, behind⟩ := List.forall_mem_cons.mp storable
      obtain ⟨others, changesTo, rfl⟩ := Option.map_eq_some_iff.mp result
      exact List.forall_mem_cons.mpr ⟨front, storable_of_changeLast keeps behind changesTo⟩

/-- Assigning a storable value keeps entries storable. -/
theorem keepsStorable_assignNew (storable : value.Storable) :
    KeepsStorable (assignNew key value) := by
  intro entries changed entriesStorable result
  rw [assignNew] at result
  split at result
  · cases result
  · cases result
    exact entriesStorable.set storable

/-- Wherever the path of a dotted key leads. -/
theorem keepsStorable_assign (storable : value.Storable) (path : List String) :
    KeepsStorable (assign key value path) := by
  induction path with
  | nil => exact keepsStorable_assignNew storable
  | cons first path inductionHypothesis =>
      intro entries changed entriesStorable result
      rw [assign] at result
      split at result
      case h_1 =>
        obtain ⟨inner, assigned, rfl⟩ := Option.map_eq_some_iff.mp result
        exact entriesStorable.set (.table (inductionHypothesis storableEntries_nil assigned))
      case h_2 kind inner found =>
        have innerStorable := (entriesStorable.of_find? found).inner
        split at result
        · cases result
        · obtain ⟨inner, assigned, rfl⟩ := Option.map_eq_some_iff.mp result
          exact entriesStorable.set (.table (inductionHypothesis innerStorable assigned))
      case h_3 elements found =>
        have elementsStorable := (entriesStorable.of_find? found).elements
        split at result
        · cases result
        · obtain ⟨elements, assigned, rfl⟩ := Option.map_eq_some_iff.mp result
          exact entriesStorable.set
            (.tables (storable_of_changeLast inductionHypothesis elementsStorable assigned))
      case h_4 => cases result

/-- Wherever the path of a header leads. -/
theorem KeepsStorable.changeAt {change : Entries → Option Entries} (keeps : KeepsStorable change)
    (path : List String) : KeepsStorable (changeAt change path) := by
  induction path with
  | nil => exact keeps
  | cons first path inductionHypothesis =>
      intro entries changed entriesStorable result
      rw [Toml.changeAt] at result
      split at result
      case h_1 =>
        obtain ⟨inner, changes, rfl⟩ := Option.map_eq_some_iff.mp result
        exact entriesStorable.set (.table (inductionHypothesis storableEntries_nil changes))
      case h_2 kind inner found =>
        have innerStorable := (entriesStorable.of_find? found).inner
        obtain ⟨inner, changes, rfl⟩ := Option.map_eq_some_iff.mp result
        exact entriesStorable.set (.table (inductionHypothesis innerStorable changes))
      case h_3 elements found =>
        have elementsStorable := (entriesStorable.of_find? found).elements
        obtain ⟨elements, changes, rfl⟩ := Option.map_eq_some_iff.mp result
        exact entriesStorable.set
          (.tables (storable_of_changeLast inductionHypothesis elementsStorable changes))
      case h_4 => cases result

/-- Opening a table keeps entries storable. -/
theorem keepsStorable_openTable (key : String) : KeepsStorable (openTable key) := by
  intro entries changed storable result
  rw [openTable] at result
  split at result
  case h_1 =>
    cases result
    exact storable.set (.table storableEntries_nil)
  case h_2 inner found =>
    cases result
    exact storable.set (.table (storable.of_find? found).inner)
  case h_3 => cases result

/-- Opening an element of an array of tables keeps entries storable. -/
theorem keepsStorable_openElement (key : String) : KeepsStorable (openElement key) := by
  have emptyStorable : ∀ entries ∈ [([] : Entries)], StorableEntries entries :=
    List.forall_mem_singleton.mpr storableEntries_nil
  intro entries changed storable result
  rw [openElement] at result
  split at result
  case h_1 =>
    cases result
    exact storable.set (.tables emptyStorable)
  case h_2 elements found =>
    cases result
    have elementsStorable := (storable.of_find? found).elements
    exact storable.set (.tables (List.forall_mem_append.mpr ⟨elementsStorable, emptyStorable⟩))
  case h_3 => cases result

/-- What each step from a state keeps is kept by all steps together. -/
theorem foldlM_keeps {State Item : Type} {step : State → Item → Option State}
    {Holds : State → Prop} {Admissible : Item → Prop}
    (keeps : ∀ {state item next}, Holds state → Admissible item → step state item = some next →
      Holds next) {items : List Item} (admissible : ∀ item ∈ items, Admissible item)
    {first last : State} (atFirst : Holds first) (result : items.foldlM step first = some last) :
    Holds last := by
  induction items generalizing first with
  | nil =>
      cases result
      exact atFirst
  | cons item items inductionHypothesis =>
      obtain ⟨front, behind⟩ := List.forall_mem_cons.mp admissible
      rw [List.foldlM_cons] at result
      obtain ⟨next, stepped, result⟩ := Option.bind_eq_some_iff.mp result
      exact inductionHypothesis behind (keeps atFirst front stepped) result

/-! ### Readers of values -/

/-- Only integers that can be stored are read. -/
theorem storable_of_readInteger {number : Int} (read : readInteger text = some (number, rest)) :
    isStorable number = true :=
  (Option.filter_eq_some_iff.mp read).2

/-- All values that a reader gives are storable. -/
def ReadsStorable (reader : Reader Value) : Prop :=
  ∀ ⦃text value rest⦄, reader text = some (value, rest) → value.Storable

/-- Scalars are read as storable values. -/
theorem readsStorable_readScalar : ReadsStorable readScalar := by
  intro text value rest read
  rw [readScalar.eq_def] at read
  split at read
  case h_1 | h_2 =>
    obtain ⟨⟨content, after⟩, _, same⟩ := Option.map_eq_some_iff.mp read
    cases same
    exact .text content
  case h_3 | h_4 =>
    cases read
    exact .boolean _
  case h_5 =>
    simp only [Option.orElse_eq_orElse, Option.orElse_eq_or, Option.or_eq_some_iff,
      Option.map_eq_some_iff] at read
    rcases read with ⟨_, _, ⟨⟩⟩ | ⟨_, ⟨_, _, ⟨⟩⟩ | ⟨_, ⟨number, after⟩, readNumber, ⟨⟩⟩⟩
    · exact .date _
    · exact .float _
    · exact .integer (storable_of_readInteger readNumber)

variable {reader : Reader Value}

/-- Values inside an array come from the reader for values that are nested less deep. -/
theorem ReadsStorable.readElements (reads : ReadsStorable reader) {elements : List Value}
    (read : readElements reader text = some (elements, rest)) :
    ∀ element ∈ elements, element.Storable := by
  fun_induction Toml.readElements reader text generalizing elements rest with
  | case1 =>
      cases read
      exact List.forall_mem_nil _
  | case3 text element after behind closed _ readElement =>
      cases read
      exact List.forall_mem_singleton.mpr (reads readElement)
  | case4 text element after behind comma shorter _ readElement inductionHypothesis =>
      obtain ⟨⟨others, end_⟩, readOthers, same⟩ := Option.map_eq_some_iff.mp read
      cases same
      exact List.forall_mem_cons.mpr ⟨reads readElement, inductionHypothesis readOthers⟩
  | case2 | case5 | case6 => cases read

/-- With a reader of storable values, pairs have storable values. -/
theorem ReadsStorable.readPair (reads : ReadsStorable reader) {pair : KeyPath × Value}
    (read : readPair reader text = some (pair, rest)) : pair.2.Storable := by
  rw [Toml.readPair] at read
  split at read
  · obtain ⟨⟨assigned, after⟩, readAssigned, same⟩ := Option.map_eq_some_iff.mp read
    cases same
    exact reads readAssigned
  · cases read

/-- What holds of each item that is read holds of all items between separators. -/
theorem forall_of_separated {Item : Type} {item : Reader Item} {Holds : Item → Prop}
    (holds : ∀ {text result rest}, item text = some (result, rest) → Holds result)
    {separator : Char} {items : List Item}
    (read : separated item separator text = some (items, rest)) : ∀ result ∈ items, Holds result := by
  fun_induction separated item separator text generalizing items rest with
  | case1 => cases read
  | case2 | case4 =>
      rename_i readItem
      cases read
      exact List.forall_mem_singleton.mpr (holds readItem)
  | case3 text first character after shorter readItem inductionHypothesis =>
      obtain ⟨⟨others, end_⟩, readOthers, same⟩ := Option.map_eq_some_iff.mp read
      cases same
      exact List.forall_mem_cons.mpr ⟨holds readItem, inductionHypothesis readOthers⟩

/-- Pairs with storable values make storable entries. -/
theorem storable_of_entriesOf {pairs : List (KeyPath × Value)}
    (storable : ∀ pair ∈ pairs, pair.2.Storable) (built : entriesOf pairs = some entries) :
    StorableEntries entries := by
  refine foldlM_keeps ?keeps storable storableEntries_nil built
  case keeps =>
    intro entries pair next entriesStorable pairStorable assigned
    exact keepsStorable_assign pairStorable _ entriesStorable assigned

/-- With a reader of storable values, inline tables have storable entries. -/
theorem ReadsStorable.readInlineTable (reads : ReadsStorable reader)
    (read : readInlineTable reader text = some (entries, rest)) : StorableEntries entries := by
  rw [Toml.readInlineTable] at read
  split at read
  · cases read
    exact storableEntries_nil
  · split at read
    · rename_i readPairs
      obtain ⟨built, builds, same⟩ := Option.map_eq_some_iff.mp read
      cases same
      exact storable_of_entriesOf (forall_of_separated reads.readPair readPairs) builds
    · cases read

/-- Values are read as storable ones, by induction on the depth they are nested to. -/
theorem readsStorable_readValue (depth : Nat) : ReadsStorable (readValue depth) := by
  induction depth with
  | zero => exact readsStorable_readScalar
  | succ depth inductionHypothesis =>
      intro text value rest read
      rw [readValue.eq_def] at read
      simp only at read
      split at read
      case h_1 =>
        obtain ⟨⟨elements, after⟩, readElements, same⟩ := Option.map_eq_some_iff.mp read
        cases same
        exact .array (inductionHypothesis.readElements readElements)
      case h_2 =>
        obtain ⟨⟨entries, after⟩, readEntries, same⟩ := Option.map_eq_some_iff.mp read
        cases same
        exact .inlineTable (inductionHypothesis.readInlineTable readEntries)
      case h_3 => exact readsStorable_readScalar read

/-! ### Documents -/

/-- The value of a statement, if it has one, is storable. -/
def Statement.Storable : Statement → Prop
  | .pair _ value => value.Storable
  | .table _ | .element _ => True

/-- A statement is read with a storable value, if it has one. -/
theorem storable_of_readStatement {statement : Statement}
    (read : readStatement text = some (statement, rest)) : statement.Storable := by
  rw [readStatement.eq_def] at read
  split at read
  case h_1 | h_2 =>
    split at read
    · cases read
      trivial
    · cases read
  case h_3 =>
    obtain ⟨⟨⟨key, value⟩, after⟩, readPair, same⟩ := Option.map_eq_some_iff.mp read
    cases same
    exact (readsStorable_readValue maxNesting).readPair readPair

/-- The statements of a text are read with storable values. -/
theorem storable_of_readStatements {statements : List Statement}
    (read : readStatements text = some statements) :
    ∀ statement ∈ statements, statement.Storable := by
  fun_induction readStatements text generalizing statements with
  | case1 =>
      cases read
      exact List.forall_mem_nil _
  | case4 =>
      rename_i statement? readFirst inductionHypothesis
      obtain ⟨others, readOthers, rfl⟩ := Option.map_eq_some_iff.mp read
      refine List.forall_mem_append.mpr ⟨?_, inductionHypothesis readOthers⟩
      -- A line without a statement adds nothing in front of the others.
      intro first member
      rw [Option.mem_toList] at member
      subst statement?
      split at readFirst
      · cases readFirst
        cases member
      · obtain ⟨⟨_, _⟩, readStatement, same⟩ := Option.map_eq_some_iff.mp readFirst
        cases same
        cases member
        exact storable_of_readStatement readStatement
  | case2 | case3 | case5 => cases read

/-- A storable statement keeps the entries of a draft storable. -/
theorem Draft.storable_of_add {draft next : Draft} {statement : Statement}
    (entriesStorable : StorableEntries draft.entries) (storable : statement.Storable)
    (added : draft.add statement = some next) : StorableEntries next.entries := by
  cases statement with
  | table header =>
      obtain ⟨entries, opened, rfl⟩ := Option.map_eq_some_iff.mp added
      exact (keepsStorable_openTable _).changeAt _ entriesStorable opened
  | element header =>
      obtain ⟨entries, opened, rfl⟩ := Option.map_eq_some_iff.mp added
      exact (keepsStorable_openElement _).changeAt _ entriesStorable opened
  | pair key value =>
      obtain ⟨entries, assigned, rfl⟩ := Option.map_eq_some_iff.mp added
      exact (keepsStorable_assign storable _).changeAt _ entriesStorable assigned

/-- Storable statements build storable entries. -/
theorem storable_of_build {statements : List Statement}
    (storable : ∀ statement ∈ statements, statement.Storable)
    (built : build statements = some entries) : StorableEntries entries := by
  obtain ⟨draft, builds, rfl⟩ := Option.map_eq_some_iff.mp built
  exact foldlM_keeps Draft.storable_of_add storable storableEntries_nil builds

/-- All integers in a document that is read have sixty-four bits. -/
theorem storable_of_parse? {document : String} (parsed : parse? document = some entries) :
    StorableEntries entries := by
  obtain ⟨statements, read, built⟩ := Option.bind_eq_some_iff.mp parsed
  exact storable_of_build (storable_of_readStatements read) built

end NamedRefs.Toml

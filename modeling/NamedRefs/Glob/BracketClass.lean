/-
Module: NamedRefs.Glob.BracketClass
Purpose: Bracket classes as they are written in a pattern.
Main exports: Glob.readUnit, Glob.readItem, Glob.readItems, Glob.readClass, Glob.ItemForm,
  Glob.ClassForm
-/
import NamedRefs.Glob.Token

namespace NamedRefs.Glob

/-!
After the opening bracket an exclamation mark or a caret negates the class.  Then come the members.
A member starts with one character, or with a backslash and the character that it protects; a dash
and a further character other than a closing bracket make it a range.  The class ends at the first
closing bracket between two members; in front of all members that bracket is itself a member.
-/

/-- Read the character that a member starts with, taking a backslash as protection. -/
def readUnit : List Char → Option (Char × List Char)
  | [] => none
  | ['\\'] => none
  | '\\' :: escaped :: rest => some (escaped, rest)
  | character :: rest => some (character, rest)

/-- Read one member. -/
def readItem (text : List Char) : Option (ClassItem × List Char) :=
  match readUnit text with
  | none => none
  | some (low, '-' :: high :: rest) =>
      if high = ']' then some (.member low, '-' :: high :: rest)
      else some (.range low high, rest)
  | some (low, rest) => some (.member low, rest)

/-- A unit takes at least one character off the text. -/
theorem readUnit_shorter {text rest : List Char} {low : Char}
    (read : readUnit text = some (low, rest)) : rest.length < text.length := by
  unfold readUnit at read
  split at read
  · cases read
  · cases read
  · cases read
    simp only [List.length_cons]
    omega
  · cases read
    simp only [List.length_cons]
    omega

/-- An item takes at least one character off the text. -/
theorem readItem_shorter {text rest : List Char} {item : ClassItem}
    (read : readItem text = some (item, rest)) : rest.length < text.length := by
  unfold readItem at read
  split at read
  · cases read
  · rename_i low high after readOne
    have shorter := readUnit_shorter readOne
    split at read
    · cases read
      exact shorter
    · cases read
      simp only [List.length_cons] at shorter
      omega
  · rename_i low after _ readOne
    cases read
    exact readUnit_shorter readOne

/-- Read members up to the closing bracket and drop it.  The flag says whether a closing bracket
here would end the class. -/
def readItems (closable : Bool) (text : List Char) : Option (List ClassItem × List Char) :=
  match text with
  | [] => none
  | character :: rest =>
      if closable && character == ']' then some ([], rest)
      else
        match _read : readItem (character :: rest) with
        | none => none
        | some (item, remaining) =>
            (readItems true remaining).map fun (items, after) => (item :: items, after)
termination_by text.length
decreasing_by exact readItem_shorter _read

/-- Read the sign of a class. -/
def readNegation : List Char → Bool × List Char
  | '!' :: rest => (true, rest)
  | '^' :: rest => (true, rest)
  | text => (false, text)

/-- Read a class behind its opening bracket: whether it is negated, its members, and the text
behind it.  There is no class when the closing bracket is missing. -/
def readClass (text : List Char) : Option ((Bool × List ClassItem) × List Char) :=
  let (negated, body) := readNegation text
  (readItems false body).map fun (items, rest) => ((negated, items), rest)

/-- The items of a class and the bracket behind them take at least one character off the text. -/
theorem readItems_shorter {closable : Bool} {text rest : List Char} {items : List ClassItem}
    (read : readItems closable text = some (items, rest)) : rest.length < text.length := by
  fun_induction readItems closable text generalizing items with
  | case1 => simp at read
  | case2 => simp_all
  | case3 => simp at read
  | case4 closable character after _ item remaining readOne hypothesis =>
      obtain ⟨⟨others, end_⟩, readOthers, same⟩ := Option.map_eq_some_iff.1 read
      simp only [Prod.mk.injEq] at same
      obtain ⟨_, rfl⟩ := same
      exact Nat.lt_trans (hypothesis readOthers) (readItem_shorter readOne)

/-- A sign is taken off the text, or nothing is. -/
theorem readNegation_length (text : List Char) :
    (readNegation text).2.length ≤ text.length := by
  unfold readNegation
  split <;> simp

/-- A class takes at least one character off the text. -/
theorem readClass_shorter {text rest : List Char} {content : Bool × List ClassItem}
    (read : readClass text = some (content, rest)) : rest.length < text.length := by
  unfold readClass at read
  obtain ⟨⟨items, end_⟩, readBody, same⟩ := Option.map_eq_some_iff.1 read
  simp only [Prod.mk.injEq] at same
  obtain ⟨_, rfl⟩ := same
  exact Nat.lt_of_lt_of_le (readItems_shorter readBody) (readNegation_length text)

/-!
### The written forms

The same syntax as a relation, without reading: which texts are written forms of a member, of the
members of a class, and of a class.
-/

/-- The written forms of the character that a member starts with. -/
inductive UnitForm : Char → List Char → Prop where
  | plain {character : Char} : character ≠ '\\' → UnitForm character [character]
  | escaped (character : Char) : UnitForm character ['\\', character]

/-- The written forms of a member in front of the given text.  A lone character must not be taken
for the start of a range. -/
inductive ItemForm : ClassItem → List Char → List Char → Prop where
  | range {low high : Char} {unit : List Char} (rest : List Char) :
      UnitForm low unit → high ≠ ']' →
      ItemForm (.range low high) (unit ++ ['-', high]) rest
  | member {character : Char} {unit rest : List Char} :
      UnitForm character unit →
      (∀ high after, rest = '-' :: high :: after → high = ']') →
      ItemForm (.member character) unit rest

/-- The written forms of one or more members and the closing bracket, in front of the given text. -/
inductive ItemsForm : List ClassItem → List Char → List Char → Prop where
  | last {item : ClassItem} {form rest : List Char} :
      ItemForm item form (']' :: rest) → ItemsForm [item] (form ++ [']']) rest
  | more {item : ClassItem} {items : List ClassItem} {form forms rest : List Char} :
      ItemForm item form (forms ++ rest) → forms.head? ≠ some ']' →
      ItemsForm items forms rest → ItemsForm (item :: items) (form ++ forms) rest

/-- The written forms of a class behind its opening bracket, in front of the given text.  A sign in
front always negates. -/
inductive ClassForm : Bool → List ClassItem → List Char → List Char → Prop where
  | plain {items : List ClassItem} {forms rest : List Char} :
      forms.head? ≠ some '!' → forms.head? ≠ some '^' →
      ItemsForm items forms rest → ClassForm false items forms rest
  | negated {items : List ClassItem} {sign : Char} {forms rest : List Char} :
      sign = '!' ∨ sign = '^' →
      ItemsForm items forms rest → ClassForm true items (sign :: forms) rest

end NamedRefs.Glob

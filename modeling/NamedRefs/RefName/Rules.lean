/-
Module: NamedRefs.RefName.Rules
Purpose: The naming rules of references, in the order in which they are checked.
Main exports: RefName.rules, RefName.fault?, RefName.check, RefName.IsValid
-/
import NamedRefs.RefName.Fault

namespace NamedRefs.RefName

/-!
A name is refused by the first rule that it breaks.  The rules about single characters come before
those about pairs of characters and about the two ends of the name; the rules about the components
between slashes come last, and there the leftmost bad component counts.
-/

/-- ASCII control characters, which no name holds. -/
def isControl (character : Char) : Bool :=
  character.toNat < 0x20 || character.toNat == 0x7F

/-- The printable characters that no name holds, in the order in which they are looked for. -/
def forbiddenCharacters : List Char :=
  [' ', '~', '^', ':', '?', '*', '[', '\\']

/-- The components of a name: its pieces between slashes. -/
def components (name : List Char) : List (List Char) :=
  name.splitOn '/'

/-- The ending that is kept for lock files. -/
def lockEnding : List Char :=
  ['.', 'l', 'o', 'c', 'k']

/-- Whether two characters stand side by side somewhere in a name. -/
def holdsPair (first second : Char) : List Char → Bool
  | one :: two :: rest =>
      (one == first && two == second) || holdsPair first second (two :: rest)
  | _ => false

/-- Report the fault when the condition holds. -/
def refuseIf (condition : Bool) (fault : NameFault) : Option NameFault :=
  if condition then some fault else none

/-- The fault of one component. -/
def componentFault? (component : List Char) : Option NameFault :=
  if ['.'] <+: component then some (.dottedComponent (String.ofList component))
  else if lockEnding <:+ component then some (.lockComponent (String.ofList component))
  else none

/-- All rules; each one looks at the whole name and reports the fault that it finds. -/
def rules : List (List Char → Option NameFault) :=
  [ fun name => refuseIf (name == []) .empty,
    fun name => refuseIf (name == ['@']) .loneAt,
    fun name => (name.find? isControl).map .controlCharacter,
    fun name => (forbiddenCharacters.find? name.contains).map .forbiddenCharacter,
    fun name => refuseIf (holdsPair '.' '.' name) .doubleDot,
    fun name => refuseIf (holdsPair '@' '\x7b' name) .atBrace,
    fun name => refuseIf (['/'] <+: name || ['/'] <:+ name) .slashAtEnd,
    fun name => refuseIf (['.'] <:+ name) .dotAtEnd,
    fun name => refuseIf (holdsPair '/' '/' name) .doubleSlash,
    fun name => (components name).findSome? componentFault? ]

/-- The first rule that the name breaks, as the fault that it reports. -/
def fault? (name : String) : Option NameFault :=
  rules.findSome? fun rule => rule name.toList

/-- Check a name against all rules. -/
def check (name : String) : Except NameFault Unit :=
  match fault? name with
  | some fault => .error fault
  | none => .ok ()

/-- A name that breaks no rule. -/
def IsValid (name : String) : Prop :=
  fault? name = none

instance (name : String) : Decidable (IsValid name) :=
  inferInstanceAs (Decidable (fault? name = none))

theorem check_eq_ok_iff (name : String) : check name = .ok () ↔ IsValid name := by
  unfold check IsValid
  split <;> simp_all

end NamedRefs.RefName

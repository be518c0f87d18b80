/-
Module: NamedRefs.RefName.Grammar
Purpose: The shape of a reference name, said component by component.
Main exports: RefName.WellFormedComponent, RefName.WellFormed
-/
import NamedRefs.RefName.Rules

namespace NamedRefs.RefName

/-!
The rules look at the whole name.  Seen from its components the same names have a shorter
description: the pieces between slashes are well formed one by one, and only two conditions are left
for the name as a whole.
-/

/-- A component: it is not empty, holds none of the refused characters and pairs, and has neither a
dot in front nor the ending of a lock file. -/
structure WellFormedComponent (component : List Char) : Prop where
  nonempty : component ≠ []
  no_control : ∀ character ∈ component, isControl character = false
  no_forbidden : ∀ character ∈ component, character ∉ forbiddenCharacters
  no_double_dot : ¬ ['.', '.'] <:+: component
  no_at_brace : ¬ ['@', '\x7b'] <:+: component
  no_leading_dot : ¬ ['.'] <+: component
  no_lock_ending : ¬ lockEnding <:+ component

/-- A name: its components are well formed, the last one does not end with a dot, and the name is
not a lone at sign. -/
structure WellFormed (name : String) : Prop where
  not_lone_at : name ≠ "@"
  components_wellFormed :
    ∀ component ∈ components name.toList, WellFormedComponent component
  last_component : ∀ component ∈ (components name.toList).getLast?, ¬ ['.'] <:+ component

end NamedRefs.RefName

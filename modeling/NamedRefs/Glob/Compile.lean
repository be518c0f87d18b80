/-
Module: NamedRefs.Glob.Compile
Purpose: Patterns as text: how they are compiled to tokens and how tokens are written back.
Main exports: Glob.readToken, Glob.compile, Glob.render
-/
import NamedRefs.Glob.BracketClass

namespace NamedRefs.Glob

/-!
Every text is a pattern.  A star, a question mark, a protected character and a bracket class have
their own tokens; every other character stands for itself, among them an opening bracket whose class
is never closed and a backslash at the very end.
-/

/-- Read the token that starts with the given character. -/
def readToken (first : Char) (rest : List Char) : Token × List Char :=
  match first, rest with
  | '*', _ => (.star, rest)
  | '?', _ => (.anyCharacter, rest)
  | '\\', character :: after => (.literal character, after)
  | '[', _ =>
      match readClass rest with
      | some ((negated, items), after) => (.bracket negated items, after)
      | none => (.literal '[', rest)
  | _, _ => (.literal first, rest)

/-- An opening bracket in front of a class makes one token of both. -/
theorem readToken_bracket {rest after : List Char} {negated : Bool} {items : List ClassItem}
    (read : readClass rest = some ((negated, items), after)) :
    readToken '[' rest = (.bracket negated items, after) := by
  simp only [readToken, read]

/-- A token takes nothing that is not there. -/
theorem readToken_length (first : Char) (rest : List Char) :
    (readToken first rest).2.length ≤ rest.length := by
  unfold readToken
  split
  · simp
  · simp
  · simp
  · split
    · rename_i read
      exact Nat.le_of_lt (readClass_shorter read)
    · simp
  · simp

/-- Put a token in front of others.  Of two stars in a row one is enough. -/
def Token.attach : Token → List Token → List Token
  | .star, .star :: tokens => .star :: tokens
  | token, tokens => token :: tokens

/-- The tokens of a pattern. -/
def compile (pattern : List Char) : List Token :=
  match pattern with
  | [] => []
  | first :: rest => (readToken first rest).1.attach (compile (readToken first rest).2)
termination_by pattern.length
decreasing_by exact Nat.lt_succ_of_le (readToken_length first rest)

@[simp] theorem compile_nil : compile [] = [] := by
  rw [compile]

/-- The first token of a pattern is attached to those of the rest. -/
theorem compile_cons (first : Char) (rest : List Char) :
    compile (first :: rest) =
      (readToken first rest).1.attach (compile (readToken first rest).2) := by
  rw [compile]

/-- A member of a class, written so that nothing in it can be misread. -/
def ClassItem.render : ClassItem → List Char
  | .member character => ['\\', character]
  | .range low high => ['\\', low, '-', high]

/-- A token, written so that nothing in it can be misread. -/
def Token.render : Token → List Char
  | .literal character => ['\\', character]
  | .anyCharacter => ['?']
  | .star => ['*']
  | .bracket negated items =>
      '[' :: (if negated then ['!'] else []) ++ items.flatMap ClassItem.render ++ [']']

/-- A pattern for the given tokens. -/
def render (tokens : List Token) : List Char :=
  tokens.flatMap Token.render

end NamedRefs.Glob

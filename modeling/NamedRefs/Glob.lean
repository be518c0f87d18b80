/-
Module: NamedRefs.Glob
Purpose: Shell-style patterns that pick names.
Main exports: Glob, Glob.ofPattern, Glob.selects, Glob.describe
-/
import NamedRefs.Glob.Compile
import NamedRefs.Glob.Scan
import NamedRefs.Text.Quoted

namespace NamedRefs

/-- A pattern together with its tokens. -/
structure Glob where
  pattern : String
  tokens : List Glob.Token
  tokens_eq : tokens = Glob.compile pattern.toList
deriving DecidableEq

namespace Glob

/-- Compile a pattern; every text is one. -/
def ofPattern (pattern : String) : Glob where
  pattern := pattern
  tokens := compile pattern.toList
  tokens_eq := rfl

/-- Whether the pattern describes the whole text. -/
def selects (glob : Glob) (text : String) : Bool :=
  accepts glob.tokens text.toList

/-- The pattern in quotes, for diagnostics. -/
def describe (glob : Glob) : String :=
  s!"Glob({Text.quoteText glob.pattern})"

end Glob

end NamedRefs

import Rollout.Pattern.Parse
import Rollout.Pattern.Lower
import Rollout.Pattern.Match
import Rollout.Pattern.Size
import Rollout.Pattern.Report
/-!
# Compiled patterns

Compiling a pattern reads it, gives it its meaning in normal form and checks the size of its
automata. A
pattern that must match at the start of the text is compiled as `^(?:p)`, so an error report
shows that text.
-/

namespace Rollout.Pattern

/-- Why a pattern could not be compiled. -/
inductive CompileError where
  | malformed (pattern : String) (e : SyntaxError)
  | tooBig (limit : Nat)
deriving Inhabited

/-- The text of a compile error. -/
def CompileError.message : CompileError → String
  | .malformed pattern e => e.report pattern
  | .tooBig limit => "Compiled regex exceeds size limit of " ++ toString limit ++ " bytes."

end Rollout.Pattern

namespace Rollout

open Rollout.Pattern

/-- A compiled pattern: the text it was compiled from, and its meaning. -/
structure Regex where
  source : String
  node : Node
deriving Inhabited

namespace Regex

/-- Compiles a pattern. -/
def compile (pattern : String) : Except CompileError Regex := do
  let ast ← (Ast.parse pattern).mapError (CompileError.malformed pattern)
  let form ← ast.lower.mapError (CompileError.malformed pattern)
  if form.tooBig then throw (.tooBig sizeLimit)
  return ⟨pattern, form.toNode⟩

/-- Compiles a pattern that must match at the start of the text. -/
def anchored (pattern : String) : Except CompileError Regex :=
  compile ("^(?:" ++ pattern ++ ")")

/-- Whether the pattern matches somewhere in a text. -/
def isMatch (r : Regex) (text : String) : Bool := r.node.matches text

end Regex

end Rollout

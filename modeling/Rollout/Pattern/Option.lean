import Rollout.Pattern.Compile
import Rollout.Fault
/-!
# Patterns in actor options

An option that holds a pattern is compiled when the actor is built, anchored at the start of
the text. A pattern that does not compile is an invalid-options fault of the actor, naming the
option and showing the report.
-/

namespace Rollout

/-- Compiles the anchored pattern of an option; a failure is an invalid-options fault. -/
def Regex.ofOption (label option pattern : String) : Except Fault Regex :=
  (Regex.anchored pattern).mapError fun e =>
    .invalidOptions label (option ++ " is an invalid regex: " ++ e.message)

end Rollout

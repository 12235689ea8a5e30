import Rollout.Console
import Std.Time.Format
/-!
# The command line

Reads the command line, the environment variables the program looks at, and the files the
command line names; runs the program on them; and writes what it wrote, ending with its exit
status.
-/

-- Powers of numbers use the core instance, whatever else is imported.
attribute [local instance(high)] instPowNat

namespace Rollout

/-- What stands at a path: a file's bytes, a folder, or nothing. -/
def readEntry (path : String) : IO Entry := do
  try
    pure (.file (← IO.FS.readBinFile path))
  catch e =>
    match e with
    | .inappropriateType _ 20 _ => pure .notDirectory
    | .inappropriateType .. => pure .directory
    | _ => pure .missing

/-- The paths a command line asks to read. -/
def namedPaths : Except CommandLine.Failure Invocation → List String
  | .ok i => i.inventory.toList ++ (match i.task with
    | .run s _ | .validate s => [s]
    | .actors => [])
  | .error _ => []

end Rollout

open Rollout

def main (args : List String) : IO UInt32 := do
  let names := "RUST_LOG" :: globalOptions.filterMap (·.env)
  let values ← names.mapM fun n => do pure (n, ← IO.getEnv n)
  let env := fun k => (values.find? (·.1 == k)).bind (·.2)
  let entries ← (namedPaths (Invocation.read env args)).mapM fun p => do pure (p, ← readEntry p)
  let folder : Folder := { entry := fun p => ((entries.find? (·.1 == p)).map (·.2)).getD .missing }
  let wall ← Std.Time.Timestamp.now
  let nanos : Int := wall.toNanosecondsSinceUnixEpoch.toInt
  let calendar : Timestamp := ⟨nanos / 1000000000, (nanos % 1000000000).toNat⟩
  let mut words := []
  for _ in [0:64] do
    words := (← IO.rand 0 (2 ^ (64 : Nat) - 1)) :: words
  let c := Console.run env folder calendar words none args
  IO.print c.out
  IO.eprint c.err
  pure c.status.toUInt32

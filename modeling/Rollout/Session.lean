import Rollout.Invocation
import Rollout.Script
import Rollout.Assembly
import Rollout.Execution
import Rollout.Program.Machine
/-!
# Running the program

A session carries out an invocation in a working folder, where the paths of the line are
read, and ends with an exit code or an error.

* An inventory given is loaded first, whatever the subcommand.
* `actors` lists the actor types, one name a line, in order of their names.
* `validate` loads the script and builds it as a dry run, then says the script is valid.
* `run` loads the script, builds it, and runs the tree on the virtual clock; an interrupt at a
  given time cancels the run. It prints one line on how the run ended and how long it took,
  and the fault that ended it on a second line; the exit code tells how it ended.

An error is written with the faults it stems from, each after a colon: a fault that wraps
the fault of a child act names it in its own text too, so such texts repeat.

* `elapsedText_zero`: a run that took no time took `0.0ns`.
-/

namespace Rollout

/-- A working folder: what stands at each path. -/
structure Folder where
  entry : String → Entry := fun _ => .missing
deriving Inhabited

namespace Folder

/-- The parts of a file's name, without empty parts and `.`. -/
def components (name : String) : List String :=
  (name.splitOn "/").filter fun p => p != "" && p != "."

/-- What stands at a place, given by its parts below the working folder, in the folder that
holds the given files: a file where one is named so, a folder where the names of files go on
below it, the working folder itself included, and nothing elsewhere. -/
def standing (files : List (String × String)) (place : List String) : Entry :=
  match files.find? (fun (name, _) => components name == place) with
  | some (_, text) => .file text.toUTF8
  | none =>
    if place.isEmpty || files.any (fun (name, _) =>
        let c := components name
        place.length < c.length && c.take place.length == place) then .directory
    else .missing

/-- Follows the parts of a path from a place, the way the system resolves a path: an empty
part and `.` stay where they are, `..` goes up, and any part after a file, an empty one
included, finds that the file is not a folder. Above the working folder (`none`) stand
folders only. -/
def resolve (look : List String → Entry) : Option (List String) → List String → Entry
  | _, [] => .directory
  | place, p :: rest =>
    if p == "" || p == "." then resolve look place rest
    else if p == ".." then
      resolve look (place.bind fun ps => if ps.isEmpty then none else some ps.dropLast) rest
    else
      match place with
      | none => .missing
      | some ps =>
        match look (ps ++ [p]) with
        | .directory => resolve look (some (ps ++ [p])) rest
        | .file bytes => if rest.isEmpty then .file bytes else .notDirectory
        | other => other

/-- The folder that holds the given files, by path. The empty path and absolute paths lead
nowhere. -/
def ofFiles (files : List (String × String)) : Folder where
  entry path :=
    if path.isEmpty || path.startsWith "/" then .missing
    else resolve (standing files) (some []) (path.splitOn "/")

end Folder

/-- A fault with the faults it stems from, each after a colon. -/
def Fault.chain (f : Fault) : String := ": ".intercalate (f.message :: f.sources.map Fault.message)

/-- A whole number of milliseconds as a duration is written to one decimal: in milliseconds
below a second, in seconds from there on, a half going to the even tenth; no time at all is
`0.0ns`. -/
def elapsedText (ms : Nat) : String :=
  if ms = 0 then "0.0ns"
  else if ms < 1000 then toString ms ++ ".0ms"
  else
    let down := ms / 100
    let tenths := if ms % 100 > 50 || (ms % 100 = 50 && down % 2 = 1) then down + 1 else down
    toString (tenths / 10) ++ "." ++ toString (tenths % 10) ++ "s"

theorem elapsedText_zero : elapsedText 0 = "0.0ns" := rfl

/-- How a session ended: with an exit code, or with an error. -/
inductive Ending where
  | exit (code : Nat)
  | error (message : String)
deriving DecidableEq, Inhabited

/-- What a session printed, how it ended, and what it logged. -/
structure Transcript where
  output : String := ""
  ending : Ending
  /-- The log, each event with the actors it was written under. -/
  journal : Array (Scope × Event) := #[]
deriving Inhabited

/-- The line that tells how a run ended. -/
def RunReport.summary (r : RunReport) (desc : String) : String :=
  let t := elapsedText r.elapsed
  match r.status with
  | .succeeded => "✓ " ++ desc ++ " succeeded in " ++ t
  | .failed => "✗ " ++ desc ++ " failed after " ++ t
  | .cancelled => "✗ " ++ desc ++ " was cancelled after " ++ t

namespace Session

/-- Lists the actor types. -/
def actors : Transcript :=
  { output := String.join (Registry.builtin.names.map (· ++ "\n")), ending := .exit 0 }

/-- Loads a script, or ends the session with the fault. -/
def script (folder : Folder) (path : String) : Except Transcript Spec :=
  match loadScript path (folder.entry path) with
  | .ok spec => .ok spec
  | .error f => .error { ending := .error f.chain }

/-- Builds a script, or ends the session saying it is invalid. -/
def build (b : Backends) (path : String) (spec : Spec) (dryRun : Bool) : Except Transcript Actor :=
  match Actor.build b spec dryRun with
  | .ok a => .ok a
  | .error f => .error { ending := .error ("Script " ++ path ++ " is invalid: " ++ f.chain) }

/-- The debug events of building a script, outside every actor. -/
def building (b : Backends) (spec : Spec) (dryRun : Bool) : Array (Scope × Event) :=
  ((Actor.buildLog b spec dryRun).map (([] : Scope), ·)).toArray

/-- The event that tells how many load balancers an inventory loaded has. -/
def loadedEvent (inv : Balancer.Inventory) : Event :=
  { level := .info, origin := .commands, message := "Loaded inventory",
    fields := [("load_balancers", toString inv.size)] }

/-- Runs a built tree from a script on the virtual clock, interrupted at a time if one is
given. -/
def runTree (world : World) (entropy : List Nat) (interrupt : Option Nat) (desc : String)
    (root : Actor) : Transcript :=
  let machine : Machine World := { world, entropy }
  let happenings := match interrupt with
    | some t => [(t, Happening.interrupt)]
    | none => []
  let (m, report?) := (Exec.program (Rollout.runTree root)).run machine happenings
  match report? with
  | some r =>
    { output := r.summary desc ++ "\n" ++ (match r.fault with
        | some f => "  " ++ f.message ++ "\n"
        | none => ""),
      ending := .exit r.status.exitCode, journal := m.journal }
  | none => { ending := .error "the run did not finish", journal := m.journal }

/-- Carries out an invocation in a folder, at a calendar time, with random words for jitter,
and an interrupt at a time of the virtual clock if one is given. -/
def execute (folder : Folder) (calendar : Timestamp) (entropy : List Nat) (interrupt : Option Nat)
    (i : Invocation) : Transcript :=
  let settings := i.settings
  let inventory : Except String (Option Balancer.Inventory) := match i.inventory with
    | some p => match loadInventory p (folder.entry p) with
      | .ok inv => .ok (some inv)
      | .error f => .error ("Failed to read inventory " ++ p ++ ": " ++ f.chain)
    | none => .ok none
  match inventory with
  | .error m => { ending := .error m }
  | .ok inventory =>
  let opening : Array (Scope × Event) := match inventory with
    | some inv => #[([], loadedEvent inv)]
    | none => #[]
  let backends : Backends := { settings, balancers := inventory.isSome }
  let t : Transcript := match i.task with
    | .actors => actors
    | .validate path =>
      match script folder path with
      | .error t => t
      | .ok spec =>
        let log := building backends spec true
        match build backends path spec true with
        | .error t => { t with journal := log }
        | .ok _ => { output := "✓ " ++ path ++ " is valid\n", ending := .exit 0, journal := log }
    | .run path dry =>
      match script folder path with
      | .error t => t
      | .ok spec =>
        let log := building backends spec dry
        match build backends path spec dry with
        | .error t => { t with journal := log }
        | .ok root =>
          let world : World :=
            { balancers := inventory.map (fun inv => { inventory := inv }),
              repository := .unreachable
                { endpoint := settings.repo.endpoint, account := settings.repo.account.getD "" },
              calendar,
              permits := max i.poolSize 1 }
          let t := runTree world entropy interrupt spec.desc root
          { t with journal := log ++ t.journal }
  { t with journal := opening ++ t.journal }

end Session

end Rollout

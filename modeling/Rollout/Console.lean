import Rollout.Session
import Rollout.Log.Line
/-!
# A run of the program

The program reads its command line together with the environment, sets up its log filter,
carries out what it was asked, and ends with an exit status, having written to standard output
and standard error:

* A refused command line is written to standard error, with status 2; a page asked for (the
  help page, the version) is written to standard output, with status 0.
* The log filter is the one `--level` gives, else the one `RUST_LOG` gives, else `info`. Log
  lines go to standard error.
* A session that ends with an error logs it, writes `Error: ` and the error to standard
  error, and ends with status 1.

* `ofFailure_page`: a page asked for is printed, and the program succeeds.
-/

namespace Rollout

/-- What a run of the program wrote, and its exit status. -/
structure Console where
  status : Nat
  out : String := ""
  err : String := ""
deriving Inhabited

namespace Console

/-- The texts, each as a line. -/
def lines (ls : List String) : String := String.join (ls.map (· ++ "\n"))

/-- The lines of a text, without the break after the last. -/
def linesOf (text : String) : List String :=
  match (text.splitOn "\n").reverse with
  | "" :: rest => rest.reverse
  | all => all.reverse

/-- How the program ends on a command line it does not run. -/
def ofFailure (f : CommandLine.Failure) : Console :=
  if f.cause.isPage then { status := 0, out := f.message }
  else { status := f.exitCode, err := f.message }

/-- The log event of a session that ended with an error. -/
def failureEvent (message : String) : Event :=
  { level := .error, origin := .main, message }

/-- How the program ends once a session ran, with the log filtered. -/
def ofTranscript (filter : Log.Filter) (t : Transcript) : Console :=
  let logged := t.journal.toList.filterMap fun (scope, e) => filter.line? scope e
  match t.ending with
  | .exit code => { status := code, out := t.output, err := lines logged }
  | .error m =>
    { status := 1, out := t.output,
      err := lines (logged ++ (filter.line? [] (failureEvent m)).toList ++ ["Error: " ++ m]) }

/-- Runs the program on a command line, with the environment, in a working folder, at a
calendar time, with random words for jitter, and an interrupt at a time of the run if one comes. -/
def run (env : String → Option String) (folder : Folder) (calendar : Timestamp)
    (entropy : List Nat) (interrupt : Option Nat) (args : List String) : Console :=
  match Invocation.read env args with
  | .error f => ofFailure f
  | .ok i =>
    ofTranscript (Log.Filter.choose i.level (env "RUST_LOG"))
      (Session.execute folder calendar entropy interrupt i)

end Console

theorem ofFailure_page (p : String) :
    Console.ofFailure { cause := .help p } = { status := 0, out := p } := rfl

end Rollout

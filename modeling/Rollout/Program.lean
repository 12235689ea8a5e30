import Rollout.Fault
/-!
# Programs

A run of an actor tree is a program: a tree of requests, each holding what to do with the
answer. The requests are those an actor can make of its surroundings:

* read or change the world it acts on (load balancers, package repositories, journals);
* read the clock, which is virtual and counts milliseconds from the start of the run;
* write a log event, filed under the actor that writes it;
* ask whether the run was cancelled, or cancel it;
* sleep until a time, or wait until a time unless the run is cancelled first;
* draw a random word;
* give way to the other branches, as a call handed to a worker does while it waits for it;
* fork into branches that run side by side, and go on with all their results.

A branch of a fork ends by settling with a value of type `β`; the whole program ends by
finishing with a value of type `τ`. The machine that runs programs is in `Program.Machine`.

Programs are written in `Exec`, the monad of computations that know the scope they log under
and are handed what to do next. `Job` adds faults.

* `bind_assoc'`, `pure_bind'`: the monad laws hold by definition.
-/

namespace Rollout

/-- How serious a log event is. -/
inductive Level where
  | debug
  | info
  | warn
  | error
deriving DecidableEq, Inhabited

/-- The name of a level, in capitals. -/
def Level.name : Level → String
  | .debug => "DEBUG"
  | .info => "INFO"
  | .warn => "WARN"
  | .error => "ERROR"

/-- The part of the program that writes a log event. Logs name it by its target, the path of
the module that writes the event. -/
inductive Origin where
  | runner
  | actor
  | group
  | poll
  | retry
  | cancel
  | registry
  | pool
  | note
  | balancer
  | balancerInventory
  | packages
  | commands
  | main
deriving DecidableEq, Inhabited

/-- The target of an origin, as log lines show it. -/
def Origin.target : Origin → String
  | .runner => "deckhand_engine::runner"
  | .actor => "deckhand_engine::actor"
  | .group => "deckhand_engine::group"
  | .poll => "deckhand_engine::poll"
  | .retry => "deckhand_engine::retry"
  | .cancel => "deckhand_engine::cancel"
  | .registry => "deckhand_engine::registry"
  | .pool => "deckhand_engine::pool"
  | .note => "deckhand_actors::misc"
  | .balancer => "deckhand_actors::elb"
  | .balancerInventory => "deckhand_actors::elb::inventory"
  | .packages => "deckhand_actors::packagecloud"
  | .commands => "deckhand::commands"
  | .main => "deckhand"

/-- A log event: its level, where it comes from, its message and its named fields, each shown
as text. The fields named in `quoted` hold texts that log lines show in quotes. -/
structure Event where
  level : Level
  origin : Origin
  message : String
  fields : List (String × String) := []
  quoted : List String := []
deriving Inhabited

/-- Who an actor is: its label, its kind's identifier, and whether mutations are suppressed.
Events written while an actor works are written under it. -/
structure Identity where
  description : String
  kind : String
  dryRun : Bool
deriving DecidableEq, Inhabited

/-- The actors an event is written under, the innermost first. -/
abbrev Scope := List Identity

/-- A program acting on a world of type `σ`, whose forked branches settle with a `β` and
which finishes with a `τ`. -/
inductive Program (σ β τ : Type) where
  /-- The whole program ends with an answer. -/
  | finish (answer : τ)
  /-- A branch of a fork ends with its result. -/
  | settle (result : β)
  /-- Reads the world. -/
  | observe (next : σ → Program σ β τ)
  /-- Changes the world. -/
  | change (f : σ → σ) (next : Program σ β τ)
  /-- Reads the clock, in milliseconds since the start. -/
  | clock (next : Nat → Program σ β τ)
  /-- Writes a log event under the actors that write it, none outside actors. -/
  | emit (scope : Scope) (event : Event) (next : Program σ β τ)
  /-- Asks whether the run was cancelled. -/
  | isCancelled (next : Bool → Program σ β τ)
  /-- Cancels the run; the first cancellation is logged under the scope. -/
  | cancel (scope : Scope) (next : Program σ β τ)
  /-- Sleeps until a time; cancellation does not interrupt it. -/
  | sleepUntil (time : Nat) (next : Program σ β τ)
  /-- Waits until a time unless the run is cancelled first, and tells which came first; when
  both hold at once, cancellation wins. -/
  | waitUntil (time : Nat) (next : Bool → Program σ β τ)
  /-- Draws a random word. -/
  | draw (next : Nat → Program σ β τ)
  /-- Gives way: the program goes on only after every other branch had its turn. -/
  | pause (next : Program σ β τ)
  /-- Runs branches side by side and goes on with their results, in the order of the branches. -/
  | fork (branches : List (Program σ β τ)) (next : List β → Program σ β τ)

/-- A computation with a value of type `α`: given the scope it logs under and what to do with
the value, the program. -/
def Exec (σ β τ α : Type) : Type := Scope → (α → Program σ β τ) → Program σ β τ

namespace Exec

variable {σ β τ : Type}

instance : Monad (Exec σ β τ) where
  pure a := fun _ k => k a
  bind x f := fun s k => x s (fun a => f a s k)

theorem pure_bind' {α γ : Type} (a : α) (f : α → Exec σ β τ γ) : (pure a >>= f) = f a := rfl

theorem bind_assoc' {α γ δ : Type} (x : Exec σ β τ α) (f : α → Exec σ β τ γ)
    (g : γ → Exec σ β τ δ) : (x >>= f >>= g) = (x >>= fun a => f a >>= g) := rfl

/-- The world as it is now. -/
def observe : Exec σ β τ σ := fun _ k => .observe k

/-- Changes the world. -/
def modify (f : σ → σ) : Exec σ β τ Unit := fun _ k => .change f (k ())

/-- The time now, in milliseconds since the start. -/
def now : Exec σ β τ Nat := fun _ k => .clock k

/-- Writes a log event under the current scope. -/
def say (e : Event) : Exec σ β τ Unit := fun s k => .emit s e (k ())

/-- Writes a log event outside every actor, as a worker that serves a call does. -/
def sayOutside (e : Event) : Exec σ β τ Unit := fun _ k => .emit [] e (k ())

/-- Writes an event at a level. -/
def log (level : Level) (origin : Origin) (message : String) (fields : List (String × String) := [])
    (quoted : List String := []) : Exec σ β τ Unit :=
  say { level, origin, message, fields, quoted }

/-- Writes an event at level debug. -/
def debug (origin : Origin) (message : String) (fields : List (String × String) := [])
    (quoted : List String := []) : Exec σ β τ Unit :=
  log .debug origin message fields quoted

/-- Writes an event at level info. -/
def info (origin : Origin) (message : String) (fields : List (String × String) := [])
    (quoted : List String := []) : Exec σ β τ Unit :=
  log .info origin message fields quoted

/-- Writes an event at level warn. -/
def warn (origin : Origin) (message : String) (fields : List (String × String) := [])
    (quoted : List String := []) : Exec σ β τ Unit :=
  log .warn origin message fields quoted

/-- Writes an event at level error. -/
def error (origin : Origin) (message : String) (fields : List (String × String) := [])
    (quoted : List String := []) : Exec σ β τ Unit :=
  log .error origin message fields quoted

/-- Whether the run was cancelled. -/
def isCancelled : Exec σ β τ Bool := fun _ k => .isCancelled k

/-- Cancels the run. -/
def cancel : Exec σ β τ Unit := fun s k => .cancel s (k ())

/-- Sleeps until a time. -/
def sleepUntil (time : Nat) : Exec σ β τ Unit := fun _ k => .sleepUntil time (k ())

/-- Sleeps for a number of milliseconds. -/
def sleepFor (ms : Nat) : Exec σ β τ Unit := do
  let t ← now
  sleepUntil (t + ms)

/-- Waits until a time unless cancelled first; true when cancelled. -/
def waitUntil (time : Nat) : Exec σ β τ Bool := fun _ k => .waitUntil time k

/-- A random word. -/
def draw : Exec σ β τ Nat := fun _ k => .draw k

/-- Gives way to the other branches. -/
def pause : Exec σ β τ Unit := fun _ k => .pause (k ())

/-- Runs a computation with its events filed under an actor, inside the actors around it. -/
def within {α : Type} (i : Identity) (x : Exec σ β τ α) : Exec σ β τ α := fun s k => x (i :: s) k

/-- Runs computations side by side, each settling with its value; their values in order. -/
def forkAll (xs : List (Exec σ β τ β)) : Exec σ β τ (List β) :=
  fun s k => .fork (xs.map fun x => x s .settle) k

/-- The program that runs a computation outside every actor and finishes with its value. -/
def program (x : Exec σ β τ τ) : Program σ β τ := x [] .finish

end Exec

/-- A computation that may fail with a fault. -/
abbrev Job (σ β τ α : Type) : Type := ExceptT Fault (Exec σ β τ) α

namespace Job

variable {σ β τ : Type}

/-- Lifts a computation that cannot fail. -/
def lift {α : Type} (x : Exec σ β τ α) : Job σ β τ α := ExceptT.lift x

/-- The outcome of a job as a value, fault or not. -/
def attempt {α : Type} (x : Job σ β τ α) : Exec σ β τ (Except Fault α) := x.run

/-- Fails unless the run is still going: a cancelled run gives the cancellation fault. -/
def checkCancelled : Job σ β τ Unit := do
  if ← lift Exec.isCancelled then throw .cancelled

/-- Sleeps for a number of milliseconds unless the run is cancelled before or meanwhile, which
gives the cancellation fault. -/
def sleepFor (ms : Nat) : Job σ β τ Unit := do
  let t ← lift Exec.now
  if ← lift (Exec.waitUntil (t + ms)) then throw .cancelled

end Job

end Rollout

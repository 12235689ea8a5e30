import Rollout.Program
/-!
# The machine that runs programs

The machine holds the world, the virtual clock, whether the run was cancelled, the log so far
and a supply of random words. It runs one program, the main one, together with happenings
scheduled from outside: a cancellation, or a change of the world, at a fixed time.

Time moves only when nothing can go on. At each instant:

1. The main program runs until every branch waits. Branches of a fork run in their order, one
   after another, each until it waits or gives way; a pass over the whole tree repeats while
   it moved anything, since a branch may have been woken by a later one (a cancellation) or
   may have given way.
2. The happenings due by now take place, in order of time and then of scheduling; if any did,
   step 1 runs again.
3. The clock moves to the earliest time that someone waits for, a sleeping branch or a
   happening.

A sleep that ends at or before the present does not wait at all. The machine stops when the
main program finishes, and also when nothing waits for any time (the program can never go
on) or its fuel runs out, the passes of one instant included; it then has no answer.

* `finish_run`: a program that finishes at once gives its answer.
-/

namespace Rollout

/-- The state of a run. -/
structure Machine (σ : Type) where
  world : σ
  /-- Milliseconds since the start. -/
  now : Nat := 0
  cancelled : Bool := false
  /-- Log events in the order written, each with the scope it was written under. -/
  journal : Array (Scope × Event) := #[]
  /-- Random words still to be drawn; zero when none are left. -/
  entropy : List Nat := []

namespace Machine

variable {σ : Type}

/-- Cancels the run; the first cancellation is logged under the scope. -/
def cancel (m : Machine σ) (scope : Scope) : Machine σ :=
  if m.cancelled then m
  else { m with cancelled := true,
                journal := m.journal.push (scope, { level := .info, origin := .cancel, message := "Cancellation requested" }) }

/-- Takes a random word. -/
def draw (m : Machine σ) : Machine σ × Nat :=
  match m.entropy with
  | [] => (m, 0)
  | w :: rest => ({ m with entropy := rest }, w)

end Machine

/-- Something done to a run from outside. -/
inductive Happening (σ : Type) where
  /-- The run is cancelled. -/
  | cancel
  /-- The user interrupts the run: a warning says so, and the run is cancelled. -/
  | interrupt
  /-- The world changes. -/
  | change (f : σ → σ)

/-- A program under way: running on its own, or waiting for the branches of a fork. -/
inductive Thread (σ β τ : Type) where
  | running (p : Program σ β τ)
  | forked (branches : List (Thread σ β τ)) (next : List β → Program σ β τ)

namespace Program

variable {σ β τ : Type}

/-- One request answered; none when the program waits, has ended, or forks. -/
def step (m : Machine σ) : Program σ β τ → Option (Machine σ × Program σ β τ)
  | .observe next => some (m, next m.world)
  | .change f next => some ({ m with world := f m.world }, next)
  | .clock next => some (m, next m.now)
  | .emit s e next => some ({ m with journal := m.journal.push (s, e) }, next)
  | .isCancelled next => some (m, next m.cancelled)
  | .cancel s next => some (m.cancel s, next)
  | .sleepUntil t next => if t ≤ m.now then some (m, next) else none
  | .waitUntil t next =>
    if m.cancelled then some (m, next true)
    else if t ≤ m.now then some (m, next false)
    else none
  | .draw next => let (m', w) := m.draw; some (m', next w)
  | .finish _ | .settle _ | .fork _ _ | .pause _ => none

end Program

namespace Thread

variable {σ β τ : Type}

/-- The results of branches that have all settled. -/
def settled? : List (Thread σ β τ) → Option (List β)
  | [] => some []
  | .running (.settle b) :: rest => (settled? rest).map (b :: ·)
  | _ => none

mutual

/-- Runs a thread until it waits or ends, with the fuel bounding the requests answered;
also tells whether anything moved. -/
def advance (fuel : Nat) (m : Machine σ) (th : Thread σ β τ) (moved : Bool) :
    Machine σ × Thread σ β τ × Bool :=
  match fuel with
  | 0 => (m, th, moved)
  | fuel + 1 =>
    match th with
    | .running (.fork bs next) => advance fuel m (.forked (bs.map .running) next) true
    | .running (.pause next) => (m, .running next, true)
    | .running p =>
      match p.step m with
      | none => (m, th, moved)
      | some (m', p') => advance fuel m' (.running p') true
    | .forked bs next =>
      let (m', bs', movedBranches) := advanceAll fuel m bs
      match settled? bs' with
      | some results => advance fuel m' (.running (next results)) true
      | none => (m', .forked bs' next, moved || movedBranches)
termination_by (fuel, 0)

/-- Runs branches in order, each until it waits or ends. -/
def advanceAll (fuel : Nat) (m : Machine σ) :
    List (Thread σ β τ) → Machine σ × List (Thread σ β τ) × Bool
  | [] => (m, [], false)
  | th :: rest =>
    let (m', th', moved) := advance fuel m th false
    let (m'', rest', movedRest) := advanceAll fuel m' rest
    (m'', th' :: rest', moved || movedRest)
termination_by bs => (fuel, bs.length + 1)

end

/-- The earliest time a waiting thread waits for. -/
def wakeTime : Thread σ β τ → Option Nat
  | .running (.sleepUntil t _) => some t
  | .running (.waitUntil t _) => some t
  | .running _ => none
  | .forked bs _ => earliest bs
where
  /-- The earliest wake time among branches. -/
  earliest : List (Thread σ β τ) → Option Nat
    | [] => none
    | th :: rest =>
      match wakeTime th, earliest rest with
      | some a, some b => some (min a b)
      | some a, none => some a
      | none, b => b

/-- The answer of a thread that has finished. -/
def answer? : Thread σ β τ → Option τ
  | .running (.finish t) => some t
  | _ => none

/-- The time the clock moves to when nothing can go on: the earliest that a waiting branch or
a happening still to come waits for. -/
def nextTime {γ : Type} (th : Thread σ β τ) (pending : List (Nat × γ)) : Option Nat :=
  match th.wakeTime, pending.head? with
  | some a, some (b, _) => some (min a b)
  | some a, none => some a
  | none, some (b, _) => some b
  | none, none => none

/-- Passes over a thread until one moves nothing; tells whether it came to rest so within the
passes. -/
def quiesce (passes fuel : Nat) (m : Machine σ) (th : Thread σ β τ) : Machine σ × Thread σ β τ × Bool :=
  match passes with
  | 0 => (m, th, false)
  | passes + 1 =>
    let (m', th', moved) := advance fuel m th false
    if moved then quiesce passes fuel m' th' else (m', th', true)

end Thread

/-- The requests answered in one pass at most. -/
def passFuel : Nat := 10000000

/-- The passes over the main program at one instant at most. -/
def passLimit : Nat := 100000

/-- Makes one happening take place. -/
def Machine.apply {σ : Type} (m : Machine σ) : Happening σ → Machine σ
  | .cancel => m.cancel []
  | .interrupt =>
    let warning : Event :=
      { level := .warn, origin := .commands, message := "Interrupt received, cancelling run" }
    ({ m with journal := m.journal.push ([], warning) } : Machine σ).cancel []
  | .change f => { m with world := f m.world }

/-- Makes the happenings due by now take place; tells whether any did. -/
def Machine.happen {σ : Type} (m : Machine σ) :
    List (Nat × Happening σ) → Machine σ × List (Nat × Happening σ) × Bool
  | [] => (m, [], false)
  | (t, h) :: rest =>
    if t ≤ m.now then
      let (m'', rest', _) := Machine.happen (m.apply h) rest
      (m'', rest', true)
    else (m, (t, h) :: rest, false)

/-- Runs the main thread with its scheduled happenings (in order of time) for at most `fuel`
instants. -/
def Machine.drive {σ β τ : Type} : Nat → Machine σ → Thread σ β τ → List (Nat × Happening σ) →
    Machine σ × Option τ
  | 0, m, _, _ => (m, none)
  | fuel + 1, m, th, pending =>
    let (m, th, rested) := th.quiesce passLimit passFuel m
    match th.answer? with
    | some t => (m, some t)
    | none =>
      -- a thread still moving after the last pass has no answer: time may not pass under it
      if !rested then (m, none) else
      let (m', pending', any) := m.happen pending
      if any then Machine.drive fuel m' th pending'
      else
        match th.nextTime pending with
        | some t => Machine.drive fuel { m with now := max t m.now } th pending
        | none => (m, none)

/-- Sorts happenings by time, keeping the order of those at the same time. -/
def Happening.schedule {σ : Type} (hs : List (Nat × Happening σ)) : List (Nat × Happening σ) :=
  hs.mergeSort fun a b => decide (a.1 ≤ b.1)

/-- The instants a run may take at most. -/
def instantLimit : Nat := 10000000

/-- Runs a program from time zero on a machine, with happenings at the given times. -/
def Program.run {σ β τ : Type} (p : Program σ β τ) (m : Machine σ)
    (happenings : List (Nat × Happening σ) := []) : Machine σ × Option τ :=
  Machine.drive instantLimit m (.running p) (Happening.schedule happenings)

theorem finish_run {σ β τ : Type} (t : τ) (m : Machine σ) :
    (Program.finish (β := β) t).run m = (m, some t) := by
  simp [Program.run, Machine.drive, instantLimit, Thread.quiesce, passLimit, Thread.advance,
    passFuel, Program.step, Thread.answer?]

end Rollout

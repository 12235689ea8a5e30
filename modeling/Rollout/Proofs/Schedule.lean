import Mathlib
import Rollout.Proofs.Clock
import Rollout.Execution
/-!
# Timed trees run on schedule

A tree of groups whose leaves each take a fixed time and never cancel the run (`Actor.Timed`) runs
on a schedule fixed by its shape alone. A group in sequence starts each child when the one before
has ended and lasts the sum of their spans; a group side by side starts every child with itself
and lasts the longest of them, no time at all without children (`Actor.span`). The lines its
steps write to the journal are those of `Actor.schedule`, at those times.

Computations are read in continuation-passing form: `Exec.Times x s t Q` says that `x`, started at
time `t`, hands to whatever follows a value, a time and the changes it made that satisfy `Q`, so
that every timed run of what follows makes one of the whole. `Exec.Lasts` is the case of a fixed
duration and fixed changes. There is one rule for each request and one for each way computations
are put together, then one lemma for each kind of actor.

* `Execution.onSchedule`: every timed tree, started at any time, lasts its span and writes the
  lines of its schedule;
* `Actor.schedule_child`, `Actor.schedule_within`: where a child's lines stand among its group's;
* `timed_tree_runs_on_schedule`: **a run from the root of a timed tree reports its span as the
  time it took**; it has a timed run that ends then, and the machine, whenever it answers, stands
  at the start plus the span with the lines of the schedule, in some order, added to the journal.
-/

namespace Rollout

variable {σ β τ α γ : Type}

open Program

namespace Exec

/-- Started at time `t` under scope `s`, `x` hands to whatever follows it a value, a time and the
changes it made that satisfy `Q`: every timed run of what follows, from that time, makes one of
the whole from `t`. -/
def Times (x : Exec σ β τ α) (s : Scope) (t : Nat) (Q : α → Nat → Changes σ → Prop) : Prop :=
  ∀ k : α → Program σ β τ, ∃ a t₁ l, Q a t₁ l ∧
    ∀ {z t' L}, Runs t₁ (k a) z t' L → Runs t (x s k) z t' (l ++ L)

variable {x : Exec σ β τ α} {s : Scope} {t : Nat} {Q R : α → Nat → Changes σ → Prop}

theorem Times.mono (h : x.Times s t Q) (hQ : ∀ a t₁ l, Q a t₁ l → R a t₁ l) : x.Times s t R :=
  fun k => by
    obtain ⟨a, t₁, l, hq, hr⟩ := h k
    exact ⟨a, t₁, l, hQ a t₁ l hq, hr⟩

theorem times_pure {a : α} (h : Q a t []) : (pure a : Exec σ β τ α).Times s t Q :=
  fun _ => ⟨a, t, [], h, id⟩

/-- A computation followed by another takes what the second takes from where the first leaves
off, after the first's changes. -/
theorem Times.bind {f : α → Exec σ β τ γ} {Q : γ → Nat → Changes σ → Prop}
    (h : x.Times s t fun a t₁ l => (f a).Times s t₁ fun b t₂ l' => Q b t₂ (l ++ l')) :
    (x >>= f).Times s t Q := fun k => by
  obtain ⟨a, t₁, l, h₁, r₁⟩ := h fun a => f a s k
  obtain ⟨b, t₂, l', h₂, r₂⟩ := h₁ k
  exact ⟨b, t₂, l ++ l', h₂, fun hr => by rw [List.append_assoc]; exact r₁ (r₂ hr)⟩

/-! ### One rule for each request a timed run answers -/

theorem times_now {Q : Nat → Nat → Changes σ → Prop} (h : Q t t []) :
    (now : Exec σ β τ Nat).Times s t Q :=
  fun _ => ⟨t, t, [], h, .clock⟩

theorem times_modify {f : σ → σ} {Q : Unit → Nat → Changes σ → Prop} (h : Q () t [(t, f)]) :
    (modify f : Exec σ β τ Unit).Times s t Q :=
  fun _ => ⟨(), t, _, h, .change⟩

theorem times_say {e : Event} {Q : Unit → Nat → Changes σ → Prop} (h : Q () t []) :
    (say e : Exec σ β τ Unit).Times s t Q :=
  fun _ => ⟨(), t, [], h, .emit⟩

theorem times_isCancelled {Q : Bool → Nat → Changes σ → Prop} (h : Q false t []) :
    (isCancelled : Exec σ β τ Bool).Times s t Q :=
  fun _ => ⟨false, t, [], h, .isCancelled⟩

theorem times_sleepUntil {w : Nat} {Q : Unit → Nat → Changes σ → Prop} (h : Q () (max w t) []) :
    (sleepUntil w : Exec σ β τ Unit).Times s t Q :=
  fun _ => ⟨(), _, [], h, .sleepUntil⟩

theorem times_waitUntil {w : Nat} {Q : Bool → Nat → Changes σ → Prop} (h : Q false (max w t) []) :
    (waitUntil w : Exec σ β τ Bool).Times s t Q :=
  fun _ => ⟨false, _, [], h, .waitUntil⟩

theorem times_within {i : Identity} (h : x.Times (i :: s) t Q) : (within i x).Times s t Q := h

/-- A sleep for `d` milliseconds ends `d` milliseconds on. -/
theorem times_sleepFor {d : Nat} {Q : Unit → Nat → Changes σ → Prop} (h : Q () (t + d) []) :
    (sleepFor d : Exec σ β τ Unit).Times s t Q :=
  Times.bind <| times_now <| times_sleepUntil <| by
    rwa [Nat.max_eq_left (Nat.le_add_right t d)]

/-- Branches forked together: each settles on its own run from the fork's time, and what follows
goes on when the last has settled, with their values in order and their changes one branch after
the other. -/
theorem times_forkAll {xs : List (Exec σ β τ β)} {rs : List β} {u : Nat} {ls : Changes σ}
    {Q : List β → Nat → Changes σ → Prop} (hb : RunsAll t (xs.map fun x => x s .settle) rs u ls)
    (h : Q rs u ls) : (forkAll xs).Times s t Q :=
  fun _ => ⟨rs, u, ls, h, fun hr => .fork hb hr (.refl _)⟩

/-- A computation that takes `Q` settles, as a branch, on a run that `Q` describes. -/
theorem Times.settles {x : Exec σ β τ β} {Q : β → Nat → Changes σ → Prop} (h : x.Times s t Q) :
    ∃ r t₁ l, Q r t₁ l ∧ Runs t (x s .settle) (.inl r) t₁ l := by
  obtain ⟨r, t₁, l, hq, hr⟩ := h .settle
  have hrun := hr .settle
  rw [List.append_nil] at hrun
  exact ⟨r, t₁, l, hq, hrun⟩

/-- A whole program made of a computation that takes `Q` has a timed run that `Q` describes. -/
theorem Times.program {x : Exec σ β τ τ} {Q : τ → Nat → Changes σ → Prop} (h : x.Times [] t Q) :
    ∃ r t₁ l, Q r t₁ l ∧ Runs t (program x) (.inr r) t₁ l := by
  obtain ⟨r, t₁, l, hq, hr⟩ := h .finish
  have hrun := hr .finish
  rw [List.append_nil] at hrun
  exact ⟨r, t₁, l, hq, hrun⟩

/-- `x` lasts `d` milliseconds from `t` and changes the world by `l`, whatever it hands on. -/
def Lasts (x : Exec σ β τ α) (s : Scope) (t d : Nat) (l : Changes σ) : Prop :=
  x.Times s t fun _ t₁ l' => t₁ = t + d ∧ l' = l

/-- Computations one after the other last as long as both together, with the changes of each in
turn. -/
theorem Lasts.bind {f : α → Exec σ β τ γ} {d₁ d₂ d : Nat} {l₁ l₂ l : Changes σ}
    (hx : x.Lasts s t d₁ l₁) (hf : ∀ a, (f a).Lasts s (t + d₁) d₂ l₂) (hd : d₁ + d₂ = d)
    (hl : l₁ ++ l₂ = l) : (x >>= f).Lasts s t d l := by
  refine Times.bind (Times.mono hx fun a t₁ l' ⟨ht, hl'⟩ => ?_)
  subst ht hl'
  exact Times.mono (hf a) fun _ t₂ l'' ⟨ht₂, hl''⟩ => ⟨by omega, by rw [hl'', hl]⟩

theorem lasts_say {e : Event} : (say e : Exec σ β τ Unit).Lasts s t 0 [] := times_say ⟨rfl, rfl⟩

/-- A log event takes no time and changes nothing: what follows it lasts as it would alone. -/
theorem Lasts.say_bind {e : Event} {f : Unit → Exec σ β τ α} {d : Nat} {l : Changes σ}
    (hf : (f ()).Lasts s t d l) : (say e >>= f).Lasts s t d l :=
  Times.bind (times_say hf)

theorem lasts_pure {a : α} : (pure a : Exec σ β τ α).Lasts s t 0 [] := times_pure ⟨rfl, rfl⟩

end Exec

namespace Job

/-- What a computation that may fail takes, its answer being a value or a fault. -/
def Times (x : Job σ β τ α) (s : Scope) (t : Nat) (Q : Except Fault α → Nat → Changes σ → Prop) :
    Prop :=
  Exec.Times x.run s t Q

variable {s : Scope} {t : Nat} {Q : Except Fault α → Nat → Changes σ → Prop}

theorem times_pure {a : α} (h : Q (.ok a) t []) : (pure a : Job σ β τ α).Times s t Q :=
  fun _ => ⟨_, t, [], h, id⟩

theorem times_throw {e : Fault} (h : Q (.error e) t []) : (throw e : Job σ β τ α).Times s t Q :=
  fun _ => ⟨_, t, [], h, id⟩

theorem times_lift {x : Exec σ β τ α} (h : x.Times s t fun a => Q (.ok a)) :
    (lift x).Times s t Q := fun k => by
  obtain ⟨a, t₁, l, hq, hr⟩ := h fun a => k (.ok a)
  exact ⟨.ok a, t₁, l, hq, hr⟩

/-- A job followed by another: a fault of the first is the fault of both. -/
theorem Times.bind {x : Job σ β τ α} {f : α → Job σ β τ γ} {Q : Except Fault γ → Nat → Changes σ → Prop}
    (h : x.Times s t fun r t₁ l => match r with
      | .ok a => (f a).Times s t₁ fun r' t₂ l' => Q r' t₂ (l ++ l')
      | .error e => Q (.error e) t₁ l) :
    (x >>= f).Times s t Q := fun k => by
  obtain ⟨r, t₁, l, h₁, r₁⟩ := h fun r => ExceptT.bindCont f r s k
  cases r with
  | ok a =>
    obtain ⟨b, t₂, l', h₂, r₂⟩ := h₁ k
    exact ⟨b, t₂, l ++ l', h₂, fun hr => by rw [List.append_assoc]; exact r₁ (r₂ hr)⟩
  | error e => exact ⟨_, t₁, l, h₁, r₁⟩

/-- A job that lasts `d` milliseconds from `t` and changes the world by `l`, whatever it ends
with. -/
def Lasts (x : Job σ β τ α) (s : Scope) (t d : Nat) (l : Changes σ) : Prop :=
  Exec.Lasts x.run s t d l

/-- A computation that cannot fail, then a job: they last as long as both together. -/
theorem Lasts.lift_bind {x : Exec σ β τ α} {f : α → Job σ β τ γ} {d₁ d₂ d : Nat}
    {l₁ l₂ l : Changes σ} (hx : x.Lasts s t d₁ l₁) (hf : ∀ a, (f a).Lasts s (t + d₁) d₂ l₂)
    (hd : d₁ + d₂ = d) (hl : l₁ ++ l₂ = l) : (lift x >>= f).Lasts s t d l := by
  refine Times.bind (times_lift (Exec.Times.mono hx fun a t₁ l' ⟨ht, hl'⟩ => ?_))
  subst ht hl'
  exact Exec.Times.mono (hf a) fun _ t₂ l'' ⟨ht₂, hl''⟩ => ⟨by omega, by rw [hl'', hl]⟩

/-- A job followed by one that takes no time and changes nothing lasts as long as the first,
whether the first fails or not. -/
theorem Lasts.bind_instant {x : Job σ β τ α} {f : α → Job σ β τ γ} {d : Nat} {l : Changes σ}
    (hx : x.Lasts s t d l) (hf : ∀ a, (f a).Lasts s (t + d) 0 []) : (x >>= f).Lasts s t d l := by
  refine Times.bind (Exec.Times.mono hx fun r t₁ l' ⟨ht, hl⟩ => ?_)
  subst ht hl
  cases r with
  | ok a => exact Exec.Times.mono (hf a) fun _ t₂ l'' ⟨ht₂, hl''⟩ => ⟨ht₂, by rw [hl'', List.append_nil]⟩
  | error e => exact ⟨rfl, rfl⟩

theorem lasts_pure {a : α} : (pure a : Job σ β τ α).Lasts s t 0 [] := times_pure ⟨rfl, rfl⟩

/-- A log event takes no time and changes nothing: the job after it lasts as it would alone. -/
theorem Lasts.say_bind {e : Event} {f : Unit → Job σ β τ α} {d : Nat} {l : Changes σ}
    (hf : (f ()).Lasts s t d l) : (lift (Exec.say e) >>= f).Lasts s t d l :=
  Lasts.lift_bind Exec.lasts_say (fun () => hf) (Nat.zero_add d) (List.nil_append l)

theorem Lasts.lift {x : Exec σ β τ α} {d : Nat} {l : Changes σ} (hx : x.Lasts s t d l) :
    (lift x).Lasts s t d l :=
  times_lift hx

theorem lasts_throw {e : Fault} : (throw e : Job σ β τ α).Lasts s t 0 [] := times_throw ⟨rfl, rfl⟩

end Job

/-- The change a journal line makes: the line, with its time, at the end of the journal. -/
def World.lineChange (e : Nat × String) : Nat × (World → World) := (e.1, fun w => w.addLine e.1 e.2)

/-- A journal line is written with the time it is written at, and takes no time. -/
theorem World.times_note {line : String} {s : Scope} {t : Nat} {Q : Unit → Nat → Changes World → Prop}
    (h : Q () t [World.lineChange (t, line)]) : (World.note line : Exec World β τ Unit).Times s t Q :=
  Exec.Times.bind (Exec.times_now (Exec.times_modify h))

namespace Actor

/-- A tree whose leaves each take a fixed time and never cancel the run: notes, sleeps, and
scripted steps that do not cancel. -/
inductive Timed : Actor → Prop
  | group {i : Identity} {mode : GroupMode} {children : List Actor} (h : ∀ c ∈ children, Timed c) :
      Timed (.group i mode children)
  | note {i : Identity} {message : String} : Timed (.note i message)
  | sleep {i : Identity} {nanos : Nat} : Timed (.sleep i nanos)
  | step {i : Identity} {script : StepScript} (h : script.cancel = false) : Timed (.step i script)

mutual

/-- How long a timed tree runs, in milliseconds: a step its delay, a sleep its time in whole
milliseconds (none in a dry run), a note none; a group in sequence the sum of its children's,
and a group side by side the longest of theirs, none without children. -/
def span : Actor → Nat
  | .group _ .sequential children => spanInOrder children
  | .group _ .concurrent children => spanTogether children
  | .sleep i nanos => if i.dryRun then 0 else Execution.timerMillis nanos
  | .step _ script => script.delayMs
  | _ => 0

/-- How long children run one after another. -/
def spanInOrder : List Actor → Nat
  | [] => 0
  | a :: rest => span a + spanInOrder rest

/-- How long children run side by side. -/
def spanTogether : List Actor → Nat
  | [] => 0
  | a :: rest => max (span a) (spanTogether rest)

end

mutual

/-- The lines a timed tree started at time `t` writes to the journal, with their times: a step
writes one as it starts and one as it ends; children in sequence start each when the one before
has ended, children side by side all at `t`. -/
def schedule : Actor → Nat → List (Nat × String)
  | .group _ .sequential children, t => scheduleInOrder children t
  | .group _ .concurrent children, t => scheduleTogether children t
  | .step i script, t => [(t, (if i.dryRun then "start(dry) " else "start ") ++ i.description),
      (t + script.delayMs, "end " ++ i.description)]
  | _, _ => []

/-- The lines of children run one after another from `t`. -/
def scheduleInOrder : List Actor → Nat → List (Nat × String)
  | [], _ => []
  | a :: rest, t => schedule a t ++ scheduleInOrder rest (t + span a)

/-- The lines of children run side by side from `t`. -/
def scheduleTogether : List Actor → Nat → List (Nat × String)
  | [], _ => []
  | a :: rest, t => schedule a t ++ scheduleTogether rest t

end

/-- A group in sequence lasts the sum of its children's spans. -/
theorem spanInOrder_eq_sum (cs : List Actor) : spanInOrder cs = (cs.map span).sum := by
  induction cs with
  | nil => rfl
  | cons a rest ih => simp [spanInOrder, ih]

/-- A group side by side lasts the longest of its children's spans, none without children. -/
theorem spanTogether_eq_foldr (cs : List Actor) : spanTogether cs = (cs.map span).foldr max 0 := by
  induction cs with
  | nil => rfl
  | cons a rest ih => simp [spanTogether, ih]

/-- Children run in sequence: those after a stretch of them start when that stretch has run. -/
theorem scheduleInOrder_append (l₁ l₂ : List Actor) (t : Nat) :
    scheduleInOrder (l₁ ++ l₂) t = scheduleInOrder l₁ t ++ scheduleInOrder l₂ (t + spanInOrder l₁) := by
  induction l₁ generalizing t with
  | nil => simp [scheduleInOrder, spanInOrder]
  | cons a rest ih => simp [scheduleInOrder, spanInOrder, ih, Nat.add_assoc]

theorem scheduleTogether_eq_flatMap (cs : List Actor) (t : Nat) :
    scheduleTogether cs t = cs.flatMap (·.schedule t) := by
  induction cs with
  | nil => rfl
  | cons a rest ih => simp [scheduleTogether, ih]

/-- **Where a child's lines stand.** In a group in sequence, a child starts when the children
before it have run one after another, and the children after it start when it has run; in a
group side by side every child starts with the group. -/
theorem schedule_child (i : Identity) (pre post : List Actor) (c : Actor) (t : Nat) :
    (group i .sequential (pre ++ c :: post)).schedule t =
      scheduleInOrder pre t ++ c.schedule (t + (pre.map span).sum) ++
        scheduleInOrder post (t + (pre.map span).sum + c.span) ∧
    (group i .concurrent (pre ++ c :: post)).schedule t =
      scheduleTogether pre t ++ c.schedule t ++ scheduleTogether post t := by
  refine ⟨?_, ?_⟩
  · rw [schedule, scheduleInOrder_append, scheduleInOrder, spanInOrder_eq_sum, List.append_assoc]
  · simp [schedule, scheduleTogether_eq_flatMap]

mutual

/-- The lines of a tree run from `t` stand between `t` and the end of its span. -/
theorem schedule_within : (a : Actor) → (t : Nat) → ∀ e ∈ a.schedule t, t ≤ e.1 ∧ e.1 ≤ t + a.span
  | .group _ .sequential cs, t => scheduleInOrder_within cs t
  | .group _ .concurrent cs, t => scheduleTogether_within cs t
  | .step _ script, t => by simp [schedule, span]
  | .note .., _ | .sleep .., _ | .waitHealthy .., _ | .membership .., _ | .prune .., _
  | .waitForPackage .., _ => by simp [schedule]

theorem scheduleInOrder_within : (cs : List Actor) → (t : Nat) →
    ∀ e ∈ scheduleInOrder cs t, t ≤ e.1 ∧ e.1 ≤ t + spanInOrder cs
  | [], _ => by simp [scheduleInOrder]
  | a :: rest, t => by
    intro e he
    rw [scheduleInOrder, List.mem_append] at he
    rw [spanInOrder]
    rcases he with he | he
    · have := schedule_within a t e he
      omega
    · have := scheduleInOrder_within rest (t + a.span) e he
      omega

theorem scheduleTogether_within : (cs : List Actor) → (t : Nat) →
    ∀ e ∈ scheduleTogether cs t, t ≤ e.1 ∧ e.1 ≤ t + spanTogether cs
  | [], _ => by simp [scheduleTogether]
  | a :: rest, t => by
    intro e he
    rw [scheduleTogether, List.mem_append] at he
    rw [spanTogether]
    rcases he with he | he
    · have := schedule_within a t e he
      have := Nat.le_max_left a.span (spanTogether rest)
      omega
    · have := scheduleTogether_within rest t e he
      have := Nat.le_max_right a.span (spanTogether rest)
      omega

end

end Actor

namespace Execution

open Actor

variable {s : Scope} {t : Nat}

/-- The scripted end of a step, its fault or else its result, takes no time and changes
nothing. -/
theorem lasts_scriptedEnd (fault : Option Fault) (result : Bool) :
    Job.Lasts (match fault with
      | some f => throw f
      | none => pure result : Work τ Bool) s t 0 [] := by
  cases fault with
  | some f => exact Job.lasts_throw
  | none => exact Job.lasts_pure

theorem step_lasts {i : Identity} {script : StepScript} (hc : script.cancel = false) :
    (step i script : Work τ Bool).Lasts s t script.delayMs
      (((Actor.step i script).schedule t).map World.lineChange) := by
  -- however long it waited, the step ends the same way: a line, then its fault or its result
  have hend : ∀ t' : Nat, Job.Lasts (do
      Job.lift (World.note ("end " ++ i.description))
      match script.fault with
      | some f => throw f
      | none => pure script.result : Work τ Bool) s t' 0
      [World.lineChange (t', "end " ++ i.description)] := by
    intro t'
    exact Job.Lasts.lift_bind (World.times_note ⟨rfl, rfl⟩)
      (fun _ => lasts_scriptedEnd script.fault script.result) (Nat.add_zero 0) (List.append_nil _)
  unfold step
  simp only [hc, Bool.false_eq_true, if_false]
  -- the start line, then the wait and the end line, which come `delayMs` later
  refine Job.Times.bind (Job.times_lift (World.times_note ?_))
  refine Exec.Times.mono (?_ : Job.Lasts _ s t script.delayMs
    [World.lineChange (t + script.delayMs, "end " ++ i.description)]) fun _ t₂ l h => ?_
  · by_cases hd : 0 < script.delayMs
    · rw [if_pos hd]
      cases script.waitCancel
      · -- a sleep that the run's cancellation does not interrupt
        exact Job.Lasts.lift_bind (Exec.times_sleepFor ⟨rfl, rfl⟩) (fun _ => hend _) rfl rfl
      · -- a wait that is never interrupted, the run never being cancelled
        refine Job.Times.bind (Job.times_lift (Exec.times_now ?_))
        refine Job.Times.bind (Job.times_lift (Exec.times_waitUntil ?_))
        dsimp only
        rw [Nat.max_eq_left (Nat.le_add_right _ _), if_neg Bool.false_ne_true]
        exact hend _
    · rw [if_neg hd, Nat.eq_zero_of_not_pos hd]
      exact hend t
  · obtain ⟨ht, hl⟩ := h
    exact ⟨ht, by rw [hl]; rfl⟩

theorem finish_lasts (r : Outcome) : (finish r : Run τ Outcome).Lasts s t 0 [] := by
  unfold finish
  split <;> exact Exec.Lasts.say_bind Exec.lasts_pure

/-- An actor executes as long as its work lasts, with the same changes. -/
theorem execute_lasts_of_act {a : Actor} {d : Nat} {l : Changes World}
    (h : ∀ s, (act a : Work τ Bool).Lasts s t d l) : (execute a : Run τ Outcome).Lasts s t d l := by
  unfold execute
  refine Exec.times_within (Exec.Times.bind (Exec.times_isCancelled ?_))
  rw [if_neg Bool.false_ne_true]
  exact Exec.Lasts.say_bind
    (Exec.Lasts.bind (h _) (fun r => finish_lasts r) (Nat.add_zero d) (List.append_nil l))

theorem act_note_lasts {i : Identity} {message : String} :
    (act (.note i message) : Work τ Bool).Lasts s t 0 [] := by
  unfold act
  exact Job.Lasts.say_bind Job.lasts_pure

/-- A sleep that the run's cancellation would interrupt lasts its time on a run never cancelled. -/
theorem Job.lasts_sleepFor {d : Nat} : (Job.sleepFor d : Work τ Unit).Lasts s t d [] := by
  unfold Job.sleepFor
  refine Job.Times.bind (Job.times_lift (Exec.times_now ?_))
  exact Job.Lasts.lift_bind (Exec.times_waitUntil ⟨Nat.max_eq_left (Nat.le_add_right t d), rfl⟩)
    (fun b => by cases b <;> first | exact Job.lasts_pure | exact Job.lasts_throw) (Nat.add_zero d) rfl

theorem act_sleep_lasts {i : Identity} {nanos : Nat} :
    (act (.sleep i nanos) : Work τ Bool).Lasts s t (if i.dryRun then 0 else timerMillis nanos) [] := by
  unfold act sleep
  cases i.dryRun
  · rw [if_neg Bool.false_ne_true, if_neg Bool.false_ne_true]
    exact Job.Lasts.say_bind (Job.Lasts.bind_instant Job.lasts_sleepFor fun _ => Job.lasts_pure)
  · rw [if_pos rfl, if_pos rfl]
    exact Job.Lasts.say_bind Job.lasts_pure

theorem conclude_lasts (r : GroupReport) : (conclude r : Work τ Bool).Lasts s t 0 [] := by
  unfold conclude logReport
  refine Job.Lasts.bind_instant ?_ fun _ => ?_
  · split <;> exact Job.Lasts.lift Exec.lasts_say
  · split
    · exact Job.Lasts.bind_instant Job.lasts_throw fun _ => Job.lasts_pure
    · exact Job.lasts_pure

variable (τ) in
/-- An actor executes on schedule: started at any time, under any scope, it lasts its span and
writes the lines of its schedule. -/
def OnSchedule (a : Actor) : Prop :=
  ∀ s t, (execute a : Run τ Outcome).Lasts s t a.span ((a.schedule t).map World.lineChange)

/-- Children on schedule, run one after another, last the sum of their spans, each starting when
the one before has ended. -/
theorem runInOrder_lasts {cs : List Actor} (h : ∀ c ∈ cs, OnSchedule τ c) :
    (runInOrder cs : Run τ _).Lasts s t (spanInOrder cs) ((scheduleInOrder cs t).map World.lineChange) := by
  induction cs generalizing s t with
  | nil =>
    simp only [runInOrder, spanInOrder, scheduleInOrder, List.map_nil]
    exact Exec.lasts_pure
  | cons a rest ih =>
    rw [runInOrder]
    refine Exec.Times.bind (Exec.times_isCancelled ?_)
    rw [if_neg Bool.false_ne_true]
    -- the child, between the lines that say it begins and that it finished, then the rest
    refine Exec.Lasts.say_bind (Exec.Lasts.bind (h a List.mem_cons_self s t)
      (fun _ => Exec.Lasts.say_bind (Exec.Lasts.bind Exec.lasts_pure
        (fun _ => Exec.Lasts.bind (ih (fun c hc => h c (List.mem_cons_of_mem a hc)))
          (fun _ => Exec.lasts_pure) rfl rfl) rfl rfl)) ?_ ?_)
    · simp [spanInOrder]
    · simp [scheduleInOrder]

/-- Children on schedule, forked together, settle as branches that all start at the fork's time;
the last settles when the longest has run. -/
theorem executeEach_runsAll {cs : List Actor} (h : ∀ c ∈ cs, OnSchedule τ c) :
    ∃ rs, RunsAll t ((executeEach cs : List (Run τ Outcome)).map fun x => x s .settle) rs
      (t + spanTogether cs) ((scheduleTogether cs t).map World.lineChange) := by
  induction cs with
  | nil => exact ⟨[], by simpa [executeEach, spanTogether, scheduleTogether] using RunsAll.nil⟩
  | cons a rest ih =>
    obtain ⟨r, t₁, l, ⟨rfl, rfl⟩, hr⟩ := Exec.Times.settles (h a List.mem_cons_self s t)
    obtain ⟨rs, hrs⟩ := ih fun c hc => h c (List.mem_cons_of_mem a hc)
    refine ⟨r :: rs, ?_⟩
    have hall := RunsAll.cons hr hrs
    rw [Nat.add_max_add_left] at hall
    simpa [executeEach, spanTogether, scheduleTogether] using hall

/-- A group whose children are on schedule lasts its span: it logs, runs its children in its
mode, and concludes, the logging and concluding taking no time. -/
theorem act_group_lasts {i : Identity} {mode : GroupMode} {cs : List Actor}
    (h : ∀ c ∈ cs, OnSchedule τ c) :
    (act (.group i mode cs) : Work τ Bool).Lasts s t (Actor.group i mode cs).span
      (((Actor.group i mode cs).schedule t).map World.lineChange) := by
  unfold act
  cases mode with
  | sequential =>
    exact Job.Lasts.say_bind (Job.Lasts.lift_bind (runInOrder_lasts h) (fun _ => conclude_lasts _)
      (Nat.add_zero _) (List.append_nil _))
  | concurrent =>
    -- the children settle together, the last when the longest has run
    obtain ⟨rs, hrs⟩ := executeEach_runsAll (τ := τ) (s := s) (t := t) h
    exact Job.Lasts.say_bind (Job.Lasts.lift_bind (Exec.times_forkAll hrs ⟨rfl, rfl⟩)
      (fun _ => conclude_lasts _) (Nat.add_zero _) (List.append_nil _))

/-- **Every timed tree executes on schedule.** -/
theorem onSchedule {a : Actor} (ha : a.Timed) : OnSchedule τ a := by
  induction ha with
  | group _ ih => exact fun s t => execute_lasts_of_act fun _ => act_group_lasts ih
  | note => exact fun s t => execute_lasts_of_act fun _ => act_note_lasts
  | sleep => exact fun s t => execute_lasts_of_act fun _ => act_sleep_lasts
  | step hc =>
    intro s t
    refine execute_lasts_of_act fun _ => ?_
    unfold act
    exact step_lasts hc

theorem logEnd_lasts {status : RunStatus} {fault : Option Fault} {elapsed : Nat} :
    (logEnd status fault elapsed : Run τ Unit).Lasts s t 0 [] := by
  unfold logEnd
  split <;> exact Exec.lasts_say

end Execution

open Execution in
/-- A run from the root of a timed tree lasts the tree's span, reports it as the time the run
took, and writes the lines of the tree's schedule. -/
theorem runTree_times {root : Actor} (ha : root.Timed) {s : Scope} {t : Nat} :
    (runTree root : Run τ RunReport).Times s t fun r t₁ l =>
      r.elapsed = root.span ∧ t₁ = t + root.span ∧ l = (root.schedule t).map World.lineChange := by
  unfold runTree
  refine Exec.Times.bind (Exec.times_now (Exec.Times.bind (Exec.times_say ?_)))
  refine Exec.Times.bind (Exec.Times.mono (onSchedule ha s t) fun result t₁ l ⟨ht, hl⟩ => ?_)
  subst ht hl
  refine Exec.Times.bind (Exec.times_now ?_)
  -- the time taken is read off the clock, which has moved on by the span
  obtain ⟨status, fault⟩ := RunStatus.classify result
  refine Exec.Times.bind (Exec.Times.mono logEnd_lasts fun _ t₁ l ⟨ht, hl⟩ => ?_)
  subst ht hl
  exact Exec.times_pure ⟨Nat.add_sub_cancel_left t root.span, rfl, by simp⟩

/-- Lines in some order: the changes of lines, in any order, are the changes of the same lines
in some order. -/
theorem exists_perm_of_perm_map {f : α → γ} {m δ : List γ} (h : m.Perm δ) :
    ∀ {l : List α}, m = l.map f → ∃ l' : List α, l'.Perm l ∧ δ = l'.map f := by
  induction h with
  | nil => exact fun hl => ⟨_, .refl _, hl⟩
  | cons x _ ih =>
    intro l hl
    obtain ⟨y, l₀, rfl, rfl, hm⟩ := List.map_eq_cons_iff.1 hl.symm
    obtain ⟨l', hp, rfl⟩ := ih hm.symm
    exact ⟨y :: l', hp.cons y, rfl⟩
  | swap x y m₁ =>
    intro l hl
    obtain ⟨a, l₁, rfl, rfl, hm⟩ := List.map_eq_cons_iff.1 hl.symm
    obtain ⟨b, l₀, rfl, rfl, rfl⟩ := List.map_eq_cons_iff.1 hm
    exact ⟨b :: a :: l₀, .swap a b l₀, rfl⟩
  | trans _ _ ih₁ ih₂ =>
    intro l hl
    obtain ⟨l₂, hp₂, rfl⟩ := ih₁ hl
    obtain ⟨l₃, hp₃, rfl⟩ := ih₂ rfl
    exact ⟨l₃, hp₃.trans hp₂, rfl⟩

/-- Lines written in turn stand at the end of the journal, in the order written. -/
theorem journal_applyAll_lines (lines : List (Nat × String)) (w : World) :
    (applyAll (lines.map World.lineChange) w).journal.toList = w.journal.toList ++ lines := by
  induction lines generalizing w with
  | nil => simp
  | cons e rest ih => simp [ih, World.lineChange, World.addLine]

/-- **Timed trees run on schedule.** Run from its root, a tree of groups whose leaves take fixed
times and never cancel, started uncancelled with nothing to happen from outside, has a timed run.
That run ends its span after it starts, reports the span as the time it took, and writes the lines
of its schedule: a child of a group in sequence starts when the children before it have run, and
a child of a group side by side starts with the group. Whenever the machine answers, it answers as
that run does: the same report, the clock at the start plus the span, and the journal with the
schedule's lines added, in some order. -/
theorem timed_tree_runs_on_schedule (a : Actor) (ha : a.Timed) (m : Machine World)
    (hc : m.cancelled = false) :
    (∃ r : RunReport, r.elapsed = a.span ∧ Runs m.now (Exec.program (runTree a)) (.inr r)
      (m.now + a.span) ((a.schedule m.now).map World.lineChange)) ∧
    ∀ m' r, (Exec.program (runTree a)).run m = (m', some r) →
      r.elapsed = a.span ∧ m'.now = m.now + a.span ∧
      ∃ lines, lines.Perm (a.schedule m.now) ∧
        m'.world.journal.toList = m.world.journal.toList ++ lines := by
  obtain ⟨r, t₁, l, ⟨hr, rfl, rfl⟩, hrun⟩ :=
    Exec.Times.program (runTree_times (τ := RunReport) ha (s := []) (t := m.now))
  refine ⟨⟨r, hr, hrun⟩, fun m' r' h => ?_⟩
  obtain ⟨hz, hnow, δ, hδ, hw⟩ := Program.run_runs h hc hrun
  cases hz
  obtain ⟨lines, hp, rfl⟩ := exists_perm_of_perm_map hδ rfl
  exact ⟨hr, hnow, lines, hp, by rw [hw, journal_applyAll_lines]⟩

/-- A step of 100 ms, then steps of 50 ms and 30 ms side by side: the run takes 150 ms, and the
steps side by side both start when the first has ended. -/
theorem step_then_pair_on_schedule :
    let tree : Actor := .group ⟨"deploy", "group.Sync", false⟩ .sequential
      [.step ⟨"a", "test.Step", false⟩ { delayMs := 100 },
       .group ⟨"both", "group.Async", false⟩ .concurrent
         [.step ⟨"b", "test.Step", false⟩ { delayMs := 50 },
          .step ⟨"c", "test.Step", false⟩ { delayMs := 30 }]]
    tree.Timed ∧ tree.span = 150 ∧
    tree.schedule 0 = [(0, "start a"), (100, "end a"), (100, "start b"), (150, "end b"),
      (100, "start c"), (130, "end c")] ∧
    ∀ m' r, (Exec.program (runTree tree)).run { world := {} } = (m', some r) →
      r.elapsed = tree.span ∧ m'.now = 0 + tree.span ∧
      ∃ lines, lines.Perm (tree.schedule 0) ∧ m'.world.journal.toList = #[].toList ++ lines := by
  intro tree
  have htimed : tree.Timed := by
    refine .group fun c hc => ?_
    simp only [List.mem_cons, List.not_mem_nil, or_false] at hc
    rcases hc with rfl | rfl
    · exact .step rfl
    · refine .group fun c hc => ?_
      simp only [List.mem_cons, List.not_mem_nil, or_false] at hc
      rcases hc with rfl | rfl <;> exact .step rfl
  exact ⟨htimed, rfl, rfl, (timed_tree_runs_on_schedule tree htimed { world := {} } rfl).2⟩

end Rollout

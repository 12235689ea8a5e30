import Mathlib
import Rollout.Execution
import Rollout.Proofs.Natural
/-!
# Every actor hands its result on

Every computation that executing an actor makes is natural (`Exec.Natural`): it hands its value
on and does nothing else. Each one is proved so from its parts, the request rules of
`Proofs.Natural` at the leaves, and the loops by induction on their bound.

The invariant `I` of the world that the computations keep depends on what they change. Reading
the backends changes the world too: a journal line, the count of a call to the load balancers,
the count of listings. `ReadsKeep I` says that those changes keep `I`, `WritesKeep I` that the
changes a membership change or a deletion makes keep it. An actor keeps every invariant that
its reads keep when it is dry through and through (`Actor.Dry`), and every invariant that reads
and writes keep otherwise.

* `natural_execute`: **executing any actor hands its result on**, keeping every invariant that
  its reads keep, and its writes too unless the actor is dry.
-/

namespace Rollout

open Exec Job

variable {β τ : Type}

namespace World

/-- The changes of the world made in reading the backends keep `I`: a line in the journal, a
call that only looks at the load balancers, a listing of a repository. A call changes the
service it read; what it writes back keeps `I` in whatever world it lands. -/
structure ReadsKeep (I : World → Prop) : Prop where
  addLine : ∀ w t line, I w → I (w.addLine t line)
  find : ∀ w s region name, I w → w.balancers = some s →
    ∀ w', I w' → I { w' with balancers := some (s.find region name).1 }
  health : ∀ w s region name, I w → w.balancers = some s →
    ∀ w', I w' → I { w' with balancers := some (s.health region name).1 }
  list : ∀ w store repo, I w → w.repository = .memory store →
    ∀ w', I w' → I { w' with repository := .memory (store.list repo).1 }

/-- The changes of the world made in writing to the backends keep `I`: registering and
deregistering instances, deleting a version. -/
structure WritesKeep (I : World → Prop) : Prop where
  register : ∀ w s region elb ids, I w → w.balancers = some s →
    ∀ w', I w' → I { w' with balancers := some (s.register region elb ids).1 }
  deregister : ∀ w s region elb ids, I w → w.balancers = some s →
    ∀ w', I w' → I { w' with balancers := some (s.deregister region elb ids).1 }
  delete : ∀ w store repo p, I w → w.repository = .memory store →
    ∀ w', I w' → I { w' with repository := .memory (store.delete repo p).1 }

variable {I : World → Prop}

theorem natural_orThrow {α : Type} (r : Except Fault α) :
    Job.Natural I (orThrow r : Job World β τ α) := by
  cases r with
  | ok a => exact Job.natural_pure a
  | error e => exact Job.natural_throw e

/-- A call to the load balancers hands its answer on when what it writes back keeps `I`. -/
theorem natural_callBalancers {α : Type} (region operation : String)
    {run : Balancer.Service → Balancer.Service × Except Fault α}
    (after : Balancer.Service → List Event)
    (hrun : ∀ w s, I w → w.balancers = some s →
      ∀ w', I w' → I { w' with balancers := some (run s).1 }) :
    Job.Natural I (callBalancers region operation run after : Job World β τ α) := by
  unfold callBalancers
  refine Job.natural_observe_bind fun w hw => ?_
  split
  · exact Job.natural_throw _
  · rename_i s hs
    refine (natural_lift (natural_say _)).bind fun _ => ?_
    cases hr : run s with
    | mk s' r =>
      have hs' : ∀ w', I w' → I { w' with balancers := some s' } := by
        simpa [hr] using hrun w s hw hs
      -- what follows the events: the service written back, a turn given away, the answer
      have htail := (natural_lift (natural_modify hs')).bind fun _ =>
        (natural_lift (natural_pause (I := I))).bind fun (_ : Unit) =>
          natural_orThrow (β := β) (τ := τ) r
      dsimp only
      split
      · exact (natural_forM fun e _ => natural_lift (natural_sayOutside e)).bind fun _ => htail
      · exact htail

/-- A listing hands its answer on when what it writes back keeps `I`. -/
theorem natural_listPackages (repo : String)
    (hlist : ∀ w store, I w → w.repository = .memory store →
      ∀ w', I w' → I { w' with repository := .memory (store.list repo).1 }) :
    Job.Natural I (listPackages repo : Job World β τ (List Package)) := by
  unfold listPackages
  refine Job.natural_observe_bind fun w hw => ?_
  split
  · exact Job.natural_throw _
  · rename_i store hs
    cases hr : store.list repo with
    | mk store' r =>
      have hs' : ∀ w', I w' → I { w' with repository := .memory store' } := by
        simpa [hr] using hlist w store hw hs
      dsimp only
      refine (natural_lift (natural_modify hs')).bind fun _ => ?_
      split
      · exact (natural_lift natural_cancel).bind fun _ =>
          (natural_lift (Exec.natural_sleepFor _)).bind fun _ => natural_orThrow r
      · exact (natural_lift (Exec.natural_sleepFor _)).bind fun _ => natural_orThrow r

/-- A deletion hands its answer on when what it writes back keeps `I`. -/
theorem natural_deletePackage (repo : String) (p : Package)
    (hdelete : ∀ w store, I w → w.repository = .memory store →
      ∀ w', I w' → I { w' with repository := .memory (store.delete repo p).1 }) :
    Job.Natural I (deletePackage repo p : Job World β τ Unit) := by
  unfold deletePackage
  refine Job.natural_observe_bind fun w hw => ?_
  split
  · exact Job.natural_throw _
  · rename_i store hs
    cases hr : store.delete repo p with
    | mk store' r =>
      have hs' : ∀ w', I w' → I { w' with repository := .memory store' } := by
        simpa [hr] using hdelete w store hw hs
      exact (natural_lift (natural_modify hs')).bind fun _ =>
        (natural_lift (Exec.natural_sleepFor _)).bind fun _ => natural_orThrow r

theorem natural_note (line : String) (hline : ∀ w t, I w → I (w.addLine t line)) :
    Exec.Natural I (note line : Exec World β τ Unit) :=
  natural_now.bind fun t => natural_modify fun w hw => hline w t hw

end World

namespace Poll

variable {σ : Type} {I : σ → Prop}

theorem natural_finish (t : Tally) (satisfied simulated cancelled : Bool) :
    Exec.Natural I (t.finish satisfied simulated cancelled : Exec σ β τ PollResult) :=
  natural_now.bind fun _ => natural_pure _

/-- The sleep between two evaluations hands on how it ended. -/
theorem natural_pause (config : PollConfig) (wake : Nat) :
    ∀ rounds t due, Exec.Natural I (pause config wake rounds t due : Exec σ β τ Slept)
  | 0, t, due => natural_pure _
  | rounds + 1, t, due => by
    unfold pause
    refine (natural_waitUntil _).bind fun b => ?_
    cases b with
    | true => exact natural_pure _
    | false =>
      simp only [Bool.false_eq_true, ↓reduceIte]
      cases due with
      | none => exact natural_pure _
      | some n =>
        cases config.statusInterval with
        | none => exact natural_pure _
        | some period =>
          dsimp only
          split
          · exact natural_now.bind fun _ => (natural_say _).bind fun _ =>
              natural_pause config wake rounds _ _
          · exact natural_pure _

/-- Evaluation rounds hand on how the wait ended, when the condition hands on its value. -/
theorem natural_rounds {check : Job σ β τ Bool} (hcheck : Job.Natural I check)
    (config : PollConfig) (dryRun : Bool) :
    ∀ n t due, Job.Natural I (rounds check config dryRun n t due)
  | 0, t, _ => natural_lift (natural_finish t _ _ _)
  | n + 1, t, due => by
    unfold rounds
    refine (natural_lift natural_isCancelled).bind fun b => ?_
    cases b with
    | true => exact (natural_lift (natural_say _)).bind fun _ => natural_lift (natural_finish _ _ _ _)
    | false =>
      refine hcheck.bind fun holds => ?_
      cases holds with
      | true =>
        exact (natural_lift (natural_say _)).bind fun _ => natural_lift (natural_finish _ _ _ _)
      | false =>
        cases dryRun with
        | true =>
          exact (natural_lift (natural_say _)).bind fun _ => natural_lift (natural_finish _ _ _ _)
        | false =>
          refine (natural_lift (natural_say _)).bind fun _ => (natural_lift natural_now).bind
            fun now => (natural_lift (natural_pause config _ _ _ _)).bind fun slept => ?_
          cases slept with
          | cancelled t =>
            exact (natural_lift (natural_say _)).bind fun _ => natural_lift (natural_finish _ _ _ _)
          | woke t due => exact natural_rounds hcheck config false n t due

end Poll

theorem natural_pollUntil {σ : Type} {I : σ → Prop} {check : Job σ β τ Bool}
    (hcheck : Job.Natural I check) (config : PollConfig) (dryRun : Bool) :
    Job.Natural I (pollUntil check config dryRun) :=
  (natural_lift natural_now).bind fun _ => Poll.natural_rounds hcheck config dryRun _ _ _

namespace Retry

variable {σ : Type} {I : σ → Prop}

/-- Attempts of a call that hands on its value hand on their value. -/
theorem natural_attempts {α : Type} {call : Job σ β τ α} (hcall : Job.Natural I call)
    (policy : RetryPolicy) (operation : String) :
    ∀ left attempt last, Job.Natural I (attempts policy operation call left attempt last)
  | 0, _, _ => natural_throw _
  | left + 1, attempt, last => by
    unfold attempts
    refine (natural_lift (natural_attempt hcall)).bind fun r => ?_
    cases r with
    | ok v =>
      dsimp only
      split
      · exact (natural_lift (natural_say _)).bind fun _ => Job.natural_pure v
      · exact Job.natural_pure v
    | error e =>
      dsimp only
      split
      · exact natural_throw e
      · split
        · exact (natural_lift (natural_say _)).bind fun _ => natural_throw e
        · exact (natural_lift natural_draw).bind fun word => (natural_lift (natural_say _)).bind
            fun _ => (Job.natural_sleepFor _).bind fun _ => natural_attempts hcall policy operation left _ _

end Retry

theorem natural_retryIdempotent {σ : Type} {I : σ → Prop} {α : Type} {call : Job σ β τ α}
    (hcall : Job.Natural I call) (policy : RetryPolicy) (operation : String) :
    Job.Natural I (retryIdempotent policy operation call) :=
  Retry.natural_attempts hcall policy operation _ _ _

/-- The children of a group; other actors have none. -/
def Actor.children : Actor → List Actor
  | .group _ _ children => children
  | _ => []

/-- Every actor of a tree suppresses its mutations. -/
inductive Actor.Dry : Actor → Prop
  | mk {a : Actor} (hi : a.identity.dryRun = true) (hc : ∀ c ∈ a.children, Dry c) : Dry a

theorem Actor.Dry.dryRun {a : Actor} (h : a.Dry) : a.identity.dryRun = true := by
  cases h with
  | mk hi _ => exact hi

theorem Actor.Dry.child {a c : Actor} (h : a.Dry) (hc : c ∈ a.children) : c.Dry := by
  cases h with
  | mk _ hcs => exact hcs c hc

/-- Children all dry, or some other guarantee: the first child and the rest have it too. -/
theorem Actor.dry_or_cons {a : Actor} {rest : List Actor} {W : Prop}
    (hw : (∀ c ∈ a :: rest, c.Dry) ∨ W) : (a.Dry ∨ W) ∧ ((∀ c ∈ rest, c.Dry) ∨ W) :=
  ⟨hw.imp_left fun h => h a List.mem_cons_self,
    hw.imp_left fun h c hc => h c (List.mem_cons_of_mem a hc)⟩

namespace World

end World

namespace Execution

open World

variable {I : World → Prop}

theorem natural_sleep (dryRun : Bool) (nanos : Nat) :
    Job.Natural I (sleep dryRun nanos : Work τ Bool) := by
  unfold sleep
  cases dryRun with
  | true => exact (natural_lift (natural_say _)).bind fun _ => Job.natural_pure true
  | false =>
    exact (natural_lift (natural_say _)).bind fun _ => (Job.natural_sleepFor _).bind fun _ =>
      Job.natural_pure true

theorem natural_waitHealthy (hr : ReadsKeep I) (dryRun : Bool) (region name : String)
    (count : Threshold) (poll : PollConfig) :
    Job.Natural I (waitHealthy dryRun region name count poll : Work τ Bool) := by
  unfold waitHealthy
  refine (natural_callBalancers region _ _ fun w s hw hs => hr.find w s region name hw hs).bind
    fun _ => ?_
  dsimp only
  refine (natural_pollUntil ?_ poll dryRun).bind fun _ => (natural_orThrow _).bind fun _ => ?_
  · -- the condition: a health call and a count
    exact (natural_callBalancers region _ _ fun w s hw hs => hr.health w s region name hw hs).bind
      fun _ => (natural_lift (natural_say _)).bind fun _ => Job.natural_pure _
  · split
    · exact (natural_lift (natural_say _)).bind fun _ => Job.natural_pure _
    · exact Job.natural_pure _

theorem natural_membership (hr : ReadsKeep I) (dryRun : Bool) (change : Change)
    (region elb : String) (ids : List String) (retry : RetryPolicy)
    (hw : dryRun = true ∨ WritesKeep I) :
    Job.Natural I (membership dryRun change region elb ids retry : Work τ Bool) := by
  unfold membership
  refine (natural_callBalancers region _ _ fun w s hw hs => hr.find w s region elb hw hs).bind
    fun _ => ?_
  have happly : dryRun = false → ∀ w s, I w → w.balancers = some s → ∀ w', I w' →
      I { w' with balancers := some (Change.apply change s region elb ids).1 } := by
    -- a change that is not dry writes to the load balancers
    intro hd w s hw' hs
    have hw : WritesKeep I := hw.resolve_left (by simp [hd])
    cases change
    · exact hw.register w s region elb ids hw' hs
    · exact hw.deregister w s region elb ids hw' hs
  dsimp only
  cases change <;> refine (natural_lift (natural_say _)).bind fun _ => ?_
  all_goals
    cases dryRun with
    | true => exact (natural_lift (natural_say _)).bind fun _ => Job.natural_pure true
    | false =>
      exact (natural_retryIdempotent (natural_callBalancers region _ _ (happly rfl)) retry _).bind
        fun _ => (natural_lift (natural_say _)).bind fun _ => Job.natural_pure true

theorem natural_deleteAll (dryRun : Bool) (repo : String) (hw : dryRun = true ∨ WritesKeep I) :
    ∀ ps, Job.Natural I (deleteAll dryRun repo ps : Work τ Unit)
  | [] => Job.natural_pure ()
  | p :: rest => by
    unfold deleteAll
    refine natural_checkCancelled.bind fun _ => ?_
    dsimp only
    cases dryRun with
    | true => exact (natural_lift (natural_say _)).bind fun _ => natural_deleteAll true repo hw rest
    | false =>
      have hw' : WritesKeep I := hw.resolve_left Bool.false_ne_true
      exact (natural_lift (natural_say _)).bind fun _ =>
        (natural_deletePackage repo p fun w store hw'' hs => hw'.delete w store repo p hw'' hs).bind
          fun _ => natural_deleteAll false repo hw rest

theorem natural_prune (hr : ReadsKeep I) (dryRun : Bool) (repo : String) (pattern : Regex)
    (keep : Nat) (olderThan : Option Nat) (hw : dryRun = true ∨ WritesKeep I) :
    Job.Natural I (prune dryRun repo pattern keep olderThan : Work τ Bool) := by
  unfold prune
  exact (natural_listPackages repo fun w store hw' hs => hr.list w store repo hw' hs).bind fun _ =>
    (natural_lift natural_observe).bind fun _ => (natural_lift (natural_say _)).bind fun _ =>
      (natural_deleteAll dryRun repo hw _).bind fun _ => (natural_lift (natural_say _)).bind
        fun _ => Job.natural_pure true

theorem natural_waitForPackage (hr : ReadsKeep I) (dryRun : Bool) (repo : String)
    (name version : Regex) (poll : PollConfig) :
    Job.Natural I (waitForPackage dryRun repo name version poll : Work τ Bool) := by
  unfold waitForPackage
  have hsearch : Job.Natural I (do
      info (τ := τ) .packages "Searching for package" [("name", name.source), ("version", version.source)]
      let packages ← World.listPackages repo
      let found := packages.any fun p => name.isMatch p.name && version.isMatch p.version
      if found then info .packages "Found it"
      return found) := by
    refine (natural_lift (natural_say _)).bind fun _ =>
      (natural_listPackages repo fun w store hw' hs => hr.list w store repo hw' hs).bind
        fun packages => ?_
    dsimp only
    split
    · exact (natural_lift (natural_say _)).bind fun _ => Job.natural_pure _
    · exact Job.natural_pure _
  exact (natural_pollUntil hsearch poll dryRun).bind fun _ => (natural_orThrow _).bind fun _ =>
    Job.natural_pure _

/-- The scripted end of a step, its fault or else its result, hands its value on. -/
theorem natural_scriptedEnd (fault : Option Fault) (result : Bool) :
    Job.Natural I (match fault with
      | some f => throw f
      | none => pure result : Work τ Bool) := by
  cases fault with
  | some f => exact natural_throw f
  | none => exact Job.natural_pure _

theorem natural_step (hr : ReadsKeep I) (identity : Identity) (script : StepScript) :
    Job.Natural I (step identity script : Work τ Bool) := by
  unfold step
  have hnote : ∀ line, Exec.Natural I (World.note line : Run τ Unit) := fun line =>
    natural_note line fun w t hw => hr.addLine w t line hw
  have hend : Job.Natural I (match script.fault with
      | some f => throw f
      | none => pure script.result : Work τ Bool) :=
    natural_scriptedEnd script.fault script.result
  -- what is left of each way: a cancellation if scripted, the last line, the scripted end
  have htail : Job.Natural I (if script.cancel = true then do
        Job.lift Exec.cancel
        Job.lift (World.note ("end " ++ identity.description))
        match script.fault with
          | some f => throw f
          | none => pure script.result
      else do
        Job.lift (World.note ("end " ++ identity.description))
        match script.fault with
          | some f => throw f
          | none => pure script.result : Work τ Bool) := by
    split
    · exact (natural_lift natural_cancel).bind fun _ => (natural_lift (hnote _)).bind fun _ => hend
    · exact (natural_lift (hnote _)).bind fun _ => hend
  refine (natural_lift (hnote _)).bind fun _ => ?_
  dsimp only
  split
  · split
    · refine (natural_lift natural_now).bind fun _ => (natural_lift (natural_waitUntil _)).bind
        fun _ => ?_
      split
      · exact (natural_lift (hnote _)).bind fun _ => natural_throw _
      · exact htail
    · exact (natural_lift (Exec.natural_sleepFor _)).bind fun _ => htail
  · exact htail

theorem natural_logReport (r : GroupReport) : Job.Natural I (logReport r : Work τ Unit) := by
  unfold logReport
  split
  · exact natural_lift (natural_say _)
  · exact natural_lift (natural_say _)

theorem natural_conclude (r : GroupReport) : Job.Natural I (conclude r : Work τ Bool) := by
  unfold conclude
  refine (natural_logReport r).bind fun _ => ?_
  dsimp only
  split
  · exact natural_throw _
  · exact Job.natural_pure _

theorem natural_finish (result : Outcome) : Exec.Natural I (finish result : Run τ Outcome) := by
  unfold finish
  split <;> exact (natural_say _).bind fun _ => Exec.natural_pure _

theorem natural_execute_of_act {a : Actor} (h : Job.Natural I (act a : Work τ Bool)) :
    Exec.Natural I (execute a : Run τ Outcome) := by
  unfold execute
  refine natural_within _ (natural_isCancelled.bind fun b => ?_)
  cases b with
  | true => exact Exec.natural_pure _
  | false => exact (natural_say _).bind fun _ => (natural_attempt h).bind fun r => natural_finish r

mutual

/-- The work of every actor hands its result on. -/
theorem natural_act (hr : ReadsKeep I) :
    (a : Actor) → a.Dry ∨ WritesKeep I → Job.Natural I (act a : Work τ Bool)
  | .group i mode children, hw => by
    have hcs : (∀ c ∈ children, c.Dry) ∨ WritesKeep I := hw.imp_left fun h c hc => h.child hc
    unfold act
    refine (natural_lift (natural_say _)).bind fun _ => ?_
    cases mode with
    | sequential =>
      exact (natural_lift (natural_runInOrder hr children hcs)).bind fun _ => natural_conclude _
    | concurrent =>
      exact (natural_lift (natural_forkAll (natural_executeEach hr children hcs))).bind fun _ =>
        natural_conclude _
  | .note i message, _ => by
    unfold act
    exact (natural_lift (natural_say _)).bind fun _ => Job.natural_pure true
  | .sleep i nanos, _ => by unfold act; exact natural_sleep _ _
  | .waitHealthy i region name count poll, _ => by unfold act; exact natural_waitHealthy hr _ _ _ _ _
  | .membership i change region elb ids retry, hw => by
    unfold act
    exact natural_membership hr _ _ _ _ _ _ (hw.imp_left fun h => h.dryRun)
  | .prune i repo pattern keep olderThan, hw => by
    unfold act
    exact natural_prune hr _ _ _ _ _ (hw.imp_left fun h => h.dryRun)
  | .waitForPackage i repo name version poll, _ => by
    unfold act
    exact natural_waitForPackage hr _ _ _ _ _
  | .step i script, _ => by unfold act; exact natural_step hr _ _

/-- Children run one after another hand on their outcomes. -/
theorem natural_runInOrder (hr : ReadsKeep I) :
    (children : List Actor) → (∀ c ∈ children, c.Dry) ∨ WritesKeep I →
      Exec.Natural I (runInOrder children : Run τ (List (String × ChildOutcome)))
  | [], _ => by unfold runInOrder; exact Exec.natural_pure _
  | a :: rest, hw => by
    obtain ⟨ha, hrest⟩ := Actor.dry_or_cons hw
    -- what follows the child's outcome: the rest of the children, then the outcomes in order
    have hmore : ∀ o : ChildOutcome, Exec.Natural I (do
        let more ← (runInOrder rest : Run τ (List (String × ChildOutcome)))
        pure ((a.description, o) :: more)) :=
      fun _ => (natural_runInOrder hr rest hrest).bind fun _ => Exec.natural_pure _
    unfold runInOrder
    refine natural_isCancelled.bind fun b => ?_
    dsimp only
    cases b with
    | true => exact (Exec.natural_pure _).bind hmore
    | false =>
      exact (natural_say _).bind fun _ => (natural_execute_of_act (natural_act hr a ha)).bind
        fun _ => (natural_say _).bind fun _ => (Exec.natural_pure _).bind hmore

/-- Each child's execution, to run side by side, hands on its result. -/
theorem natural_executeEach (hr : ReadsKeep I) :
    (children : List Actor) → (∀ c ∈ children, c.Dry) ∨ WritesKeep I →
      ∀ x ∈ (executeEach children : List (Run τ Outcome)), Exec.Natural I x
  | [], _ => by simp [executeEach]
  | a :: rest, hw => by
    obtain ⟨ha, hrest⟩ := Actor.dry_or_cons hw
    intro x hx
    simp only [executeEach, List.mem_cons] at hx
    rcases hx with rfl | hx
    · exact natural_execute_of_act (natural_act hr a ha)
    · exact natural_executeEach hr rest hrest x hx

end

/-- **Executing any actor hands its result on**, keeping every invariant that its reads keep,
and its writes too unless the actor is dry through and through. -/
theorem natural_execute (hr : ReadsKeep I) (a : Actor) (hw : a.Dry ∨ WritesKeep I) :
    Exec.Natural I (execute a : Run τ Outcome) :=
  natural_execute_of_act (natural_act hr a hw)

end Execution

/-- A whole run of a tree hands on its report. -/
theorem natural_runTree {I : World → Prop} (hr : World.ReadsKeep I) (root : Actor)
    (hw : root.Dry ∨ World.WritesKeep I) : Exec.Natural I (runTree root : Execution.Run τ RunReport) := by
  unfold runTree
  refine natural_now.bind fun _ => (natural_say _).bind fun _ =>
    (Execution.natural_execute hr root hw).bind fun _ => natural_now.bind fun _ => ?_
  dsimp only
  refine Exec.Natural.bind ?_ fun _ => Exec.natural_pure _
  unfold Execution.logEnd
  split <;> exact natural_say _

end Rollout

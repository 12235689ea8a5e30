import Mathlib
import Rollout.Execution
import Rollout.Proofs.Scenario
import Rollout.Proofs.DeletionPlan
/-!
# Pruning a repository

Pruning lists a repository once, plans the deletions from the listing and the calendar time, and
goes through the plan in order: before each version it checks that the run is not cancelled, then
deletes the version, or in a dry run only says it would. It stops at the first deletion the
repository refuses, with the repository's fault, and before the next version once the run is
cancelled.

Each answer of the repository takes the store's latency to arrive, and the run may be cancelled
meanwhile. Run alone on a run cancelled from outside at an instant `c`, if at all, the flag the
pass sees before the version at position `i` of the plan tells whether the run was cancelled
before the answers to the listing and to the `i` deletions before it had arrived (to the listing
alone in a dry run): from the start, by the listing when the store numbers it so, or from
outside. A pass over the plan is described by where it stops (`PassEnds`): the versions gone
through form a prefix of the plan, each deleted once and in order.

* `Execution.deleteAll_yields`: **a pass over a plan ends as `PassEnds` says**;
* `Execution.prune_yields`: pruning leaves what `Execution.Pruned` says;
* `Execution.prune_deletes_plan_prefix`: the whole run as a program, on the machine.
-/

namespace Rollout

namespace Store

/-- A store after deleting, one after another, versions it deletes. -/
def deleteEach (s : Store) (repo : String) (ps : List Package) : Store :=
  ps.foldl (fun s p => (s.delete repo p).1) s

@[simp] theorem deleteEach_nil (s : Store) (repo : String) : s.deleteEach repo [] = s := rfl

@[simp] theorem deleteEach_cons (s : Store) (repo : String) (p : Package) (ps : List Package) :
    s.deleteEach repo (p :: ps) = (s.delete repo p).1.deleteEach repo ps := rfl

/-- Listing only counts the listing. -/
theorem list_fst (s : Store) (repo : String) :
    (s.list repo).1 = { s with listings := s.listings + 1 } := by
  unfold list
  dsimp only
  split
  · rfl
  · split <;> rfl

variable {s : Store} {repo : String} {p : Package}

/-- A deletion the store refuses changes nothing. -/
theorem delete_of_refused {e : Fault} (h : Keyed.get? (p.target repo) s.deleteFaults = some e) :
    s.delete repo p = (s, .error e) := by
  simp [delete, h]

theorem delete_of_accepted (h : Keyed.get? (p.target repo) s.deleteFaults = none) :
    (s.delete repo p).2 = .ok () ∧
      (s.delete repo p).1.deleted = s.deleted.push (p.target repo) := by
  simp [delete, h]

@[simp] theorem deleteFaults_delete : (s.delete repo p).1.deleteFaults = s.deleteFaults := by
  unfold delete
  dsimp only
  split <;> rfl

@[simp] theorem deleteFaults_list : (s.list repo).1.deleteFaults = s.deleteFaults := by
  rw [list_fst]

@[simp] theorem listings_delete : (s.delete repo p).1.listings = s.listings := by
  unfold delete
  dsimp only
  split <;> rfl

@[simp] theorem latency_delete : (s.delete repo p).1.latency = s.latency := by
  unfold delete
  dsimp only
  split <;> rfl

@[simp] theorem deleteFaults_deleteEach (ps : List Package) :
    (s.deleteEach repo ps).deleteFaults = s.deleteFaults := by
  induction ps generalizing s with
  | nil => rfl
  | cons p ps ih => simp [ih]

@[simp] theorem listings_deleteEach (ps : List Package) :
    (s.deleteEach repo ps).listings = s.listings := by
  induction ps generalizing s with
  | nil => rfl
  | cons p ps ih => simp [ih]

/-- Deleting versions that the store deletes adds their targets to its record, in order. -/
theorem deleted_deleteEach {ps : List Package}
    (h : ∀ p ∈ ps, Keyed.get? (p.target repo) s.deleteFaults = none) :
    (s.deleteEach repo ps).deleted = s.deleted ++ (ps.map (·.target repo)).toArray := by
  induction ps generalizing s with
  | nil => simp
  | cons p ps ih =>
    have hp := h p List.mem_cons_self
    have hps : ∀ q ∈ ps, Keyed.get? (q.target repo) (s.delete repo p).1.deleteFaults = none := by
      intro q hq
      simpa using h q (List.mem_cons_of_mem p hq)
    rw [deleteEach_cons, ih hps, (delete_of_accepted hp).2]
    simp

end Store

theorem World.with_repository_self {w : World} {r : Repository} (h : w.repository = r) :
    { w with repository := r } = w := by
  cases w
  subst h
  rfl

@[simp] theorem Machine.cancelled_ite_cancel {σ : Type} (m : Machine σ) (s : Scope) (c : Prop)
    [Decidable c] : (if c then m.cancel s else m).cancelled = (m.cancelled || decide c) := by
  split <;> simp_all

@[simp] theorem Machine.world_ite_cancel {σ : Type} (m : Machine σ) (s : Scope) (c : Prop)
    [Decidable c] : (if c then m.cancel s else m).world = m.world := by
  split <;> simp

@[simp] theorem Machine.now_ite_cancel {σ : Type} (m : Machine σ) (s : Scope) (c : Prop)
    [Decidable c] : (if c then m.cancel s else m).now = m.now := by
  split <;> simp

namespace World

variable {β τ α : Type} {s : Scope} {m : Machine World} {hs : List (Nat × Happening World)}
  {c : Option Nat} {repo : String}

theorem yields_orThrow {r : Except Fault α} {Q : Post World (Except Fault α)} (h : Q r m hs) :
    (orThrow r : Job World β τ α).Yields s m hs Q := by
  cases r with
  | ok a => exact Job.yields_pure h
  | error e => exact Job.yields_throw h

/-- Listing an unreachable repository fails, and changes nothing. -/
theorem yields_listPackages_unreachable {u : Unreachable} (hw : m.world.repository = .unreachable u)
    {Q : Post World (Except Fault (List Package))} (h : Q (.error (u.list repo)) m hs) :
    (listPackages repo : Job World β τ (List Package)).Yields s m hs Q := by
  unfold listPackages
  apply Job.Yields.bind
  apply Job.yields_lift
  apply Exec.yields_observe
  dsimp only
  rw [hw]
  exact Job.yields_throw h

/-- Listing a repository in memory counts the listing, cancels the run when the store numbers
that listing so, and answers as the store lists once the store's latency has passed. -/
theorem yields_listPackages_memory {store : Store} (hw : m.world.repository = .memory store)
    (hx : ∀ x, c = some x → m.now ≤ x) :
    (listPackages repo : Job World β τ (List Package)).Yields s m (cancelAt c) fun r m' hs' =>
      r = (store.list repo).2 ∧
        Slept (if store.cancelAt = some (store.listings + 1) then
            ({ m with world := { m.world with repository := .memory (store.list repo).1 } } :
              Machine World).cancel s
          else { m with world := { m.world with repository := .memory (store.list repo).1 } })
          c store.latency m' hs' := by
  unfold listPackages
  apply Job.Yields.bind
  apply Job.yields_lift
  apply Exec.yields_observe
  dsimp only
  rw [hw]
  dsimp only
  have hfst := Store.list_fst store repo
  rcases hl : store.list repo with ⟨store', r⟩
  rw [hl] at hfst
  dsimp only at hfst ⊢
  -- the listing's number, as the store counts it
  have hguard : (store'.cancelAt = some store'.listings) = (store.cancelAt = some (store.listings + 1)) := by
    rw [hfst]
  apply Job.Yields.bind
  apply Job.yields_lift
  apply Exec.yields_modify
  by_cases hg : store.cancelAt = some (store.listings + 1)
  · rw [if_pos (hguard ▸ hg), if_pos hg]
    apply Job.Yields.bind
    apply Job.yields_lift
    apply Exec.yields_cancel
    apply Job.Yields.bind
    apply Job.yields_lift
    refine (yields_sleepFor_cancelAt (by simpa using hx)).mono fun _ m' hs' hslept => ?_
    exact yields_orThrow ⟨rfl, hslept⟩
  · rw [if_neg (hguard ▸ hg), if_neg hg]
    apply Job.Yields.bind
    apply Job.yields_lift
    refine (yields_sleepFor_cancelAt (by exact hx)).mono fun _ m' hs' hslept => ?_
    exact yields_orThrow ⟨rfl, hslept⟩

/-- Deleting a version from a repository in memory answers as the store deletes it, once the
store's latency has passed. -/
theorem yields_deletePackage {store : Store} (hw : m.world.repository = .memory store)
    (hx : ∀ x, c = some x → m.now ≤ x) {p : Package} :
    (deletePackage repo p : Job World β τ Unit).Yields s m (cancelAt c) fun r m' hs' =>
      r = (store.delete repo p).2 ∧
        Slept { m with world := { m.world with repository := .memory (store.delete repo p).1 } }
          c store.latency m' hs' := by
  unfold deletePackage
  apply Job.Yields.bind
  apply Job.yields_lift
  apply Exec.yields_observe
  dsimp only
  rw [hw]
  dsimp only
  rcases hd : store.delete repo p with ⟨store', r⟩
  apply Job.Yields.bind
  apply Job.yields_lift
  apply Exec.yields_modify
  apply Job.Yields.bind
  apply Job.yields_lift
  refine (yields_sleepFor_cancelAt (by exact hx)).mono fun _ m' hs' hslept => ?_
  exact yields_orThrow ⟨rfl, hslept⟩

end World

/-- How a pass over `plan`, deleting from `store` unless in a dry run, may end when the flag it
sees before the version at position `i` (from zero) is `seen i`: it goes through the versions of
`pre`, each seen uncancelled and deleted in order unless in a dry run, and stops at the end of the
plan, before the next version when it sees the run cancelled, or at the next version when the
store refuses to delete it, with the store's fault. -/
def PassEnds (dryRun : Bool) (repo : String) (store : Store) (seen : Nat → Bool)
    (plan : List Package) (r : Except Fault Unit) (after : Store) : Prop :=
  ∃ pre rest, plan = pre ++ rest ∧
    (∀ i < pre.length, seen i = false) ∧
    (dryRun = false → ∀ q ∈ pre, Keyed.get? (q.target repo) store.deleteFaults = none) ∧
    after = store.deleteEach repo (if dryRun then [] else pre) ∧
    (rest = [] ∧ r = .ok () ∨
      ∃ q rest', rest = q :: rest' ∧
        (seen pre.length = true ∧ r = .error .cancelled ∨
          seen pre.length = false ∧ dryRun = false ∧
            ∃ e, Keyed.get? (q.target repo) store.deleteFaults = some e ∧ r = .error e))

namespace PassEnds

variable {dryRun : Bool} {repo : String} {store : Store} {seen : Nat → Bool} {p : Package}
  {ps : List Package} {r : Except Fault Unit} {after : Store}

theorem nil : PassEnds dryRun repo store seen [] (.ok ()) store :=
  ⟨[], [], rfl, by simp, by simp, by cases dryRun <;> rfl, .inl ⟨rfl, rfl⟩⟩

/-- A pass that sees the run cancelled stops before the first version. -/
theorem cancelled (h : seen 0 = true) :
    PassEnds dryRun repo store seen (p :: ps) (.error .cancelled) store :=
  ⟨[], p :: ps, rfl, by simp, by simp, by cases dryRun <;> rfl, .inr ⟨p, ps, rfl, .inl ⟨h, rfl⟩⟩⟩

/-- A deletion the store refuses stops the pass with its fault. -/
theorem refused {e : Fault} (h : seen 0 = false)
    (he : Keyed.get? (p.target repo) store.deleteFaults = some e) :
    PassEnds false repo store seen (p :: ps) (.error e) store :=
  ⟨[], p :: ps, rfl, by simp, by simp, rfl, .inr ⟨p, ps, rfl, .inr ⟨h, rfl, e, he, rfl⟩⟩⟩

/-- The versions of `p :: pre` are all seen uncancelled when `p` is and those after it are. -/
theorem seen_cons {n : Nat} (h : seen 0 = false) (hrest : ∀ i < n, seen (i + 1) = false) :
    ∀ i < n + 1, seen i = false
  | 0, _ => h
  | i + 1, hi => hrest i (by omega)

/-- In a dry run, a version gone through leaves the store as it is. -/
theorem dry_cons (h0 : seen 0 = false)
    (h : PassEnds true repo store (fun i => seen (i + 1)) ps r after) :
    PassEnds true repo store seen (p :: ps) r after := by
  obtain ⟨pre, rest, rfl, hseen, -, hafter, hend⟩ := h
  exact ⟨p :: pre, rest, rfl, seen_cons h0 hseen, by simp, hafter, hend⟩

/-- A version the store deletes is deleted first, then the pass goes on from the store without
it. -/
theorem delete_cons (h0 : seen 0 = false) (hp : Keyed.get? (p.target repo) store.deleteFaults = none)
    (h : PassEnds false repo (store.delete repo p).1 (fun i => seen (i + 1)) ps r after) :
    PassEnds false repo store seen (p :: ps) r after := by
  obtain ⟨pre, rest, rfl, hseen, hdel, hafter, hend⟩ := h
  rw [Store.deleteFaults_delete] at hdel hend
  refine ⟨p :: pre, rest, rfl, seen_cons h0 hseen, fun _ q hq => ?_, by simpa using hafter, hend⟩
  rcases List.mem_cons.1 hq with rfl | hq
  · exact hp
  · exact hdel rfl q hq

end PassEnds

namespace Execution

variable {τ : Type} {s : Scope}

/-- After a deletion of `d` milliseconds begun at `t`, the flags seen from the next version on,
counted from it, are those seen from the second version, counted from the first. -/
theorem seen_after_deletion (c₀ : Bool) (c : Option Nat) (t d : Nat) :
    (fun i => cancelledBefore (cancelledBefore c₀ c (t + d)) (c.filter (t + d ≤ ·))
      (t + d + i * d)) = fun i => cancelledBefore c₀ c (t + (i + 1) * d) := by
  funext i
  rw [cancelledBefore_later (Nat.le_add_right _ _)]
  congr 1
  ring

/-- **A pass over a plan ends as `PassEnds` says**, from any machine whose repository is in
memory, on a run cancelled from outside at `c`, not before now, if at all: the flag it sees before
the version at position `i` tells whether the run was cancelled before the `i` deletions before it
had been answered. -/
theorem deleteAll_yields (dryRun : Bool) (repo : String) (plan : List Package) :
    ∀ {m : Machine World} {store : Store} {c : Option Nat}, m.world.repository = .memory store →
    (∀ x, c = some x → m.now ≤ x) →
    (deleteAll dryRun repo plan : Work τ Unit).Yields s m (cancelAt c) fun r m' _ =>
      ∃ after, m'.world = { m.world with repository := .memory after } ∧
        PassEnds dryRun repo store
          (fun i => cancelledBefore m.cancelled c (m.now + (if dryRun then 0 else i) * store.latency))
          plan r after := by
  induction plan with
  | nil =>
    intro m store c hw hx
    exact Job.yields_pure ⟨store, (World.with_repository_self hw).symm, PassEnds.nil⟩
  | cons p ps ih =>
    intro m store c hw hx
    -- the first version is seen with the flag the pass begins with
    have h0 : ∀ b, cancelledBefore b c (m.now + (if dryRun then 0 else 0) * store.latency) = b := by
      intro b
      rw [ite_self, Nat.zero_mul, Nat.add_zero]
      exact cancelledBefore_of_le hx
    rw [deleteAll]
    apply Job.Yields.bind
    apply Job.yields_checkCancelled
    cases hc : m.cancelled with
    | true =>
      exact ⟨store, (World.with_repository_self hw).symm, PassEnds.cancelled (h0 true)⟩
    | false =>
      dsimp only
      cases dryRun with
      | true =>
        apply Job.Yields.say_bind
        refine Job.Yields.mono (ih hw hx) ?_
        rintro r m' hs' ⟨after, hw', hpass⟩
        dsimp only at hpass
        rw [hc] at hpass
        exact ⟨after, hw', hpass.dry_cons (h0 false)⟩
      | false =>
        apply Job.Yields.say_bind
        apply Job.Yields.bind
        refine Job.Yields.mono
          (@World.yields_deletePackage _ _ _ _ _ _ store (by exact hw) (by exact hx) _) ?_
        rintro r₁ m₁ hs₁ ⟨rfl, hslept⟩
        cases hf : Keyed.get? (p.target repo) store.deleteFaults with
        | some e =>
          -- the store refuses: the pass stops here with its fault
          rw [Store.delete_of_refused hf] at hslept ⊢
          refine ⟨store, ?_, PassEnds.refused (h0 false) hf⟩
          rw [hslept.world]
        | none =>
          rw [(Store.delete_of_accepted hf).1]
          rw [hslept.pending]
          have hw₁ : m₁.world.repository = .memory (store.delete repo p).1 := by
            rw [hslept.world]
          have hx₁ : ∀ x, c.filter (m.now + store.latency ≤ ·) = some x → m₁.now ≤ x := by
            intro x hx'
            rw [hslept.now]
            exact le_of_filter hx'
          refine Job.Yields.mono (ih hw₁ hx₁) ?_
          rintro r m' hs' ⟨after, hw', hpass⟩
          -- the flags seen from the next version on are the pass's from the second version
          have hseen := seen_after_deletion m.cancelled c m.now store.latency
          simp only [Bool.false_eq_true, ↓reduceIte, hslept.cancelled, hslept.now,
            Store.latency_delete] at hpass hseen ⊢
          rw [hseen, hc] at hpass
          refine ⟨after, by rw [hw', hslept.world], hpass.delete_cons (h0 false) hf⟩

/-- What pruning `repo` may leave from the machine `m`, on a run cancelled from outside at `c`,
the answer `r` and the machine `m'`: an unreachable repository fails the listing and nothing
changes; a store in memory is listed once, and a listing that fails is the fault of the whole,
with only the listing counted; a listing that reads is planned from the calendar time and passed
over, the flag seen before the version at position `i` telling whether the run was cancelled
from the start, by the listing or from outside before the answers to the listing and to the
deletions before that version had arrived, and the pass's answer is the answer of the whole,
true on success. -/
def Pruned (dryRun : Bool) (repo : String) (pattern : Regex) (keep : Nat) (olderThan : Option Nat)
    (m : Machine World) (c : Option Nat) (r : Outcome) (m' : Machine World) : Prop :=
  (∀ u, m.world.repository = .unreachable u → r = .error (u.list repo) ∧ m' = m) ∧
  ∀ store, m.world.repository = .memory store →
    (∀ e, (store.list repo).2 = .error e →
      r = .error e ∧ m'.world = { m.world with repository := .memory (store.list repo).1 }) ∧
    ∀ L, (store.list repo).2 = .ok L → ∃ r₀ after,
      PassEnds dryRun repo (store.list repo).1
        (fun i => cancelledBefore (m.cancelled || decide (store.cancelAt = some (store.listings + 1)))
          c (m.now + (if dryRun then 1 else i + 1) * store.latency))
        (planDeletions L pattern.isMatch keep (olderThan.map Int.ofNat) m.world.calendar) r₀ after ∧
      m'.world = { m.world with repository := .memory after } ∧ r = r₀.map fun _ => true

namespace Pruned

variable {dryRun : Bool} {repo : String} {pattern : Regex} {keep : Nat} {olderThan : Option Nat}
  {m m' : Machine World} {c : Option Nat} {r : Outcome}

theorem of_unreachable {u : Unreachable} (hw : m.world.repository = .unreachable u) :
    Pruned dryRun repo pattern keep olderThan m c (.error (u.list repo)) m := by
  refine ⟨fun u' hu => ?_, fun store h => ?_⟩
  · rw [hw] at hu
    cases hu
    exact ⟨rfl, rfl⟩
  · rw [hw] at h
    cases h

/-- The two ways on from a listing of a store in memory. -/
theorem of_listing {store : Store} (hw : m.world.repository = .memory store)
    (herr : ∀ e, (store.list repo).2 = .error e →
      r = .error e ∧ m'.world = { m.world with repository := .memory (store.list repo).1 })
    (hok : ∀ L, (store.list repo).2 = .ok L → ∃ r₀ after,
      PassEnds dryRun repo (store.list repo).1
        (fun i => cancelledBefore (m.cancelled || decide (store.cancelAt = some (store.listings + 1)))
          c (m.now + (if dryRun then 1 else i + 1) * store.latency))
        (planDeletions L pattern.isMatch keep (olderThan.map Int.ofNat) m.world.calendar) r₀ after ∧
      m'.world = { m.world with repository := .memory after } ∧ r = r₀.map fun _ => true) :
    Pruned dryRun repo pattern keep olderThan m c r m' := by
  refine ⟨fun u h => (by rw [hw] at h; cases h), fun store' h => ?_⟩
  rw [hw] at h
  cases h
  exact ⟨herr, hok⟩

end Pruned

/-- The flags seen in a pass begun once the listing has been answered, counted from the listing. -/
theorem seen_after_listing (dryRun : Bool) (c₀ : Bool) (c : Option Nat) (t d : Nat) :
    (fun i => cancelledBefore (cancelledBefore c₀ c (t + d)) (c.filter (t + d ≤ ·))
      (t + d + (if dryRun then 0 else i) * d)) =
      fun i => cancelledBefore c₀ c (t + (if dryRun then 1 else i + 1) * d) := by
  funext i
  rw [cancelledBefore_later (Nat.le_add_right _ _)]
  congr 1
  cases dryRun <;> simp only [Bool.false_eq_true, ↓reduceIte] <;> ring

/-- **Pruning**, run alone from any machine on a run cancelled from outside at `c`, not before
now, if at all, leaves what `Pruned` says. -/
theorem prune_yields (dryRun : Bool) (repo : String) (pattern : Regex) (keep : Nat)
    (olderThan : Option Nat) (m : Machine World) (c : Option Nat)
    (hx : ∀ x, c = some x → m.now ≤ x) :
    (prune dryRun repo pattern keep olderThan : Work τ Bool).Yields s m (cancelAt c)
      fun r m' _ => Pruned dryRun repo pattern keep olderThan m c r m' := by
  unfold prune
  apply Job.Yields.bind
  cases hrepo : m.world.repository with
  | unreachable u =>
    apply World.yields_listPackages_unreachable hrepo
    exact Pruned.of_unreachable hrepo
  | memory store =>
    refine (World.yields_listPackages_memory hrepo hx).mono ?_
    rintro r₁ m₁ hs₁ ⟨rfl, hslept⟩
    -- where the listing leaves the run: its answer arrived, the world counts it
    have hw₁ : m₁.world = { m.world with repository := .memory (store.list repo).1 } := by
      rw [hslept.world]
      simp
    have hnow₁ : m₁.now = m.now + store.latency := by
      rw [hslept.now]
      simp
    have hc₁ : m₁.cancelled = cancelledBefore
        (m.cancelled || decide (store.cancelAt = some (store.listings + 1))) c
        (m.now + store.latency) := by
      rw [hslept.cancelled]
      simp
    have hhs₁ : hs₁ = cancelAt (c.filter (m.now + store.latency ≤ ·)) := by
      rw [hslept.pending]
      simp
    cases hl : (store.list repo).2 with
    | error e =>
      refine Pruned.of_listing hrepo (fun e' he => ⟨?_, hw₁⟩) (fun L hL => ?_)
      · rw [hl] at he
        cases he
        rfl
      · rw [hl] at hL
        cases hL
    | ok L =>
      dsimp only
      apply Job.Yields.bind
      apply Job.yields_lift
      apply Exec.yields_observe
      apply Job.Yields.say_bind
      apply Job.Yields.bind
      rw [hhs₁]
      have hx₁ : ∀ x, c.filter (m.now + store.latency ≤ ·) = some x → m₁.now ≤ x := by
        intro x hx'
        rw [hnow₁]
        exact le_of_filter hx'
      have hrepo₁ : m₁.world.repository = .memory (store.list repo).1 := by
        rw [hw₁]
      refine Job.Yields.mono (deleteAll_yields dryRun repo _ hrepo₁ hx₁) ?_
      rintro r₀ m' hs' ⟨after, hw', hpass⟩
      dsimp only at hw' hpass
      rw [hw₁] at hpass hw'
      rw [hc₁, hnow₁, Store.list_fst, seen_after_listing] at hpass
      dsimp only at hw' hpass
      -- the pass's answer, true on success, is the answer of the whole
      have hend : ∀ m'', m''.world = m'.world →
          Pruned dryRun repo pattern keep olderThan m c (r₀.map fun _ => true) m'' := by
        intro m'' hw''
        refine Pruned.of_listing hrepo (fun e he => ?_) (fun L' hL => ?_)
        · rw [hl] at he
          cases he
        · rw [hl] at hL
          cases hL
          exact ⟨r₀, after, by rwa [← Store.list_fst] at hpass, hw''.trans hw', rfl⟩
      cases r₀ with
      | error e => exact hend m' rfl
      | ok u =>
        apply Job.Yields.say_bind
        apply Job.yields_pure
        exact hend _ rfl

/-- **Pruning deletes a prefix of its plan.** Run as a whole program from any machine, on a run
cancelled from outside at `c` if at all, not before the start, pruning answers alone, and the
machine, whenever it answers, answers the same. An unreachable repository fails the listing and
nothing changes. A store in memory is listed exactly once, and a listing that fails is returned,
with no deletion. Otherwise the plan, made from the listing and the calendar time, splits into the
versions gone through, each seen uncancelled and deleted once and in order (none in a dry run),
and the rest: the run answers true exactly when nothing is left, and otherwise stops at the first
version left, because it sees the run cancelled or because the store refuses to delete it, with
the store's fault as it is. The flag seen before the version at position `i` tells whether the
run was cancelled, from the start, by the listing when the store numbers it so, or from outside,
before the answers to the listing and to the `i` deletions before it had arrived, each taking the
store's latency. -/
theorem prune_deletes_plan_prefix (dryRun : Bool) (repo : String) (pattern : Regex) (keep : Nat)
    (olderThan : Option Nat) (m : Machine World) (c : Option Nat)
    (hc : ∀ x, c = some x → m.now ≤ x) :
    let p : Program World Outcome Outcome :=
      Exec.program (prune dryRun repo pattern keep olderThan).attempt
    ∃ r m', p.alone m (cancelAt c) = (m', some r) ∧
      (∀ m'' r', p.run m (cancelAt c) = (m'', some r') → m'' = m' ∧ r' = r) ∧
      (∀ u, m.world.repository = .unreachable u → r = .error (u.list repo) ∧ m' = m) ∧
      ∀ store, m.world.repository = .memory store →
        let listed := store.list repo
        let seen (i : Nat) : Bool :=
          cancelledBefore (m.cancelled || decide (store.cancelAt = some (store.listings + 1))) c
            (m.now + (if dryRun then 1 else i + 1) * store.latency)
        (∀ e, listed.2 = .error e →
          r = .error e ∧ m'.world = { m.world with repository := .memory listed.1 }) ∧
        ∀ L, listed.2 = .ok L →
          let deleted (pre : List Package) := if dryRun then [] else pre
          ∃ pre rest,
            planDeletions L pattern.isMatch keep (olderThan.map Int.ofNat) m.world.calendar =
              pre ++ rest ∧
            (∀ i < pre.length, seen i = false) ∧
            (dryRun = false → ∀ q ∈ pre, Keyed.get? (q.target repo) store.deleteFaults = none) ∧
            m'.world =
              { m.world with repository := .memory (listed.1.deleteEach repo (deleted pre)) } ∧
            (∀ store', m'.world.repository = .memory store' →
              store'.listings = store.listings + 1 ∧
              store'.deleted = store.deleted ++ ((deleted pre).map (·.target repo)).toArray) ∧
            (r = .ok true ↔ rest = []) ∧
            ∀ q rest', rest = q :: rest' →
              seen pre.length = true ∧ r = .error .cancelled ∨
              seen pre.length = false ∧ dryRun = false ∧
                ∃ e, Keyed.get? (q.target repo) store.deleteFaults = some e ∧ r = .error e := by
  intro p
  obtain ⟨r, m', hs', hpruned, he⟩ := (Job.yields_attempt
    (@prune_yields Outcome [] dryRun repo pattern keep olderThan m c hc)).program
  refine ⟨r, m', he, fun m'' r' hrun => ?_, hpruned.1, fun store hw => ?_⟩
  · have hsame := Program.run_eq_alone (by rw [schedule_cancelAt]; exact he) hrun
    simp only [Prod.mk.injEq, Option.some.injEq] at hsame
    exact hsame
  obtain ⟨herr, hok⟩ := hpruned.2 store hw
  refine ⟨herr, fun L hL => ?_⟩
  obtain ⟨r₀, after, ⟨pre, rest, hplan, hseen, hpre, rfl, hend⟩, hw', rfl⟩ := hok L hL
  rw [Store.deleteFaults_list] at hpre hend
  refine ⟨pre, rest, hplan, hseen, hpre, hw', fun store' h' => ?_, ?_, fun q rest' hq => ?_⟩
  · rw [hw'] at h'
    cases h'
    have hdel : ∀ q ∈ (if dryRun then [] else pre),
        Keyed.get? (q.target repo) (store.list repo).1.deleteFaults = none := by
      cases dryRun with
      | true => simp
      | false => simpa using hpre rfl
    rw [Store.listings_deleteEach, Store.deleted_deleteEach hdel, Store.list_fst]
    exact ⟨rfl, rfl⟩
  · rcases hend with ⟨rfl, rfl⟩ | ⟨q, rest', rfl, ⟨-, rfl⟩ | ⟨-, -, e, -, rfl⟩⟩ <;>
      simp [Except.map]
  · rcases hend with ⟨rfl, -⟩ | ⟨q', rest'', rfl, hstop⟩
    · cases hq
    · cases hq
      rcases hstop with ⟨hc', rfl⟩ | ⟨hc', hd, e, hf, rfl⟩
      · exact .inl ⟨hc', rfl⟩
      · exact .inr ⟨hc', hd, e, hf, rfl⟩

/-- A cancellation during a deletion: of two versions, none kept, with each answer taking 10 ms
and the run cancelled from outside at 15 ms, the first version is deleted and the pass sees the
cancellation before the second. -/
theorem prune_stops_at_cancellation_mid_plan :
    let v₁ : Package := { name := "api", version := "1.0", distroVersion := "ubuntu/focal",
                          createdAt := ⟨1709251200, 0⟩, htmlUrl := "/acme/api_1.0.deb" }
    let v₂ : Package := { name := "api", version := "1.1", distroVersion := "ubuntu/focal",
                          createdAt := ⟨1709337600, 0⟩, htmlUrl := "/acme/api_1.1.deb" }
    let store : Store := { repos := [("acme", [v₁, v₂])], latency := 10 }
    (∀ x, some 15 = some x → 0 ≤ x) ∧
    ∃ r m', (Exec.program (prune false "acme" ⟨"", .empty⟩ 0 none).attempt :
        Program World Outcome Outcome).alone { world := { repository := .memory store } }
          (cancelAt (some 15)) = (m', some r) ∧
      r = .error .cancelled ∧
      ∀ store', m'.world.repository = .memory store' →
        store'.deleted = #["acme/ubuntu/focal/api_1.0.deb"] := by
  intro v₁ v₂ store
  refine ⟨fun x _ => Nat.zero_le x, ?_⟩
  -- the plan deletes both versions, the older first
  have hplan : planDeletions [v₁, v₂] (Regex.isMatch ⟨"", .empty⟩) 0 none ⟨0, 0⟩ = [v₁, v₂] := by
    have hv : versionsOf [v₁, v₂] "api" = [v₁, v₂] := by
      rw [versionsOf_of_sorted _ _ (by decide)]
      decide
    have hn :
        dedupAdjacent (([v₁, v₂].map (·.name)).filter (Regex.isMatch ⟨"", .empty⟩)) = ["api"] := by
      decide
    rw [planDeletions_eq, acceptedNames_of_sorted (by decide), hn, List.flatMap_cons,
      List.flatMap_nil, List.append_nil, planOf, hv]
    decide
  obtain ⟨r, m', halone, -, -, hmem⟩ :=
    prune_deletes_plan_prefix false "acme" ⟨"", .empty⟩ 0 none
      { world := { repository := .memory store } } (some 15) (fun x _ => Nat.zero_le x)
  obtain ⟨-, hok⟩ := hmem store rfl
  obtain ⟨pre, rest, hsplit, hseen, hpre, -, hrec, -, hstop⟩ := hok [v₁, v₂] rfl
  rw [show planDeletions [v₁, v₂] (Regex.isMatch ⟨"", .empty⟩) 0 (Option.map Int.ofNat none)
    ({ repository := .memory store } : World).calendar = [v₁, v₂] from hplan] at hsplit
  refine ⟨r, m', halone, ?_⟩
  -- the first version is seen at 10 ms, before the cancellation; the second at 20 ms, after it
  have hf₁ : Keyed.get? (v₁.target "acme") store.deleteFaults = none := by decide
  rcases pre with _ | ⟨a, _ | ⟨b, _ | ⟨d, pre⟩⟩⟩
  · -- nothing gone through: the first version would have been seen cancelled or refused
    rcases hstop v₁ [v₂] hsplit.symm with ⟨hc', -⟩ | ⟨-, -, e, he, -⟩
    · exact absurd hc' (by decide)
    · rw [hf₁] at he
      cases he
  · -- the first deleted, and the second seen cancelled
    obtain ⟨rfl, rfl⟩ : v₁ = a ∧ [v₂] = rest := by simpa using hsplit
    rcases hstop v₂ [] rfl with ⟨-, hr⟩ | ⟨hc', -⟩
    · refine ⟨hr, fun store' h' => ?_⟩
      rw [(hrec store' h').2]
      decide
    · exact absurd hc' (by decide)
  · -- both gone through: the second would have been seen uncancelled
    obtain ⟨rfl, rfl, rfl⟩ : v₁ = a ∧ v₂ = b ∧ [] = rest := by simpa using hsplit
    exact absurd (hseen 1 (by simp)) (by decide)
  · simp at hsplit

end Execution

end Rollout

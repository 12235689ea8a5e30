import Mathlib
import Rollout.Proofs.FirstFailure
/-!
# Wrapped faults and their causes

A group reports the fault of a child wrapped with the child's position and label, once for each
level of nesting. So every fault is a root fault, one that wraps nothing, under a list of
wrappers (`Fault.within_wrappers_root`), and each observation of a fault reads through the
wrappers down to the root: the kind, and with it the class that decides retrying, is the root's;
the message is the root's behind one `act #p 'd': ` per wrapper; and the chain of causes, walked
one `source` at a time, holds one fault per wrapper.

* `Fault.causeAt_within`: the `i`-th cause of a root under wrappers is the fault under the
  `i`-th wrapper, and the chain ends after the last wrapper.
* `Fault.wrapped_anatomy`: **kind, class, message and causes of every fault, read off its root
  and its wrappers.**
-/

namespace Rollout.Fault

/-- What a child wrapper writes before the message of its source. -/
def actPrefix (step : Nat × String) : String := s!"act #{step.1} '{step.2}': "

/-- The `i`-th fault of the chain of causes, counted from zero: the source taken `i + 1` times
over, for as long as there is one. -/
def causeAt (f : Fault) (i : Nat) : Option Fault :=
  (fun o : Option Fault => o.bind source?)^[i] f.source?

/-! ### Root and wrappers -/

/-- The root wraps nothing. -/
theorem root_source? (f : Fault) : f.root.source? = none := by
  induction f with
  | child _ _ _ ih => exact ih
  | _ => rfl

/-- Every fault is its root under its wrappers. -/
theorem within_wrappers_root (f : Fault) : within f.wrappers f.root = f := by
  induction f with
  | child p d source ih => rw [wrappers, root, within, ih]
  | _ => rfl

/-! ### Class -/

theorem isRetryable_iff (f : Fault) : f.isRetryable = true ↔ f.root.kind = .operational := by
  rw [kind_root]
  simp [isRetryable]

theorem isFatal_iff (f : Fault) :
    f.isFatal = true ↔ f.root.kind = .configuration ∨ f.root.kind = .unrecoverable := by
  rw [kind_root]
  simp [isFatal]

theorem isCancelled_iff (f : Fault) : f.isCancelled = true ↔ f.root.kind = .cancelled := by
  rw [kind_root]
  simp [isCancelled]

/-! ### Message -/

theorem message_child_actPrefix (p : Nat) (d : String) (f : Fault) :
    (child p d f).message = actPrefix (p, d) ++ f.message := by
  rw [message_child, actPrefix]
  simp only [String.append_assoc]
  -- what is left is `toString` of a text against the text itself
  rfl

/-- The message of a root under wrappers: each wrapper's prefix, outermost first, then the
root's message. -/
theorem message_within (ws : Path) (r : Fault) :
    (within ws r).message = String.join (ws.map actPrefix) ++ r.message := by
  induction ws with
  | nil => simp [within]
  | cons step ws ih =>
    obtain ⟨p, d⟩ := step
    rw [within, message_child_actPrefix, ih, List.map_cons, String.join_cons, String.append_assoc]

/-! ### Chain of causes -/

theorem causeAt_child_zero (p : Nat) (d : String) (g : Fault) : (child p d g).causeAt 0 = some g :=
  rfl

/-- Past a wrapper, the chain goes on with the chain of its source. -/
theorem causeAt_child_succ (p : Nat) (d : String) (g : Fault) (i : Nat) :
    (child p d g).causeAt (i + 1) = g.causeAt i := by
  rw [causeAt, Function.iterate_succ_apply]
  rfl

/-- A fault without a source has no causes. -/
theorem causeAt_of_source?_eq_none {f : Fault} (h : f.source? = none) (i : Nat) :
    f.causeAt i = none := by
  rw [causeAt, h]
  exact Function.iterate_fixed rfl i

/-- The causes of a root under wrappers: the fault under each wrapper in turn, then none. -/
theorem causeAt_within (ws : Path) {r : Fault} (hr : r.source? = none) (i : Nat) :
    (within ws r).causeAt i =
      if i < ws.length then some (within (ws.drop (i + 1)) r) else none := by
  induction ws generalizing i with
  | nil => simp [within, causeAt_of_source?_eq_none hr]
  | cons step ws ih =>
    obtain ⟨p, d⟩ := step
    cases i with
    | zero => simp [within, causeAt_child_zero]
    | succ i =>
      rw [within, causeAt_child_succ, ih]
      simp

/-- The list of causes is the chain walked one source at a time. -/
theorem sources_getElem? (f : Fault) (i : Nat) : f.sources[i]? = f.causeAt i := by
  induction f generalizing i with
  | child p d g ih =>
    cases i with
    | zero => rfl
    | succ i => rw [sources, List.getElem?_cons_succ, causeAt_child_succ, ih]
  | _ => rw [causeAt_of_source?_eq_none rfl]; rfl

theorem length_sources (f : Fault) : f.sources.length = f.wrappers.length := by
  induction f with
  | child _ _ _ ih => simp [sources, wrappers, ih]
  | _ => rfl

/-- **The anatomy of a wrapped fault.** Every fault is its root, which wraps nothing, under its
wrappers. Its kind is the root's, so the root's kind alone decides which one of retryable, fatal
and cancelled it is. Its message is `act #p 'd': ` for each wrapper, outermost first, then the
root's message. Its chain of causes, walked one `source` at a time and as listed, holds exactly
one fault per wrapper: the `i`-th is the fault directly under the `i`-th wrapper. -/
theorem wrapped_anatomy (f : Fault) :
    within f.wrappers f.root = f ∧ f.root.source? = none ∧
    f.kind = f.root.kind ∧
    (f.isRetryable = true ↔ f.root.kind = .operational) ∧
    (f.isFatal = true ↔ f.root.kind = .configuration ∨ f.root.kind = .unrecoverable) ∧
    (f.isCancelled = true ↔ f.root.kind = .cancelled) ∧
    ((f.isRetryable && !f.isFatal && !f.isCancelled) ||
      (!f.isRetryable && f.isFatal && !f.isCancelled) ||
      (!f.isRetryable && !f.isFatal && f.isCancelled)) = true ∧
    f.message = String.join (f.wrappers.map actPrefix) ++ f.root.message ∧
    (∀ i, f.causeAt i =
      if i < f.wrappers.length then some (within (f.wrappers.drop (i + 1)) f.root) else none) ∧
    f.sources.length = f.wrappers.length ∧ ∀ i, f.sources[i]? = f.causeAt i := by
  have hf := within_wrappers_root f
  refine ⟨hf, root_source? f, (kind_root f).symm, isRetryable_iff f, isFatal_iff f,
    isCancelled_iff f, exactly_one_class f, ?_, fun i => ?_, length_sources f, sources_getElem? f⟩
  · calc f.message = (within f.wrappers f.root).message := by rw [hf]
      _ = _ := message_within _ _
  · calc f.causeAt i = (within f.wrappers f.root).causeAt i := by rw [hf]
      _ = _ := causeAt_within _ (root_source? f) i

example : (child 1 "outer" (child 2 "inner" cancelled)).isCancelled = true := by decide

end Rollout.Fault

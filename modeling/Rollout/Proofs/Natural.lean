import Mathlib
import Rollout.Proofs.Ends
/-!
# Computations hand their value on

A computation is handed what to do with its value, its follower. The computations the actors
are written in hand their value on and do nothing else: run with one follower or another, they
are the same program up to the follower. `Program.Alike I k k' p p'` says so of two programs:
they are alike except that where `p` goes on with `k a`, `p'` goes on with `k' a`. An invariant
`I` of the world rides along: each change of the world keeps it, a world that is read is taken
to satisfy it, and the branches of a fork keep it too (`Program.Keeps I`). `Exec.Natural I x`
says that `x` gives alike programs with any two followers; it holds of `pure`, of each request
and of `bind`, so of every computation written with them.

What a computation may hand on is then known from how it runs as a branch of its own:

* `Alike.ends`: every run of a program that ends passes through its follower, at a value and
  a flag from which the other follower runs on the same way;
* `Exec.Natural.settles`, `Exec.Natural.ends_of_settles`: **a computation whose value is a
  branch's value runs on into what follows exactly through the values it may settle with as a
  branch of its own**;
* `Alike.keeps`: a computation with followers that keep `I` keeps `I`.
-/

namespace Rollout

variable {σ β τ α γ : Type}

namespace Program

section
variable (I : σ → Prop)

/-- A program keeps the invariant `I` of the world: each change keeps it, from a world read with
it; so do the branches of its forks and all that follows them. -/
inductive Keeps : Program σ β τ → Prop
  | finish (a : τ) : Keeps (.finish a)
  | settle (b : β) : Keeps (.settle b)
  | observe {next : σ → Program σ β τ} (h : ∀ w, I w → Keeps (next w)) : Keeps (.observe next)
  | change {f : σ → σ} {next : Program σ β τ} (hf : ∀ w, I w → I (f w)) (h : Keeps next) :
      Keeps (.change f next)
  | clock {next : Nat → Program σ β τ} (h : ∀ n, Keeps (next n)) : Keeps (.clock next)
  | emit {s : Scope} {ev : Event} {next : Program σ β τ} (h : Keeps next) :
      Keeps (.emit s ev next)
  | isCancelled {next : Bool → Program σ β τ} (h : ∀ b, Keeps (next b)) :
      Keeps (.isCancelled next)
  | cancel {s : Scope} {next : Program σ β τ} (h : Keeps next) : Keeps (.cancel s next)
  | sleepUntil {t : Nat} {next : Program σ β τ} (h : Keeps next) : Keeps (.sleepUntil t next)
  | waitUntil {t : Nat} {next : Bool → Program σ β τ} (h : ∀ b, Keeps (next b)) :
      Keeps (.waitUntil t next)
  | draw {next : Nat → Program σ β τ} (h : ∀ n, Keeps (next n)) : Keeps (.draw next)
  | pause {next : Program σ β τ} (h : Keeps next) : Keeps (.pause next)
  | fork {bs : List (Program σ β τ)} {next : List β → Program σ β τ} (hb : ∀ b ∈ bs, Keeps b)
      (h : ∀ rs, Keeps (next rs)) : Keeps (.fork bs next)

/-- Two programs alike but for their followers: where `p` goes on with `k a`, `p'` goes on with
`k' a`; all else they request is the same and keeps `I`. -/
inductive Alike (k k' : α → Program σ β τ) : Program σ β τ → Program σ β τ → Prop
  | hand (a : α) : Alike k k' (k a) (k' a)
  | observe {next next' : σ → Program σ β τ} (h : ∀ w, I w → Alike k k' (next w) (next' w)) :
      Alike k k' (.observe next) (.observe next')
  | change {f : σ → σ} {next next' : Program σ β τ} (hf : ∀ w, I w → I (f w))
      (h : Alike k k' next next') : Alike k k' (.change f next) (.change f next')
  | clock {next next' : Nat → Program σ β τ} (h : ∀ n, Alike k k' (next n) (next' n)) :
      Alike k k' (.clock next) (.clock next')
  | emit {s : Scope} {ev : Event} {next next' : Program σ β τ} (h : Alike k k' next next') :
      Alike k k' (.emit s ev next) (.emit s ev next')
  | isCancelled {next next' : Bool → Program σ β τ} (h : ∀ b, Alike k k' (next b) (next' b)) :
      Alike k k' (.isCancelled next) (.isCancelled next')
  | cancel {s : Scope} {next next' : Program σ β τ} (h : Alike k k' next next') :
      Alike k k' (.cancel s next) (.cancel s next')
  | sleepUntil {t : Nat} {next next' : Program σ β τ} (h : Alike k k' next next') :
      Alike k k' (.sleepUntil t next) (.sleepUntil t next')
  | waitUntil {t : Nat} {next next' : Bool → Program σ β τ} (h : ∀ b, Alike k k' (next b) (next' b)) :
      Alike k k' (.waitUntil t next) (.waitUntil t next')
  | draw {next next' : Nat → Program σ β τ} (h : ∀ n, Alike k k' (next n) (next' n)) :
      Alike k k' (.draw next) (.draw next')
  | pause {next next' : Program σ β τ} (h : Alike k k' next next') : Alike k k' (.pause next) (.pause next')
  | fork {bs : List (Program σ β τ)} {next next' : List β → Program σ β τ}
      (hb : ∀ b ∈ bs, Keeps I b) (h : ∀ rs, Alike k k' (next rs) (next' rs)) :
      Alike k k' (.fork bs next) (.fork bs next')

end

variable {I : σ → Prop}

/-- Alike programs whose followers are themselves alike for other followers are alike for
those. -/
theorem Alike.bind {K K' : α → Program σ β τ} {k k' : γ → Program σ β τ}
    {p p' : Program σ β τ} (h : Alike I K K' p p') (hk : ∀ a, Alike I k k' (K a) (K' a)) :
    Alike I k k' p p' := by
  induction h with
  | hand a => exact hk a
  | observe _ ih => exact .observe fun w hw => ih w hw
  | change hf _ ih => exact .change hf ih
  | clock _ ih => exact .clock ih
  | emit _ ih => exact .emit ih
  | isCancelled _ ih => exact .isCancelled ih
  | cancel _ ih => exact .cancel ih
  | sleepUntil _ ih => exact .sleepUntil ih
  | waitUntil _ ih => exact .waitUntil ih
  | draw _ ih => exact .draw ih
  | pause _ ih => exact .pause ih
  | fork hb _ ih => exact .fork hb ih

/-- **A program alike to another for followers that keep `I` keeps `I`.** -/
theorem Alike.keeps {k : α → Program σ β τ} {p p' : Program σ β τ} (h : Alike I k k p p')
    (hk : ∀ a, Keeps I (k a)) : Keeps I p := by
  induction h with
  | hand a => exact hk a
  | observe _ ih => exact .observe ih
  | change hf _ ih => exact .change hf ih
  | clock _ ih => exact .clock ih
  | emit _ ih => exact .emit ih
  | isCancelled _ ih => exact .isCancelled ih
  | cancel _ ih => exact .cancel ih
  | sleepUntil _ ih => exact .sleepUntil ih
  | waitUntil _ ih => exact .waitUntil ih
  | draw _ ih => exact .draw ih
  | pause _ ih => exact .pause ih
  | fork hb _ ih => exact .fork hb ih

/-- **Every run of a program that ends passes through its follower**, at a value `a` and a flag
`c'`; from there the other follower, run instead, leads the other program to its own ends. -/
theorem Alike.ends {k k' : α → Program σ β τ} {p p' : Program σ β τ}
    (h : Alike (fun _ => True) k k' p p') {c e : Bool} {z : β ⊕ τ} (he : Ends c p z e) :
    ∃ a c', c ≤ c' ∧ Ends c' (k a) z e ∧
      ∀ {z' : β ⊕ τ} {e' : Bool}, Ends c' (k' a) z' e' → Ends c p' z' e' := by
  induction h generalizing c with
  | hand a => exact ⟨a, c, Bool.le_refl _, he, id⟩
  | observe _ ih =>
    cases he with
    | observe w hc he =>
      obtain ⟨a, c', h₁, h₂, h₃⟩ := ih w trivial he
      exact ⟨a, c', Bool.le_trans hc h₁, h₂, fun h' => .observe w hc (h₃ h')⟩
  | change _ _ ih =>
    cases he with
    | change hc he =>
      obtain ⟨a, c', h₁, h₂, h₃⟩ := ih he
      exact ⟨a, c', Bool.le_trans hc h₁, h₂, fun h' => .change hc (h₃ h')⟩
  | clock _ ih =>
    cases he with
    | clock n hc he =>
      obtain ⟨a, c', h₁, h₂, h₃⟩ := ih n he
      exact ⟨a, c', Bool.le_trans hc h₁, h₂, fun h' => .clock n hc (h₃ h')⟩
  | emit _ ih =>
    cases he with
    | emit hc he =>
      obtain ⟨a, c', h₁, h₂, h₃⟩ := ih he
      exact ⟨a, c', Bool.le_trans hc h₁, h₂, fun h' => .emit hc (h₃ h')⟩
  | isCancelled _ ih =>
    cases he with
    | isCancelled hc he =>
      obtain ⟨a, c', h₁, h₂, h₃⟩ := ih _ he
      exact ⟨a, c', Bool.le_trans hc h₁, h₂, fun h' => .isCancelled hc (h₃ h')⟩
  | cancel _ ih =>
    cases he with
    | cancel he =>
      obtain ⟨a, c', h₁, h₂, h₃⟩ := ih he
      exact ⟨a, c', Bool.le_trans (Bool.le_true _) h₁, h₂, fun h' => .cancel (h₃ h')⟩
  | sleepUntil _ ih =>
    cases he with
    | sleepUntil hc he =>
      obtain ⟨a, c', h₁, h₂, h₃⟩ := ih he
      exact ⟨a, c', Bool.le_trans hc h₁, h₂, fun h' => .sleepUntil hc (h₃ h')⟩
  | waitUntil _ ih =>
    cases he with
    | waitUntil hc he =>
      obtain ⟨a, c', h₁, h₂, h₃⟩ := ih _ he
      exact ⟨a, c', Bool.le_trans hc h₁, h₂, fun h' => .waitUntil hc (h₃ h')⟩
  | draw _ ih =>
    cases he with
    | draw n hc he =>
      obtain ⟨a, c', h₁, h₂, h₃⟩ := ih n he
      exact ⟨a, c', Bool.le_trans hc h₁, h₂, fun h' => .draw n hc (h₃ h')⟩
  | pause _ ih =>
    cases he with
    | pause hc he =>
      obtain ⟨a, c', h₁, h₂, h₃⟩ := ih he
      exact ⟨a, c', Bool.le_trans hc h₁, h₂, fun h' => .pause hc (h₃ h')⟩
  | fork _ _ ih =>
    cases he with
    | fork hc hj hb he =>
      -- the branches are the same on both sides; only what follows the join differs
      obtain ⟨a, c', h₁, h₂, h₃⟩ := ih _ he
      exact ⟨a, c', Bool.le_trans hc (Bool.le_trans hj h₁), h₂, fun h' => .fork hc hj hb (h₃ h')⟩

end Program

open Program

namespace Exec

variable (I : σ → Prop)

/-- A computation hands its value on, keeping `I`: with any two followers it gives programs
alike but for them. -/
def Natural (x : Exec σ β τ α) : Prop :=
  ∀ s (k k' : α → Program σ β τ), Alike I k k' (x s k) (x s k')

/-- The values a computation whose value is a branch's may settle with, run from the flag `c` as
a branch of its own, with the flag `e` it ends with. -/
def Settles (x : Exec σ β τ β) (s : Scope) (c : Bool) (r : β) (e : Bool) : Prop :=
  (x s .settle).Ends c (.inl r) e

variable {I}

theorem natural_pure (a : α) : Natural I (pure a : Exec σ β τ α) :=
  fun _ _ _ => .hand a

theorem Natural.bind {x : Exec σ β τ α} {f : α → Exec σ β τ γ} (hx : Natural I x)
    (hf : ∀ a, Natural I (f a)) : Natural I (x >>= f) :=
  fun s k k' => (hx s (fun a => f a s k) (fun a => f a s k')).bind fun a => hf a s k k'

theorem natural_map {x : Exec σ β τ α} (f : α → γ) (hx : Natural I x) : Natural I (f <$> x) :=
  hx.bind fun a => natural_pure (f a)

/-! ### Each request hands its answer on -/

theorem natural_observe : Natural I (observe : Exec σ β τ σ) :=
  fun _ _ _ => .observe fun w _ => .hand w

/-- What follows a read of the world may rely on the world keeping `I`. -/
theorem natural_observe_bind {f : σ → Exec σ β τ α} (hf : ∀ w, I w → Natural I (f w)) :
    Natural I (observe >>= f) :=
  fun s k k' => .observe fun w hw => hf w hw s k k'

theorem natural_modify {f : σ → σ} (hf : ∀ w, I w → I (f w)) :
    Natural I (modify f : Exec σ β τ Unit) :=
  fun _ _ _ => .change hf (.hand ())

theorem natural_now : Natural I (now : Exec σ β τ Nat) := fun _ _ _ => .clock fun n => .hand n

theorem natural_say (e : Event) : Natural I (say e : Exec σ β τ Unit) :=
  fun _ _ _ => .emit (.hand ())

theorem natural_sayOutside (e : Event) : Natural I (sayOutside e : Exec σ β τ Unit) :=
  fun _ _ _ => .emit (.hand ())

theorem natural_isCancelled : Natural I (isCancelled : Exec σ β τ Bool) :=
  fun _ _ _ => .isCancelled fun b => .hand b

theorem natural_cancel : Natural I (cancel : Exec σ β τ Unit) := fun _ _ _ => .cancel (.hand ())

theorem natural_sleepUntil (t : Nat) : Natural I (sleepUntil t : Exec σ β τ Unit) :=
  fun _ _ _ => .sleepUntil (.hand ())

theorem natural_waitUntil (t : Nat) : Natural I (waitUntil t : Exec σ β τ Bool) :=
  fun _ _ _ => .waitUntil fun b => .hand b

theorem natural_draw : Natural I (draw : Exec σ β τ Nat) := fun _ _ _ => .draw fun n => .hand n

theorem natural_pause : Natural I (pause : Exec σ β τ Unit) := fun _ _ _ => .pause (.hand ())

theorem natural_within (i : Identity) {x : Exec σ β τ α} (hx : Natural I x) :
    Natural I (within i x) :=
  fun s => hx (i :: s)

theorem natural_sleepFor (ms : Nat) : Natural I (sleepFor ms : Exec σ β τ Unit) :=
  natural_now.bind fun t => natural_sleepUntil (t + ms)

/-- A computation whose followers keep `I` keeps `I`. -/
theorem Natural.keeps {x : Exec σ β τ α} (hx : Natural I x) (s : Scope)
    {k : α → Program σ β τ} (hk : ∀ a, Keeps I (k a)) : Keeps I (x s k) :=
  (hx s k k).keeps hk

/-- Branches that each hand their value on, run side by side. -/
theorem natural_forkAll {xs : List (Exec σ β τ β)} (hxs : ∀ x ∈ xs, Natural I x) :
    Natural I (forkAll xs) := by
  intro s k k'
  refine .fork ?_ fun rs => .hand rs
  intro b hb
  obtain ⟨x, hx, rfl⟩ := List.mem_map.1 hb
  exact (hxs x hx).keeps s fun r => .settle r

/-- **Every way a computation runs on into what follows goes through a value it may settle with
as a branch of its own**, from a flag no lower than the one it started with. -/
theorem Natural.settles {x : Exec σ β τ β} (hx : Natural (fun _ => True) x) {s : Scope}
    {k : β → Program σ β τ} {c e : Bool} {z : β ⊕ τ} (he : (x s k).Ends c z e) :
    ∃ r c', c ≤ c' ∧ x.Settles s c r c' ∧ (k r).Ends c' z e := by
  obtain ⟨r, c', hc, hk, hsettle⟩ := (hx s k .settle).ends he
  exact ⟨r, c', hc, hsettle (.settle (Bool.le_refl _)), hk⟩

/-- **A value a computation may settle with as a branch of its own is one it may hand on** to
whatever follows. -/
theorem Natural.ends_of_settles {x : Exec σ β τ β} (hx : Natural (fun _ => True) x) {s : Scope}
    {k : β → Program σ β τ} {c c' e : Bool} {r : β} {z : β ⊕ τ} (hr : x.Settles s c r c')
    (hk : (k r).Ends c' z e) : (x s k).Ends c z e := by
  obtain ⟨a, c'', _, ha, hthen⟩ := (hx s .settle k).ends hr
  cases ha with
  | settle hle => exact hthen (hk.lower hle)

end Exec

namespace Job

open Exec

variable (I : σ → Prop)

/-- A job hands its value or its fault on, keeping `I`. -/
def Natural (x : Job σ β τ α) : Prop := Exec.Natural I x.run

variable {I}

theorem natural_pure (a : α) : Natural I (pure a : Job σ β τ α) := Exec.natural_pure _

theorem natural_throw (e : Fault) : Natural I (throw e : Job σ β τ α) := Exec.natural_pure _

theorem natural_lift {x : Exec σ β τ α} (hx : Exec.Natural I x) : Natural I (lift x) :=
  natural_map _ hx

theorem Natural.bind {x : Job σ β τ α} {f : α → Job σ β τ γ} (hx : Natural I x)
    (hf : ∀ a, Natural I (f a)) : Natural I (x >>= f) := by
  show Exec.Natural I (x.run >>= ExceptT.bindCont f)
  refine Exec.Natural.bind hx fun r => ?_
  cases r with
  | ok a => exact hf a
  | error e => exact Exec.natural_pure _

theorem natural_observe_bind {f : σ → Job σ β τ α} (hf : ∀ w, I w → Natural I (f w)) :
    Natural I (lift observe >>= f) :=
  fun s k k' => .observe fun w hw => hf w hw s k k'

theorem natural_forM {l : List γ} {f : γ → Job σ β τ Unit} (hf : ∀ a ∈ l, Natural I (f a)) :
    Natural I (l.forM f) := by
  induction l with
  | nil => exact natural_pure ()
  | cons a l ih =>
    exact (hf a List.mem_cons_self).bind fun _ => ih fun b hb => hf b (List.mem_cons_of_mem a hb)

theorem natural_attempt {x : Job σ β τ α} (hx : Natural I x) : Exec.Natural I x.attempt := hx

theorem natural_checkCancelled : Natural I (checkCancelled : Job σ β τ Unit) := by
  refine (natural_lift natural_isCancelled).bind fun b => ?_
  cases b with
  | true => exact natural_throw _
  | false => exact natural_pure _

theorem natural_sleepFor (ms : Nat) : Natural I (sleepFor ms : Job σ β τ Unit) := by
  refine (natural_lift natural_now).bind fun t => (natural_lift (natural_waitUntil _)).bind
    fun b => ?_
  cases b with
  | true => exact natural_throw _
  | false => exact natural_pure _

end Job

end Rollout

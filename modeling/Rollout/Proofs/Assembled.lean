import Mathlib
import Rollout.Session
import Rollout.Proofs.DryRun
/-!
# What assembly builds

Assembly builds a tree of actors from a tree of specifications. The built tree has the shape of
the script (`Mirrors`): a `group.Sync` specification becomes a group that runs its children one
after another, a `group.Async` one a group that runs them side by side, with the actors built
from its acts as children in their order, and every actor is labelled with its specification's
label and kind and with the run's dry-run flag. The flag does nothing else: no builder checks
it, so a script that fails to build fails with the same fault whatever the flag.

Main statements:

* `Actor.buildWithin_mirrors`: **a built tree mirrors its script**;
* `Actor.buildWithin_failAlike`: **building fails alike whatever the flag**, one induction over
  the three functions that build a tree, from one lemma for the builders of the other kinds;
* `build_mirrors_script`: both, for assembly and for a session, which checks a script by
  building it for a dry run: it accepts exactly the scripts that running builds, dry or not.
-/

namespace Rollout

/-- A built actor mirrors the specification it was built from, with the flag `dryRun`. -/
inductive Mirrors (b : Backends) (dryRun : Bool) : Spec → Actor → Prop
  /-- A group kind becomes a group of that kind's mode under the specification's label and kind,
  whose children mirror the specifications of its acts, in order. -/
  | group {spec : Spec} {mode : GroupMode} {specs : List Spec} {children : List Actor}
      (hk : spec.actor = mode.kind) (hs : Assembly.children spec = .ok specs)
      (hc : List.Forall₂ (Mirrors b dryRun) specs children) :
      Mirrors b dryRun spec (.group ⟨spec.desc, spec.actor, dryRun⟩ mode children)
  /-- Any other kind that the registry knows becomes an actor that is no group, under the
  specification's label and kind. -/
  | leaf {spec : Spec} {kind : ActorKind} {a : Actor}
      (hk : b.registry.find? spec.actor = some kind) (hg : kind ≠ .sync ∧ kind ≠ .async)
      (hi : a.identity = ⟨spec.desc, spec.actor, dryRun⟩) (hl : ∀ i m cs, a ≠ .group i m cs) :
      Mirrors b dryRun spec a

theorem Registry.name_of_find? {r : Registry} {name : String} {k : ActorKind}
    (h : r.find? name = some k) : k.name = name := by
  simpa using List.find?_some h

variable {b : Backends}

/-- The builders of kinds other than groups label their actor with the specification's label
and kind and the run's flag, and build no group. -/
theorem Actor.buildWithin_leaf_identity {dryRun : Bool} {fuel : Nat} {spec : Spec}
    {kind : ActorKind} {a : Actor} (hk : b.registry.find? spec.actor = some kind)
    (hg : kind ≠ .sync ∧ kind ≠ .async) (h : Actor.buildWithin b dryRun fuel spec = .ok a) :
    a.identity = ⟨spec.desc, spec.actor, dryRun⟩ ∧ ∀ i m cs, a ≠ .group i m cs := by
  unfold Actor.buildWithin at h
  rw [hk] at h
  cases kind
  case sync | async => simp at hg
  all_goals
    simp only [Assembly.note, Assembly.sleep, Assembly.waitHealthy, Assembly.membership,
      Assembly.prune, Assembly.waitForPackage, Assembly.step, bind, Except.bind, pure,
      Except.pure] at h
    repeat' split at h
    all_goals cases h
    all_goals exact ⟨rfl, fun _ _ _ h => by cases h⟩

/-- The builders of kinds other than groups fail the same way whatever the run's flag: the flag
only labels the actor. -/
theorem Actor.buildWithin_leaf_error {d₁ d₂ : Bool} {fuel : Nat} {spec : Spec} {kind : ActorKind}
    {e : Fault} (hk : b.registry.find? spec.actor = some kind) (hg : kind ≠ .sync ∧ kind ≠ .async)
    (h : Actor.buildWithin b d₁ fuel spec = .error e) : Actor.buildWithin b d₂ fuel spec = .error e := by
  unfold Actor.buildWithin at h ⊢
  rw [hk] at h ⊢
  cases kind
  case sync | async => simp at hg
  all_goals
    simp only [Assembly.note, Assembly.sleep, Assembly.waitHealthy, Assembly.membership,
      Assembly.prune, Assembly.waitForPackage, Assembly.step, bind, Except.bind, pure,
      Except.pure] at h ⊢
    repeat' split at h
    all_goals cases h
    -- each branch taken with `d₁` is taken with `d₂`, to the same fault
    all_goals simp_all [throw, throwThe, MonadExceptOf.throw, -Nat.not_lt]

/-- Two computations fail alike: with the same fault, or not at all. -/
def FailAlike {ε α α' : Type} (x : Except ε α) (y : Except ε α') : Prop :=
  ∀ e, x = .error e ↔ y = .error e

namespace FailAlike

variable {ε α α' γ γ' : Type}

theorem refl (x : Except ε α) : FailAlike x x := fun _ => Iff.rfl

theorem pure (a : α) (a' : α') : FailAlike (Pure.pure a : Except ε α) (Pure.pure a' : Except ε α') :=
  fun _ => ⟨(fun h => nomatch h), (fun h => nomatch h)⟩

/-- Computations that fail alike, each followed by one that fails alike whatever the first
gave, fail alike. -/
theorem bind {x : Except ε α} {y : Except ε α'} {f : α → Except ε γ} {g : α' → Except ε γ'}
    (hx : FailAlike x y) (hf : ∀ a a', x = .ok a → y = .ok a' → FailAlike (f a) (g a')) :
    FailAlike (x >>= f) (y >>= g) := by
  intro e
  cases hxe : x with
  | error e₀ =>
    have hl : (Except.error e₀ >>= f) = (Except.error e₀ : Except ε γ) := rfl
    have hr : (Except.error e₀ >>= g) = (Except.error e₀ : Except ε γ') := rfl
    rw [(hx e₀).1 hxe, hl, hr]
    simp
  | ok a =>
    cases hye : y with
    | error e₀ => exact absurd ((hx e₀).2 hye) (by simp [hxe])
    | ok a' => exact hf a a' hxe hye e

theorem mapError {x : Except ε α} {y : Except ε α'} (hx : FailAlike x y) (m : ε → ε) :
    FailAlike (x.mapError m) (y.mapError m) := by
  intro e
  cases hxe : x with
  | error e₀ => simp [(hx e₀).1 hxe, Except.mapError]
  | ok a =>
    cases hye : y with
    | error e₀ => exact absurd ((hx e₀).2 hye) (by simp [hxe])
    | ok a' => simp [Except.mapError]

end FailAlike

/-- **Building fails the same way whatever the run's flag.** -/
theorem Actor.buildWithin_failAlike (d₁ d₂ : Bool) (fuel : Nat) (spec : Spec) :
    FailAlike (Actor.buildWithin b d₁ fuel spec) (Actor.buildWithin b d₂ fuel spec) := by
  refine Actor.buildWithin.induct b
    (fun fuel spec => FailAlike (Actor.buildWithin b d₁ fuel spec) (Actor.buildWithin b d₂ fuel spec))
    (fun fuel mode spec =>
      FailAlike (Actor.groupWithin b d₁ fuel mode spec) (Actor.groupWithin b d₂ fuel mode spec))
    (fun fuel position specs => FailAlike (Actor.childrenWithin b d₁ fuel position specs)
      (Actor.childrenWithin b d₂ fuel position specs))
    ?unknown ?sync ?async ?_ ?_ ?_ ?_ ?_ ?_ ?_ ?_ ?_ ?deep ?group ?nil ?cons fuel spec
  case unknown =>
    intro fuel spec hk
    rw [Actor.buildWithin, hk, Actor.buildWithin, hk]
    exact .refl _
  case sync | async =>
    intro fuel spec hk ih
    rw [Actor.buildWithin, hk, Actor.buildWithin, hk]
    exact ih
  case deep =>
    intro mode spec
    rw [Actor.groupWithin, Actor.groupWithin]
    exact .refl _
  case group =>
    intro mode spec fuel ih
    rw [Actor.groupWithin, Actor.groupWithin]
    -- the same children are read, then built alike
    refine .bind (.refl _) fun specs specs' hs hs' => ?_
    cases hs.symm.trans hs'
    exact .bind (ih specs) fun _ _ _ _ => .pure _ _
  case nil =>
    intro fuel position
    rw [Actor.childrenWithin, Actor.childrenWithin]
    exact .refl _
  case cons =>
    intro fuel position s rest ih₁ ih₂
    rw [Actor.childrenWithin, Actor.childrenWithin]
    exact .bind (ih₁.mapError _) fun _ _ _ _ => .bind ih₂ fun _ _ _ _ => .pure _ _
  all_goals
    intro fuel spec hk
    exact fun e => ⟨Actor.buildWithin_leaf_error hk (by decide),
      Actor.buildWithin_leaf_error hk (by decide)⟩

/-- **A built tree mirrors its script.** -/
theorem Actor.buildWithin_mirrors {dryRun : Bool} {fuel : Nat} {spec : Spec} {a : Actor}
    (h : Actor.buildWithin b dryRun fuel spec = .ok a) : Mirrors b dryRun spec a := by
  refine Actor.buildWithin.induct b
    (fun fuel spec => ∀ a, Actor.buildWithin b dryRun fuel spec = .ok a → Mirrors b dryRun spec a)
    (fun fuel mode spec => ∀ a, Actor.groupWithin b dryRun fuel mode spec = .ok a →
      spec.actor = mode.kind → Mirrors b dryRun spec a)
    (fun fuel position specs => ∀ as, Actor.childrenWithin b dryRun fuel position specs = .ok as →
      List.Forall₂ (Mirrors b dryRun) specs as)
    ?unknown ?sync ?async ?_ ?_ ?_ ?_ ?_ ?_ ?_ ?_ ?_ ?deep ?group ?nil ?cons fuel spec a h
  case unknown =>
    intro fuel spec hk a h
    rw [Actor.buildWithin, hk] at h
    cases h
  case sync | async =>
    intro fuel spec hk ih a h
    rw [Actor.buildWithin, hk] at h
    exact ih a h (Registry.name_of_find? hk).symm
  case deep =>
    intro mode spec a h
    rw [Actor.groupWithin] at h
    cases h
  case group =>
    intro mode spec fuel ih a h hk
    rw [Actor.groupWithin] at h
    obtain ⟨specs, hs, h⟩ := Except.bind_eq_ok.1 h
    obtain ⟨children, hc, h⟩ := Except.bind_eq_ok.1 h
    cases h
    exact .group hk hs (ih specs children hc)
  case nil =>
    intro fuel position as h
    rw [Actor.childrenWithin] at h
    cases h
    exact .nil
  case cons =>
    intro fuel position s rest ih₁ ih₂ as h
    rw [Actor.childrenWithin] at h
    obtain ⟨c, hc, h⟩ := Except.bind_eq_ok.1 h
    obtain ⟨more, hmore, h⟩ := Except.bind_eq_ok.1 h
    cases h
    exact .cons (ih₁ c (Except.mapError_eq_ok.1 hc)) (ih₂ more hmore)
  all_goals
    intro fuel spec hk a h
    obtain ⟨hi, hl⟩ := Actor.buildWithin_leaf_identity hk (by decide) h
    exact .leaf hk (by decide) hi hl

theorem FailAlike.ok_iff {ε α α' : Type} {x : Except ε α} {y : Except ε α'} (h : FailAlike x y) :
    (∃ a, x = .ok a) ↔ ∃ a', y = .ok a' := by
  cases hx : x with
  | error e => simp [(h e).1 hx]
  | ok a =>
    cases hy : y with
    | error e => exact absurd ((h e).2 hy) (by simp [hx])
    | ok a' => simp

/-- **Assembly mirrors the script, and the dry-run flag only labels what it builds.** A tree
built from a specification mirrors it: a `group.Sync` becomes a group run in sequence and a
`group.Async` one run side by side, each with the actors built from its acts as children, in
order, and every actor carries the label and kind of its specification and the run's flag.
Building fails with the same fault whatever the flag, and succeeds for one flag exactly when it
does for the other; so checking a script, which builds it for a dry run, accepts exactly the
scripts that running builds, dry or not. -/
theorem build_mirrors_script (b : Backends) (spec : Spec) (dryRun : Bool) :
    (∀ a, Actor.build b spec dryRun = .ok a → Mirrors b dryRun spec a) ∧
    (∀ e, Actor.build b spec true = .error e ↔ Actor.build b spec false = .error e) ∧
    ((∃ a, Actor.build b spec true = .ok a) ↔ ∃ a, Actor.build b spec false = .ok a) ∧
    ∀ path, (∃ a, Session.build b path spec true = .ok a) ↔
      ∃ a, Session.build b path spec dryRun = .ok a := by
  have hflag : ∀ d₁ d₂, FailAlike (Actor.build b spec d₁) (Actor.build b spec d₂) :=
    fun d₁ d₂ => Actor.buildWithin_failAlike d₁ d₂ _ spec
  refine ⟨fun a h => Actor.buildWithin_mirrors h, hflag true false, (hflag true false).ok_iff,
    fun path => ?_⟩
  -- a session builds the script as assembly does, and reports its fault
  have hsession : ∀ d, (∃ a, Session.build b path spec d = .ok a) ↔ ∃ a, Actor.build b spec d = .ok a := by
    intro d
    unfold Session.build
    split <;> simp_all
  rw [hsession, hsession]
  exact (hflag true dryRun).ok_iff

open Json in
/-- A sequence with one note, built for a dry run, is a group run in sequence with the note as
its child, both labelled as their specifications and dry. -/
theorem sync_note_mirrors :
    Actor.build {}
        { desc := "deploy", actor := "group.Sync",
          options := [("acts", .array [.object [("actor", .string "misc.Note"),
            ("desc", .string "hello"), ("options", .object [("message", .string "hi")])]])] } true =
      .ok (.group ⟨"deploy", "group.Sync", true⟩ .sequential [.note ⟨"hello", "misc.Note", true⟩ "hi"]) ∧
    Mirrors {} true
      { desc := "deploy", actor := "group.Sync",
        options := [("acts", .array [.object [("actor", .string "misc.Note"),
          ("desc", .string "hello"), ("options", .object [("message", .string "hi")])]])] }
      (.group ⟨"deploy", "group.Sync", true⟩ .sequential [.note ⟨"hello", "misc.Note", true⟩ "hi"]) := by
  have hbuild : Actor.build {}
        { desc := "deploy", actor := "group.Sync",
          options := [("acts", .array [.object [("actor", .string "misc.Note"),
            ("desc", .string "hello"), ("options", .object [("message", .string "hi")])]])] } true =
      .ok (.group ⟨"deploy", "group.Sync", true⟩ .sequential [.note ⟨"hello", "misc.Note", true⟩ "hi"]) := by
    have hsync : Registry.builtin.find? "group.Sync" = some .sync := rfl
    have hnote : Registry.builtin.find? "misc.Note" = some .note := rfl
    unfold Actor.build Actor.buildWithin
    rw [hsync]
    simp only [Actor.groupWithin, Assembly.depth, Assembly.depthFields, Assembly.depthItems]
    -- the options decode by their shapes, field by field, and the child is built as a note
    simp +decide [Actor.childrenWithin, Actor.buildWithin, Assembly.children, Assembly.groupShape,
      Spec.parseOptions, Spec.shape, Spec.ofRecord, Assembly.note, Assembly.noteShape, Shape.decode,
      Shape.decodeFields, Shape.decodeItems, Shape.decodeEntries, Shape.completeRecord, Shape.string,
      Field.lookup, Field.req, Field.names, Field.shape, Field.name, Keyed.insert, Keyed.get?,
      Value.get?, Value.fields?, Value.str?, Assembly.text, Assembly.identity, bind, Except.bind,
      Except.map, pure, Except.pure, hnote, Except.mapError]
  exact ⟨hbuild, (build_mirrors_script _ _ _).1 _ hbuild⟩

end Rollout

import Mathlib
import Rollout.Assembly
import Rollout.Proofs.Invariant
import Rollout.Proofs.Naturality
/-!
# A dry run writes nothing

A tree built for a dry run is dry through and through (`Actor.Dry`): the flag reaches every actor
of it through the building of its groups. Run, such a tree changes the world only as reading the
backends does (a journal line, a counted call to find a load balancer or describe its instances'
health, a counted listing), so every invariant of the world that those reads keep holds wherever
the run stops, whatever cancels or interrupts it and whatever changes the world from outside in a
way that keeps the invariant.

Two invariants give what a dry run leaves alone:

* `World.writes`: the registrations and deregistrations asked of the load balancer service, and
  the versions deleted from the repositories in memory. Changes from outside (setting an
  instance's state, uploading a version) keep them too.
* `World.contents`: the inventory of the load balancer service and the versions the repositories
  in memory hold.

Main statements:

* `Actor.build_dry`: a tree built for a dry run is dry;
* `dry_run_writes_nothing`: **a tree built for a dry run, run on any world with any
  cancellation, changes the world only as reads do**: it asks for no registration,
  deregistration or deletion, and leaves the inventory and the repositories as they were.
-/

namespace Rollout

open Json

/-! ### Building for a dry run -/

/-- A sequenced computation succeeds exactly when each step succeeds in turn. -/
theorem Except.bind_eq_ok {ε α β : Type} {x : Except ε α} {f : α → Except ε β} {b : β} :
    x >>= f = .ok b ↔ ∃ a, x = .ok a ∧ f a = .ok b := by
  cases x <;> simp [bind, Except.bind]

theorem Except.mapError_eq_ok {ε ε' α : Type} {x : Except ε α} {f : ε → ε'} {a : α} :
    x.mapError f = .ok a ↔ x = .ok a := by
  cases x <;> simp [Except.mapError]

theorem Actor.Dry.of_leaf {a : Actor} (hi : a.identity.dryRun = true) (hc : a.children = []) :
    a.Dry :=
  .mk hi (by simp [hc])

variable {b : Backends} {dryRun : Bool}

/-- An actor built from a specification of a kind that is not a group carries the run's flag
and has no children. -/
theorem Actor.buildWithin_leaf {fuel : Nat} {spec : Spec} {kind : ActorKind} {a : Actor}
    (hk : b.registry.find? spec.actor = some kind) (hg : kind ≠ .sync ∧ kind ≠ .async)
    (h : Actor.buildWithin b dryRun fuel spec = .ok a) :
    a.identity.dryRun = dryRun ∧ a.children = [] := by
  unfold Actor.buildWithin at h
  rw [hk] at h
  cases kind
  case sync | async => simp at hg
  -- each builder reads its options and ends with its actor under the specification's identity
  all_goals
    simp only [Assembly.note, Assembly.sleep, Assembly.waitHealthy, Assembly.membership,
      Assembly.prune, Assembly.waitForPackage, Assembly.step, bind, Except.bind, pure,
      Except.pure] at h
    repeat' split at h
    all_goals cases h
    all_goals exact ⟨rfl, rfl⟩

/-- **A tree built for a dry run is dry**: the flag reaches every actor of it, through the
children of each group. -/
theorem Actor.buildWithin_dry {fuel : Nat} {spec : Spec} {a : Actor}
    (h : Actor.buildWithin b true fuel spec = .ok a) : a.Dry := by
  -- one motive for each of the three functions that build a tree
  refine Actor.buildWithin.induct b
    (fun fuel spec => ∀ a, Actor.buildWithin b true fuel spec = .ok a → a.Dry)
    (fun fuel mode spec => ∀ a, Actor.groupWithin b true fuel mode spec = .ok a → a.Dry)
    (fun fuel position specs => ∀ as, Actor.childrenWithin b true fuel position specs = .ok as →
      ∀ c ∈ as, c.Dry)
    ?unknown ?sync ?async ?_ ?_ ?_ ?_ ?_ ?_ ?_ ?_ ?_ ?deep ?group ?nil ?cons fuel spec a h
  case unknown =>
    intro fuel spec hk a h
    unfold Actor.buildWithin at h
    rw [hk] at h
    cases h
  case sync | async =>
    intro fuel spec hk ih a h
    unfold Actor.buildWithin at h
    rw [hk] at h
    exact ih a h
  case deep =>
    intro mode spec a h
    unfold Actor.groupWithin at h
    cases h
  case group =>
    intro mode spec fuel ih a h
    unfold Actor.groupWithin at h
    obtain ⟨specs, -, h⟩ := Except.bind_eq_ok.1 h
    obtain ⟨children, hc, h⟩ := Except.bind_eq_ok.1 h
    cases h
    exact .mk rfl (ih specs children hc)
  case nil =>
    intro fuel position as h
    unfold Actor.childrenWithin at h
    cases h
    simp
  case cons =>
    intro fuel position s rest ih₁ ih₂ as h
    unfold Actor.childrenWithin at h
    obtain ⟨c, hc, h⟩ := Except.bind_eq_ok.1 h
    obtain ⟨more, hmore, h⟩ := Except.bind_eq_ok.1 h
    cases h
    intro d hd
    rcases List.mem_cons.1 hd with rfl | hd
    · exact ih₁ d (Except.mapError_eq_ok.1 hc)
    · exact ih₂ more hmore d hd
  all_goals
    intro fuel spec hk a h
    have ⟨hi, hc⟩ := Actor.buildWithin_leaf hk (by decide) h
    exact .of_leaf hi hc

theorem Actor.build_dry {spec : Spec} {a : Actor} (h : Actor.build b spec true = .ok a) : a.Dry :=
  Actor.buildWithin_dry h

/-! ### What reading the backends leaves alone -/

namespace Balancer.Service

/-- The calls of a method made so far. -/
def callsOf (s : Service) (m : Method) : Nat := (Keyed.get? m.name s.calls).getD 0

/-- The registrations and deregistrations asked of the service so far. -/
def writes (s : Service) : Nat × Nat := (s.callsOf .registerInstances, s.callsOf .deregisterInstances)

theorem callsOf_call_ne {α : Type} (s : Service) {m m' : Method} (h : m' ≠ m)
    (run : Inventory → Except Fault (α × Inventory)) : (s.call m run).1.callsOf m' = s.callsOf m' := by
  have hn : m'.name ≠ m.name := by cases m <;> cases m' <;> simp_all [Method.name]
  unfold call callsOf
  dsimp only
  split
  · simp [bump, Keyed.get?_insert_ne hn]
  · split <;> simp [bump, Keyed.get?_insert_ne hn]

/-- A call that leaves the inventory as it read it leaves the inventory alone. -/
theorem call_inventory {α : Type} (s : Service) (m : Method)
    {run : Inventory → Except Fault (α × Inventory)}
    (hrun : ∀ inv a inv', run inv = .ok (a, inv') → inv' = inv) :
    (s.call m run).1.inventory = s.inventory := by
  unfold call
  dsimp only
  split
  · rfl
  · split
    · rename_i h
      exact hrun _ _ _ h
    · rfl

theorem find_writes (s : Service) (region name : String) : (s.find region name).1.writes = s.writes := by
  simp [writes, find, callsOf_call_ne]

theorem health_writes (s : Service) (region name : String) :
    (s.health region name).1.writes = s.writes := by
  simp [writes, health, callsOf_call_ne]

theorem find_inventory (s : Service) (region name : String) :
    (s.find region name).1.inventory = s.inventory :=
  call_inventory s _ fun inv a inv' h => by
    cases hf : inv.find region name <;> simp_all [Except.map]

theorem health_inventory (s : Service) (region name : String) :
    (s.health region name).1.inventory = s.inventory :=
  call_inventory s _ fun inv a inv' h => by
    cases hf : inv.health region name <;> simp_all [Except.map]

end Balancer.Service

namespace Repository

/-- The versions deleted so far from repositories in memory. -/
def deleted? : Repository → Option (Array String)
  | .memory store => some store.deleted
  | .unreachable _ => none

/-- The versions repositories in memory hold. -/
def repos? : Repository → Option (List (String × List Package))
  | .memory store => some store.repos
  | .unreachable _ => none

end Repository

@[simp] theorem Store.list_deleted (store : Store) (repo : String) :
    (store.list repo).1.deleted = store.deleted := by
  unfold Store.list
  dsimp only
  split
  · rfl
  · split <;> rfl

@[simp] theorem Store.list_repos (store : Store) (repo : String) :
    (store.list repo).1.repos = store.repos := by
  unfold Store.list
  dsimp only
  split
  · rfl
  · split <;> rfl

namespace World

/-- What only writing to the backends changes: the registrations and deregistrations asked of
the load balancer service, and the versions deleted from the repositories in memory. -/
def writes (w : World) : Option (Nat × Nat) × Option (Array String) :=
  (w.balancers.map Balancer.Service.writes, w.repository.deleted?)

/-- What the backends hold: the inventory of the load balancer service, and the versions of the
repositories in memory. -/
def contents (w : World) : Option Balancer.Inventory × Option (List (String × List Package)) :=
  (w.balancers.map (·.inventory), w.repository.repos?)

theorem ReadsKeep.and {I J : World → Prop} (hI : ReadsKeep I) (hJ : ReadsKeep J) :
    ReadsKeep fun w => I w ∧ J w where
  addLine w t line h := ⟨hI.addLine w t line h.1, hJ.addLine w t line h.2⟩
  find w s region name h hs w' h' :=
    ⟨hI.find w s region name h.1 hs w' h'.1, hJ.find w s region name h.2 hs w' h'.2⟩
  health w s region name h hs w' h' :=
    ⟨hI.health w s region name h.1 hs w' h'.1, hJ.health w s region name h.2 hs w' h'.2⟩
  list w store repo h hs w' h' :=
    ⟨hI.list w store repo h.1 hs w' h'.1, hJ.list w store repo h.2 hs w' h'.2⟩

variable (w₀ : World)

/-- Reading the backends asks for no registration, deregistration or deletion. -/
theorem readsKeep_writes : ReadsKeep fun w => w.writes = w₀.writes where
  addLine _ _ _ h := h
  find w s region name h hs w' h' := by
    simp only [writes, hs, Option.map_some, Prod.mk.injEq] at h h' ⊢
    simp [Balancer.Service.find_writes, h.1, h'.2]
  health w s region name h hs w' h' := by
    simp only [writes, hs, Option.map_some, Prod.mk.injEq] at h h' ⊢
    simp [Balancer.Service.health_writes, h.1, h'.2]
  list w store repo h hs w' h' := by
    simp only [writes, hs, Repository.deleted?, Prod.mk.injEq] at h h' ⊢
    simp [h.2, h'.1]

/-- Reading the backends leaves the inventory and the repositories as they are. -/
theorem readsKeep_contents : ReadsKeep fun w => w.contents = w₀.contents where
  addLine _ _ _ h := h
  find w s region name h hs w' h' := by
    simp only [contents, hs, Option.map_some, Prod.mk.injEq] at h h' ⊢
    simp [Balancer.Service.find_inventory, h.1, h'.2]
  health w s region name h hs w' h' := by
    simp only [contents, hs, Option.map_some, Prod.mk.injEq] at h h' ⊢
    simp [Balancer.Service.health_inventory, h.1, h'.2]
  list w store repo h hs w' h' := by
    simp only [contents, hs, Repository.repos?, Prod.mk.injEq] at h h' ⊢
    simp [h.2, h'.1]

/-- The happenings a run may meet from outside: cancellation, an interrupt, the state of an
instance set, a version uploaded. -/
inductive Outside : Happening World → Prop
  | cancel : Outside .cancel
  | interrupt : Outside .interrupt
  | setState (region name id state : String) : Outside (.change (setInstanceState region name id state))
  | upload (repo : String) (p : Package) : Outside (.change (addPackage repo p))

/-- Nothing that happens from outside asks for a registration, a deregistration or a deletion. -/
theorem Outside.keeps_writes {h : Happening World} (ho : Outside h) :
    h.Keeps fun w => w.writes = w₀.writes := by
  cases ho with
  | cancel | interrupt => trivial
  | setState region name id state =>
    intro w hw
    unfold setInstanceState
    split
    · exact hw
    · rename_i s hs
      split
      · simpa [writes, hs, Balancer.Service.writes, Balancer.Service.callsOf] using hw
      · exact hw
  | upload repo p =>
    intro w hw
    unfold addPackage
    split
    · rename_i store hs
      have hadd : (store.add repo p).deleted = store.deleted := by
        unfold Store.add
        split <;> rfl
      simpa [writes, hs, Repository.deleted?, hadd] using hw
    · exact hw

end World

/-! ### A dry run -/

/-- **A tree built for a dry run changes the world only as reading the backends does.** Run on
any world, with any cancellation, every invariant of the world that reads keep, and that the
happenings keep, holds wherever the run stops. So, whatever is done from outside, it asks for no
registration, deregistration or deletion; and when nothing but cancellation happens, the
inventory and the repositories are what they were. -/
theorem dry_run_writes_nothing {spec : Spec} {a : Actor} (hbuild : Actor.build b spec true = .ok a)
    (m : Machine World) (hs : List (Nat × Happening World)) :
    (∀ I : World → Prop, World.ReadsKeep I → I m.world → (∀ x ∈ hs, x.2.Keeps I) →
      I ((Exec.program (runTree (τ := RunReport) a)).run m hs).1.world) ∧
    ((∀ x ∈ hs, World.Outside x.2) →
      ((Exec.program (runTree (τ := RunReport) a)).run m hs).1.world.writes = m.world.writes) ∧
    ((∀ x ∈ hs, x.2 = .cancel ∨ x.2 = .interrupt) →
      ((Exec.program (runTree (τ := RunReport) a)).run m hs).1.world.contents =
        m.world.contents) := by
  have hframe : ∀ I : World → Prop, World.ReadsKeep I → I m.world → (∀ x ∈ hs, x.2.Keeps I) →
      I ((Exec.program (runTree (τ := RunReport) a)).run m hs).1.world := by
    intro I hr hw hh
    have hkeeps := (natural_runTree (τ := RunReport) hr a (.inl (Actor.build_dry hbuild))).keeps []
      (k := Program.finish) fun r => .finish r
    exact Program.run_keeps hkeeps hw hh
  refine ⟨hframe, fun ho => ?_, fun hc => ?_⟩
  · exact hframe _ (World.readsKeep_writes m.world) rfl fun x hx => (ho x hx).keeps_writes _
  · refine hframe _ (World.readsKeep_contents m.world) rfl fun x hx => ?_
    rcases hc x hx with h | h <;> rw [h] <;> trivial

/-- A deregistration built for a dry run, cancelled at the start, asks for no deregistration and
leaves the inventory as it was. -/
theorem dry_deregistration_writes_nothing :
    Actor.build
        { settings := { aws := { accessKeyId := some "key", secretAccessKey := some "secret" } },
          balancers := true }
      { desc := "drain", actor := "aws.elb.DeregisterInstance",
        options := [("elb", .string "web"), ("region", .string "us-east-1"),
          ("instance_id", .string "i-1")] } true =
      .ok (.membership ⟨"drain", "aws.elb.DeregisterInstance", true⟩ .deregister "us-east-1" "web"
        ["i-1"] RetryPolicy.standard) ∧
    ((Exec.program (runTree (τ := RunReport) (.membership ⟨"drain", "aws.elb.DeregisterInstance", true⟩
        .deregister "us-east-1" "web" ["i-1"] RetryPolicy.standard))).run
        { world := { balancers := some { inventory := default } } } [(0, .cancel)]).1.world.contents =
      ({ balancers := some { inventory := default } } : World).contents := by
  have hbuild : Actor.build
        { settings := { aws := { accessKeyId := some "key", secretAccessKey := some "secret" } },
          balancers := true }
      { desc := "drain", actor := "aws.elb.DeregisterInstance",
        options := [("elb", .string "web"), ("region", .string "us-east-1"),
          ("instance_id", .string "i-1")] } true =
      .ok (.membership ⟨"drain", "aws.elb.DeregisterInstance", true⟩ .deregister "us-east-1" "web"
        ["i-1"] RetryPolicy.standard) := by
    unfold Actor.build Actor.buildWithin
    rw [show Registry.builtin.find? "aws.elb.DeregisterInstance" = some .deregister from rfl]
    -- the options decode by their shape, field by field
    simp +decide [Assembly.membership, Spec.parseOptions, Assembly.membershipShape,
      Assembly.idsShape, Shape.decode, Shape.decodeFields, Shape.decodeFirst, Shape.completeRecord,
      Shape.absentValue, Shape.string, Field.lookup, Field.req, Field.names, Field.shape, Field.name,
      Keyed.contains, Keyed.insert, Keyed.get?]
    rfl
  exact ⟨hbuild, (dry_run_writes_nothing hbuild _ _).2.2 fun x hx => by simp_all⟩

end Rollout

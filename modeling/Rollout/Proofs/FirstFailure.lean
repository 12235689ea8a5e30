import Mathlib
import Rollout.Proofs.Nesting
import Rollout.Proofs.Assembled
/-!
# Assembly checks a tree in pre-order and stops at the first failure

Building a tree does two kinds of work at each node: the node's own check (`Spec.check`: its kind
is registered; a group's options list its children's specifications; any other node passes its
builder), and then, for a group, building each child in turn. `Spec.nodes` lists the nodes that
building can reach, in pre-order, each with its path of positions and labels from the root; a
node whose check fails hides its subtree.

The main result, `build_stops_at_first_failure`: building succeeds exactly when every node passes
its own check, and otherwise fails with the fault of the first failing node in pre-order, wrapped
once for each step of its path; the builders that run are those of the nodes before it, then its
own. It rests on one induction along the traversal (`Spec.buildWithin_nodes`), which needs the
nesting bound of `Actor.build` never to be reached: children's options nest less deeply than
their group's (`Assembly.depth_lt_of_mem_children`).
-/

namespace Rollout

open Json

/-- The way from the root of a tree down to one of its nodes: for each step, the position of the
child among its siblings, counted from one, and its label. -/
abbrev Path := List (Nat × String)

/-- A fault raised at the end of a path, wrapped once for each step of it, outermost first. -/
def Fault.within : Path → Fault → Fault
  | [], e => e
  | (p, d) :: rest, e => .child p d (Fault.within rest e)

/-- Wrapping a fault along a path keeps its kind. -/
@[simp] theorem Fault.kind_within (path : Path) (e : Fault) : (Fault.within path e).kind = e.kind := by
  induction path with
  | nil => rfl
  | cons step rest ih =>
    obtain ⟨p, d⟩ := step
    rw [Fault.within, Fault.kind_child, ih]

variable {b : Backends} {dryRun : Bool}

/-- A node's own check, the part of building that is its own and not its children's: its kind
must be registered; a group's options must list its children's specifications; a node of any
other kind must pass its builder. A passing check gives the node's children. -/
def Spec.check (b : Backends) (dryRun : Bool) (spec : Spec) : Except Fault (List Spec) :=
  match b.registry.find? spec.actor with
  | none => throw (.unknownActor spec.actor)
  | some kind =>
    match kind with
    | .sync | .async => Assembly.children spec
    -- the builders of other kinds never read the nesting bound
    | _ => (Actor.buildWithin b dryRun 0 spec).map fun _ => []

/-- Whether a node passes its own check. -/
def Spec.Passes (b : Backends) (dryRun : Bool) (spec : Spec) : Prop :=
  ∃ acts, spec.check b dryRun = .ok acts

/-- The builders of kinds other than groups never read the nesting bound. -/
theorem Actor.buildWithin_leaf_fuel {spec : Spec} {kind : ActorKind}
    (hk : b.registry.find? spec.actor = some kind) (hg : kind ≠ .sync ∧ kind ≠ .async)
    (fuel fuel' : Nat) :
    Actor.buildWithin b dryRun fuel spec = Actor.buildWithin b dryRun fuel' spec := by
  rw [Actor.buildWithin, Actor.buildWithin, hk]
  cases kind
  case sync | async => simp at hg
  all_goals rfl

/-- What a node's own check can do: refuse an unregistered kind; list a group's children; or run
the builder of another kind, which lists no children. -/
theorem Spec.check_cases (spec : Spec) :
    (b.registry.find? spec.actor = none ∧
      spec.check b dryRun = .error (.unknownActor spec.actor)) ∨
    (∃ kind, b.registry.find? spec.actor = some kind ∧ (kind = .sync ∨ kind = .async) ∧
      spec.check b dryRun = Assembly.children spec) ∨
    (∃ kind, b.registry.find? spec.actor = some kind ∧ (kind ≠ .sync ∧ kind ≠ .async) ∧
      spec.check b dryRun = (Actor.buildWithin b dryRun 0 spec).map fun _ => []) := by
  unfold Spec.check
  cases hk : b.registry.find? spec.actor with
  | none => exact .inl ⟨rfl, rfl⟩
  | some kind =>
    cases kind
    case sync => exact .inr (.inl ⟨_, rfl, .inl rfl, rfl⟩)
    case async => exact .inr (.inl ⟨_, rfl, .inr rfl, rfl⟩)
    all_goals exact .inr (.inr ⟨_, rfl, ⟨by decide, by decide⟩, rfl⟩)

/-- The children a node's check lists have options nesting less deeply than the node's. -/
theorem Spec.depth_lt_of_check {spec : Spec} {acts : List Spec}
    (h : spec.check b dryRun = .ok acts) {s : Spec} (hs : s ∈ acts) :
    Assembly.depth (.object s.options) < Assembly.depth (.object spec.options) := by
  rcases @Spec.check_cases b dryRun spec with
    ⟨-, hc⟩ | ⟨_, -, -, hc⟩ | ⟨_, -, -, hc⟩ <;> rw [hc] at h
  · cases h
  · exact Assembly.depth_lt_of_mem_children h hs
  · -- a builder other than a group's lists no children
    cases hl : Actor.buildWithin b dryRun 0 spec <;> rw [hl] at h <;> cases h
    cases hs

mutual

/-- The nodes of the tree a specification describes, in pre-order, each with its path from the
root: the node itself, then, when its own check passes, the nodes under each child it lists. -/
def Spec.nodes (b : Backends) (dryRun : Bool) (spec : Spec) : List (Path × Spec) :=
  ([], spec) :: match h : spec.check b dryRun with
    | .ok acts => Spec.nodesUnder b dryRun (Assembly.depth (.object spec.options)) 1 acts
        fun _ hs => Spec.depth_lt_of_check h hs
    | .error _ => []
termination_by (Assembly.depth (.object spec.options) + 1, 0)

/-- The nodes under consecutive children, numbered from `position`, each child's options nesting
less deeply than `bound`. -/
def Spec.nodesUnder (b : Backends) (dryRun : Bool) (bound position : Nat) (acts : List Spec)
    (h : ∀ s ∈ acts, Assembly.depth (.object s.options) < bound) : List (Path × Spec) :=
  match acts, h with
  | [], _ => []
  | s :: rest, h =>
    (Spec.nodes b dryRun s).map (fun n => ((position, s.desc) :: n.1, n.2)) ++
      Spec.nodesUnder b dryRun bound (position + 1) rest fun t ht => h t (List.mem_cons_of_mem _ ht)
termination_by (bound, acts.length + 1)
decreasing_by
  · rcases Nat.lt_or_eq_of_le (h s List.mem_cons_self) with hlt | heq
    · exact Prod.Lex.left _ _ hlt
    · subst heq
      exact Prod.Lex.right _ (Nat.succ_pos _)
  · exact Prod.Lex.right _ (by simp)

end

theorem Spec.nodes_of_check_ok {spec : Spec} {acts : List Spec} (h : spec.check b dryRun = .ok acts) :
    Spec.nodes b dryRun spec = ([], spec) :: Spec.nodesUnder b dryRun
      (Assembly.depth (.object spec.options)) 1 acts (fun _ hs => Spec.depth_lt_of_check h hs) := by
  rw [Spec.nodes]
  split
  · rename_i acts' h'
    cases h.symm.trans h'
    rfl
  · rename_i h'
    cases h.symm.trans h'

theorem Spec.nodes_of_check_error {spec : Spec} {e : Fault} (h : spec.check b dryRun = .error e) :
    Spec.nodes b dryRun spec = [([], spec)] := by
  rw [Spec.nodes]
  split
  · rename_i h'
    cases h.symm.trans h'
  · rfl

/-! ### One node at a time -/

section Step

variable {fuel : Nat} {spec : Spec}

/-- Building a node whose own check fails fails with that fault, before any child is built. -/
theorem Actor.buildWithin_of_check_error {e : Fault} (h : spec.check b dryRun = .error e) :
    Actor.buildWithin b dryRun (fuel + 1) spec = .error e := by
  rcases @Spec.check_cases b dryRun spec with
    ⟨hk, hc⟩ | ⟨kind, hk, hg, hc⟩ | ⟨kind, hk, hg, hc⟩ <;> rw [hc] at h
  · cases h
    rw [Actor.buildWithin, hk]
    rfl
  · rcases hg with rfl | rfl <;> rw [Actor.buildWithin, hk] <;> simp only [Actor.groupWithin, h] <;> rfl
  · rw [Actor.buildWithin_leaf_fuel hk hg (fuel + 1) 0]
    cases hl : Actor.buildWithin b dryRun 0 spec <;> rw [hl] at h <;> cases h
    rfl

/-- Building a node whose own check passes fails exactly as building the children it lists does. -/
theorem Actor.buildWithin_of_check_ok {acts : List Spec} (h : spec.check b dryRun = .ok acts) :
    FailAlike (Actor.buildWithin b dryRun (fuel + 1) spec) (Actor.childrenWithin b dryRun fuel 1 acts) := by
  rcases @Spec.check_cases b dryRun spec with
    ⟨hk, hc⟩ | ⟨kind, hk, hg, hc⟩ | ⟨kind, hk, hg, hc⟩ <;> rw [hc] at h
  · cases h
  · -- a group ends with its children, or with the first of their faults
    intro e
    rcases hg with rfl | rfl <;> rw [Actor.buildWithin, hk] <;>
      simp only [Actor.groupWithin, h, bind, Except.bind] <;>
      cases Actor.childrenWithin b dryRun fuel 1 acts <;> simp [pure, Except.pure]
  · rw [Actor.buildWithin_leaf_fuel hk hg (fuel + 1) 0]
    cases hl : Actor.buildWithin b dryRun 0 spec <;> rw [hl] at h <;> cases h
    rw [Actor.childrenWithin]
    exact FailAlike.pure _ _

/-- The builders that run for a node: its own, when its kind is registered, then, when its check
passes, those for the children it lists. -/
theorem Actor.startedWithin_check :
    Actor.startedWithin b dryRun (fuel + 1) spec =
      (if b.registry.has spec.actor then [spec] else []) ++
        match spec.check b dryRun with
        | .ok acts => Actor.childrenStarted b dryRun fuel acts
        | .error _ => [] := by
  rcases @Spec.check_cases b dryRun spec with
    ⟨hk, hc⟩ | ⟨kind, hk, hg, hc⟩ | ⟨kind, hk, hg, hc⟩ <;>
    rw [Actor.startedWithin, hk, hc] <;> simp only [Registry.has, hk, Option.isSome]
  · rfl
  · rcases hg with rfl | rfl <;> simp only [Actor.groupStarted] <;>
      cases Assembly.children spec <;> rfl
  · -- no builder but a group's starts another
    cases kind
    case sync | async => simp at hg
    all_goals cases Actor.buildWithin b dryRun 0 spec <;> simp [Except.map, Actor.childrenStarted]

end Step

/-! ### Checking nodes in order -/

/-- The fault of a node's own check, wrapped along the node's path. -/
def Spec.nodeFault (b : Backends) (dryRun : Bool) (n : Path × Spec) : Option Fault :=
  match n.2.check b dryRun with
  | .ok _ => none
  | .error e => some (Fault.within n.1 e)

/-- The fault of the first node, in the order given, whose own check fails. -/
def Spec.firstFault (b : Backends) (dryRun : Bool) (nodes : List (Path × Spec)) : Option Fault :=
  nodes.findSome? (Spec.nodeFault b dryRun)

/-- The specifications whose builders run when nodes are checked in order, up to the first whose
check fails: each one of a registered kind. -/
def Spec.invoked (b : Backends) (dryRun : Bool) : List (Path × Spec) → List Spec
  | [] => []
  | n :: rest =>
    (if b.registry.has n.2.actor then [n.2] else []) ++
      match n.2.check b dryRun with
      | .ok _ => Spec.invoked b dryRun rest
      | .error _ => []

section Order

variable {path : Path} {s : Spec} {rest : List (Path × Spec)}

theorem Spec.nodeFault_eq_none {n : Path × Spec} : Spec.nodeFault b dryRun n = none ↔ n.2.Passes b dryRun := by
  unfold Spec.nodeFault Spec.Passes
  cases n.2.check b dryRun <;> simp

theorem Spec.nodeFault_eq_some {n : Path × Spec} {e : Fault} :
    Spec.nodeFault b dryRun n = some e ↔ ∃ e₀, n.2.check b dryRun = .error e₀ ∧ e = Fault.within n.1 e₀ := by
  unfold Spec.nodeFault
  cases n.2.check b dryRun <;> simp [eq_comm]

theorem Spec.firstFault_cons_ok {acts : List Spec} (h : s.check b dryRun = .ok acts) :
    Spec.firstFault b dryRun ((path, s) :: rest) = Spec.firstFault b dryRun rest := by
  simp [Spec.firstFault, Spec.nodeFault, h]

theorem Spec.firstFault_cons_error {e : Fault} (h : s.check b dryRun = .error e) :
    Spec.firstFault b dryRun ((path, s) :: rest) = some (Fault.within path e) := by
  simp [Spec.firstFault, Spec.nodeFault, h]

/-- No fault is found exactly when every node passes its own check. -/
theorem Spec.firstFault_eq_none {nodes : List (Path × Spec)} :
    Spec.firstFault b dryRun nodes = none ↔ ∀ n ∈ nodes, n.2.Passes b dryRun := by
  simp only [Spec.firstFault, List.findSome?_eq_none_iff, Spec.nodeFault_eq_none]

/-- The fault found is that of a node whose check fails after nodes that all pass, wrapped along
its path. -/
theorem Spec.firstFault_eq_some {nodes : List (Path × Spec)} {e : Fault} :
    Spec.firstFault b dryRun nodes = some e ↔
      ∃ pre path s e₀ post, nodes = pre ++ (path, s) :: post ∧ (∀ n ∈ pre, n.2.Passes b dryRun) ∧
        s.check b dryRun = .error e₀ ∧ e = Fault.within path e₀ := by
  simp only [Spec.firstFault, List.findSome?_eq_some_iff, Spec.nodeFault_eq_none, Spec.nodeFault_eq_some]
  constructor
  · rintro ⟨pre, ⟨path, s⟩, post, rfl, ⟨e₀, hc, rfl⟩, hpre⟩
    exact ⟨pre, path, s, e₀, post, rfl, hpre, hc, rfl⟩
  · rintro ⟨pre, path, s, e₀, post, rfl, hpre, hc, rfl⟩
    exact ⟨pre, (path, s), post, rfl, ⟨e₀, hc, rfl⟩, hpre⟩

theorem Spec.firstFault_append (xs ys : List (Path × Spec)) :
    Spec.firstFault b dryRun (xs ++ ys) =
      (Spec.firstFault b dryRun xs).or (Spec.firstFault b dryRun ys) :=
  List.findSome?_append

/-- Below a child, the first fault is the child's first fault, wrapped with its position and
label. -/
theorem Spec.firstFault_under (p : Nat) (d : String) (xs : List (Path × Spec)) :
    Spec.firstFault b dryRun (xs.map fun n => ((p, d) :: n.1, n.2)) =
      (Spec.firstFault b dryRun xs).map (.child p d) := by
  induction xs with
  | nil => rfl
  | cons n rest ih =>
    obtain ⟨path, s⟩ := n
    cases hc : s.check b dryRun with
    | ok acts => simp only [List.map_cons, Spec.firstFault_cons_ok hc, ih]
    | error e => simp only [List.map_cons, Spec.firstFault_cons_error hc, Fault.within, Option.map_some]

/-- Checking a list in two parts: the builders of the second part run only when every check of
the first passes. -/
theorem Spec.invoked_append (xs ys : List (Path × Spec)) :
    Spec.invoked b dryRun (xs ++ ys) =
      Spec.invoked b dryRun xs ++
        match Spec.firstFault b dryRun xs with
        | none => Spec.invoked b dryRun ys
        | some _ => [] := by
  induction xs with
  | nil => simp [Spec.invoked, Spec.firstFault]
  | cons n rest ih =>
    obtain ⟨path, s⟩ := n
    cases hc : s.check b dryRun with
    | ok acts => simp [Spec.invoked, hc, ih, Spec.firstFault_cons_ok hc]
    | error e => simp [Spec.invoked, hc, Spec.firstFault_cons_error hc]

/-- A node that passes its own check is of a registered kind. -/
theorem Spec.Passes.registered {spec : Spec} (h : spec.Passes b dryRun) : b.registry.has spec.actor := by
  obtain ⟨acts, h⟩ := h
  rcases @Spec.check_cases b dryRun spec with
    ⟨-, hc⟩ | ⟨kind, hk, -⟩ | ⟨kind, hk, -⟩
  · rw [hc] at h
    cases h
  all_goals simp [Registry.has, hk]

/-- When every node passes, the builder of each one runs. -/
theorem Spec.invoked_of_passes {nodes : List (Path × Spec)} (h : ∀ n ∈ nodes, n.2.Passes b dryRun) :
    Spec.invoked b dryRun nodes = nodes.map Prod.snd := by
  induction nodes with
  | nil => rfl
  | cons n rest ih =>
    obtain ⟨acts, hc⟩ := h n List.mem_cons_self
    have hr := (h n List.mem_cons_self).registered
    simp [Spec.invoked, hc, hr, ih fun m hm => h m (List.mem_cons_of_mem _ hm)]

theorem Spec.invoked_under (p : Nat) (d : String) (xs : List (Path × Spec)) :
    Spec.invoked b dryRun (xs.map fun n => ((p, d) :: n.1, n.2)) = Spec.invoked b dryRun xs := by
  induction xs with
  | nil => rfl
  | cons n rest ih => simp only [List.map_cons, Spec.invoked, ih]

end Order

/-! ### Building is checking in pre-order -/

/-- **Building a tree, given room for its nesting, fails with the first fault of its nodes in
pre-order, and runs the builders of the nodes up to that one.** The induction follows the
traversal: a node, then its children one after another. -/
theorem Spec.buildWithin_nodes (spec : Spec) :
    ∀ fuel, Assembly.depth (.object spec.options) < fuel →
      (∀ e, Actor.buildWithin b dryRun fuel spec = .error e ↔
        Spec.firstFault b dryRun (Spec.nodes b dryRun spec) = some e) ∧
      Actor.startedWithin b dryRun fuel spec = Spec.invoked b dryRun (Spec.nodes b dryRun spec) := by
  -- one motive for a node, one for the children under a node
  refine Spec.nodes.induct b dryRun
    (fun spec => ∀ fuel, Assembly.depth (.object spec.options) < fuel →
      (∀ e, Actor.buildWithin b dryRun fuel spec = .error e ↔
        Spec.firstFault b dryRun (Spec.nodes b dryRun spec) = some e) ∧
      Actor.startedWithin b dryRun fuel spec = Spec.invoked b dryRun (Spec.nodes b dryRun spec))
    (fun bound position acts h => ∀ fuel, bound ≤ fuel →
      (∀ e, Actor.childrenWithin b dryRun fuel position acts = .error e ↔
        Spec.firstFault b dryRun (Spec.nodesUnder b dryRun bound position acts h) = some e) ∧
      Actor.childrenStarted b dryRun fuel acts =
        Spec.invoked b dryRun (Spec.nodesUnder b dryRun bound position acts h))
    ?node ?nil ?cons spec
  case node =>
    intro spec ih fuel hf
    obtain ⟨fuel, rfl⟩ : ∃ f, fuel = f + 1 := ⟨fuel - 1, by omega⟩
    rw [Actor.startedWithin_check]
    cases h : spec.check b dryRun with
    | ok acts =>
      -- the node passes: what happens is what happens to its children
      obtain ⟨ihe, ihs⟩ := ih acts h fuel (by omega)
      rw [Spec.nodes_of_check_ok h]
      refine ⟨fun e => ?_, ?_⟩
      · rw [Actor.buildWithin_of_check_ok h e, Spec.firstFault_cons_ok h, ihe]
      · simp only [Spec.invoked, h, ihs]
    | error e =>
      -- the node fails, and nothing under it is built
      rw [Spec.nodes_of_check_error h]
      refine ⟨fun e' => ?_, ?_⟩
      · rw [Actor.buildWithin_of_check_error h, Spec.firstFault_cons_error h, Fault.within]
        simp
      · simp only [Spec.invoked, h, List.append_nil]
  case nil =>
    intro bound position _ _ fuel _
    refine ⟨fun e => ?_, ?_⟩
    · rw [Actor.childrenWithin, Spec.nodesUnder]
      simp [Spec.firstFault, pure, Except.pure]
    · rw [Actor.childrenStarted, Spec.nodesUnder]
      rfl
  case cons =>
    intro bound position s rest h _ ihs ihr fuel hf
    obtain ⟨hse, hss⟩ := ihs fuel (Nat.lt_of_lt_of_le (h s List.mem_cons_self) hf)
    obtain ⟨hre, hrs⟩ := ihr fuel hf
    rw [Spec.nodesUnder, Actor.childrenWithin, Actor.childrenStarted, Spec.invoked_append,
      Spec.invoked_under, Spec.firstFault_under, ← hss]
    cases hb : Actor.buildWithin b dryRun fuel s with
    | error e₀ =>
      -- the child fails: its fault, wrapped, is the first
      have hf₀ := (hse e₀).1 hb
      refine ⟨fun e => ?_, by simp [hf₀]⟩
      rw [Spec.firstFault_append, Spec.firstFault_under, hf₀]
      simp [Except.mapError, bind, Except.bind, eq_comm]
    | ok a =>
      -- the child passes throughout: what follows is what happens to its siblings
      have hf₀ : Spec.firstFault b dryRun (Spec.nodes b dryRun s) = none := by
        cases hf' : Spec.firstFault b dryRun (Spec.nodes b dryRun s) with
        | none => rfl
        | some e₀ => rw [(hse e₀).2 hf'] at hb; cases hb
      refine ⟨fun e => ?_, by simp [hf₀, hrs]⟩
      rw [Spec.firstFault_append, Spec.firstFault_under, hf₀, Option.map_none, Option.none_or, ← hre e]
      cases Actor.childrenWithin b dryRun fuel (position + 1) rest <;>
        simp [Except.mapError, bind, Except.bind, pure, Except.pure]


/-- A group's own check fails only on its options, and names the group's label. -/
theorem Assembly.children_error {spec : Spec} {e : Fault} (h : Assembly.children spec = .error e) :
    ∃ reason, e = .invalidOptions spec.desc reason := by
  unfold Assembly.children at h
  cases hp : spec.parseOptions Assembly.groupShape with
  | error e₀ =>
    rw [hp] at h
    cases h
    unfold Spec.parseOptions at hp
    split at hp <;> cases hp
    exact ⟨_, rfl⟩
  | ok o =>
    -- past the options, listing the children cannot fail
    rw [hp] at h
    simp only [bind, Except.bind] at h
    split at h <;> cases h

/-- The debug fields that announce the building of a specification. -/
def Spec.buildingFields (dryRun : Bool) (s : Spec) : List (String × String) :=
  [("desc", s.desc), ("kind", s.actor), ("dry_run", toString dryRun)]

/-- **Building a tree checks its nodes in pre-order and stops at the first that fails.** A node's
own check asks that its kind be registered, that a group's options list well-formed children's
specifications, and that any other node pass its builder. Building succeeds exactly when every
node passes; otherwise it fails with the fault of the first failing node in pre-order, wrapped
once for each step of the path down to it (the root is not wrapped), so it keeps the node's kind;
a group fails its own check only on its options, under its own label; and the builders that run
are those of the nodes before the failing one, then the failing one's own if its kind is
registered: none of a node after it. -/
theorem build_stops_at_first_failure (b : Backends) (spec : Spec) (dryRun : Bool) :
    ((∃ a, Actor.build b spec dryRun = .ok a) ↔
      ∀ n ∈ Spec.nodes b dryRun spec, n.2.Passes b dryRun) ∧
    (∀ e, Actor.build b spec dryRun = .error e ↔
      ∃ pre path s e₀ post, Spec.nodes b dryRun spec = pre ++ (path, s) :: post ∧
        (∀ n ∈ pre, n.2.Passes b dryRun) ∧ s.check b dryRun = .error e₀ ∧
        e = Fault.within path e₀) ∧
    (∀ pre path s e₀ post, Spec.nodes b dryRun spec = pre ++ (path, s) :: post →
      (∀ n ∈ pre, n.2.Passes b dryRun) → s.check b dryRun = .error e₀ →
      (Fault.within path e₀).kind = e₀.kind ∧
      (Actor.buildLog b spec dryRun).map Event.fields =
        (pre.map Prod.snd ++ if b.registry.has s.actor then [s] else []).map
          (Spec.buildingFields dryRun)) ∧
    (∀ (s : Spec) e₀, (b.registry.find? s.actor = some .sync ∨ b.registry.find? s.actor = some .async) →
      s.check b dryRun = .error e₀ → ∃ reason, e₀ = .invalidOptions s.desc reason) := by
  obtain ⟨hfault, hstarted⟩ :=
    @Spec.buildWithin_nodes b dryRun spec _ (Nat.lt_succ_self _)
  have herror : ∀ e, Actor.build b spec dryRun = .error e ↔
      Spec.firstFault b dryRun (Spec.nodes b dryRun spec) = some e := hfault
  refine ⟨?success, fun e => (herror e).trans Spec.firstFault_eq_some, ?log, ?group⟩
  case success =>
    rw [← Spec.firstFault_eq_none]
    cases hb : Actor.build b spec dryRun with
    | error e => simp [(herror e).1 hb]
    | ok a =>
      cases hf : Spec.firstFault b dryRun (Spec.nodes b dryRun spec) with
      | none => simp
      | some e => rw [(herror e).2 hf] at hb; cases hb
  case log =>
    intro pre path s e₀ post hnodes hpre hs
    refine ⟨Fault.kind_within path e₀, ?_⟩
    -- the builders that run are those of the nodes checked, up to the failing one
    have hinv : Spec.invoked b dryRun (Spec.nodes b dryRun spec) =
        pre.map Prod.snd ++ if b.registry.has s.actor then [s] else [] := by
      rw [hnodes, Spec.invoked_append, Spec.firstFault_eq_none.2 hpre, Spec.invoked_of_passes hpre]
      simp [Spec.invoked, hs]
    rw [← hinv, ← hstarted]
    simp [Actor.buildLog, Spec.buildingFields]
  case group =>
    intro s e₀ hk hs
    rcases hk with hk | hk <;>
      simp only [Spec.check, hk] at hs <;> exact Assembly.children_error hs

open Json in
/-- In a sequence whose second act names no registered kind, building stops there: the fault is
the unknown kind, wrapped with the act's position and label, and only the builders of the
sequence and of its first act run. -/
theorem sync_stops_at_unknown_act :
    Actor.build {} ⟨"deploy", "group.Sync", [("acts", .array [
        .object [("actor", .string "misc.Note"), ("desc", .string "hello"),
          ("options", .object [("message", .string "hi")])],
        .object [("actor", .string "x.Nope"), ("desc", .string "oops")]])]⟩ true =
      .error (.child 2 "oops" (.unknownActor "x.Nope")) ∧
    (Actor.buildLog {} ⟨"deploy", "group.Sync", [("acts", .array [
        .object [("actor", .string "misc.Note"), ("desc", .string "hello"),
          ("options", .object [("message", .string "hi")])],
        .object [("actor", .string "x.Nope"), ("desc", .string "oops")]])]⟩ true).map Event.fields =
      [[("desc", "deploy"), ("kind", "group.Sync"), ("dry_run", "true")],
       [("desc", "hello"), ("kind", "misc.Note"), ("dry_run", "true")]] := by
  have hsync : Registry.builtin.find? "group.Sync" = some .sync := rfl
  have hnote : Registry.builtin.find? "misc.Note" = some .note := rfl
  have hnope : Registry.builtin.find? "x.Nope" = none := rfl
  have hdeploy : Spec.check {} true ⟨"deploy", "group.Sync", [("acts", .array [
        .object [("actor", .string "misc.Note"), ("desc", .string "hello"),
          ("options", .object [("message", .string "hi")])],
        .object [("actor", .string "x.Nope"), ("desc", .string "oops")]])]⟩ =
      .ok [⟨"hello", "misc.Note", [("message", .string "hi")]⟩, ⟨"oops", "x.Nope", []⟩] := by
    simp only [Spec.check]
    rw [hsync]
    -- the acts decode as specifications, the second taking no options
    simp +decide [Assembly.children, Assembly.groupShape,
      Spec.parseOptions, Spec.shape, Spec.ofRecord, Shape.decode,
      Shape.decodeFields, Shape.decodeItems, Shape.decodeEntries, Shape.completeRecord, Shape.string,
      Field.lookup, Field.req, Field.names, Field.shape, Field.name, Field.absent, Keyed.insert,
      Keyed.get?, Value.get?, Value.fields?, Value.str?, Shape.absentValue, bind, Except.bind,
      Except.map, pure, Except.pure]
  have hhello : Spec.check {} true ⟨"hello", "misc.Note", [("message", .string "hi")]⟩ = .ok [] := by
    simp only [Spec.check]
    rw [hnote]
    simp +decide [Actor.buildWithin, hnote, Assembly.note, Assembly.noteShape, Spec.parseOptions,
      Shape.decode, Shape.decodeFields, Shape.completeRecord, Shape.string, Field.lookup, Field.req,
      Field.names, Field.shape, Field.name, Keyed.insert, Keyed.get?, Value.get?, Value.str?,
      Assembly.text, bind, Except.bind, Except.map, pure, Except.pure]
  have hoops : Spec.check {} true ⟨"oops", "x.Nope", []⟩ = .error (.unknownActor "x.Nope") := by
    simp only [Spec.check]
    rw [hnope]
    rfl
  have hnodes : Spec.nodes {} true ⟨"deploy", "group.Sync", [("acts", .array [
        .object [("actor", .string "misc.Note"), ("desc", .string "hello"),
          ("options", .object [("message", .string "hi")])],
        .object [("actor", .string "x.Nope"), ("desc", .string "oops")]])]⟩ =
      [([], ⟨"deploy", "group.Sync", [("acts", .array [
        .object [("actor", .string "misc.Note"), ("desc", .string "hello"),
          ("options", .object [("message", .string "hi")])],
        .object [("actor", .string "x.Nope"), ("desc", .string "oops")]])]⟩),
       ([(1, "hello")], ⟨"hello", "misc.Note", [("message", .string "hi")]⟩)] ++
      ([(2, "oops")], ⟨"oops", "x.Nope", []⟩) :: [] := by
    rw [Spec.nodes_of_check_ok hdeploy, Spec.nodesUnder, Spec.nodesUnder, Spec.nodesUnder,
      Spec.nodes_of_check_ok hhello, Spec.nodesUnder, Spec.nodes_of_check_error hoops]
    rfl
  have hpass : ∀ n ∈ [([], ⟨"deploy", "group.Sync", [("acts", .array [
        .object [("actor", .string "misc.Note"), ("desc", .string "hello"),
          ("options", .object [("message", .string "hi")])],
        .object [("actor", .string "x.Nope"), ("desc", .string "oops")]])]⟩),
       ([(1, "hello")], ⟨"hello", "misc.Note", [("message", .string "hi")]⟩)], Spec.Passes {} true n.2 := by
    simp only [List.mem_cons, List.not_mem_nil, or_false]
    rintro n (rfl | rfl)
    · exact ⟨_, hdeploy⟩
    · exact ⟨_, hhello⟩
  obtain ⟨-, herror, hlog, -⟩ := build_stops_at_first_failure {} ⟨"deploy", "group.Sync", [("acts", .array [
        .object [("actor", .string "misc.Note"), ("desc", .string "hello"),
          ("options", .object [("message", .string "hi")])],
        .object [("actor", .string "x.Nope"), ("desc", .string "oops")]])]⟩ true
  refine ⟨(herror _).2 ⟨_, _, _, _, _, hnodes, hpass, hoops, rfl⟩, ?_⟩
  rw [(hlog _ _ _ _ _ hnodes hpass hoops).2]
  simp [Registry.has, hnope, Spec.buildingFields]
  rfl

end Rollout

import Mathlib
import Rollout.World
/-!
# The laws of load balancer membership

An inventory is read through its lookups: `instances? region name` is the instance list of a
load balancer, if it exists. Each call of the in-memory backend on an existing load balancer
writes one new instance list for it and leaves every other lookup as it was:

* registering appends, in service, each listed id that occurs neither among the instances nor
  earlier in the list (`addIds_eq`);
* deregistering keeps the instances whose id is not listed;
* setting a state changes the state of the instances with the id.

Two calls on one load balancer in a row are one call by the composite change
(`update_bind_update`), so the laws of the calls are laws of lists: registering and
deregistering are idempotent, deregistrations commute, and a registration commutes with a
deregistration of other ids. On a missing load balancer every call fails with the
unrecoverable fault that names it and changes nothing. No call makes an id appear twice in a
list that had none twice.

* `instances?_withBalancer`: **writing one load balancer changes exactly that lookup**;
* `membership_laws`: the calls, their algebra, the missing load balancer and the ids kept
  distinct.
-/

namespace Rollout

namespace Keyed

variable {α : Type}

/-- Of two writes of one key, the second wins: it walks to the entry the first one wrote. -/
theorem insert_insert (k : String) (v v' : α) (entries : List (String × α)) :
    insert k v (insert k v' entries) = insert k v entries := by
  induction entries with
  | nil => simp [insert]
  | cons e rest ih =>
    obtain ⟨k', w⟩ := e
    by_cases h1 : k < k'
    · simp [insert, h1]
    · by_cases h2 : k = k'
      · subst h2
        simp [insert]
      · simp [insert, h1, h2, ih]

end Keyed

namespace Balancer

namespace Inventory

/-- Whether no id occurs twice among the instances. -/
def Distinct (is : List Instance) : Prop := (is.map (·.id)).Nodup

/-- The instances registering `ids` appends to `old`: each id of `ids`, in order, that occurs
neither among `old` nor earlier in `ids`, in service. -/
def enrolled (old : List Instance) (ids : List String) : List Instance :=
  ((ids.filter fun id => !old.any (·.id == id)).eraseDups).map fun id => ⟨id, inService⟩

/-- `inv'` is `inv` with the instance list of one load balancer replaced by `is`, as every
lookup sees it. -/
def Replaced (inv : Inventory) (region name : String) (is : List Instance) (inv' : Inventory) :
    Prop :=
  ∀ r n, inv'.instances? r n = if r = region ∧ n = name then some is else inv.instances? r n

/-! ### Writing one load balancer -/

section Write

variable (inv : Inventory) (region name : String)

/-- **Writing one load balancer changes exactly that lookup**, whether its region existed or
not. -/
theorem instances?_withBalancer (is : List Instance) :
    Replaced inv region name is (inv.withBalancer region name is) := by
  intro r n
  unfold withBalancer instances?
  by_cases hr : r = region
  · subst hr
    rw [Keyed.get?_insert_self]
    by_cases hn : n = name
    · subst hn
      simp [Keyed.get?_insert_self]
    · -- the other load balancers of the region are those it had, none if it had no entry
      rw [Option.bind_some, Keyed.get?_insert_ne hn]
      cases Keyed.get? r inv.regions <;> simp [hn, Keyed.get?]
  · simp [hr, Keyed.get?_insert_ne hr]

/-- Writing one load balancer twice keeps the second list. -/
theorem withBalancer_withBalancer (is is' : List Instance) :
    (inv.withBalancer region name is).withBalancer region name is' =
      inv.withBalancer region name is' := by
  unfold withBalancer
  simp only [Keyed.get?_insert_self, Option.getD_some, Keyed.insert_insert]

variable {inv region name}

theorem health_of_instances? {old : List Instance} (h : inv.instances? region name = some old) :
    inv.health region name = .ok old := by
  simp [health, h]

theorem health_of_missing (h : inv.instances? region name = none) :
    inv.health region name = .error (missing region name) := by
  simp [health, h]

theorem find_of_missing (h : inv.instances? region name = none) :
    inv.find region name = .error (missing region name) := by
  simp [find, health_of_missing h, Except.map]

theorem update_of_instances? {old : List Instance} (h : inv.instances? region name = some old)
    (f : List Instance → List Instance) :
    inv.update region name f = .ok (inv.withBalancer region name (f old)) := by
  simp [update, health_of_instances? h, Except.map]

theorem update_of_missing (h : inv.instances? region name = none)
    (f : List Instance → List Instance) :
    inv.update region name f = .error (missing region name) := by
  simp [update, health_of_missing h, Except.map]

variable (inv region name)

/-- Two changes of one load balancer in a row are one change by the composite, and fail
together when it is missing. -/
theorem update_bind_update (f g : List Instance → List Instance) :
    (inv.update region name f).bind (·.update region name g) = inv.update region name (g ∘ f) := by
  cases h : inv.instances? region name with
  | none => rw [update_of_missing h, update_of_missing h]; rfl
  | some old =>
    have h' : (inv.withBalancer region name (f old)).instances? region name = some (f old) := by
      simp [instances?_withBalancer inv region name (f old) region name]
    rw [update_of_instances? h, update_of_instances? h]
    show (inv.withBalancer region name (f old)).update region name g = _
    rw [update_of_instances? h', withBalancer_withBalancer]
    rfl

end Write

/-! ### The changes as list laws -/

theorem addIds_cons (id : String) (ids : List String) (is : List Instance) :
    addIds (id :: ids) is =
      addIds ids (if is.any (·.id == id) then is else is ++ [⟨id, inService⟩]) := rfl

/-- **Registering appends what `enrolled` says**: each new id once, at its first occurrence. -/
theorem addIds_eq (ids : List String) (is : List Instance) : addIds ids is = is ++ enrolled is ids := by
  induction ids generalizing is with
  | nil => simp [addIds, enrolled]
  | cons id rest ih =>
    rw [addIds_cons]
    by_cases hp : is.any (·.id == id) = true
    · rw [if_pos hp, ih]
      simp [enrolled, hp]
    · rw [if_neg hp, ih]
      -- the ids still new after appending `id` are those new before, less `id`
      have hrest : (rest.filter fun x => !(is ++ [(⟨id, inService⟩ : Instance)]).any (·.id == x)) =
          (rest.filter fun x => !is.any (·.id == x)).filter fun x => !x == id := by
        rw [List.filter_filter]
        refine List.filter_congr fun x _ => ?_
        by_cases hx : x = id
        · simp [hx]
        · have h₁ : (id == x) = false := beq_false_of_ne (Ne.symm hx)
          have h₂ : (x == id) = false := beq_false_of_ne hx
          simp [List.any_append, h₁, h₂]
      simp only [enrolled, List.filter_cons, hp, Bool.not_false, if_true, List.eraseDups_cons,
        List.map_cons, hrest, List.append_assoc, List.cons_append, List.nil_append]

/-- Registering keeps the ids distinct: an id is appended only when absent. -/
theorem distinct_addIds (ids : List String) {is : List Instance} (h : Distinct is) :
    Distinct (addIds ids is) := by
  induction ids generalizing is with
  | nil => exact h
  | cons id rest ih =>
    rw [addIds_cons]
    apply ih
    split
    · exact h
    · rename_i hp
      have hid : ∀ i ∈ is, i.id ≠ id := by simpa using hp
      simpa [Distinct, List.nodup_append] using And.intro h hid

/-- Deregistering keeps the ids distinct. -/
theorem distinct_filter (p : Instance → Bool) {is : List Instance} (h : Distinct is) :
    Distinct (is.filter p) :=
  List.Nodup.sublist ((List.filter_sublist).map _) h

/-- Setting a state keeps every id, so keeps them distinct. -/
theorem distinct_setState (id state : String) {is : List Instance} (h : Distinct is) :
    Distinct (is.map fun i => if i.id == id then { i with state } else i) := by
  have e : ((is.map fun i => if i.id == id then { i with state } else i).map (·.id)) =
      is.map (·.id) := by
    rw [List.map_map]
    refine List.map_congr_left fun i _ => ?_
    by_cases hi : i.id = id <;> simp [hi]
  unfold Distinct
  rw [e]
  exact h

/-- A registration of ids that a deregistration does not list commutes with it. -/
theorem addIds_filter_comm {ids gone : List String} (hd : ∀ id ∈ ids, id ∉ gone)
    (is : List Instance) :
    (addIds ids is).filter (fun i => !gone.contains i.id) =
      addIds ids (is.filter fun i => !gone.contains i.id) := by
  induction ids generalizing is with
  | nil => rfl
  | cons id rest ih =>
    have hid : id ∉ gone := hd id (by simp)
    rw [addIds_cons, addIds_cons, ih (fun x hx => hd x (by simp [hx]))]
    -- an instance with the registered id survives the deregistration
    have hany : (is.filter fun i => !gone.contains i.id).any (·.id == id) = is.any (·.id == id) := by
      rw [List.any_filter]
      congr 1
      funext i
      by_cases hi : i.id = id
      · simp [hi, hid]
      · simp [beq_false_of_ne hi]
    rw [hany]
    split
    · rfl
    · simp [List.filter_append, hid]

/-! ### The calls -/

end Inventory

/-- A call whose run fails leaves the inventory as it was, whether it was throttled or not. -/
theorem Service.call_inventory_of_error {α : Type} (s : Service) (m : Method)
    {run : Inventory → Except Fault (α × Inventory)} {e : Fault} (h : run s.inventory = .error e) :
    (s.call m run).1.inventory = s.inventory := by
  unfold Service.call
  dsimp only
  split
  · rfl
  · simp only [h]

namespace Inventory

/-- **The laws of the membership calls.** On an existing load balancer, registering,
deregistering and setting a state each succeed and write one new list for it, as
`Replaced` says, keeping its ids distinct if they were; registering and deregistering are each
idempotent, two deregistrations commute, and a registration commutes with a deregistration of
other ids. On a missing load balancer every call fails with the unrecoverable fault naming it,
and the service and the world it answers for keep their inventory. -/
theorem membership_laws (inv : Inventory) (region name : String) :
    (∀ old, inv.instances? region name = some old →
      (∀ ids, ∃ inv', inv.register region name ids = .ok inv' ∧
        Replaced inv region name (old ++ enrolled old ids) inv' ∧
        (Distinct old → Distinct (old ++ enrolled old ids))) ∧
      (∀ ids, ∃ inv', inv.deregister region name ids = .ok inv' ∧
        Replaced inv region name (old.filter fun i => !ids.contains i.id) inv' ∧
        (Distinct old → Distinct (old.filter fun i => !ids.contains i.id))) ∧
      (∀ id state, ∃ inv', inv.setState region name id state = .ok inv' ∧
        Replaced inv region name (old.map fun i => if i.id == id then { i with state } else i)
          inv' ∧
        (Distinct old → Distinct (old.map fun i => if i.id == id then { i with state } else i)))) ∧
    (∀ ids, (inv.register region name ids).bind (·.register region name ids) =
      inv.register region name ids) ∧
    (∀ ids, (inv.deregister region name ids).bind (·.deregister region name ids) =
      inv.deregister region name ids) ∧
    (∀ a b, (inv.deregister region name a).bind (·.deregister region name b) =
      (inv.deregister region name b).bind (·.deregister region name a)) ∧
    (∀ a b, (∀ id ∈ a, id ∉ b) →
      (inv.register region name a).bind (·.deregister region name b) =
        (inv.deregister region name b).bind (·.register region name a)) ∧
    (inv.instances? region name = none →
      (missing region name).kind = .unrecoverable ∧
      inv.find region name = .error (missing region name) ∧
      inv.health region name = .error (missing region name) ∧
      (∀ ids, inv.register region name ids = .error (missing region name)) ∧
      (∀ ids, inv.deregister region name ids = .error (missing region name)) ∧
      (∀ id state, inv.setState region name id state = .error (missing region name)) ∧
      (∀ s : Service, s.inventory = inv →
        (s.find region name).1.inventory = inv ∧ (s.health region name).1.inventory = inv ∧
        (∀ ids, (s.register region name ids).1.inventory = inv) ∧
        (∀ ids, (s.deregister region name ids).1.inventory = inv)) ∧
      ∀ w : World, w.balancers.map (·.inventory) = some inv →
        ∀ id state, World.setInstanceState region name id state w = w) := by
  refine ⟨fun old h => ⟨fun ids => ?_, fun ids => ?_, fun id state => ?_⟩, fun ids => ?_,
    fun ids => ?_, fun a b => ?_, fun a b hd => ?_, fun h => ?_⟩
  · -- registering writes the old list followed by the enrolled instances
    refine ⟨_, update_of_instances? h _, ?_, fun hd => addIds_eq ids old ▸ distinct_addIds ids hd⟩
    rw [← addIds_eq]
    exact instances?_withBalancer inv region name _
  · exact ⟨_, update_of_instances? h _, instances?_withBalancer inv region name _,
      distinct_filter _⟩
  · exact ⟨_, update_of_instances? h _, instances?_withBalancer inv region name _,
      distinct_setState id state⟩
  · refine (update_bind_update inv region name _ _).trans ?_
    congr 1
    funext is
    exact register_idempotent ids is
  · refine (update_bind_update inv region name _ _).trans ?_
    congr 1
    funext is
    simp [Function.comp, List.filter_filter]
  · refine (update_bind_update inv region name _ _).trans
      (Eq.trans ?_ (update_bind_update inv region name _ _).symm)
    congr 1
    funext is
    simp [Function.comp, List.filter_filter, Bool.and_comm]
  · refine (update_bind_update inv region name _ _).trans
      (Eq.trans ?_ (update_bind_update inv region name _ _).symm)
    congr 1
    funext is
    exact addIds_filter_comm hd is
  · -- a missing load balancer: every call fails before it changes anything
    have hfind := find_of_missing h
    refine ⟨rfl, hfind, health_of_missing h, fun ids => update_of_missing h _,
      fun ids => update_of_missing h _, fun id state => update_of_missing h _,
      fun s hs => ?_, fun w hw id state => ?_⟩
    · subst hs
      refine ⟨Service.call_inventory_of_error s _ (e := missing region name)
          (by simp [hfind, Except.map]),
        Service.call_inventory_of_error s _ (e := missing region name)
          (by simp [health_of_missing h, Except.map]),
        fun ids => Service.call_inventory_of_error s _ (e := missing region name) ?_,
        fun ids => Service.call_inventory_of_error s _ (e := missing region name) ?_⟩
      · simp [register, update_of_missing h, Except.map]
      · simp [deregister, update_of_missing h, Except.map]
    · unfold World.setInstanceState
      cases hb : w.balancers with
      | none => rfl
      | some s =>
        rw [hb] at hw
        cases hw
        simp [setState, update_of_missing h]

/-- Registering `i-3` and `i-1` with a load balancer holding `i-1` and `i-2` appends `i-3` only. -/
example : addIds ["i-3", "i-1"] [⟨"i-1", inService⟩, ⟨"i-2", "OutOfService"⟩] =
    [⟨"i-1", inService⟩, ⟨"i-2", "OutOfService"⟩, ⟨"i-3", inService⟩] := by
  decide

end Inventory

end Balancer

end Rollout

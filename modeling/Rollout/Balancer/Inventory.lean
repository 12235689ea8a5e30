import Rollout.Json.Decode
import Rollout.Fault
/-!
# Load balancer inventories

An inventory maps each region to its load balancers by name, and each load balancer to the
health of its instances, in order. It serves as the load balancer backend of a test world:

* `find` and `health` look a load balancer up; a missing one is a fault that retrying cannot
  fix.
* `register` appends each listed instance not yet present, in order, as in service.
* `deregister` drops every instance whose id is listed.
* `setState` changes the state of every instance with the id (none matching is no change).

In a document an inventory is a map of maps of lists of `{instance_id, state}`; other fields of
an instance are ignored.

* `register_idempotent`: registering the same ids twice is registering them once.
-/

-- Sums of numbers start from the core zero, whatever else is imported.
attribute [local instance(high)] Zero.ofOfNat0

namespace Rollout.Balancer

open Rollout.Json

/-- The state of a healthy instance. -/
def inService : String := "InService"

/-- The health of one instance behind a load balancer. -/
structure Instance where
  id : String
  state : String
deriving DecidableEq, Inhabited

/-- Whether the instance is in service. -/
def Instance.isInService (i : Instance) : Bool := i.state == inService

/-- Region, then load balancer name, then instances. -/
structure Inventory where
  regions : List (String × List (String × List Instance)) := []
deriving DecidableEq, Inhabited

namespace Inventory

/-- The shape of an instance in a document. -/
def instanceShape : Shape :=
  .record "InstanceHealth" [Field.req "instance_id" Shape.string, Field.req "state" Shape.string] false

/-- The shape of an inventory in a document. -/
def shape : Shape := .keyed (.keyed (.list instanceShape))

/-- The instance of a decoded record. -/
def instanceOf (v : Value) : Instance :=
  ⟨((v.get? "instance_id").bind Value.str?).getD "", ((v.get? "state").bind Value.str?).getD ""⟩

/-- The inventory of a decoded value. -/
def ofDecoded (v : Value) : Inventory :=
  ⟨(v.fields?.getD []).map fun (region, lbs) =>
    (region, (lbs.fields?.getD []).map fun (name, is) =>
      (name, (is.items?.getD []).map instanceOf))⟩

/-- Decodes an inventory from a value, with the message of the first problem. -/
def ofValue (v : Value) : Except String Inventory :=
  match shape.decode v with
  | .ok r => .ok (ofDecoded r)
  | .error m => .error (m.message Wording.json)

/-- An instance as a document. -/
def instanceValue (i : Instance) : Value :=
  .object [("instance_id", .string i.id), ("state", .string i.state)]

/-- The inventory as a document. -/
def toValue (inv : Inventory) : Value :=
  .object (inv.regions.map fun (region, lbs) =>
    (region, .object (lbs.map fun (name, is) => (name, .array (is.map instanceValue)))))

/-- The number of load balancers in all regions. -/
def size (inv : Inventory) : Nat := (inv.regions.map fun (_, lbs) => lbs.length).sum

/-- Adds or replaces one load balancer. -/
def withBalancer (inv : Inventory) (region name : String) (instances : List Instance) : Inventory :=
  let lbs := (Keyed.get? region inv.regions).getD []
  ⟨Keyed.insert region (Keyed.insert name instances lbs) inv.regions⟩

/-- The instances of one load balancer, if it exists. -/
def instances? (inv : Inventory) (region name : String) : Option (List Instance) :=
  (Keyed.get? region inv.regions).bind (Keyed.get? name)

/-- The fault of a missing load balancer. -/
def missing (region name : String) : Fault :=
  .unrecoverable ("expected exactly one load balancer named '" ++ name ++ "' in " ++ region ++
    ", found none")

/-- The instances of one load balancer, or the fault that it is missing. -/
def health (inv : Inventory) (region name : String) : Except Fault (List Instance) :=
  match inv.instances? region name with
  | some is => .ok is
  | none => .error (missing region name)

/-- Checks that a load balancer exists. -/
def find (inv : Inventory) (region name : String) : Except Fault Unit :=
  (inv.health region name).map fun _ => ()

/-- Changes the instances of an existing load balancer. -/
def update (inv : Inventory) (region name : String) (f : List Instance → List Instance) :
    Except Fault Inventory :=
  (inv.health region name).map fun is => inv.withBalancer region name (f is)

/-- Appends each id not yet present, in service. -/
def addIds (ids : List String) (is : List Instance) : List Instance :=
  ids.foldl (fun acc id => if acc.any (·.id == id) then acc else acc ++ [⟨id, inService⟩]) is

/-- Registers instances with a load balancer. -/
def register (inv : Inventory) (region name : String) (ids : List String) : Except Fault Inventory :=
  inv.update region name (addIds ids)

/-- Deregisters instances from a load balancer. -/
def deregister (inv : Inventory) (region name : String) (ids : List String) :
    Except Fault Inventory :=
  inv.update region name (List.filter fun i => !ids.contains i.id)

/-- Sets the state of every instance with an id. -/
def setState (inv : Inventory) (region name id state : String) : Except Fault Inventory :=
  inv.update region name (List.map fun i => if i.id == id then { i with state } else i)

theorem addIds_present (ids : List String) (is : List Instance)
    (h : ∀ id ∈ ids, is.any (·.id == id) = true) : addIds ids is = is := by
  unfold addIds
  induction ids generalizing is with
  | nil => rfl
  | cons id rest ih =>
    simp only [List.foldl_cons]
    rw [if_pos (h id (by simp))]
    exact ih is (fun x hx => h x (by simp [hx]))

theorem any_addIds (ids : List String) (is : List Instance) (x : String)
    (h : is.any (·.id == x) = true) : (addIds ids is).any (·.id == x) = true := by
  unfold addIds
  induction ids generalizing is with
  | nil => simpa using h
  | cons id rest ih =>
    simp only [List.foldl_cons]
    split
    · exact ih is h
    · apply ih
      simp only [List.any_append, h, Bool.true_or]

theorem addIds_covers (ids : List String) (is : List Instance) :
    ∀ id ∈ ids, (addIds ids is).any (·.id == id) = true := by
  unfold addIds
  induction ids generalizing is with
  | nil => simp
  | cons id rest ih =>
    intro x hx
    simp only [List.foldl_cons]
    rcases List.mem_cons.mp hx with hx | hx
    · subst hx
      have hin : (if is.any (·.id == x) = true then is else is ++ [⟨x, inService⟩]).any
          (·.id == x) = true := by
        split
        · assumption
        · simp
      exact any_addIds rest _ x hin
    · exact ih _ x hx

theorem register_idempotent (ids : List String) (is : List Instance) :
    addIds ids (addIds ids is) = addIds ids is :=
  addIds_present ids _ (addIds_covers ids is)

end Inventory

end Rollout.Balancer

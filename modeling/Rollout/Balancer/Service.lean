import Rollout.Balancer.Inventory
/-!
# The load balancer service

The actors reach load balancers through a service with four methods: find a load balancer,
describe the health of its instances, register instances and deregister them. Here the service
answers from an inventory. Every call is counted per method, and the first calls of a method
may be made to fail with an operational fault (`{method} failed: throttled`), without touching
the inventory, as a throttled service does.

* `call_count`: a call counts one more call of its method.
-/

namespace Rollout.Balancer

/-- A method of the load balancer service. -/
inductive Method where
  | find
  | instanceHealth
  | registerInstances
  | deregisterInstances
deriving DecidableEq, Inhabited

/-- The name of a method. -/
def Method.name : Method → String
  | .find => "find"
  | .instanceHealth => "instance_health"
  | .registerInstances => "register_instances"
  | .deregisterInstances => "deregister_instances"

/-- The service: an inventory, the calls still to fail per method, and the calls made. -/
structure Service where
  inventory : Inventory
  failures : List (String × Nat) := []
  calls : List (String × Nat) := []
deriving Inhabited

/-- Adds one to a count kept by name. -/
def bump (name : String) (counts : List (String × Nat)) : List (String × Nat) :=
  Keyed.insert name ((Keyed.get? name counts).getD 0 + 1) counts

namespace Service

/-- Makes a call: counts it, fails it if failures remain for its method, and otherwise runs it
on the inventory. -/
def call {α : Type} (s : Service) (m : Method) (run : Inventory → Except Fault (α × Inventory)) :
    Service × Except Fault α :=
  let s := { s with calls := bump m.name s.calls }
  match Keyed.get? m.name s.failures with
  | some (n + 1) =>
    ({ s with failures := Keyed.insert m.name n s.failures }, .error (.operational m.name "throttled"))
  | _ =>
    match run s.inventory with
    | .ok (a, inventory) => ({ s with inventory }, .ok a)
    | .error e => (s, .error e)

theorem call_count {α : Type} (s : Service) (m : Method) (run : Inventory → Except Fault (α × Inventory)) :
    Keyed.get? m.name (s.call m run).1.calls = some ((Keyed.get? m.name s.calls).getD 0 + 1) := by
  dsimp only [call, bump]
  split
  · simp [Keyed.get?_insert_self]
  · split <;> simp [Keyed.get?_insert_self]

/-- Checks that a load balancer exists. -/
def find (s : Service) (region name : String) : Service × Except Fault Unit :=
  s.call .find fun inv => (inv.find region name).map fun u => (u, inv)

/-- The instances behind a load balancer. -/
def health (s : Service) (region name : String) : Service × Except Fault (List Instance) :=
  s.call .instanceHealth fun inv => (inv.health region name).map fun is => (is, inv)

/-- Registers instances with a load balancer. -/
def register (s : Service) (region name : String) (ids : List String) : Service × Except Fault Unit :=
  s.call .registerInstances fun inv => (inv.register region name ids).map fun inv => ((), inv)

/-- Deregisters instances from a load balancer. -/
def deregister (s : Service) (region name : String) (ids : List String) :
    Service × Except Fault Unit :=
  s.call .deregisterInstances fun inv => (inv.deregister region name ids).map fun inv => ((), inv)

end Service

end Rollout.Balancer

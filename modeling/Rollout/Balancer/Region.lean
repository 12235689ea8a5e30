import Rollout.Fault
/-!
# Regions

A load balancer client is opened in one of the known regions, named exactly (no trimming, no
case folding). Any other name is a fault that retrying cannot fix.

* `lookupRegion_ok_iff`: a lookup succeeds exactly for a known region, and returns it.
-/

namespace Rollout.Balancer

/-- The regions a load balancer client can be opened in. -/
def knownRegions : List String :=
  ["ap-east-1", "ap-northeast-1", "ap-northeast-2", "ap-northeast-3", "ap-south-1",
    "ap-southeast-1", "ap-southeast-2", "ca-central-1", "cn-north-1", "cn-northwest-1",
    "eu-central-1", "eu-north-1", "eu-south-1", "eu-west-1", "eu-west-2", "eu-west-3",
    "me-south-1", "sa-east-1", "us-east-1", "us-east-2", "us-gov-east-1", "us-gov-west-1",
    "us-west-1", "us-west-2"]

/-- The one known region with this name. -/
def lookupRegion (name : String) : Except Fault String :=
  match knownRegions.filter (· == name) with
  | [r] => .ok r
  | ms => .error (.unrecoverable
      ("expected exactly one region named '" ++ name ++ "', found " ++ toString ms.length))

/-- The fault of a region without a load balancer backend to reach it through. -/
def noBackend (region : String) : Fault :=
  .backendUnavailable "load balancer" ("cannot reach region " ++ region ++ "; provide an inventory file")

theorem lookupRegion_ok_iff (name r : String) :
    lookupRegion name = .ok r ↔ name ∈ knownRegions ∧ r = name := by
  unfold lookupRegion knownRegions
  by_cases h : name ∈ knownRegions
  · unfold knownRegions at h
    simp only [List.mem_cons, List.mem_nil_iff, or_false] at h
    rcases h with h | h | h | h | h | h | h | h | h | h | h | h | h | h | h | h | h | h | h |
      h | h | h | h | h <;> subst h <;> simp <;> exact eq_comm
  · have hf : knownRegions.filter (· == name) = [] := by
      rw [List.filter_eq_nil_iff]
      intro x hx
      simp only [beq_iff_eq]
      intro hxn
      exact h (hxn ▸ hx)
    unfold knownRegions at hf h
    rw [hf]
    simp [h]

end Rollout.Balancer

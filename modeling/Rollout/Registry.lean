/-!
# Actor kinds and registries

Every actor of a script names its kind by a registered identifier. A registry is the set of
kinds that assembly may build: the two group kinds alone, or those with every built-in kind,
or those with the scripted step kind that test worlds add. Identifiers are matched exactly.

* `find?_name`: a registered kind is found under its own identifier.
-/

namespace Rollout

/-- The kinds of actors. -/
inductive ActorKind where
  | sync
  | async
  | note
  | sleep
  | waitHealthy
  | register
  | deregister
  | deleteOld
  | deleteByDate
  | waitForPackage
  | step
deriving DecidableEq, Repr, Inhabited

/-- The identifier of a kind, as scripts name it. -/
def ActorKind.name : ActorKind → String
  | .sync => "group.Sync"
  | .async => "group.Async"
  | .note => "misc.Note"
  | .sleep => "misc.Sleep"
  | .waitHealthy => "aws.elb.WaitUntilHealthy"
  | .register => "aws.elb.RegisterInstance"
  | .deregister => "aws.elb.DeregisterInstance"
  | .deleteOld => "packagecloud.Delete"
  | .deleteByDate => "packagecloud.DeleteByDate"
  | .waitForPackage => "packagecloud.WaitForPackage"
  | .step => "test.Step"

/-- A set of kinds that assembly may build. -/
structure Registry where
  kinds : List ActorKind
deriving Inhabited

namespace Registry

/-- No kinds. -/
def empty : Registry := ⟨[]⟩

/-- The two group kinds. -/
def groups : Registry := ⟨[.sync, .async]⟩

/-- The groups and every built-in kind. -/
def builtin : Registry :=
  ⟨[.sync, .async, .note, .sleep, .waitHealthy, .register, .deregister, .deleteOld,
    .deleteByDate, .waitForPackage]⟩

/-- The built-in kinds and the scripted step. -/
def withStep : Registry := ⟨builtin.kinds ++ [.step]⟩

/-- The kind registered under an identifier. -/
def find? (r : Registry) (name : String) : Option ActorKind :=
  r.kinds.find? (·.name == name)

/-- Whether a kind is registered under an identifier. -/
def has (r : Registry) (name : String) : Bool := (r.find? name).isSome

/-- The registered identifiers, in text order. -/
def names (r : Registry) : List String :=
  (r.kinds.map ActorKind.name).mergeSort (fun a b => decide (a ≤ b))

/-- The number of registered kinds. -/
def size (r : Registry) : Nat := r.kinds.length

theorem find?_name {ks : List ActorKind} {k : ActorKind} (h : k ∈ ks)
    (hu : ∀ k' ∈ ks, k'.name = k.name → k' = k) : (Registry.mk ks).find? k.name = some k := by
  unfold find?
  induction ks with
  | nil => simp at h
  | cons x xs ih =>
    simp only [List.find?_cons]
    by_cases hx : x.name = k.name
    · have := hu x (by simp) hx
      subst this
      simp
    · have hk : k ∈ xs := by
        rcases List.mem_cons.mp h with h | h
        · subst h; exact absurd rfl hx
        · exact h
      have hb : (x.name == k.name) = false := by simpa using hx
      rw [hb]
      exact ih hk (fun k' hk' => hu k' (List.mem_cons_of_mem _ hk'))

end Registry

/-- The largest number of permits a worker pool can hold. -/
def maxPermits : Nat := 2305843009213693951

/-- The size of a worker pool asked for `requested` workers: at least one. Asking for more than
`maxPermits` is refused with the message of the refusal. -/
def poolSize (requested : Nat) : Except String Nat :=
  if maxPermits < requested then
    .error "a semaphore may not have more than MAX_PERMITS permits (2305843009213693951)"
  else .ok (max requested 1)

/-- The size of the default worker pool. -/
def defaultPoolSize : Nat := 10

end Rollout

import Mathlib
import Rollout.Package
/-!
# Deletion plans

A deletion plan takes, for each distinct name the filter accepts, in text order, the versions of
that name in upload order (equal upload times in listing order), skips those the age limit
protects, and deletes the rest, oldest first, while more than `keep` versions of the name
remain. Since a protected version is skipped without being counted, a name loses its
unprotected versions, oldest first, as many as it has beyond `keep` (`planFor_eq_take`).

The age of a version is measured the way calendar arithmetic with leap seconds measures it
(`Timestamp.since`), and that measure does not always grow with the age: a version uploaded
during a leap second may count as younger than one uploaded just after it. Away from leap
seconds it does, the protected versions of a name are its newest, and the plan deletes the
oldest versions of each name.

Main statements:

* `planDeletions_eq`: the plan, name by name;
* `plan_deletes_oldest_unprotected`: **a plan deletes, of each accepted name, its oldest
  unprotected versions, as many as the name has beyond `keep`**, and nothing else;
* `plan_deletes_newest_across_leap_second`: a version uploaded during a leap second is spared
  where the next, newer one is deleted.
-/

namespace Rollout

namespace Package

/-- Whether an age limit protects a version at `now`: the version is no older than the limit.
Without a limit nothing is protected. -/
def protectedAt (olderThan : Option Int) (now : Timestamp) (p : Package) : Bool :=
  match olderThan with
  | some age => Timestamp.sinceAtMost now p.createdAt age
  | none => false

theorem olderOrSame_iff {a b : Package} :
    a.olderOrSame b = true ↔
      a.createdAt.seconds < b.createdAt.seconds ∨
        a.createdAt.seconds = b.createdAt.seconds ∧ a.createdAt.nanos ≤ b.createdAt.nanos := by
  simp only [olderOrSame, Timestamp.before, Bool.not_eq_true', Bool.or_eq_false_iff,
    Bool.and_eq_false_iff, decide_eq_false_iff_not]
  omega

theorem olderOrSame_trans (a b c : Package) (hab : a.olderOrSame b = true)
    (hbc : b.olderOrSame c = true) : a.olderOrSame c = true := by
  rw [olderOrSame_iff] at *
  omega

theorem olderOrSame_total (a b : Package) : (a.olderOrSame b || b.olderOrSame a) = true := by
  rw [Bool.or_eq_true, olderOrSame_iff, olderOrSame_iff]
  omega

end Package

/-! ### The plan, name by name -/

/-- The versions of a name in upload order, equal upload times in listing order. -/
def versionsOf (packages : List Package) (name : String) : List Package :=
  (packages.filter (·.name == name)).mergeSort Package.olderOrSame

/-- The distinct names that a filter accepts, in text order. -/
def acceptedNames (packages : List Package) (accepts : String → Bool) : List String :=
  dedupAdjacent (((packages.map (·.name)).filter accepts).mergeSort fun a b => decide (a ≤ b))

/-- The versions of a name that a plan deletes: the unprotected ones, oldest first, as many as
the name has beyond `keep`. -/
def planOf (packages : List Package) (keep : Nat) (isProtected : Package → Bool)
    (name : String) : List Package :=
  ((versionsOf packages name).filter fun p => !isProtected p).take
    ((versionsOf packages name).length - keep)

/-- Skipping a protected version without counting it, the deletions of one name are its
unprotected versions, as many as it has beyond `keep`. -/
theorem planFor_eq_take (keep : Nat) (isProtected : Package → Bool) (remaining : Nat)
    (ps : List Package) :
    planFor keep isProtected remaining ps =
      (ps.filter fun p => !isProtected p).take (remaining - keep) := by
  fun_induction planFor keep isProtected remaining ps with
  | case1 => simp
  | case2 remaining p rest hkeep => simp [Nat.sub_eq_zero_of_le hkeep]
  | case3 remaining p rest hkeep hp ih => simp [hp, ih]
  | case4 remaining p rest hkeep hp ih =>
    have e : remaining - keep = remaining - 1 - keep + 1 := by omega
    simp [hp, ih, e]

/-- **The plan, name by name.** -/
theorem planDeletions_eq (packages : List Package) (accepts : String → Bool) (keep : Nat)
    (olderThan : Option Int) (now : Timestamp) :
    planDeletions packages accepts keep olderThan now =
      (acceptedNames packages accepts).flatMap
        (planOf packages keep (Package.protectedAt olderThan now)) := by
  simp only [planDeletions, planFor_eq_take]
  rfl

/-! ### The versions of a name -/

section Versions

variable (packages : List Package) (name : String)

theorem versionsOf_perm : (versionsOf packages name).Perm (packages.filter (·.name == name)) :=
  List.mergeSort_perm _ _

theorem versionsOf_sorted :
    (versionsOf packages name).Pairwise fun a b => a.olderOrSame b = true :=
  List.pairwise_mergeSort Package.olderOrSame_trans Package.olderOrSame_total _

/-- Versions in upload order keep their listing order. -/
theorem versionsOf_stable {a b : Package} (hab : a.olderOrSame b = true)
    (h : [a, b].Sublist (packages.filter (·.name == name))) :
    [a, b].Sublist (versionsOf packages name) :=
  List.pair_sublist_mergeSort Package.olderOrSame_trans Package.olderOrSame_total hab h

/-- Versions listed in upload order are taken as listed. -/
theorem versionsOf_of_sorted (h : (packages.filter (·.name == name)).Pairwise
    fun a b => a.olderOrSame b = true) :
    versionsOf packages name = packages.filter (·.name == name) :=
  List.mergeSort_of_pairwise h

theorem mem_versionsOf {p : Package} :
    p ∈ versionsOf packages name ↔ p ∈ packages ∧ p.name = name := by
  simp [versionsOf, List.mem_mergeSort]

theorem length_versionsOf :
    (versionsOf packages name).length = packages.countP (·.name == name) := by
  rw [(versionsOf_perm packages name).length_eq, List.countP_eq_length_filter]

theorem length_unprotected_versionsOf (isProtected : Package → Bool) :
    ((versionsOf packages name).filter fun p => !isProtected p).length =
      packages.countP fun p => p.name == name && !isProtected p := by
  rw [((versionsOf_perm packages name).filter _).length_eq, List.filter_filter,
    List.countP_eq_length_filter]
  simp only [Bool.and_comm]

end Versions

/-! ### The names -/

theorem mem_dedupAdjacent {l : List String} {a : String} : a ∈ dedupAdjacent l ↔ a ∈ l := by
  fun_induction dedupAdjacent l with
  | case1 y rest ih => simp [ih]
  | case2 x y rest hxy ih => simp [ih]
  | case3 => rfl

/-- Dropping repeated neighbours from a list in order leaves it in strict order. -/
theorem pairwise_dedupAdjacent {l : List String} (h : l.Pairwise (· ≤ ·)) :
    (dedupAdjacent l).Pairwise (· < ·) := by
  fun_induction dedupAdjacent l with
  | case1 y rest ih => exact ih h.of_cons
  | case2 x y rest hxy ih =>
    refine List.pairwise_cons.2 ⟨fun z hz => ?_, ih h.of_cons⟩
    -- a later name is at least `y`, which is past `x`
    have hyz : y ≤ z := by
      rcases List.mem_cons.1 (mem_dedupAdjacent.1 hz) with rfl | hz
      · exact le_rfl
      · exact List.rel_of_pairwise_cons h.of_cons hz
    exact lt_of_lt_of_le (lt_of_le_of_ne (List.rel_of_pairwise_cons h List.mem_cons_self) hxy) hyz
  | case3 xs hne =>
    match xs, hne with
    | [], _ => exact .nil
    | [_], _ => exact List.pairwise_singleton _ _
    | _ :: _ :: _, hne => exact absurd rfl (hne _ _ _)

theorem mem_acceptedNames {packages : List Package} {accepts : String → Bool} {name : String} :
    name ∈ acceptedNames packages accepts ↔ name ∈ packages.map (·.name) ∧ accepts name = true := by
  simp [acceptedNames, mem_dedupAdjacent, List.mem_mergeSort]

theorem acceptedNames_sorted (packages : List Package) (accepts : String → Bool) :
    (acceptedNames packages accepts).Pairwise (· < ·) :=
  pairwise_dedupAdjacent <| by
    simpa using @List.pairwise_mergeSort String (fun a b => decide (a ≤ b))
      (fun _ _ _ hab hbc => by simp_all only [decide_eq_true_eq]; exact le_trans hab hbc)
      (fun a b => by simpa using le_total a b) _

/-- Names listed in text order are taken as listed, each once. -/
theorem acceptedNames_of_sorted {packages : List Package} {accepts : String → Bool}
    (h : ((packages.map (·.name)).filter accepts).Pairwise (· ≤ ·)) :
    acceptedNames packages accepts = dedupAdjacent ((packages.map (·.name)).filter accepts) := by
  rw [acceptedNames, List.mergeSort_of_pairwise (by simpa using h)]

/-! ### The versions of one name that a plan deletes -/

section PlanOf

variable {packages : List Package} {keep : Nat} {isProtected : Package → Bool} {name : String}

theorem planOf_sublist :
    (planOf packages keep isProtected name).Sublist (versionsOf packages name) :=
  (List.take_sublist _ _).trans List.filter_sublist

theorem mem_planOf {p : Package} (h : p ∈ planOf packages keep isProtected name) :
    p ∈ packages ∧ p.name = name ∧ isProtected p = false := by
  have hp := List.mem_of_mem_take h
  rw [List.mem_filter, mem_versionsOf] at hp
  simpa [hp.1] using hp.2

theorem length_planOf :
    (planOf packages keep isProtected name).length =
      min (packages.countP (·.name == name) - keep)
        (packages.countP fun p => p.name == name && !isProtected p) := by
  rw [planOf, List.length_take, length_unprotected_versionsOf, length_versionsOf]

theorem filter_planOf_name (n : String) :
    (planOf packages keep isProtected name).filter (·.name == n) =
      if name = n then planOf packages keep isProtected name else [] := by
  split
  · subst n
    exact List.filter_eq_self.2 fun p hp => by simp [(mem_planOf hp).2.1]
  · rename_i hne
    exact List.filter_eq_nil_iff.2 fun p hp => by simp [(mem_planOf hp).2.1, hne]

end PlanOf

/-! ### The whole plan -/

/-- Of blocks for distinct names, the one for a name is all its name picks out. -/
theorem flatMap_ite_name {names : List String} (hn : names.Nodup) (f : String → List Package)
    (n : String) :
    names.flatMap (fun m => if m = n then f m else []) = if n ∈ names then f n else [] := by
  induction names with
  | nil => simp
  | cons m rest ih =>
    rw [List.flatMap_cons, ih (List.nodup_cons.1 hn).2]
    by_cases hm : m = n
    · subst m
      simp [(List.nodup_cons.1 hn).1]
    · simp [hm, Ne.symm hm]

section Plan

variable {packages : List Package} {accepts : String → Bool} {keep : Nat}
  {olderThan : Option Int} {now : Timestamp}

/-- **The versions of a name that a plan deletes** are those `planOf` picks for it, when the filter
accepts the name, and none otherwise. -/
theorem filter_planDeletions_name (n : String) :
    (planDeletions packages accepts keep olderThan now).filter (·.name == n) =
      if accepts n = true then planOf packages keep (Package.protectedAt olderThan now) n
      else [] := by
  have hnodup := (acceptedNames_sorted packages accepts).imp (fun h => ne_of_lt h)
  rw [planDeletions_eq, List.filter_flatMap]
  simp only [filter_planOf_name]
  rw [flatMap_ite_name hnodup]
  simp only [mem_acceptedNames]
  by_cases ha : accepts n = true
  · by_cases hn : n ∈ packages.map (·.name)
    · simp [ha, hn]
    · -- a name no package has has no versions to delete
      have hv : versionsOf packages n = [] :=
        List.eq_nil_iff_forall_not_mem.2 fun p hp => hn (List.mem_map.2
          ⟨p, ((mem_versionsOf packages n).1 hp).1, ((mem_versionsOf packages n).1 hp).2⟩)
      simp [ha, hn, planOf, hv]
  · simp [ha]

theorem mem_planDeletions {p : Package}
    (h : p ∈ planDeletions packages accepts keep olderThan now) :
    p ∈ packages ∧ accepts p.name = true ∧ Package.protectedAt olderThan now p = false := by
  rw [planDeletions_eq, List.mem_flatMap] at h
  obtain ⟨n, hn, hp⟩ := h
  obtain ⟨hmem, rfl, hprot⟩ := mem_planOf hp
  exact ⟨hmem, (mem_acceptedNames.1 hn).2, hprot⟩

/-- **A plan invents and repeats nothing**: each version is deleted at most as often as it is
listed. -/
theorem planDeletions_subperm :
    (planDeletions packages accepts keep olderThan now).Subperm packages := by
  refine List.subperm_ext_iff.2 fun v _ => ?_
  -- count `v` among the versions of its own name
  have hself : (fun q : Package => q.name == v.name) v = true := beq_self_eq_true _
  rw [← List.count_filter (p := fun q : Package => q.name == v.name) hself,
    filter_planDeletions_name,
    ← List.count_filter (p := fun q : Package => q.name == v.name) (l := packages) hself,
    ← (versionsOf_perm packages v.name).count_eq]
  split
  · exact planOf_sublist.count_le v
  · simp

/-- A plan goes through the names in text order and through each name's versions oldest first. -/
theorem planDeletions_sorted :
    (planDeletions packages accepts keep olderThan now).Pairwise fun p q =>
      p.name < q.name ∨ p.name = q.name ∧ p.olderOrSame q = true := by
  rw [planDeletions_eq, List.pairwise_flatMap]
  refine ⟨fun n _ => ?_, (acceptedNames_sorted packages accepts).imp fun hlt p hp q hq => ?_⟩
  · refine ((versionsOf_sorted packages n).sublist planOf_sublist).imp_of_mem ?_
    intro p q hp hq hpq
    exact .inr ⟨((mem_planOf hp).2.1).trans (mem_planOf hq).2.1.symm, hpq⟩
  · rw [(mem_planOf hp).2.1, (mem_planOf hq).2.1]
    exact .inl hlt

end Plan

/-! ### Away from leap seconds -/

/-- Away from leap seconds, the time from `b` to `a` is the plain difference of the two instants. -/
theorem Timestamp.sinceAtMost_eq {a b : Timestamp} (ha : a.nanos < 1000000000)
    (hb : b.nanos < 1000000000) (limit : Int) :
    Timestamp.sinceAtMost a b limit =
      decide ((a.seconds - b.seconds) * 1000000000 + a.nanos - b.nanos ≤ limit * 1000000000) := by
  have hb' : ¬ (1000000000 ≤ b.nanos) := by omega
  have ha' : ¬ (1000000000 ≤ a.nanos) := by omega
  simp only [Timestamp.sinceAtMost, Timestamp.since, hb', ha', and_false, if_false]
  congr 1
  apply propext
  -- the whole seconds and the nanoseconds recombine once the day split is undone
  have hfrac := Int.toNat_of_nonneg
    (Int.emod_nonneg ((a.nanos : Int) - b.nanos) (by decide : (1000000000 : Int) ≠ 0))
  omega

/-- Away from leap seconds, an age limit that protects a version protects every newer one. -/
theorem Package.protectedAt_of_olderOrSame {olderThan : Option Int} {now : Timestamp}
    {a b : Package} (hn : now.nanos < 1000000000) (ha : a.createdAt.nanos < 1000000000)
    (hb : b.createdAt.nanos < 1000000000) (hab : a.olderOrSame b = true)
    (h : Package.protectedAt olderThan now a = true) :
    Package.protectedAt olderThan now b = true := by
  cases olderThan with
  | none => simp [Package.protectedAt] at h
  | some age =>
    simp only [Package.protectedAt, Timestamp.sinceAtMost_eq hn ha, Timestamp.sinceAtMost_eq hn hb,
      decide_eq_true_eq] at h ⊢
    rw [Package.olderOrSame_iff] at hab
    -- the newer upload is the later instant
    have hlater : a.createdAt.seconds * 1000000000 + a.createdAt.nanos ≤
        b.createdAt.seconds * 1000000000 + b.createdAt.nanos := by
      omega
    omega

/-- Filtering a list by a test that, once it holds, holds of everything before keeps a prefix. -/
theorem filter_eq_take {α : Type} {q : α → Bool} {l : List α}
    (h : l.Pairwise fun a b => q b = true → q a = true) :
    l.filter q = l.take (l.filter q).length := by
  induction l with
  | nil => rfl
  | cons a rest ih =>
    by_cases ha : q a = true
    · rw [List.filter_cons_of_pos ha, List.length_cons, List.take_succ_cons, ← ih h.of_cons]
    · -- nothing after a failing element passes
      have hrest : rest.filter q = [] :=
        List.filter_eq_nil_iff.2 fun b hb hqb => ha (List.rel_of_pairwise_cons h hb hqb)
      simp [ha, hrest]

/-- **Away from leap seconds, a plan deletes the oldest versions of a name**: the protected ones
are its newest, so the unprotected ones come first. -/
theorem planOf_eq_take {packages : List Package} {olderThan : Option Int} {now : Timestamp}
    (keep : Nat) (hn : now.nanos < 1000000000)
    (hv : ∀ p ∈ packages, p.createdAt.nanos < 1000000000) (name : String) :
    planOf packages keep (Package.protectedAt olderThan now) name =
      (versionsOf packages name).take (min (packages.countP (·.name == name) - keep)
        (packages.countP fun p => p.name == name && !Package.protectedAt olderThan now p)) := by
  have hpre : ((versionsOf packages name).filter fun p => !Package.protectedAt olderThan now p) =
      (versionsOf packages name).take
        ((versionsOf packages name).filter fun p =>
          !Package.protectedAt olderThan now p).length := by
    refine filter_eq_take ((versionsOf_sorted packages name).imp_of_mem ?_)
    intro a b ha hb hab hnb
    have hpa := ((mem_versionsOf packages name).1 ha).1
    have hpb := ((mem_versionsOf packages name).1 hb).1
    cases hpr : Package.protectedAt olderThan now a with
    | false => rfl
    | true =>
      have := Package.protectedAt_of_olderOrSame hn (hv a hpa) (hv b hpb) hab hpr
      simp [this] at hnb
  rw [planOf, hpre, List.take_take, length_unprotected_versionsOf, length_versionsOf]

/-! ### What a plan deletes -/

/-- **A plan deletes, of each accepted name, its oldest unprotected versions, as many as the name
has beyond `keep`.** The versions of a name are taken in upload order, equal upload times in
listing order (`versionsOf`: a permutation of the name's versions, sorted, and keeping the listing
order of every pair in upload order). Then: the plan deletes no version more often than it is
listed; it deletes only versions of accepted names that the age limit does not protect; of an
accepted name with `c` versions, `e` of them unprotected, it deletes the first unprotected ones in
that order, `min (c - keep) e` of them; away from leap seconds these are the oldest
`min (c - keep) e` versions of the name, so its newest `keep` are spared; and the plan goes
through the names in text order and through each name's versions oldest first. -/
theorem plan_deletes_oldest_unprotected (packages : List Package) (accepts : String → Bool)
    (keep : Nat) (olderThan : Option Int) (now : Timestamp) :
    (∀ n, (versionsOf packages n).Perm (packages.filter (·.name == n)) ∧
      (versionsOf packages n).Pairwise (fun a b => a.olderOrSame b = true) ∧
      ∀ a b, a.olderOrSame b = true → [a, b].Sublist (packages.filter (·.name == n)) →
        [a, b].Sublist (versionsOf packages n)) ∧
    (planDeletions packages accepts keep olderThan now).Subperm packages ∧
    (∀ p ∈ planDeletions packages accepts keep olderThan now,
      accepts p.name = true ∧ Package.protectedAt olderThan now p = false) ∧
    (∀ n, accepts n = true →
      (planDeletions packages accepts keep olderThan now).filter (·.name == n) =
        ((versionsOf packages n).filter fun p => !Package.protectedAt olderThan now p).take
          (packages.countP (·.name == n) - keep) ∧
      ((planDeletions packages accepts keep olderThan now).filter (·.name == n)).length =
        min (packages.countP (·.name == n) - keep)
          (packages.countP fun p => p.name == n && !Package.protectedAt olderThan now p)) ∧
    (now.nanos < 1000000000 → (∀ p ∈ packages, p.createdAt.nanos < 1000000000) →
      ∀ n, accepts n = true →
        (planDeletions packages accepts keep olderThan now).filter (·.name == n) =
          (versionsOf packages n).take (min (packages.countP (·.name == n) - keep)
            (packages.countP fun p => p.name == n && !Package.protectedAt olderThan now p))) ∧
    (planDeletions packages accepts keep olderThan now).Pairwise fun p q =>
      p.name < q.name ∨ p.name = q.name ∧ p.olderOrSame q = true := by
  refine ⟨fun n => ⟨versionsOf_perm packages n, versionsOf_sorted packages n,
      fun _ _ hab h => versionsOf_stable packages n hab h⟩,
    planDeletions_subperm, fun p hp => (mem_planDeletions hp).2, fun n ha => ?_,
    fun hn hv n ha => ?_, planDeletions_sorted⟩
  · rw [filter_planDeletions_name, if_pos ha, ← length_planOf]
    refine ⟨?_, rfl⟩
    rw [planOf, length_versionsOf]
  · rw [filter_planDeletions_name, if_pos ha, planOf_eq_take keep hn hv]

/-- Two versions a day apart, both older than a day, with one to keep: the older is deleted, as
the oldest unprotected version. -/
theorem plan_deletes_older_of_two :
    let versions : List Package := [1709251200, 1709337600].map fun t =>
      { name := "api", version := toString t, distroVersion := "ubuntu/focal",
        createdAt := ⟨t, 0⟩, htmlUrl := "" }
    let now : Timestamp := ⟨1711929600, 0⟩
    (now.nanos < 1000000000 ∧ (∀ p ∈ versions, p.createdAt.nanos < 1000000000) ∧
      (fun _ => true : String → Bool) "api" = true) ∧
    (planDeletions versions (fun _ => true) 1 (some 86400) now).filter (·.name == "api") =
      (versionsOf versions "api").take (min (versions.countP (·.name == "api") - 1)
        (versions.countP fun p => p.name == "api" &&
          !Package.protectedAt (some 86400) now p)) := by
  intro versions now
  have hn : now.nanos < 1000000000 := by decide
  have hv : ∀ p ∈ versions, p.createdAt.nanos < 1000000000 := by decide
  exact ⟨⟨hn, hv, rfl⟩,
    (plan_deletes_oldest_unprotected versions (fun _ => true) 1 (some 86400) now).2.2.2.2.1 hn hv
      "api" rfl⟩

/-- **Across a leap second the newest version can go.** A version uploaded during a leap second
counts as younger than one uploaded right after it: with one version to keep and a limit of ten
seconds, ten seconds after the newer upload the older version is protected and the newer one,
the newest of the name, is deleted. -/
theorem plan_deletes_newest_across_leap_second :
    let older : Package :=
      { name := "api", version := "1.0", distroVersion := "ubuntu/focal",
        createdAt := ⟨1483228799, 1500000000⟩,
        htmlUrl := "/acme/test/packages/ubuntu/focal/api_1.0.deb" }
    let newer : Package :=
      { name := "api", version := "1.1", distroVersion := "ubuntu/focal",
        createdAt := ⟨1483228800, 0⟩, htmlUrl := "/acme/test/packages/ubuntu/focal/api_1.1.deb" }
    versionsOf [older, newer] "api" = [older, newer] ∧
      planDeletions [older, newer] (fun _ => true) 1 (some 10) ⟨1483228810, 100000000⟩ =
        [newer] := by
  intro older newer
  -- the versions are listed oldest first, so sorting keeps them as listed
  have hv : versionsOf [older, newer] "api" = [older, newer] := by
    rw [versionsOf_of_sorted _ _ (by decide)]
    decide
  refine ⟨hv, ?_⟩
  have hn : dedupAdjacent (([older, newer].map (·.name)).filter fun _ => true) = ["api"] := by
    decide
  rw [planDeletions_eq, acceptedNames_of_sorted (by decide), hn, List.flatMap_cons,
    List.flatMap_nil, List.append_nil, planOf, hv]
  decide

end Rollout

import Mathlib
import Rollout.Proofs.DryRun
/-!
# Where decoded values come from, and how deeply options nest

Decoding never invents structure: every entry of a decoded record is the decoding, by its field's
shape, of a value directly inside the document, or the value the field takes when absent
(`decode_record_get?`); a list decodes item by item (`decodeItems_mem`), and options of any value
decode to themselves (`decode_keyed_any`).

So the specifications listed under a group's `acts` have options that nest strictly less deeply
than the group's own (`depth_lt_of_mem_children`): each comes from an item of the `acts` array,
which sits inside the group's options. This is what bounds the recursion of assembling a tree,
and what makes the nesting limit of `Actor.build` unreachable.
-/

namespace Rollout.Json

theorem Field.lookup_mem {k : String} {fields : List Field} {f : Field}
    (h : Field.lookup k fields = some f) : f ∈ fields := by
  induction fields with
  | nil => simp [Field.lookup] at h
  | cons g rest ih =>
    unfold Field.lookup at h
    split at h
    · cases h
      exact List.mem_cons_self
    · exact List.mem_cons_of_mem _ (ih h)

namespace Shape

/-- A value directly inside another: an entry's value of an object, or an item of an array. -/
def Inside (x v : Value) : Prop :=
  match v with
  | .object fs => ∃ k, (k, x) ∈ fs
  | .array xs => x ∈ xs
  | _ => False

theorem decodeFields_get? {fields : List Field} {closed : Bool} {seen seen' fs : List (String × Value)}
    (h : decodeFields fields closed seen fs = .ok seen') {n : String} {r : Value}
    (hr : Keyed.get? n seen' = some r) :
    Keyed.get? n seen = some r ∨
      ∃ k x f, (k, x) ∈ fs ∧ Field.lookup k fields = some f ∧ f.name = n ∧ decode f.shape x = .ok r := by
  induction fs generalizing seen with
  | nil =>
    rw [decodeFields] at h
    cases h
    exact .inl hr
  | cons e rest ih =>
    obtain ⟨k, x⟩ := e
    rw [decodeFields] at h
    split at h
    · split at h
      · cases h
      · rcases ih h with h' | ⟨k', x', f, hm, hf⟩
        · exact .inl h'
        · exact .inr ⟨k', x', f, List.mem_cons_of_mem _ hm, hf⟩
    · rename_i f hf
      split at h
      · cases h
      · cases hy : decode f.shape x with
        | error m => rw [hy] at h; cases h
        | ok y =>
          rw [hy] at h
          rcases ih h with h' | ⟨k', x', f', hm, hf'⟩
          · by_cases hn : n = f.name
            · subst hn
              rw [Keyed.get?_insert_self] at h'
              cases h'
              exact .inr ⟨k, x, f, List.mem_cons_self, hf, rfl, hy⟩
            · rw [Keyed.get?_insert_ne hn] at h'
              exact .inl h'
          · exact .inr ⟨k', x', f', List.mem_cons_of_mem _ hm, hf'⟩

theorem completeRecord_get? {seen all : List (String × Value)} {fields : List Field}
    (h : completeRecord seen fields = .ok all) {n : String} {r : Value}
    (hr : Keyed.get? n all = some r) :
    Keyed.get? n seen = some r ∨ ∃ f ∈ fields, f.name = n ∧ absentValue f = .ok r := by
  induction fields generalizing all with
  | nil =>
    rw [completeRecord] at h
    cases h
    simp [Keyed.get?] at hr
  | cons f rest ih =>
    rw [completeRecord] at h
    -- the field's value, found or taken as absent, heads the record
    have key : ∀ v, (Keyed.get? f.name seen = some v ∨ absentValue f = .ok v) →
        (completeRecord seen rest >>= fun vs => pure ((f.name, v) :: vs)) = .ok all →
        Keyed.get? n seen = some r ∨ ∃ f' ∈ f :: rest, f'.name = n ∧ absentValue f' = .ok r := by
      intro v hv h
      obtain ⟨vs, hvs, h⟩ := Except.bind_eq_ok.1 h
      cases h
      by_cases hn : n = f.name
      · subst hn
        simp only [Keyed.get?, if_pos, Option.some.injEq] at hr
        subst hr
        exact hv.imp id fun hv => ⟨f, List.mem_cons_self, rfl, hv⟩
      · simp only [Keyed.get?, hn, if_false] at hr
        rcases ih hvs hr with h' | ⟨f', hf', hfn⟩
        · exact .inl h'
        · exact .inr ⟨f', List.mem_cons_of_mem _ hf', hfn⟩
    split at h
    · exact key _ (.inl ‹_›) h
    · obtain ⟨v, hv, h⟩ := Except.bind_eq_ok.1 h
      exact key v (.inr hv) h

theorem decodePositional_get? {name : String} {count index : Nat} {fields : List Field}
    {xs : List Value} {all : List (String × Value)}
    (h : decodePositional name count index fields xs = .ok all) {n : String} {r : Value}
    (hr : Keyed.get? n all = some r) :
    ∃ f ∈ fields, f.name = n ∧ ((∃ x ∈ xs, decode f.shape x = .ok r) ∨ absentValue f = .ok r) := by
  induction fields generalizing xs index all with
  | nil =>
    cases xs with
    | nil =>
      rw [decodePositional] at h
      cases h
      simp [Keyed.get?] at hr
    | cons x more =>
      rw [decodePositional] at h
      cases h
  | cons f rest ih =>
    -- the record's first entry is the first field, then the rest come from the rest
    have head : ∀ v vs, all = (f.name, v) :: vs →
        decodePositional name count (index + 1) rest (xs.drop 1) = .ok vs →
        ((∃ x ∈ xs, decode f.shape x = .ok v) ∨ absentValue f = .ok v) →
        ∃ f' ∈ f :: rest, f'.name = n ∧ ((∃ x ∈ xs, decode f'.shape x = .ok r) ∨ absentValue f' = .ok r) := by
      intro v vs hall hvs hv
      subst hall
      by_cases hn : n = f.name
      · subst hn
        simp only [Keyed.get?, if_pos, Option.some.injEq] at hr
        subst hr
        exact ⟨f, List.mem_cons_self, rfl, hv⟩
      · simp only [Keyed.get?, hn, if_false] at hr
        obtain ⟨f', hf', hfn, hx⟩ := ih hvs hr
        refine ⟨f', List.mem_cons_of_mem _ hf', hfn, hx.imp_left ?_⟩
        rintro ⟨x, hx, hd⟩
        exact ⟨x, List.mem_of_mem_drop hx, hd⟩
    cases xs with
    | nil =>
      rw [decodePositional] at h
      split at h
      · rename_i v hab
        obtain ⟨vs, hvs, h⟩ := Except.bind_eq_ok.1 h
        cases h
        exact head v vs rfl hvs (.inr (by simp [absentValue, hab]))
      · cases h
    | cons x more =>
      rw [decodePositional] at h
      obtain ⟨y, hy, h⟩ := Except.bind_eq_ok.1 h
      obtain ⟨vs, hvs, h⟩ := Except.bind_eq_ok.1 h
      cases h
      exact head y vs rfl hvs (.inl ⟨x, List.mem_cons_self, hy⟩)

/-- **Every entry of a decoded record comes from a value directly inside the document, decoded by
its field's shape, or is what the field takes when absent.** -/
theorem decode_record_get? {name : String} {fields : List Field} {closed : Bool} {v : Value}
    {all : List (String × Value)} (h : decode (.record name fields closed) v = .ok (.object all))
    {n : String} {r : Value} (hr : Keyed.get? n all = some r) :
    ∃ f ∈ fields, f.name = n ∧ ((∃ x, Inside x v ∧ decode f.shape x = .ok r) ∨ absentValue f = .ok r) := by
  rw [decode.eq_def] at h
  cases v with
  | object fs =>
    simp only at h
    obtain ⟨seen, hseen, h⟩ := Except.bind_eq_ok.1 h
    obtain ⟨all', hall, h⟩ := Except.bind_eq_ok.1 h
    cases h
    rcases completeRecord_get? hall hr with h' | ⟨f, hf, hfn, hab⟩
    · -- decoding starts from no fields seen
      rcases decodeFields_get? hseen h' with h'' | ⟨k, x, f, hm, hf, hfn, hd⟩
      · simp [Keyed.get?] at h''
      · exact ⟨f, Field.lookup_mem hf, hfn, .inl ⟨x, ⟨k, hm⟩, hd⟩⟩
    · exact ⟨f, hf, hfn, .inr hab⟩
  | array xs =>
    simp only at h
    obtain ⟨all', hall, h⟩ := Except.bind_eq_ok.1 h
    cases h
    obtain ⟨f, hf, hfn, hx⟩ := decodePositional_get? hall hr
    -- an item of the array is inside it by definition
    exact ⟨f, hf, hfn, hx⟩
  | _ => cases h

theorem decodeItems_mem {s : Shape} {xs ys : List Value} (h : decodeItems s xs = .ok ys)
    {y : Value} (hy : y ∈ ys) : ∃ x ∈ xs, decode s x = .ok y := by
  induction xs generalizing ys with
  | nil =>
    rw [decodeItems] at h
    cases h
    cases hy
  | cons x rest ih =>
    rw [decodeItems] at h
    obtain ⟨y', hy', h⟩ := Except.bind_eq_ok.1 h
    obtain ⟨ys', hys', h⟩ := Except.bind_eq_ok.1 h
    cases h
    rcases List.mem_cons.1 hy with rfl | hy
    · exact ⟨x, List.mem_cons_self, hy'⟩
    · obtain ⟨x', hx', hd⟩ := ih hys' hy
      exact ⟨x', List.mem_cons_of_mem _ hx', hd⟩

theorem decodeEntries_any {fs es : List (String × Value)} (h : decodeEntries .any fs = .ok es) :
    es = fs := by
  induction fs generalizing es with
  | nil =>
    rw [decodeEntries] at h
    cases h
    rfl
  | cons e rest ih =>
    obtain ⟨k, x⟩ := e
    rw [decodeEntries] at h
    obtain ⟨y, hy, h⟩ := Except.bind_eq_ok.1 h
    obtain ⟨ys, hys, h⟩ := Except.bind_eq_ok.1 h
    rw [decode] at hy
    cases hy
    cases h
    rw [ih hys]

theorem decode_list {item : Shape} {v r : Value} (h : decode (.list item) v = .ok r) :
    ∃ xs ys, v = .array xs ∧ r = .array ys ∧ decodeItems item xs = .ok ys := by
  rw [decode.eq_def] at h
  cases v with
  | array xs =>
    simp only at h
    cases hd : decodeItems item xs with
    | error m => rw [hd] at h; cases h
    | ok ys => rw [hd] at h; cases h; exact ⟨xs, ys, rfl, rfl, hd⟩
  | _ => cases h

theorem decode_keyed_any {v r : Value} (h : decode (.keyed .any) v = .ok r) :
    ∃ fs, v = .object fs ∧ r = .object fs := by
  rw [decode.eq_def] at h
  cases v with
  | object fs =>
    simp only at h
    cases hd : decodeEntries .any fs with
    | error m => rw [hd] at h; cases h
    | ok es => rw [hd] at h; cases h; exact ⟨fs, rfl, by rw [decodeEntries_any hd]⟩
  | _ => cases h

theorem decode_record_object {name : String} {fields : List Field} {closed : Bool} {v r : Value}
    (h : decode (.record name fields closed) v = .ok r) :
    (∃ fs, v = .object fs) ∨ (∃ xs, v = .array xs) := by
  rw [decode.eq_def] at h
  cases v with
  | object fs => exact .inl ⟨fs, rfl⟩
  | array xs => exact .inr ⟨xs, rfl⟩
  | _ => cases h

theorem decode_record_value {name : String} {fields : List Field} {closed : Bool} {v r : Value}
    (h : decode (.record name fields closed) v = .ok r) : ∃ all, r = .object all := by
  rw [decode.eq_def] at h
  cases v with
  | object fs =>
    simp only at h
    obtain ⟨seen, -, h⟩ := Except.bind_eq_ok.1 h
    obtain ⟨all, -, h⟩ := Except.bind_eq_ok.1 h
    cases h
    exact ⟨all, rfl⟩
  | array xs =>
    simp only at h
    obtain ⟨all, -, h⟩ := Except.bind_eq_ok.1 h
    cases h
    exact ⟨all, rfl⟩
  | _ => cases h

end Shape

end Rollout.Json

namespace Rollout.Assembly

open Rollout.Json

theorem depthItems_le {x : Value} {xs : List Value} (h : x ∈ xs) : depth x ≤ depthItems xs := by
  induction xs with
  | nil => cases h
  | cons y rest ih =>
    rw [depthItems]
    rcases List.mem_cons.1 h with rfl | h
    · exact Nat.le_max_left _ _
    · exact Nat.le_trans (ih h) (Nat.le_max_right _ _)

theorem depthFields_le {k : String} {x : Value} {fs : List (String × Value)} (h : (k, x) ∈ fs) :
    depth x ≤ depthFields fs := by
  induction fs with
  | nil => cases h
  | cons e rest ih =>
    obtain ⟨k', y⟩ := e
    rw [depthFields]
    rcases List.mem_cons.1 h with h | h
    · cases h
      exact Nat.le_max_left _ _
    · exact Nat.le_trans (ih h) (Nat.le_max_right _ _)

/-- A value directly inside another nests less deeply. -/
theorem depth_lt_of_inside {x v : Value} (h : Shape.Inside x v) : depth x < depth v := by
  cases v with
  | array xs =>
    rw [depth]
    have := depthItems_le (x := x) h
    omega
  | object fs =>
    rw [depth]
    obtain ⟨k, hk⟩ := h
    have := depthFields_le hk
    omega
  | _ => cases h

theorem one_le_depth_object (fs : List (String × Value)) : 1 ≤ depth (.object fs) := by
  rw [depth]
  omega

theorem one_le_depth_array (xs : List Value) : 1 ≤ depth (.array xs) := by
  rw [depth]
  omega

theorem depth_object_nil : depth (.object []) = 1 := by
  rw [depth, depthFields]

/-- The options of a decoded specification nest no deeper than the document it came from. -/
theorem depth_options_ofRecord_le {x y : Value} (h : Spec.shape.decode x = .ok y) :
    depth (.object (Spec.ofRecord y).options) ≤ depth x := by
  obtain ⟨all, rfl⟩ := Shape.decode_record_value h
  have hx : 1 ≤ depth x := by
    rcases Shape.decode_record_object h with ⟨fs, rfl⟩ | ⟨xs, rfl⟩
    · exact one_le_depth_object fs
    · exact one_le_depth_array xs
  simp only [Spec.ofRecord, Value.get?]
  cases hr : Keyed.get? "options" all with
  | none => simpa [depth_object_nil] using hx
  | some r =>
    obtain ⟨f, hf, hfn, hx'⟩ := Shape.decode_record_get? h hr
    simp only [List.mem_cons, List.not_mem_nil, or_false] at hf
    rcases hf with rfl | rfl | rfl
    · simp [Field.name] at hfn
    · simp [Field.name] at hfn
    · rcases hx' with ⟨x', hin, hd⟩ | hab
      · -- options written out: the entries themselves, one level inside
        obtain ⟨fs, rfl, rfl⟩ := Shape.decode_keyed_any hd
        exact Nat.le_of_lt (depth_lt_of_inside hin)
      · -- options left out: the fallback, an empty object
        cases hab
        simpa [Value.fields?, depth_object_nil] using hx

/-- **Each child of a group has options nesting strictly less deeply than the group's.** -/
theorem depth_lt_of_mem_children {spec : Spec} {specs : List Spec}
    (h : children spec = .ok specs) {s : Spec} (hs : s ∈ specs) :
    depth (.object s.options) < depth (.object spec.options) := by
  unfold children at h
  obtain ⟨o, ho, h⟩ := Except.bind_eq_ok.1 h
  have hd : groupShape.decode (.object spec.options) = .ok o := by
    unfold Spec.parseOptions at ho
    split at ho <;> cases ho
    assumption
  split at h
  · rename_i items hacts
    cases h
    obtain ⟨y, hy, rfl⟩ := List.mem_map.1 hs
    obtain ⟨all, rfl⟩ := Shape.decode_record_value hd
    obtain ⟨f, hf, -, hx⟩ := Shape.decode_record_get? hd hacts
    simp only [List.mem_cons, List.not_mem_nil, or_false] at hf
    subst hf
    rcases hx with ⟨x, hin, hdx⟩ | hab
    · -- the acts list lies inside the options, and each act inside the list
      obtain ⟨xs, ys, rfl, hys, hitems⟩ := Shape.decode_list hdx
      cases hys
      obtain ⟨xi, hxi, hdi⟩ := Shape.decodeItems_mem hitems hy
      calc depth (.object (Spec.ofRecord y).options)
          ≤ depth xi := depth_options_ofRecord_le hdi
        _ < depth (.array xs) := depth_lt_of_inside hxi
        _ < depth (.object spec.options) := depth_lt_of_inside hin
    · cases hab
  · cases h
    cases hs

end Rollout.Assembly

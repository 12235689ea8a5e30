import Mathlib
import Rollout.Proofs.ThresholdText
/-!
# The grammar of threshold texts

Reading a threshold trims the text of blanks. A text that then ends in `%` is a percentage: what
stands before the `%`, trimmed again, must be a percentage number, whole decimal digits and
optionally a point and at most two decimals, and denote at most 100%. Any other text is a
count: an optional plus sign and decimal digits, of at most 64 bits. The reader fails in three
ways: out of range, for a percentage number above 100%; not a percentage, for a text ending in
`%` that is no percentage number; neither, for anything else.

The hundredths a percentage number denotes are computed with 64-bit checked arithmetic, so a
percentage number of `2 ^ 64` hundredths or more is refused as no percentage number, not as out
of range.

Main statements:

* `hundredths?_eq_some_iff`, `parseU64_eq_ok_iff`: the two number readers accept exactly their
  grammars, within 64 bits;
* `parse_follows_grammar`: **what reading a threshold gives, for every text**;
* `parse_huge_percentage_not_a_percentage`: a percentage number past 64 bits is refused as no
  percentage.
-/

namespace Rollout.Threshold

open Number

/-! ### The grammars -/

/-- The number before the `%` of a percentage, denoting `h` hundredths of a percent: whole
decimal digits, then optionally a point and at most two decimals. -/
inductive PercentNumber : List Char → Nat → Prop
  | whole {ws : List Char} (hw : ws ≠ []) (hwd : ∀ c ∈ ws, IsDigit c) :
      PercentNumber ws (Nat.ofDigitChars 10 ws 0 * 100)
  | point {ws fs : List Char} (hw : ws ≠ []) (hwd : ∀ c ∈ ws, IsDigit c)
      (hfd : ∀ c ∈ fs, IsDigit c) (hfl : fs.length ≤ 2) :
      PercentNumber (ws ++ '.' :: fs)
        (Nat.ofDigitChars 10 ws 0 * 100 + Nat.ofDigitChars 10 fs 0 * 10 ^ (2 - fs.length))

/-- The text of a count of value `n`: an optional plus sign, then decimal digits. -/
inductive CountNumber : List Char → Nat → Prop
  | plain {ds : List Char} (hne : ds ≠ []) (hd : ∀ c ∈ ds, IsDigit c) :
      CountNumber ds (Nat.ofDigitChars 10 ds 0)
  | signed {ds : List Char} (hne : ds ≠ []) (hd : ∀ c ∈ ds, IsDigit c) :
      CountNumber ('+' :: ds) (Nat.ofDigitChars 10 ds 0)

/-! ### Reading percentage numbers -/

/-- Up to two decimals, the fraction read is the decimals scaled to hundredths. -/
theorem fraction_value {fs : List Char} (hfl : fs.length ≤ 2) :
    (if fs.length = 1 then digitsValue fs * 10 else digitsValue fs) =
      Nat.ofDigitChars 10 fs 0 * 10 ^ (2 - fs.length) := by
  rw [digitsValue_eq_ofDigitChars]
  match fs, hfl with
  | [], _ => rfl
  | [_], _ => simp
  | [_, _], _ => simp

/-- Reading a percentage number, split at its first point. -/
theorem hundredths?_split (cs : List Char) :
    hundredths? (String.ofList cs) =
      if (cs.takeWhile (· != '.')).isEmpty || !allDigits (cs.takeWhile (· != '.')) ||
          !allDigits ((cs.dropWhile (· != '.')).drop 1) ||
          decide (((cs.dropWhile (· != '.')).drop 1).length > 2) then none
      else
        let f := (cs.dropWhile (· != '.')).drop 1
        let v := digitsValue (cs.takeWhile (· != '.')) * 100 +
          if f.length = 1 then digitsValue f * 10 else digitsValue f
        if v > u64Max then none else some v := by
  simp only [hundredths?, String.toList_ofList, beq_iff_eq]

/-- What precedes the first point of a text that has one, and what follows it. -/
theorem split_at_point {cs : List Char} {c : Char} {rest : List Char}
    (h : cs.dropWhile (· != '.') = c :: rest) :
    c = '.' ∧ cs = cs.takeWhile (· != '.') ++ '.' :: rest := by
  have hc : c = '.' := by
    have := List.head_dropWhile_not (fun x => x != '.') (l := cs) (by simp [h])
    simpa [h] using this
  refine ⟨hc, ?_⟩
  have e := List.takeWhile_append_dropWhile (p := fun x => x != '.') (l := cs)
  rw [h, hc] at e
  exact e.symm

/-- **The percentage numbers read are those of the grammar, within 64 bits.** -/
theorem hundredths?_eq_some_iff {cs : List Char} {h : Nat} :
    hundredths? (String.ofList cs) = some h ↔ PercentNumber cs h ∧ h ≤ u64Max := by
  constructor
  · intro hs
    rw [hundredths?_split] at hs
    by_cases hbad : ((cs.takeWhile (· != '.')).isEmpty || !allDigits (cs.takeWhile (· != '.')) ||
        !allDigits ((cs.dropWhile (· != '.')).drop 1) ||
        decide (((cs.dropWhile (· != '.')).drop 1).length > 2)) = true
    · rw [if_pos hbad] at hs
      cases hs
    rw [if_neg hbad] at hs
    simp only [Bool.or_eq_true, Bool.not_eq_true', List.isEmpty_iff, decide_eq_true_eq,
      not_or, Bool.not_eq_false, allDigits_iff, Nat.not_lt] at hbad
    obtain ⟨⟨⟨hw, hwd⟩, hfd⟩, hfl⟩ := hbad
    dsimp only at hs
    rw [fraction_value hfl, digitsValue_eq_ofDigitChars] at hs
    obtain ⟨hbound, hs⟩ := Option.ite_none_left_eq_some.1 hs
    cases hs
    refine ⟨?_, Nat.le_of_not_lt hbound⟩
    -- the text has no point, or its first point ends the whole digits
    cases hd : cs.dropWhile (· != '.') with
    | nil =>
      have hcs : cs.takeWhile (· != '.') = cs := by
        simpa [hd] using List.takeWhile_append_dropWhile (p := fun x => x != '.') (l := cs)
      simp only [List.drop_nil, List.length_nil, Nat.sub_zero]
      rw [show Nat.ofDigitChars 10 [] 0 = 0 from rfl, Nat.zero_mul, Nat.add_zero]
      rw [hcs] at hw hwd ⊢
      exact .whole hw hwd
    | cons c rest =>
      obtain ⟨-, hcs⟩ := split_at_point hd
      simp only [hd, List.drop_succ_cons, List.drop_zero] at hfd hfl ⊢
      have hp := PercentNumber.point hw hwd hfd hfl
      rwa [← hcs] at hp
  · rintro ⟨hp, hb⟩
    cases hp with
    | whole hw hwd =>
      rw [hundredths?_whole hw hwd, digitsValue_eq_ofDigitChars, if_neg (Nat.not_lt.2 hb)]
    | point hw hwd hfd hfl =>
      rw [hundredths?_point hw hwd hfd hfl]
      dsimp only
      rw [fraction_value hfl, digitsValue_eq_ofDigitChars, if_neg (Nat.not_lt.2 hb)]

/-! ### Reading counts -/

theorem isDigit_of_digitValue? {c : Char} {d : Nat} (h : digitValue? c = some d) :
    IsDigit c ∧ d = c.toNat - '0'.toNat := by
  unfold digitValue? at h
  split at h
  · rename_i hc
    cases h
    exact ⟨by simpa [IsDigit] using hc, rfl⟩
  · cases h

/-- **Digits are read, from `a`, exactly when they are digits and their value stays within the
bound.** -/
theorem accumulate_eq_ok_iff {bound : Nat} {e : IntegerError} {ds : List Char} {a n : Nat}
    (ha : a ≤ bound) :
    accumulate bound e a ds = .ok n ↔
      (∀ c ∈ ds, IsDigit c) ∧ Nat.ofDigitChars 10 ds a ≤ bound ∧ n = Nat.ofDigitChars 10 ds a := by
  constructor
  · intro h
    induction ds generalizing a with
    | nil =>
      cases h
      exact ⟨by simp, ha, rfl⟩
    | cons c rest ih =>
      simp only [accumulate] at h
      split at h
      · cases h
      · rename_i d hd
        obtain ⟨hc, rfl⟩ := isDigit_of_digitValue? hd
        split at h
        · cases h
        · rename_i hb
          obtain ⟨hrest, hval, rfl⟩ := ih (Nat.le_of_not_lt hb) h
          -- the next value read is the one the digit gives
          have e : a * 10 + (c.toNat - '0'.toNat) = 10 * a + (c.toNat - '0'.toNat) := by omega
          rw [Nat.ofDigitChars_cons, ← e]
          exact ⟨fun x hx => (List.mem_cons.1 hx).elim (· ▸ hc) (hrest x), hval, rfl⟩
  · rintro ⟨hd, hb, rfl⟩
    exact accumulate_digits hd hb

/-- **The counts read are those of the grammar, within 64 bits.** -/
theorem parseU64_eq_ok_iff {cs : List Char} {n : Nat} :
    parseU64 (String.ofList cs) = .ok n ↔ CountNumber cs n ∧ n ≤ u64Max := by
  have hplus : ¬ IsDigit '+' := by decide
  have hminus : ¬ IsDigit '-' := by decide
  unfold parseU64 parseNat
  simp only [String.toList_ofList]
  split
  -- nothing, a lone plus sign and a lone minus sign are no counts
  · simp only [reduceCtorEq, false_iff, not_and]
    intro h
    cases h with
    | plain hne _ => exact absurd rfl hne
  · simp only [reduceCtorEq, false_iff, not_and]
    intro h
    cases h with
    | plain _ hd => exact absurd (hd '+' List.mem_cons_self) hplus
    | signed hne _ => exact absurd rfl hne
  · simp only [reduceCtorEq, false_iff, not_and]
    intro h
    cases h with
    | plain _ hd => exact absurd (hd '-' List.mem_cons_self) hminus
  · -- a plus sign, then the digits
    rename_i rest hrest
    rw [accumulate_eq_ok_iff (Nat.zero_le _)]
    constructor
    · rintro ⟨hd, hb, rfl⟩
      exact ⟨.signed hrest hd, hb⟩
    · rintro ⟨h, hb⟩
      cases h with
      | plain _ hd => exact absurd (hd '+' List.mem_cons_self) hplus
      | signed _ hd => exact ⟨hd, hb, rfl⟩
  · -- digits only
    rename_i hnil _ _ hsigned
    rw [accumulate_eq_ok_iff (Nat.zero_le _)]
    constructor
    · rintro ⟨hd, hb, rfl⟩
      exact ⟨.plain hnil hd, hb⟩
    · rintro ⟨h, hb⟩
      cases h with
      | plain _ hd => exact ⟨hd, hb, rfl⟩
      | signed _ _ => exact absurd rfl (hsigned _)

theorem hundredths?_eq_none_iff {cs : List Char} :
    hundredths? (String.ofList cs) = none ↔ ∀ h, PercentNumber cs h → u64Max < h := by
  rw [Option.eq_none_iff_forall_ne_some]
  refine forall_congr' fun h => ?_
  rw [Ne, hundredths?_eq_some_iff, not_and, Nat.not_le]

/-! ### Reading thresholds -/

/-- A text whose trim ends in `%` is read as a percentage: the number before the `%`, trimmed. -/
theorem parse_of_percent {s : String} {x : List Char} (ht : Text.trimChars s.toList = x ++ ['%']) :
    parse s = match hundredths? (String.ofList (Text.trimChars x)) with
      | none => .error (.notPercentage s)
      | some h => if h > full then .error (.outOfRange s) else .ok (.percentage h) := by
  cases hh : hundredths? (String.ofList (Text.trimChars x)) <;>
    simp only [parse, Text.trim, String.toList_ofList, ht, List.getLast?_concat,
      List.dropLast_concat, hh]

/-- Any other text is read as a count. -/
theorem parse_of_count {s : String} (ht : (Text.trimChars s.toList).getLast? ≠ some '%') :
    parse s = match parseU64 (String.ofList (Text.trimChars s.toList)) with
      | .ok n => .ok (.absolute n)
      | .error _ => .error (.neither s) := by
  cases hl : (Text.trimChars s.toList).getLast? with
  | none =>
    cases hp : parseU64 (String.ofList (Text.trimChars s.toList)) <;>
      simp only [parse, Text.trim, String.toList_ofList, hl, hp]
  | some c =>
    have hc : c ≠ '%' := fun e => ht (e ▸ hl)
    simp only [parse, Text.trim, String.toList_ofList, hl]
    split
    · rename_i e
      exact absurd (Option.some.inj e) hc
    · rfl

/-- A percentage text reads as the hundredths its number denotes, up to 100%; above 100% but
within 64 bits it is out of range; otherwise it is no percentage. -/
theorem parse_percent_outcomes {s : String} {x : List Char}
    (ht : Text.trimChars s.toList = x ++ ['%']) :
    (∀ h, parse s = .ok (.percentage h) ↔ PercentNumber (Text.trimChars x) h ∧ h ≤ full) ∧
    (parse s = .error (.outOfRange s) ↔
      ∃ h, PercentNumber (Text.trimChars x) h ∧ full < h ∧ h ≤ u64Max) ∧
    (parse s = .error (.notPercentage s) ↔ ∀ h, PercentNumber (Text.trimChars x) h → u64Max < h) ∧
    (∀ n, parse s ≠ .ok (.absolute n)) ∧ parse s ≠ .error (.neither s) := by
  have hfull : full ≤ u64Max := by decide
  rw [parse_of_percent ht]
  cases hh : hundredths? (String.ofList (Text.trimChars x)) with
  | none =>
    -- no percentage number within 64 bits
    have hn := hundredths?_eq_none_iff.1 hh
    refine ⟨fun h => ⟨nofun, fun ⟨hp, hb⟩ => absurd (hn h hp) (by omega)⟩,
      ⟨nofun, fun ⟨h, hp, _, hb⟩ => absurd (hn h hp) (by omega)⟩, ⟨fun _ => hn, fun _ => rfl⟩,
      fun _ => nofun, nofun⟩
  | some h₀ =>
    -- the number's hundredths are `h₀`, and no other value within 64 bits
    obtain ⟨hp₀, hb₀⟩ := hundredths?_eq_some_iff.1 hh
    have huniq : ∀ h, PercentNumber (Text.trimChars x) h → h ≤ u64Max → h = h₀ := fun h hp hb =>
      Option.some.inj ((hundredths?_eq_some_iff.2 ⟨hp, hb⟩).symm.trans hh)
    dsimp only
    split
    · rename_i hf
      refine ⟨fun h => ⟨nofun, fun ⟨hp, hb⟩ => ?_⟩, ⟨fun _ => ⟨h₀, hp₀, hf, hb₀⟩, fun _ => rfl⟩,
        ⟨nofun, fun hn => absurd (hn h₀ hp₀) (by omega)⟩, fun _ => nofun, nofun⟩
      have := huniq h hp (by omega)
      omega
    · rename_i hf
      refine ⟨fun h => ⟨?_, fun ⟨hp, hb⟩ => ?_⟩, ⟨nofun, fun ⟨h, hp, hf', hb⟩ => ?_⟩,
        ⟨nofun, fun hn => absurd (hn h₀ hp₀) (by omega)⟩, fun _ => nofun, nofun⟩
      · intro e
        cases e
        exact ⟨hp₀, by omega⟩
      · rw [huniq h hp (by omega)]
      · have := huniq h hp hb
        omega

/-- Any other text reads as the count its digits denote, within 64 bits; otherwise it is neither
a count nor a percentage. -/
theorem parse_count_outcomes {s : String} (ht : (Text.trimChars s.toList).getLast? ≠ some '%') :
    (∀ n, parse s = .ok (.absolute n) ↔ CountNumber (Text.trimChars s.toList) n ∧ n ≤ u64Max) ∧
    (parse s = .error (.neither s) ↔ ∀ n, CountNumber (Text.trimChars s.toList) n → u64Max < n) ∧
    (∀ h, parse s ≠ .ok (.percentage h)) ∧ parse s ≠ .error (.outOfRange s) ∧
    parse s ≠ .error (.notPercentage s) := by
  rw [parse_of_count ht]
  cases hc : parseU64 (String.ofList (Text.trimChars s.toList)) with
  | ok n₀ =>
    obtain ⟨hp₀, hb₀⟩ := parseU64_eq_ok_iff.1 hc
    refine ⟨fun n => ⟨?_, fun hn => ?_⟩, ⟨nofun, fun hn => absurd (hn n₀ hp₀) (by omega)⟩,
      fun _ => nofun, nofun, nofun⟩
    · intro e
      cases e
      exact ⟨hp₀, hb₀⟩
    · rw [parseU64_eq_ok_iff.2 hn] at hc
      cases hc
      rfl
  | error _ =>
    refine ⟨fun n => ⟨nofun, fun hn => ?_⟩, ⟨fun _ n hp => ?_, fun _ => rfl⟩, fun _ => nofun,
      nofun, nofun⟩
    · rw [parseU64_eq_ok_iff.2 hn] at hc
      cases hc
    · refine Nat.lt_of_not_le fun hb => ?_
      rw [parseU64_eq_ok_iff.2 ⟨hp, hb⟩] at hc
      cases hc

/-- **What reading a threshold gives, for every text.** Let `t` be the text trimmed of blanks.
It reads as a percentage of `h` hundredths exactly when `t` is `x` followed by `%` and `x`,
trimmed, is a percentage number of `h` hundredths, at most 100%; as a count `n` exactly when `t`
does not end in `%` and is a count text of value `n` within 64 bits. It fails as out of range
exactly when `x` is a percentage number above 100% and within 64 bits; as no percentage exactly
when `t` ends in `%` and `x` is no percentage number within 64 bits; and as neither exactly when
`t` does not end in `%` and is no count text within 64 bits. -/
theorem parse_follows_grammar (s : String) :
    (∀ h, parse s = .ok (.percentage h) ↔ ∃ x, Text.trimChars s.toList = x ++ ['%'] ∧
      PercentNumber (Text.trimChars x) h ∧ h ≤ full) ∧
    (∀ n, parse s = .ok (.absolute n) ↔ (Text.trimChars s.toList).getLast? ≠ some '%' ∧
      CountNumber (Text.trimChars s.toList) n ∧ n ≤ u64Max) ∧
    (parse s = .error (.outOfRange s) ↔ ∃ x h, Text.trimChars s.toList = x ++ ['%'] ∧
      PercentNumber (Text.trimChars x) h ∧ full < h ∧ h ≤ u64Max) ∧
    (parse s = .error (.notPercentage s) ↔ ∃ x, Text.trimChars s.toList = x ++ ['%'] ∧
      ∀ h, PercentNumber (Text.trimChars x) h → u64Max < h) ∧
    (parse s = .error (.neither s) ↔ (Text.trimChars s.toList).getLast? ≠ some '%' ∧
      ∀ n, CountNumber (Text.trimChars s.toList) n → u64Max < n) := by
  by_cases hp : (Text.trimChars s.toList).getLast? = some '%'
  · -- a percentage text: `x` is what precedes the `%`, and no other split ends in `%`
    obtain ⟨x, hx⟩ := List.getLast?_eq_some_iff.1 hp
    have hsplit : ∀ y, Text.trimChars s.toList = y ++ ['%'] ↔ y = x := fun y => by
      rw [hx, List.append_left_inj, eq_comm]
    obtain ⟨hpct, hrange, hnot, habs, hneither⟩ := parse_percent_outcomes hx
    simp only [hsplit, exists_and_left, exists_eq_left, hp, ne_eq, not_true_eq_false, false_and,
      iff_false]
    exact ⟨hpct, habs, hrange, hnot, hneither⟩
  · -- a count text
    obtain ⟨habs, hneither, hpct, hrange, hnot⟩ := parse_count_outcomes hp
    have hsplit : ∀ y, Text.trimChars s.toList ≠ y ++ ['%'] := fun y e => hp (by simp [e])
    simp only [hp, ne_eq, not_false_eq_true, true_and]
    exact ⟨fun h => ⟨fun e => absurd e (hpct h), fun ⟨y, hy, _⟩ => absurd hy (hsplit y)⟩, habs,
      ⟨fun e => absurd e hrange, fun ⟨y, _, hy, _⟩ => absurd hy (hsplit y)⟩,
      ⟨fun e => absurd e hnot, fun ⟨y, hy, _⟩ => absurd hy (hsplit y)⟩, hneither⟩

/-- Blanks around the number and before the `%` are trimmed away: ` 12.5 %` is a percentage
number of 1250 hundredths followed by `%`, and reads as such. -/
theorem parse_spaced_percentage : parse " 12.5 %" = .ok (.percentage 1250) := by
  have hnum : Text.trimChars "12.5 ".toList = ['1', '2'] ++ '.' :: ['5'] := by decide
  have hp := @PercentNumber.point ['1', '2'] ['5'] (by decide)
    (allDigits_iff.1 (by decide)) (allDigits_iff.1 (by decide)) (by decide)
  have hv : Nat.ofDigitChars 10 ['1', '2'] 0 * 100 + Nat.ofDigitChars 10 ['5'] 0 * 10 ^ (2 - 1) =
      1250 := by
    decide
  rw [← hnum, List.length_singleton, hv] at hp
  exact ((parse_follows_grammar " 12.5 %").1 1250).2 ⟨"12.5 ".toList, by decide, hp, by decide⟩

/-- **A percentage number past 64 bits is refused as no percentage**, not as out of range:
`184467440737095517%` is a percentage number of `18446744073709551700` hundredths, above 100%,
and reading it fails as no percentage. -/
theorem parse_huge_percentage_not_a_percentage :
    PercentNumber "184467440737095517".toList 18446744073709551700 ∧ full < 18446744073709551700 ∧
      parse "184467440737095517%" = .error (.notPercentage "184467440737095517%") := by
  refine ⟨?_, by decide, by decide⟩
  have hw := @PercentNumber.whole "184467440737095517".toList (by decide)
    (allDigits_iff.1 (by decide))
  have hv : Nat.ofDigitChars 10 "184467440737095517".toList 0 * 100 = 18446744073709551700 := by
    decide
  rwa [hv] at hw

end Rollout.Threshold

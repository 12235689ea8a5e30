import Mathlib
import Rollout.Threshold.Shape
/-!
# Threshold texts read back

`Threshold.display` writes a count as its decimal digits, and a percentage as the digits of its
whole part, then, unless the fraction is zero, a point and one decimal (when the second would be
zero) or two, then `%`. `Threshold.parse` reads exactly such texts back: a count that fits a
64-bit word, and a percentage of at most 100%; a percentage above 100% is refused as out of
range. Reading, from a text or from a document, gives only thresholds in that range, so every
threshold that was read is written as a text that reads back as it.

Main statements:

* `parse_display_absolute`, `parse_display_percentage`: the text of a count within 64 bits reads
  back as the count; the text of a percentage reads back as it up to 100%, and is refused as out
  of range above;
* `parse_inRange`, `decode_inRange`: **reading a text or a document gives only thresholds in
  range**;
* `display_reads_back`: **every threshold in range reads back from its text**, so does every
  threshold read, and thresholds in range with the same text are the same.
-/

namespace Rollout.Threshold

open Number

/-- Whether a threshold lies where reading can put it: a count that fits a 64-bit word, or a
percentage of at most 100%. -/
def InRange : Threshold → Prop
  | .absolute n => n ≤ u64Max
  | .percentage h => h ≤ full

instance : DecidablePred InRange := fun t =>
  match t with
  | .absolute n => inferInstanceAs (Decidable (n ≤ u64Max))
  | .percentage h => inferInstanceAs (Decidable (h ≤ full))

/-! ### Digits -/

/-- An ASCII digit, as the reader of thresholds tests it. -/
def IsDigit (c : Char) : Prop := ('0' ≤ c && c ≤ '9') = true

instance : DecidablePred IsDigit := fun c => inferInstanceAs (Decidable (('0' ≤ c && c ≤ '9') = true))

theorem isDigit_iff {c : Char} : IsDigit c ↔ 48 ≤ c.toNat ∧ c.toNat ≤ 57 := by
  simp only [IsDigit, Bool.and_eq_true, decide_eq_true_eq, Char.le_def, UInt32.le_iff_toNat_le]
  rfl

theorem isDigit_of_mem_toDigits {n : Nat} {c : Char} (h : c ∈ Nat.toDigits 10 n) : IsDigit c := by
  have := Nat.isDigit_of_mem_toDigits (by decide) (by decide) h
  simp only [Char.isDigit, Bool.and_eq_true, decide_eq_true_eq] at this
  exact isDigit_iff.2 ⟨this.1, this.2⟩

/-- The decimal digits of a number start and end with a digit. -/
theorem toDigits_ends (n : Nat) :
    (∀ c, (Nat.toDigits 10 n).head? = some c → IsDigit c) ∧
      (∀ c, (Nat.toDigits 10 n).getLast? = some c → IsDigit c) :=
  ⟨fun _ hc => isDigit_of_mem_toDigits (List.mem_of_head? hc),
    fun _ hc => isDigit_of_mem_toDigits (List.mem_of_getLast? hc)⟩

/-- A digit is neither a point, a percent sign, a sign nor a blank. -/
theorem IsDigit.ne {c : Char} (h : IsDigit c) :
    c ≠ '.' ∧ c ≠ '%' ∧ c ≠ '+' ∧ c ≠ '-' ∧ Text.isBlank c = false := by
  have ⟨h1, h2⟩ := isDigit_iff.1 h
  refine ⟨?_, ?_, ?_, ?_, ?_⟩
  · rintro rfl; simp at h1
  · rintro rfl; simp at h1
  · rintro rfl; simp at h1
  · rintro rfl; simp at h1
  · simp only [Text.isBlank, Bool.or_eq_false_iff, Bool.and_eq_false_iff, decide_eq_false_iff_not,
      beq_eq_false_iff_ne]
    omega

theorem allDigits_iff {cs : List Char} : allDigits cs = true ↔ ∀ c ∈ cs, IsDigit c := by
  simp [allDigits, IsDigit]

theorem digitsValue_eq_ofDigitChars (cs : List Char) :
    digitsValue cs = Nat.ofDigitChars 10 cs 0 := by
  simp only [digitsValue, Nat.ofDigitChars, Nat.mul_comm]
  rfl

@[simp] theorem digitsValue_toDigits (n : Nat) : digitsValue (Nat.toDigits 10 n) = n := by
  rw [digitsValue_eq_ofDigitChars, Nat.ofDigitChars_ten_toDigits]

theorem le_ofDigitChars (cs : List Char) (a : Nat) : a ≤ Nat.ofDigitChars 10 cs a := by
  rw [Nat.ofDigitChars_eq_ofDigitChars_zero]
  have : a ≤ 10 ^ cs.length * a := Nat.le_mul_of_pos_left a (Nat.pow_pos (by decide))
  omega

/-! ### Reading counts -/

/-- Digits whose value stays within the bound are read to that value. -/
theorem accumulate_digits {bound : Nat} {e : IntegerError} {cs : List Char} {a : Nat}
    (hd : ∀ c ∈ cs, IsDigit c) (hb : Nat.ofDigitChars 10 cs a ≤ bound) :
    accumulate bound e a cs = .ok (Nat.ofDigitChars 10 cs a) := by
  induction cs generalizing a with
  | nil => rfl
  | cons c rest ih =>
    have hc := isDigit_iff.1 (hd c (by simp))
    have hv : digitValue? c = some (c.toNat - 48) := by
      have : ('0' ≤ c ∧ c ≤ '9') := by simpa [IsDigit] using hd c (by simp)
      simp [digitValue?, this]
    rw [Nat.ofDigitChars_cons] at hb ⊢
    -- every value read on the way is at most the final one, hence within the bound
    have hnext := le_ofDigitChars rest (10 * a + (c.toNat - '0'.toNat))
    have heq : a * 10 + (c.toNat - 48) = 10 * a + (c.toNat - '0'.toNat) := by
      rw [show '0'.toNat = 48 from rfl]; omega
    simp only [accumulate, hv, heq]
    rw [if_neg (by omega)]
    exact ih (fun c h => hd c (List.mem_cons_of_mem _ h)) hb

/-- Reading digits never passes the bound. -/
theorem accumulate_le {bound : Nat} {e : IntegerError} {cs : List Char} {a n : Nat} (ha : a ≤ bound)
    (h : accumulate bound e a cs = .ok n) : n ≤ bound := by
  induction cs generalizing a with
  | nil => cases h; exact ha
  | cons c rest ih =>
    simp only [accumulate] at h
    split at h
    · cases h
    · split at h
      · cases h
      · exact ih (by omega) h

/-- The decimal text of a number within the bound reads back as the number. -/
theorem parseNat_toDigits {bound n : Nat} (hn : n ≤ bound) :
    parseNat bound (String.ofList (Nat.toDigits 10 n)) = .ok n := by
  obtain ⟨c, cs, hcs⟩ := List.exists_cons_of_ne_nil (Nat.toDigits_ne_nil (b := 10) (n := n))
  have hd : ∀ x ∈ Nat.toDigits 10 n, IsDigit x := fun _ h => isDigit_of_mem_toDigits h
  obtain ⟨-, -, hplus, hminus, -⟩ := (hd c (by simp [hcs])).ne
  have hread := accumulate_digits (e := .tooLarge) (a := 0) hd (by simpa using hn)
  rw [Nat.ofDigitChars_ten_toDigits] at hread
  simp only [parseNat, String.toList_ofList]
  -- the text starts with a digit, so it is read without a sign
  split <;> simp_all [IsDigit]

theorem parseNat_le {bound n : Nat} {s : String} (h : parseNat bound s = .ok n) : n ≤ bound := by
  unfold parseNat at h
  split at h <;> first | cases h | exact accumulate_le (Nat.zero_le _) h

/-! ### Reading percentages -/

theorem not_point_of_digits {ws : List Char} (hw : ∀ c ∈ ws, IsDigit c) :
    ∀ c ∈ ws, (c != '.') = true := by
  intro c hc
  simpa using (hw c hc).ne.1

/-- A number text with a point: the whole digits, then the fraction's. -/
theorem hundredths?_point {ws fs : List Char} (hw : ws ≠ []) (hwd : ∀ c ∈ ws, IsDigit c)
    (hfd : ∀ c ∈ fs, IsDigit c) (hfl : fs.length ≤ 2) :
    hundredths? (String.ofList (ws ++ '.' :: fs)) =
      let v := digitsValue ws * 100 + if fs.length = 1 then digitsValue fs * 10 else digitsValue fs
      if v > u64Max then none else some v := by
  have hnp := not_point_of_digits hwd
  have hfl' : ¬ 2 < fs.length := by omega
  simp [hundredths?, List.takeWhile_append_of_pos hnp, List.dropWhile_append_of_pos hnp,
    allDigits_iff.2 hwd, allDigits_iff.2 hfd, hw, hfl']

/-- A number text without a point: whole digits only. -/
theorem hundredths?_whole {ws : List Char} (hw : ws ≠ []) (hwd : ∀ c ∈ ws, IsDigit c) :
    hundredths? (String.ofList ws) =
      if digitsValue ws * 100 > u64Max then none else some (digitsValue ws * 100) := by
  have hnp := not_point_of_digits hwd
  have ht : ws.takeWhile (· != '.') = ws := List.takeWhile_eq_self_iff.2 hnp
  have hd : ws.dropWhile (· != '.') = [] := List.dropWhile_eq_nil_iff.2 hnp
  have hnil : digitsValue [] = 0 := rfl
  have hall : allDigits [] = true := rfl
  simp [hundredths?, ht, hd, allDigits_iff.2 hwd, hw, hnil, hall]

/-- A text that starts and ends with digits and reads as `h` hundredths. -/
structure NumberText (cs : List Char) (h : Nat) : Prop where
  first : ∀ c, cs.head? = some c → IsDigit c
  last : ∀ c, cs.getLast? = some c → IsDigit c
  value : hundredths? (String.ofList cs) = some h

/-- The digits of a whole number of percent. -/
theorem NumberText.whole {w h : Nat} (hh : h ≤ u64Max) (hv : w * 100 = h) :
    NumberText (Nat.toDigits 10 w) h where
  first := (toDigits_ends w).1
  last := (toDigits_ends w).2
  value := by
    rw [hundredths?_whole Nat.toDigits_ne_nil (fun _ => isDigit_of_mem_toDigits),
      digitsValue_toDigits, if_neg (by omega), hv]

/-- The digits of the whole part, a point, and one or two decimals. -/
theorem NumberText.point {w h : Nat} {fs : List Char} (hh : h ≤ u64Max) (hne : fs ≠ [])
    (hfd : ∀ c ∈ fs, IsDigit c) (hfl : fs.length ≤ 2)
    (hv : w * 100 + (if fs.length = 1 then digitsValue fs * 10 else digitsValue fs) = h) :
    NumberText (Nat.toDigits 10 w ++ '.' :: fs) h where
  first c hc := by
    obtain ⟨d, ds, hds⟩ := List.exists_cons_of_ne_nil (Nat.toDigits_ne_nil (b := 10) (n := w))
    rw [hds, List.cons_append, List.head?_cons, Option.some.injEq] at hc
    subst hc
    exact isDigit_of_mem_toDigits (hds ▸ List.mem_cons_self)
  last c hc := by
    -- the text ends where the decimals end
    have hl : (Nat.toDigits 10 w ++ '.' :: fs).getLast? = fs.getLast? := by
      obtain ⟨f, fs', rfl⟩ := List.exists_cons_of_ne_nil hne
      rw [List.getLast?_append, List.getLast?_cons_cons]
      cases hf : (f :: fs').getLast? with
      | none => simp at hf
      | some y => rfl
    rw [hl] at hc
    exact hfd c (List.mem_of_getLast? hc)
  value := by
    rw [hundredths?_point Nat.toDigits_ne_nil (fun _ => isDigit_of_mem_toDigits) hfd hfl]
    simp only [digitsValue_toDigits, hv]
    rw [if_neg (by omega)]

/-- A text that starts and ends with digits is its own trim. -/
theorem trim_ofList_digits {cs : List Char} (hfirst : ∀ c, cs.head? = some c → IsDigit c)
    (hlast : ∀ c, cs.getLast? = some c → IsDigit c) : Text.trim (String.ofList cs) = String.ofList cs :=
  Text.trim_eq_self_of_ne_blank (by simpa using fun c h => (hfirst c h).ne.2.2.2.2)
    (by simpa using fun c h => (hlast c h).ne.2.2.2.2)

/-- A number text followed by `%` reads as the percentage it stands for, refused past 100%. -/
theorem parse_percent {cs : List Char} {h : Nat} (hc : NumberText cs h) :
    parse (String.ofList (cs ++ ['%'])) =
      if h > full then .error (.outOfRange (String.ofList (cs ++ ['%']))) else .ok (.percentage h) := by
  have htrim : Text.trim (String.ofList (cs ++ ['%'])) = String.ofList (cs ++ ['%']) := by
    refine Text.trim_eq_self_of_ne_blank ?_ (by simp [Text.isBlank])
    intro c hc'
    cases cs with
    | nil =>
      simp only [List.nil_append, String.toList_ofList, List.head?_cons, Option.some.injEq] at hc'
      subst hc'
      rfl
    | cons d ds =>
      simp only [List.cons_append, String.toList_ofList, List.head?_cons, Option.some.injEq] at hc'
      subst hc'
      exact (hc.first d rfl).ne.2.2.2.2
  have hend : (cs ++ ['%']).getLast? = some '%' := by simp
  have hdrop : (cs ++ ['%']).dropLast = cs := by simp
  simp only [parse, htrim, String.toList_ofList, hend, hdrop, trim_ofList_digits hc.first hc.last,
    hc.value]

/-! ### Reading back what is written -/

/-- The text of a percentage is a number text followed by `%`, one case for each of the ways the
fraction is written. -/
theorem display_percentage_form {h : Nat} (hh : h ≤ u64Max) :
    ∃ cs, (percentage h).display = String.ofList (cs ++ ['%']) ∧ NumberText cs h := by
  have hts : ∀ s : String, toString s = s := fun _ => rfl
  simp only [display, beq_iff_eq]
  split_ifs with h0 h10 hlt
  · exact ⟨Nat.toDigits 10 (h / 100), by simp [hts, Nat.repr_eq_ofList_toDigits],
      .whole hh (by omega)⟩
  · -- one decimal: the second would be zero
    have hone : Nat.toDigits 10 (h % 100 / 10) = [(h % 100 / 10).digitChar] :=
      Nat.toDigits_of_lt_base (by omega)
    refine ⟨Nat.toDigits 10 (h / 100) ++ '.' :: Nat.toDigits 10 (h % 100 / 10), ?_,
      .point hh (by simp [hone]) (fun _ => isDigit_of_mem_toDigits) (by simp [hone]) ?_⟩
    · simp [hts, Nat.repr_eq_ofList_toDigits, String.ofList_append, String.append_assoc]
    · rw [digitsValue_toDigits, show (Nat.toDigits 10 (h % 100 / 10)).length = 1 by simp [hone],
        if_pos rfl]
      omega
  · -- two decimals, the first zero
    have hone : Nat.toDigits 10 (h % 100) = [(h % 100).digitChar] := Nat.toDigits_of_lt_base hlt
    have hfd : ∀ c ∈ '0' :: Nat.toDigits 10 (h % 100), IsDigit c := by
      intro c hc
      rcases List.mem_cons.1 hc with rfl | hc
      · decide
      · exact isDigit_of_mem_toDigits hc
    have hv : digitsValue ('0' :: Nat.toDigits 10 (h % 100)) = h % 100 := by
      simp [digitsValue_eq_ofDigitChars, Nat.ofDigitChars_cons]
    refine ⟨Nat.toDigits 10 (h / 100) ++ '.' :: '0' :: Nat.toDigits 10 (h % 100), ?_,
      .point hh (by simp) hfd (by simp [hone]) ?_⟩
    · simp [hts, Nat.repr_eq_ofList_toDigits, String.ofList_append, String.append_assoc]
      rw [← String.append_assoc]
      rfl
    · rw [hv, show ('0' :: Nat.toDigits 10 (h % 100)).length = 2 by simp [hone], if_neg (by decide)]
      omega
  · -- two decimals
    have htwo : Nat.toDigits 10 (h % 100) = [(h % 100 / 10).digitChar, (h % 100 % 10).digitChar] := by
      rw [Nat.toDigits_of_base_le (by decide) (by omega), Nat.toDigits_of_lt_base (by omega)]
      rfl
    refine ⟨Nat.toDigits 10 (h / 100) ++ '.' :: Nat.toDigits 10 (h % 100), ?_,
      .point hh (by simp [htwo]) (fun _ => isDigit_of_mem_toDigits) (by simp [htwo]) ?_⟩
    · simp [hts, Nat.repr_eq_ofList_toDigits, String.ofList_append, String.append_assoc]
    · rw [digitsValue_toDigits, show (Nat.toDigits 10 (h % 100)).length = 2 by simp [htwo],
        if_neg (by decide)]
      omega

/-- The text of a percentage reads back as it up to 100%, and is refused as out of range above. -/
theorem parse_display_percentage {h : Nat} (hh : h ≤ u64Max) :
    parse (percentage h).display =
      if h > full then .error (.outOfRange (percentage h).display) else .ok (.percentage h) := by
  obtain ⟨cs, hd, hc⟩ := display_percentage_form hh
  rw [hd]
  exact parse_percent hc

/-- The text of a count within 64 bits reads back as the count. -/
theorem parse_display_absolute {n : Nat} (hn : n ≤ u64Max) :
    parse (absolute n).display = .ok (.absolute n) := by
  obtain ⟨hfirst, hlast⟩ := toDigits_ends n
  have htext : (absolute n).display = String.ofList (Nat.toDigits 10 n) := rfl
  simp only [parse, htext, trim_ofList_digits hfirst hlast, String.toList_ofList]
  split
  · -- a count's text ends with a digit, not with `%`
    rename_i hpct
    exact absurd rfl (hlast '%' hpct).ne.2.1
  · rw [parseU64, parseNat_toDigits hn]

/-! ### What reading gives -/

/-- **Reading a text gives only thresholds in range.** -/
theorem parse_inRange {s : String} {t : Threshold} (h : parse s = .ok t) : t.InRange := by
  simp only [parse] at h
  split at h
  · split at h
    · cases h
    · split at h
      · cases h
      · cases h
        simp only [InRange]
        omega
  · split at h
    · cases h
      exact parseNat_le ‹_›
    · cases h

open Json in
theorem decode_unsigned {name : String} {max : Nat} {v r : Value}
    (h : (Shape.unsigned name max).decode v = .ok r) : ∃ n ≤ max, r = .number (.natural n) := by
  rw [Shape.decode.eq_def] at h
  cases v with
  | number x =>
    cases x with
    | natural n =>
      simp only at h
      split at h
      · cases h; exact ⟨n, ‹_›, rfl⟩
      · cases h
    | _ => simp at h
  | _ => simp at h

open Json in
theorem decode_text {e : String} {v r : Value} (h : (Shape.text e).decode v = .ok r) :
    ∃ s, r = .string s := by
  rw [Shape.decode.eq_def] at h
  cases v with
  | string s => cases h; exact ⟨s, rfl⟩
  | _ => simp at h

open Json in
/-- What fits a threshold in a document: a 64-bit count or a text. -/
theorem decode_raw {v r : Value}
    (h : Shape.decode (.firstOf "RawThreshold" [Shape.u64, Shape.string]) v = .ok r) :
    (∃ n ≤ u64Max, r = .number (.natural n)) ∨ ∃ s, r = .string s := by
  rw [Shape.decode.eq_def] at h
  simp only [Shape.decodeFirst] at h
  split at h
  · rename_i hfirst
    cases h
    split at hfirst
    · cases hfirst
      exact .inl (decode_unsigned ‹_›)
    · split at hfirst
      · cases hfirst
        exact .inr (decode_text ‹_›)
      · cases hfirst
  · cases h

/-- **Reading a document gives only thresholds in range.** -/
theorem decode_inRange {v : Json.Value} {t : Threshold} (h : decode v = .ok t) : t.InRange := by
  unfold decode at h
  split at h
  · rename_i raw hraw
    unfold shape at hraw
    rw [Json.Shape.decode.eq_def] at hraw
    simp only at hraw
    cases hr : (Json.Shape.firstOf "RawThreshold" [Json.Shape.u64, Json.Shape.string]).decode v with
    | error m => rw [hr] at hraw; cases hraw
    | ok r =>
      -- the check only reads the raw value, which decoding returns as it is
      have hr' : raw = r := by
        rw [hr] at hraw
        cases ho : ofValue r <;> simp_all [bind, Except.bind, Except.map, pure, Except.pure]
      subst hr'
      rcases decode_raw hr with ⟨n, hn, rfl⟩ | ⟨s, rfl⟩
      · cases h
        exact hn
      · cases hp : parse s with
        | error e => simp [ofValue, hp, Except.mapError] at h
        | ok t' =>
          simp only [ofValue, hp, Except.mapError, Except.ok.injEq] at h
          exact h ▸ parse_inRange hp
  · cases h

/-- Every threshold in range reads back from its text. -/
theorem parse_display {t : Threshold} (ht : t.InRange) : parse t.display = .ok t := by
  cases t with
  | absolute n => exact parse_display_absolute ht
  | percentage h =>
    have hh : h ≤ u64Max := Nat.le_trans ht (by decide)
    rw [parse_display_percentage hh, if_neg (Nat.not_lt.2 ht)]

/-- **Thresholds read back from their texts.** Every threshold in range, a count within 64 bits
or a percentage of at most 100%, reads back from its text, and a percentage above 100% is refused
as out of range; reading a text or a document gives only thresholds in range, so whatever was
read reads back from its text; and thresholds in range with the same text are the same. -/
theorem display_reads_back :
    (∀ t : Threshold, t.InRange → parse t.display = .ok t) ∧
    (∀ h, full < h → h ≤ u64Max →
      parse (percentage h).display = .error (.outOfRange (percentage h).display)) ∧
    (∀ s t, parse s = .ok t → t.InRange) ∧
    (∀ v t, decode v = .ok t → t.InRange) ∧
    (∀ s t, parse s = .ok t → parse t.display = .ok t) ∧
    (∀ t t' : Threshold, t.InRange → t'.InRange → t.display = t'.display → t = t') := by
  refine ⟨fun t ht => parse_display ht, fun h hf hh => ?_, fun s t h => parse_inRange h,
    fun v t h => decode_inRange h, fun s t h => parse_display (parse_inRange h), ?_⟩
  · rw [parse_display_percentage hh, if_pos hf]
  · intro t t' ht ht' he
    have hr := parse_display ht
    rw [he, parse_display ht'] at hr
    exact (Except.ok.inj hr).symm

/-- A percentage with two decimals reads back from its text, and one just above 100% is refused. -/
theorem display_reads_back_hundredths :
    (percentage 1205).InRange ∧ parse (percentage 1205).display = .ok (.percentage 1205) ∧
    (full < 10001 ∧ 10001 ≤ u64Max) ∧
    parse (percentage 10001).display = .error (.outOfRange (percentage 10001).display) :=
  ⟨by decide, display_reads_back.1 _ (by decide), ⟨by decide, by decide⟩,
    display_reads_back.2.1 10001 (by decide) (by decide)⟩

end Rollout.Threshold

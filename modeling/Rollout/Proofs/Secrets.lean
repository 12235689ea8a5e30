import Mathlib
import Rollout.Settings
/-!
# What the debugging forms show of the secrets

A debugging form hides a secret when two values that differ only in the secret have the same
form. The keys hide the AWS secret key, written `"***"`; the repository login hides its token,
written `Some("***")` when set, so only whether it is set shows; and the debugging form of all
credentials hides the token through it. The AWS login inside that form, though, is shown as
configured, and the quoted form of a text is unambiguous: two credentials that differ only in
the AWS secret key have the same debugging form exactly when the secrets are the same.

Unambiguity rests on reading a quoted text back one character at a time (`readEscaped`):
every escape is read back as the character it stands for, whatever follows it.

* `Text.quote_injective`: different texts have different quoted forms.
* `AwsKeys.debug_hides_secret`, `RepoLogin.debug_hides_token`, `Settings.debug_hides_token`:
  **the debugging forms that hide a secret.**
* `Settings.debug_eq_iff_secret`: **the debugging form of all credentials shows the AWS secret
  key.**
-/

namespace Rollout

namespace Text

/-! ### Reading a quoted text back -/

/-- The value of a lower-case hexadecimal digit. -/
def hexValue (c : Char) : Nat := if c.toNat < 58 then c.toNat - 48 else c.toNat - 87

/-- The number written by lower-case hexadecimal digits, the most significant first. -/
def readHex (ds : List Char) : Nat := ds.foldl (fun n c => 16 * n + hexValue c) 0

/-- Reads what follows a backslash: a one-letter escape, or a code point between braces. -/
def readAfterBackslash : List Char → Option (Char × List Char)
  | '0' :: rest => some ('\x00', rest)
  | 't' :: rest => some ('\t', rest)
  | 'r' :: rest => some ('\r', rest)
  | 'n' :: rest => some ('\n', rest)
  | '\\' :: rest => some ('\\', rest)
  | '"' :: rest => some ('"', rest)
  | 'u' :: '\x7b' :: rest =>
    match rest.dropWhile (· != '\x7d') with
    | '\x7d' :: after => some (Char.ofNat (readHex (rest.takeWhile (· != '\x7d'))), after)
    | _ => none
  | _ => none

/-- Reads one character of a quoted text from the front: an escape after a backslash, or any
other character standing for itself. -/
def readEscaped : List Char → Option (Char × List Char)
  | [] => none
  | c :: rest => if c = '\\' then readAfterBackslash rest else some (c, rest)

theorem hexValue_digitChar : ∀ d, d < 16 → hexValue (Nat.digitChar d) = d := by decide

theorem digitChar_ne_close : ∀ d, d < 16 → Nat.digitChar d ≠ '\x7d' := by decide

/-- Hexadecimal digits read back as the number they write. -/
theorem readHex_toDigits (n : Nat) : readHex (Nat.toDigits 16 n) = n := by
  induction n using Nat.strongRecOn with
  | ind n ih =>
    rw [Nat.toDigits_eq_if (by decide)]
    split
    · case isTrue h => simp [readHex, hexValue_digitChar n h]
    · case isFalse h =>
      have hlt : n / 16 < n := Nat.div_lt_self (by omega) (by decide)
      have hd : hexValue (Nat.digitChar (n % 16)) = n % 16 :=
        hexValue_digitChar _ (Nat.mod_lt _ (by decide))
      have hread : readHex (Nat.toDigits 16 (n / 16)) = n / 16 := ih _ hlt
      rw [readHex, List.foldl_append, ← readHex, hread, List.foldl_cons, List.foldl_nil, hd]
      omega

/-- No closing brace among hexadecimal digits, so the brace after them ends them. -/
theorem close_not_mem_toDigits (n : Nat) : '\x7d' ∉ Nat.toDigits 16 n := by
  induction n using Nat.strongRecOn with
  | ind n ih =>
    rw [Nat.toDigits_eq_if (by decide)]
    split
    · case isTrue h =>
      simp only [List.mem_singleton]
      exact (digitChar_ne_close n h).symm
    · case isFalse h =>
      have hlt : n / 16 < n := Nat.div_lt_self (by omega) (by decide)
      simp only [List.mem_append, List.mem_singleton, not_or]
      exact ⟨ih _ hlt, (digitChar_ne_close _ (Nat.mod_lt _ (by decide))).symm⟩

/-- A code point escape reads back as its character. -/
theorem readEscaped_unicodeEscape (c : Char) (u : List Char) :
    readEscaped ((unicodeEscape c).toList ++ u) = some (c, u) := by
  have hnot : ∀ x ∈ Nat.toDigits 16 c.toNat, (x != '\x7d') = true := by
    intro x hx
    have : x ≠ '\x7d' := fun h => close_not_mem_toDigits c.toNat (h ▸ hx)
    simpa using this
  have htake : (Nat.toDigits 16 c.toNat ++ '\x7d' :: u).takeWhile (· != '\x7d') =
      Nat.toDigits 16 c.toNat := by
    rw [List.takeWhile_append_of_pos hnot]
    simp
  have hdrop : (Nat.toDigits 16 c.toNat ++ '\x7d' :: u).dropWhile (· != '\x7d') = '\x7d' :: u := by
    rw [List.dropWhile_append_of_pos hnot]
    simp
  simp [unicodeEscape, hexDigits, readEscaped, readAfterBackslash, htake, hdrop, readHex_toDigits]

/-- **Every escape reads back as its character, whatever follows it.** -/
theorem readEscaped_escapeChar (c : Char) (u : List Char) :
    readEscaped ((escapeChar c).toList ++ u) = some (c, u) := by
  unfold escapeChar
  split
  · rfl
  · rfl
  · rfl
  · rfl
  · rfl
  · rfl
  · next hnul htab hcr hlf hbs hq =>
    -- a character that needs no letter escape is a code point escape or stands for itself
    split
    · exact readEscaped_unicodeEscape c u
    · split
      · simp only [String.toList_singleton, List.singleton_append, readEscaped, if_neg hbs]
      · exact readEscaped_unicodeEscape c u

/-- The characters between the quotes of a quoted text. -/
def escapedChars (cs : List Char) : List Char := cs.flatMap fun c => (escapeChar c).toList

theorem escapedChars_cons (c : Char) (cs : List Char) :
    escapedChars (c :: cs) = (escapeChar c).toList ++ escapedChars cs := by
  simp [escapedChars]

theorem escapedChars_injective : Function.Injective escapedChars := by
  intro a
  induction a with
  | nil =>
    intro b h
    cases b with
    | nil => rfl
    | cons c cs =>
      -- a character is never written as nothing
      have hread := readEscaped_escapeChar c (escapedChars cs)
      rw [← escapedChars_cons, ← h] at hread
      simp [escapedChars, readEscaped] at hread
  | cons c cs ih =>
    intro b h
    cases b with
    | nil =>
      have hread := readEscaped_escapeChar c (escapedChars cs)
      rw [← escapedChars_cons, h] at hread
      simp [escapedChars, readEscaped] at hread
    | cons c' cs' =>
      have hread := readEscaped_escapeChar c (escapedChars cs)
      rw [← escapedChars_cons, h, escapedChars_cons, readEscaped_escapeChar] at hread
      obtain ⟨rfl, hrest⟩ := Prod.mk.inj (Option.some.inj hread)
      rw [ih hrest.symm]

/-- **Different texts have different quoted forms.** -/
theorem quote_injective : Function.Injective quote := by
  intro s t h
  have hchars : escapedChars s.toList = escapedChars t.toList := by
    have hl := congrArg String.toList h
    simp only [quote, String.toList_append, String.toList_join, List.flatMap_map] at hl
    exact List.append_cancel_left (List.append_cancel_right hl)
  exact String.toList_inj.1 (escapedChars_injective hchars)

end Text

/-- An optional text's debugging form shows the text. -/
theorem debugOption_injective : Function.Injective debugOption := by
  intro a b h
  -- `None` and `Some(` differ in their first letter
  have hfirst := congrArg (fun x => x.toList.head?) h
  cases a with
  | none => cases b with
    | none => rfl
    | some t => simp [debugOption] at hfirst
  | some s => cases b with
    | none => simp [debugOption] at hfirst
    | some t =>
      have hl := congrArg String.toList h
      simp only [debugOption, String.toList_append] at hl
      exact congrArg some (Text.quote_injective
        (String.toList_inj.1 (List.append_cancel_left (List.append_cancel_right hl))))

/-! ### The secrets in the debugging forms -/

/-- **The keys' debugging form hides the AWS secret key.** -/
theorem AwsKeys.debug_hides_secret (k k' : AwsKeys) (h : k.accessKeyId = k'.accessKeyId) :
    k.debug = k'.debug := by
  unfold AwsKeys.debug
  rw [h]

/-- **The repository login's debugging form hides the token, all but whether it is set.** -/
theorem RepoLogin.debug_hides_token (l l' : RepoLogin) (ha : l.account = l'.account)
    (ht : l.token.isSome = l'.token.isSome) (he : l.endpoint = l'.endpoint) :
    l.debug = l'.debug := by
  -- the token shows only as `Some("***")` or `None`
  have hmask : l.token.map (fun _ => "***") = l'.token.map (fun _ => "***") := by
    cases hl : l.token <;> cases hl' : l'.token <;> simp_all
  unfold RepoLogin.debug
  rw [ha, hmask, he]

/-- **The debugging form of all credentials hides the repository token.** -/
theorem Settings.debug_hides_token (s s' : Settings) (haws : s.aws = s'.aws)
    (ha : s.repo.account = s'.repo.account) (ht : s.repo.token.isSome = s'.repo.token.isSome)
    (he : s.repo.endpoint = s'.repo.endpoint) :
    s.debug = s'.debug := by
  unfold Settings.debug
  rw [haws, RepoLogin.debug_hides_token _ _ ha ht he]

/-- **The debugging form of all credentials shows the AWS secret key**: two credentials that
differ at most in the AWS secret key have the same debugging form exactly when they have the
same secret. -/
theorem Settings.debug_eq_iff_secret (s s' : Settings) (hid : s.aws.accessKeyId = s'.aws.accessKeyId)
    (hrepo : s.repo = s'.repo) :
    s.debug = s'.debug ↔ s.aws.secretAccessKey = s'.aws.secretAccessKey := by
  unfold Settings.debug AwsLogin.debug
  rw [hid, hrepo]
  constructor
  · intro h
    have hl := congrArg String.toList h
    -- the forms agree before the secret and after it
    simp only [String.toList_append, List.append_assoc, List.append_cancel_left_eq] at hl
    exact debugOption_injective (String.toList_inj.1 (List.append_cancel_right hl))
  · intro h
    rw [h]

end Rollout

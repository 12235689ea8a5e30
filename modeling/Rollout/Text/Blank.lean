/-!
# Blank characters

The blank characters are those with the Unicode `White_Space` property: tab, line feed, line
tabulation, form feed, carriage return, space, next line, no-break space, ogham space mark, the
spaces from en quad to hair space, line and paragraph separators, narrow no-break space, medium
mathematical space and ideographic space. Trimming removes them from both ends of a text.

* `trim_eq_self_of_ne_blank`: a text that neither starts nor ends with a blank is its own trim.
-/

namespace Rollout.Text

/-- The Unicode `White_Space` property. -/
def isBlank (c : Char) : Bool :=
  let n := c.toNat
  (0x09 ≤ n && n ≤ 0x0D) || n == 0x20 || n == 0x85 || n == 0xA0 || n == 0x1680 ||
    (0x2000 ≤ n && n ≤ 0x200A) || n == 0x2028 || n == 0x2029 || n == 0x202F ||
    n == 0x205F || n == 0x3000

/-- Drops the blanks at both ends of a list of characters. -/
def trimChars (cs : List Char) : List Char :=
  ((cs.dropWhile isBlank).reverse.dropWhile isBlank).reverse

/-- Drops the blanks at both ends of a text. -/
def trim (s : String) : String :=
  String.ofList (trimChars s.toList)

/-- Drops the blanks at the start of a text. -/
def trimStart (s : String) : String :=
  String.ofList (s.toList.dropWhile isBlank)

/-- Drops the blanks at the end of a text. -/
def trimEnd (s : String) : String :=
  String.ofList (s.toList.reverse.dropWhile isBlank).reverse

theorem trimChars_eq_self {cs : List Char}
    (hs : ∀ c, cs.head? = some c → isBlank c = false)
    (he : ∀ c, cs.getLast? = some c → isBlank c = false) : trimChars cs = cs := by
  have h1 : cs.dropWhile isBlank = cs := by
    cases cs with
    | nil => rfl
    | cons c r => simp [List.dropWhile, hs c rfl]
  have h2 : cs.reverse.dropWhile isBlank = cs.reverse := by
    cases hr : cs.reverse with
    | nil => rfl
    | cons c r =>
      have : cs.getLast? = some c := by
        rw [← List.head?_reverse, hr]; rfl
      simp [List.dropWhile, he c this]
  simp [trimChars, h1, h2]

/-- **A text with no blank at either end is its own trim.** -/
theorem trim_eq_self_of_ne_blank {s : String}
    (hs : ∀ c, s.toList.head? = some c → isBlank c = false)
    (he : ∀ c, s.toList.getLast? = some c → isBlank c = false) : trim s = s := by
  simp [trim, trimChars_eq_self hs he]

end Rollout.Text

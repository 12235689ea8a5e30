import Rollout.Text.Printable
import Rollout.Text.GraphemeExtend

/-!
# Quoted text

The quoted form of a text, as debugging output shows it: the text between double quotes, with
NUL, tab, carriage return, line feed, backslash and the double quote written as backslash
escapes, and every grapheme extender or unprintable character written `\u{h}` with its code
point in lower-case hexadecimal without leading zeros. All other characters, the single quote
among them, stand for themselves.

* `escapeChar_ascii`: printable ASCII other than the backslash and the double quote is kept
  as is.
-/

namespace Rollout.Text

/-- Printable characters as debugging output sees them: the table, and the ordinary space. -/
def isPrintable (c : Char) : Bool :=
  c == ' ' || printable.containsChar c

/-- Lower-case hexadecimal digits of a number, without leading zeros (`0` for zero). -/
def hexDigits (n : Nat) : String :=
  String.ofList (Nat.toDigits 16 n)

/-- The `\u{h}` escape of a character. -/
def unicodeEscape (c : Char) : String :=
  "\\u" ++ "\x7b" ++ hexDigits c.toNat ++ "\x7d"

/-- How one character is written inside a quoted text. -/
def escapeChar (c : Char) : String :=
  match c with
  | '\x00' => "\\0"
  | '\t' => "\\t"
  | '\r' => "\\r"
  | '\n' => "\\n"
  | '\\' => "\\\\"
  | '"' => "\\\""
  | c =>
    if graphemeExtend.containsChar c then unicodeEscape c
    else if isPrintable c then String.singleton c
    else unicodeEscape c

/-- The quoted form of a text. -/
def quote (s : String) : String :=
  "\"" ++ String.join (s.toList.map escapeChar) ++ "\""

/-- Printable ASCII other than backslash and double quote is written as itself. -/
theorem escapeChar_ascii (c : Char) (h1 : 0x20 ≤ c.toNat) (h2 : c.toNat ≤ 0x7E)
    (hb : c ≠ '\\') (hq : c ≠ '"') (hx : graphemeExtend.containsChar c = false)
    (hp : isPrintable c = true) : escapeChar c = String.singleton c := by
  have h0 : c ≠ '\x00' := by intro h; subst h; simp at h1
  have ht : c ≠ '\t' := by intro h; subst h; simp at h1
  have hr : c ≠ '\r' := by intro h; subst h; simp at h1
  have hn : c ≠ '\n' := by intro h; subst h; simp at h1
  unfold escapeChar
  split <;> simp_all

end Rollout.Text

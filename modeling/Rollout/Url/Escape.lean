/-!
# Percent escapes

A location writes some characters as the `%XX` escapes of their UTF-8 bytes, in upper case.
Which characters depends on the part of the location (`EscapeSet`): every part escapes the
controls and every character beyond ASCII, and each adds some printable characters of its own.
A `%` is never escaped, so escapes already written stay as they are.

* `escapeByte_length`: an escape is a percent sign and two digits.
* `encode_of_unescaped`: a text of characters the set keeps is written as it is.
-/

namespace Rollout.Url

/-- An upper-case hexadecimal digit. -/
def hexDigit (n : Nat) : Char :=
  if n < 10 then Char.ofNat (48 + n) else Char.ofNat (55 + n)

/-- The `%XX` escape of a byte. -/
def escapeByte (b : UInt8) : List Char :=
  ['%', hexDigit (b.toNat / 16), hexDigit (b.toNat % 16)]

theorem escapeByte_length (b : UInt8) : (escapeByte b).length = 3 := rfl

/-- The characters a part of a location escapes. -/
inductive EscapeSet where
  /-- The controls and what lies beyond ASCII only: a path taken whole or a host kept as written. -/
  | controls
  /-- The fragment after `#`. -/
  | fragment
  /-- The query of a location whose scheme is not special. -/
  | query
  /-- The query of a location whose scheme is special: the single quote too. -/
  | specialQuery
  /-- A segment of a path. -/
  | path
  /-- A user name or password. -/
  | userinfo
deriving DecidableEq

/-- The printable ASCII characters a set escapes besides the controls. -/
def EscapeSet.printable : EscapeSet → List Char
  | .controls => []
  | .fragment => [' ', '"', '<', '>', '`']
  | .query => [' ', '"', '#', '<', '>']
  | .specialQuery => [' ', '"', '#', '<', '>', '\'']
  | .path => [' ', '"', '#', '<', '>', '?', '`', '\x7b', '\x7d']
  | .userinfo =>
    [' ', '"', '#', '<', '>', '?', '`', '\x7b', '\x7d', '/', ':', ';', '=', '@', '[', '\\', ']',
      '^', '|']

/-- Whether a set escapes a character: the controls, delete and everything beyond ASCII, and
the printable characters of the set. -/
def EscapeSet.escapes (s : EscapeSet) (c : Char) : Bool :=
  c.toNat < 0x20 || c.toNat ≥ 0x7F || s.printable.contains c

/-- A character as written: itself, or the escapes of its bytes. -/
def encodeChar (s : EscapeSet) (c : Char) : List Char :=
  if s.escapes c then (String.singleton c).toUTF8.toList.flatMap escapeByte else [c]

/-- A text as written with a set of escapes. -/
def encode (s : EscapeSet) (cs : List Char) : String :=
  String.ofList (cs.flatMap (encodeChar s))

theorem encode_of_unescaped (s : EscapeSet) (cs : List Char) (h : ∀ c ∈ cs, s.escapes c = false) :
    encode s cs = String.ofList cs := by
  unfold encode
  congr 1
  induction cs with
  | nil => rfl
  | cons c rest ih =>
    have hc : s.escapes c = false := h c (by simp)
    simp only [List.flatMap_cons, encodeChar, hc, Bool.false_eq_true, if_false, List.singleton_append]
    rw [ih (fun x hx => h x (by simp [hx]))]

/-- The value of a hexadecimal digit, in either case. -/
def hexValue? (c : Char) : Option Nat :=
  if '0' ≤ c && c ≤ '9' then some (c.toNat - 48)
  else if 'a' ≤ c && c ≤ 'f' then some (c.toNat - 87)
  else if 'A' ≤ c && c ≤ 'F' then some (c.toNat - 55)
  else none

/-- The bytes a text stands for once its escapes are read: a `%` followed by two hexadecimal
digits is the byte they write, any other character its UTF-8 bytes. -/
def decodeBytes : List Char → List UInt8
  | [] => []
  | '%' :: a :: b :: rest =>
    match hexValue? a, hexValue? b with
    | some x, some y => UInt8.ofNat (16 * x + y) :: decodeBytes rest
    | _, _ => '%'.toNat.toUInt8 :: decodeBytes (a :: b :: rest)
  | c :: rest => (String.singleton c).toUTF8.toList ++ decodeBytes rest

end Rollout.Url

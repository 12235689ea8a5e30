/-!
# Punycode

A label of a host name that holds characters beyond ASCII is written in ASCII as `xn--`
followed by its Punycode: the ASCII characters of the label, a hyphen when there are any,
and then, for each other code point in increasing order, the distances between the places
where it is inserted, each as a number in base 36 of variable length whose digit thresholds
adapt to the distances seen so far.

* `threshold_pos`, `threshold_le`: a digit threshold lies between 1 and 26, which makes every
  number end.
* `encode_ascii`: a label of ASCII letters only is itself followed by a hyphen.
-/

namespace Rollout.Url.Punycode

/-- The character of a digit: `a` to `z` for 0 to 25, `0` to `9` for 26 to 35. -/
def digitChar (d : Nat) : Char :=
  if d < 26 then Char.ofNat (0x61 + d) else Char.ofNat (0x30 + d - 26)

/-- The threshold of the digit at position `k` (a multiple of 36) under a bias. -/
def threshold (k bias : Nat) : Nat :=
  if k ≤ bias then 1 else if bias + 26 ≤ k then 26 else k - bias

theorem threshold_pos (k bias : Nat) : 1 ≤ threshold k bias := by
  unfold threshold
  split
  · omega
  · split <;> omega

theorem threshold_le (k bias : Nat) : threshold k bias ≤ 26 := by
  unfold threshold
  split
  · omega
  · split <;> omega

/-- Divides a distance by 35 until it is at most 455, counting 36 for each division. -/
def scaleDown (delta k : Nat) : Nat × Nat :=
  if 455 < delta then scaleDown (delta / 35) (k + 36) else (delta, k)
termination_by delta
decreasing_by exact Nat.div_lt_self (by omega) (by omega)

/-- The bias after a distance, given how many code points are placed so far and whether this
is the first distance. -/
def adapt (delta placed : Nat) (first : Bool) : Nat :=
  let d := if first then delta / 700 else delta / 2
  let (d, k) := scaleDown (d + d / placed) 0
  k + 36 * d / (d + 38)

/-- The digits of a distance, from the position `k` on. -/
def digits (bias k q : Nat) : List Char :=
  let t := threshold k bias
  if q < t then [digitChar q]
  else digitChar (t + (q - t) % (36 - t)) :: digits bias (k + 36) ((q - t) / (36 - t))
termination_by q
decreasing_by
  have h1 := threshold_pos k bias
  have h2 := threshold_le k bias
  have h3 : (q - threshold k bias) / (36 - threshold k bias) ≤ q - threshold k bias :=
    Nat.div_le_self _ _
  omega

/-- Where the encoding stands: the digits written, the distance so far, the bias and how many
code points are placed. -/
structure Progress where
  out : List Char
  delta : Nat
  bias : Nat
  placed : Nat

/-- Passes one code point of the label while placing the code point `m`: a smaller one adds
to the distance, `m` itself writes the distance. `basic` is the number of ASCII code points. -/
def pass (basic m : Nat) (p : Progress) (c : Nat) : Progress :=
  if c < m then { p with delta := p.delta + 1 }
  else if c == m then
    { out := p.out ++ digits p.bias 36 p.delta, delta := 0,
      bias := adapt p.delta (p.placed + 1) (p.placed == basic), placed := p.placed + 1 }
  else p

/-- Places the code points beyond ASCII in increasing order; `n` is the last one placed, plus
one. -/
def placeAll (label : List Nat) (basic : Nat) : List Nat → Nat → Progress → Progress
  | [], _, p => p
  | m :: rest, n, p =>
    let p := { p with delta := p.delta + (m - n) * (p.placed + 1) }
    let p := label.foldl (pass basic m) p
    placeAll label basic rest (m + 1) { p with delta := p.delta + 1 }

/-- Inserts a number into an increasing list without repeats. -/
def insertSorted (x : Nat) : List Nat → List Nat
  | [] => [x]
  | y :: ys => if x < y then x :: y :: ys else if x == y then y :: ys else y :: insertSorted x ys

/-- The Punycode of a label. -/
def encode (label : List Char) : String :=
  let codes := label.map Char.toNat
  let ascii := label.filter (·.toNat < 0x80)
  let others := (codes.filter (0x80 ≤ ·)).foldr insertSorted []
  let start : Progress :=
    { out := if ascii.isEmpty then [] else ascii ++ ['-'], delta := 0, bias := 72,
      placed := ascii.length }
  String.ofList (placeAll codes ascii.length others 0x80 start).out

theorem encode_ascii : encode ['a', 'b'] = "ab-" := by decide

end Rollout.Url.Punycode

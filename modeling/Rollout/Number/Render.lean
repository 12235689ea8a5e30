import Rollout.Number.Shortest

/-!
# Writing doubles as text

Three ways of writing a double share the shortest decimal digits and differ in a few choices,
recorded as a `Style`: when to switch to `e` notation (decided on the position of the decimal
point), whether an integral value keeps a `.0`, and how zero, infinity and NaN are spelled.

* `Style.plain`: never `e` notation, no `.0` (so `1e300` is a one and three hundred zeros).
* `Style.debug`: `.0` kept, `e` notation below `1e-4` and from `1e16` on.
* `Style.json`: `.0` kept, `e` notation below `1e-5` and from `1e16` on with a signed exponent
  (`1e+16`, `1e-6`), `null` for infinities and NaN.
-/

namespace Rollout.Number

/-- The choices that tell one way of writing a double from another. -/
structure Style where
  /-- Whether a value whose decimal point sits at `point` is written in `e` notation. -/
  scientific : Int → Bool
  /-- Whether an integral value in plain notation ends with `.0`. -/
  pointZero : Bool
  /-- The spelling of NaN. -/
  nan : String
  /-- The spelling of an infinity, given whether it is negative. -/
  infinity : Bool → String
  /-- The text of an exponent in `e` notation. -/
  exponent : Int → String := toString

/-- `n` zeros. -/
def zeros (n : Nat) : String := String.ofList (List.replicate n '0')

/-- Digits in plain notation. -/
def Digits.plainText (d : Digits) (pointZero : Bool) : String :=
  let ds := d.digitString
  match d.exp with
  | .ofNat e => ds ++ zeros e ++ (if pointZero then ".0" else "")
  | .negSucc _ =>
    match d.point with
    | .ofNat (k + 1) =>
      String.ofList (ds.toList.take (k + 1)) ++ "." ++ String.ofList (ds.toList.drop (k + 1))
    | p => "0." ++ zeros (-p).toNat ++ ds

/-- Digits in `e` notation: one digit before the point, then the exponent as written. -/
def Digits.scientificText (d : Digits) (exponent : Int → String) : String :=
  let ds := d.digitString.toList
  let head := String.ofList (ds.take 1)
  let rest := String.ofList (ds.drop 1)
  head ++ (if rest.isEmpty then "" else "." ++ rest) ++ "e" ++ exponent (d.point - 1)

/-- An exponent with its sign always written. -/
def signedExponent (e : Int) : String :=
  (if e < 0 then "-" else "+") ++ toString e.natAbs

/-- Writes a double in the given style. -/
def Binary64.render (st : Style) (x : Binary64) : String :=
  if x.isNaN then st.nan
  else if x.isInfinite then st.infinity x.negative
  else
    let sign := if x.negative then "-" else ""
    if x.isZero then sign ++ (if st.pointZero then "0.0" else "0")
    else
      let d := x.shortest
      sign ++ (if st.scientific d.point then d.scientificText st.exponent
        else d.plainText st.pointZero)

namespace Style

/-- Plain notation throughout, as a value is shown inside a message. -/
def plain : Style where
  scientific _ := false
  pointZero := false
  nan := "NaN"
  infinity neg := if neg then "-inf" else "inf"

/-- Debugging notation: `.0` kept, `e` notation for very small and very large magnitudes. -/
def debug : Style where
  scientific p := decide (p ≤ -4) || decide (17 ≤ p)
  pointZero := true
  nan := "NaN"
  infinity neg := if neg then "-inf" else "inf"

/-- JSON notation: as short as possible, the exponent always signed, with
`null` standing for what JSON cannot write. -/
def json : Style where
  scientific p := decide (p ≤ -5) || decide (17 ≤ p)
  pointZero := true
  nan := "null"
  infinity _ := "null"
  exponent := signedExponent

end Style

end Rollout.Number

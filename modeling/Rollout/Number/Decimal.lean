import Rollout.Number.Rounding
/-!
# Reading decimal text as a double

`Binary64.ofDecimal negative digits e` is the double nearest to `digits * 10 ^ e` with the
given sign, rounded once and exactly. `Binary64.parse?` reads the usual text of a floating
point number:

* an optional sign, then `inf`, `infinity` or `nan` in any case;
* or an optional sign, digits with an optional decimal point (at least one digit in all),
  and an optional exponent: `e` or `E`, an optional sign and at least one digit.

Nothing else may stand in the text. A value too large for a double reads as infinity and one
too small as zero.

* `ofDecimal_zero`: no digits give a zero of the sign asked for.
-/

-- Powers of numbers use the core instance, whatever else is imported.
attribute [local instance(high)] instPowNat

namespace Rollout.Number

namespace Binary64

/-- The number of decimal digits of a positive number. -/
def decimalLength (n : Nat) : Nat := (Nat.toDigits 10 n).length

/-- The double nearest to `digits * 10 ^ e`, with the given sign. Beyond `10 ^ 310` the value
is infinite and below `10 ^ -330` it is zero, so no huge power is formed. -/
def ofDecimal (negative : Bool) (digits : Nat) (e : Int) : Binary64 :=
  if digits = 0 then ofFields negative 0 0
  else
    let lead := (decimalLength digits : Int) + e
    if 310 < lead then infinity negative
    else if lead < -330 then ofFields negative 0 0
    else match e with
      | .ofNat k => ofRatio negative (digits * 10 ^ k) 1
      | .negSucc k => ofRatio negative digits (10 ^ (k + 1))

theorem ofDecimal_zero (negative : Bool) (e : Int) :
    ofDecimal negative 0 e = ofFields negative 0 0 := by
  simp [ofDecimal]

/-- The value of a run of ASCII digits, with their count. -/
def digitsValue (cs : List Char) : Nat × Nat :=
  cs.foldl (fun (v, n) c => (v * 10 + (c.toNat - '0'.toNat), n + 1)) (0, 0)

/-- Whether a character is an ASCII digit. -/
def isAsciiDigit (c : Char) : Bool := '0' ≤ c && c ≤ '9'

/-- Reads the text of a floating point number. -/
def parse? (s : String) : Option Binary64 :=
  let cs := s.toList
  let (negative, body) := match cs with
    | '-' :: rest => (true, rest)
    | '+' :: rest => (false, rest)
    | _ => (false, cs)
  let word := (String.ofList body).toLower
  if word == "inf" || word == "infinity" then some (infinity negative)
  else if word == "nan" then some (if negative then nan.neg else nan)
  else
    let intPart := body.takeWhile isAsciiDigit
    let rest := body.dropWhile isAsciiDigit
    let (fracPart, rest) := match rest with
      | '.' :: more => (more.takeWhile isAsciiDigit, more.dropWhile isAsciiDigit)
      | _ => ([], rest)
    if intPart.isEmpty && fracPart.isEmpty then none
    else
      let exponent : Option Int := match rest with
        | [] => some 0
        | c :: more =>
          if c == 'e' || c == 'E' then
            let (sign, ds) := match more with
              | '-' :: ds => (-1, ds)
              | '+' :: ds => (1, ds)
              | ds => (1, ds)
            if ds.isEmpty || !ds.all isAsciiDigit then none
            else some (sign * ((digitsValue ds).1 : Int))
          else none
      exponent.map fun e =>
        let (digits, _) := digitsValue (intPart ++ fracPart)
        ofDecimal negative digits (e - fracPart.length)

end Binary64

end Rollout.Number

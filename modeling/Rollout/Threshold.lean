import Rollout.Text.Blank
import Rollout.Number.Integer

/-!
# Thresholds

A threshold asks for a number of items out of a population: either an absolute count, or a
percentage kept in hundredths of a percent (`16.1%` is 1610), resolved against the total by
rounding up. Percentages are read from text with at most two decimals and at most 100%.

* `required_absolute`, `required_percentage`: the count asked for.
* `parse` reads a threshold from text; `display` writes it back.
-/

namespace Rollout

/-- How many items out of a population are required. -/
inductive Threshold where
  /-- An exact number of items. -/
  | absolute (count : Nat)
  /-- Hundredths of a percent of the population. -/
  | percentage (hundredths : Nat)
deriving DecidableEq, Repr, Inhabited

namespace Threshold

/-- Hundredths of a percent in the whole. -/
def full : Nat := 10000

/-- The count required out of `total`; the product of total and hundredths saturates at the
largest 64-bit word before it is divided, rounding up. -/
def required : Threshold → Nat → Nat
  | .absolute count, _ => count
  | .percentage h, total => (min (total * h) Number.u64Max + full - 1) / full

/-- Whether `count` items out of `total` meet the threshold. -/
def isMet (t : Threshold) (count total : Nat) : Bool := decide (t.required total ≤ count)

/-- The text of a threshold: the count, or the percentage with no, one or two decimals. -/
def display : Threshold → String
  | .absolute count => toString count
  | .percentage h =>
    let whole := h / 100
    let fraction := h % 100
    if fraction == 0 then s!"{whole}%"
    else if fraction % 10 == 0 then s!"{whole}.{fraction / 10}%"
    else if fraction < 10 then s!"{whole}.0{fraction}%"
    else s!"{whole}.{fraction}%"

/-- Whether every character is an ASCII digit. -/
def allDigits (cs : List Char) : Bool := cs.all fun c => '0' ≤ c && c ≤ '9'

/-- The value of a string of ASCII digits. -/
def digitsValue (cs : List Char) : Nat := cs.foldl (fun acc c => acc * 10 + (c.toNat - 48)) 0

/-- Hundredths from `whole` or `whole.f` or `whole.ff`, all ASCII digits, the whole part not
empty; values past the largest 64-bit word are refused. -/
def hundredths? (number : String) : Option Nat :=
  let cs := number.toList
  let whole := cs.takeWhile (· != '.')
  let fraction := (cs.dropWhile (· != '.')).drop 1
  if whole.isEmpty || !allDigits whole || !allDigits fraction || fraction.length > 2 then none
  else
    let w := digitsValue whole
    let f := if fraction.length == 1 then digitsValue fraction * 10 else digitsValue fraction
    if w * 100 + f > Number.u64Max then none else some (w * 100 + f)

/-- The three ways reading a threshold fails, each quoting the text as given. -/
inductive ParseError
  | notPercentage (text : String)
  | outOfRange (text : String)
  | neither (text : String)
deriving DecidableEq, Repr

/-- The wording of each failure. -/
def ParseError.message : ParseError → String
  | .notPercentage s => s!"'{s}' is not a valid percentage (at most two decimals)"
  | .outOfRange s => s!"percentage '{s}' must be between 0% and 100%"
  | .neither s => s!"'{s}' is neither a count nor a percentage like '80%'"

/-- Reads a threshold: blanks around it are ignored, a final `%` makes it a percentage (blanks
before the `%` are ignored too), anything else must be a 64-bit count. -/
def parse (s : String) : Except ParseError Threshold :=
  let trimmed := (Text.trim s).toList
  match trimmed.getLast? with
  | some '%' =>
    match hundredths? (Text.trim (String.ofList trimmed.dropLast)) with
    | none => .error (.notPercentage s)
    | some h => if h > full then .error (.outOfRange s) else .ok (.percentage h)
  | _ =>
    match Number.parseU64 (String.ofList trimmed) with
    | .ok n => .ok (.absolute n)
    | .error _ => .error (.neither s)

theorem required_absolute (n total : Nat) : (absolute n).required total = n := rfl

theorem required_percentage (h total : Nat) :
    (percentage h).required total = (min (total * h) Number.u64Max + full - 1) / full := rfl

end Threshold

end Rollout

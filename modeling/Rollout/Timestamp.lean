import Rollout.Text.Blank
/-!
# Timestamps

A timestamp is a number of seconds since the Unix epoch with a count of nanoseconds; during a
leap second the nanoseconds run from `10 ^ 9` to `2 * 10 ^ 9 - 1`, so the leap second sorts
after the second it extends and before the next one.

Timestamps are read from a relaxed RFC 3339 form: a date `Y-M-D` (the year four digits, or any
number of digits after a sign), a `T`, `t` or space, a time `h:m:s` with an optional fraction
(digits past the ninth are ignored), and an offset: `Z`, `UTC` in any case, or a sign (a minus
sign may be U+2212) with hours and minutes, separated by any colons and blanks. Blanks may stand
before each number, around the separators and at the end. A second of 60 is a leap second.

A failure is one of a few kinds, reported at the first step that fails: the text ends too
early, holds an unexpected character, has something left over, or names a value out of range
(a month of 13, the 30th of February, an offset of a day or more, a year before -262143 or after
262142). A time within those years whose offset moves it out of them names no instant.

* `since` measures the time between two timestamps, counting a leap second as the second
  before the minute that follows it.
-/

-- Powers of numbers use the core instance, whatever else is imported.
attribute [local instance(high)] instPowNat

namespace Rollout

/-- A point in time: seconds since the epoch and nanoseconds, the latter beyond `10 ^ 9`
during a leap second. -/
structure Timestamp where
  seconds : Int
  nanos : Nat
deriving DecidableEq, Inhabited

/-- Why a timestamp could not be read. -/
inductive TimeError where
  | outOfRange
  | invalid
  | tooShort
  | tooLong
  | impossible
deriving DecidableEq, Inhabited

/-- The text of a failure. -/
def TimeError.message : TimeError → String
  | .outOfRange => "input is out of range"
  | .invalid => "input contains invalid characters"
  | .tooShort => "premature end of input"
  | .tooLong => "trailing input"
  | .impossible => "no possible date and time matching input"

namespace Timestamp

/-- Earlier in time, a leap second after the second it extends. -/
def before (a b : Timestamp) : Bool :=
  decide (a.seconds < b.seconds) || (decide (a.seconds = b.seconds) && decide (a.nanos < b.nanos))

/-- Days since the epoch of a date of the proleptic Gregorian calendar. -/
def daysFromCivil (y : Int) (m d : Nat) : Int :=
  let y' : Int := if m ≤ 2 then y - 1 else y
  let era := y' / 400
  let yoe := y' - era * 400
  let mp : Int := if m > 2 then (m : Int) - 3 else (m : Int) + 9
  let doy := (153 * mp + 2) / 5 + (d : Int) - 1
  let doe := yoe * 365 + yoe / 4 - yoe / 100 + doy
  era * 146097 + doe - 719468

/-- Whether a year has a 29th of February. -/
def isLeapYear (y : Int) : Bool :=
  (y % 4 == 0 && y % 100 != 0) || y % 400 == 0

/-- The number of days in a month. -/
def daysInMonth (y : Int) (m : Nat) : Nat :=
  if m = 2 then (if isLeapYear y then 29 else 28)
  else if m = 4 ∨ m = 6 ∨ m = 9 ∨ m = 11 then 30
  else 31

/-- The first and last years of the calendar. -/
def minYear : Int := -262143
def maxYear : Int := 262142

/-- The earliest and latest representable seconds. -/
def minSeconds : Int := daysFromCivil minYear 1 1 * 86400
def maxSeconds : Int := daysFromCivil maxYear 12 31 * 86400 + 86399

/-- The time from `b` to `a`, as whole seconds and nanoseconds below `10 ^ 9`. Within a day a
leap second does not add a second of its own: from a leap second to a later time of the same
day counts as from the start of the next second. -/
def since (a b : Timestamp) : Int × Nat :=
  let dayA := a.seconds / 86400
  let dayB := b.seconds / 86400
  let secA := a.seconds % 86400
  let secB := b.seconds % 86400
  let secs0 := (dayA - dayB) * 86400 + (secA - secB)
  let secs :=
    if secA > secB ∧ b.nanos ≥ 1000000000 then secs0 + 1
    else if secA < secB ∧ a.nanos ≥ 1000000000 then secs0 - 1
    else secs0
  let frac : Int := (a.nanos : Int) - (b.nanos : Int)
  (secs + frac / 1000000000, (frac % 1000000000).toNat)

/-- Whether the time from `b` to `a` is at most `limit` seconds. -/
def sinceAtMost (a b : Timestamp) (limit : Int) : Bool :=
  let (s, n) := since a b
  decide (s * 1000000000 + n ≤ limit * 1000000000)

/-! ## Reading -/

/-- The fields read so far. -/
structure Fields where
  year : Int := 0
  month : Nat := 0
  day : Nat := 0
  hour : Nat := 0
  minute : Nat := 0
  second : Nat := 0
  nanos : Nat := 0
  offset : Int := 0

/-- Drops leading blanks. -/
def skipBlank (s : List Char) : List Char := s.dropWhile Text.isBlank

/-- The largest signed 64-bit value. -/
def int64Max : Nat := 2 ^ (63 : Nat) - 1

/-- Reads at least one and at most `width` ASCII digits; more than a signed 64-bit value is
out of range. -/
def digits (width : Nat) (s : List Char) : Except TimeError (List Char × Nat) :=
  match s with
  | [] => .error .tooShort
  | c :: _ =>
    if c.isDigit then go width 0 s else .error .invalid
where
  go : Nat → Nat → List Char → Except TimeError (List Char × Nat)
    | 0, n, s => .ok (s, n)
    | _ + 1, n, [] => .ok ([], n)
    | k + 1, n, c :: rest =>
      if c.isDigit then
        let n' := n * 10 + (c.toNat - 48)
        if int64Max < n' then .error .outOfRange else go k n' rest
      else .ok (c :: rest, n)

/-- Reads a field of digits after optional blanks, checking its range. -/
def field (width lo hi : Nat) (s : List Char) : Except TimeError (List Char × Nat) := do
  let (rest, n) ← digits width (skipBlank s)
  if n < lo ∨ hi < n then throw .outOfRange
  pure (rest, n)

/-- Reads the year: four digits, or any number after a sign. -/
def year (s : List Char) : Except TimeError (List Char × Int) := do
  let s := skipBlank s
  let (rest, y) ← match s with
    | '-' :: more => do let (r, n) ← digits (2 ^ (64 : Nat)) more; pure (r, -(n : Int))
    | '+' :: more => do let (r, n) ← digits (2 ^ (64 : Nat)) more; pure (r, (n : Int))
    | _ => do let (r, n) ← digits 4 s; pure (r, (n : Int))
  if y < -(2 ^ (31 : Nat)) ∨ 2 ^ (31 : Nat) - 1 < y then throw .outOfRange
  pure (rest, y)

/-- Reads a literal character after optional blanks. -/
def literal (c : Char) (s : List Char) : Except TimeError (List Char) :=
  match skipBlank s with
  | [] => .error .tooShort
  | d :: rest => if d = c then .ok rest else .error .invalid

/-- Reads a fraction of a second after its point: up to nine digits, the rest skipped. -/
def fraction (s : List Char) : Except TimeError (List Char × Nat) := do
  let (rest, n) ← digits 9 s
  let count := s.length - rest.length
  pure (rest.dropWhile Char.isDigit, n * 10 ^ (9 - count))

/-- The UTF-8 length of some characters. -/
def byteLength (s : List Char) : Nat := s.foldl (fun n c => n + c.utf8Size) 0

/-- Reads two ASCII digits of an offset. -/
def twoDigits (s : List Char) : Except TimeError (Char × Char × List Char) :=
  if byteLength s < 2 then .error .tooShort
  else match s with
    | a :: b :: rest => .ok (a, b, rest)
    | _ => .error .invalid

/-- Reads an offset from UTC in seconds. -/
def offset (s : List Char) : Except TimeError (List Char × Int) := do
  match s with
  | 'Z' :: rest | 'z' :: rest => pure (rest, 0)
  | [] => throw .tooShort
  | c :: rest =>
    let negative ← if c = '+' then pure false
      else if c = '-' ∨ c = '−' then pure true
      else throw .invalid
    let (h1, h2, rest) ← twoDigits rest
    if !(h1.isDigit && h2.isDigit) then throw .invalid
    let rest := rest.dropWhile (fun c => c = ':' || Text.isBlank c)
    let (m1, m2, rest) ← twoDigits rest
    if !m2.isDigit || !m1.isDigit then throw .invalid
    if '6' ≤ m1 then throw .outOfRange
    let secs : Int := ((h1.toNat - 48) * 10 + (h2.toNat - 48)) * 3600 +
      ((m1.toNat - 48) * 10 + (m2.toNat - 48)) * 60
    pure (rest, if negative then -secs else secs)

/-- Whether the next three characters spell `UTC` in any case. -/
def isUtc : List Char → Bool
  | a :: b :: c :: _ => a.toUpper == 'U' && b.toUpper == 'T' && c.toUpper == 'C'
  | _ => false

/-- Reads the fields of a timestamp. -/
def fields (text : String) : Except TimeError Fields := do
  let s := text.toList
  let (s, y) ← year s
  let s ← literal '-' s
  let (s, mo) ← field 2 1 12 s
  let s ← literal '-' s
  let (s, d) ← field 2 1 31 s
  let s ← match s with
    | c :: rest => if c = 'T' ∨ c = 't' ∨ c = ' ' then pure rest else throw .invalid
    | [] => throw .tooShort
  let (s, h) ← field 2 0 23 s
  let s ← literal ':' s
  let (s, mi) ← field 2 0 59 s
  let s ← literal ':' s
  let (s, sec) ← field 2 0 60 s
  let (s, ns) ← match s with
    | '.' :: rest => fraction rest
    | _ => pure (s, 0)
  let s := skipBlank s
  let (s, off) ← if isUtc s then pure (s.drop 3, 0) else offset s
  if !(skipBlank s).isEmpty then throw .tooLong
  pure { year := y, month := mo, day := d, hour := h, minute := mi, second := sec, nanos := ns,
         offset := off }

/-- Reads a timestamp. -/
def parse (text : String) : Except TimeError Timestamp := do
  let f ← fields text
  if f.year < minYear ∨ maxYear < f.year ∨ daysInMonth f.year f.month < f.day then
    throw .outOfRange
  if f.offset ≤ -86400 ∨ 86400 ≤ f.offset then throw .outOfRange
  let (second, leap) := if f.second = 60 then (59, 1000000000) else (f.second, 0)
  let wall := daysFromCivil f.year f.month f.day * 86400 + f.hour * 3600 + f.minute * 60 + second
  let utc := wall - f.offset
  if utc < minSeconds ∨ maxSeconds < utc then throw .impossible
  pure ⟨utc, f.nanos + leap⟩

end Timestamp

end Rollout

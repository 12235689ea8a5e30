import Rollout.Json.Shape
import Rollout.Number.Rounding
/-!
# Reading JSON text: the cursor and the lexical pieces

A `Cursor` is the text still to read and the position reached: the line, counted from 1, and
the column, counted in bytes of UTF-8 since the last line feed. A syntax error is reported at
one of two places: *here* (the column just past what has been read) or *at the next character*
(one byte further, or the start of the next line when that character is a line feed). Which of
the two each error takes is part of the format's contract.

This module reads the pieces that hold no nested values: white space, literals, strings with
their escapes, and numbers. A number is kept as a natural number while it fits in 64 bits and
as a negative integer while it fits in 64 signed bits; otherwise its significand and decimal
exponent are scaled into a double by multiplying or dividing by a power of ten, each step
rounded as the machine rounds, and a magnitude that overflows is an error.

Reading runs in `EStateM`, so a failure keeps the cursor where it happened: a caller may still
move past closing brackets before it reports a mismatch that has no position of its own.
-/

-- Powers of numbers use the core instance, whatever else is imported.
attribute [local instance(high)] instPowNat

namespace Rollout.Json

open Rollout.Number

/-- The text still to read and the position reached. -/
structure Cursor where
  rest : List Char
  line : Nat := 1
  column : Nat := 0
deriving Inhabited

/-- Errors of JSON syntax. -/
inductive SyntaxError where
  | eofInList
  | eofInObject
  | eofInString
  | eofInValue
  | expectedColon
  | expectedListCommaOrEnd
  | expectedObjectCommaOrEnd
  | expectedIdent
  | expectedValue
  | invalidEscape
  | invalidNumber
  | numberOutOfRange
  | controlCharacter
  | keyMustBeString
  | loneLeadingSurrogate
  | trailingComma
  | trailingCharacters
  | unexpectedEndOfHexEscape
  | recursionLimit
deriving DecidableEq, Inhabited

/-- The text of a syntax error. -/
def SyntaxError.message : SyntaxError → String
  | .eofInList => "EOF while parsing a list"
  | .eofInObject => "EOF while parsing an object"
  | .eofInString => "EOF while parsing a string"
  | .eofInValue => "EOF while parsing a value"
  | .expectedColon => "expected `:`"
  | .expectedListCommaOrEnd => "expected `,` or `]`"
  | .expectedObjectCommaOrEnd => "expected `,` or `\x7d`"
  | .expectedIdent => "expected ident"
  | .expectedValue => "expected value"
  | .invalidEscape => "invalid escape"
  | .invalidNumber => "invalid number"
  | .numberOutOfRange => "number out of range"
  | .controlCharacter => "control character (\\u0000-\\u001F) found while parsing a string"
  | .keyMustBeString => "key must be a string"
  | .loneLeadingSurrogate => "lone leading surrogate in hex escape"
  | .trailingComma => "trailing comma"
  | .trailingCharacters => "trailing characters"
  | .unexpectedEndOfHexEscape => "unexpected end of hex escape"
  | .recursionLimit => "recursion limit exceeded"

/-- A failure to read JSON text: a message with its position, or a mismatch that has not yet
been given one. -/
inductive ReadError where
  | located (message : String) (line column : Nat)
  | unlocated (m : Mismatch)
deriving Inhabited

/-- The text of a read error. -/
def ReadError.message : ReadError → String
  | .located m l c => s!"{m} at line {l} column {c}"
  | .unlocated m => m.message Wording.json

/-- A reading step. -/
abbrev Reader := EStateM ReadError Cursor

namespace Cursor

/-- The cursor at the start of a text. -/
def start (s : String) : Cursor := { rest := s.toList }

/-- The position after reading one more character. -/
def step (line column : Nat) (c : Char) : Nat × Nat :=
  if c = '\n' then (line + 1, 0) else (line, column + c.utf8Size)

/-- Reads one character. -/
def advance (cur : Cursor) : Cursor :=
  match cur.rest with
  | [] => cur
  | c :: more => let (l, col) := step cur.line cur.column c; ⟨more, l, col⟩

/-- The position one byte past the cursor: the start of the next line when the next character
is a line feed, the cursor itself at the end of the text. -/
def peekPosition (cur : Cursor) : Nat × Nat :=
  match cur.rest with
  | [] => (cur.line, cur.column)
  | c :: _ => if c = '\n' then (cur.line + 1, 0) else (cur.line, cur.column + 1)

/-- The position at the end of the text. -/
def endPosition (cur : Cursor) : Nat × Nat :=
  cur.rest.foldl (fun (l, col) c => step l col c) (cur.line, cur.column)

/-- Whether a character is JSON white space. -/
def isBlank (c : Char) : Bool := c = ' ' || c = '\n' || c = '\t' || c = '\r'

/-- Skips white space. -/
def skipBlank (cur : Cursor) : Cursor :=
  match h : cur.rest with
  | [] => cur
  | c :: more =>
    if isBlank c then
      have : more.length < cur.rest.length := by simp [h]
      skipBlank ⟨more, (step cur.line cur.column c).1, (step cur.line cur.column c).2⟩
    else cur
termination_by cur.rest.length

end Cursor

/-- The error at the position reached. -/
def failHere {α : Type} (e : SyntaxError) : Reader α := fun cur =>
  .error (.located e.message cur.line cur.column) cur

/-- The error at the next character. -/
def failNext {α : Type} (e : SyntaxError) : Reader α := fun cur =>
  let (l, c) := cur.peekPosition
  .error (.located e.message l c) cur

/-- The error at the end of the text, the cursor moved there. -/
def failAtEnd {α : Type} (e : SyntaxError) : Reader α := fun cur =>
  let (l, c) := cur.endPosition
  .error (.located e.message l c) { rest := [], line := l, column := c }

/-- The next character, not read. -/
def peekChar : Reader (Option Char) := fun cur => .ok cur.rest.head? cur

/-- Reads one character. -/
def bump : Reader Unit := fun cur => .ok () cur.advance

/-- Reads and returns one character. -/
def nextChar : Reader (Option Char) := fun cur => .ok cur.rest.head? cur.advance

/-- Skips white space and returns the next character, not read. -/
def skipBlank : Reader (Option Char) := fun cur =>
  let cur := cur.skipBlank
  .ok cur.rest.head? cur

/-- Gives a mismatch the position reached, unless it has one. -/
def locate (e : ReadError) : Reader ReadError := fun cur =>
  match e with
  | .unlocated m => .ok (.located (m.message Wording.json) cur.line cur.column) cur
  | e => .ok e cur

/-- Reads the rest of a literal such as `ull` after `n`. A wrong character is reported one byte
past its start. -/
def expectWord : List Char → Reader Unit
  | [] => pure ()
  | w :: more => do
    match ← peekChar with
    | none => failHere .eofInValue
    | some c => if c = w then do bump; expectWord more else failNext .expectedIdent

/-! ## Strings -/

/-- The value of a hexadecimal digit. -/
def hexValue? (c : Char) : Option Nat :=
  if '0' ≤ c ∧ c ≤ '9' then some (c.toNat - 48)
  else if 'a' ≤ c ∧ c ≤ 'f' then some (c.toNat - 87)
  else if 'A' ≤ c ∧ c ≤ 'F' then some (c.toNat - 55)
  else none

/-- The total UTF-8 length of some characters. -/
def byteLength (cs : List Char) : Nat := cs.foldl (fun n c => n + c.utf8Size) 0

/-- The position `n` bytes further on. -/
def bytesAhead (line column : Nat) : Nat → List Char → Nat × Nat
  | 0, _ => (line, column)
  | _, [] => (line, column)
  | n + 1, c :: more =>
    if c = '\n' then bytesAhead (line + 1) 0 n more
    else if c.utf8Size ≤ n + 1 then bytesAhead line (column + c.utf8Size) (n + 1 - c.utf8Size) more
    else (line, column + n + 1)

/-- Reads the four hexadecimal digits of a `\u` escape: four bytes are taken; fewer than four
left is the end of the string, and four that are not all hexadecimal digits are an invalid
escape reported after them. -/
def hexEscape : Reader Nat := fun cur =>
  let bad : EStateM.Result ReadError Cursor Nat :=
    if byteLength cur.rest < 4 then failAtEnd .eofInString cur
    else
      let (l, col) := bytesAhead cur.line cur.column 4 cur.rest
      .error (.located SyntaxError.invalidEscape.message l col) cur
  match cur.rest with
  | a :: b :: c :: d :: more =>
    match hexValue? a, hexValue? b, hexValue? c, hexValue? d with
    | some x, some y, some z, some w =>
      .ok (((x * 16 + y) * 16 + z) * 16 + w) ⟨more, cur.line, cur.column + 4⟩
    | _, _, _, _ => bad
  | _ => bad

/-- Skips one byte, as the reader does after a broken surrogate pair, and reports the pair as
unfinished there. -/
def brokenPair {α : Type} : Reader α := fun cur =>
  match cur.rest with
  | [] => failAtEnd .eofInString cur
  | c :: _ =>
    let (l, col) := if c = '\n' then (cur.line + 1, 0) else (cur.line, cur.column + 1)
    .error (.located SyntaxError.unexpectedEndOfHexEscape.message l col) cur

/-- Reads a `\u` escape and, for a leading surrogate, the trailing one that must follow. -/
def unicodeEscape : Reader Char := do
  let n ← hexEscape
  if 0xDC00 ≤ n ∧ n ≤ 0xDFFF then failHere .loneLeadingSurrogate
  else if n < 0xD800 ∨ 0xDBFF < n then pure (Char.ofNat n)
  else
    match ← peekChar with
    | none => failAtEnd .eofInString
    | some '\\' =>
      bump
      match ← peekChar with
      | none => failAtEnd .eofInString
      | some 'u' =>
        bump
        let n2 ← hexEscape
        if n2 < 0xDC00 ∨ 0xDFFF < n2 then failHere .loneLeadingSurrogate
        else pure (Char.ofNat ((n - 0xD800) * 0x400 + (n2 - 0xDC00) + 0x10000))
      | some _ => brokenPair
    | some _ => brokenPair

/-- The character that a one-letter escape stands for. -/
def simpleEscape? : Char → Option Char
  | '"' => some '"'
  | '\\' => some '\\'
  | '/' => some '/'
  | 'b' => some (Char.ofNat 8)
  | 'f' => some (Char.ofNat 12)
  | 'n' => some '\n'
  | 'r' => some '\r'
  | 't' => some '\t'
  | _ => none

/-- Reads the character after a backslash. -/
def escapeSequence : Reader Char := do
  match ← peekChar with
  | none => failHere .eofInString
  | some 'u' => do bump; unicodeEscape
  | some c =>
    match simpleEscape? c with
    | some r => do bump; pure r
    | none => failNext .invalidEscape

/-- Reads the body of a string after its opening quote, up to and including the closing quote.
`fuel` bounds the characters read. -/
def stringBody (fuel : Nat) (acc : List Char) : Reader String :=
  match fuel with
  | 0 => failAtEnd .eofInString
  | fuel + 1 => do
    match ← peekChar with
    | none => failHere .eofInString
    | some '"' => do bump; pure (String.ofList acc.reverse)
    | some '\\' => do
      bump
      let c ← escapeSequence
      stringBody fuel (c :: acc)
    | some c =>
      if c.toNat < 0x20 then failNext .controlCharacter
      else do bump; stringBody fuel (c :: acc)

/-- Reads a string after its opening quote. -/
def stringAfterQuote : Reader String := fun cur =>
  stringBody (cur.rest.length + 1) [] cur

/-- Skips a string after its opening quote, checking its escapes but not what they stand for.
A control character is reported before it. -/
def skipStringBody (fuel : Nat) : Reader Unit :=
  match fuel with
  | 0 => failAtEnd .eofInString
  | fuel + 1 => do
    match ← peekChar with
    | none => failAtEnd .eofInString
    | some '"' => bump
    | some '\\' => do
      bump
      match ← peekChar with
      | none => failHere .eofInString
      | some 'u' => do
        bump
        let _ ← hexEscape
        skipStringBody fuel
      | some c =>
        if (simpleEscape? c).isSome then do bump; skipStringBody fuel
        else failNext .invalidEscape
    | some c =>
      if c.toNat < 0x20 then failHere .controlCharacter
      else do bump; skipStringBody fuel

/-! ## Numbers -/

/-- The largest 64-bit natural number. -/
def u64Limit : Nat := 2 ^ (64 : Nat) - 1

/-- The largest 32-bit signed integer. -/
def i32Limit : Nat := 2 ^ (31 : Nat) - 1

/-- Whether a character is an ASCII digit. -/
def isDigit (c : Char) : Bool := '0' ≤ c && c ≤ '9'

/-- The value of an ASCII digit. -/
def digitOf (c : Char) : Nat := c.toNat - 48

/-- The double nearest to `10 ^ n`. -/
def powerOfTen (n : Nat) : Binary64 := Binary64.ofNat (10 ^ n)

/-- Scales a significand by a power of ten as the reader does: the significand rounded to a
double, then multiplied or divided by the double nearest to `10 ^ |e|`; an exponent beyond 308
is brought nearer in steps of `10 ^ 308` (for a non-zero value below one), and a product that
overflows is out of range (`none`). -/
def scaleLoop (f : Binary64) (e : Int) : Nat → Option Binary64
  | 0 => some f
  | n + 1 =>
    if e.natAbs ≤ 308 then
      if 0 ≤ e then
        let g := f.mul (powerOfTen e.natAbs)
        if g.isInfinite then none else some g
      else some (f.div (powerOfTen e.natAbs))
    else if f.isZero then some f
    else if 0 ≤ e then none
    else scaleLoop (f.div (powerOfTen 308)) (e + 308) n

/-- The double of a significand and decimal exponent, with its sign; `none` when out of range. -/
def fromParts (positive : Bool) (significand : Nat) (e : Int) : Option Binary64 :=
  (scaleLoop (Binary64.ofNat significand) e (e.natAbs / 308 + 2)).map
    fun f => if positive then f else f.neg

/-- Adds to an exponent, staying within 32 signed bits as the reader's exponent does. -/
def saturatingAdd (a b : Int) : Int :=
  max (-(2 ^ (31 : Nat) : Int)) (min (2 ^ (31 : Nat) - 1) (a + b))

/-- Finishes a number with a fraction or exponent as a double. -/
def finishDouble (positive : Bool) (significand : Nat) (e : Int) : Reader Number := do
  match fromParts positive significand e with
  | some f => pure (.double f)
  | none => failHere .numberOutOfRange

/-- Reads the digits of an exponent after at least one, stopping in range; an exponent past
32 signed bits is out of range for a non-zero significand with a positive exponent, and zero
otherwise. -/
def exponentDigits (positive : Bool) (significand : Nat) (start : Int) (positiveExp : Bool)
    (fuel : Nat) (exp : Nat) : Reader Number :=
  match fuel with
  | 0 => failHere .numberOutOfRange
  | fuel + 1 => do
    match ← peekChar with
    | some c =>
      if isDigit c then do
        bump
        let next := exp * 10 + digitOf c
        if i32Limit < next then
          if significand ≠ 0 ∧ positiveExp then failHere .numberOutOfRange
          else do
            skipDigits fuel
            pure (.double (if positive then Binary64.zero else Binary64.zero.neg))
        else exponentDigits positive significand start positiveExp fuel next
      else finishExp
    | none => finishExp
where
  finishExp : Reader Number :=
    finishDouble positive significand
      (if positiveExp then saturatingAdd start exp else saturatingAdd start (-(exp : Int)))
  skipDigits : Nat → Reader Unit
    | 0 => pure ()
    | n + 1 => do
      match ← peekChar with
      | some c => if isDigit c then do bump; skipDigits n else pure ()
      | none => pure ()

/-- Reads an exponent, its `e` next. -/
def exponentPart (positive : Bool) (significand : Nat) (start : Int) : Reader Number := do
  bump
  let positiveExp ← do
    match ← peekChar with
    | some '+' => do bump; pure true
    | some '-' => do bump; pure false
    | _ => pure true
  match ← peekChar with
  | none => failHere .eofInValue
  | some c =>
    if isDigit c then do
      bump
      fun cur =>
        exponentDigits positive significand start positiveExp (cur.rest.length + 1) (digitOf c) cur
    else failNext .invalidNumber

/-- Skips digits that no longer fit, then goes on with an exponent or finishes. -/
def afterOverflowedFraction (positive : Bool) (significand : Nat) (e : Int) : Nat → Reader Number
  | 0 => finishDouble positive significand e
  | n + 1 => do
    match ← peekChar with
    | some c =>
      if isDigit c then do bump; afterOverflowedFraction positive significand e n
      else if c = 'e' ∨ c = 'E' then exponentPart positive significand e
      else finishDouble positive significand e
    | none => finishDouble positive significand e

/-- Reads fraction digits into the significand while it fits in 64 bits. -/
def fractionDigits (positive : Bool) (start : Int) (count : Nat) (significand : Nat) :
    Nat → Reader Number
  | 0 => finishDouble positive significand (start - count)
  | n + 1 => do
    match ← peekChar with
    | some c =>
      if isDigit c then
        let next := significand * 10 + digitOf c
        if u64Limit < next then afterOverflowedFraction positive significand (start - count) (n + 1)
        else do bump; fractionDigits positive start (count + 1) next n
      else fractionEnd c
    | none => fractionEnd'
where
  fractionEnd (c : Char) : Reader Number :=
    if count = 0 then failNext .invalidNumber
    else if c = 'e' ∨ c = 'E' then exponentPart positive significand (start - count)
    else finishDouble positive significand (start - count)
  fractionEnd' : Reader Number :=
    if count = 0 then failNext .eofInValue
    else finishDouble positive significand (start - count)

/-- Reads a fraction, its `.` next. -/
def fractionPart (positive : Bool) (significand : Nat) (start : Int) : Reader Number := do
  bump
  fun cur => fractionDigits positive start 0 significand (cur.rest.length + 1) cur

/-- Finishes an integer that fits: a fraction or exponent may follow. A negative integer stays
an integer down to `-2 ^ 63`; beyond that, and for `-0`, it is a double. -/
def integerEnd (positive : Bool) (significand : Nat) : Reader Number := do
  match ← peekChar with
  | some '.' => fractionPart positive significand 0
  | some 'e' | some 'E' => exponentPart positive significand 0
  | _ =>
    if positive then pure (.natural significand)
    else if 1 ≤ significand ∧ significand ≤ 2 ^ (63 : Nat) then pure (.negative (-(significand : Int)))
    else pure (.double (Binary64.ofNat significand).neg)

/-- Counts integer digits past 64 bits into the exponent. -/
def longInteger (positive : Bool) (significand : Nat) (e : Nat) : Nat → Reader Number
  | 0 => finishDouble positive significand e
  | n + 1 => do
    match ← peekChar with
    | some c =>
      if isDigit c then do bump; longInteger positive significand (e + 1) n
      else if c = '.' then fractionPart positive significand e
      else if c = 'e' ∨ c = 'E' then exponentPart positive significand e
      else finishDouble positive significand e
    | none => finishDouble positive significand e

/-- Reads integer digits while the value fits in 64 bits. -/
def integerDigits (positive : Bool) (significand : Nat) : Nat → Reader Number
  | 0 => integerEnd positive significand
  | n + 1 => do
    match ← peekChar with
    | some c =>
      if isDigit c then
        let next := significand * 10 + digitOf c
        if u64Limit < next then longInteger positive significand 0 (n + 1)
        else do bump; integerDigits positive next n
      else integerEnd positive significand
    | none => integerEnd positive significand

/-- Reads a number, after its minus sign if it has one. A leading zero stands alone. -/
def number (positive : Bool) : Reader Number := do
  match ← peekChar with
  | none => failHere .eofInValue
  | some '0' =>
    bump
    match ← peekChar with
    | some c => if isDigit c then failNext .invalidNumber else integerEnd positive 0
    | none => integerEnd positive 0
  | some c =>
    if isDigit c then do
      bump
      fun cur => integerDigits positive (digitOf c) (cur.rest.length + 1) cur
    else failNext .invalidNumber

/-- Skips the digits of a number, checking its form only. -/
def skipDigits : Nat → Reader Unit
  | 0 => pure ()
  | n + 1 => do
    match ← peekChar with
    | some c => if isDigit c then do bump; skipDigits n else pure ()
    | none => pure ()

/-- Skips an exponent, its `e` next. -/
def skipExponent : Reader Unit := fun cur => (do
  bump
  match ← peekChar with
  | some '+' | some '-' => bump
  | _ => pure ()
  match ← peekChar with
  | some c => if isDigit c then do bump; skipDigits (cur.rest.length + 1) else failNext .invalidNumber
  | none => failHere .invalidNumber) cur

/-- Skips a number after its minus sign, checking its form only. -/
def skipNumber : Reader Unit := fun cur => (do
  match ← peekChar with
  | some '0' =>
    bump
    match ← peekChar with
    | some c => if isDigit c then failNext .invalidNumber else pure ()
    | none => pure ()
  | some c => if isDigit c then do bump; skipDigits (cur.rest.length + 1) else failNext .invalidNumber
  | none => failHere .invalidNumber
  match ← peekChar with
  | some '.' => do
    bump
    match ← peekChar with
    | some c =>
      if isDigit c then do
        skipDigits (cur.rest.length + 1)
        match ← peekChar with
        | some 'e' | some 'E' => skipExponent
        | _ => pure ()
      else failNext .invalidNumber
    | none => failNext .invalidNumber
  | some 'e' | some 'E' => skipExponent
  | _ => pure ()) cur

end Rollout.Json

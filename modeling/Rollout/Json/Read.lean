import Rollout.Json.Cursor
import Rollout.Json.Decode
/-!
# Reading JSON text against a shape

`Shape.readText` reads a JSON document as the shape expects it, from left to right, and stops
at the first problem, whether of syntax or of shape: a string where a count is expected is
reported even if the text breaks down further on.

The rules of where a problem is reported:

* A syntax error has its own position (`Rollout.Json.Cursor`).
* A value of the wrong kind is read to its end first (a scalar) or not at all (a bracket), and
  is reported where reading stopped.
* A mismatch found by a record or a map itself (a missing, unknown or repeated field, a list of
  the wrong length) is reported where the reader stands once the enclosing brackets have been
  closed as far as the text allows: after the closing bracket when it comes next.
* Nesting is limited to 127 levels of brackets.

Objects read as free JSON are keyed lists (the last of repeated keys wins); a record sees its
fields in the order of the text, so a field given twice is an error.
-/

namespace Rollout.Json

/-- Gives an unlocated mismatch the position where the reader stands. -/
def fixPosition (e : ReadError) (cur : Cursor) : ReadError :=
  match e with
  | .unlocated m => .located (m.message Wording.json) cur.line cur.column
  | e => e

/-- Runs a reading step, placing a mismatch that it leaves unlocated where it stopped. -/
def positioned {α : Type} (r : Reader α) : Reader α := fun cur =>
  match r cur with
  | .ok a c => .ok a c
  | .error e c => .error (fixPosition e c) c

/-- Runs the body of a bracketed value and then its closing step. The closing step runs even
after the body failed, moving the reader on; the body's error is then the answer. -/
def bracketed {α : Type} (body : Reader α) (close : Reader Unit) : Reader α := fun cur =>
  match body cur with
  | .ok a c =>
    match close c with
    | .ok _ c' => .ok a c'
    | .error e c' => .error e c'
  | .error e c =>
    match close c with
    | .ok _ c' => .error e c'
    | .error _ c' => .error e c'

/-- A mismatch without a position yet. -/
def mismatch {α : Type} (m : Mismatch) : Reader α := fun cur => .error (.unlocated m) cur

/-- One more level of brackets: out of levels is an error at the bracket. -/
def enter (depth : Nat) : Reader Nat :=
  if depth ≤ 1 then failNext .recursionLimit else pure (depth - 1)

/-- Closes a list: `]` is read; a comma is read and then reported as trailing, or as followed by
more than the list allows. -/
def closeList : Reader Unit := do
  match ← skipBlank with
  | some ']' => bump
  | some ',' => do
    bump
    match ← skipBlank with
    | some ']' => failNext .trailingComma
    | _ => failNext .trailingCharacters
  | some _ => failNext .trailingCharacters
  | none => failNext .eofInList

/-- Closes an object. -/
def closeObject : Reader Unit := do
  match ← skipBlank with
  | some '}' => bump
  | some ',' => failNext .trailingComma
  | some _ => failNext .trailingCharacters
  | none => failNext .eofInObject

/-- Moves to the next item of a list, answering whether there is one. -/
def nextItem (first : Bool) : Reader Bool := do
  match ← skipBlank with
  | some ']' => pure false
  | some ',' =>
    if first then pure true
    else do
      bump
      match ← skipBlank with
      | some ']' => failNext .trailingComma
      | some _ => pure true
      | none => failNext .eofInValue
  | some _ => if first then pure true else failNext .expectedListCommaOrEnd
  | none => failNext .eofInList

/-- Reads a key after its opening quote is next. -/
def keyAt : Reader (Option String) := do
  match ← skipBlank with
  | some '"' => do bump; let k ← stringAfterQuote; pure (some k)
  | some '}' => failNext .trailingComma
  | some _ => failNext .keyMustBeString
  | none => failNext .eofInValue

/-- Moves to the next key of an object and reads it, or answers `none` at the closing brace. -/
def nextKey (first : Bool) : Reader (Option String) := do
  match ← skipBlank with
  | some '}' => pure none
  | some ',' =>
    if first then keyAt
    else do bump; keyAt
  | some _ => if first then keyAt else failNext .expectedObjectCommaOrEnd
  | none => failNext .eofInObject

/-- Reads the colon between a key and its value. -/
def colon : Reader Unit := do
  match ← skipBlank with
  | some ':' => bump
  | some _ => failNext .expectedColon
  | none => failNext .eofInObject

/-- What a found number is, as a mismatch reports it. -/
def Number.found : Number → Found
  | .natural n => .unsigned n
  | .negative n => .signed n
  | .double x => .float x

/-- Reads the value that is not of the expected kind, to report it: a scalar is read to its
end, a bracket is not read. -/
def wrongKind {α : Type} (expected : String) : Reader α := do
  let found ← do
    match ← peekChar with
    | some 'n' => do bump; expectWord ['u', 'l', 'l']; pure Found.unit
    | some 't' => do bump; expectWord ['r', 'u', 'e']; pure (Found.bool true)
    | some 'f' => do bump; expectWord ['a', 'l', 's', 'e']; pure (Found.bool false)
    | some '-' => do bump; let n ← number false; pure n.found
    | some '"' => do bump; let s ← stringAfterQuote; pure (Found.str s)
    | some '[' => pure Found.seq
    | some '{' => pure Found.map
    | some c => if isDigit c then do let n ← number true; pure n.found else failNext .expectedValue
    | none => failNext .expectedValue
  positioned (mismatch (.invalidType found expected))

/-- Reads a number, after skipping white space; another value is of the wrong kind. -/
def numberAt (expected : String) : Reader Number := do
  match ← skipBlank with
  | none => failNext .eofInValue
  | some '-' => do bump; number false
  | some c => if isDigit c then number true else wrongKind expected

/-! ## Skipping a value -/

mutual

/-- Skips values, checking their syntax only; `stack` holds the brackets still open and
`enclosing` the one just entered. -/
def skipValues (fuel : Nat) (stack : List Char) (enclosing : Option Char) : Reader Unit :=
  match fuel with
  | 0 => failNext .recursionLimit
  | fuel + 1 => do
    let frame? ← do
      match ← skipBlank with
      | none => failNext .eofInValue
      | some 'n' => do bump; expectWord ['u', 'l', 'l']; pure none
      | some 't' => do bump; expectWord ['r', 'u', 'e']; pure none
      | some 'f' => do bump; expectWord ['a', 'l', 's', 'e']; pure none
      | some '-' => do bump; skipNumber; pure none
      | some '"' => do bump; fun cur => (skipStringBody (cur.rest.length + 1)) cur; pure none
      | some '[' => do bump; pure (some '[')
      | some '{' => do bump; pure (some '{')
      | some c => if isDigit c then do skipNumber; pure none else failNext .expectedValue
    match frame? with
    | some frame =>
      closeFrames fuel (enclosing.toList ++ stack) false frame
    | none =>
      match enclosing with
      | some frame => closeFrames fuel stack true frame
      | none =>
        match stack with
        | frame :: rest => closeFrames fuel rest true frame
        | [] => pure ()

/-- After a value inside `frame`: reads closing brackets, or a comma, and goes on. -/
def closeFrames (fuel : Nat) (stack : List Char) (acceptComma : Bool) (frame : Char) :
    Reader Unit :=
  match fuel with
  | 0 => failNext .recursionLimit
  | fuel + 1 => do
    match ← skipBlank with
    | some c =>
      if c = ',' ∧ acceptComma then do
        bump
        keyOfFrame fuel stack frame
      else if (c = ']' ∧ frame = '[') ∨ (c = '}' ∧ frame = '{') then do
        bump
        match stack with
        | f :: rest => closeFrames fuel rest true f
        | [] => pure ()
      else if acceptComma then
        failNext (if frame = '[' then .expectedListCommaOrEnd else .expectedObjectCommaOrEnd)
      else keyOfFrame fuel stack frame
    | none => failNext (if frame = '[' then .eofInList else .eofInObject)

/-- Inside an object, reads the next key and its colon; then skips the next value. -/
def keyOfFrame (fuel : Nat) (stack : List Char) (frame : Char) : Reader Unit :=
  match fuel with
  | 0 => failNext .recursionLimit
  | fuel + 1 => do
    if frame = '{' then do
      match ← skipBlank with
      | some '"' => bump
      | some _ => failNext .keyMustBeString
      | none => failNext .eofInObject
      fun cur => (skipStringBody (cur.rest.length + 1)) cur
      match ← skipBlank with
      | some ':' => bump
      | some _ => failNext .expectedColon
      | none => failNext .eofInObject
    skipValues fuel stack (some frame)

end

/-- Skips one value of any kind. -/
def skipValue : Reader Unit := fun cur =>
  skipValues (4 * cur.rest.length + 8) [] none cur

/-! ## Reading against a shape -/

/-- Checks a number against a shape that wants a double or a bounded natural number. -/
def Number.asShape (s : Shape) (n : Number) : Except Mismatch Value :=
  match s, n with
  | .unsigned name max, .natural k =>
    if k ≤ max then .ok (.nat k) else .error (.invalidValue (.unsigned k) name)
  | .unsigned name _, .negative k => .error (.invalidValue (.signed k) name)
  | s, n => Shape.decode s (.number n)

/-- A decoding result as a reading step, a mismatch left unlocated. -/
def ofExcept {α : Type} : Except Mismatch α → Reader α
  | .ok a => pure a
  | .error m => mismatch m

mutual

/-- Reads any JSON value. -/
def readAny (fuel depth : Nat) : Reader Value :=
  match fuel with
  | 0 => failNext .recursionLimit
  | fuel + 1 => positioned do
    match ← skipBlank with
    | none => failNext .eofInValue
    | some 'n' => do bump; expectWord ['u', 'l', 'l']; pure .null
    | some 't' => do bump; expectWord ['r', 'u', 'e']; pure (.bool true)
    | some 'f' => do bump; expectWord ['a', 'l', 's', 'e']; pure (.bool false)
    | some '-' => do bump; let n ← number false; pure (.number n)
    | some '"' => do bump; let s ← stringAfterQuote; pure (.string s)
    | some '[' => do
      let d ← enter depth
      bump
      let items ← bracketed (readAnyItems fuel d true []) closeList
      pure (.array items)
    | some '{' => do
      let d ← enter depth
      bump
      let fields ← bracketed (readAnyFields fuel d true []) closeObject
      pure (.object fields)
    | some c =>
      if isDigit c then do let n ← number true; pure (.number n)
      else failNext .expectedValue

/-- Reads the items of a list of any values. -/
def readAnyItems (fuel depth : Nat) (first : Bool) (acc : List Value) : Reader (List Value) :=
  match fuel with
  | 0 => failNext .recursionLimit
  | fuel + 1 => do
    if ← nextItem first then do
      let v ← readAny fuel depth
      readAnyItems fuel depth false (v :: acc)
    else pure acc.reverse

/-- Reads the fields of an object of any values into a keyed list. -/
def readAnyFields (fuel depth : Nat) (first : Bool) (acc : List (String × Value)) :
    Reader (List (String × Value)) :=
  match fuel with
  | 0 => failNext .recursionLimit
  | fuel + 1 => do
    match ← nextKey first with
    | none => pure acc
    | some k => do
      colon
      let v ← readAny fuel depth
      readAnyFields fuel depth false (Keyed.insert k v acc)

/-- Reads a value against a shape. -/
def readShape (fuel depth : Nat) (s : Shape) : Reader Value :=
  match fuel with
  | 0 => failNext .recursionLimit
  | fuel + 1 =>
    match s with
    | .any => readAny fuel depth
    | .text _ => positioned do
      match ← skipBlank with
      | none => failNext .eofInValue
      | some '"' => do bump; let t ← stringAfterQuote; pure (.string t)
      | some _ => wrongKind s.expecting
    | .boolean => positioned do
      match ← skipBlank with
      | none => failNext .eofInValue
      | some 't' => do bump; expectWord ['r', 'u', 'e']; pure (.bool true)
      | some 'f' => do bump; expectWord ['a', 'l', 's', 'e']; pure (.bool false)
      | some _ => wrongKind s.expecting
    | .float | .unsigned _ _ => positioned do
      let n ← numberAt s.expecting
      ofExcept (n.asShape s)
    | .list item => positioned do
      match ← skipBlank with
      | none => failNext .eofInValue
      | some '[' => do
        let d ← enter depth
        bump
        let items ← bracketed (readItems fuel d item true []) closeList
        pure (.array items)
      | some _ => wrongKind s.expecting
    | .keyed item => positioned do
      match ← skipBlank with
      | none => failNext .eofInValue
      | some '{' => do
        let d ← enter depth
        bump
        let fields ← bracketed (readEntries fuel d item true []) closeObject
        pure (.object fields)
      | some _ => wrongKind s.expecting
    | .record name fields closed => positioned do
      match ← skipBlank with
      | none => failNext .eofInValue
      | some '{' => do
        let d ← enter depth
        bump
        let seen ← bracketed (readFields fuel d fields closed true []) closeObject
        let all ← ofExcept (Shape.completeRecord seen fields)
        pure (.object all)
      | some '[' => do
        let d ← enter depth
        bump
        let all ← bracketed (readPositional fuel d name fields.length 0 fields true) closeList
        pure (.object all)
      | some _ => wrongKind s.expecting
    | .firstOf name variants => do
      let v ← readAny fuel depth
      match Shape.decodeFirst variants v with
      | some r => pure r
      | none => mismatch (.custom (Shape.noVariant name))
    | .optional item => do
      match ← skipBlank with
      | some 'n' => do bump; expectWord ['u', 'l', 'l']; pure .null
      | _ => readShape fuel depth item
    | .checked item check => positioned do
      let v ← readShape fuel depth item
      match check v with
      | .ok r => pure r
      | .error m => mismatch (.custom m)

/-- Reads the items of a list against one shape. -/
def readItems (fuel depth : Nat) (item : Shape) (first : Bool) (acc : List Value) :
    Reader (List Value) :=
  match fuel with
  | 0 => failNext .recursionLimit
  | fuel + 1 => do
    if ← nextItem first then do
      let v ← readShape fuel depth item
      readItems fuel depth item false (v :: acc)
    else pure acc.reverse

/-- Reads the entries of a map against one shape into a keyed list. -/
def readEntries (fuel depth : Nat) (item : Shape) (first : Bool) (acc : List (String × Value)) :
    Reader (List (String × Value)) :=
  match fuel with
  | 0 => failNext .recursionLimit
  | fuel + 1 => do
    match ← nextKey first with
    | none => pure acc
    | some k => do
      colon
      let v ← readShape fuel depth item
      readEntries fuel depth item false (Keyed.insert k v acc)

/-- Reads the entries of an object as the fields of a record, in the order of the text. -/
def readFields (fuel depth : Nat) (fields : List Field) (closed first : Bool)
    (seen : List (String × Value)) : Reader (List (String × Value)) :=
  match fuel with
  | 0 => failNext .recursionLimit
  | fuel + 1 => do
    match ← nextKey first with
    | none => pure seen
    | some k =>
      match Field.lookup k fields with
      | none =>
        if closed then mismatch (.unknownField k (Field.allNames fields))
        else do
          colon
          skipValue
          readFields fuel depth fields closed false seen
      | some f =>
        if Keyed.contains f.name seen then mismatch (.duplicateField f.name)
        else do
          colon
          let v ← readShape fuel depth f.shape
          readFields fuel depth fields closed false (Keyed.insert f.name v seen)

/-- Reads the items of a list as the fields of a record, in declared order. -/
def readPositional (fuel depth : Nat) (name : String) (count index : Nat) (fields : List Field)
    (first : Bool) : Reader (List (String × Value)) :=
  match fuel with
  | 0 => failNext .recursionLimit
  | fuel + 1 =>
    match fields with
    | [] => pure []
    | f :: rest => do
      if ← nextItem first then do
        let v ← readShape fuel depth f.shape
        let vs ← readPositional fuel depth name count (index + 1) rest false
        pure ((f.name, v) :: vs)
      else
        match f.absent with
        | .fallback v => do
          let vs ← readPositional fuel depth name count (index + 1) rest false
          pure ((f.name, v) :: vs)
        | _ => mismatch (.invalidLength index (Shape.recordLength name count))

end

/-- The deepest nesting of brackets that reading allows, plus one. -/
def depthLimit : Nat := 128

/-- Reads a whole JSON text against a shape; only white space may follow the value. -/
def Shape.readText (s : Shape) (text : String) : Except String Value :=
  let cur := Cursor.start text
  let run : Reader Value := do
    let v ← readShape (32 * (cur.rest.length + 2)) depthLimit s
    match ← skipBlank with
    | some _ => failNext .trailingCharacters
    | none => pure v
  match run cur with
  | .ok v _ => .ok v
  | .error e _ => .error e.message

end Rollout.Json

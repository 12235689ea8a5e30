import Rollout.Yaml.Token
/-!
# The lexer's state

The lexer reads the text once, left to right, and keeps:

* where it is (`pos` into the characters, `mark` for messages);
* the block indentation: the column of the innermost block collection and the columns of the
  enclosing ones;
* the depth of flow collections (`[` and `{`) it is inside;
* the tokens read but not yet taken, and how many were taken;
* for every flow depth, the *simple key* that may have started there: a scalar or collection
  that becomes a mapping key when a `:` follows it on the same line. Its tokens are already
  queued, so a `:` inserts the key token (and possibly the start of a block mapping) in front
  of them. A token that could still get a key in front of it is not handed out.

`LexM` is the lexer's monad: state, and a `SyntaxError` that stops it. This module has the steps
that move over characters and keep the state; the scanners of tokens are in `Token.Scalar`
and `Token.Fetch`.

* `advance_pos`: moving over one character moves the position by one.
-/

namespace Rollout.Yaml

/-- A place where a mapping key may have started. -/
structure SimpleKey where
  possible : Bool := false
  /-- A key is required where a block mapping's keys must stand. -/
  required : Bool := false
  /-- The number of the key's first token, counting all tokens from the start. -/
  tokenNumber : Nat := 0
  mark : Mark := {}
deriving Inhabited

/-- The state of the lexer. -/
structure Lexer where
  text : Array Char
  pos : Nat := 0
  mark : Mark := {}
  started : Bool := false
  flowLevel : Nat := 0
  /-- The column of the innermost block collection, or -1 outside all. -/
  indent : Int := -1
  /-- The indentation of the enclosing block collections, innermost first. -/
  indents : List Int := []
  /-- Whether a simple key may start here. -/
  keyAllowed : Bool := false
  /-- The possible simple key of each flow depth, outermost first. -/
  keys : Array SimpleKey := #[]
  /-- Tokens read and not yet taken, first in front. -/
  queue : Array Token := #[]
  /-- The number of tokens taken. -/
  taken : Nat := 0
  /-- Whether the token in front may be handed out. -/
  ready : Bool := false
deriving Inhabited

/-- The lexer's monad. -/
abbrev LexM := StateT Lexer (Except SyntaxError)

namespace Lexer

/-- A lexer at the start of a text. -/
def start (text : String) : Lexer := { text := text.toList.toArray }

/-- The state after moving over one character that is not a line break. -/
def advance (s : Lexer) : Lexer :=
  { s with pos := s.pos + 1,
           mark := { s.mark with index := s.mark.index + 1, column := s.mark.column + 1 } }

theorem advance_pos (s : Lexer) : s.advance.pos = s.pos + 1 := rfl

/-- The state after moving over a line break of `width` characters. -/
def newLine (s : Lexer) (width : Nat) : Lexer :=
  { s with pos := s.pos + width,
           mark := { index := s.mark.index + width, line := s.mark.line + 1, column := 0 } }

/-- The character `k` places ahead, the end character past the text. -/
def ahead (s : Lexer) (k : Nat) : Char := s.text.getD (s.pos + k) endChar

end Lexer

namespace Lex

/-- The character `k` places ahead. -/
def peekAt (k : Nat) : LexM Char := do return (← get).ahead k

/-- The next character. -/
def peek : LexM Char := peekAt 0

/-- The current mark. -/
def mark : LexM Mark := do return (← get).mark

/-- An upper bound on the steps of a loop that reads at least one character per step. -/
def budget : LexM Nat := do
  let s ← get
  return s.text.size - s.pos + 2

/-- Moves over one character. -/
def skip : LexM Unit := modify Lexer.advance

/-- Moves over one line break, two characters for a carriage return and line feed. -/
def skipLine : LexM Unit := do
  let c ← peek
  let d ← peekAt 1
  if c == '\r' && d == '\n' then modify (·.newLine 2)
  else if isBreak c then modify (·.newLine 1)

/-- Moves over one character, appending it to `acc`. -/
def read (acc : String) : LexM String := do
  let c ← peek
  skip
  return acc.push c

/-- Moves over one line break, appending it to `acc`: carriage return and line feed, either
alone, and next line are appended as a line feed; the line and paragraph separators stay. -/
def readLine (acc : String) : LexM String := do
  let c ← peek
  let d ← peekAt 1
  if c == '\r' && d == '\n' then
    modify (·.newLine 2)
    return acc.push '\n'
  else if c == '\r' || c == '\n' || c == '\x85' then
    modify (·.newLine 1)
    return acc.push '\n'
  else if c == '\u2028' || c == '\u2029' then
    modify (·.newLine 1)
    return acc.push c
  else return acc

/-- Moves over the characters for which `p` holds. -/
def skipWhile (p : Char → Bool) : Nat → LexM Unit
  | 0 => pure ()
  | n + 1 => do
    if p (← peek) then
      skip
      skipWhile p n
    else pure ()

/-- Moves over the characters for which `p` holds, appending them to `acc`. -/
def readWhile (p : Char → Bool) (acc : String) : Nat → LexM String
  | 0 => pure acc
  | n + 1 => do
    if p (← peek) then
      let acc ← read acc
      readWhile p acc n
    else pure acc

/-- Moves over a comment to the end of its line, if one starts here. -/
def skipComment : LexM Unit := do
  if (← peek) == '#' then skipWhile (fun c => !isBreakOrEnd c) (← budget)

/-- Stops with a syntax error at the current mark. -/
def fail {α : Type} (context : Option String) (contextMark : Mark) (problem : String) :
    LexM α := do
  throw { problem, mark := (← mark), context, contextMark }

/-- Whether a document marker, `---` or `...`, stands at the start of this line. -/
def atDocumentMarker : LexM Bool := do
  let s ← get
  if s.mark.column != 0 then return false
  let a := s.ahead 0
  let b := s.ahead 1
  let c := s.ahead 2
  return ((a == '-' && b == '-' && c == '-') || (a == '.' && b == '.' && c == '.')) &&
    isBlankOrEnd (s.ahead 3)

/-! ## Tokens -/

/-- Adds a token at the back of the queue. -/
def enqueue (t : Token) : LexM Unit := modify fun s => { s with queue := s.queue.push t }

/-- Inserts a token into the queue before the token with the given number. -/
def insertBefore (number : Nat) (t : Token) : LexM Unit := modify fun s =>
  let i := number - s.taken
  let q := s.queue.toList
  { s with queue := (q.take i ++ t :: q.drop i).toArray }

/-- Sets whether a simple key may start here. -/
def allowKey (b : Bool) : LexM Unit := modify fun s => { s with keyAllowed := b }

/-! ## Simple keys -/

/-- The error of a required key that no `:` followed. -/
def missingColon {α : Type} (k : SimpleKey) : LexM α :=
  fail (some "while scanning a simple key") k.mark "could not find expected ':'"

/-- Drops the possible key of the current flow depth; a required one is an error. -/
def removeKey : LexM Unit := do
  let s ← get
  match s.keys.back? with
  | none => pure ()
  | some k =>
    if k.possible && k.required then missingColon k
    else set { s with keys := s.keys.pop.push { k with possible := false } }

/-- Notes that a simple key may start here, if one may: it is required in a block collection
at the column of its indentation. -/
def saveKey : LexM Unit := do
  let s ← get
  let required := s.flowLevel == 0 && s.indent == (s.mark.column : Int)
  if s.keyAllowed then
    let k : SimpleKey :=
      { possible := true, required, tokenNumber := s.taken + s.queue.size, mark := s.mark }
    removeKey
    modify fun s => { s with keys := s.keys.pop.push k }

/-- Drops the possible keys that can no longer be keys: those on an earlier line and those
more than 1024 characters back. A required one is an error. -/
def dropStaleKeys : LexM Unit := do
  let s ← get
  let keys ← s.keys.mapM fun k => do
    if k.possible && (k.mark.line < s.mark.line || k.mark.index + 1024 < s.mark.index) then
      if k.required then missingColon k
      else pure { k with possible := false }
    else pure k
  modify fun s => { s with keys }

/-- Enters a flow collection: a fresh key slot for the new depth. -/
def enterFlow : LexM Unit := modify fun s =>
  { s with keys := s.keys.push {}, flowLevel := s.flowLevel + 1 }

/-- Leaves a flow collection. -/
def leaveFlow : LexM Unit := modify fun s =>
  if s.flowLevel == 0 then s else { s with keys := s.keys.pop, flowLevel := s.flowLevel - 1 }

/-! ## Block indentation -/

/-- In block context, a collection that starts at a column deeper than the current
indentation opens a level, and its start token (`kind`) is queued: at the back, or before
the token with the given number. -/
def rollIndent (column : Nat) (number : Option Nat) (kind : TokenKind) (m : Mark) :
    LexM Unit := do
  let s ← get
  if s.flowLevel == 0 && s.indent < (column : Int) then
    set { s with indents := s.indent :: s.indents, indent := column }
    let t : Token := { kind, start := m, stop := m }
    match number with
    | none => enqueue t
    | some n => insertBefore n t

/-- Pops one indentation level. -/
def popIndent : LexM Unit := modify fun s =>
  match s.indents with
  | i :: rest => { s with indent := i, indents := rest }
  | [] => { s with indent := -1 }

/-- In block context, closes every level deeper than the column, queuing an end token for
each. -/
def unrollIndent (column : Int) : LexM Unit := do
  let s ← get
  if s.flowLevel == 0 then go column (s.indents.length + 1)
where
  /-- One level at a time. -/
  go (column : Int) : Nat → LexM Unit
    | 0 => pure ()
    | n + 1 => do
      let s ← get
      if s.indent > column then
        enqueue { kind := .blockEnd, start := s.mark, stop := s.mark }
        popIndent
        go column n
      else pure ()

end Lex

end Rollout.Yaml

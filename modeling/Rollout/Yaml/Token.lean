/-!
# YAML tokens

The YAML reader works in three layers: the lexer cuts the text into tokens (this module and
`Yaml.Token.*`), the grammar turns tokens into events (`Yaml.Event`), and a document is the run
of events of one YAML document (`Yaml.Document`), which shapes are then read from.

This module holds what the layers share:

* `Mark`: a position in the text, counted in characters, lines and columns from zero.
* `Token`: a token with the marks where it starts and stops.
* `SyntaxError`: why a text is not YAML, with the mark of the problem and, when the reader was
  inside something, what that was and where it started. Its `message` writes lines and
  columns from one and leaves out a mark at the very start of the text.
* The classes of characters that the lexer tests: line breaks, blanks, and the characters of
  names. The end of the text reads as the character zero, which the text itself cannot hold.
-/

namespace Rollout.Yaml

/-- A position in the text: characters before it, its line and its column, all from zero. -/
structure Mark where
  index : Nat := 0
  line : Nat := 0
  column : Nat := 0
deriving DecidableEq, Inhabited

namespace Mark

/-- Whether the mark is at line and column zero. -/
def atStart (m : Mark) : Bool := m.line == 0 && m.column == 0

/-- The mark as messages write it: line and column from one. -/
def describe (m : Mark) : String :=
  let line := m.line + 1
  let column := m.column + 1
  s!"line {line} column {column}"

/-- `" at "` and the mark, or nothing for a mark at the start. -/
def suffix (m : Mark) : String := if m.atStart then "" else " at " ++ m.describe

end Mark

/-- How a scalar was written. -/
inductive ScalarStyle where
  | plain
  | singleQuoted
  | doubleQuoted
  | literal
  | folded
deriving DecidableEq, Inhabited

/-- The kinds of tokens. -/
inductive TokenKind where
  | streamStart
  | streamEnd
  | versionDirective (major minor : Nat)
  | tagDirective (handle pre : String)
  | documentStart
  | documentEnd
  | blockSequenceStart
  | blockMappingStart
  | blockEnd
  | flowSequenceStart
  | flowSequenceEnd
  | flowMappingStart
  | flowMappingEnd
  | blockEntry
  | flowEntry
  | key
  | value
  | alias (name : String)
  | anchor (name : String)
  | tag (handle suffix : String)
  | scalar (text : String) (style : ScalarStyle)
deriving Inhabited

/-- A token and the marks where it starts and stops. -/
structure Token where
  kind : TokenKind
  start : Mark
  stop : Mark
deriving Inhabited

/-- Why a text is not YAML. -/
structure SyntaxError where
  problem : String
  /-- Where the problem is. -/
  mark : Mark := {}
  /-- What the reader was inside, if anything. -/
  context : Option String := none
  /-- Where that started. -/
  contextMark : Mark := {}
  /-- The byte offset of a character that the text may not hold, when that is the problem. -/
  offset : Nat := 0
deriving Inhabited

/-- The text of a syntax error: the problem and its mark, then the context and its mark when
that differs from the problem's. A problem at the start of the text gives the byte offset
instead, if it has one. -/
def SyntaxError.message (e : SyntaxError) : String :=
  let head :=
    if !e.mark.atStart then e.problem ++ " at " ++ e.mark.describe
    else if e.offset != 0 then
      let offset := e.offset
      e.problem ++ s!" at position {offset}"
    else e.problem
  match e.context with
  | none => head
  | some context =>
    let sameMark := e.contextMark.line == e.mark.line && e.contextMark.column == e.mark.column
    head ++ ", " ++ context ++ (if sameMark then "" else e.contextMark.suffix)

/-- The character that stands for the end of the text. -/
def endChar : Char := '\x00'

/-- A line break: carriage return, line feed, next line, line or paragraph separator. -/
def isBreak (c : Char) : Bool :=
  c == '\r' || c == '\n' || c == '\x85' || c == '\u2028' || c == '\u2029'

/-- A line break or the end of the text. -/
def isBreakOrEnd (c : Char) : Bool := isBreak c || c == endChar

/-- A space or a tab. -/
def isBlank (c : Char) : Bool := c == ' ' || c == '\t'

/-- A blank, a line break or the end of the text. -/
def isBlankOrEnd (c : Char) : Bool := isBlank c || isBreakOrEnd c

/-- A character of anchor names, directive names and tag handles: an ASCII letter or digit,
`_` or `-`. -/
def isNameChar (c : Char) : Bool :=
  ('0' ≤ c && c ≤ '9') || ('a' ≤ c && c ≤ 'z') || ('A' ≤ c && c ≤ 'Z') || c == '_' || c == '-'

/-- An ASCII decimal digit. -/
def isDigit (c : Char) : Bool := '0' ≤ c && c ≤ '9'

/-- An ASCII hexadecimal digit. -/
def isHex (c : Char) : Bool :=
  isDigit c || ('a' ≤ c && c ≤ 'f') || ('A' ≤ c && c ≤ 'F')

/-- The value of a hexadecimal digit. -/
def hexValue (c : Char) : Nat :=
  if isDigit c then c.toNat - '0'.toNat
  else if 'a' ≤ c && c ≤ 'f' then c.toNat - 'a'.toNat + 10
  else c.toNat - 'A'.toNat + 10

/-- A character that a YAML text may hold: tab, line feed, carriage return, printable ASCII,
next line, and the rest of Unicode but for surrogates, `U+FFFE` and `U+FFFF`. -/
def isAllowed (c : Char) : Bool :=
  let n := c.toNat
  n == 0x09 || n == 0x0A || n == 0x0D || (0x20 ≤ n && n ≤ 0x7E) || n == 0x85 ||
    (0xA0 ≤ n && n ≤ 0xD7FF) || (0xE000 ≤ n && n ≤ 0xFFFD) || (0x10000 ≤ n && n ≤ 0x10FFFF)

theorem isAllowed_endChar : isAllowed endChar = false := by decide

end Rollout.Yaml

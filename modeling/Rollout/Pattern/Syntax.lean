import Rollout.Pattern.Property
/-!
# The syntax of patterns

A pattern is read into a tree that remembers where each part was written, so that an error
can point at it. A place in a pattern is a character index with its line and column, both
counted from 1; a span runs from one place to another, the second excluded.

The tree has the usual parts of a regular expression: literals, the dot, assertions (`^`, `$`,
`\b`, …), classes (`\d`, `\p{Greek}`, `[a-z&&[^x]]`), repetitions, groups, alternations and
concatenations, and flag directives such as `(?i)`, which change how the rest of their group is
read.

`SyntaxError` names what went wrong, where, and for a duplicate, where the first one was.
-/

namespace Rollout.Pattern

/-- A place in a pattern: the index of a character, its line and its column, from 1. -/
structure Position where
  offset : Nat
  line : Nat
  column : Nat
deriving DecidableEq, Inhabited

/-- The place before the first character. -/
def Position.origin : Position := ⟨0, 1, 1⟩

/-- The place after a character, at the start of the next line after a line feed. -/
def Position.advance (p : Position) (c : Char) : Position :=
  if c = '\n' then ⟨p.offset + 1, p.line + 1, 1⟩ else ⟨p.offset + 1, p.line, p.column + 1⟩

/-- The part of a pattern from `start` up to, not including, `stop`. -/
structure Span where
  start : Position
  stop : Position
deriving DecidableEq, Inhabited

/-- The empty span at a place. -/
def Span.at (p : Position) : Span := ⟨p, p⟩

/-- Whether a span starts and ends on one line. -/
def Span.isOneLine (s : Span) : Bool := s.start.line == s.stop.line

/-- Span order: by start, then by end. -/
def Span.before (a b : Span) : Bool :=
  a.start.offset < b.start.offset ||
    (a.start.offset == b.start.offset && a.stop.offset ≤ b.stop.offset)

/-- The switches a flag directive can set or clear. -/
inductive Flag where
  | caseInsensitive
  | multiLine
  | dotMatchesNewLine
  | swapGreed
  | unicode
  | crlf
  | ignoreWhitespace
deriving DecidableEq, Inhabited

/-- One item of a flag directive: a flag, or the `-` that clears the flags after it. -/
inductive FlagItem where
  | negation
  | flag (f : Flag)
deriving DecidableEq, Inhabited

/-- A flag directive: its items, each with its span. -/
structure Flags where
  span : Span
  items : List (Span × FlagItem)
deriving Inhabited

/-- What a directive says of a flag: set, cleared (it follows a `-`) or nothing. -/
def Flags.state (fs : Flags) (f : Flag) : Option Bool :=
  go false fs.items
where
  go (negated : Bool) : List (Span × FlagItem) → Option Bool
    | [] => none
    | (_, .negation) :: rest => go true rest
    | (_, .flag g) :: rest => if g = f then some !negated else go negated rest

/-- Zero-width assertions. -/
inductive AssertionKind where
  | startLine
  | endLine
  | startText
  | endText
  | wordBoundary
  | notWordBoundary
  | wordStart
  | wordEnd
  | wordStartHalf
  | wordEndHalf
deriving DecidableEq, Inhabited

/-- The classes of `\d`, `\s` and `\w`. -/
inductive PerlKind where
  | digit
  | space
  | word
deriving DecidableEq, Inhabited

/-- The named ASCII classes, as in `[[:alpha:]]`. -/
inductive AsciiKind where
  | alnum
  | alpha
  | ascii
  | blank
  | cntrl
  | digit
  | graph
  | lower
  | print
  | punct
  | space
  | upper
  | word
  | xdigit
deriving DecidableEq, Inhabited

/-- The ASCII class of a name. -/
def AsciiKind.ofName? : String → Option AsciiKind
  | "alnum" => some .alnum
  | "alpha" => some .alpha
  | "ascii" => some .ascii
  | "blank" => some .blank
  | "cntrl" => some .cntrl
  | "digit" => some .digit
  | "graph" => some .graph
  | "lower" => some .lower
  | "print" => some .print
  | "punct" => some .punct
  | "space" => some .space
  | "upper" => some .upper
  | "word" => some .word
  | "xdigit" => some .xdigit
  | _ => none

/-- The ranges of an ASCII class. -/
def AsciiKind.ranges : AsciiKind → List (Nat × Nat)
  | .alnum => [(0x30, 0x39), (0x41, 0x5A), (0x61, 0x7A)]
  | .alpha => [(0x41, 0x5A), (0x61, 0x7A)]
  | .ascii => [(0x00, 0x7F)]
  | .blank => [(0x09, 0x09), (0x20, 0x20)]
  | .cntrl => [(0x00, 0x1F), (0x7F, 0x7F)]
  | .digit => [(0x30, 0x39)]
  | .graph => [(0x21, 0x7E)]
  | .lower => [(0x61, 0x7A)]
  | .print => [(0x20, 0x7E)]
  | .punct => [(0x21, 0x2F), (0x3A, 0x40), (0x5B, 0x60), (0x7B, 0x7E)]
  | .space => [(0x09, 0x0D), (0x20, 0x20)]
  | .upper => [(0x41, 0x5A)]
  | .word => [(0x30, 0x39), (0x41, 0x5A), (0x5F, 0x5F), (0x61, 0x7A)]
  | .xdigit => [(0x30, 0x39), (0x41, 0x46), (0x61, 0x66)]

/-- A literal character; `hexByte` marks one written as `\x` with two digits, which stands for
a byte when Unicode is off. -/
structure Literal where
  span : Span
  c : Char
  hexByte : Bool
deriving Inhabited

/-- The operations between classes in brackets. -/
inductive SetOp where
  | intersection
  | difference
  | symmetricDifference
deriving DecidableEq, Inhabited

mutual
/-- One item of a bracketed class. -/
inductive ClassItem where
  | empty (span : Span)
  | literal (lit : Literal)
  | range (span : Span) (lo hi : Literal)
  | ascii (span : Span) (kind : AsciiKind) (negated : Bool)
  | unicode (span : Span) (query : UnicodeQuery) (negated : Bool)
  | perl (span : Span) (kind : PerlKind) (negated : Bool)
  | bracketed (span : Span) (negated : Bool) (set : ClassSet)
  | union (span : Span) (items : List ClassItem)

/-- The contents of a bracketed class: an item, or an operation on two contents. -/
inductive ClassSet where
  | item (i : ClassItem)
  | op (span : Span) (kind : SetOp) (lhs rhs : ClassSet)
end

instance : Inhabited ClassItem := ⟨.empty default⟩
instance : Inhabited ClassSet := ⟨.item default⟩

/-- The span of a class item. -/
def ClassItem.span : ClassItem → Span
  | .empty s | .range s _ _ | .ascii s _ _ | .unicode s _ _ | .perl s _ _
  | .bracketed s _ _ | .union s _ => s
  | .literal lit => lit.span

/-- The span of class contents. -/
def ClassSet.span : ClassSet → Span
  | .item i => i.span
  | .op s _ _ _ => s

/-- What a group is: numbered, named, or without a number and with flags. -/
inductive GroupKind where
  | captureIndex (index : Nat)
  | captureName (name : String) (index : Nat)
  | nonCapturing (flags : Flags)
deriving Inhabited

/-- The flags of a group, if it has any. -/
def GroupKind.flags? : GroupKind → Option Flags
  | .nonCapturing fs => some fs
  | _ => none

/-- The tree of a pattern. -/
inductive Ast where
  | empty (span : Span)
  | flags (span : Span) (flags : Flags)
  | literal (lit : Literal)
  | dot (span : Span)
  | assertion (span : Span) (kind : AssertionKind)
  | unicode (span : Span) (query : UnicodeQuery) (negated : Bool)
  | perl (span : Span) (kind : PerlKind) (negated : Bool)
  | bracketed (span : Span) (negated : Bool) (set : ClassSet)
  | repetition (span : Span) (min : Nat) (max : Option Nat) (greedy : Bool) (body : Ast)
  | group (span : Span) (kind : GroupKind) (body : Ast)
  | alternation (span : Span) (branches : List Ast)
  | concat (span : Span) (items : List Ast)
deriving Inhabited

/-- The span of a tree. -/
def Ast.span : Ast → Span
  | .empty s | .flags s _ | .dot s | .assertion s _ | .unicode s _ _ | .perl s _ _
  | .bracketed s _ _ | .repetition s _ _ _ _ | .group s _ _ | .alternation s _ | .concat s _ => s
  | .literal lit => lit.span

/-- What is wrong with a pattern. -/
inductive ErrorKind where
  | captureLimitExceeded
  | classEscapeInvalid
  | classRangeInvalid
  | classRangeLiteral
  | classUnclosed
  | decimalEmpty
  | decimalInvalid
  | escapeHexEmpty
  | escapeHexInvalid
  | escapeHexInvalidDigit
  | escapeUnexpectedEof
  | escapeUnrecognized
  | flagDanglingNegation
  | flagDuplicate
  | flagRepeatedNegation
  | flagUnexpectedEof
  | flagUnrecognized
  | groupNameDuplicate
  | groupNameEmpty
  | groupNameInvalid
  | groupNameUnexpectedEof
  | groupUnclosed
  | groupUnopened
  | nestLimitExceeded (limit : Nat)
  | repetitionCountInvalid
  | repetitionCountDecimalEmpty
  | repetitionCountUnclosed
  | repetitionMissing
  | specialWordBoundaryUnclosed
  | specialWordBoundaryUnrecognized
  | specialWordOrRepetitionUnexpectedEof
  | unicodeClassInvalid
  | unsupportedBackreference
  | unsupportedLookAround
  | unicodeNotAllowed
  | invalidUtf8
  | unicodePropertyNotFound
  | unicodePropertyValueNotFound
deriving DecidableEq, Inhabited

/-- The sentence that describes an error. -/
def ErrorKind.message : ErrorKind → String
  | .captureLimitExceeded => "exceeded the maximum number of capturing groups (4294967295)"
  | .classEscapeInvalid => "invalid escape sequence found in character class"
  | .classRangeInvalid => "invalid character class range, the start must be <= the end"
  | .classRangeLiteral => "invalid range boundary, must be a literal"
  | .classUnclosed => "unclosed character class"
  | .decimalEmpty => "decimal literal empty"
  | .decimalInvalid => "decimal literal invalid"
  | .escapeHexEmpty => "hexadecimal literal empty"
  | .escapeHexInvalid => "hexadecimal literal is not a Unicode scalar value"
  | .escapeHexInvalidDigit => "invalid hexadecimal digit"
  | .escapeUnexpectedEof => "incomplete escape sequence, reached end of pattern prematurely"
  | .escapeUnrecognized => "unrecognized escape sequence"
  | .flagDanglingNegation => "dangling flag negation operator"
  | .flagDuplicate => "duplicate flag"
  | .flagRepeatedNegation => "flag negation operator repeated"
  | .flagUnexpectedEof => "expected flag but got end of regex"
  | .flagUnrecognized => "unrecognized flag"
  | .groupNameDuplicate => "duplicate capture group name"
  | .groupNameEmpty => "empty capture group name"
  | .groupNameInvalid => "invalid capture group character"
  | .groupNameUnexpectedEof => "unclosed capture group name"
  | .groupUnclosed => "unclosed group"
  | .groupUnopened => "unopened group"
  | .nestLimitExceeded limit =>
    "exceed the maximum number of nested parentheses/brackets (" ++ toString limit ++ ")"
  | .repetitionCountInvalid => "invalid repetition count range, the start must be <= the end"
  | .repetitionCountDecimalEmpty => "repetition quantifier expects a valid decimal"
  | .repetitionCountUnclosed => "unclosed counted repetition"
  | .repetitionMissing => "repetition operator missing expression"
  | .specialWordBoundaryUnclosed =>
    "special word boundary assertion is either unclosed or contains an invalid character"
  | .specialWordBoundaryUnrecognized =>
    "unrecognized special word boundary assertion, valid choices are: start, end, start-half or end-half"
  | .specialWordOrRepetitionUnexpectedEof =>
    "found either the beginning of a special word boundary or a bounded repetition on a \\b with an opening brace, but no closing brace"
  | .unicodeClassInvalid => "invalid Unicode character class"
  | .unsupportedBackreference => "backreferences are not supported"
  | .unsupportedLookAround =>
    "look-around, including look-ahead and look-behind, is not supported"
  | .unicodeNotAllowed => "Unicode not allowed here"
  | .invalidUtf8 => "pattern can match invalid UTF-8"
  | .unicodePropertyNotFound => "Unicode property not found"
  | .unicodePropertyValueNotFound => "Unicode property value not found"

/-- An error in a pattern: what, where, and for a duplicate where the first one stands. -/
structure SyntaxError where
  kind : ErrorKind
  span : Span
  first : Option Span
deriving Inhabited

end Rollout.Pattern

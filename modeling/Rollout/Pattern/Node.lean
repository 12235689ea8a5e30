import Rollout.Pattern.Property
/-!
# What a pattern means

The meaning of a pattern is a tree of a few kinds of node: the empty match, a set of
characters, a zero-width assertion about the neighbouring characters, a concatenation, an
alternation, a bounded or unbounded repetition, and a numbered group. Flags have been applied
by then: case-insensitivity has widened the sets, and the line modes have chosen the
assertions.

An assertion looks at most at the character before and the character after a place:

* the start and end of the text;
* the start and end of a line, where lines end at `\n`, or in CRLF mode at `\r`, `\n` or a
  `\r\n` pair (never between its two characters);
* word boundaries, where word characters are `\w` (or, in ASCII mode, letters, digits and `_`).
-/

namespace Rollout.Pattern

/-- Which change between word and non-word characters a word assertion asks for. -/
inductive WordEdge where
  | boundary
  | notBoundary
  | start
  | stop
  | startHalf
  | stopHalf
deriving DecidableEq, Inhabited

/-- A zero-width assertion. -/
inductive Look where
  | textStart
  | textEnd
  | lineStart (crlf : Bool)
  | lineEnd (crlf : Bool)
  | word (unicode : Bool) (edge : WordEdge)
deriving DecidableEq, Inhabited

/-- The meaning of a pattern. -/
inductive Node where
  | empty
  | chars (set : CharSet)
  | look (l : Look)
  | concat (first second : Node)
  | alt (left right : Node)
  | repeat (min : Nat) (max : Option Nat) (body : Node)
  | capture (body : Node)
deriving Inhabited

namespace Node

/-- The concatenation of several nodes. -/
def concatAll : List Node → Node
  | [] => .empty
  | [n] => n
  | n :: rest => .concat n (concatAll rest)

/-- The alternation of several nodes. -/
def altAll : List Node → Node
  | [] => .empty
  | [n] => n
  | n :: rest => .alt n (altAll rest)

end Node

/-- The ASCII word characters: letters, digits and `_`. -/
def asciiWordSet : CharSet := ⟨[(0x30, 0x39), (0x41, 0x5A), (0x5F, 0x5F), (0x61, 0x7A)]⟩

/-- Whether a neighbour is a word character; the ends of the text are not. -/
def isWordChar (unicode : Bool) : Option Char → Bool
  | some c => (if unicode then wordSet else asciiWordSet).contains c.toNat
  | none => false

/-- Whether an assertion holds at place `p` of a text. -/
def Look.holds (l : Look) (text : Array Char) (p : Nat) : Bool :=
  let prev := if p = 0 then none else text[p - 1]?
  let next := text[p]?
  match l with
  | .textStart => p == 0
  | .textEnd => p == text.size
  | .lineStart false => p == 0 || prev == some '\n'
  | .lineEnd false => p == text.size || next == some '\n'
  | .lineStart true => p == 0 || prev == some '\n' || (prev == some '\r' && next != some '\n')
  | .lineEnd true => p == text.size || next == some '\r' || (next == some '\n' && prev != some '\r')
  | .word unicode edge =>
    let before := isWordChar unicode prev
    let after := isWordChar unicode next
    match edge with
    | .boundary => before != after
    | .notBoundary => before == after
    | .start => !before && after
    | .stop => before && !after
    | .startHalf => !before
    | .stopHalf => !after

end Rollout.Pattern

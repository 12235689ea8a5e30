import Rollout.Pattern.Syntax
import Rollout.Pattern.Form
/-!
# From syntax to meaning

The tree of a pattern is read left to right with the current flags as state. A flag directive
changes the flags for the rest of its group, across the branches of an alternation; a group
with flags changes them for its own body only.

* Case-insensitivity widens every literal and class to all characters of the same simple case
  folding (ASCII letters only when Unicode is off). A class is widened before it is negated.
* With Unicode off, the classes are ASCII (`\w` is `[0-9A-Za-z_]`), Unicode classes are
  refused, and so is anything that could match a byte that is not part of valid text: the dot,
  a negated class, a `\x` escape above `7F`.
* Without the multi-line flag, `^` and `$` are the start and end of the text.
* With the swap-greed flag `U`, a repetition is lazy unless a `?` follows it.
-/

namespace Rollout.Pattern

/-- The flags in force. -/
structure Mode where
  caseInsensitive : Bool
  multiLine : Bool
  dotMatchesNewLine : Bool
  unicode : Bool
  crlf : Bool
  swapGreed : Bool
deriving DecidableEq, Inhabited

/-- The flags at the start of a pattern: only Unicode is on. -/
def Mode.initial : Mode := ⟨false, false, false, true, false, false⟩

/-- The flags after a directive. -/
def Mode.apply (m : Mode) (fs : Flags) : Mode :=
  { caseInsensitive := (fs.state .caseInsensitive).getD m.caseInsensitive
    multiLine := (fs.state .multiLine).getD m.multiLine
    dotMatchesNewLine := (fs.state .dotMatchesNewLine).getD m.dotMatchesNewLine
    unicode := (fs.state .unicode).getD m.unicode
    crlf := (fs.state .crlf).getD m.crlf
    swapGreed := (fs.state .swapGreed).getD m.swapGreed }

/-- Reading a tree for its meaning, with the flags as state. -/
abbrev Lowering := StateT Mode (Except SyntaxError)

/-- Stops with an error. -/
def refuse {α : Type} (kind : ErrorKind) (span : Span) : Lowering α :=
  throw ⟨kind, span, none⟩

/-- The ASCII letters of the other case added. -/
def asciiFold (s : CharSet) : CharSet :=
  let upper := s.intersect (CharSet.range 0x61 0x7A)
  let lower := s.intersect (CharSet.range 0x41 0x5A)
  CharSet.unionAll [s, ⟨upper.ranges.map fun (a, b) => (a - 32, b - 32)⟩,
    ⟨lower.ranges.map fun (a, b) => (a + 32, b + 32)⟩]

/-- The bytes not in a set of bytes. -/
def negateBytes (s : CharSet) : CharSet := s.complement.intersect (CharSet.range 0 0xFF)

/-- Widens a class for case-insensitivity and negates it, as the flags say. -/
def foldAndNegate (negated : Bool) (s : CharSet) : Lowering CharSet := do
  let m ← get
  let s := if m.caseInsensitive then s.caseFold else s
  return if negated then s.negate else s

/-- Widens and negates a class of bytes; the result must stay within ASCII. -/
def foldAndNegateBytes (span : Span) (negated : Bool) (s : CharSet) : Lowering CharSet := do
  let m ← get
  let s := if m.caseInsensitive then asciiFold s else s
  let s := if negated then negateBytes s else s
  if !s.isAscii then refuse .invalidUtf8 span
  return s

/-- The class of `\d`, `\s` or `\w`. -/
def perlClass (span : Span) (kind : PerlKind) (negated : Bool) : Lowering CharSet := do
  if (← get).unicode then
    let s := match kind with
      | .digit => digitSet
      | .space => spaceSet
      | .word => wordSet
    return if negated then s.negate else s
  else
    let basic := match kind with
      | .digit => AsciiKind.digit
      | .space => AsciiKind.space
      | .word => AsciiKind.word
    let s : CharSet := ⟨basic.ranges⟩
    let s := if negated then negateBytes s else s
    if !s.isAscii then refuse .invalidUtf8 span
    return s

/-- The class of `\p{…}`. -/
def propertyClass (span : Span) (query : UnicodeQuery) (negated : Bool) : Lowering CharSet := do
  if !(← get).unicode then refuse .unicodeNotAllowed span
  match query.lookup with
  | .error .propertyNotFound => refuse .unicodePropertyNotFound span
  | .error .valueNotFound => refuse .unicodePropertyValueNotFound span
  | .ok s => foldAndNegate negated s

/-- The character of a literal; with Unicode off, a `\x` escape above `7F` is refused. -/
def literalChar (lit : Literal) : Lowering Char := do
  if !(← get).unicode && lit.hexByte && lit.c.toNat > 0x7F then refuse .invalidUtf8 lit.span
  return lit.c

/-- The byte of a literal in a class with Unicode off; it must be ASCII. -/
def literalByte (lit : Literal) : Lowering Nat := do
  let c ← literalChar lit
  if c.toNat ≤ 0x7F then return c.toNat
  refuse .unicodeNotAllowed lit.span

/-- The set of one ASCII class. -/
def asciiSet (kind : AsciiKind) : CharSet := CharSet.normalize kind.ranges

/-- The operation of a class operator. -/
def SetOp.apply : SetOp → CharSet → CharSet → CharSet
  | .intersection => CharSet.intersect
  | .difference => CharSet.difference
  | .symmetricDifference => CharSet.symmetricDifference

mutual
/-- The set of a class item with Unicode on. -/
def itemSet : ClassItem → Lowering CharSet
  | .empty _ => pure CharSet.empty
  | .literal lit => pure (CharSet.single lit.c.toNat)
  | .range _ lo hi => pure (CharSet.range lo.c.toNat hi.c.toNat)
  | .ascii _ kind negated => foldAndNegate negated (asciiSet kind)
  | .unicode span query negated => propertyClass span query negated
  | .perl span kind negated => perlClass span kind negated
  | .bracketed _ negated set => do foldAndNegate negated (← classSet set)
  | .union _ items => itemsSet items

/-- The union of the sets of several class items with Unicode on. -/
def itemsSet : List ClassItem → Lowering CharSet
  | [] => pure CharSet.empty
  | i :: rest => do
    let s ← itemSet i
    let t ← itemsSet rest
    pure (s.union t)

/-- The set of class contents with Unicode on. -/
def classSet : ClassSet → Lowering CharSet
  | .item i => itemSet i
  | .op _ kind lhs rhs => do
    let a ← classSet lhs
    let b ← classSet rhs
    let m ← get
    let (a, b) := if m.caseInsensitive then (a.caseFold, b.caseFold) else (a, b)
    pure (kind.apply a b)
end

mutual
/-- The set of a class item with Unicode off. -/
def itemBytes : ClassItem → Lowering CharSet
  | .empty _ => pure CharSet.empty
  | .literal lit => do pure (CharSet.single (← literalByte lit))
  | .range _ lo hi => do
    let a ← literalByte lo
    let b ← literalByte hi
    pure (CharSet.range a b)
  | .ascii span kind negated => foldAndNegateBytes span negated (asciiSet kind)
  | .unicode span _ _ => refuse .unicodeNotAllowed span
  | .perl span kind negated => perlClass span kind negated
  | .bracketed span negated set => do foldAndNegateBytes span negated (← classBytes set)
  | .union _ items => itemsBytes items

/-- The union of the sets of several class items with Unicode off. -/
def itemsBytes : List ClassItem → Lowering CharSet
  | [] => pure CharSet.empty
  | i :: rest => do
    let s ← itemBytes i
    let t ← itemsBytes rest
    pure (s.union t)

/-- The set of class contents with Unicode off. -/
def classBytes : ClassSet → Lowering CharSet
  | .item i => itemBytes i
  | .op _ kind lhs rhs => do
    let a ← classBytes lhs
    let b ← classBytes rhs
    let m ← get
    let (a, b) := if m.caseInsensitive then (asciiFold a, asciiFold b) else (a, b)
    pure (kind.apply a b)
end

/-- The form of a literal. -/
def literalForm (lit : Literal) : Lowering Form := do
  let c ← literalChar lit
  let m ← get
  let s := CharSet.single c.toNat
  if !m.caseInsensitive then return .literal [c.toNat]
  if m.unicode then return Form.ofSet s.caseFold
  if c.toNat ≤ 0x7F then return Form.ofSet (asciiFold s)
  return .literal [c.toNat]

/-- The form of the dot. -/
def dotForm (span : Span) : Lowering Form := do
  let m ← get
  if !m.unicode then refuse .invalidUtf8 span
  if m.dotMatchesNewLine then return Form.ofSet CharSet.empty.negate
  if m.crlf then return Form.ofSet (CharSet.normalize [(0x0A, 0x0A), (0x0D, 0x0D)]).negate
  return Form.ofSet (CharSet.single 0x0A).negate

/-- The form of an assertion. -/
def assertionForm (kind : AssertionKind) : Lowering Form := do
  let m ← get
  let word (edge : WordEdge) : Form := .look (.word m.unicode edge)
  return match kind with
    | .startLine => .look (if m.multiLine then .lineStart m.crlf else .textStart)
    | .endLine => .look (if m.multiLine then .lineEnd m.crlf else .textEnd)
    | .startText => .look .textStart
    | .endText => .look .textEnd
    | .wordBoundary => word .boundary
    | .notWordBoundary => word .notBoundary
    | .wordStart => word .start
    | .wordEnd => word .stop
    | .wordStartHalf => word .startHalf
    | .wordEndHalf => word .stopHalf

mutual
/-- The meaning of a tree, in normal form. -/
def lowerAst : Ast → Lowering Form
  | .empty _ => pure .empty
  | .flags _ fs => do
    modify (·.apply fs)
    pure .empty
  | .literal lit => literalForm lit
  | .dot span => dotForm span
  | .assertion _ kind => assertionForm kind
  | .unicode span query negated => do pure (Form.ofSet (← propertyClass span query negated))
  | .perl span kind negated => do pure (Form.ofSet (← perlClass span kind negated))
  | .bracketed span negated set => do
    if (← get).unicode then pure (Form.ofSet (← foldAndNegate negated (← classSet set)))
    else pure (Form.ofSet (← foldAndNegateBytes span negated (← classBytes set)))
  | .repetition _ min max greedy body => do
    let swap := (← get).swapGreed
    pure (Form.repetition min max (if swap then !greedy else greedy) (← lowerAst body))
  | .group _ kind body => do
    let outer ← get
    if let some fs := kind.flags? then modify (·.apply fs)
    let n ← lowerAst body
    set outer
    pure (match kind with
      | .nonCapturing _ => n
      | _ => .capture n)
  | .alternation _ branches => do pure (Form.alternation (← lowerAsts branches))
  | .concat _ items => do pure (Form.concatOf (← lowerAsts items))

/-- The meanings of several trees, in order. -/
def lowerAsts : List Ast → Lowering (List Form)
  | [] => pure []
  | a :: rest => do
    let n ← lowerAst a
    let ns ← lowerAsts rest
    pure (n :: ns)
end

/-- The meaning of a pattern's tree, in normal form. -/
def Ast.lower (a : Ast) : Except SyntaxError Form :=
  (lowerAst a).run' Mode.initial

end Rollout.Pattern

import Rollout.Pattern.Node
/-!
# The normal form of a pattern

Before a pattern is compiled to an automaton, its meaning is brought to a normal form, and the
automaton is built from that form, so the size of the automaton follows the form:

* a concatenation holds no concatenation and no empty part, and no two literals side by side:
  neighbouring literals are one literal;
* an alternation holds no alternation; an alternation of single characters, or of classes, is
  one class; alternatives that are all concatenations with a common first part share it;
* a class of one character is a literal, and a class of none never matches;
* a repetition of something that only matches the empty text takes it at most once, a
  repetition at most zero times is the empty match, and one exactly once is its body.

Each composite node keeps the traits the compiler asks about (`Traits`): the shortest and
longest match in bytes, and whether every match must start at the start of the text, or end at
its end. They are computed once, when the node is built.

* `concatOf_nil`, `alternation_nil`: no parts is the empty match; no alternatives never matches.
* `ofSet_single`: a class of one character is its literal.
-/

-- Sums of numbers start from the core zero, whatever else is imported.
attribute [local instance(high)] Zero.ofOfNat0

namespace Rollout.Pattern

/-- The number of bytes that encode a code point in UTF-8. -/
def encodedLength (c : Nat) : Nat :=
  if c < 0x80 then 1 else if c < 0x800 then 2 else if c < 0x10000 then 3 else 4

/-- The UTF-8 bytes of a code point. -/
def utf8Bytes (c : Nat) : List Nat :=
  if c < 0x80 then [c]
  else if c < 0x800 then [0xC0 + c / 0x40, 0x80 + c % 0x40]
  else if c < 0x10000 then [0xE0 + c / 0x1000, 0x80 + c / 0x40 % 0x40, 0x80 + c % 0x40]
  else [0xF0 + c / 0x40000, 0x80 + c / 0x1000 % 0x40, 0x80 + c / 0x40 % 0x40, 0x80 + c % 0x40]

/-- What the compiler asks of a node: the fewest and the most bytes a match takes (none when
the node never matches, or for the most, when it is unbounded), and whether every match starts
at the start of the text, or ends at its end. -/
structure Traits where
  minLen : Option Nat
  maxLen : Option Nat
  startAnchored : Bool
  endAnchored : Bool
deriving DecidableEq, Inhabited

/-- A pattern's meaning in normal form. A literal is its code points; a class holds no single
character. -/
inductive Form where
  | empty
  | literal (chars : List Nat)
  | chars (set : CharSet)
  | look (l : Look)
  | repeat (min : Nat) (max : Option Nat) (greedy : Bool) (body : Form) (traits : Traits)
  | capture (body : Form)
  | concat (parts : List Form) (traits : Traits)
  | alt (branches : List Form) (traits : Traits)
deriving BEq, Inhabited

namespace Form

/-- The traits of a node. -/
def traits : Form → Traits
  | .empty => ⟨some 0, some 0, false, false⟩
  | .literal cs =>
    let n := (cs.map encodedLength).sum
    ⟨some n, some n, false, false⟩
  | .chars s =>
    match s.ranges.head?, s.ranges.getLast? with
    | some (lo, _), some (_, hi) => ⟨some (encodedLength lo), some (encodedLength hi), false, false⟩
    | _, _ => ⟨none, none, false, false⟩
  | .look l => ⟨some 0, some 0, l == .textStart, l == .textEnd⟩
  | .repeat _ _ _ _ t => t
  | .capture b => b.traits
  | .concat _ t => t
  | .alt _ t => t

/-- The sum of optional lengths: none when one is none. -/
def sumLens (xs : List (Option Nat)) : Option Nat :=
  xs.foldl (fun acc x => do pure ((← acc) + (← x))) (some 0)

/-- Whether a length is known to be positive or unbounded, so that an anchor seen so far is the
last one that can stand at that end. -/
def widens (maxLen : Option Nat) : Bool := maxLen != some 0

/-- Whether an anchor stands at the front of a sequence of parts: some part up to the first
that can consume text is anchored there. -/
def anchoredFront (anchored : Traits → Bool) : List Traits → Bool
  | [] => false
  | t :: rest => anchored t || (!widens t.maxLen && anchoredFront anchored rest)

/-- The traits of a concatenation of parts with these traits. -/
def concatTraits (ts : List Traits) : Traits :=
  { minLen := sumLens (ts.map (·.minLen)), maxLen := sumLens (ts.map (·.maxLen)),
    startAnchored := anchoredFront (·.startAnchored) ts,
    endAnchored := anchoredFront (·.endAnchored) ts.reverse }

/-- The smaller of two optional lengths, none when one is none. -/
def minLens (a b : Option Nat) : Option Nat := do pure (Nat.min (← a) (← b))

/-- The larger of two optional lengths, none when one is none. -/
def maxLens (a b : Option Nat) : Option Nat := do pure (Nat.max (← a) (← b))

/-- The traits of an alternation of branches with these traits (at least one). -/
def altTraits : List Traits → Traits
  | [] => ⟨none, none, false, false⟩
  | t :: rest =>
    rest.foldl (fun acc u =>
      { minLen := minLens acc.minLen u.minLen, maxLen := maxLens acc.maxLen u.maxLen,
        startAnchored := acc.startAnchored && u.startAnchored,
        endAnchored := acc.endAnchored && u.endAnchored }) t

/-- The traits of a repetition of a body with these traits. -/
def repeatTraits (min : Nat) (max : Option Nat) (t : Traits) : Traits :=
  { minLen := t.minLen.map (· * min),
    maxLen := match max with
      | some m => t.maxLen.map (· * m)
      | none => if t.maxLen == some 0 then some 0 else none,
    startAnchored := min > 0 && t.startAnchored,
    endAnchored := min > 0 && t.endAnchored }

/-- The class of a set: a literal when it holds one character. -/
def ofSet (s : CharSet) : Form :=
  match s.ranges with
  | [(a, b)] => if a = b then .literal [a] else .chars s
  | _ => .chars s

/-- The node that never matches. -/
def never : Form := .chars CharSet.empty

/-- The parts of a concatenation in normal form: inner concatenations opened, empty parts
dropped, neighbouring literals joined. -/
def concatParts (parts : List Form) : List Form :=
  let flat := parts.flatMap fun p => match p with
    | .concat xs _ => xs
    | .empty => []
    | p => [p]
  flat.foldr (fun p acc => match p, acc with
    | .literal a, .literal b :: rest => .literal (a ++ b) :: rest
    | p, acc => p :: acc) []

/-- A concatenation in normal form. -/
def concatOf (parts : List Form) : Form :=
  match concatParts parts with
  | [] => .empty
  | [p] => p
  | ps => .concat ps (concatTraits (ps.map traits))

/-- The character of a literal of exactly one character. -/
def singleChar? : Form → Option Nat
  | .literal [c] => some c
  | _ => none

/-- The set of a class. -/
def classSet? : Form → Option CharSet
  | .chars s => some s
  | _ => none

/-- The parts of a concatenation. -/
def concatParts? : Form → Option (List Form)
  | .concat ps _ => some ps
  | _ => none

/-- The length of the longest common start of several lists. -/
def commonStart (first : List Form) (others : List (List Form)) : Nat :=
  others.foldl (fun n xs => ((first.take n).zip xs).takeWhile (fun (a, b) => a == b) |>.length)
    first.length

/-- An alternation in normal form, with fuel for sharing common starts. -/
def alternationWith : Nat → List Form → Form
  | fuel, branches =>
    let flat := branches.flatMap fun b => match b with
      | .alt xs _ => xs
      | b => [b]
    match flat with
    | [] => never
    | [b] => b
    | _ =>
      match flat.mapM singleChar? with
      | some cs => ofSet (CharSet.normalize (cs.map fun c => (c, c)))
      | none =>
        match flat.mapM classSet? with
        | some ss => ofSet (CharSet.unionAll ss)
        | none =>
          let plain := Form.alt flat (altTraits (flat.map traits))
          match fuel, flat.mapM concatParts? with
          | fuel + 1, some (first :: others) =>
            let n := commonStart first others
            if n = 0 then plain
            else
              let rests := (first :: others).map fun ps => concatOf (ps.drop n)
              concatOf (first.take n ++ [alternationWith fuel rests])
          | _, _ => plain

/-- An alternation in normal form. -/
def alternation (branches : List Form) : Form :=
  alternationWith (branches.map fun b => match b with
    | .concat ps _ => ps.length
    | _ => 0).sum branches

/-- A repetition in normal form; `greedy` tells whether it prefers more rounds to fewer. -/
def repetition (min : Nat) (max : Option Nat) (greedy : Bool) (body : Form) : Form :=
  let (min, max) :=
    if body.traits.maxLen == some 0 then (Nat.min min 1, some ((max.map (Nat.min · 1)).getD 1))
    else (min, max)
  if min = 0 ∧ max = some 0 then .empty
  else if min = 1 ∧ max = some 1 then body
  else .repeat min max greedy body (repeatTraits min max body.traits)

/-- The meaning of a node, for matching. -/
def toNode : Form → Node
  | .empty => .empty
  | .literal cs => Node.concatAll (cs.map fun c => .chars (CharSet.single c))
  | .chars s => .chars s
  | .look l => .look l
  | .repeat min max _ b _ => .repeat min max b.toNode
  | .capture b => .capture b.toNode
  | .concat ps _ => Node.concatAll (ps.map toNode)
  | .alt bs _ => Node.altAll (bs.map toNode)

end Form

theorem concatOf_nil : Form.concatOf [] = .empty := rfl

theorem alternation_nil : Form.alternation [] = Form.never := by
  simp [Form.alternation, Form.alternationWith]

theorem ofSet_single (c : Nat) : Form.ofSet (CharSet.single c) = .literal [c] := by
  simp [Form.ofSet, CharSet.single]

end Rollout.Pattern

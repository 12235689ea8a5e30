import Rollout.Pattern.Node
/-!
# Matching

A node is read as a map from a place in the text to the set of places where a match of it
that starts there can end; places are kept as sorted lists without repeats. A concatenation
feeds the ends of its first part to its second, an alternation joins the ends of both sides.

A repetition with at least `min` and at most `max` rounds first takes exactly `min` rounds,
round by round; it stops early when a round changes nothing, since every later round would
then change nothing either. The optional rounds are a search by levels: a round starts only
from places not reached before, so it ends when a round finds no new place, and after at
most as many rounds as there are places.

A text matches a pattern when a match starts at some place; it matches it whole when a match
runs from its start to its end.

* `ends_empty`, `ends_concat`: the equations of the two simplest nodes.
-/

namespace Rollout.Pattern

/-- Inserts a place into a sorted list without repeats. -/
def insertPlace (p : Nat) : List Nat → List Nat
  | [] => [p]
  | q :: rest =>
    if p < q then p :: q :: rest
    else if p = q then q :: rest
    else q :: insertPlace p rest

/-- The places of either list. -/
def unionPlaces (a b : List Nat) : List Nat := b.foldl (fun acc p => insertPlace p acc) a

/-- The places a step reaches from any of some places. -/
def reach (step : Nat → List Nat) (ps : List Nat) : List Nat :=
  ps.foldl (fun acc p => unionPlaces acc (step p)) []

/-- The places after exactly `k` more steps; a step that changes nothing ends the walk. -/
def stepExactly (step : Nat → List Nat) : Nat → List Nat → List Nat
  | 0, ps => ps
  | k + 1, ps =>
    let qs := reach step ps
    if qs == ps || qs.isEmpty then qs else stepExactly step k qs

/-- The places after at most `k` more steps, by levels: `seen` holds the places reached so
far, `frontier` those first reached in the last level. -/
def stepAtMost (step : Nat → List Nat) : Nat → List Nat → List Nat → List Nat
  | 0, seen, _ => seen
  | k + 1, seen, frontier =>
    let fresh := (reach step frontier).filter fun q => !seen.contains q
    if fresh.isEmpty then seen else stepAtMost step k (unionPlaces seen fresh) fresh

/-- The places where a match of the node starting at `p` can end. -/
def Node.ends (text : Array Char) : Node → Nat → List Nat
  | .empty, p => [p]
  | .chars s, p =>
    match text[p]? with
    | some c => if s.contains c.toNat then [p + 1] else []
    | none => []
  | .look l, p => if l.holds text p then [p] else []
  | .concat a b, p => reach (Node.ends text b) (Node.ends text a p)
  | .alt a b, p => unionPlaces (Node.ends text a p) (Node.ends text b p)
  | .capture a, p => Node.ends text a p
  | .repeat min max a, p =>
    let first := stepExactly (Node.ends text a) min [p]
    let rounds := match max with
      | some m => Nat.min (m - min) (text.size + 1)
      | none => text.size + 1
    stepAtMost (Node.ends text a) rounds first first

/-- Whether a match starts somewhere in the text. -/
def Node.matches (n : Node) (text : String) : Bool :=
  let chars := text.toList.toArray
  (List.range (chars.size + 1)).any fun p => !(n.ends chars p).isEmpty

/-- Whether a match of the node runs from the start of the text to its end. -/
def Node.matchesWhole (n : Node) (text : String) : Bool :=
  let chars := text.toList.toArray
  (n.ends chars 0).contains chars.size

theorem ends_empty (text : Array Char) (p : Nat) : Node.empty.ends text p = [p] := rfl

theorem ends_concat (text : Array Char) (a b : Node) (p : Nat) :
    (Node.concat a b).ends text p = reach (b.ends text) (a.ends text p) := rfl

end Rollout.Pattern

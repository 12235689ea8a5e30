import Rollout.Pattern.Utf8Ranges
/-!
# The size of a compiled pattern

A pattern is compiled to two automata, one that reads the text forwards and one that reads it
backwards, each built state by state from the normal form of the pattern (`Form`). A state
takes 32 bytes; a state with byte-range transitions to choose from takes 8 more bytes for each,
and a split 4 more bytes for each way out of it. Building stops with an error as soon as either
automaton passes 10 MiB.

The construction, node by node (the backward automaton takes the parts of a concatenation
from the last, and keeps no groups):

* the empty match, an assertion, and each byte of a literal are one state;
* an alternation of literals only is a trie of their bytes (read backwards in the backward
  automaton): an end state, and for each node with transitions a state for each chunk of its
  transitions (a chunk ends where a literal ends at the node) and a split over them, with the
  end between chunks;
* an ASCII class is a state with a transition for each of its ranges, and a state after it;
* a wider class is a tree of byte-range states over the UTF-8 sequences of its ranges
  (`byteSequences`). Forwards, the sequences are added in order to a trie whose finished nodes
  become states, and a node with the same transitions as one already made reuses it; backwards,
  each sequence is a chain of states from a common end, and a chain reuses a state made before
  for the same byte range from the same state. Both remember states in fixed tables of 10000 and
  1000 slots, chosen by a 64-bit FNV-1a hash, where a later entry replaces an earlier one;
* a group adds a state before and after its body; an alternation adds a split and a join once
  its first two branches are built;
* `x?` is a split, `x`, and a join; `x{n,}` is `n - 1` copies, one more copy and a split back
  to it (for `n = 0`, a split and `x` when `x` cannot match the empty text, else `(x+)?`);
  `x{n,m}` is `n` copies, a join, and for each optional round a split and a copy.

The forward automaton starts with a loop over any byte (a split and a class of one range)
unless every match starts at the start of the text, and the backward one unless every match
ends at its end; each ends with a match state.

* `literal_fits`: a short literal fits in both automata.
-/

namespace Rollout.Pattern

/-- The largest automaton allowed, in bytes. -/
def sizeLimit : Nat := 10485760

/-- The bytes of one state. -/
def stateBytes : Nat := 32

/-- The bytes of one byte-range transition of a state with several. -/
def transitionBytes : Nat := 8

/-- The bytes of one way out of a split. -/
def splitBytes : Nat := 4

/-- The slots of the table of trie states of the forward automaton. -/
def trieSlots : Nat := 10000

/-- The slots of the table of chain states of the backward automaton. -/
def chainSlots : Nat := 1000

/-- A transition on the bytes of a range to a state. -/
abbrev Step := Nat × Nat × Nat

/-- An automaton under construction, as far as its size goes: how many states it has, how many
bytes its transitions and splits take besides, and the tables of states it may reuse, whose
entries count only in the round of the class that made them. -/
structure Construction where
  states : Nat := 0
  extra : Nat := 0
  round : Nat := 0
  trie : Array (Option (Nat × Array Step × Nat)) := Array.replicate trieSlots none
  chains : Array (Option (Nat × Step × Nat)) := Array.replicate chainSlots none

/-- The bytes an automaton under construction takes. -/
def Construction.bytes (c : Construction) : Nat := c.states * stateBytes + c.extra

/-- Building an automaton; it fails once the automaton is too large. -/
abbrev Building := StateT Construction (Except Unit)

/-- Fails when the automaton has grown too large. -/
def checkSize : Building Unit := do
  if sizeLimit < (← get).bytes then throw ()

/-- Adds a state with some bytes besides its own, giving its number. -/
def addState (extra : Nat) : Building Nat := do
  let id := (← get).states
  modify fun c => { c with states := c.states + 1, extra := c.extra + extra }
  checkSize
  return id

/-- Adds a way out of a split. -/
def addWay : Building Unit := do
  modify fun c => { c with extra := c.extra + splitBytes }
  checkSize

/-- Starts the round of a new class: the tables forget what earlier classes made. -/
def newRound : Building Unit := modify fun c => { c with round := c.round + 1 }

/-- What the rest of the construction needs of a built piece: whether its exit is a split,
which grows when the piece is joined to what follows. -/
structure Piece where
  exitSplits : Bool
deriving Inhabited

/-- Joins a piece to what follows it. -/
def Piece.link (p : Piece) : Building Unit := if p.exitSplits then addWay else pure ()

/-- A piece of one plain state. -/
def plainPiece : Building Piece := do
  let _ ← addState 0
  return ⟨false⟩

/-- One step of the 64-bit FNV-1a hash. -/
def fnvStep (h : UInt64) (x : Nat) : UInt64 := (h ^^^ x.toUInt64) * 1099511628211

/-- The start of the 64-bit FNV-1a hash. -/
def fnvStart : UInt64 := 14695981039346656037

/-- The slot of a trie state with these transitions. -/
def trieSlot (steps : Array Step) : Nat :=
  let h := steps.foldl (fun h (a, b, n) => fnvStep (fnvStep (fnvStep h a) b) n) fnvStart
  h.toNat % trieSlots

/-- The slot of a chain state. -/
def chainSlot (s : Step) : Nat :=
  (fnvStep (fnvStep (fnvStep fnvStart s.1) s.2.1) s.2.2).toNat % chainSlots

/-- The trie state with these transitions: one the table still holds, or a new one. -/
def trieState (steps : Array Step) : Building Nat := do
  let slot := trieSlot steps
  let round := (← get).round
  let held := ((← get).trie[slot]?).join
  match held with
  | some (r, key, id) => if r == round && key == steps then return id
  | none => pure ()
  let id ← addState (transitionBytes * steps.size)
  modify fun c => { c with trie := c.trie.setIfInBounds slot (some (round, steps, id)) }
  return id

/-- The chain state for a byte range leading to a state: one the table still holds, or a new
one. The key is the state it leads to, then the range. -/
def chainState (key : Step) : Building Nat := do
  let slot := chainSlot key
  let round := (← get).round
  let held := ((← get).chains[slot]?).join
  match held with
  | some (r, k, id) => if r == round && k == key then return id
  | none => pure ()
  let id ← addState 0
  modify fun c => { c with chains := c.chains.setIfInBounds slot (some (round, key, id)) }
  return id

/-- A node of the trie not yet made a state: its transitions, and the range of its last one,
whose target is not known yet. -/
structure TrieNode where
  done : Array Step := #[]
  last : Option (Nat × Nat) := none
deriving Inhabited

/-- The transitions of a node once its last one leads to a state. -/
def TrieNode.close (n : TrieNode) (next : Nat) : TrieNode :=
  match n.last with
  | some (a, b) => { done := n.done.push (a, b, next), last := none }
  | none => n

/-- Makes states of the nodes above position `keep`, deepest first, each leading to the one
made before (the deepest to `next`), and lets the node at `keep` lead to the last one made. -/
def settle (keep : Nat) : Nat → Nat → Array TrieNode → Building (Array TrieNode)
  | fuel + 1, next, stack =>
    if keep + 1 < stack.size then do
      let id ← trieState ((stack.back?.getD default).close next).done
      settle keep fuel id stack.pop
    else pure (stack.modify (stack.size - 1) (·.close next))
  | 0, next, stack => pure (stack.modify (stack.size - 1) (·.close next))

/-- Adds a byte sequence to the trie: the nodes past the part it shares with the last one are
made states, and its other ranges become new nodes. -/
def addSequence (target : Nat) (stack : Array TrieNode) (seq : List (Nat × Nat)) :
    Building (Array TrieNode) := do
  let shared := ((stack.toList.zip seq).takeWhile fun (n, r) => n.last == some r).length
  let stack ← settle shared stack.size target stack
  match seq.drop shared with
  | [] => pure stack
  | r :: more =>
    let stack := stack.modify (stack.size - 1) fun n => { n with last := some r }
    pure (more.foldl (fun st r' => st.push { last := some r' }) stack)

/-- The forward piece of a class beyond ASCII: a target state, then the trie. -/
def forwardClass (s : CharSet) : Building Piece := do
  let target ← addState 0
  newRound
  let mut stack : Array TrieNode := #[{}]
  for (lo, hi) in s.ranges do
    for seq in byteSequences lo hi do
      stack ← addSequence target stack seq
  let finished ← settle 0 stack.size target stack
  let _ ← trieState (finished[0]?.getD default).done
  return ⟨false⟩

/-- The backward piece of a class beyond ASCII: a split and a common end, then a chain for each
sequence, from its first byte range at the end to its last at the split. -/
def backwardClass (s : CharSet) : Building Piece := do
  newRound
  let _ ← addState 0
  let common ← addState 0
  for (lo, hi) in s.ranges do
    for seq in byteSequences lo hi do
      let mut exit := common
      for (a, b) in seq do
        exit ← chainState (exit, a, b)
      addWay
  return ⟨false⟩

/-- The piece of a class. -/
def classPiece (backward : Bool) (s : CharSet) : Building Piece :=
  if s.isAscii then do
    let _ ← addState 0
    let _ ← addState (transitionBytes * s.ranges.length)
    return ⟨false⟩
  else if backward then backwardClass s
  else forwardClass s

/-- The piece of a literal: a state for each of its bytes. -/
def literalPiece (chars : List Nat) : Building Piece := do
  for _ in chars.flatMap utf8Bytes do
    let _ ← addState 0
  return ⟨false⟩

/-- `n` copies of a piece in a row; no copy is the empty match. -/
def copies (once : Building Piece) (n : Nat) : Building Piece := do
  if n = 0 then plainPiece
  else
    let mut prev ← once
    for _ in [1:n] do
      let next ← once
      prev.link
      prev := next
    return prev

/-- A piece taken `n` times or more, given whether it always takes some text. -/
def atLeast (once : Building Piece) (consumes : Bool) (n : Nat) : Building Piece := do
  if n = 0 then
    if consumes then do
      let _ ← addState 0
      let inner ← once
      addWay
      inner.link
      return ⟨true⟩
    else do
      let inner ← once
      let _ ← addState 0
      inner.link
      addWay
      let _ ← addState 0
      let _ ← addState 0
      addWay
      addWay
      addWay
      return ⟨false⟩
  else if n = 1 then do
    let inner ← once
    let _ ← addState 0
    inner.link
    addWay
    return ⟨true⟩
  else do
    let first ← copies once (n - 1)
    let last ← once
    let _ ← addState 0
    first.link
    last.link
    addWay
    return ⟨true⟩

/-- A piece taken at least `min` and at most `max` times, `min < max`. -/
def between (once : Building Piece) (min max : Nat) : Building Piece := do
  let first ← copies once min
  let _ ← addState 0
  let mut prev := first
  for _ in [min:max] do
    let _ ← addState 0
    let inner ← once
    prev.link
    addWay
    addWay
    prev := inner
  prev.link
  return ⟨false⟩

/-- A piece taken at most once. -/
def optional (once : Building Piece) : Building Piece := do
  let _ ← addState 0
  let inner ← once
  let _ ← addState 0
  addWay
  addWay
  inner.link
  return ⟨false⟩

/-- A node of the trie of the literals of an alternation: its transitions in order, as a byte
and the node reached, and the chunks of them that end where a literal ends at the node. -/
structure LiteralNode where
  steps : List (Nat × Nat) := []
  chunks : List (Nat × Nat) := []
deriving Inhabited

namespace LiteralNode

/-- Where the transitions added since the last literal ended at the node start. -/
def activeStart (n : LiteralNode) : Nat :=
  match n.chunks.getLast? with
  | some (_, stop) => stop
  | none => 0

/-- The transitions added since the last literal ended at the node. -/
def active (n : LiteralNode) : List (Nat × Nat) := n.steps.drop n.activeStart

/-- Records that a literal ends at the node, unless one ended there with nothing added since. -/
def addMatch (n : LiteralNode) : LiteralNode :=
  if !n.chunks.isEmpty && n.active.isEmpty then n
  else { n with chunks := n.chunks ++ [(n.activeStart, n.steps.length)] }

/-- The chunks of transitions of a node: those that end where a literal ends, then the rest. -/
def chunkList (n : LiteralNode) : List (List (Nat × Nat)) :=
  n.chunks.map (fun (start, stop) => (n.steps.drop start).take (stop - start)) ++ [n.active]

end LiteralNode

/-- Follows the transition on a byte from a node among those added since a literal last ended
there, or adds one in byte order; gives the nodes and the node reached. -/
def stepOrAdd (nodes : Array LiteralNode) (source b : Nat) : Array LiteralNode × Nat :=
  let node := nodes.getD source {}
  match node.active.find? (·.1 == b) with
  | some (_, target) => (nodes, target)
  | none =>
    let target := nodes.size
    let pos := node.activeStart + (node.active.takeWhile (·.1 < b)).length
    let steps := node.steps.take pos ++ [(b, target)] ++ node.steps.drop pos
    ((nodes.setIfInBounds source { node with steps }).push {}, target)

/-- Adds the bytes of a literal to the trie, from the root. -/
def addLiteral (nodes : Array LiteralNode) (bytes : List Nat) : Array LiteralNode :=
  let (nodes, last) := bytes.foldl (fun (acc : Array LiteralNode × Nat) b =>
    stepOrAdd acc.1 acc.2 b) (nodes, 0)
  nodes.modify last LiteralNode.addMatch

/-- The trie of the literals, each read forwards or backwards. -/
def literalTrie (backward : Bool) (literals : List (List Nat)) : Array LiteralNode :=
  literals.foldl (fun nodes cs =>
    let bytes := cs.flatMap utf8Bytes
    addLiteral nodes (if backward then bytes.reverse else bytes)) #[{}]

/-- The states of a node of the trie that has transitions: a state for each chunk that has
transitions (with 8 bytes for each when there are several), and a split over them and, between
chunks, the end. -/
def nodeStates (n : LiteralNode) : Building Unit := do
  let chunks := n.chunkList
  let filled := chunks.filter (!·.isEmpty)
  for c in filled do
    let _ ← addState (if c.length ≥ 2 then transitionBytes * c.length else 0)
  let _ ← addState (splitBytes * (filled.length + chunks.length - 1))

/-- The piece of an alternation of literals: a trie of their bytes, sharing common starts,
built as an end state and the states of each node with transitions. -/
def literalTriePiece (backward : Bool) (literals : List (List Nat)) : Building Piece := do
  let _ ← addState 0
  for n in literalTrie backward literals do
    if !n.steps.isEmpty then nodeStates n
  return ⟨false⟩

/-- The characters of a literal. -/
def literalChars? : Form → Option (List Nat)
  | .literal cs => some cs
  | _ => none

mutual

/-- Builds the piece of a node, backwards or forwards, with or without group states. -/
def Form.piece (backward groups : Bool) : Form → Building Piece
  | .empty => plainPiece
  | .literal cs => literalPiece cs
  | .chars s => classPiece backward s
  | .look _ => plainPiece
  | .repeat min max _ b _ =>
    let once := Form.piece backward groups b
    match min, max with
    | 0, some 1 => optional once
    | n, none => atLeast once (b.traits.minLen.getD 0 > 0) n
    | n, some m => if n = m then copies once n else between once n m
  | .capture b => do
    if groups then
      let _ ← addState 0
      let inner ← Form.piece backward groups b
      let _ ← addState 0
      inner.link
      return ⟨false⟩
    else Form.piece backward groups b
  | .concat ps _ => do
    match ← Form.sequence backward groups ps with
    | some p => pure p
    | none => plainPiece
  | .alt [] _ => plainPiece
  | .alt [a] _ => Form.piece backward groups a
  | .alt (a :: b :: rest) _ =>
    match (a :: b :: rest).mapM literalChars? with
    | some literals => literalTriePiece backward literals
    | none => do
      let pa ← Form.piece backward groups a
      let pb ← Form.piece backward groups b
      let _ ← addState 0
      let _ ← addState 0
      addWay
      pa.link
      addWay
      pb.link
      for p in ← Form.pieces backward groups rest do
        addWay
        p.link
      return ⟨false⟩

/-- Builds the pieces of a concatenation one after the other, from the last when backwards;
none when there are no parts. -/
def Form.sequence (backward groups : Bool) : List Form → Building (Option Piece)
  | [] => pure none
  | p :: rest => do
    if backward then
      let after ← Form.sequence backward groups rest
      let here ← Form.piece backward groups p
      match after with
      | none => pure (some here)
      | some a => do
        a.link
        pure (some here)
    else
      let here ← Form.piece backward groups p
      let after ← Form.sequence backward groups rest
      match after with
      | none => pure (some here)
      | some a => do
        here.link
        pure (some a)

/-- Builds the pieces of several branches in order. -/
def Form.pieces (backward groups : Bool) : List Form → Building (List Piece)
  | [] => pure []
  | p :: rest => do
    let here ← Form.piece backward groups p
    let others ← Form.pieces backward groups rest
    pure (here :: others)

end

/-- Builds a whole automaton for a pattern: the loop over any byte unless the pattern is
anchored at the end it reads from, the pattern as group 0 (forwards), and the match state. -/
def Form.automaton (backward : Bool) (f : Form) : Building Unit := do
  let anchored := if backward then f.traits.endAnchored else f.traits.startAnchored
  let front ← if anchored then plainPiece else do
    let _ ← addState 0
    let _ ← addState 0
    let _ ← addState transitionBytes
    addWay
    pure ⟨true⟩
  let whole ← (Form.capture f).piece backward (!backward)
  let _ ← addState 0
  whole.link
  front.link

/-- Whether the automaton of a pattern, read one way, stays within the limit. -/
def Form.fits (backward : Bool) (f : Form) : Bool :=
  match (f.automaton backward).run {} with
  | .ok _ => true
  | .error _ => false

/-- Whether a pattern is too large to compile: its forward automaton, or else its backward
one, passes the limit. -/
def Form.tooBig (f : Form) : Bool := !f.fits false || !f.fits true

theorem literal_fits : (Form.literal [0x61, 0x62]).tooBig = false := by decide

end Rollout.Pattern

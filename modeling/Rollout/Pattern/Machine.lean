import Rollout.Pattern.Compile
/-!
# Streaming a text through a pattern's machine

Some matches are decided by feeding a text, character by character, to a machine built from a
pattern, and asking at the end whether the machine is in a matching state. The machine is a
Thompson automaton: states that read one character of a set, splits that try their targets
in order of preference, assertions, a failing state and the accepting state. It looks for a
match anywhere: a lazy loop over any character stands in front of the pattern, so a match that
starts earlier is preferred to one that starts later.

The states the machine is in form a list, in order of preference. From the states reached by
the last character, every split and every assertion that holds is followed, depth first and in
order, and a state met a second time is dropped: the earlier way to it wins. An assertion that
looks ahead, at the next character, is first tried without it; when the next character makes
such an assertion hold, the states are followed again with it.

When the accepting state is among the states at a place, every state after it is dropped: a
match is preferred to anything less preferred than it, the loop in front included, so no
later match can start. A text matches when the accepting state is among the states at its end.
So `p$` matches `top`, while `a|ab` does not match `ab` (the match `a` is preferred and ends
before the end), and `a*?` matches only the empty text.

Repetitions are built the way their preferences need: a lazy one tries to stop before it
tries another round, and a repetition of something that can match the empty text is built
as an optional repetition of at least one round, so that the empty round is never preferred
to a longer one.

The text is read a byte at a time, so a match may also start and end between two bytes of
one character, where only ASCII assertions that no word character stands on either side hold.
Such an empty match ends the loop in front as any other does.

A machine cannot be built for a pattern with a Unicode word boundary.

* `machine_suffix`: `p` matches `top`, ending the text with the match.
-/

namespace Rollout.Pattern

/-- One instruction of a machine; the number of an instruction is a state of the machine. -/
inductive Instr where
  /-- Reads one character of the set. -/
  | chars (set : CharSet) (next : Nat)
  /-- Goes on to the targets, in order of preference. -/
  | split (targets : List Nat)
  /-- Goes on when the assertion holds. -/
  | look (l : Look) (next : Nat)
  /-- Never goes on. -/
  | fail
  /-- A match ends here. -/
  | accept
deriving Inhabited

/-- The number of ways out of a state, counting one for every state. -/
def Instr.width : Instr → Nat
  | .split targets => targets.length + 1
  | _ => 2

/-- A machine: its states, and the state it starts in. -/
structure Machine where
  steps : Array Instr
  start : Nat
deriving Inhabited

/-- Building a machine: the states so far. -/
abbrev Wiring := StateM (Array Instr)

/-- Adds a state; gives its number. -/
def emit (s : Instr) : Wiring Nat := do
  let id := (← get).size
  modify (·.push s)
  return id

/-- Replaces a state that was added before its targets were known. -/
def rewire (id : Nat) (s : Instr) : Wiring Unit :=
  modify fun steps => steps.modify id fun _ => s

/-- The targets of a repetition's split: another round first when greedy, else leaving. -/
def preferring (greedy : Bool) (round leave : Nat) : List Nat :=
  if greedy then [round, leave] else [leave, round]

/-- Builds `n` rounds in a row that go on to `next`; gives the first state. -/
def rounds (build : Nat → Wiring Nat) : Nat → Nat → Wiring Nat
  | 0, next => pure next
  | n + 1, next => do rounds build n (← build next)

/-- Builds the optional rounds of a bounded repetition from the last: each is a split between
one more round and leaving to `next`. -/
def optionalRounds (build : Nat → Wiring Nat) (greedy : Bool) (next : Nat) :
    Nat → Nat → Wiring Nat
  | 0, cont => pure cont
  | n + 1, cont => do
    let round ← build cont
    let split ← emit (.split (preferring greedy round next))
    optionalRounds build greedy next n split

/-- Builds a repetition of a body with the given shortest match, going on to `next`. -/
def repeatWiring (build : Nat → Wiring Nat) (min : Nat) (max : Option Nat) (greedy : Bool)
    (bodyMinLen : Option Nat) (next : Nat) : Wiring Nat :=
  match max with
  | some hi =>
    if min = 0 ∧ hi = 1 then do
      let round ← build next
      emit (.split (preferring greedy round next))
    else do
      let optional ← optionalRounds build greedy next (hi - min) next
      rounds build min optional
  | none =>
    if min = 0 then
      if bodyMinLen.any (0 < ·) then do
        let loop ← emit (.split [])
        let round ← build loop
        rewire loop (.split (preferring greedy round next))
        pure loop
      else do
        let again ← emit (.split [])
        let round ← build again
        rewire again (.split (preferring greedy round next))
        emit (.split (preferring greedy round next))
    else do
      let again ← emit (.split [])
      let last ← build again
      rewire again (.split (preferring greedy last next))
      rounds build (min - 1) last

mutual
/-- Builds the states of a form that go on to `next`; gives the state it starts in. -/
def Form.wire (next : Nat) : Form → Wiring Nat
  | .empty => pure next
  | .literal cs => literalWiring cs next
  | .chars s => if s.ranges.isEmpty then emit .fail else emit (.chars s next)
  | .look l => emit (.look l next)
  | .capture b => b.wire next
  | .concat ps _ => Form.wireAll next ps
  | .alt bs _ => do emit (.split (← Form.wireEach next bs))
  | .repeat min max greedy b _ =>
    repeatWiring (fun n => b.wire n) min max greedy b.traits.minLen next

/-- Builds parts in a row that go on to `next`; gives the state the first starts in. -/
def Form.wireAll (next : Nat) : List Form → Wiring Nat
  | [] => pure next
  | p :: rest => do p.wire (← Form.wireAll next rest)

/-- Builds branches that each go on to `next`; gives the states they start in, in order. -/
def Form.wireEach (next : Nat) : List Form → Wiring (List Nat)
  | [] => pure []
  | b :: rest => do
    let first ← b.wire next
    let others ← Form.wireEach next rest
    pure (first :: others)

/-- Builds the characters of a literal in a row, going on to `next`. -/
def literalWiring : List Nat → Nat → Wiring Nat
  | [], next => pure next
  | c :: rest, next => do emit (.chars (CharSet.single c) (← literalWiring rest next))
end

/-- The machine of a form: the lazy loop over any character, then the form, then the
accepting state. -/
def Form.machine (f : Form) : Machine :=
  let build : Wiring Nat := do
    let accept ← emit .accept
    let entry ← f.wire accept
    let loop ← emit (.split [])
    let any ← emit (.chars CharSet.full loop)
    rewire loop (.split [entry, any])
    pure loop
  let (start, steps) := build.run #[]
  { steps, start }

namespace Machine

/-- Whether a machine holds a Unicode word boundary, for which it cannot be built. -/
def hasUnicodeWord (m : Machine) : Bool :=
  m.steps.any fun
    | .look (.word true _) _ => true
    | _ => false

/-- The instruction of a state, if there is one. -/
def instr? (m : Machine) (id : Nat) : Option Instr := m.steps[id]?

/-- A bound on the steps of following the states from some roots. -/
def fuel (m : Machine) (roots : List Nat) : Nat :=
  m.steps.foldl (fun n s => n + s.width) (roots.length + 1)

/-- Follows splits and holding assertions from the states on a stack, depth first, adding
each state met for the first time to `seen`. -/
def follow (m : Machine) (holds : Look → Bool) : Nat → List Nat → List Nat → List Nat
  | 0, _, seen => seen
  | _, [], seen => seen
  | fuel + 1, id :: stack, seen =>
    if seen.contains id then m.follow holds fuel stack seen
    else
      let seen := seen ++ [id]
      match m.instr? id with
      | some (.split targets) => m.follow holds fuel (targets ++ stack) seen
      | some (.look l next) =>
        if holds l then m.follow holds fuel (next :: stack) seen
        else m.follow holds fuel stack seen
      | _ => m.follow holds fuel stack seen

/-- The states reached from some roots, in order of preference. -/
def close (m : Machine) (holds : List Look) (roots : List Nat) : List Nat :=
  m.follow (holds.contains ·) (m.fuel roots) roots []

/-- The assertions that the look states among some states ask for. -/
def needs (m : Machine) (ids : List Nat) : List Look :=
  ids.filterMap fun id =>
    match m.instr? id with
    | some (.look l _) => some l
    | _ => none

/-- Whether a state accepts. -/
def accepts (m : Machine) (id : Nat) : Bool :=
  match m.instr? id with
  | some .accept => true
  | _ => false

/-- The states reading a character leads to: the targets of the states that read it, up to
the first accepting state. -/
def targetsOn (m : Machine) (c : Char) : List Nat → List Nat
  | [] => []
  | id :: rest =>
    match m.instr? id with
    | some .accept => []
    | some (.chars s next) =>
      if s.contains c.toNat then next :: m.targetsOn c rest else m.targetsOn c rest
    | _ => m.targetsOn c rest

end Machine

/-- Whether a character is an ASCII word character; the end of the text is not. -/
def isAsciiWordAt : Option Char → Bool
  | some c => asciiWordSet.contains c.toNat
  | none => false

/-- Where a machine stands between two characters: its states, in order of preference, the
assertions known from the characters before, and whether the last character was a word
character or a carriage return. -/
structure Place where
  ids : List Nat
  holds : List Look
  afterWord : Bool
  afterReturn : Bool
deriving Inhabited

/-- The assertions the next character (none at the end of the text) makes hold at a place. -/
def Place.ahead (p : Place) (next : Option Char) : List Look :=
  let word := isAsciiWordAt next
  let lineEnds : List Look := match next with
    | none => [.textEnd, .lineEnd false, .lineEnd true]
    | some '\r' => [.lineEnd true]
    | some '\n' => (if p.afterReturn then [] else [.lineEnd true]) ++ [.lineEnd false]
    | some _ => []
  let crlfStart : List Look :=
    if p.afterReturn && next != some '\n' then [.lineStart true] else []
  let boundary : List Look :=
    if p.afterWord == word then [.word false .notBoundary] else [.word false .boundary]
  let half : List Look := if word then [] else [.word false .stopHalf]
  let edge : List Look :=
    if p.afterWord && !word then [.word false .stop]
    else if !p.afterWord && word then [.word false .start]
    else []
  lineEnds ++ crlfStart ++ boundary ++ half ++ edge

/-- The assertions that hold just after a character, whatever follows it. -/
def behind (c : Char) : List Look :=
  (if c == '\n' then [.lineStart false, .lineStart true] else []) ++
    (if isAsciiWordAt (some c) then [] else [.word false .startHalf])

namespace Machine

/-- The place before the first character. -/
def initial (m : Machine) : Place :=
  let holds : List Look := [.textStart, .lineStart false, .lineStart true, .word false .startHalf]
  { ids := m.close holds [m.start], holds, afterWord := false, afterReturn := false }

/-- The states of a place once the next character is known: followed again when it makes an
assertion hold that a look state there asks for. -/
def settle (m : Machine) (p : Place) (next : Option Char) : List Nat :=
  let more := p.ahead next
  let need := m.needs p.ids
  if more.any fun l => !p.holds.contains l && need.contains l then
    m.close (p.holds ++ more) p.ids
  else p.ids

/-- Whether a match can start and end between two bytes of one character: there only
assertions that neither side is an ASCII word character hold. Such an empty match is preferred
to the loop in front, so the loop stops there. -/
def matchesInside (m : Machine) : Bool :=
  (m.close [.word false .notBoundary, .word false .startHalf, .word false .stopHalf]
    [m.start]).any m.accepts

/-- The place after one more character. The loop in front comes back to the start state after
each character, unless the character is more than one byte long and a match fits inside it. -/
def feed (m : Machine) (inside : Bool) (p : Place) (c : Char) : Place :=
  let targets := m.targetsOn c (m.settle p (some c))
  let targets := if inside && 1 < c.utf8Size then targets.filter (· != m.start) else targets
  let holds := behind c
  { ids := m.close holds targets, holds, afterWord := isAsciiWordAt (some c),
    afterReturn := c == '\r' }

/-- Whether the machine ends a list of characters in a matching state: the accepting state is
among its states at the end. -/
def endsMatchingOn (m : Machine) (cs : List Char) : Bool :=
  (m.settle (cs.foldl (m.feed m.matchesInside) m.initial) none).any m.accepts

/-- Whether the machine ends a text in a matching state. -/
def endsMatching (m : Machine) (text : String) : Bool := m.endsMatchingOn text.toList

end Machine

/-- The machine of a pattern: none when the pattern does not read, or asks for a Unicode word
boundary. No size limit applies. -/
def machineOf? (pattern : String) : Option Machine := do
  let ast ← (Ast.parse pattern).toOption
  let form ← ast.lower.toOption
  let m := form.machine
  if m.hasUnicodeWord then none else some m

theorem machine_suffix :
    (Form.literal [0x70]).machine.endsMatchingOn ['t', 'o', 'p'] = true := by
  decide

end Rollout.Pattern

import Rollout.Yaml.Token.Fetch
/-!
# YAML events

The grammar reads tokens and gives events: the stream's start and end, each document's start
and end, and within a document the nodes in order, a collection as its start event, its
entries, and its end event. An alias stands for the node with that anchor; a scalar carries
its text, style, anchor and tag; a tag is resolved against the document's `%TAG` directives,
`!` and `!!` (`tag:yaml.org,2002:`) being known in every document.

The grammar is a machine: `Reader.stage` is what it expects next, `Reader.stages` what it
expects after the collections it is inside are done, and `Reader.marks` where those
collections started, for messages. An entry left out (a key without a value, an empty
document, `- ` at the end of a line) is an empty plain scalar.

* `Event.stream` reads all events of a text, up to the first syntax error, which it returns
  beside them. A character that the text may not hold is an error before the first event.
-/

namespace Rollout.Yaml

/-- A YAML event. -/
inductive Event where
  | streamStart
  | streamEnd
  | documentStart
  | documentEnd
  | alias (name : String)
  | scalar (anchor tag : Option String) (text : String) (style : ScalarStyle)
  | sequenceStart (anchor tag : Option String)
  | sequenceEnd
  | mappingStart (anchor tag : Option String)
  | mappingEnd
deriving Inhabited

/-- What the grammar expects. -/
inductive Stage where
  | streamStart
  | implicitDocumentStart
  | documentStart
  | documentContent
  | documentEnd
  | blockNode
  | blockNodeOrIndentlessSequence
  | flowNode
  | blockSequenceFirstEntry
  | blockSequenceEntry
  | indentlessSequenceEntry
  | blockMappingFirstKey
  | blockMappingKey
  | blockMappingValue
  | flowSequenceFirstEntry
  | flowSequenceEntry
  | flowSequenceEntryMappingKey
  | flowSequenceEntryMappingValue
  | flowSequenceEntryMappingEnd
  | flowMappingFirstKey
  | flowMappingKey
  | flowMappingValue
  | flowMappingEmptyValue
  | finished
deriving DecidableEq, Inhabited

/-- The state of the grammar. -/
structure Reader where
  lexer : Lexer
  stage : Stage := .streamStart
  stages : List Stage := []
  marks : List Mark := []
  /-- The tag handles of the current document and their prefixes. -/
  handles : List (String × String) := []
deriving Inhabited

/-- The grammar's monad. -/
abbrev ReadM := StateT Reader (Except SyntaxError)

namespace Read

/-- Runs a step of the lexer. -/
def lex {α : Type} (x : LexM α) : ReadM α := fun r => do
  let (a, l) ← x r.lexer
  pure (a, { r with lexer := l })

/-- The next token. -/
def peek : ReadM Token := lex Lex.peekToken

/-- Moves past the next token. -/
def take : ReadM Unit := lex Lex.takeToken

/-- Sets what comes next. -/
def goTo (s : Stage) : ReadM Unit := modify fun r => { r with stage := s }

/-- Remembers what comes after the node that starts now. -/
def push (s : Stage) : ReadM Unit := modify fun r => { r with stages := s :: r.stages }

/-- Goes on with what comes after the node just read. -/
def pop : ReadM Unit := modify fun r =>
  match r.stages with
  | s :: rest => { r with stage := s, stages := rest }
  | [] => { r with stage := .finished }

/-- Remembers where a collection starts. -/
def pushMark (m : Mark) : ReadM Unit := modify fun r => { r with marks := m :: r.marks }

/-- Forgets the start of the innermost collection, giving it. -/
def popMark : ReadM Mark := do
  let r ← get
  match r.marks with
  | m :: rest =>
    set { r with marks := rest }
    return m
  | [] => return {}

/-- Stops with a syntax error at a mark, with what was being read and where it started. -/
def failAt {α : Type} (problem : String) (m : Mark) (context : Option (String × Mark)) :
    ReadM α :=
  throw { problem, mark := m, context := context.map (·.1),
          contextMark := (context.map (·.2)).getD {} }

/-- An empty plain scalar at a mark. -/
def empty (m : Mark) : Event × Mark := (.scalar none none "" .plain, m)

/-! ## Documents -/

/-- The tag handles every document knows. -/
def defaultHandles : List (String × String) := [("!", "!"), ("!!", "tag:yaml.org,2002:")]

/-- Reads the directives before a document and fixes its tag handles. -/
def directives : ReadM Unit := do
  let rec go (version : Bool) : Nat → ReadM Unit
    | 0 => pure ()
    | n + 1 => do
      let t ← peek
      match t.kind with
      | .versionDirective major minor =>
        if version then failAt "found duplicate %YAML directive" t.start none
        if major != 1 || (minor != 1 && minor != 2) then
          failAt "found incompatible YAML document" t.start none
        take
        go true n
      | .tagDirective handle pre =>
        if (← get).handles.any (·.1 == handle) then
          failAt "found duplicate %TAG directive" t.start none
        modify fun r => { r with handles := r.handles ++ [(handle, pre)] }
        take
        go version n
      | _ => pure ()
  go false ((← get).lexer.text.size + 2)
  for (h, p) in defaultHandles do
    if !(← get).handles.any (·.1 == h) then
      modify fun r => { r with handles := r.handles ++ [(h, p)] }

/-- Whether a token starts a document or ends the stream. -/
def TokenKind.opensDocument : TokenKind → Bool
  | .versionDirective .. | .tagDirective .. | .documentStart | .streamEnd => true
  | _ => false

/-- The start of a document, or the end of the stream. A document without `---` may only be
the first. -/
def documentStart (implicit : Bool) : ReadM (Event × Mark) := do
  let rec skipEnds : Nat → ReadM Token
    | 0 => peek
    | n + 1 => do
      let t ← peek
      match t.kind with
      | .documentEnd =>
        take
        skipEnds n
      | _ => pure t
  let t ← if implicit then peek else skipEnds ((← get).lexer.text.size + 2)
  if implicit && !TokenKind.opensDocument t.kind then
    directives
    push .documentEnd
    goTo .blockNode
    return (.documentStart, t.start)
  match t.kind with
  | .streamEnd =>
    goTo .finished
    take
    return (.streamEnd, t.start)
  | _ =>
    directives
    let t' ← peek
    match t'.kind with
    | .documentStart =>
      push .documentEnd
      goTo .documentContent
      take
      return (.documentStart, t.start)
    | _ => failAt "did not find expected <document start>" t'.start none

/-- The content of a document after `---`: empty when another document or the end follows. -/
def documentContent (node : ReadM (Event × Mark)) : ReadM (Event × Mark) := do
  let t ← peek
  match t.kind with
  | .versionDirective .. | .tagDirective .. | .documentStart | .documentEnd | .streamEnd =>
    pop
    return empty t.start
  | _ => node

/-- The end of a document, with or without `...`. -/
def documentEnd : ReadM (Event × Mark) := do
  let t ← peek
  match t.kind with
  | .documentEnd => take
  | _ => pure ()
  modify fun r => { r with handles := [] }
  goTo .documentStart
  return (.documentEnd, t.start)

/-! ## Nodes -/

/-- The anchor and the tag (handle and suffix, with the tag's mark) in front of a node, in
either order; the token after them comes with them. -/
def properties : ReadM (Option String × Option (String × String × Mark) × Token) := do
  let t ← peek
  match t.kind with
  | .anchor a =>
    take
    let t ← peek
    match t.kind with
    | .tag h s =>
      take
      return (some a, some (h, s, t.start), ← peek)
    | _ => return (some a, none, t)
  | .tag h s =>
    take
    let t' ← peek
    match t'.kind with
    | .anchor a =>
      take
      return (some a, some (h, s, t.start), ← peek)
    | _ => return (none, some (h, s, t.start), t')
  | _ => return (none, none, t)

/-- Resolves a tag against the document's handles. -/
def resolveTag (start : Mark) : Option (String × String × Mark) → ReadM (Option String)
  | none => pure none
  | some (handle, suffix, m) => do
    if handle.isEmpty then return some suffix
    match (← get).handles.find? (·.1 == handle) with
    | some (_, pre) => return some (pre ++ suffix)
    | none => failAt "found undefined tag handle" m (some ("while parsing a node", start))

/-- A node: an alias, a scalar, the start of a collection, or an empty scalar after an anchor
or tag. `block` allows block collections; `indentless` allows a block sequence at the
indentation of the mapping it is the value of. -/
def node (block indentless : Bool) : ReadM (Event × Mark) := do
  let t ← peek
  match t.kind with
  | .alias name =>
    pop
    take
    return (.alias name, t.start)
  | _ =>
    let start := t.start
    let (anchor, tagged, t) ← properties
    let tag ← resolveTag start tagged
    match t.kind with
    | .blockEntry =>
      if indentless then
        goTo .indentlessSequenceEntry
        return (.sequenceStart anchor tag, start)
      else orEmpty block start anchor tag t
    | .scalar text style =>
      pop
      take
      return (.scalar anchor tag text style, start)
    | .flowSequenceStart =>
      goTo .flowSequenceFirstEntry
      return (.sequenceStart anchor tag, start)
    | .flowMappingStart =>
      goTo .flowMappingFirstKey
      return (.mappingStart anchor tag, start)
    | .blockSequenceStart =>
      if block then
        goTo .blockSequenceFirstEntry
        return (.sequenceStart anchor tag, start)
      else orEmpty block start anchor tag t
    | .blockMappingStart =>
      if block then
        goTo .blockMappingFirstKey
        return (.mappingStart anchor tag, start)
      else orEmpty block start anchor tag t
    | _ => orEmpty block start anchor tag t
where
  /-- An empty scalar if the node had an anchor or tag, else an error. -/
  orEmpty (block : Bool) (start : Mark) (anchor tag : Option String) (t : Token) :
      ReadM (Event × Mark) := do
    if anchor.isSome || tag.isSome then
      pop
      return (.scalar anchor tag "" .plain, start)
    failAt "did not find expected node content" t.start
      (some (if block then "while parsing a block node" else "while parsing a flow node", start))

/-! ## Block collections -/

/-- An entry of a block sequence, or its end. -/
def blockSequenceEntry (first : Bool) : ReadM (Event × Mark) := do
  if first then
    pushMark (← peek).start
    take
  let t ← peek
  match t.kind with
  | .blockEntry =>
    take
    let t' ← peek
    match t'.kind with
    | .blockEntry | .blockEnd =>
      goTo .blockSequenceEntry
      return empty t.stop
    | _ =>
      push .blockSequenceEntry
      node true false
  | .blockEnd =>
    pop
    let _ ← popMark
    take
    return (.sequenceEnd, t.start)
  | _ =>
    let m ← popMark
    failAt "did not find expected '-' indicator" t.start (some ("while parsing a block collection", m))

/-- An entry of a sequence at the indentation of its mapping, or its end. -/
def indentlessSequenceEntry : ReadM (Event × Mark) := do
  let t ← peek
  match t.kind with
  | .blockEntry =>
    take
    let t' ← peek
    match t'.kind with
    | .blockEntry | .key | .value | .blockEnd =>
      goTo .indentlessSequenceEntry
      return empty t.stop
    | _ =>
      push .indentlessSequenceEntry
      node true false
  | _ =>
    pop
    return (.sequenceEnd, t.start)

/-- A key of a block mapping, or its end. -/
def blockMappingKey (first : Bool) : ReadM (Event × Mark) := do
  if first then
    pushMark (← peek).start
    take
  let t ← peek
  match t.kind with
  | .key =>
    take
    let t' ← peek
    match t'.kind with
    | .key | .value | .blockEnd =>
      goTo .blockMappingValue
      return empty t.stop
    | _ =>
      push .blockMappingValue
      node true true
  | .blockEnd =>
    pop
    let _ ← popMark
    take
    return (.mappingEnd, t.start)
  | _ =>
    let m ← popMark
    failAt "did not find expected key" t.start (some ("while parsing a block mapping", m))

/-- A value of a block mapping, empty when left out. -/
def blockMappingValue : ReadM (Event × Mark) := do
  let t ← peek
  match t.kind with
  | .value =>
    take
    let t' ← peek
    match t'.kind with
    | .key | .value | .blockEnd =>
      goTo .blockMappingKey
      return empty t.stop
    | _ =>
      push .blockMappingKey
      node true true
  | _ =>
    goTo .blockMappingKey
    return empty t.start

/-! ## Flow collections -/

/-- An entry of a flow sequence, or its end. A `key: value` entry is a mapping of one pair. -/
def flowSequenceEntry (first : Bool) : ReadM (Event × Mark) := do
  if first then
    pushMark (← peek).start
    take
  let t ← peek
  let t ← match t.kind with
    | .flowSequenceEnd => pure t
    | _ =>
      if first then pure t
      else match t.kind with
        | .flowEntry => do
          take
          peek
        | _ => do
          let m ← popMark
          failAt "did not find expected ',' or ']'" t.start (some ("while parsing a flow sequence", m))
  match t.kind with
  | .key =>
    goTo .flowSequenceEntryMappingKey
    take
    return (.mappingStart none none, t.start)
  | .flowSequenceEnd =>
    pop
    let _ ← popMark
    take
    return (.sequenceEnd, t.start)
  | _ =>
    push .flowSequenceEntry
    node false false

/-- The key of a single pair in a flow sequence. -/
def flowSequenceEntryMappingKey : ReadM (Event × Mark) := do
  let t ← peek
  match t.kind with
  | .value | .flowEntry | .flowSequenceEnd =>
    goTo .flowSequenceEntryMappingValue
    return empty t.start
  | _ =>
    push .flowSequenceEntryMappingValue
    node false false

/-- The value of a single pair in a flow sequence. -/
def flowSequenceEntryMappingValue : ReadM (Event × Mark) := do
  let t ← peek
  match t.kind with
  | .value =>
    take
    let t' ← peek
    match t'.kind with
    | .flowEntry | .flowSequenceEnd =>
      goTo .flowSequenceEntryMappingEnd
      return empty t'.start
    | _ =>
      push .flowSequenceEntryMappingEnd
      node false false
  | _ =>
    goTo .flowSequenceEntryMappingEnd
    return empty t.start

/-- The end of a single pair in a flow sequence. -/
def flowSequenceEntryMappingEnd : ReadM (Event × Mark) := do
  let t ← peek
  goTo .flowSequenceEntry
  return (.mappingEnd, t.start)

/-- A key of a flow mapping, or its end. -/
def flowMappingKey (first : Bool) : ReadM (Event × Mark) := do
  if first then
    pushMark (← peek).start
    take
  let t ← peek
  let t ← match t.kind with
    | .flowMappingEnd => pure t
    | _ =>
      if first then pure t
      else match t.kind with
        | .flowEntry => do
          take
          peek
        | _ => do
          let m ← popMark
          failAt "did not find expected ',' or '\x7d'" t.start (some ("while parsing a flow mapping", m))
  match t.kind with
  | .key =>
    take
    let t' ← peek
    match t'.kind with
    | .value | .flowEntry | .flowMappingEnd =>
      goTo .flowMappingValue
      return empty t'.start
    | _ =>
      push .flowMappingValue
      node false false
  | .flowMappingEnd =>
    pop
    let _ ← popMark
    take
    return (.mappingEnd, t.start)
  | _ =>
    push .flowMappingEmptyValue
    node false false

/-- A value of a flow mapping; `empty` after a key without `:`. -/
def flowMappingValue (isEmpty : Bool) : ReadM (Event × Mark) := do
  let t ← peek
  if isEmpty then
    goTo .flowMappingKey
    return empty t.start
  match t.kind with
  | .value =>
    take
    let t' ← peek
    match t'.kind with
    | .flowEntry | .flowMappingEnd =>
      goTo .flowMappingKey
      return empty t'.start
    | _ =>
      push .flowMappingKey
      node false false
  | _ =>
    goTo .flowMappingKey
    return empty t.start

/-! ## The machine -/

/-- The start of the stream. -/
def streamStart : ReadM (Event × Mark) := do
  let t ← peek
  match t.kind with
  | .streamStart =>
    goTo .implicitDocumentStart
    take
    return (.streamStart, t.start)
  | _ => failAt "did not find expected <stream-start>" t.start none

/-- The next event. -/
def next : ReadM (Event × Mark) := do
  match (← get).stage with
  | .streamStart => streamStart
  | .implicitDocumentStart => documentStart true
  | .documentStart => documentStart false
  | .documentContent => documentContent (node true false)
  | .documentEnd => documentEnd
  | .blockNode => node true false
  | .blockNodeOrIndentlessSequence => node true true
  | .flowNode => node false false
  | .blockSequenceFirstEntry => blockSequenceEntry true
  | .blockSequenceEntry => blockSequenceEntry false
  | .indentlessSequenceEntry => indentlessSequenceEntry
  | .blockMappingFirstKey => blockMappingKey true
  | .blockMappingKey => blockMappingKey false
  | .blockMappingValue => blockMappingValue
  | .flowSequenceFirstEntry => flowSequenceEntry true
  | .flowSequenceEntry => flowSequenceEntry false
  | .flowSequenceEntryMappingKey => flowSequenceEntryMappingKey
  | .flowSequenceEntryMappingValue => flowSequenceEntryMappingValue
  | .flowSequenceEntryMappingEnd => flowSequenceEntryMappingEnd
  | .flowMappingFirstKey => flowMappingKey true
  | .flowMappingKey => flowMappingKey false
  | .flowMappingValue => flowMappingValue false
  | .flowMappingEmptyValue => flowMappingValue true
  | .finished => return (.streamEnd, (← get).lexer.mark)

end Read

/-- The first character that a YAML text may not hold, as the byte offset where it stands. -/
def firstForbidden (text : String) : Option Nat :=
  let rec go (offset : Nat) : List Char → Option Nat
    | [] => none
    | c :: rest => if isAllowed c then go (offset + c.utf8Size) rest else some offset
  go 0 text.toList

/-- The events of a text, up to the end of the stream or the first syntax error. A byte order
mark is an ordinary character of the text, which the scanner passes over at the start of a
line. -/
def Event.stream (text : String) : Array (Event × Mark) × Option SyntaxError :=
  match firstForbidden text with
  | some offset => (#[], some { problem := "control characters are not allowed", offset })
  | none => collect (8 * (text.length + 8)) { lexer := Lexer.start text } #[]
where
  /-- Reads events while the fuel lasts. -/
  collect : Nat → Reader → Array (Event × Mark) → Array (Event × Mark) × Option SyntaxError
    | 0, _, acc => (acc, none)
    | n + 1, r, acc =>
      match Read.next.run r with
      | .error e => (acc, some e)
      | .ok ((e, m), r') =>
        let acc := acc.push (e, m)
        match e with
        | .streamEnd => (acc, none)
        | _ => collect n r' acc

end Rollout.Yaml

import Rollout.Yaml.Token.Scalar
/-!
# Fetching tokens

`Lex.peekToken` gives the next token and `Lex.takeToken` moves past it. Tokens are read on
demand: before the token in front is handed out, more are read while the queue is empty or
while a simple key that may still become a mapping key starts at the token in front (a `:`
further on inserts a key token before it).

Reading one token (`fetchNext`) skips blanks, comments and line breaks, drops simple keys that
went stale, closes the block collections that the new column leaves, and then looks at the
next character:

* the end of the text closes everything and ends the stream;
* at column zero, `%` starts a directive and `---` or `...` a document marker;
* `[ { ] } ,` open, close and separate flow collections;
* `- `, `? ` and `: ` (in flow context `?` and `:` alone) are block entries, keys and values;
  a value turns the simple key before it into a key, opening a block mapping if needed;
* `* & !` start aliases, anchors and tags, `| >` block scalars, quotes quoted scalars;
* anything else that may start a plain scalar starts one, and the rest is an error.
-/

namespace Rollout.Yaml

namespace Lex

/-- Queues a token of one character. -/
def singleToken (kind : TokenKind) : LexM Unit := do
  let start ← mark
  skip
  enqueue { kind, start, stop := ← mark }

/-- Starts the stream: no block collection is open and a simple key may start. -/
def fetchStreamStart : LexM Unit := do
  modify fun s => { s with indent := -1, keys := s.keys.push {}, keyAllowed := true,
                           started := true }
  let m ← mark
  enqueue { kind := .streamStart, start := m, stop := m }

/-- Ends the stream, on a line of its own. -/
def fetchStreamEnd : LexM Unit := do
  modify fun s =>
    if s.mark.column != 0 then { s with mark := { s.mark with column := 0, line := s.mark.line + 1 } }
    else s
  unrollIndent (-1)
  removeKey
  allowKey false
  let m ← mark
  enqueue { kind := .streamEnd, start := m, stop := m }

/-- Reads a directive. -/
def fetchDirective : LexM Unit := do
  unrollIndent (-1)
  removeKey
  allowKey false
  enqueue (← directive)

/-- Reads a document marker. -/
def fetchDocumentMarker (kind : TokenKind) : LexM Unit := do
  unrollIndent (-1)
  removeKey
  allowKey false
  let start ← mark
  skip
  skip
  skip
  enqueue { kind, start, stop := ← mark }

/-- Opens a flow collection, which may itself be a simple key. -/
def fetchFlowStart (kind : TokenKind) : LexM Unit := do
  saveKey
  enterFlow
  allowKey true
  singleToken kind

/-- Closes a flow collection. -/
def fetchFlowEnd (kind : TokenKind) : LexM Unit := do
  removeKey
  leaveFlow
  allowKey false
  singleToken kind

/-- Reads the comma between flow entries. -/
def fetchFlowEntry : LexM Unit := do
  removeKey
  allowKey true
  singleToken .flowEntry

/-- Reads `- `: in block context it may open a block sequence. -/
def fetchBlockEntry : LexM Unit := do
  let s ← get
  if s.flowLevel == 0 then
    if !s.keyAllowed then fail none s.mark "block sequence entries are not allowed in this context"
    rollIndent s.mark.column none .blockSequenceStart s.mark
  removeKey
  allowKey true
  singleToken .blockEntry

/-- Reads `? `: in block context it may open a block mapping. -/
def fetchKey : LexM Unit := do
  let s ← get
  if s.flowLevel == 0 then
    if !s.keyAllowed then fail none s.mark "mapping keys are not allowed in this context"
    rollIndent s.mark.column none .blockMappingStart s.mark
  removeKey
  allowKey (s.flowLevel == 0)
  singleToken .key

/-- Reads `: `. After a possible simple key, a key token goes in front of it, and in block
context the start of a block mapping before that if the key opens one. -/
def fetchValue : LexM Unit := do
  let s ← get
  match s.keys.back? with
  | some k =>
    if k.possible then
      insertBefore k.tokenNumber { kind := .key, start := k.mark, stop := k.mark }
      rollIndent k.mark.column (some k.tokenNumber) .blockMappingStart k.mark
      modify fun s => { s with keys := s.keys.pop.push { k with possible := false } }
      allowKey false
    else plainValue s
  | none => plainValue s
  singleToken .value
where
  /-- A value after a key that is not simple. -/
  plainValue (s : Lexer) : LexM Unit := do
    if s.flowLevel == 0 then
      if !s.keyAllowed then fail none s.mark "mapping values are not allowed in this context"
      rollIndent s.mark.column none .blockMappingStart s.mark
    allowKey (s.flowLevel == 0)

/-- Reads an anchor or an alias, which may start a simple key. -/
def fetchAnchor (isAlias : Bool) : LexM Unit := do
  saveKey
  allowKey false
  enqueue (← anchor isAlias)

/-- Reads a tag, which may start a simple key. -/
def fetchTag : LexM Unit := do
  saveKey
  allowKey false
  enqueue (← tag)

/-- Reads a block scalar. -/
def fetchBlockScalar (literal : Bool) : LexM Unit := do
  removeKey
  allowKey true
  enqueue (← blockScalar literal)

/-- Reads a quoted scalar, which may be a simple key. -/
def fetchQuoted (single : Bool) : LexM Unit := do
  saveKey
  allowKey false
  enqueue (← quotedScalar single)

/-- Reads a plain scalar, which may be a simple key. -/
def fetchPlain : LexM Unit := do
  saveKey
  allowKey false
  enqueue (← plainScalar)

/-- Moves over blanks, comments and line breaks up to the next token. A byte order mark may
start a line; tabs count as blanks in flow context and where no simple key may start. -/
def skipToToken : Nat → LexM Unit
  | 0 => pure ()
  | n + 1 => do
    if (← mark).column == 0 && (← peek) == '\uFEFF' then skip
    let s ← get
    skipWhile (fun c => c == ' ' || ((s.flowLevel != 0 || !s.keyAllowed) && c == '\t'))
      (← budget)
    skipComment
    if isBreak (← peek) then
      skipLine
      if (← get).flowLevel == 0 then allowKey true
      skipToToken n

/-- Whether a character may not start a plain scalar on its own. -/
def isIndicator (c : Char) : Bool :=
  "-?:,[]\x7b\x7d#&*!|>'\"%@".contains c || c == '\x60'

/-- Reads the next token into the queue. -/
def fetchNext : LexM Unit := do
  if !(← get).started then
    fetchStreamStart
    return
  skipToToken (← budget)
  dropStaleKeys
  unrollIndent (← mark).column
  let s ← get
  let c := s.ahead 0
  let d := s.ahead 1
  let flow := s.flowLevel != 0
  let atLineStart := s.mark.column == 0
  let triple (x : Char) := c == x && d == x && s.ahead 2 == x && isBlankOrEnd (s.ahead 3)
  if c == endChar then fetchStreamEnd
  else if atLineStart && c == '%' then fetchDirective
  else if atLineStart && triple '-' then fetchDocumentMarker .documentStart
  else if atLineStart && triple '.' then fetchDocumentMarker .documentEnd
  else if c == '[' then fetchFlowStart .flowSequenceStart
  else if c == '{' then fetchFlowStart .flowMappingStart
  else if c == ']' then fetchFlowEnd .flowSequenceEnd
  else if c == '}' then fetchFlowEnd .flowMappingEnd
  else if c == ',' then fetchFlowEntry
  else if c == '-' && isBlankOrEnd d then fetchBlockEntry
  else if c == '?' && (flow || isBlankOrEnd d) then fetchKey
  else if c == ':' && (flow || isBlankOrEnd d) then fetchValue
  else if c == '*' then fetchAnchor true
  else if c == '&' then fetchAnchor false
  else if c == '!' then fetchTag
  else if c == '|' && !flow then fetchBlockScalar true
  else if c == '>' && !flow then fetchBlockScalar false
  else if c == '\'' then fetchQuoted true
  else if c == '"' then fetchQuoted false
  else if !(isBlankOrEnd c || isIndicator c) || (c == '-' && !isBlank d) ||
      (!flow && (c == '?' || c == ':') && !isBlankOrEnd d) then fetchPlain
  else
    fail (some "while scanning for the next token") s.mark
      "found character that cannot start any token"

/-- Whether the token in front may not be handed out yet. -/
def needMore : LexM Bool := do
  if (← get).queue.isEmpty then return true
  dropStaleKeys
  let s ← get
  return s.keys.any fun k => k.possible && k.tokenNumber == s.taken

/-- Reads tokens until the one in front may be handed out. -/
def fetchMore : Nat → LexM Unit
  | 0 => modify fun s => { s with ready := true }
  | n + 1 => do
    if ← needMore then
      fetchNext
      fetchMore n
    else modify fun s => { s with ready := true }

/-- The next token. -/
def peekToken : LexM Token := do
  if !(← get).ready then fetchMore ((← get).text.size + 8)
  match (← get).queue[0]? with
  | some t => pure t
  | none =>
    let m ← mark
    pure { kind := .streamEnd, start := m, stop := m }

/-- Moves past the next token. -/
def takeToken : LexM Unit := modify fun s =>
  { s with ready := false, taken := s.taken + 1, queue := s.queue.extract 1 s.queue.size }

end Lex

end Rollout.Yaml

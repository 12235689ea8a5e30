import Rollout.Pattern.Syntax
import Rollout.Text.Blank
import Rollout.Text.Alphanumeric
/-!
# Reading patterns

The reader walks the pattern once, left to right, keeping two stacks: the groups and
alternations still open, and the bracketed classes still open with the class operations
(`&&`, `--`, `~~`) waiting for their right side. A closing parenthesis or bracket pops its
stack; the end of the pattern must find the group stack empty.

Every loop consumes at least one character per round, so each runs on a budget of the
pattern's length plus one.

Each failure names its kind and the span it blames:

* an unclosed group blames its opening parenthesis, an unopened one the closing parenthesis;
* an unclosed class blames its opening bracket (with a `^` and leading `-` or `]`);
* a repetition without an expression blames the place of the operator;
* a duplicate group name or flag blames the second one and also shows the first.

After reading, no part may be nested deeper than 250 levels.
-/

-- Powers of numbers use the core instance, whatever else is imported.
attribute [local instance(high)] instPowNat

namespace Rollout.Pattern

open Rollout.Text

/-- A concatenation being read, with its span so far. -/
structure Seq where
  span : Span
  items : Array Ast
deriving Inhabited

/-- The tree of a concatenation: empty, its one item, or the items. -/
def Seq.toAst (s : Seq) : Ast :=
  match s.items.toList with
  | [] => .empty s.span
  | [a] => a
  | as => .concat s.span as

/-- Adds an item to a concatenation. -/
def Seq.push (s : Seq) (a : Ast) : Seq := { s with items := s.items.push a }

/-- The tree of an alternation: empty, its one branch, or the branches. -/
def alternationAst (span : Span) (branches : Array Ast) : Ast :=
  match branches.toList with
  | [] => .empty span
  | [a] => a
  | bs => .alternation span bs

/-- An open frame of the group stack. -/
inductive GroupFrame where
  /-- Branches of an alternation read so far. -/
  | alternation (span : Span) (branches : Array Ast)
  /-- An open group: the concatenation around it, its opening, and the whitespace mode to
  restore when it closes. -/
  | group (outer : Seq) (span : Span) (kind : GroupKind) (ignoreSpace : Bool)
deriving Inhabited

/-- The items of a class union being read. -/
structure ItemList where
  span : Span
  items : Array ClassItem
deriving Inhabited

/-- Adds an item to a union, which then spans from its first to its last item. -/
def ItemList.push (u : ItemList) (item : ClassItem) : ItemList :=
  { span := ⟨if u.items.isEmpty then item.span.start else u.span.start, item.span.stop⟩
    items := u.items.push item }

/-- The item of a union: empty, its one item, or the union. -/
def ItemList.toItem (u : ItemList) : ClassItem :=
  match u.items.toList with
  | [] => .empty u.span
  | [i] => i
  | is => .union u.span is

/-- An open frame of the class stack. -/
inductive ClassFrame where
  /-- An open bracket: the union around it, its span so far and whether it is negated. -/
  | opened (outer : ItemList) (span : Span) (negated : Bool)
  /-- An operation waiting for its right side. -/
  | op (kind : SetOp) (lhs : ClassSet)
deriving Inhabited

/-- The state of the reader. -/
structure Scanner where
  chars : Array Char
  pos : Position
  ignoreSpace : Bool
  captures : Nat
  names : List (String × Span)
  groups : List GroupFrame
  classes : List ClassFrame
deriving Inhabited

namespace Scanner

/-- The character at the current place. -/
def char? (s : Scanner) : Option Char := s.chars[s.pos.offset]?

/-- Whether the whole pattern has been read. -/
def isEof (s : Scanner) : Bool := s.chars.size ≤ s.pos.offset

/-- The scanner one character further on. -/
def bumped (s : Scanner) : Scanner :=
  match s.char? with
  | some c => { s with pos := s.pos.advance c }
  | none => s

end Scanner

/-- Reading a pattern: a state, and the error that stops it. -/
abbrev Reader := StateT Scanner (Except SyntaxError)

/-- Stops with an error. -/
def fail {α : Type} (kind : ErrorKind) (span : Span) : Reader α :=
  throw ⟨kind, span, none⟩

/-- The current place. -/
def here : Reader Position := return (← get).pos

/-- The empty span at the current place. -/
def hereSpan : Reader Span := return Span.at (← get).pos

/-- The current character; a NUL at the end, where no caller looks. -/
def current : Reader Char := return (← get).char?.getD (Char.ofNat 0)

/-- Whether the whole pattern has been read. -/
def atEnd : Reader Bool := return (← get).isEof

/-- The span of the current character. -/
def charSpan : Reader Span := do
  let s ← get
  match s.char? with
  | some c => return ⟨s.pos, s.pos.advance c⟩
  | none => return Span.at s.pos

/-- A budget for a loop: the pattern's length plus one. -/
def budget : Reader Nat := return (← get).chars.size + 1

/-- Steps over the current character; whether a character follows. -/
def bump : Reader Bool := do
  modify Scanner.bumped
  return !(← get).isEof

/-- Moves back to a place. -/
def moveTo (p : Position) : Reader Unit := modify fun s => { s with pos := p }

/-- The character after the current one. -/
def peek : Reader (Option Char) := do
  let s ← get
  return s.chars[s.pos.offset + 1]?

/-- Steps over a word if the pattern continues with it. -/
def bumpIf (word : String) : Reader Bool := do
  let s ← get
  let w := word.toList
  if (s.chars.extract s.pos.offset (s.pos.offset + w.length)).toList == w then
    set { s with pos := w.foldl Position.advance s.pos }
    return true
  else return false

/-- Steps over a comment, up to and including the end of its line. -/
def skipComment : Nat → Reader Unit
  | 0 => pure ()
  | n + 1 => do
    match (← get).char? with
    | none => pure ()
    | some c =>
      let _ ← bump
      if c == '\n' then pure () else skipComment n

/-- Steps over blanks and comments. -/
def skipSpace : Nat → Reader Unit
  | 0 => pure ()
  | n + 1 => do
    match (← get).char? with
    | none => pure ()
    | some c =>
      if isBlank c then
        let _ ← bump
        skipSpace n
      else if c == '#' then
        let _ ← bump
        skipComment (← budget)
        skipSpace n
      else pure ()

/-- In whitespace-insensitive mode, steps over blanks and comments. -/
def bumpSpace : Reader Unit := do
  if (← get).ignoreSpace then skipSpace (← budget)

/-- Steps over the current character and then over space; whether a character follows. -/
def bumpAndBumpSpace : Reader Bool := do
  if !(← bump) then return false
  bumpSpace
  return !(← atEnd)

/-- The character after the current one that is not a blank, nor a `#` opening a comment;
without such a character, the one right after the current. -/
def peekSpace : Reader (Option Char) := do
  let s ← get
  if !s.ignoreSpace then return s.chars[s.pos.offset + 1]?
  if s.isEof then return none
  let after := (s.chars.extract (s.pos.offset + 1) s.chars.size).toList
  let rec scan (inComment : Bool) : List Char → Option Char
    | [] => after.head?
    | c :: rest =>
      if isBlank c then scan inComment rest
      else if !inComment && c == '#' then scan true rest
      else some c
  return scan false after

/-! ## Primitives -/

/-- A single-character part of a pattern. -/
inductive Primitive where
  | literal (lit : Literal)
  | assertion (span : Span) (kind : AssertionKind)
  | dot (span : Span)
  | perl (span : Span) (kind : PerlKind) (negated : Bool)
  | unicode (span : Span) (query : UnicodeQuery) (negated : Bool)
deriving Inhabited

/-- The span of a primitive. -/
def Primitive.span : Primitive → Span
  | .literal lit => lit.span
  | .assertion s _ | .dot s | .perl s _ _ | .unicode s _ _ => s

/-- The tree of a primitive. -/
def Primitive.toAst : Primitive → Ast
  | .literal lit => .literal lit
  | .assertion s k => .assertion s k
  | .dot s => .dot s
  | .perl s k n => .perl s k n
  | .unicode s q n => .unicode s q n

/-- A primitive as an item of a class; assertions and the dot are not items. -/
def Primitive.toClassItem : Primitive → Reader ClassItem
  | .literal lit => pure (.literal lit)
  | .perl s k n => pure (.perl s k n)
  | .unicode s q n => pure (.unicode s q n)
  | p => fail .classEscapeInvalid p.span

/-- A primitive as the end of a class range, which must be a literal. -/
def Primitive.toLiteral : Primitive → Reader Literal
  | .literal lit => pure lit
  | p => fail .classRangeLiteral p.span

/-- The characters that are escaped to stand for themselves. -/
def isMetaCharacter (c : Char) : Bool :=
  "\\.+*?()|[]{}^$#&-~".toList.contains c

/-- Whether a character may be escaped to stand for itself: a meta character, or ASCII other
than a letter, a digit, `<` and `>`. -/
def isEscapeable (c : Char) : Bool :=
  isMetaCharacter c ||
    (c.toNat ≤ 0x7F && !c.isAlphanum && c != '<' && c != '>')

/-- Whether a character is a hexadecimal digit. -/
def isHexDigit (c : Char) : Bool :=
  c.isDigit || ('a' ≤ c && c ≤ 'f') || ('A' ≤ c && c ≤ 'F')

/-- The value of hexadecimal digits. -/
def hexValue (ds : List Char) : Nat :=
  ds.foldl (fun acc c =>
    acc * 16 + (if c.isDigit then c.toNat - 48
      else if 'a' ≤ c && c ≤ 'f' then c.toNat - 87 else c.toNat - 55)) 0

/-- The character of a code point, unless it is a surrogate or too large. -/
def scalarOf? (n : Nat) : Option Char :=
  if n < 0xD800 ∨ (0xDFFF < n ∧ n < 0x110000) then some (Char.ofNat n) else none

/-- Reads exactly `count` hexadecimal digits. -/
def hexDigits (count : Nat) (isByte : Bool) : Reader Literal := do
  let start ← here
  let rec go : Nat → Nat → List Char → Reader (List Char)
    | 0, _, acc => pure acc.reverse
    | k + 1, i, acc => do
      if i > 0 then
        if !(← bumpAndBumpSpace) then fail .escapeUnexpectedEof (← hereSpan)
      let c ← current
      if !isHexDigit c then fail .escapeHexInvalidDigit (← charSpan)
      go k (i + 1) (c :: acc)
  let ds ← go count 0 []
  let _ ← bumpAndBumpSpace
  let stop ← here
  match scalarOf? (hexValue ds) with
  | none => fail .escapeHexInvalid ⟨start, stop⟩
  | some c => pure ⟨⟨start, stop⟩, c, isByte⟩

/-- Reads hexadecimal digits in braces. -/
def hexBrace : Reader Literal := do
  let bracePos ← here
  let start := (← charSpan).stop
  let rec go : Nat → List Char → Reader (List Char)
    | 0, acc => pure acc.reverse
    | n + 1, acc => do
      if !(← bumpAndBumpSpace) then return acc.reverse
      let c ← current
      if c == '}' then return acc.reverse
      if !isHexDigit c then fail .escapeHexInvalidDigit (← charSpan)
      go n (c :: acc)
  let ds ← go (← budget) []
  if ← atEnd then fail .escapeUnexpectedEof ⟨bracePos, ← here⟩
  let stop ← here
  let _ ← bumpAndBumpSpace
  if ds.isEmpty then fail .escapeHexEmpty ⟨bracePos, ← here⟩
  let value := hexValue ds
  match (if value < 2 ^ (32 : Nat) then scalarOf? value else none) with
  | none => fail .escapeHexInvalid ⟨start, stop⟩
  | some c => pure ⟨⟨start, ← here⟩, c, false⟩

/-- Reads `\x`, `\u` or `\U` and what follows. -/
def hexEscape : Reader Literal := do
  let c ← current
  let count := if c == 'x' then 2 else if c == 'u' then 4 else 8
  if !(← bumpAndBumpSpace) then fail .escapeUnexpectedEof (← hereSpan)
  if (← current) == '{' then hexBrace else hexDigits count (c == 'x')

/-- Reads `\p` or `\P` and the name after it. -/
def unicodeClass : Reader (Span × UnicodeQuery × Bool) := do
  let negated := (← current) == 'P'
  if !(← bumpAndBumpSpace) then fail .escapeUnexpectedEof (← hereSpan)
  if (← current) == '{' then
    let start := (← charSpan).stop
    let rec go : Nat → List Char → Reader (List Char)
      | 0, acc => pure acc.reverse
      | n + 1, acc => do
        if !(← bumpAndBumpSpace) then return acc.reverse
        let c ← current
        if c == '}' then return acc.reverse
        go n (c :: acc)
    let name ← go (← budget) []
    if ← atEnd then fail .escapeUnexpectedEof (← hereSpan)
    let _ ← bump
    let text := String.ofList name
    let span : Span := ⟨start, ← here⟩
    match text.splitOn "!=" with
    | a :: rest@(_ :: _) => return (span, .byValue a ("!=".intercalate rest), !negated)
    | _ =>
      match text.splitOn ":" with
      | a :: rest@(_ :: _) => return (span, .byValue a (":".intercalate rest), negated)
      | _ =>
        match text.splitOn "=" with
        | a :: rest@(_ :: _) => return (span, .byValue a ("=".intercalate rest), negated)
        | _ => return (span, .named text, negated)
  else
    let start ← here
    let c ← current
    if c == '\\' then fail .unicodeClassInvalid (← charSpan)
    let _ ← bumpAndBumpSpace
    return (⟨start, ← here⟩, .oneLetter c, negated)

/-- After `\b`, reads a special word boundary such as `\b{start}`; nothing when the brace
opens a repetition instead. -/
def specialWordBoundary (wbStart : Position) : Reader (Option AssertionKind) := do
  let start ← here
  if !(← bumpAndBumpSpace) then
    fail .specialWordOrRepetitionUnexpectedEof ⟨wbStart, ← here⟩
  let contentStart ← here
  let valid (c : Char) : Bool := ('A' ≤ c && c ≤ 'Z') || ('a' ≤ c && c ≤ 'z') || c == '-'
  if !valid (← current) then
    moveTo start
    return none
  let rec go : Nat → List Char → Reader (List Char)
    | 0, acc => pure acc.reverse
    | n + 1, acc => do
      if ← atEnd then return acc.reverse
      let c ← current
      if !valid c then return acc.reverse
      let _ ← bumpAndBumpSpace
      go n (c :: acc)
  let name ← go (← budget) []
  if (← atEnd) || (← current) != '}' then fail .specialWordBoundaryUnclosed ⟨start, ← here⟩
  let stop ← here
  let _ ← bump
  match String.ofList name with
  | "start" => return some .wordStart
  | "end" => return some .wordEnd
  | "start-half" => return some .wordStartHalf
  | "end-half" => return some .wordEndHalf
  | _ => fail .specialWordBoundaryUnrecognized ⟨contentStart, stop⟩

/-- Reads an escape sequence, at its backslash. -/
def escape : Reader Primitive := do
  let start ← here
  if !(← bump) then fail .escapeUnexpectedEof ⟨start, ← here⟩
  let c ← current
  if c.isDigit then fail .unsupportedBackreference ⟨start, (← charSpan).stop⟩
  if c == 'x' || c == 'u' || c == 'U' then
    let lit ← hexEscape
    return .literal { lit with span := ⟨start, lit.span.stop⟩ }
  if c == 'p' || c == 'P' then
    let (span, query, negated) ← unicodeClass
    return .unicode ⟨start, span.stop⟩ query negated
  let perl? : Option (PerlKind × Bool) := match c with
    | 'd' => some (.digit, false)
    | 'D' => some (.digit, true)
    | 's' => some (.space, false)
    | 'S' => some (.space, true)
    | 'w' => some (.word, false)
    | 'W' => some (.word, true)
    | _ => none
  let _ ← bump
  let span : Span := ⟨start, ← here⟩
  if let some (kind, negated) := perl? then return .perl span kind negated
  if isEscapeable c then return .literal ⟨span, c, false⟩
  match c with
  | 'a' => return .literal ⟨span, Char.ofNat 7, false⟩
  | 'f' => return .literal ⟨span, Char.ofNat 12, false⟩
  | 't' => return .literal ⟨span, '\t', false⟩
  | 'n' => return .literal ⟨span, '\n', false⟩
  | 'r' => return .literal ⟨span, '\r', false⟩
  | 'v' => return .literal ⟨span, Char.ofNat 11, false⟩
  | 'A' => return .assertion span .startText
  | 'z' => return .assertion span .endText
  | 'b' =>
    if !(← atEnd) && (← current) == '{' then
      match ← specialWordBoundary start with
      | some kind => return .assertion ⟨start, ← here⟩ kind
      | none => return .assertion span .wordBoundary
    else return .assertion span .wordBoundary
  | 'B' => return .assertion span .notWordBoundary
  | '<' => return .assertion span .wordStart
  | '>' => return .assertion span .wordEnd
  | _ => fail .escapeUnrecognized span

/-- Reads one primitive outside a class. -/
def primitive : Reader Primitive := do
  let c ← current
  if c == '\\' then escape
  else
    let span ← charSpan
    let _ ← bump
    match c with
    | '.' => return .dot span
    | '^' => return .assertion span .startLine
    | '$' => return .assertion span .endLine
    | _ => return .literal ⟨span, c, false⟩

/-! ## Groups and flags -/

/-- Reads one flag letter. -/
def flagLetter : Reader Flag := do
  match ← current with
  | 'i' => return .caseInsensitive
  | 'm' => return .multiLine
  | 's' => return .dotMatchesNewLine
  | 'U' => return .swapGreed
  | 'u' => return .unicode
  | 'R' => return .crlf
  | 'x' => return .ignoreWhitespace
  | _ => fail .flagUnrecognized (← charSpan)

/-- Reads the flags of a group or directive, up to its `:` or `)`. -/
def flagItems : Reader Flags := do
  let start ← here
  let rec go : Nat → Array (Span × FlagItem) → Option Span →
      Reader (Array (Span × FlagItem) × Option Span)
    | 0, items, last => pure (items, last)
    | n + 1, items, last => do
      let c ← current
      if c == ':' || c == ')' then return (items, last)
      let span ← charSpan
      let (items, last) ← if c == '-' then do
          match items.find? (·.2 == .negation) with
          | some (first, _) => throw ⟨.flagRepeatedNegation, span, some first⟩
          | none => pure (items.push (span, .negation), some span)
        else do
          let f ← flagLetter
          match items.find? (·.2 == .flag f) with
          | some (first, _) => throw ⟨.flagDuplicate, span, some first⟩
          | none => pure (items.push (span, .flag f), none)
      if !(← bump) then fail .flagUnexpectedEof (← hereSpan)
      go n items last
  let (items, last) ← go (← budget) #[] none
  if let some span := last then fail .flagDanglingNegation span
  return ⟨⟨start, ← here⟩, items.toList⟩

/-- Whether a character may stand in a group name; the first one must be alphabetic or `_`. -/
def isNameChar (c : Char) (first : Bool) : Bool :=
  if first then c == '_' || Text.isAlphabeticChar c
  else c == '_' || c == '.' || c == '[' || c == ']' || Text.isAlphanumericChar c

/-- Reads a group name up to its `>`, and records it. -/
def captureName : Reader String := do
  if ← atEnd then fail .groupNameUnexpectedEof (← hereSpan)
  let start ← here
  let rec go : Nat → Reader Unit
    | 0 => pure ()
    | n + 1 => do
      let c ← current
      if c == '>' then return
      if !isNameChar c ((← here) == start) then fail .groupNameInvalid (← charSpan)
      if !(← bump) then return
      go n
  go (← budget)
  let stop ← here
  if ← atEnd then fail .groupNameUnexpectedEof (← hereSpan)
  let _ ← bump
  let s ← get
  let name := String.ofList (s.chars.extract start.offset stop.offset).toList
  if name.isEmpty then fail .groupNameEmpty ⟨start, start⟩
  let span : Span := ⟨start, stop⟩
  match s.names.find? (·.1 == name) with
  | some (_, first) => throw ⟨.groupNameDuplicate, span, some first⟩
  | none => set { s with names := (name, span) :: s.names }
  return name

/-- The next group number. -/
def nextCapture : Reader Nat := do
  let s ← get
  set { s with captures := s.captures + 1 }
  return s.captures + 1

/-- What an opening parenthesis starts: a flag directive such as `(?i)`, or a group. -/
inductive Opening where
  | directive (span : Span) (flags : Flags)
  | group (span : Span) (kind : GroupKind)

/-- Reads the opening of a group, at its parenthesis. -/
def groupOpening : Reader Opening := do
  let openSpan ← charSpan
  let _ ← bump
  bumpSpace
  let lookAround ← do
    if ← bumpIf "?=" then pure true
    else if ← bumpIf "?!" then pure true
    else if ← bumpIf "?<=" then pure true
    else bumpIf "?<!"
  if lookAround then fail .unsupportedLookAround ⟨openSpan.start, ← here⟩
  let innerSpan ← hereSpan
  let named ← do
    if ← bumpIf "?P<" then pure true else bumpIf "?<"
  if named then
    let index ← nextCapture
    let name ← captureName
    return .group openSpan (.captureName name index)
  else if ← bumpIf "?" then
    if ← atEnd then fail .groupUnclosed (← hereSpan)
    let flags ← flagItems
    let last ← current
    let _ ← bump
    if last == ')' then
      if flags.items.isEmpty then fail .repetitionMissing innerSpan
      return .directive ⟨openSpan.start, ← here⟩ flags
    else return .group openSpan (.nonCapturing flags)
  else
    return .group openSpan (.captureIndex (← nextCapture))

/-- Opens a group, or records a flag directive in the current concatenation. -/
def pushGroup (seq : Seq) : Reader Seq := do
  match ← groupOpening with
  | .directive span flags =>
    if let some v := flags.state .ignoreWhitespace then
      modify fun s => { s with ignoreSpace := v }
    return seq.push (.flags span flags)
  | .group span kind =>
    let s ← get
    let inner := ((kind.flags?).bind (·.state .ignoreWhitespace)).getD s.ignoreSpace
    set { s with groups := .group seq span kind s.ignoreSpace :: s.groups, ignoreSpace := inner }
    return ⟨← hereSpan, #[]⟩

/-- Closes the innermost group, at its closing parenthesis. -/
def popGroup (seq : Seq) : Reader Seq := do
  let s ← get
  let (outer, span, kind, ignore, alt, rest) ← match s.groups with
    | .group outer span kind ig :: rest => pure (outer, span, kind, ig, none, rest)
    | .alternation aspan branches :: .group outer span kind ig :: rest =>
      pure (outer, span, kind, ig, some (aspan, branches), rest)
    | _ => fail .groupUnopened (← charSpan)
  set { s with groups := rest, ignoreSpace := ignore }
  let stop ← here
  let seq := { seq with span := ⟨seq.span.start, stop⟩ }
  let _ ← bump
  let groupSpan : Span := ⟨span.start, ← here⟩
  let body := match alt with
    | some (aspan, branches) => alternationAst ⟨aspan.start, stop⟩ (branches.push seq.toAst)
    | none => seq.toAst
  return outer.push (.group groupSpan kind body)

/-- Ends a branch of an alternation, at its `|`. -/
def pushAlternate (seq : Seq) : Reader Seq := do
  let stop ← here
  let seq := { seq with span := ⟨seq.span.start, stop⟩ }
  modify fun s => { s with groups := match s.groups with
    | .alternation span branches :: rest => .alternation span (branches.push seq.toAst) :: rest
    | gs => .alternation ⟨seq.span.start, stop⟩ #[seq.toAst] :: gs }
  let _ ← bump
  return ⟨← hereSpan, #[]⟩

/-- Ends the pattern: the group stack must hold no open group. -/
def finish (seq : Seq) : Reader Ast := do
  let stop ← here
  let seq := { seq with span := ⟨seq.span.start, stop⟩ }
  match (← get).groups with
  | [] => return seq.toAst
  | .alternation span branches :: rest =>
    let ast := alternationAst ⟨span.start, stop⟩ (branches.push seq.toAst)
    match rest with
    | .group _ gspan _ _ :: _ => fail .groupUnclosed gspan
    | _ => return ast
  | .group _ gspan _ _ :: _ => fail .groupUnclosed gspan

/-! ## Repetitions -/

/-- The last item of a concatenation, which a repetition applies to. -/
def repeated (seq : Seq) : Reader Ast := do
  match seq.items.back? with
  | none | some (.empty _) | some (.flags _ _) => fail .repetitionMissing (← hereSpan)
  | some a => pure a

/-- Applies `?`, `*` or `+` to the last item; a `?` after it makes the repetition lazy. -/
def simpleRepetition (seq : Seq) (min : Nat) (max : Option Nat) : Reader Seq := do
  let ast ← repeated seq
  let mut greedy := true
  if ← bump then
    if (← current) == '?' then
      greedy := false
      let _ ← bump
  return { seq with
    items := seq.items.pop.push (.repetition ⟨ast.span.start, ← here⟩ min max greedy ast) }

/-- Reads the number of a counted repetition, with blanks around it. -/
def decimal : Reader Nat := do
  let rec skip : Nat → Reader Unit
    | 0 => pure ()
    | n + 1 => do
      if ← atEnd then return
      if !isBlank (← current) then return
      let _ ← bump
      skip n
  let rec skipSpaced : Nat → Reader Unit
    | 0 => pure ()
    | n + 1 => do
      if ← atEnd then return
      if !isBlank (← current) then return
      let _ ← bumpAndBumpSpace
      skipSpaced n
  let rec digits : Nat → List Char → Reader (List Char)
    | 0, acc => pure acc.reverse
    | n + 1, acc => do
      if ← atEnd then return acc.reverse
      let c ← current
      if !c.isDigit then return acc.reverse
      let _ ← bumpAndBumpSpace
      digits n (c :: acc)
  skip (← budget)
  let start ← here
  let ds ← digits (← budget) []
  let span : Span := ⟨start, ← here⟩
  skipSpaced (← budget)
  if ds.isEmpty then fail .repetitionCountDecimalEmpty span
  let n := ds.foldl (fun acc c => acc * 10 + (c.toNat - 48)) 0
  if (2 : Nat) ^ (32 : Nat) ≤ n then fail .decimalInvalid span
  return n

/-- Applies a counted repetition `{n}`, `{n,}` or `{n,m}` to the last item. -/
def countedRepetition (seq : Seq) : Reader Seq := do
  let start ← here
  let ast ← repeated seq
  if !(← bumpAndBumpSpace) then fail .repetitionCountUnclosed ⟨start, ← here⟩
  let lo ← decimal
  if ← atEnd then fail .repetitionCountUnclosed ⟨start, ← here⟩
  let max ← do
    if (← current) == ',' then
      if !(← bumpAndBumpSpace) then fail .repetitionCountUnclosed ⟨start, ← here⟩
      if (← current) != '}' then pure (some (← decimal)) else pure none
    else pure (some lo)
  if (← atEnd) || (← current) != '}' then fail .repetitionCountUnclosed ⟨start, ← here⟩
  let mut greedy := true
  if ← bumpAndBumpSpace then
    if (← current) == '?' then
      greedy := false
      let _ ← bump
  let opSpan : Span := ⟨start, ← here⟩
  if let some hi := max then
    if hi < lo then fail .repetitionCountInvalid opSpan
  return { seq with
    items := seq.items.pop.push (.repetition ⟨ast.span.start, ← here⟩ lo max greedy ast) }

/-! ## Bracketed classes -/

/-- The error of an unclosed class: the innermost open bracket. -/
def unclosedClass : Reader SyntaxError := do
  let open? := (← get).classes.findSome? fun
    | .opened _ span _ => some span
    | .op _ _ => none
  return ⟨.classUnclosed, open?.getD default, none⟩

/-- Reads one item in a class: an escape or a character. -/
def classPrimitive : Reader Primitive := do
  if (← current) == '\\' then escape
  else
    let span ← charSpan
    let c ← current
    let _ ← bump
    return .literal ⟨span, c, false⟩

/-- Reads an item of a class, or a range `a-z`. A `-` before `]` or `-` is no range. -/
def classRange : Reader ClassItem := do
  let first ← classPrimitive
  bumpSpace
  if ← atEnd then throw (← unclosedClass)
  let next ← peekSpace
  if (← current) != '-' || next == some ']' || next == some '-' then
    return ← first.toClassItem
  if !(← bumpAndBumpSpace) then throw (← unclosedClass)
  let second ← classPrimitive
  let span : Span := ⟨first.span.start, second.span.stop⟩
  let lo ← first.toLiteral
  let hi ← second.toLiteral
  if hi.c < lo.c then fail .classRangeInvalid span
  return .range span lo hi

/-- Reads an ASCII class such as `[:alpha:]`, or moves back and gives nothing. -/
def asciiClass : Reader (Option ClassItem) := do
  let start ← here
  let back : Reader (Option ClassItem) := do moveTo start; pure none
  if !(← bump) then return ← back
  if (← current) != ':' then return ← back
  if !(← bump) then return ← back
  let negated := (← current) == '^'
  if negated then
    if !(← bump) then return ← back
  let nameStart := (← here).offset
  let rec go : Nat → Reader Unit
    | 0 => pure ()
    | n + 1 => do
      if (← current) == ':' then return
      if !(← bump) then return
      go n
  go (← budget)
  if ← atEnd then return ← back
  let s ← get
  let name := String.ofList (s.chars.extract nameStart s.pos.offset).toList
  if !(← bumpIf ":]") then return ← back
  match AsciiKind.ofName? name with
  | none => back
  | some kind => return some (.ascii ⟨start, ← here⟩ kind negated)

/-- Reads the opening of a class: `[`, an optional `^`, and leading `-` or `]` taken
literally. -/
def classOpening : Reader (Span × Bool × ItemList) := do
  let start ← here
  if !(← bumpAndBumpSpace) then fail .classUnclosed ⟨start, ← here⟩
  let negated ← do
    if (← current) != '^' then pure false
    else
      if !(← bumpAndBumpSpace) then fail .classUnclosed ⟨start, ← here⟩
      pure true
  let rec dashes : Nat → ItemList → Reader ItemList
    | 0, u => pure u
    | n + 1, u => do
      if (← current) != '-' then return u
      let u := u.push (.literal ⟨← charSpan, '-', false⟩)
      if !(← bumpAndBumpSpace) then fail .classUnclosed ⟨start, start⟩
      dashes n u
  let u ← dashes (← budget) ⟨← hereSpan, #[]⟩
  let u ← do
    if u.items.isEmpty && (← current) == ']' then
      let u := u.push (.literal ⟨← charSpan, ']', false⟩)
      if !(← bumpAndBumpSpace) then fail .classUnclosed ⟨start, ← here⟩
      pure u
    else pure u
  return (⟨start, ← here⟩, negated, u)

/-- Opens a bracket inside or at the start of a class. -/
def pushClassOpen (outer : ItemList) : Reader ItemList := do
  let (span, negated, inner) ← classOpening
  modify fun s => { s with classes := .opened outer span negated :: s.classes }
  return inner

/-- Completes a waiting class operation with its right side. -/
def popClassOp (rhs : ClassSet) : Reader ClassSet := do
  match (← get).classes with
  | .op kind lhs :: rest =>
    modify fun s => { s with classes := rest }
    return .op ⟨lhs.span.start, rhs.span.stop⟩ kind lhs rhs
  | _ => return rhs

/-- Starts a class operation, at its two-character operator already read. -/
def pushClassOp (kind : SetOp) (lhs : ItemList) : Reader ItemList := do
  let left ← popClassOp (.item lhs.toItem)
  modify fun s => { s with classes := .op kind left :: s.classes }
  return ⟨← hereSpan, #[]⟩

/-- Closes the innermost bracket, at its `]`: the class read, or the outer union it joins. -/
def popClass (inner : ItemList) : Reader (Sum ItemList Ast) := do
  let set ← popClassOp (.item inner.toItem)
  match (← get).classes with
  | .opened outer span negated :: rest =>
    modify fun s => { s with classes := rest }
    let _ ← bump
    let full : Span := ⟨span.start, ← here⟩
    if rest.isEmpty then return .inr (.bracketed full negated set)
    else return .inl (outer.push (.bracketed full negated set))
  | _ => throw (← unclosedClass)

/-- Reads a bracketed class, at its `[`. -/
def bracketedClass : Reader Ast := do
  let rec go : Nat → ItemList → Reader Ast
    | 0, _ => throw ⟨.classUnclosed, default, none⟩
    | n + 1, u => do
      bumpSpace
      if ← atEnd then throw (← unclosedClass)
      let c ← current
      let next ← peek
      if c == '[' then
        if !(← get).classes.isEmpty then
          if let some item ← asciiClass then
            return ← go n (u.push item)
        go n (← pushClassOpen u)
      else if c == ']' then
        match ← popClass u with
        | .inl outer => go n outer
        | .inr ast => return ast
      else if c == '&' && next == some '&' then
        let _ ← bumpIf "&&"
        go n (← pushClassOp .intersection u)
      else if c == '-' && next == some '-' then
        let _ ← bumpIf "--"
        go n (← pushClassOp .difference u)
      else if c == '~' && next == some '~' then
        let _ ← bumpIf "~~"
        go n (← pushClassOp .symmetricDifference u)
      else go n (u.push (← classRange))
  go (← budget) ⟨← hereSpan, #[]⟩

/-! ## The whole pattern -/

/-- Reads the pattern to its end. -/
def readAll : Reader Ast := do
  let rec go : Nat → Seq → Reader Seq
    | 0, seq => pure seq
    | n + 1, seq => do
      bumpSpace
      if ← atEnd then return seq
      let seq ← match ← current with
        | '(' => pushGroup seq
        | ')' => popGroup seq
        | '|' => pushAlternate seq
        | '[' => do pure (seq.push (← bracketedClass))
        | '?' => simpleRepetition seq 0 (some 1)
        | '*' => simpleRepetition seq 0 none
        | '+' => simpleRepetition seq 1 none
        | '{' => countedRepetition seq
        | _ => do pure (seq.push (← primitive).toAst)
      go n seq
  let seq ← go (← budget) ⟨← hereSpan, #[]⟩
  finish seq

/-- The deepest nesting allowed. -/
def nestLimit : Nat := 250

/-- One level deeper: an error at the span if that passes the limit. -/
def enter (depth : Nat) (span : Span) : Except SyntaxError Unit :=
  if nestLimit < depth + 1 then .error ⟨.nestLimitExceeded nestLimit, span, none⟩ else .ok ()

mutual
/-- Checks the nesting of a tree, first offender first. -/
def checkAst (depth : Nat) : Ast → Except SyntaxError Unit
  | .repetition span _ _ _ body => do enter depth span; checkAst (depth + 1) body
  | .group span _ body => do enter depth span; checkAst (depth + 1) body
  | .alternation span branches => do enter depth span; checkAsts (depth + 1) branches
  | .concat span items => do enter depth span; checkAsts (depth + 1) items
  | .bracketed span _ set => do enter depth span; checkSet (depth + 1) set
  | _ => .ok ()

/-- Checks the nesting of several trees. -/
def checkAsts (depth : Nat) : List Ast → Except SyntaxError Unit
  | [] => .ok ()
  | a :: rest => do checkAst depth a; checkAsts depth rest

/-- Checks the nesting of class contents. -/
def checkSet (depth : Nat) : ClassSet → Except SyntaxError Unit
  | .item i => checkItem depth i
  | .op span _ lhs rhs => do enter depth span; checkSet (depth + 1) lhs; checkSet (depth + 1) rhs

/-- Checks the nesting of a class item. -/
def checkItem (depth : Nat) : ClassItem → Except SyntaxError Unit
  | .bracketed span _ set => do enter depth span; checkSet (depth + 1) set
  | .union span items => do enter depth span; checkItems (depth + 1) items
  | _ => .ok ()

/-- Checks the nesting of several class items. -/
def checkItems (depth : Nat) : List ClassItem → Except SyntaxError Unit
  | [] => .ok ()
  | i :: rest => do checkItem depth i; checkItems depth rest
end

/-- Reads a pattern into its tree. -/
def Ast.parse (pattern : String) : Except SyntaxError Ast := do
  let start : Scanner :=
    { chars := pattern.toList.toArray, pos := .origin, ignoreSpace := false, captures := 0,
      names := [], groups := [], classes := [] }
  let (ast, _) ← readAll.run start
  checkAst 0 ast
  return ast

end Rollout.Pattern

import Rollout.Yaml.Token.Lexer
/-!
# Scanning scalars, anchors, tags and directives

Each scanner starts at the first character of its token and returns the token with its marks.

* **Plain scalars** end before `: `, ` #`, a line that is less indented than the enclosing
  block collection, a document marker, and in flow context before `,[]{}`.
* **Quoted scalars** end at their closing quote. In single quotes a quote is written twice;
  double quotes know backslash escapes, including `\x`, `\u` and `\U` with two, four and
  eight hexadecimal digits, and a backslash before a line break joins the lines.
* **Block scalars** (`|` literal, `>` folded) take the lines indented at least as deep as
  their first line, or as their indentation indicator says; the chomping indicator `-` drops
  the final line break and `+` keeps the trailing empty lines too.

Line folding is the same in all multi-line scalars: a single line break between two lines
becomes a space, and each further empty line stays as a line break (`Gap.fold`). Blanks at the
end of a line and the indentation of the next are dropped.
-/

namespace Rollout.Yaml

/-- White space met between two runs of a scalar's text, waiting to be joined. -/
structure Gap where
  /-- Blanks read before any line break. -/
  blanks : String := ""
  /-- Whether a line break was met. -/
  broken : Bool := false
  /-- The first line break. -/
  firstBreak : String := ""
  /-- The line breaks after the first. -/
  moreBreaks : String := ""
deriving Inhabited

namespace Gap

/-- The text a gap stands for: its blanks when it holds no line break; else a single line
feed folds into a space, a line feed followed by more breaks into just those breaks, and any
other break stays with the breaks after it. -/
def fold (g : Gap) : String :=
  if g.broken then
    if g.firstBreak.startsWith "\n" then
      if g.moreBreaks.isEmpty then " " else g.moreBreaks
    else g.firstBreak ++ g.moreBreaks
  else g.blanks

/-- Whether the gap holds anything. -/
def isEmpty (g : Gap) : Bool := !g.broken && g.blanks.isEmpty

theorem fold_single_break : ({ broken := true, firstBreak := "\n" } : Gap).fold = " " := by
  decide +kernel

end Gap

namespace Lex

/-- Reads the blanks and line breaks after a scalar's text into a gap. In a plain scalar
(`tabCheck` given, with the scalar's start and least indentation) a tab in the indentation
after a line break is an error. -/
def gapOf (tabCheck : Option (Mark × Int)) (g : Gap) : Nat → LexM Gap
  | 0 => pure g
  | n + 1 => do
    let c ← peek
    if isBlank c then
      match tabCheck with
      | some (start, indent) =>
        if g.broken && ((← mark).column : Int) < indent && c == '\t' then
          fail (some "while scanning a plain scalar") start
            "found a tab character that violates indentation"
      | none => pure ()
      if g.broken then
        skip
        gapOf tabCheck g n
      else
        let blanks ← read g.blanks
        gapOf tabCheck { g with blanks } n
    else if isBreak c then
      if g.broken then
        let moreBreaks ← readLine g.moreBreaks
        gapOf tabCheck { g with moreBreaks } n
      else
        let firstBreak ← readLine ""
        gapOf tabCheck { g with blanks := "", broken := true, firstBreak } n
    else pure g

/-! ## Plain scalars -/

/-- Whether a character ends a plain scalar in flow context. -/
def isFlowIndicator (c : Char) : Bool := c == ',' || c == '[' || c == ']' || c == '{' || c == '}'

/-- Reads the characters of one line of a plain scalar, joining the gap before the first. -/
def plainRun (start : Mark) (flow : Bool) (text : String) (g : Gap) (stop : Mark) :
    Nat → LexM (String × Gap × Mark)
  | 0 => pure (text, g, stop)
  | n + 1 => do
    let c ← peek
    let d ← peekAt 1
    if isBlankOrEnd c then return (text, g, stop)
    if flow && c == ':' && (d == '?' || isFlowIndicator d) then
      fail (some "while scanning a plain scalar") start "found unexpected ':'"
    if (c == ':' && isBlankOrEnd d) || (flow && isFlowIndicator c) then return (text, g, stop)
    let text := if g.isEmpty then text else text ++ g.fold
    let text ← read text
    plainRun start flow text {} (← mark) n

/-- Reads the lines of a plain scalar. -/
def plainLines (start : Mark) (indent : Int) (text : String) (g : Gap) (stop : Mark) :
    Nat → LexM (String × Gap × Mark)
  | 0 => pure (text, g, stop)
  | n + 1 => do
    if ← atDocumentMarker then return (text, g, stop)
    if (← peek) == '#' then return (text, g, stop)
    let flow := (← get).flowLevel != 0
    let (text, g, stop) ← plainRun start flow text g stop (← budget)
    let c ← peek
    if !(isBlank c || isBreak c) then return (text, g, stop)
    let g ← gapOf (some (start, indent)) g (← budget)
    if !flow && ((← mark).column : Int) < indent then return (text, g, stop)
    plainLines start indent text g stop n

/-- Scans a plain scalar. After one that spans lines, a simple key may start. -/
def plainScalar : LexM Token := do
  let s ← get
  let start := s.mark
  let (text, g, stop) ← plainLines start (s.indent + 1) "" {} start (← budget)
  if g.broken then allowKey true
  return { kind := .scalar text .plain, start, stop }

/-! ## Quoted scalars -/

/-- The character of a one-letter escape in double quotes. -/
def simpleEscape (c : Char) : Option Char :=
  match c with
  | '0' => some '\x00'
  | 'a' => some '\x07'
  | 'b' => some '\x08'
  | 't' => some '\t'
  | '\t' => some '\t'
  | 'n' => some '\n'
  | 'v' => some '\x0b'
  | 'f' => some '\x0c'
  | 'r' => some '\r'
  | 'e' => some '\x1b'
  | ' ' => some ' '
  | '"' => some '"'
  | '/' => some '/'
  | '\'' => some '\''
  | '\\' => some '\\'
  | 'N' => some '\x85'
  | '_' => some '\xa0'
  | 'L' => some '\u2028'
  | 'P' => some '\u2029'
  | _ => none

/-- The number of hexadecimal digits after an escape letter that takes them. -/
def codeLength (c : Char) : Nat :=
  match c with
  | 'x' => 2
  | 'u' => 4
  | 'U' => 8
  | _ => 0

/-- The value of the next `k` hexadecimal digits, none if one is not a digit. -/
def hexAhead (s : Lexer) (k : Nat) : Option Nat :=
  (List.range k).foldl (fun acc i => acc.bind fun v =>
    let c := s.ahead i
    if isHex c then some (v * 16 + hexValue c) else none) (some 0)

/-- Reads an escape in double quotes, its backslash next. -/
def escape (start : Mark) (text : String) : LexM String := do
  let e ← peekAt 1
  let context := some "while parsing a quoted scalar"
  match simpleEscape e with
  | some c =>
    skip
    skip
    return text.push c
  | none =>
    let k := codeLength e
    if k == 0 then fail context start "found unknown escape character"
    skip
    skip
    match hexAhead (← get) k with
    | none => fail context start "did not find expected hexadecimal number"
    | some v =>
      if (0xD800 ≤ v && v ≤ 0xDFFF) || 0x10FFFF < v then
        fail context start "found invalid Unicode character escape code"
      for _ in List.range k do skip
      return text.push (Char.ofNat v)

/-- Reads the characters of one line of a quoted scalar; tells whether a backslash joined the
line to the next. -/
def quotedRun (start : Mark) (single : Bool) (text : String) :
    Nat → LexM (String × Bool)
  | 0 => pure (text, false)
  | n + 1 => do
    let c ← peek
    let d ← peekAt 1
    if isBlankOrEnd c then return (text, false)
    if single && c == '\'' && d == '\'' then
      skip
      skip
      quotedRun start single (text.push '\'') n
    else if c == (if single then '\'' else '"') then return (text, false)
    else if !single && c == '\\' && isBreak d then
      skip
      skipLine
      return (text, true)
    else if !single && c == '\\' then
      let text ← escape start text
      quotedRun start single text n
    else
      let text ← read text
      quotedRun start single text n

/-- Reads the lines of a quoted scalar up to its closing quote. -/
def quotedLines (start : Mark) (single : Bool) (text : String) : Nat → LexM String
  | 0 => pure text
  | n + 1 => do
    if ← atDocumentMarker then
      fail (some "while scanning a quoted scalar") start "found unexpected document indicator"
    if (← peek) == endChar then
      fail (some "while scanning a quoted scalar") start "found unexpected end of stream"
    let (text, joined) ← quotedRun start single text (← budget)
    if (← peek) == (if single then '\'' else '"') then return text
    let g ← gapOf none { broken := joined } (← budget)
    quotedLines start single (text ++ g.fold) n

/-- Scans a quoted scalar, its opening quote next. -/
def quotedScalar (single : Bool) : LexM Token := do
  let start ← mark
  skip
  let text ← quotedLines start single "" (← budget)
  skip
  return { kind := .scalar text (if single then .singleQuoted else .doubleQuoted), start,
           stop := ← mark }

/-! ## Block scalars -/

/-- Reads the empty lines and the indentation before a line of a block scalar. With no
indentation fixed yet (zero), the deepest of these lines fixes it, at least one past the
enclosing block and at least one. -/
def blockBreaks (start : Mark) (indent : Nat) (breaks : String) (stop : Mark) :
    LexM (Nat × String × Mark) := do
  let rec go (deepest : Nat) (breaks : String) (stop : Mark) :
      Nat → LexM (Nat × String × Mark)
    | 0 => pure (deepest, breaks, stop)
    | n + 1 => do
      skipIndent n
      let col := (← mark).column
      let deepest := max deepest col
      let c ← peek
      if (indent == 0 || col < indent) && c == '\t' then
        fail (some "while scanning a block scalar") start
          "found a tab character where an indentation space is expected"
      if !isBreak c then return (deepest, breaks, stop)
      let breaks ← readLine breaks
      go deepest breaks (← mark) n
  let (deepest, breaks, stop) ← go 0 breaks stop (← budget)
  if indent != 0 then return (indent, breaks, stop)
  let outer := ((← get).indent + 1).toNat
  return (max (max deepest outer) 1, breaks, stop)
where
  /-- Moves over indentation spaces up to the fixed indentation. -/
  skipIndent : Nat → LexM Unit
    | 0 => pure ()
    | n + 1 => do
      if (indent == 0 || (← mark).column < indent) && (← peek) == ' ' then
        skip
        skipIndent n
      else pure ()

/-- Reads the lines of a block scalar at its indentation. -/
def blockLines (start : Mark) (literal : Bool) (indent : Nat) (text leading trailing : String)
    (leadingBlank : Bool) (stop : Mark) : Nat → LexM (String × String × String × Mark)
  | 0 => pure (text, leading, trailing, stop)
  | n + 1 => do
    let c ← peek
    if (← mark).column != indent || c == endChar then return (text, leading, trailing, stop)
    let trailingBlank := isBlank c
    let text :=
      if !literal && leading.startsWith "\n" && !leadingBlank && !trailingBlank then
        if trailing.isEmpty then text.push ' ' else text
      else text ++ leading
    let text := text ++ trailing
    let leadingBlank := isBlank c
    let text ← readWhile (fun c => !isBreakOrEnd c) text (← budget)
    let leading ← readLine ""
    let (_, trailing, stop) ← blockBreaks start indent "" stop
    blockLines start literal indent text leading trailing leadingBlank stop n

/-- Reads a block scalar's chomping indicator, `+1` to keep, `-1` to strip, `0` to clip. -/
def chompingOf (c : Char) : Int := if c == '+' then 1 else if c == '-' then -1 else 0

/-- Scans a block scalar, its indicator (`|` when `literal`, else `>`) next. -/
def blockScalar (literal : Bool) : LexM Token := do
  let start ← mark
  let context := some "while scanning a block scalar"
  skip
  let c ← peek
  let (chomping, increment) ← do
    if c == '+' || c == '-' then
      skip
      let d ← peek
      if isDigit d then
        if d == '0' then fail context start "found an indentation indicator equal to 0"
        skip
        pure (chompingOf c, d.toNat - '0'.toNat)
      else pure (chompingOf c, 0)
    else if isDigit c then
      if c == '0' then fail context start "found an indentation indicator equal to 0"
      skip
      let d ← peek
      if d == '+' || d == '-' then
        skip
        pure (chompingOf d, c.toNat - '0'.toNat)
      else pure (0, c.toNat - '0'.toNat)
    else pure (0, 0)
  skipWhile isBlank (← budget)
  skipComment
  if !isBreakOrEnd (← peek) then fail context start "did not find expected comment or line break"
  if isBreak (← peek) then skipLine
  let stop ← mark
  let s ← get
  let indent := if increment == 0 then 0
    else if s.indent ≥ 0 then (s.indent + increment).toNat else increment
  let (indent, trailing, stop) ← blockBreaks start indent "" stop
  let (text, leading, trailing, stop) ←
    blockLines start literal indent "" "" trailing false stop (← budget)
  let text := if chomping != -1 then text ++ leading else text
  let text := if chomping == 1 then text ++ trailing else text
  return { kind := .scalar text (if literal then .literal else .folded), start, stop }

/-! ## Anchors and aliases -/

/-- Whether a character may follow an anchor or alias name. -/
def endsName (c : Char) : Bool :=
  isBlankOrEnd c || c == '?' || c == ':' || c == ',' || c == ']' || c == '}' || c == '%' ||
    c == '@' || c == '\x60'

/-- Scans an anchor (`&name`) or an alias (`*name`). -/
def anchor (isAlias : Bool) : LexM Token := do
  let start ← mark
  skip
  let name ← readWhile isNameChar "" (← budget)
  let stop ← mark
  if name.isEmpty || !endsName (← peek) then
    fail (some (if isAlias then "while scanning an alias" else "while scanning an anchor")) start
      "did not find expected alphabetic or numeric character"
  return { kind := if isAlias then .alias name else .anchor name, start, stop }

/-! ## Tags -/

/-- Reads a tag handle: `!`, `!!` or `!name!`; in a tag the handle may stop after `!` and a
name, which then belongs to the suffix. -/
def tagHandle (directive : Bool) (start : Mark) : LexM String := do
  if (← peek) != '!' then
    fail (some (if directive then "while scanning a tag directive" else "while scanning a tag"))
      start "did not find expected '!'"
  let h ← read ""
  let h ← readWhile isNameChar h (← budget)
  if (← peek) == '!' then read h
  else if directive && h != "!" then
    fail (some "while parsing a tag directive") start "did not find expected '!'"
  else pure h

/-- A character of a tag's URI; in a verbatim tag also `,[]`. -/
def isUriChar (verbatim : Bool) (c : Char) : Bool :=
  isNameChar c || ";/?:@&=+$.%!~*'()".contains c || (verbatim && (c == ',' || c == '[' || c == ']'))

/-- The number of bytes of a UTF-8 sequence that starts with this byte, zero for a byte that
cannot start one. -/
def utf8Width (b : Nat) : Nat :=
  if b < 0x80 then 1 else if b / 32 == 6 then 2 else if b / 16 == 14 then 3
  else if b / 8 == 30 then 4 else 0

/-- Reads the `%XX` escapes of one UTF-8 character in a tag. -/
def uriEscapes (directive : Bool) (start : Mark) (bytes : ByteArray) :
    LexM ByteArray := do
  let context := some (if directive then "while parsing a %TAG directive" else "while parsing a tag")
  let rec go (width : Nat) (bytes : ByteArray) : Nat → LexM ByteArray
    | 0 => pure bytes
    | n + 1 => do
      let s ← get
      if !(s.ahead 0 == '%' && isHex (s.ahead 1) && isHex (s.ahead 2)) then
        fail context start "did not find URI escaped octet"
      let octet := hexValue (s.ahead 1) * 16 + hexValue (s.ahead 2)
      let width ← if width == 0 then do
          let w := utf8Width octet
          if w == 0 then fail context start "found an incorrect leading UTF-8 octet"
          pure w
        else do
          if octet / 64 != 2 then fail context start "found an incorrect trailing UTF-8 octet"
          pure width
      skip
      skip
      skip
      let bytes := bytes.push octet.toUInt8
      if width ≤ 1 then pure bytes else go (width - 1) bytes n
  go 0 bytes 4

/-- Reads a tag's URI, after the text `head` (a handle that turned out to be part of it, whose
`!` is dropped). An empty URI is an error. -/
def tagUri (verbatim directive : Bool) (head : String) (start : Mark) : LexM String := do
  let rec go (text : String) (count : Nat) : Nat → LexM (String × Nat)
    | 0 => pure (text, count)
    | n + 1 => do
      let c ← peek
      if !isUriChar verbatim c then return (text, count)
      if c == '%' then
        let bytes ← uriEscapes directive start ByteArray.empty
        let decoded := (String.fromUTF8? bytes).getD ""
        go (text ++ decoded) (count + 1) n
      else
        let text ← read text
        go text (count + 1) n
  let (text, count) ← go (head.drop 1).toString head.length (← budget)
  if count == 0 then
    fail (some (if directive then "while parsing a %TAG directive" else "while parsing a tag"))
      start "did not find expected tag URI"
  return text

/-- Scans a tag: verbatim `!<uri>`, `!handle!suffix`, `!suffix`, or `!` alone. -/
def tag : LexM Token := do
  let start ← mark
  let context := some "while scanning a tag"
  let (handle, suffix) ← do
    if (← peekAt 1) == '<' then
      skip
      skip
      let suffix ← tagUri true false "" start
      if (← peek) != '>' then fail context start "did not find the expected '>'"
      skip
      pure ("", suffix)
    else
      let h ← tagHandle false start
      if 1 < h.length && h.endsWith "!" then
        let suffix ← tagUri false false "" start
        pure (h, suffix)
      else
        let suffix ← tagUri false false h start
        if suffix.isEmpty then pure ("", "!") else pure ("!", suffix)
  let c ← peek
  if !isBlankOrEnd c then
    if (← get).flowLevel == 0 || c != ',' then
      fail context start "did not find expected whitespace or line break"
  return { kind := .tag handle suffix, start, stop := ← mark }

/-! ## Directives -/

/-- Reads a version number of a `%YAML` directive: one to nine digits. -/
def versionNumber (start : Mark) : LexM Nat := do
  let context := some "while scanning a %YAML directive"
  let rec go (value count : Nat) : Nat → LexM (Nat × Nat)
    | 0 => pure (value, count)
    | n + 1 => do
      let c ← peek
      if !isDigit c then return (value, count)
      if count + 1 > 9 then fail context start "found extremely long version number"
      skip
      go (value * 10 + (c.toNat - '0'.toNat)) (count + 1) n
  let (value, count) ← go 0 0 (← budget)
  if count == 0 then fail context start "did not find expected version number"
  return value

/-- Scans a directive, its `%` next: `%YAML major.minor` or `%TAG handle prefix`. Other
directives are errors. -/
def directive : LexM Token := do
  let start ← mark
  let context := some "while scanning a directive"
  skip
  let name ← readWhile isNameChar "" (← budget)
  if name.isEmpty then fail context start "could not find expected directive name"
  if !isBlankOrEnd (← peek) then fail context start "found unexpected non-alphabetical character"
  let kind ← do
    if name == "YAML" then
      skipWhile isBlank (← budget)
      let major ← versionNumber start
      if (← peek) != '.' then
        fail (some "while scanning a %YAML directive") start
          "did not find expected digit or '.' character"
      skip
      let minor ← versionNumber start
      pure (TokenKind.versionDirective major minor)
    else if name == "TAG" then
      skipWhile isBlank (← budget)
      let handle ← tagHandle true start
      if !isBlank (← peek) then
        fail (some "while scanning a %TAG directive") start "did not find expected whitespace"
      skipWhile isBlank (← budget)
      let pre ← tagUri true true "" start
      if !isBlankOrEnd (← peek) then
        fail (some "while scanning a %TAG directive") start
          "did not find expected whitespace or line break"
      pure (TokenKind.tagDirective handle pre)
    else fail context start "found unknown directive name"
  let stop ← mark
  skipWhile isBlank (← budget)
  skipComment
  if !isBreakOrEnd (← peek) then fail context start "did not find expected comment or line break"
  if isBreak (← peek) then skipLine
  return { kind, start, stop }

end Lex

end Rollout.Yaml

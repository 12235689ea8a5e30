import Rollout.Url.Basic
/-!
# Reading locations

A location is read from text the way web browsers read an address typed in full, with no
location to be relative to:

* controls and spaces at both ends are dropped, and tabs and line breaks everywhere;
* the scheme is a letter followed by letters, digits, `+`, `-` and `.`, ended by a colon, and is
  kept in lower case; text without a scheme cannot be read;
* after a special scheme any slashes and backslashes are skipped and the authority follows; after
  another scheme the authority follows `//`, a path follows `/`, and anything else is a path taken
  whole;
* the authority ends at a slash, `?` or `#` (or a backslash in a special scheme); its last `@`
  ends the user name and password, and a colon outside brackets starts the port, digits only,
  at most 65535;
* in the path of a special scheme a backslash separates segments like a slash; the segment `.`
  is dropped and `..` drops the segment before it (also when written with `%2e`), and a path
  ending in such a segment ends with an empty one;
* a `file` location has an empty host unless one is named after `//`, and `localhost` is
  empty too; a first segment of a letter and `:` or `|` is a drive, written with `:`, and is
  not dropped by `..`.

* `parse_no_scheme`: an address without a scheme cannot be read.
* `readPort_default`: port 80 of `http` is its default, and is not kept.
-/

namespace Rollout.Url

/-- Drops controls and spaces at both ends, and tabs and line breaks everywhere. -/
def clean (cs : List Char) : List Char :=
  let trimmed := ((cs.dropWhile (·.toNat ≤ 0x20)).reverse.dropWhile (·.toNat ≤ 0x20)).reverse
  trimmed.filter fun c => c != '\t' && c != '\n' && c != '\r'

/-- Whether a character may follow the first letter of a scheme. -/
def isSchemeChar (c : Char) : Bool :=
  c.isAlphanum || c == '+' || c == '-' || c == '.'

/-- The scheme in lower case and the text after its colon. -/
def splitScheme (cs : List Char) : Except UrlError (String × List Char) :=
  match cs with
  | c :: rest =>
    if c.isAlpha then
      match rest.span isSchemeChar with
      | (name, ':' :: more) => pure (String.ofList ((c :: name).map Char.toLower), more)
      | _ => throw .relativeWithoutBase
    else throw .relativeWithoutBase
  | [] => throw .relativeWithoutBase

/-- Whether a character separates segments of a path. -/
def isSeparator (special : Bool) (c : Char) : Bool :=
  c == '/' || (special && c == '\\')

/-- Whether a segment stands for the segment itself. -/
def isSingleDot (seg : String) : Bool :=
  seg == "." || seg.toLower == "%2e"

/-- Whether a segment stands for the segment before it. -/
def isDoubleDot (seg : String) : Bool :=
  let s := seg.toLower
  s == ".." || s == ".%2e" || s == "%2e." || s == "%2e%2e"

/-- Whether a segment is a drive: a letter and `:` or `|`. -/
def isDrive (seg : List Char) : Bool :=
  match seg with
  | [a, b] => a.isAlpha && (b == ':' || b == '|')
  | _ => false

/-- Whether a segment is a drive written with `:`. -/
def isNormalDrive (seg : String) : Bool :=
  match seg.toList with
  | [a, ':'] => a.isAlpha
  | _ => false

/-- The path without its last segment; a `file` path that is a drive alone stays. -/
def shorten (file : Bool) (path : List String) : List String :=
  if file && path.length == 1 && path.all isNormalDrive then path else path.dropLast

/-- Adds a segment to a path; `last` when no separator follows it. -/
def addSegment (file : Bool) (path : List String) (seg : String) (last : Bool) : List String :=
  if isDoubleDot seg then
    let path := shorten file path
    if last then path ++ [""] else path
  else if isSingleDot seg then
    if last then path ++ [""] else path
  else if file && path.isEmpty && isDrive seg.toList then
    path ++ [String.ofList (seg.toList.take 1 ++ [':'])]
  else path ++ [seg]

/-- Adds the segments of a path's text, in order. -/
def addSegments (file : Bool) : List String → List (List Char) → List String
  | path, [] => path
  | path, [seg] => addSegment file path (encode .path seg) true
  | path, seg :: rest => addSegments file (addSegment file path (encode .path seg) false) rest

/-- Reads a path up to `?` or `#`: its segments and what follows. -/
def readPath (special file : Bool) (cs : List Char) : List String × List Char :=
  let (text, tail) := cs.span fun c => c != '?' && c != '#'
  (addSegments file [] (text.splitOnP (isSeparator special)), tail)

/-- Reads the path after the authority: in a special scheme one separator is skipped first;
in another scheme the path may be empty. -/
def readPathAfterHost (special file : Bool) (cs : List Char) : List String × List Char :=
  if special then
    match cs with
    | c :: rest => if c == '/' || c == '\\' then readPath true file rest else readPath true file cs
    | [] => readPath true file []
  else
    match cs with
    | [] => ([], [])
    | '?' :: _ | '#' :: _ => ([], cs)
    | '/' :: rest => readPath false false rest
    | _ => readPath false false cs

/-- Reads the query after `?` and the fragment after `#`. -/
def readTail (special : Bool) (cs : List Char) : Option String × Option String :=
  match cs with
  | '?' :: rest =>
    let (q, after) := rest.span (· != '#')
    let fragment := match after with
      | '#' :: f => some (encode .fragment f)
      | _ => none
    (some (encode (if special then .specialQuery else .query) q), fragment)
  | '#' :: f => (none, some (encode .fragment f))
  | _ => (none, none)

/-- Splits the port off a host at the first colon outside brackets. -/
def splitPort : Bool → List Char → List Char × Option (List Char)
  | _, [] => ([], none)
  | inside, c :: rest =>
    if c == ':' && !inside then ([], some rest)
    else
      let inside := if c == '[' then true else if c == ']' then false else inside
      let (host, port) := splitPort inside rest
      (c :: host, port)

/-- Reads a port: none when empty or the scheme's default. -/
def readPort (scheme : String) : Option (List Char) → Except UrlError (Option Nat)
  | none | some [] => pure none
  | some ds =>
    if ds.all isDigitChar then
      let n := digitsValue 10 ds
      if n > 65535 then throw .portOutOfRange
      else pure (if defaultPort scheme == some n then none else some n)
    else throw .invalidPort

/-- Reads the authority and all that follows it. -/
def parseAuthority (scheme : String) (special : Bool) (cs : List Char) :
    Except UrlError Location := do
  let (auth, after) := cs.span fun c => !(c == '/' || c == '?' || c == '#' || (special && c == '\\'))
  let parts := auth.splitOn '@'
  let hostPort := parts.getLast?.getD []
  let info := List.intercalate ['@'] parts.dropLast
  if parts.length > 1 && hostPort.isEmpty then throw .missingHost
  let (user, pass) := match info.splitOn ':' with
    | [] => ([], [])
    | first :: more => (first, List.intercalate [':'] more)
  let (hostText, portText) := splitPort false hostPort
  if hostText.isEmpty && (special || portText.isSome) then throw .missingHost
  let host ← if special then Host.parseSpecial hostText else Host.parsePlain hostText
  let port ← readPort scheme portText
  let (path, tail) := readPathAfterHost special false after
  let (query, fragment) := readTail special tail
  pure { scheme, username := encode .userinfo user, password := encode .userinfo pass,
         host := some host, port, path := .segments path, query, fragment }

/-- A `file` location with an empty host, its path read from the text. -/
def fileWithoutHost (cs : List Char) : Location :=
  let (path, tail) := readPath true true cs
  let (query, fragment) := readTail true tail
  { scheme := "file", host := some .empty, path := .segments path, query, fragment }

/-- Reads a `file` location after `file://`: a host up to a separator, `?` or `#`. -/
def parseFileHost (cs : List Char) : Except UrlError Location := do
  let (hostText, after) := cs.span fun c => !(c == '/' || c == '\\' || c == '?' || c == '#')
  if isDrive hostText then pure (fileWithoutHost cs)
  else
    let host ← if hostText.isEmpty then pure Host.empty else Host.parseSpecial hostText
    let host := if host == .domain "localhost" then Host.empty else host
    let (path, tail) := readPathAfterHost true true after
    let (query, fragment) := readTail true tail
    pure { scheme := "file", host := some host, path := .segments path, query, fragment }

/-- Reads a `file` location after its scheme. -/
def parseFile (cs : List Char) : Except UrlError Location :=
  match cs with
  | c :: rest =>
    if c == '/' || c == '\\' then
      match rest with
      | d :: more => if d == '/' || d == '\\' then parseFileHost more else pure (fileWithoutHost rest)
      | [] => pure (fileWithoutHost [])
    else pure (fileWithoutHost cs)
  | [] => pure (fileWithoutHost [])

/-- Reads a location. -/
def parse (text : String) : Except UrlError Location := do
  let (scheme, rest) ← splitScheme (clean text.toList)
  if scheme == "file" then parseFile rest
  else if isSpecialScheme scheme then
    parseAuthority scheme true (rest.dropWhile fun c => c == '/' || c == '\\')
  else
    match rest with
    | '/' :: '/' :: more => parseAuthority scheme false more
    | '/' :: more =>
      let (path, tail) := readPath false false more
      let (query, fragment) := readTail false tail
      pure { scheme, path := .segments path, query, fragment }
    | _ =>
      let (text, tail) := rest.span fun c => c != '?' && c != '#'
      let (query, fragment) := readTail false tail
      pure { scheme, path := .whole (encode .controls text), query, fragment }

theorem parse_no_scheme : (parse "//example.com/").toOption = none := by decide

theorem readPort_default : (readPort "http" (some ['8', '0'])).toOption = some none := by
  decide

end Rollout.Url

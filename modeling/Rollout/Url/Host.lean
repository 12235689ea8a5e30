import Rollout.Url.Escape
import Rollout.Url.Punycode
import Rollout.Text.CaseFold
/-!
# Hosts

The host of a location is a domain name, an IPv4 address, an IPv6 address in brackets, an
name kept as written (for schemes that are not special), or empty (a `file` location on this machine).

A host of a special scheme is read this way: escapes are decoded into UTF-8, upper-case
letters are folded to lower case (the full stops of other scripts are full stops), each label
with characters beyond ASCII becomes `xn--` and its Punycode, and the name may not hold a
control, a space or any of `#%/:<>?@[\]^|`. A name whose last label (after an empty one at the
end is dropped) is a number, decimal, octal after a `0` or hexadecimal after `0x`, is an IPv4
address: up to four numbers, the last filling the bytes the others leave.

An IPv6 address is up to eight groups of up to four hexadecimal digits, one run of groups
written `::`, and possibly an IPv4 address in place of the last two groups. It is written back
in lower case without leading zeros, the first longest run of two or more zero groups as `::`.

* `ipv4Number_hex`: `0x7f` reads as 127.
* `ipv4_render`: 2130706433 is written `127.0.0.1`.
-/

-- Powers of numbers use the core instance, whatever else is imported.
attribute [local instance(high)] instPowNat

namespace Rollout.Url

/-- Why a location cannot be read. -/
inductive UrlError where
  /-- No scheme, and no location to be relative to. -/
  | relativeWithoutBase
  /-- The host is missing. -/
  | missingHost
  /-- The host cannot be read. -/
  | invalidHost
  /-- The port is not a number. -/
  | invalidPort
  /-- The port is above 65535. -/
  | portOutOfRange
deriving DecidableEq, Inhabited

/-- The host of a location. -/
inductive Host where
  | domain (name : String)
  | ipv4 (address : Nat)
  | ipv6 (groups : List Nat)
  | plain (name : String)
  | empty
deriving DecidableEq, Inhabited

/-! ## IPv4 -/

/-- Whether a character is an ASCII digit. -/
def isDigitChar (c : Char) : Bool := '0' ≤ c && c ≤ '9'

/-- The value of digits in a radix. -/
def digitsValue (radix : Nat) (cs : List Char) : Nat :=
  cs.foldl (fun n c => radix * n + ((hexValue? c).getD 0)) 0

/-- A number of an IPv4 address: hexadecimal after `0x` or `0X`, octal after a `0` that is not
alone, decimal otherwise; `0x` alone is zero. -/
def ipv4Number? (cs : List Char) : Option Nat :=
  match cs with
  | [] => none
  | '0' :: x :: rest =>
    if x == 'x' || x == 'X' then
      if rest.all fun c => (hexValue? c).isSome then some (digitsValue 16 rest) else none
    else
      let digits := x :: rest
      if digits.all fun c => '0' ≤ c && c ≤ '7' then some (digitsValue 8 digits) else none
  | _ => if cs.all isDigitChar then some (digitsValue 10 cs) else none

theorem ipv4Number_hex : ipv4Number? ['0', 'x', '7', 'f'] = some 127 := by decide

/-- Whether a name ends in a number, which makes it an IPv4 address. -/
def endsInNumber (name : List Char) : Bool :=
  let parts := (name.splitOn '.').reverse
  let last? := match parts with
    | [] :: next :: _ => some next
    | [] :: [] => none
    | last :: _ => some last
    | [] => none
  match last? with
  | none => false
  | some last => (!last.isEmpty && last.all isDigitChar) || (ipv4Number? last).isSome

/-- Joins the numbers of an IPv4 address: every number but the last is one byte, the last
fills the bytes that are left. -/
def joinIpv4 (numbers : List Nat) : Option Nat :=
  match numbers.reverse with
  | [] => none
  | last :: firsts =>
    let firsts := firsts.reverse
    if last ≥ 256 ^ (4 - firsts.length) || firsts.any (· > 255) then none
    else some (firsts.zipIdx.foldl (fun a (n, i) => a + n * 256 ^ (3 - i)) last)

/-- Reads an IPv4 address: one to four numbers between full stops, an empty part at the end
dropped. -/
def parseIpv4 (name : List Char) : Except UrlError Nat := do
  let parts := name.splitOn '.'
  let parts := if parts.getLast? == some [] then parts.dropLast else parts
  if parts.length > 4 then throw .invalidHost
  let numbers ← parts.mapM fun p => match ipv4Number? p with
    | some n => if n < 2 ^ (32 : Nat) then pure n else throw .invalidHost
    | none => throw .invalidHost
  match joinIpv4 numbers with
  | some a => pure a
  | none => throw .invalidHost

/-- An IPv4 address written as four decimal bytes. -/
def renderIpv4 (a : Nat) : String :=
  ".".intercalate
    ([a / 2 ^ (24 : Nat), a / 2 ^ (16 : Nat) % 256, a / 2 ^ (8 : Nat) % 256, a % 256].map toString)

theorem ipv4_render : renderIpv4 2130706433 = "127.0.0.1" := by decide

/-! ## IPv6 -/

/-- An IPv6 address being read: the groups so far, the next group to fill and where the
`::` stands. -/
structure Ipv6Reading where
  groups : List Nat := List.replicate 8 0
  index : Nat := 0
  compress : Option Nat := none

/-- Reads a run of up to four hexadecimal digits: its value, its length and what follows. -/
def hexRun (cs : List Char) : Nat × Nat × List Char :=
  let run := (cs.take 4).takeWhile fun c => (hexValue? c).isSome
  (digitsValue 16 run, run.length, cs.drop run.length)

/-- Reads a decimal number of an IPv4 address inside an IPv6 one: no leading zero, at most
255; gives it and what follows. -/
def decimalRun (cs : List Char) : Option (Nat × List Char) :=
  let run := cs.takeWhile isDigitChar
  match run with
  | [] => none
  | '0' :: _ :: _ => none
  | _ => let n := digitsValue 10 run; if n > 255 then none else some (n, cs.drop run.length)

/-- Reads the IPv4 address at the end of an IPv6 one into two groups. -/
def readEmbeddedIpv4 (cs : List Char) (r : Ipv6Reading) : Except UrlError Ipv6Reading := do
  if r.index > 6 then throw .invalidHost
  let parts := cs.splitOn '.'
  if parts.length != 4 then throw .invalidHost
  let bytes ← parts.mapM fun p => match decimalRun p with
    | some (n, []) => pure n
    | _ => throw .invalidHost
  match bytes with
  | [a, b, c, d] =>
    pure { r with
      groups := (r.groups.set r.index (a * 256 + b)).set (r.index + 1) (c * 256 + d),
      index := r.index + 2 }
  | _ => throw .invalidHost

/-- Reads the groups of an IPv6 address. -/
def readGroups : Nat → List Char → Ipv6Reading → Except UrlError Ipv6Reading
  | 0, _, _ => throw .invalidHost
  | _, [], r => pure r
  | fuel + 1, c :: rest, r => do
    if r.index == 8 then throw .invalidHost
    if c == ':' then
      if r.compress.isSome then throw .invalidHost
      readGroups fuel rest { r with index := r.index + 1, compress := some (r.index + 1) }
    else
      let (value, length, after) := hexRun (c :: rest)
      match after with
      | '.' :: _ =>
        if length == 0 then throw .invalidHost
        readEmbeddedIpv4 (c :: rest) r
      | ':' :: more =>
        if more.isEmpty then throw .invalidHost
        readGroups fuel more { r with groups := r.groups.set r.index value, index := r.index + 1 }
      | [] => pure { r with groups := r.groups.set r.index value, index := r.index + 1 }
      | _ => throw .invalidHost

/-- Moves the groups read after `::` to the end of the address. -/
def spread (r : Ipv6Reading) : Except UrlError (List Nat) :=
  match r.compress with
  | some start => pure (r.groups.take start ++ List.replicate (8 - r.index) 0 ++
      (r.groups.drop start).take (r.index - start))
  | none => if r.index == 8 then pure r.groups else throw .invalidHost

/-- Reads an IPv6 address, the text between the brackets. -/
def parseIpv6 (cs : List Char) : Except UrlError (List Nat) := do
  let (start, rest) ← match cs with
    | ':' :: ':' :: rest => pure ({ index := 1, compress := some 1 : Ipv6Reading }, rest)
    | ':' :: _ => throw .invalidHost
    | _ => pure ({} , cs)
  spread (← readGroups (cs.length + 1) rest start)

/-- The first longest run of two or more zero groups: where it starts and how long it is. -/
def longestZeros (groups : List Nat) : Option (Nat × Nat) :=
  let step := fun (acc : Option (Nat × Nat) × Option (Nat × Nat)) ((g, i) : Nat × Nat) =>
    let (best, current) := acc
    if g == 0 then
      let current := match current with
        | some (s, n) => some (s, n + 1)
        | none => some (i, 1)
      let best := match best, current with
        | some (_, bn), some (s, n) => if n > bn then some (s, n) else best
        | none, some c => some c
        | b, none => b
      (best, current)
    else (best, none)
  match (groups.zipIdx.foldl step (none, none)).1 with
  | some (s, n) => if n ≥ 2 then some (s, n) else none
  | none => none

/-- Lower-case hexadecimal without leading zeros. -/
def lowerHex (n : Nat) : String :=
  String.ofList ((Nat.toDigits 16 n).map Char.toLower)

/-- An IPv6 address as written between brackets. -/
def renderIpv6 (groups : List Nat) : String :=
  match longestZeros groups with
  | some (s, n) =>
    ":".intercalate ((groups.take s).map lowerHex) ++ "::" ++
      ":".intercalate ((groups.drop (s + n)).map lowerHex)
  | none => ":".intercalate (groups.map lowerHex)

/-! ## Domains -/

/-- The simple case folding of a code point. -/
def foldCode (c : Nat) : Nat :=
  match Text.foldTable.toList.find? (·.1 == c) with
  | some (_, t) => t
  | none => c

/-- A character of a domain name as mapped: ASCII letters to lower case, the full stops of
other scripts to `.`, other characters beyond ASCII to their simple case folding. -/
def mapDomainChar (c : Char) : Char :=
  if 'A' ≤ c && c ≤ 'Z' then Char.ofNat (c.toNat + 32)
  else if c.toNat < 0x80 then c
  else if c.toNat == 0x3002 || c.toNat == 0xFF0E || c.toNat == 0xFF61 then '.'
  else Char.ofNat (foldCode c.toNat)

/-- A label in ASCII: itself when it is ASCII, else `xn--` and its Punycode. -/
def asciiLabel (label : List Char) : List Char :=
  if label.all (·.toNat < 0x80) then label else "xn--".toList ++ (Punycode.encode label).toList

/-- Whether a character may not stand in a domain name. -/
def isForbiddenInDomain (c : Char) : Bool :=
  c.toNat ≤ 0x20 || c.toNat == 0x7F || "#%/:<>?@[\\]^|".contains c

/-- Whether a character may not stand in the host of a scheme that is not special. -/
def isForbiddenInHost (c : Char) : Bool :=
  c.toNat == 0 || c == '\t' || c == '\n' || c == '\r' || " #/:<>?@[\\]^|".contains c

/-- A domain name in ASCII, or none when the decoded text is not UTF-8 or holds the
replacement character. -/
def domainToAscii (bytes : List UInt8) : Option (List Char) := do
  let text ← String.fromUTF8? (ByteArray.mk bytes.toArray)
  let cs := text.toList
  if cs.contains '�' then none
  let mapped := cs.map mapDomainChar
  pure (List.intercalate ['.'] ((mapped.splitOn '.').map asciiLabel))

namespace Host

/-- Reads the host of a location with a special scheme. -/
def parseSpecial (cs : List Char) : Except UrlError Host :=
  match cs with
  | '[' :: inner =>
    if inner.getLast? != some ']' then throw .invalidHost
    else Host.ipv6 <$> parseIpv6 inner.dropLast
  | _ =>
    match domainToAscii (decodeBytes cs) with
    | none => throw .invalidHost
    | some name =>
      if name.isEmpty || name.any isForbiddenInDomain then throw .invalidHost
      else if endsInNumber name then Host.ipv4 <$> parseIpv4 name
      else pure (.domain (String.ofList name))

/-- Reads the host of a location whose scheme is not special. -/
def parsePlain (cs : List Char) : Except UrlError Host :=
  match cs with
  | [] => pure .empty
  | '[' :: inner =>
    if inner.getLast? != some ']' then throw .invalidHost
    else Host.ipv6 <$> parseIpv6 inner.dropLast
  | _ =>
    if cs.any isForbiddenInHost then throw .invalidHost
    else pure (.plain (encode .controls cs))

/-- The host as written in a location. -/
def render : Host → String
  | .domain name => name
  | .ipv4 a => renderIpv4 a
  | .ipv6 groups => "[" ++ renderIpv6 groups ++ "]"
  | .plain name => name
  | .empty => ""

end Host

end Rollout.Url

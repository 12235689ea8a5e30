import Rollout.Program
import Rollout.Keyed
import Rollout.Pattern.Machine
import Rollout.Text.Alphanumeric
/-!
# Log filters

A filter decides which log events are written, and which actor spans frame them. It is read
from a list of directives separated by commas, empty ones skipped; one directive that does not
read makes the whole filter fail. A directive is read character by character from its trimmed
text: a target (any text up to `=` or `[`, starting with a letter, digit, `-`, `:` or `_`), then
a span in square brackets (its name, then tests on fields in braces), one of them or both, then
optionally `=` and a level. Nothing may follow a span but `=`. A text alone is a level when it
names one, and else a target. A directive without a level, or with nothing after `=`, lets
every level through. Levels are `off`, `error`, `warn`, `info`, `debug` and `trace`, in any
case, or the numbers `0` to `5` in that order (leading zeros and `+` allowed).

A directive that names no span and tests no field's value is *static*: it concerns every event
whose target starts with its target and that has the fields it names, and every span with that
target. The most specific static directive that concerns an event decides whether it is
written: a longer target first, then more fields. Of two directives that concern the same
things the later counts.

A value tested is a truth value, a number, or else a pattern; a text passes when the pattern's
machine, fed the whole text, ends in a matching state (so the match it prefers ends at the end
of the text). A directive with a pattern no machine can be built for does not read.

A directive that names a span or tests fields is *dynamic*: it concerns spans of that name with
those fields. A span that a dynamic directive concerns is always shown, and lets through, inside
it, every event up to the highest level of the dynamic directives whose tests its fields pass.
No span is shown when the filter lets nothing through at its level. A directive that names
fields and tests none of their values is both static and dynamic.

* `info_writes`: the filter `info` lets info events through, and debug events not.
-/

-- Powers of numbers use the core instance, whatever else is imported.
attribute [local instance(high)] instPowNat

namespace Rollout.Log

/-- How much a directive lets through: nothing, or every level up to one. -/
inductive Verbosity where
  | off
  | error
  | warn
  | info
  | debug
  | trace
deriving DecidableEq, Inhabited, Repr

namespace Verbosity

/-- The place of a verbosity, from nothing (`0`) to everything (`5`). -/
def rank : Verbosity → Nat
  | .off => 0
  | .error => 1
  | .warn => 2
  | .info => 3
  | .debug => 4
  | .trace => 5

/-- The more permissive of two verbosities. -/
def max (a b : Verbosity) : Verbosity := if a.rank < b.rank then b else a

/-- The verbosity that lets events of a level through and nothing more. -/
def ofLevel : Level → Verbosity
  | .debug => .debug
  | .info => .info
  | .warn => .warn
  | .error => .error

/-- Whether a verbosity lets events of a level through. -/
def allows (v : Verbosity) (l : Level) : Bool := (ofLevel l).rank ≤ v.rank

/-- The whole number a text writes in decimal, with an optional leading `+`, when it fits in
64 bits. -/
def wholeNumber? (s : String) : Option Nat :=
  let digits := match s.toList with
    | '+' :: r => r
    | r => r
  if digits.isEmpty || !digits.all Char.isDigit then none
  else
    let n := digits.foldl (fun n c => 10 * n + (c.toNat - '0'.toNat)) 0
    if n < 2 ^ (64 : Nat) then some n else none

/-- The verbosity a text names: a whole number from `0` to `5`, else a level's name in any
case; the empty text names `error`. -/
def read? (s : String) : Option Verbosity :=
  let byNumber : Option Verbosity := (wholeNumber? s).bind fun
    | 0 => some .off
    | 1 => some .error
    | 2 => some .warn
    | 3 => some .info
    | 4 => some .debug
    | 5 => some .trace
    | _ => none
  byNumber.orElse fun _ =>
    match s.toLower with
    | "" => some .error
    | "error" => some .error
    | "warn" => some .warn
    | "info" => some .info
    | "debug" => some .debug
    | "trace" => some .trace
    | "off" => some .off
    | _ => none

end Verbosity

/-- A test on a span's field: the field must be there, and hold the value if one is given. -/
structure FieldTest where
  name : String
  value : Option String := none
deriving DecidableEq, Inhabited

/-- One directive of a filter. -/
structure Directive where
  target : Option String := none
  span : Option String := none
  fields : List FieldTest := []
  verbosity : Verbosity
deriving DecidableEq, Inhabited

/-- A field as a span records it: a text, or a truth value. -/
inductive Recorded where
  | text (s : String)
  | flag (b : Bool)
deriving DecidableEq, Inhabited

/-- What a filter sees of an event or a span: its target, its name if it is a span, the names
of its fields, and its level. -/
structure Site where
  target : String
  span : Option String := none
  fields : List String
  level : Level
deriving Inhabited

/-- Whether a text reads as a decimal number, an infinity or not-a-number. -/
def isNumeral (s : String) : Bool :=
  let cs := match s.toList with
    | '+' :: r | '-' :: r => r
    | r => r
  let word := (String.ofList cs).toLower
  if word == "inf" || word == "infinity" || word == "nan" then true
  else
    let whole := cs.takeWhile Char.isDigit
    let rest := cs.drop whole.length
    let (fraction, rest) := match rest with
      | '.' :: r => (r.takeWhile Char.isDigit, r.dropWhile Char.isDigit)
      | r => ([], r)
    let mantissa := !whole.isEmpty || !fraction.isEmpty
    match rest with
    | [] => mantissa
    | e :: r =>
      let r := match r with
        | '+' :: r' | '-' :: r' => r'
        | r' => r'
      mantissa && (e == 'e' || e == 'E') && !r.isEmpty && r.all Char.isDigit

/-- Whether the value a test names reads: a truth value, a number, or a pattern a machine can
be built for. -/
def FieldTest.reads (t : FieldTest) : Bool :=
  match t.value with
  | some v => v == "true" || v == "false" || isNumeral v || (Pattern.machineOf? v).isSome
  | none => true

/-- Reads one test on a field: the name up to the first `=`, and the value up to the next one
if there is one. An empty test, or a value that does not read, fails. -/
def FieldTest.read? (text : String) : Option FieldTest :=
  if text.isEmpty then none
  else
    let test : FieldTest := match text.splitOn "=" with
      | name :: value :: _ => { name, value := some value }
      | _ => { name := text }
    if test.reads then some test else none

/-- The text between two byte offsets of a text; none when an offset falls inside a
character. -/
def bytesBetween (text : String) (a b : Nat) : Option String :=
  String.fromUTF8? (text.toUTF8.extract a b)

/-- The verbosity a directive names after `=`: every level when nothing is written. -/
def levelAfterEquals? (text : String) : Option Verbosity :=
  if text.isEmpty then some .trace else Verbosity.read? text

/-- Where the reading of a directive stands: before anything, in a level or a target, in a
span's name, in a test on a field, after the tests, after a span, in a level after `=`, or done.
A stage that reads a text keeps the byte offset where the text starts. -/
inductive Stage where
  | start
  | levelOrTarget (start : Nat)
  | span (start : Nat)
  | field (start : Nat)
  | fields
  | target
  | level (start : Nat)
  | complete
deriving DecidableEq, Inhabited

namespace Directive

/-- A directive of a level alone, or of a target alone that lets every level through. -/
def ofLevelOrTarget (d : Directive) (text : String) : Directive :=
  if text.isEmpty then { d with verbosity := .trace, target := none }
  else
    match Verbosity.read? text with
    | some v => { d with verbosity := v, target := none }
    | none => { d with verbosity := .trace, target := some text }

/-- One character of a directive, at a byte offset, read at a stage; none when the directive
cannot go on. The texts a stage reads are cut from the directive as written, at offsets
counted in its trimmed text. -/
def step (text : String) (d : Directive) (stage : Stage) (i : Nat) (c : Char) :
    Option (Directive × Stage) :=
  match stage, c with
  | .start, '[' => some (d, .span (i + 1))
  | .start, c =>
    if c == '-' || c == ':' || c == '_' || Text.isAlphanumericChar c then
      some (d, .levelOrTarget i)
    else none
  | .levelOrTarget s, '=' => do
    let t ← bytesBetween text s i
    pure ({ d with target := some t }, .level (i + 1))
  | .levelOrTarget s, '[' => do
    let t ← bytesBetween text s i
    pure ({ d with target := some t }, .span (i + 1))
  | .levelOrTarget s, ',' => do
    let rest ← bytesBetween text s text.utf8ByteSize
    pure (d.ofLevelOrTarget rest, .complete)
  | .levelOrTarget s, _ => some (d, .levelOrTarget s)
  | .target, '=' => some (d, .level (i + 1))
  | .span s, ']' => do
    let name ← bytesBetween text s i
    pure ({ d with span := some name }, .target)
  | .span s, '{' => do
    let name ← bytesBetween text s i
    pure ({ d with span := if name.isEmpty then none else some name }, .field (i + 1))
  | .span s, _ => some (d, .span s)
  | .field s, '}' => do
    let t ← FieldTest.read? (← bytesBetween text s i)
    pure ({ d with fields := d.fields ++ [t] }, .fields)
  | .field s, ',' => do
    let t ← FieldTest.read? (← bytesBetween text s i)
    pure ({ d with fields := d.fields ++ [t] }, .field (i + 1))
  | .field s, _ => some (d, .field s)
  | .fields, ']' => some (d, .target)
  | .level s, ',' => do
    let v ← levelAfterEquals? (← bytesBetween text s i)
    pure ({ d with verbosity := v }, .complete)
  | .level s, _ => some (d, .level s)
  | _, _ => none

/-- Reads the characters of a directive from a byte offset on. -/
def steps (text : String) : Directive → Stage → Nat → List Char → Option (Directive × Stage)
  | d, stage, _, [] => some (d, stage)
  | d, stage, i, c :: rest => do
    let (d, stage) ← d.step text stage i c
    steps text d stage (i + c.utf8Size) rest

/-- Ends the reading of a directive: a level or target, or a level after `=`, runs to the end
of the directive as written; a span or a test left open fails. -/
def finish (text : String) (d : Directive) : Stage → Option Directive
  | .levelOrTarget s => do pure (d.ofLevelOrTarget (← bytesBetween text s text.utf8ByteSize))
  | .level s => do
    let v ← levelAfterEquals? (← bytesBetween text s text.utf8ByteSize)
    pure { d with verbosity := v }
  | .target | .complete => some d
  | _ => none

/-- Reads one directive: its trimmed text character by character, from a directive that lets
every level through. -/
def read? (text : String) : Option Directive := do
  let (d, stage) ← steps text { verbosity := .trace } .start 0 (Text.trim text).toList
  finish text d stage


/-- Whether a directive names a span or tests fields: it then decides, span by span, what
the spans it concerns let through. -/
def isDynamic (d : Directive) : Bool := d.span.isSome || !d.fields.isEmpty

/-- Whether a directive names no span and tests no field's value: it then decides about events
and spans wherever they stand. A directive that only names fields is both. -/
def isStatic (d : Directive) : Bool := d.span.isNone && d.fields.all (·.value.isNone)

/-- Whether a directive concerns a span: the target starts with its target, the span has its
name and every field it names. -/
def concerns (d : Directive) (s : Site) : Bool :=
  d.target.all (s.target.startsWith ·) && d.span.all (s.span == some ·) &&
    d.fields.all (s.fields.contains ·.name)

/-- Whether a static directive concerns an event or a span: the target starts with its target,
and an event has every field it names (a span need not). -/
def caresStatically (d : Directive) (s : Site) : Bool :=
  d.target.all (s.target.startsWith ·) &&
    (s.span.isSome || d.fields.all (s.fields.contains ·.name))

/-- Whether two directives concern the same things, so that the later replaces the earlier. -/
def sameScope (a b : Directive) : Bool :=
  a.target == b.target && a.span == b.span && a.fields == b.fields

/-- Whether a text comes after another in the order of their characters. -/
def textAfter (a b : String) : Bool := decide (b < a)

/-- Whether one list of field names comes after another, name by name. -/
def namesAfter : List String → List String → Bool
  | [], _ => false
  | _ :: _, [] => true
  | a :: as, b :: bs => textAfter a b || (a == b && namesAfter as bs)

/-- Whether a static directive is more specific than another that concerns the same site: a
longer target, then more fields, then the later field names. -/
def moreSpecific (a b : Directive) : Bool :=
  let la := (a.target.map String.length).getD 0
  let lb := (b.target.map String.length).getD 0
  let ta := a.target.isSome
  let tb := b.target.isSome
  let na := a.fields.map (·.name)
  let nb := b.fields.map (·.name)
  (ta && !tb) || (ta == tb && (lb < la || (la == lb &&
    (nb.length < na.length || (na.length == nb.length && namesAfter na nb)))))

/-- Whether a span's fields pass a directive's tests on values. -/
def passes (d : Directive) (fields : List (String × Recorded)) : Bool :=
  d.fields.all fun t =>
    match t.value with
    | none => true
    | some v =>
      match Keyed.get? t.name fields with
      | some (.flag b) => v == toString b
      | some (.text x) =>
        v != "true" && v != "false" && !isNumeral v &&
          match Pattern.machineOf? v with
          | some m => m.endsMatching x
          | none => false
      | none => false

end Directive

/-- A log filter: its directives in the order given. -/
structure Filter where
  directives : List Directive
deriving Inhabited

namespace Filter

/-- Reads a filter; none when a directive does not read. -/
def read? (text : String) : Option Filter :=
  ((text.splitOn ",").filter (!·.isEmpty)).mapM Directive.read? |>.map fun directives =>
    { directives }

/-- The filter that lets info, warnings and errors through. -/
def info : Filter := { directives := [{ verbosity := .info }] }

/-- The filter a program runs with: the one given, else the one of the environment, else
`info`; one that does not read gives `info` too. -/
def choose (given environment : Option String) : Filter :=
  match given.orElse fun _ => environment with
  | some text => (read? text).getD info
  | none => info

/-- The static directives. -/
def statics (f : Filter) : List Directive := f.directives.filter (·.isStatic)

/-- The dynamic directives, each as the last of those that concern the same things. -/
def dynamics (f : Filter) : List Directive :=
  let ds := f.directives.filter (·.isDynamic)
  (ds.zipIdx.filter fun (d, i) => !(ds.drop (i + 1)).any d.sameScope).map (·.1)

/-- The most permissive verbosity any directive has; everything when a value is tested. -/
def ceiling (f : Filter) : Verbosity :=
  if f.dynamics.any (·.fields.any (·.value.isSome)) then .trace
  else f.directives.foldl (fun v d => v.max d.verbosity) .off

/-- The static directive that decides about a site: the most specific that concerns it, the
later of two that concern the same things. -/
def decider? (f : Filter) (s : Site) : Option Directive :=
  (f.statics.filter (·.caresStatically s)).foldl (fun best d =>
    match best with
    | none => some d
    | some b => if d.sameScope b || d.moreSpecific b then some d else some b) none

/-- Whether the static directives let a site through. -/
def letsThrough (f : Filter) (s : Site) : Bool :=
  match f.decider? s with
  | some d => d.verbosity.allows s.level
  | none => false

/-- Whether a span is shown. -/
def showsSpan (f : Filter) (s : Site) : Bool :=
  f.ceiling.allows s.level && (f.dynamics.any (·.concerns s) || f.letsThrough s)

/-- What a shown span lets through inside it: none when no dynamic directive concerns it. -/
def spanVerbosity? (f : Filter) (s : Site) (fields : List (String × Recorded)) : Option Verbosity :=
  let concerned := f.dynamics.filter (·.concerns s)
  if concerned.isEmpty then none
  else some ((concerned.filter (·.passes fields)).foldl (fun v d => v.max d.verbosity) .off)

/-- Whether an event is written, inside shown spans that let through what is given. -/
def writes (f : Filter) (s : Site) (inside : List Verbosity) : Bool :=
  f.letsThrough s || inside.any (·.allows s.level)

end Filter

theorem info_writes :
    Filter.info.writes { target := "deckhand", fields := [], level := .info } [] = true ∧
      Filter.info.writes { target := "deckhand", fields := [], level := .debug } [] = false := by
  decide

end Rollout.Log

import Rollout.CommandLine.Command
import Rollout.CommandLine.Failure
import Rollout.CommandLine.Similarity
/-!
# Reading a command line

The words of a command line are read from left to right against the main command; the first
word that names a subcommand, where no option waits for its value, hands the rest of the line
to that subcommand, and the help command turns the rest into the help page asked for.

* `--name=value`, `--name value`, `-s value`, `-svalue` and `-s=value` give an option its value;
  switches may be run together (`-ab`). A word that starts with `-` is always read as options,
  so a value that starts with `-` must be attached.
* After `--` every word is a value; a command that takes none refuses it.
* An option waiting for its value is **pending**: its value is read, and a repeated option
  refused, only when the next option is met or the line ends. Some refusals are decided before
  a pending option is settled; a failure to settle it is then dropped, but what it recorded
  stays.
* When the line ends, options not given are taken from the environment, then from defaults,
  and the command checks that a subcommand and the required options were given. A subcommand
  is read to its end before the options of the main command are settled.

A global option may be given before or after the subcommand; the value kept is the one from
the more explicit source (the line, then the environment, then the default), the subcommand's
on a tie.

* `rank_max`: recording a key twice keeps the more explicit source.
-/

namespace Rollout.CommandLine

/-- Where a value came from, from the least explicit. -/
inductive Source where
  | default
  | environment
  | line
deriving DecidableEq, Inhabited

/-- The rank of a source: a higher one wins. -/
def Source.rank : Source → Nat
  | .default => 0
  | .environment => 1
  | .line => 2

/-- Whether a value was asked for, rather than taken by default. -/
def Source.explicit (s : Source) : Bool := s != .default

/-- The more explicit of two sources. -/
def Source.max (s t : Source) : Source := if s.rank < t.rank then t else s

/-- What was recorded for an option or a group. -/
structure Entry where
  key : Key
  source : Source
  value : Option Given := none
deriving Inhabited

/-- An option met without its value yet: whether it was named by its long name, and the values
seen so far. -/
structure Pending where
  arg : Arg
  long : Bool
  values : List String
deriving Inhabited

/-- What was read so far for one command, in the order first met. -/
structure Matches where
  entries : List Entry := []
  pending : Option Pending := none
deriving Inhabited

namespace Matches

/-- The entry of a key. -/
def entry? (m : Matches) (k : Key) : Option Entry := m.entries.find? (·.key == k)

/-- Whether a key was recorded. -/
def has (m : Matches) (k : Key) : Bool := m.entries.any (·.key == k)

/-- Whether a key was recorded from an explicit source. -/
def explicit (m : Matches) (k : Key) : Bool := m.entries.any fun e => e.key == k && e.source.explicit

/-- Forgets a key. -/
def remove (m : Matches) (k : Key) : Matches := { m with entries := m.entries.filter (·.key != k) }

/-- Records a key from a source, keeping its place if it was recorded before. -/
def note (m : Matches) (k : Key) (s : Source) : Matches :=
  if m.has k then
    { m with entries := m.entries.map fun e => if e.key == k then { e with source := e.source.max s } else e }
  else { m with entries := m.entries ++ [{ key := k, source := s }] }

/-- Records an option of a command, and, for an explicit source, the groups it belongs to. -/
def start (m : Matches) (c : Command) (a : Arg) (s : Source) : Matches :=
  let m := m.note (.option a.id) s
  if s.explicit then (c.groupsOf a.id).foldl (fun m g => m.note (.group g.id) s) m else m

/-- Sets the value of an option. -/
def setValue (m : Matches) (id : String) (v : Given) : Matches :=
  { m with entries := m.entries.map fun e => if e.key == .option id then { e with value := some v } else e }

/-- The keys given explicitly, as a usage line names them: options that `keep` accepts, and
groups when `groups` holds. -/
def given (m : Matches) (c : Command) (keep : Arg → Bool) (groups : Bool) : List Key :=
  (m.entries.filter (·.source.explicit)).filterMap fun e =>
    match e.key with
    | .option id => if ((c.find? id).map keep).getD groups then some e.key else none
    | .group _ => if groups then some e.key else none

end Matches

/-- Reading a command line: a refusal ends it, and what was recorded stays. -/
abbrev Reading := ExceptT Failure (StateM Matches)

namespace Reading

/-- Refuses the line for a cause found in a command. -/
def fail {α : Type} (c : Command) (cause : Cause) : Reading α := throw { cause, hint := c.hint }

/-- Reads one value of an option. -/
def readValue (c : Command) (a : Arg) (raw : String) : Reading Unit :=
  match a.read raw with
  | .ok v => modify fun m => m.setValue a.id v
  | .error .empty => fail c (.missingValue a.display)
  | .error (.invalid r) => fail c (.invalidValue raw a.display r)

/-- Gives an option its values from a source. -/
def apply (c : Command) (a : Arg) (long : Bool) (values : List String) (s : Source) :
    Reading Unit := do
  if s == .line && a.takesValue && values.isEmpty then fail c (.missingValue a.display)
  match a.action with
  | .help => fail c (.help (c.page long))
  | .version => fail c (.version c.versionLine)
  | _ =>
    if s == .line then
      let had := (← get).has (.option a.id)
      modify (·.remove (.option a.id))
      if had then fail c (.repeated a.display (c.usage []))
    modify (·.start c a s)
    let values := if values.isEmpty then ["true"] else values
    values.forM (readValue c a)

/-- Settles the pending option, if any. -/
def resolve (c : Command) : Reading Unit := do
  match (← get).pending with
  | none => pure ()
  | some p =>
    modify fun m => { m with pending := none }
    apply c p.arg p.long p.values .line

/-- Settles the pending option, dropping a failure to do so. -/
def resolveQuietly (c : Command) : Reading Unit := tryCatch (resolve c) fun _ => pure ()

/-- Settles the pending option, then gives an option its values. -/
def react (c : Command) (a : Arg) (long : Bool) (values : List String) (s : Source) :
    Reading Unit := do
  resolve c
  apply c a long values s

/-- Settles the pending option and makes an option wait for its value. -/
def await (c : Command) (a : Arg) (long : Bool) : Reading Unit := do
  resolve c
  modify fun m => { m with pending := some { arg := a, long, values := [] } }

/-- Gives the pending option a value. -/
def supply (v : String) : Reading Unit :=
  modify fun m => { m with pending := m.pending.map fun p => { p with values := p.values ++ [v] } }

/-- The refusal of a long option that the command does not have, with the option of the same
command, or else of a subcommand named later on the line, whose name is most similar. -/
def unknownLong (c : Command) (subs : List Command) (name : String) (rest : List String) :
    Reading Cause := do
  let tip ← match (similar name (c.args.map (·.long))).getLast? with
    | some f =>
      match c.findLong? f with
      | some a => modify (·.note (.option a.id) .line)
      | none => pure ()
      pure (some (Tip.similarOption ("--" ++ f)))
    | none =>
      let offers := subs.filterMap fun sc =>
        match (similar name (sc.args.map (·.long))).getLast?, rest.findIdx? (· == sc.name) with
        | some f, some i => some (i, sc.name, f)
        | _, _ => none
      let best := offers.foldl (fun best o =>
        match best with
        | some b => if o.1 < b.1 then some o else best
        | none => some o) none
      pure (best.map fun (_, s, f) => Tip.optionOf s ("--" ++ f))
  let m ← get
  pure (.unexpectedArgument ("--" ++ name) tip (c.usage (m.given c (!·.hidden) true)))

/-- The refusal of a word that is no option where the command takes no value. -/
def stray (c : Command) (subs : List Command) (word : String) (escaped : Bool) : Cause :=
  if escaped && subs.any (·.name == word) then
    .unexpectedArgument word (some (.escapedCommand word)) c.helpUsage
  else if subs.isEmpty then .unexpectedArgument word none c.helpUsage
  else
    match similar word (subs.map (·.name)) with
    | [] => .unknownCommand word none c.helpUsage
    | ns => .unknownCommand word (some (.similarCommands ns)) c.helpUsage

/-- What the help command shows for the names after it: the page of the command named, or a
refusal of the first name that is no subcommand. -/
def helpFor (c : Command) (subs : List Command) : List String → Failure
  | [] => { cause := .help (c.page true), hint := c.hint }
  | n :: more =>
    match subs.find? (·.name == n) with
    | some sc =>
      match more with
      | [] => { cause := .help (sc.page true), hint := sc.hint }
      | m :: _ => { cause := .unknownCommand m none sc.helpUsage, hint := sc.hint }
    | none => { cause := .unknownCommand n none c.helpUsage, hint := c.hint }

/-- The name of the help command. -/
def helpCommand : String := "help"

/-- Reads short options run together after a `-`; gives the option left waiting for its
value, if any. -/
def cluster (c : Command) : List Char → Reading (Option Arg)
  | [] => pure none
  | ch :: more =>
    match c.findShort? ch with
    | some a =>
      if !a.takesValue then do
        react c a false [] .line
        cluster c more
      else
        let v := String.ofList more
        let attached := if v.isEmpty then none
          else if v.startsWith "=" then some (v.drop 1).toString else some v
        match attached with
        | some v => do
          react c a false [v] .line
          pure none
        | none => do
          await c a false
          pure (some a)
    | none => do
      resolveQuietly c
      fail c (.unexpectedArgument ("-" ++ ch.toString) none c.helpUsage)

/-- Splits the text after `--` at its first `=`. -/
def splitLong (body : String) : String × Option String :=
  match body.splitOn "=" with
  | n :: v :: more => (n, some ("=".intercalate (v :: more)))
  | _ => (body, none)

/-- Reads the words of a command line for a command, with its subcommands; stops at a
subcommand, giving it and the words after it. `escaped` tells whether `--` was met, and
`waiting` which option waits for its value. -/
def scan (c : Command) (subs : List Command) :
    List String → Bool → Option Arg → Reading (Option (Command × List String))
  | [], _, _ => pure none
  | w :: rest, escaped, waiting => do
    if escaped then
      resolveQuietly c
      fail c (stray c subs w escaped)
    match waiting, subs.find? (·.name == w) with
    | none, some sc =>
      if sc.name == helpCommand then throw (helpFor c subs rest)
      return some (sc, rest)
    | _, _ => pure ()
    if w == "--" then return ← scan c subs rest true waiting
    if w.startsWith "--" then
      let (name, value) := splitLong (w.drop 2).toString
      match c.findLong? name with
      | some a =>
        if a.takesValue then
          match value with
          | some v =>
            react c a true [v] .line
            scan c subs rest escaped none
          | none =>
            await c a true
            scan c subs rest escaped (some a)
        else
          match value with
          | some v =>
            resolveQuietly c
            let keep (b : Arg) : Bool := !b.hidden && !b.required
            let given := (← get).given c keep true ++ [Key.option a.id]
            fail c (.unexpectedValue v a.display (c.usage given))
          | none =>
            react c a true [] .line
            scan c subs rest escaped none
      | none =>
        resolveQuietly c
        fail c (← unknownLong c subs name rest)
    else if w.startsWith "-" && w != "-" then
      let next ← cluster c (w.drop 1).toString.toList
      scan c subs rest escaped next
    else
      match waiting with
      | some _ =>
        supply w
        scan c subs rest escaped none
      | none =>
        resolveQuietly c
        fail c (stray c subs w escaped)

/-- Takes options not given from the environment. -/
def fromEnvironment (c : Command) (env : String → Option String) : Reading Unit :=
  c.args.forM fun a => do
    if !(← get).has (.option a.id) then
      match a.env.bind env with
      | some v => react c a true [v] .environment
      | none => pure ()

/-- Takes options not given from their defaults; a switch not given is off. -/
def fromDefaults (c : Command) : Reading Unit :=
  c.args.forM fun a => do
    if !(← get).has (.option a.id) then
      match a.default, a.action with
      | some d, _ => react c a true [d] .default
      | none, .switch => react c a true ["false"] .default
      | none, _ => pure ()

/-- Checks that a subcommand was named where one is needed, and that the required options
were given. -/
def check (c : Command) (named : Bool) : Reading Unit := do
  let m ← get
  if !named && !c.commands.isEmpty then
    if !m.entries.any (·.source.explicit) then fail c (.bareHelp (c.page false))
    fail c (.missingCommand c.name (c.commands.map (·.1)) c.helpUsage)
  let missing := c.args.filter fun a => a.required && !m.explicit (.option a.id)
  if !missing.isEmpty then
    let given := m.given c (!·.hidden) false ++ missing.map fun a => Key.option a.id
    fail c (.missingOptions (missing.map (·.display)) (c.usage given))

/-- Finishes reading a command: settles the pending option, takes options from the
environment and from defaults, and checks the result. -/
def finish (c : Command) (env : String → Option String) (named : Bool) : Reading Unit := do
  resolve c
  fromEnvironment c env
  fromDefaults c
  check c named

/-- Reads a subcommand's part of the line. -/
def subcommand (sc : Command) (env : String → Option String) (words : List String) :
    Except Failure Matches :=
  let go : Reading Unit := do
    let _ ← scan sc [] words false none
    finish sc env false
  match (go.run.run {}) with
  | (.ok _, m) => .ok m
  | (.error f, _) => .error f

/-- Reads the whole line: the main command's matches, and the subcommand named with its own. -/
def tool (t : Tool) (env : String → Option String) (words : List String) :
    Except Failure (Matches × Option (Command × Matches)) :=
  let go : Reading (Option (Command × Matches)) := do
    let named ← match ← scan t.main t.subcommands words false none with
      | some (sc, rest) =>
        match subcommand sc env rest with
        | .ok m => pure (some (sc, m))
        | .error f => throw f
      | none => pure none
    finish t.main env named.isSome
    pure named
  match (go.run.run {}) with
  | (.ok named, m) => .ok (m, named)
  | (.error f, _) => .error f

end Reading

/-- The values of a command line that was read: the subcommand named, and each option's value
by id. -/
structure Outcome where
  command : Option String
  values : List (String × Given)
deriving Inhabited

/-- The value of an option, by id. -/
def Outcome.get? (o : Outcome) (id : String) : Option Given := (o.values.find? (·.1 == id)).map (·.2)

/-- The value of a global option given to the main command and to a subcommand: the one from
the more explicit source, the subcommand's on a tie. -/
def Entry.merge : Option Entry → Option Entry → Option Entry
  | some t, some s => if s.source.rank < t.source.rank then some t else some s
  | some t, none => some t
  | none, s => s

/-- Reads a command line against a tool, with the environment given. -/
def Tool.read (t : Tool) (env : String → Option String) (words : List String) :
    Except Failure Outcome := do
  let (top, named) ← Reading.tool t env words
  let valueOf (e : Option Entry) : Option Given := e.bind (·.value)
  let own := t.main.args.filterMap fun a =>
    let sub := named.bind fun (_, m) => if a.global then m.entry? (.option a.id) else none
    (valueOf (Entry.merge (top.entry? (.option a.id)) sub)).map (a.id, ·)
  let theirs := match named with
    | some (sc, m) => sc.args.filterMap fun a =>
      if a.global then none else (valueOf (m.entry? (.option a.id))).map (a.id, ·)
    | none => []
  pure { command := named.map (·.1.name), values := own ++ theirs }

theorem rank_max (s t : Source) : (s.max t).rank = max s.rank t.rank := by
  cases s <;> cases t <;> rfl

end Rollout.CommandLine

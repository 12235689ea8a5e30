import Rollout.CommandLine.Arg
/-!
# Commands, usage lines and help pages

A tool is a main command with one level of subcommands. Each command has options (`Arg`),
groups of options, and, for the main command, the list of subcommands, one of which must be
named. The help command takes names of subcommands after it.

The **usage line** of a command is its name, `[OPTIONS]` when it has an option that is neither
required nor built in nor hidden, its required options, and `<COMMAND>` when a subcommand is
needed. Once options were given, a usage line names those instead of `[OPTIONS]`: the required
options and the given ones, each once, and a group of which one was given as `<--a|--b>`.

The **help page** is the about text, the usage line, and the sections `Commands`, `Arguments`
and `Options` in that order, each present when it has something to show. Options are shown in
the order declared. On the short page each help text stands in a column after the longest
option's name; on the long page (asked for by `--help` where the command has more to say) it
stands indented on the next line, with a blank line between options, and a default value
follows its text after a blank line.

* `helpUsage_plain`: a command without options or subcommands is used by its name alone.
-/

namespace Rollout.CommandLine

/-- What a usage line may name: an option or a group, by id. -/
inductive Key where
  | option (id : String)
  | group (id : String)
deriving DecidableEq, Inhabited

/-- A command of a tool. -/
structure Command where
  name : String
  /-- How the usage line calls it: the tool's name, then the subcommand's. -/
  usageName : String
  about : String
  longAbout : Option String := none
  args : List Arg := []
  groups : List Group := []
  /-- The subcommands' names with what each does; a command with subcommands needs one. -/
  commands : List (String × String) := []
  /-- The values that may follow, by name, with their help: the help command takes names of
  subcommands. -/
  trailing : Option (String × String) := none
  /-- The version, for a command that tells it. -/
  version : Option String := none
deriving Inhabited

/-- Drops blanks and line breaks at the end of a text. -/
def trimEnd (s : String) : String :=
  String.ofList (s.toList.reverse.dropWhile Char.isWhitespace).reverse

/-- A run of spaces. -/
def spaces (n : Nat) : String := String.ofList (List.replicate n ' ')

/-- The width of the terminal that help pages are laid out for. -/
def pageWidth : Nat := 100

/-- Whether a help text of width `w` next to names `longest` wide would overflow the page, so
that help texts go on the next line. -/
def overflows (longest w : Nat) : Bool :=
  let taken := longest + 4
  taken ≤ pageWidth && 40 < taken && pageWidth - taken < w

namespace Command

/-- The option with an id. -/
def find? (c : Command) (id : String) : Option Arg := c.args.find? (·.id == id)

/-- The option with a long name. -/
def findLong? (c : Command) (long : String) : Option Arg := c.args.find? (·.long == long)

/-- The option with a short name. -/
def findShort? (c : Command) (short : Char) : Option Arg := c.args.find? (·.short == some short)

/-- The groups an option belongs to. -/
def groupsOf (c : Command) (id : String) : List Group := c.groups.filter (·.members.contains id)

/-- How the command is asked for help: by its help option, else by the help command. -/
def hint (c : Command) : Option String :=
  if c.args.any (·.action == .help) then some "--help"
  else if !c.commands.isEmpty then some "help"
  else none

/-- Whether the long help page says more than the short one. -/
def hasLongHelp (c : Command) : Bool :=
  c.longAbout.isSome || c.args.any fun a => !a.hidden && !a.isBuiltIn && a.longHelp.isSome

/-- Whether the usage line shows `[OPTIONS]`. -/
def needsOptionsTag (c : Command) : Bool :=
  c.args.any fun a => !a.isBuiltIn && !a.hidden && !a.required

/-- A group as the usage line shows it: its options, by `|`, in angle brackets. -/
def groupForm (c : Command) (g : Group) : String :=
  "<" ++ "|".intercalate (g.members.filterMap fun id => (c.find? id).map (·.display)) ++ ">"

/-- The required options and those of `given`, as a usage line names them: options first,
then groups, each once; an option of a named group is shown through its group. -/
def requiredParts (c : Command) (given : List Key) : List String :=
  let keys := (c.args.filter (·.required)).map (fun a => Key.option a.id) ++ given
  let groups := keys.filterMap fun k =>
    match k with
    | .group g => c.groups.find? (·.id == g)
    | .option _ => none
  let members := groups.flatMap (·.members)
  let options := keys.filterMap fun k =>
    match k with
    | .option id => ((c.find? id).filter fun a => !members.contains a.id).map (·.display)
    | .group _ => none
  options.eraseDups ++ (groups.map c.groupForm).eraseDups

/-- The values that follow, as a usage line shows them. -/
def trailingForm (c : Command) : String :=
  match c.trailing with
  | some (name, _) => "[" ++ name ++ "]..."
  | none => ""

/-- The end of a usage line: the values that follow, and the subcommand when one is needed. -/
def usageEnd (c : Command) : String :=
  (if c.trailing.isSome then c.trailingForm ++ " " else "") ++
    (if c.commands.isEmpty then "" else "<COMMAND>")

/-- The usage line of the help page. -/
def helpUsage (c : Command) : String :=
  trimEnd (c.usageName ++ " " ++ (if c.needsOptionsTag then "[OPTIONS] " else "") ++
    String.join ((c.requiredParts []).map (· ++ " ")) ++ c.usageEnd)

/-- The usage line once the options `given` were given. -/
def usage (c : Command) (given : List Key) : String :=
  if given.isEmpty then c.helpUsage
  else trimEnd (c.usageName ++ " " ++ String.join ((c.requiredParts given).map (· ++ " ")) ++ c.usageEnd)

theorem helpUsage_plain (c : Command) (h1 : c.args = []) (h2 : c.commands = [])
    (h3 : c.trailing = none) : c.helpUsage = trimEnd (c.usageName ++ " ") := by
  simp [helpUsage, needsOptionsTag, requiredParts, usageEnd, h1, h2, h3]

/-- The help text of an option with its notes; on the long page the notes follow after a
blank line, each on a line of its own. -/
def helpText (a : Arg) (long : Bool) : String :=
  let text := if long then a.longHelp.getD a.help else a.help
  match a.notes with
  | [] => text
  | notes =>
    (if text.isEmpty then "" else text ++ (if long then "\n\n" else " ")) ++
      (if long then "\n" else " ").intercalate notes

/-- Indents the lines after the first of a help text that stands on the next line. -/
def indentLines (s : String) : String := ("\n" ++ spaces 10).intercalate (s.splitOn "\n")

/-- The `Options` section. -/
def optionsSection (c : Command) (long : Bool) : Option String :=
  let shown := c.args.filter (!·.hidden)
  if shown.isEmpty then none
  else
    let longest := shown.foldl (fun m a => max m (a.display.length + 4)) 2
    let nextLine := long || shown.any fun a =>
      overflows longest ((helpText a false).length)
    let line (a : Arg) : String :=
      let names := "  " ++ (match a.short with
        | some ch => "-" ++ ch.toString ++ ", "
        | none => "    ") ++ "--" ++ a.long ++ a.suffix
      if nextLine then names ++ "\n" ++ spaces 10 ++ indentLines (helpText a long)
      else names ++ spaces (longest + 2 - (a.display.length + 4)) ++ helpText a false
    some ("Options:\n" ++ (if nextLine && long then "\n\n" else "\n").intercalate (shown.map line))

/-- The `Commands` section. -/
def commandsSection (c : Command) : Option String :=
  if c.commands.isEmpty then none
  else
    let longest := c.commands.foldl (fun m (n, _) => max m n.length) 2
    let nextLine := c.commands.any fun (_, about) => overflows longest about.length
    some ("Commands:\n" ++ "\n".intercalate (c.commands.map fun (n, about) =>
      if nextLine then "  " ++ n ++ "\n" ++ spaces 10 ++ about
      else "  " ++ n ++ spaces (longest + 2 - n.length) ++ about))

/-- The `Arguments` section. -/
def argumentsSection (c : Command) : Option String :=
  c.trailing.map fun (_, help) => "Arguments:\n  " ++ c.trailingForm ++ "  " ++ help

/-- The help page; `long` asks for the long page, which a command without more to say shows
as the short one. -/
def page (c : Command) (long : Bool) : String :=
  let long := long && c.hasLongHelp
  let about := if long then c.longAbout.getD c.about else c.about
  let sections := [c.commandsSection, c.argumentsSection, c.optionsSection long].filterMap id
  trimEnd (about ++ "\n\nUsage: " ++ c.helpUsage ++
    (if sections.isEmpty then "" else "\n\n" ++ "\n\n".intercalate sections)) ++ "\n"

end Command

/-- The line that shows a command's version. -/
def Command.versionLine (c : Command) : String := c.name ++ " " ++ c.version.getD "" ++ "\n"

/-- A tool: its main command and the subcommands. -/
structure Tool where
  main : Command
  subcommands : List Command
deriving Inhabited

end Rollout.CommandLine

/-!
# Options

An option of a command has a long name (`--script`), perhaps a one-letter short name (`-s`),
and an action: take one value, switch something on, or ask for the help page or the version.
An option may be required, hidden from the help page, global (given to every subcommand as
well), have a default value, or be read from an environment variable when it is not given.

Values are read by kind: text is taken as it is, a path must not be empty, and a count is a
64-bit number without sign (a leading `+` is allowed), read digit by digit so that the first
character that is not a digit, or the first digit that takes the number past 64 bits, is the
reason given.

Options that belong together, the fields of one subcommand, form a `Group`; a usage line may
show a group as `<--a|--b>`.

* `readCount_digits`: a run of digits that fits is read as its number.
-/

-- Powers of numbers use the core instance, whatever else is imported.
attribute [local instance(high)] instPowNat

namespace Rollout.CommandLine

/-- How an option's value is read. -/
inductive ValueKind where
  | text
  | path
  | count
deriving DecidableEq, Inhabited

/-- What giving an option does. -/
inductive Action where
  /-- Takes one value, shown in the help page under its name. -/
  | value (name : String) (kind : ValueKind)
  /-- Switches something on. -/
  | switch
  | help
  | version
deriving DecidableEq, Inhabited

/-- A value read for an option. -/
inductive Given where
  | text (s : String)
  | count (n : Nat)
  | flag (b : Bool)
deriving DecidableEq, Inhabited

/-- An option of a command. -/
structure Arg where
  /-- How the program refers to the option. -/
  id : String
  long : String
  short : Option Char := none
  action : Action
  help : String
  /-- The text of the long help page, when it differs. -/
  longHelp : Option String := none
  required : Bool := false
  hidden : Bool := false
  global : Bool := false
  default : Option String := none
  env : Option String := none
deriving Inhabited

namespace Arg

/-- Whether the option takes a value. -/
def takesValue (a : Arg) : Bool :=
  match a.action with
  | .value _ _ => true
  | _ => false

/-- Whether the option asks for the help page or the version. -/
def isBuiltIn (a : Arg) : Bool :=
  match a.action with
  | .help | .version => true
  | _ => false

/-- What follows the option's name where it is shown: its value's name in angle brackets. -/
def suffix (a : Arg) : String :=
  match a.action with
  | .value name _ => " <" ++ name ++ ">"
  | _ => ""

/-- How the option is named in messages and usage lines: `--script <SCRIPT>`. -/
def display (a : Arg) : String := "--" ++ a.long ++ a.suffix

/-- The notes after the option's help text: its default value, for an option with a value. -/
def notes (a : Arg) : List String :=
  match a.takesValue, a.default with
  | true, some d => ["[default: " ++ d ++ "]"]
  | _, _ => []

end Arg

/-- Reads a count, or gives the reason it is refused. -/
def readCount (s : String) : Except String Nat :=
  let digits := match s.toList with
    | '+' :: rest => rest
    | cs => cs
  if s.isEmpty then .error "cannot parse integer from empty string"
  else if digits.isEmpty then .error "invalid digit found in string"
  else digits.foldlM (fun n c =>
    if '0' ≤ c && c ≤ '9' then
      let m := n * 10 + (c.toNat - '0'.toNat)
      if m < 2 ^ (64 : Nat) then .ok m else .error "number too large to fit in target type"
    else .error "invalid digit found in string") 0

theorem readCount_digits : (readCount "42").toOption = some 42 := by
  decide

/-- Why a value was refused: it is empty where it may not be, or it is not valid for the
reason given. -/
inductive Refused where
  | empty
  | invalid (reason : String)
deriving DecidableEq, Inhabited

/-- Reads a value for an option. A switch reads `true` or `false`. -/
def Arg.read (a : Arg) (raw : String) : Except Refused Given :=
  match a.action with
  | .value _ .text => .ok (.text raw)
  | .value _ .path => if raw.isEmpty then .error .empty else .ok (.text raw)
  | .value _ .count =>
    match readCount raw with
    | .ok n => .ok (.count n)
    | .error r => .error (.invalid r)
  | _ =>
    if raw == "true" then .ok (.flag true)
    else if raw == "false" then .ok (.flag false)
    else .error (.invalid "expected true or false")

/-- Options that belong together. -/
structure Group where
  id : String
  members : List String
deriving Inhabited

end Rollout.CommandLine

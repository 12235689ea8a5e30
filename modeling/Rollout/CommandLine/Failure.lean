/-!
# Refused command lines

A command line is refused for a cause, or it asks for a page (the help page, the version)
instead of a run. A refusal is written as `error: ` and the cause, a tip when one helps, the
usage line of the command concerned, and a pointer to its help option; a page is written as it
is. Each cause has a kind, the name under which the program reports it.

* `message_version`: the version is shown as its line alone.
-/

namespace Rollout.CommandLine

/-- A tip that follows a refusal. -/
inductive Tip where
  /-- An option of the same command has a similar name. -/
  | similarOption (option : String)
  /-- Subcommands have similar names, the most similar last. -/
  | similarCommands (names : List String)
  /-- The option is one of a subcommand named later on the line. -/
  | optionOf (command option : String)
  /-- A subcommand was named after `--`, which makes it a value. -/
  | escapedCommand (command : String)
deriving DecidableEq, Inhabited

/-- Names, each quoted, joined by commas. -/
def quotedList (names : List String) : String :=
  ", ".intercalate (names.map fun n => "'" ++ n ++ "'")

/-- The text of a tip. -/
def Tip.text : Tip → String
  | .similarOption o => "a similar argument exists: '" ++ o ++ "'"
  | .similarCommands [n] => "a similar subcommand exists: '" ++ n ++ "'"
  | .similarCommands ns => "some similar subcommands exist: " ++ quotedList ns
  | .optionOf c o => "'" ++ c ++ " " ++ o ++ "' exists"
  | .escapedCommand c => "subcommand '" ++ c ++ "' exists; to use it, remove the '--' before it"

/-- Why a command line is not run. Usage lines are given without their heading. -/
inductive Cause where
  /-- The help page was asked for. -/
  | help (page : String)
  /-- Nothing was given where a subcommand is needed, so the help page is shown. -/
  | bareHelp (page : String)
  /-- The version was asked for. -/
  | version (line : String)
  | unexpectedArgument (argument : String) (tip : Option Tip) (usage : String)
  | unknownCommand (name : String) (tip : Option Tip) (usage : String)
  | missingValue (option : String)
  | invalidValue (value option reason : String)
  | unexpectedValue (value option usage : String)
  | repeated (option usage : String)
  | missingOptions (options : List String) (usage : String)
  | missingCommand (tool : String) (names : List String) (usage : String)
deriving DecidableEq, Inhabited

namespace Cause

/-- The name of the kind of a cause. -/
def kind : Cause → String
  | .help _ => "DisplayHelp"
  | .bareHelp _ => "DisplayHelpOnMissingArgumentOrSubcommand"
  | .version _ => "DisplayVersion"
  | .unexpectedArgument .. => "UnknownArgument"
  | .unknownCommand .. => "InvalidSubcommand"
  | .missingValue _ => "InvalidValue"
  | .invalidValue .. => "ValueValidation"
  | .unexpectedValue .. => "TooManyValues"
  | .repeated .. => "ArgumentConflict"
  | .missingOptions .. => "MissingRequiredArgument"
  | .missingCommand .. => "MissingSubcommand"

/-- Whether the cause is a page asked for, which is shown on standard output and is no error. -/
def isPage : Cause → Bool
  | .help _ | .version _ => true
  | _ => false

/-- The sentence that states the cause. -/
def statement : Cause → String
  | .help p | .bareHelp p | .version p => p
  | .unexpectedArgument a _ _ => "unexpected argument '" ++ a ++ "' found"
  | .unknownCommand n _ _ => "unrecognized subcommand '" ++ n ++ "'"
  | .missingValue o => "a value is required for '" ++ o ++ "' but none was supplied"
  | .invalidValue v o r => "invalid value '" ++ v ++ "' for '" ++ o ++ "': " ++ r
  | .unexpectedValue v o _ =>
    "unexpected value '" ++ v ++ "' for '" ++ o ++ "' found; no more were expected"
  | .repeated o _ => "the argument '" ++ o ++ "' cannot be used multiple times"
  | .missingOptions os _ =>
    "the following required arguments were not provided:" ++
      String.join (os.map fun o => "\n  " ++ o)
  | .missingCommand t ns _ =>
    "'" ++ t ++ "' requires a subcommand but one was not provided" ++
      (if ns.isEmpty then "" else "\n  [subcommands: " ++ ", ".intercalate ns ++ "]")

/-- The tip of a cause, if any. -/
def tip : Cause → Option Tip
  | .unexpectedArgument _ t _ | .unknownCommand _ t _ => t
  | _ => none

/-- The usage line shown with a cause, if any. -/
def usage : Cause → Option String
  | .unexpectedArgument _ _ u | .unknownCommand _ _ u | .unexpectedValue _ _ u
  | .repeated _ u | .missingOptions _ u | .missingCommand _ _ u => some u
  | _ => none

end Cause

/-- A refused command line: the cause, and how the command concerned is asked for help
(`--help`), if it can be. -/
structure Failure where
  cause : Cause
  hint : Option String := some "--help"
deriving DecidableEq, Inhabited

namespace Failure

/-- The name of the kind of the refusal. -/
def kind (f : Failure) : String := f.cause.kind

/-- The full text of a refusal; a page is its own text. -/
def message (f : Failure) : String :=
  match f.cause with
  | .help p | .bareHelp p | .version p => p
  | c =>
    "error: " ++ c.statement ++
      (match c.tip with
        | some t => "\n\n  tip: " ++ t.text
        | none => "") ++
      (match c.usage with
        | some u => "\n\nUsage: " ++ u
        | none => "") ++
      (match f.hint with
        | some h => "\n\nFor more information, try '" ++ h ++ "'.\n"
        | none => "\n")

/-- The exit status of a refused command line: none for a page asked for, else two. -/
def exitCode (f : Failure) : Nat := if f.cause.isPage then 0 else 2

end Failure

theorem message_version (line : String) (hint : Option String) :
    ({ cause := .version line, hint } : Failure).message = line := rfl

end Rollout.CommandLine

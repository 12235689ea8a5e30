import Rollout.CommandLine.Read
import Rollout.Settings
/-!
# What the program is asked to do

The program is called `deckhand`. It runs a script, validates one without running it, or
lists the actor types it knows. Before or after the subcommand, global options set the log
filter, the load balancer inventory, the number of concurrent blocking calls (ten unless told
otherwise), and the credentials, which are hidden from the help pages and are read from the
environment when not given. The credentials become `Settings`; an endpoint given for the
package repository service gets a final `/`.

* `settings_none`: without credentials the settings are the defaults.
-/

namespace Rollout

open CommandLine

/-- The help option; where the long help page says more, its short text points to it. -/
def helpOption (more : Bool) : Arg :=
  if more then
    { id := "help", long := "help", short := some 'h', action := .help,
      help := "Print help (see more with '--help')",
      longHelp := some "Print help (see a summary with '-h')" }
  else { id := "help", long := "help", short := some 'h', action := .help, help := "Print help" }

/-- The version option. -/
def versionOption : Arg :=
  { id := "version", long := "version", short := some 'V', action := .version, help := "Print version" }

/-- A credential option: hidden, global, and read from an environment variable. -/
def credentialOption (id long name : String) (help : String := "") : Arg :=
  { id, long, action := .value name .text, help, hidden := true, global := true, env := some name }

/-- The ids of the credential options. -/
def credentialIds : List String :=
  ["aws_access_key_id", "aws_secret_access_key", "packagecloud_account", "packagecloud_token",
    "packagecloud_endpoint"]

/-- The options of every command. -/
def globalOptions : List Arg :=
  [ { id := "level", long := "level", action := .value "LEVEL" .text, global := true,
      help := "Log filter, e.g. `debug` or `deckhand_engine=trace` (overrides RUST_LOG)" },
    { id := "inventory", long := "inventory", action := .value "INVENTORY" .path, global := true,
      help := "Load balancer inventory (JSON or YAML) backing the aws.elb actors" },
    { id := "pool_size", long := "pool-size", action := .value "POOL_SIZE" .count, global := true,
      help := "Maximum number of concurrent blocking API calls", default := some "10" },
    credentialOption "aws_access_key_id" "aws-access-key-id" "AWS_ACCESS_KEY_ID",
    credentialOption "aws_secret_access_key" "aws-secret-access-key" "AWS_SECRET_ACCESS_KEY",
    credentialOption "packagecloud_account" "packagecloud-account" "PACKAGECLOUD_ACCOUNT",
    credentialOption "packagecloud_token" "packagecloud-token" "PACKAGECLOUD_TOKEN",
    credentialOption "packagecloud_endpoint" "packagecloud-endpoint" "PACKAGECLOUD_ENDPOINT"
      "packagecloud API root" ]

/-- The script option of the commands that read one. -/
def scriptOption : Arg :=
  { id := "script", long := "script", short := some 's', action := .value "SCRIPT" .path,
    help := "Script file (.json, .yaml or .yml)", required := true }

/-- The option that runs a script without changing anything. -/
def dryOption : Arg :=
  { id := "dry", long := "dry", action := .switch, help := "Only read; log the changes that would be made",
    default := some "false" }

/-- The subcommands. -/
def subcommands : List Command :=
  [ { name := "run", usageName := "deckhand run", about := "Assemble and run a script",
      args := [scriptOption, dryOption] ++ globalOptions ++ [helpOption false],
      groups := [{ id := "Run", members := ["script", "dry"] }] },
    { name := "validate", usageName := "deckhand validate", about := "Assemble a script without running it",
      args := [scriptOption] ++ globalOptions ++ [helpOption false],
      groups := [{ id := "Validate", members := ["script"] }] },
    { name := "actors", usageName := "deckhand actors", about := "List the registered actor types",
      args := globalOptions ++ [helpOption false] },
    { name := "help", usageName := "deckhand help",
      about := "Print this message or the help of the given subcommand(s)",
      trailing := some ("COMMAND", "Print help for the subcommand(s)") } ]

/-- The program's command line. -/
def tool : Tool :=
  { main :=
      { name := "deckhand", usageName := "deckhand",
        about := "Run deployment scripts made of composable actors",
        longAbout := some ("deckhand assembles a tree of actors from a JSON or YAML script, " ++
          "validates every actor up front, then runs the tree. Groups run their acts in order " ++
          "(group.Sync) or all at once (group.Async)."),
        args := globalOptions ++ [helpOption true, versionOption],
        groups := [{ id := "CredentialArgs", members := credentialIds }],
        commands := subcommands.map fun c => (c.name, c.about),
        version := some "0.1.0" },
    subcommands }

/-- What the program is asked to do. -/
inductive Task where
  | run (script : String) (dry : Bool)
  | validate (script : String)
  | actors
deriving DecidableEq, Inhabited

/-- A command line the program accepts. -/
structure Invocation where
  task : Task
  level : Option String := none
  inventory : Option String := none
  poolSize : Nat := 10
  /-- The credentials as given, by option id. -/
  credentials : List (String × String) := []
deriving Inhabited

namespace Invocation

/-- The text of an option's value. -/
def text? (o : Outcome) (id : String) : Option String :=
  match o.get? id with
  | some (.text s) => some s
  | _ => none

/-- The invocation a command line that was read asks for. -/
def ofOutcome (o : Outcome) : Invocation :=
  let script := (text? o "script").getD ""
  let task := match o.command with
    | some "run" => .run script (o.get? "dry" == some (.flag true))
    | some "validate" => .validate script
    | _ => .actors
  { task, level := text? o "level", inventory := text? o "inventory",
    poolSize := match o.get? "pool_size" with
      | some (.count n) => n
      | _ => 10,
    credentials := credentialIds.filterMap fun id => (text? o id).map (id, ·) }

/-- Reads a command line, with the environment given. -/
def read (env : String → Option String) (words : List String) : Except Failure Invocation :=
  (tool.read env words).map ofOutcome

/-- The credential given under an id. -/
def credential? (i : Invocation) (id : String) : Option String := (i.credentials.find? (·.1 == id)).map (·.2)

/-- The credentials as settings; an endpoint given gets a final `/`. -/
def settings (i : Invocation) : Settings :=
  let account := i.credential? "packagecloud_account"
  let token := i.credential? "packagecloud_token"
  let repo : RepoLogin := { account, token }
  let accessKeyId := i.credential? "aws_access_key_id"
  let secretAccessKey := i.credential? "aws_secret_access_key"
  { aws := { accessKeyId, secretAccessKey },
    repo := match i.credential? "packagecloud_endpoint" with
      | some e => repo.withEndpoint e
      | none => repo }

/-- The name of the subcommand. -/
def command (i : Invocation) : String :=
  match i.task with
  | .run .. => "run"
  | .validate _ => "validate"
  | .actors => "actors"

end Invocation

theorem settings_none : ({ task := .actors } : Invocation).settings = {} := rfl

end Rollout

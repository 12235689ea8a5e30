import Rollout.Log.Filter
import Rollout.Text.Quote
import Rollout.Keyed
/-!
# Log lines

A log event is written as one line: its level, the spans of the actors it was written under
that the filter shows (outermost first, each with its fields in braces and a colon after it),
the target, and the message followed by the named fields as `name=value`, a field that holds a
text in quotes.

An actor's span is named `actor`, has the target of the actor module, and holds the actor's
label, kind and dry-run flag; it is an info span.

Where logs are captured rather than written, the events of info level and above are kept, each
under the label of the innermost actor it was written under, or outside every actor.

* `line_plain`: an event outside every actor under the `info` filter is its level, target and
  message.
-/

namespace Rollout

open Log

/-- The span of an actor, as a filter sees it. -/
def Log.actorSite : Site :=
  { target := Origin.actor.target, span := some "actor", fields := ["desc", "kind", "dry_run"],
    level := .info }

/-- The fields an actor's span records. -/
def Identity.recorded (i : Identity) : List (String × Recorded) :=
  [("desc", .text i.description), ("kind", .text i.kind), ("dry_run", .flag i.dryRun)]

/-- An actor's span as a line shows it. -/
def Identity.label (i : Identity) : String :=
  "actor\x7bdesc=" ++ i.description ++ " kind=" ++ i.kind ++ " dry_run=" ++ toString i.dryRun ++
    "\x7d"

/-- An event, as a filter sees it. -/
def Event.site (e : Event) : Site :=
  { target := e.origin.target, fields := "message" :: e.fields.map (·.1), level := e.level }

/-- The message and the fields of an event. -/
def Event.text (e : Event) : String :=
  e.message ++ String.join (e.fields.map fun (k, v) =>
    " " ++ k ++ "=" ++ (if e.quoted.contains k then Text.quote v else v))

/-- The line of an event written under the actors of a scope (innermost first), if the filter
lets it through. -/
def Log.Filter.line? (f : Filter) (scope : Scope) (e : Event) : Option String :=
  let shown := scope.reverse.filter fun _ => f.showsSpan actorSite
  let inside := shown.filterMap fun i => f.spanVerbosity? actorSite i.recorded
  if f.writes e.site inside then
    some (e.level.name ++ " " ++ String.join (shown.map (·.label ++ ":")) ++
      (if shown.isEmpty then "" else " ") ++ e.origin.target ++ ": " ++ e.text)
  else none

/-- Whether an event is kept where logs are captured: info and above. -/
def Event.captured (e : Event) : Bool := e.level != .debug

/-- The captured events written under actors, by the label of the innermost actor. -/
def Log.byActor (journal : Array (Scope × Event)) : List (String × Array Event) :=
  journal.foldl (fun acc (scope, e) =>
    match scope.head? with
    | some i =>
      if e.captured then
        Keyed.insert i.description (((Keyed.get? i.description acc).getD #[]).push e) acc
      else acc
    | none => acc) []

/-- The captured events written outside every actor. -/
def Log.outside (journal : Array (Scope × Event)) : List Event :=
  journal.toList.filterMap fun (scope, e) => if scope.isEmpty && e.captured then some e else none

theorem line_plain (m : String) :
    Filter.info.line? [] { level := .info, origin := .runner, message := m } =
      some ("INFO deckhand_engine::runner: " ++ m) := by
  simp [Filter.line?, Event.text, Filter.writes, Filter.letsThrough, Filter.decider?,
    Filter.statics, Filter.info, Directive.isStatic, Directive.caresStatically, Event.site,
    Verbosity.allows, Verbosity.ofLevel, Verbosity.rank, Level.name, Origin.target]

end Rollout

import Rollout.Text.Ranges
import Rollout.Text.Printable
import Rollout.Text.GraphemeExtend
import Rollout.Text.Age
import Rollout.Text.Alphanumeric
import Rollout.Text.Blank
import Rollout.Text.Quote
import Rollout.Number.Binary64
import Rollout.Number.Rounding
import Rollout.Number.Shortest
import Rollout.Number.Render
import Rollout.Number.Integer
import Rollout.Fault
import Rollout.Threshold
import Rollout.Keyed
import Rollout.Json.Value
import Rollout.Json.Render
import Rollout.Json.Shape
import Rollout.Json.Decode
import Rollout.Json.Cursor
import Rollout.Json.Read
import Rollout.Settings
import Rollout.Balancer.Region
import Rollout.Retry.Policy
import Rollout.Registry
import Rollout.Threshold.Shape
import Rollout.Spec
import Rollout.Duration
import Rollout.Fault.Description
import Rollout.Timestamp
import Rollout.Package
import Rollout.Balancer.Inventory
import Rollout.Actor
import Rollout.Assembly
import Rollout.Balancer.Service
import Rollout.Execution
import Rollout.Number.Decimal
import Rollout.Pattern.CharSet
import Rollout.Pattern.Compile
import Rollout.Pattern.Machine
import Rollout.Pattern.Lower
import Rollout.Pattern.Match
import Rollout.Pattern.Node
import Rollout.Pattern.Option
import Rollout.Pattern.Parse
import Rollout.Pattern.Property
import Rollout.Pattern.Report
import Rollout.Pattern.Form
import Rollout.Pattern.Utf8Ranges
import Rollout.Pattern.Size
import Rollout.Pattern.Syntax
import Rollout.Poll
import Rollout.Program
import Rollout.Program.Machine
import Rollout.Replay
import Rollout.Repository
import Rollout.Url.Escape
import Rollout.Url.Punycode
import Rollout.Url.Host
import Rollout.Url.Basic
import Rollout.Url.Parse
import Rollout.Retry.Idempotent
import Rollout.Script
import Rollout.Text.CaseFold
import Rollout.Text.Category
import Rollout.Text.Property
import Rollout.Text.Script
import Rollout.Text.Segment
import Rollout.World
import Rollout.Yaml.Document
import Rollout.Yaml.Event
import Rollout.Yaml.Read
import Rollout.Yaml.Scalar
import Rollout.Yaml.Token
import Rollout.Yaml.Token.Fetch
import Rollout.Yaml.Token.Lexer
import Rollout.Yaml.Token.Scalar
import Rollout.CommandLine.Similarity
import Rollout.CommandLine.Arg
import Rollout.CommandLine.Failure
import Rollout.CommandLine.Command
import Rollout.CommandLine.Read
import Rollout.Invocation
import Rollout.Session
import Rollout.Log.Filter
import Rollout.Log.Line
import Rollout.Console
import Rollout.Main
import Rollout.Proofs.Moves
import Rollout.Proofs.Alone
import Rollout.Proofs.Yields
import Rollout.Proofs.Scenario
import Rollout.Proofs.Retry
import Rollout.Proofs.Poll
import Rollout.Proofs.Ends
import Rollout.Proofs.Natural
import Rollout.Proofs.Naturality
import Rollout.Proofs.Handoff
import Rollout.Proofs.Group
import Rollout.Proofs.Invariant
import Rollout.Proofs.DryRun
import Rollout.Proofs.ThresholdText
import Rollout.Proofs.Assembled
import Rollout.Proofs.Nesting
import Rollout.Proofs.FirstFailure
import Rollout.Proofs.Timed
import Rollout.Proofs.Clock
import Rollout.Proofs.Schedule
import Rollout.Proofs.RequiredCount
import Rollout.Proofs.DeletionPlan
import Rollout.Proofs.ThresholdGrammar
import Rollout.Proofs.Pruning
import Rollout.Proofs.Backoff
import Rollout.Proofs.Membership
import Rollout.Proofs.Wake
import Rollout.Proofs.Healthy
import Rollout.Proofs.Causes
import Rollout.Proofs.Secrets
import Rollout.Proofs.Reach

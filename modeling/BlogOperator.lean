import BlogOperator.Child.Desired
import BlogOperator.Child.Kind
import BlogOperator.Child.Owner
import BlogOperator.Child.Standing
import BlogOperator.Cluster.Call
import BlogOperator.Cluster.Key
import BlogOperator.Cluster.Memory
import BlogOperator.Cluster.Outage
import BlogOperator.Cluster.Shelf
import BlogOperator.Config.Basic
import BlogOperator.Config.Environment
import BlogOperator.Config.Seconds
import BlogOperator.Config.Wire
import BlogOperator.Der
import BlogOperator.Failure
import BlogOperator.Ghost.Basic
import BlogOperator.Ghost.Condition
import BlogOperator.Ghost.Definition
import BlogOperator.Ghost.Manifest
import BlogOperator.Ghost.Wire
import BlogOperator.Http.Address
import BlogOperator.Http.Api
import BlogOperator.Http.Event
import BlogOperator.Http.Message
import BlogOperator.Http.Script
import BlogOperator.Http.ServerName
import BlogOperator.Http.Status
import BlogOperator.Http.Uri
import BlogOperator.Json.Basic
import BlogOperator.Json.Fault
import BlogOperator.Json.Form
import BlogOperator.Json.Lexeme
import BlogOperator.Json.Printer
import BlogOperator.Json.Record
import BlogOperator.Json.Scan
import BlogOperator.Json.Schema
import BlogOperator.Key.Certificate
import BlogOperator.Key.Curve
import BlogOperator.Key.Digest
import BlogOperator.Key.Private
import BlogOperator.Key.Rsa
import BlogOperator.Key.Twisted
import BlogOperator.Kubernetes.Metadata
import BlogOperator.Kubernetes.Network
import BlogOperator.Kubernetes.Reference
import BlogOperator.Kubernetes.Scalar
import BlogOperator.Kubernetes.Schema.Container
import BlogOperator.Kubernetes.Schema.Pod
import BlogOperator.Kubernetes.Schema.Selection
import BlogOperator.Kubernetes.Schema.Status
import BlogOperator.Kubernetes.Schema.Volume
import BlogOperator.Kubernetes.Storage
import BlogOperator.Kubernetes.Workload
import BlogOperator.Launch.Client
import BlogOperator.Launch.Connection
import BlogOperator.Launch.Directive
import BlogOperator.Launch.Identity
import BlogOperator.Launch.Inside
import BlogOperator.Launch.Kubeconfig
import BlogOperator.Launch.Roots
import BlogOperator.Launch.Startup
import BlogOperator.Launch.Surroundings
import BlogOperator.Main
import BlogOperator.Number.Bytes
import BlogOperator.Number.Count
import BlogOperator.Number.Decimal
import BlogOperator.Number.Digit
import BlogOperator.Number.Power
import BlogOperator.Number.Shortest
import BlogOperator.Pattern.Automaton
import BlogOperator.Pattern.Basic
import BlogOperator.Pattern.Reader
import BlogOperator.Proofs.Alike
import BlogOperator.Proofs.CallDiscipline
import BlogOperator.Proofs.Confinement
import BlogOperator.Proofs.Convergence
import BlogOperator.Proofs.Course
import BlogOperator.Proofs.Due
import BlogOperator.Proofs.Idempotence
import BlogOperator.Proofs.LoneTeam
import BlogOperator.Proofs.Noninterference
import BlogOperator.Proofs.Reachable
import BlogOperator.Proofs.Recorded
import BlogOperator.Proofs.Rest
import BlogOperator.Proofs.Round
import BlogOperator.Proofs.Run
import BlogOperator.Proofs.TeamView
import BlogOperator.Proofs.Traffic
import BlogOperator.Proofs.Unversioned
import BlogOperator.Reconcile.Backoff
import BlogOperator.Reconcile.Controller
import BlogOperator.Reconcile.Log
import BlogOperator.Reconcile.Notice
import BlogOperator.Reconcile.Pass
import BlogOperator.Reconcile.Readiness
import BlogOperator.Reconcile.Round
import BlogOperator.Reconcile.Step
import BlogOperator.Text.Armor
import BlogOperator.Text.Base64
import BlogOperator.Text.Blank
import BlogOperator.Text.Letter
import BlogOperator.Text.Printable
import BlogOperator.Text.Quoted
import BlogOperator.Text.Section
import BlogOperator.Text.Utf8
import BlogOperator.Time.Calendar
import BlogOperator.Time.Duration
import BlogOperator.Time.Instant
import BlogOperator.Time.Reader
import BlogOperator.Yaml.Cursor
import BlogOperator.Yaml.Fault
import BlogOperator.Yaml.Flaw
import BlogOperator.Yaml.Node
import BlogOperator.Yaml.Plain
import BlogOperator.Yaml.Printer
import BlogOperator.Yaml.Reader
import BlogOperator.Yaml.Shape
import BlogOperator.Yaml.Token
import BlogOperator.Yaml.Token.Lexer
import BlogOperator.Yaml.Token.Name
import BlogOperator.Yaml.Token.Scalar
import BlogOperator.Yaml.Typed
import BlogOperator.Yaml.Value
import BlogOperator.Proofs.Report
import BlogOperator.Proofs.Grounds
import BlogOperator.Proofs.History
import BlogOperator.Proofs.LostUpdates
import BlogOperator.Proofs.Interruption
import BlogOperator.Proofs.Provenance
import BlogOperator.Proofs.HistoryIndependence
import BlogOperator.Proofs.Statuses
import BlogOperator.Proofs.Origins
import BlogOperator.Proofs.OwnerCascade
import BlogOperator.Proofs.Succession
import BlogOperator.Proofs.Ending
import BlogOperator.Proofs.LastingReadiness
import BlogOperator.Proofs.Announcements
import BlogOperator.Proofs.Retries
import BlogOperator.Proofs.Rules
import BlogOperator.Proofs.Sequence
import BlogOperator.Proofs.References
import BlogOperator.Proofs.Replies
import BlogOperator.Proofs.Wire
import BlogOperator.Proofs.Absence
import BlogOperator.Proofs.Waits
import BlogOperator.Proofs.Rollout
import BlogOperator.Proofs.Readings
import BlogOperator.Proofs.Spellings
import BlogOperator.Proofs.Adoption
import BlogOperator.Proofs.ConditionMap
import BlogOperator.Proofs.Withholding
import BlogOperator.Proofs.SecondCounts
import BlogOperator.Proofs.Loading
import BlogOperator.Proofs.Settings
import BlogOperator.Proofs.Integrity
import BlogOperator.Proofs.AssignedIdentities
import BlogOperator.Proofs.ReadBack

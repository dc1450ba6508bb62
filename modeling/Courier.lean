import Courier.FileTree
import Courier.Main
import Courier.Template.Session
import Courier.Proofs.Template.Lossless
import Courier.Proofs.Template.Substitution
import Courier.Proofs.Batch.Concurrency
import Courier.Proofs.Template.Rendering
import Courier.Proofs.Batch.Content
import Courier.Proofs.Batch.Numbering
import Courier.Proofs.Batch.Freshness
import Courier.Batch.Broadcast
import Courier.Proofs.Batch.Broadcast
import Courier.Proofs.Batch.Determined
import Courier.Proofs.Json.Record
import Courier.Proofs.Batch.Preview
import Courier.Cluster.Unanswered
import Courier.Command.Plan
import Courier.Command.Job
import Courier.Cluster.Server
import Courier.Proofs.Cluster.Server
import Courier.Proofs.Cluster.Registry
import Courier.Proofs.Template.Composition
import Courier.Proofs.Batch.LookAhead
import Courier.Time.Reading
import Courier.Proofs.Time.Reading
import Courier.Proofs.Template.Failure
import Courier.Proofs.Template.Balance
import Courier.Proofs.Template.Payload
import Courier.Proofs.Template.Directive
import Courier.Proofs.Time.Calendar
import Courier.Proofs.Template.Timestamp
import Courier.Template.Tracking
import Courier.Proofs.Template.Tracking
import Courier.Proofs.Time.Clock
import Courier.Template.Timing
import Courier.Proofs.Template.Timing
import Courier.Proofs.Batch.Truncation
import Courier.Cluster.Named
import Courier.Proofs.Cluster.Named
import Courier.Cluster.Reuse
import Courier.Proofs.Cluster.Reuse
import Courier.Proofs.Batch.Recording
import Courier.Proofs.Batch.Summary
import Courier.Proofs.Command.Status
import Courier.Proofs.Template.Literal
import Courier.Proofs.Batch.Reload

import Outbox.Audit.Entry
import Outbox.Audit.Log
import Outbox.Audit.Subscriber
import Outbox.Bus.Memory
import Outbox.Bus.Shutdown
import Outbox.Bytes.Base64
import Outbox.Bytes.Basic
import Outbox.Bytes.Fingerprint
import Outbox.Bytes.Utf8
import Outbox.Config.DotEnv
import Outbox.Config.Duration
import Outbox.Config.Settings
import Outbox.Config.Source
import Outbox.Demo
import Outbox.Enqueue
import Outbox.Envelope
import Outbox.Error
import Outbox.Json.Fault
import Outbox.Json.Number
import Outbox.Json.Scalar
import Outbox.Json.Skip
import Outbox.Json.Text
import Outbox.Main
import Outbox.Message.Basic
import Outbox.Message.Event
import Outbox.Message.Status
import Outbox.Message.Submission
import Outbox.Metrics.Increment
import Outbox.Metrics.Registry
import Outbox.Metrics.Sink
import Outbox.Metrics.Tally
import Outbox.Publisher.Iteration
import Outbox.Publisher.Response
import Outbox.Publisher.Settings
import Outbox.Publisher.Ticker
import Outbox.Publisher.Worker
import Outbox.Simulation.Actions
import Outbox.Simulation.Clock
import Outbox.Simulation.Delivery
import Outbox.Simulation.Publishing
import Outbox.Simulation.Recorder
import Outbox.Simulation.Script
import Outbox.Simulation.World
import Outbox.Store.Basic
import Outbox.Store.Call
import Outbox.Store.Stores
import Outbox.Text.Alphanumeric
import Outbox.Text.Hexadecimal
import Outbox.Text.Quoted
import Outbox.Text.Ranges
import Outbox.Text.Visible
import Outbox.Text.WhiteSpace
import Outbox.Time.Calendar
import Outbox.Time.Instant
import Outbox.Time.Span
import Outbox.Time.Timestamp
import Outbox.Uuid
import Outbox.Proofs.Store.Locks
import Outbox.Proofs.Store.Sessions
import Outbox.Proofs.Store.PrimaryKey
import Outbox.Proofs.Store.EndedRows
import Outbox.Proofs.Publisher.Calls
import Outbox.Proofs.Publisher.Accounting
import Outbox.Proofs.Publisher.Atomicity
import Outbox.Proofs.Store.Exclusive
import Outbox.Proofs.Store.Commits
import Outbox.Proofs.Store.Erasure
import Outbox.Proofs.Store.Isolation
import Outbox.Proofs.Store.Overwrites
import Outbox.Proofs.Publisher.Solitary
import Outbox.Proofs.Publisher.Drain
import Outbox.Proofs.Bytes.Base64
import Outbox.Proofs.Bytes.Utf8
import Outbox.Proofs.Text.Uuid
import Outbox.Proofs.Time.Calendar
import Outbox.Proofs.Time.Timestamp
import Outbox.Proofs.Json.Values
import Outbox.Proofs.Envelope
import Outbox.Proofs.Metrics.Tally
import Outbox.Proofs.Audit.Log
import Outbox.Proofs.Audit.Subscriber
import Outbox.Proofs.Bus.Memory
import Outbox.Proofs.Bus.Traces
import Outbox.Proofs.Bus.Histories
import Outbox.Proofs.Bus.Deliveries
import Outbox.Proofs.Bus.Drained
import Outbox.Proofs.Bus.Traffic
import Outbox.Proofs.Bus.Atomic
import Outbox.Proofs.Bus.Closing
import Outbox.Proofs.Bus.Tasks
import Outbox.Proofs.Bus.Shutdown
import Outbox.Proofs.Publisher.Letters
import Outbox.Proofs.Publisher.Loop
import Outbox.Proofs.Publisher.Cancellation
import Outbox.Proofs.Publisher.Ticks
import Outbox.Proofs.Pipeline
import Outbox.Proofs.Simulation.Rounds
import Outbox.Proofs.Simulation.Buses
import Outbox.Proofs.Simulation.Turns
import Outbox.Proofs.Simulation.Shutdown
import Outbox.Proofs.Simulation.Workers
import Outbox.Proofs.Publisher.Outcomes
import Outbox.Proofs.Publisher.Exactness
import Outbox.Proofs.Store.Fetching
import Outbox.Proofs.Publisher.Batches
import Outbox.Proofs.Publisher.Counting
import Outbox.Proofs.Message.Course
import Outbox.Proofs.Store.Enqueueing
import Outbox.Proofs.Store.Foreign
import Outbox.Proofs.Publisher.Timeouts
import Outbox.Proofs.Simulation.Waiting
import Outbox.Proofs.Audit.Order
import Outbox.Proofs.Audit.Entry
import Outbox.Proofs.Metrics.Samples
import Outbox.Proofs.Metrics.Registry
import Outbox.Proofs.Json.Grammar
import Outbox.Proofs.Json.Passing
import Outbox.Proofs.Json.Objects
import Outbox.Proofs.Envelope.Objects
import Outbox.Proofs.Metrics.Series
import Outbox.Proofs.Text.WhiteSpace
import Outbox.Proofs.Config.Duration
import Outbox.Proofs.Config.Settings
import Outbox.Proofs.Sorting
import Outbox.Proofs.Simulation.Audited
import Outbox.Proofs.Simulation.Ticking
import Outbox.Proofs.Demo.Stock
import Outbox.Proofs.Demo.Stop
import Outbox.Proofs.Demo.Export
import Outbox.Proofs.Demo.Course

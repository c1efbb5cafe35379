import MetricRouter.Catalog.Basic
import MetricRouter.Catalog.Keys
import MetricRouter.Channels
import MetricRouter.CommandLine.Arguments
import MetricRouter.CommandLine.Command
import MetricRouter.CommandLine.Outbox
import MetricRouter.Conflation
import MetricRouter.DelayQueue
import MetricRouter.Deployment
import MetricRouter.Failure
import MetricRouter.Files
import MetricRouter.Ingest
import MetricRouter.Main
import MetricRouter.Metric.Identity
import MetricRouter.Metric.Name
import MetricRouter.Metric.Sample
import MetricRouter.Metric.Value
import MetricRouter.Net.Address
import MetricRouter.Pattern.Automaton
import MetricRouter.Pattern.Compile
import MetricRouter.Pattern.Group
import MetricRouter.Pattern.Matcher
import MetricRouter.Pattern.Matching
import MetricRouter.Pattern.Normal
import MetricRouter.Pattern.Reader
import MetricRouter.Pattern.Regex
import MetricRouter.Pattern.Scan
import MetricRouter.Pattern.Syntax
import MetricRouter.Pipeline
import MetricRouter.Proofs.Wire.Bytes
import MetricRouter.Routing.Destination
import MetricRouter.Routing.Dispatch
import MetricRouter.Routing.Inbox
import MetricRouter.Routing.Outlets
import MetricRouter.Routing.Pool
import MetricRouter.Routing.Router
import MetricRouter.Session
import MetricRouter.Settings.Basic
import MetricRouter.Settings.File
import MetricRouter.Settings.Reload
import MetricRouter.Settings.Validation
import MetricRouter.Settings.Written
import MetricRouter.Table
import MetricRouter.Text.Blank
import MetricRouter.Text.Code
import MetricRouter.Text.Hash
import MetricRouter.Text.Quoted
import MetricRouter.Text.Utf8
import MetricRouter.Time.Duration
import MetricRouter.Time.Rfc3339
import MetricRouter.Unicode.Age
import MetricRouter.Unicode.CaseFolding
import MetricRouter.Unicode.Category
import MetricRouter.Unicode.Encoded
import MetricRouter.Unicode.Later
import MetricRouter.Unicode.Named
import MetricRouter.Unicode.Property
import MetricRouter.Unicode.RangeSet
import MetricRouter.Unicode.Script
import MetricRouter.Unicode.Segmentation
import MetricRouter.Wire.Bytes
import MetricRouter.Wire.Frame
import MetricRouter.Wire.Incoming
import MetricRouter.Wire.Opcode
import MetricRouter.Wire.Reading
import MetricRouter.Wire.Reply
import MetricRouter.Yaml.Cursor
import MetricRouter.Yaml.Node
import MetricRouter.Yaml.Scalar
import MetricRouter.Yaml.Token
import MetricRouter.Proofs.Catalog.Calls
import MetricRouter.Proofs.Metric.Name
import MetricRouter.Proofs.Table
import MetricRouter.Proofs.Catalog.Filing
import MetricRouter.Proofs.Catalog.Changes
import MetricRouter.Proofs.Catalog.NameMap
import MetricRouter.Proofs.Catalog.Sightings
import MetricRouter.Proofs.Catalog.Counter
import MetricRouter.Proofs.Catalog.Index
import MetricRouter.Proofs.Conflation.Calls
import MetricRouter.Proofs.Conflation.Windows
import MetricRouter.Proofs.Conflation.Delivery
import MetricRouter.Proofs.Conflation.History
import MetricRouter.Proofs.Conflation.Balance
import MetricRouter.Proofs.Wire.Incoming
import MetricRouter.Proofs.Ingest.Calls
import MetricRouter.Proofs.Ingest.Promises
import MetricRouter.Proofs.Ingest.Resets
import MetricRouter.Proofs.Conflation.Ledger
import MetricRouter.Proofs.Conflation.Totals
import MetricRouter.Proofs.Conflation.Latest
import MetricRouter.Proofs.Pattern.Memo
import MetricRouter.Proofs.Routing.Delivery
import MetricRouter.Proofs.Ingest.Samples
import MetricRouter.Proofs.Pipeline.Calls
import MetricRouter.Proofs.Pipeline.Conservation
import MetricRouter.Proofs.Wire.Frame
import MetricRouter.Proofs.Ingest.Counts
import MetricRouter.Proofs.Pipeline.Frames
import MetricRouter.Proofs.Channels.Sweeps
import MetricRouter.Proofs.Channels.Uses
import MetricRouter.Proofs.Routing.Schedule
import MetricRouter.Proofs.Routing.Dispatches
import MetricRouter.Proofs.Pattern.Recall
import MetricRouter.Proofs.Pattern.Membership
import MetricRouter.Proofs.Conflation.Losses
import MetricRouter.Proofs.Pipeline.Losses
import MetricRouter.Proofs.Deployment.Placing
import MetricRouter.Proofs.Deployment.Tables
import MetricRouter.Proofs.Deployment.Reloads
import MetricRouter.Proofs.Ingest.Batching
import MetricRouter.Proofs.Pipeline.Batching
import MetricRouter.Proofs.Pipeline.Replies
import MetricRouter.Proofs.Conflation.Residency
import MetricRouter.Proofs.Pattern.Settled
import MetricRouter.Proofs.Routing.Matching
import MetricRouter.Proofs.Metric.Parts
import MetricRouter.Proofs.Wire.Reply
import MetricRouter.Proofs.Wire.Cuts
import MetricRouter.Proofs.Catalog.Choices
import MetricRouter.Proofs.Catalog.Moves
import MetricRouter.Proofs.Catalog.Range
import MetricRouter.Proofs.Catalog.Readings
import MetricRouter.Proofs.Catalog.Collisions
import MetricRouter.Proofs.Conflation.Merging
import MetricRouter.Proofs.Conflation.Admission
import MetricRouter.Proofs.Conflation.Grouping
import MetricRouter.Proofs.Pattern.Sharing
import MetricRouter.Proofs.Routing.Bindings
import MetricRouter.Proofs.Routing.Inboxes
import MetricRouter.Proofs.Channels.Renewal
import MetricRouter.Proofs.Channels.Lookups
import MetricRouter.Proofs.Routing.Delays
import MetricRouter.Proofs.Routing.OneWorker
import MetricRouter.Proofs.Routing.Accounts
import MetricRouter.Proofs.Metric.Confirmation
import MetricRouter.Proofs.Deployment.Furnishing
import MetricRouter.Proofs.Channels.Succession
import MetricRouter.Proofs.Pipeline.Errands
import MetricRouter.Proofs.Pattern.Search
import MetricRouter.Proofs.Pattern.Tokens
import MetricRouter.Proofs.Pattern.Bounds
import MetricRouter.Proofs.Pattern.Reading
import MetricRouter.Proofs.Pattern.Anchoring
import MetricRouter.Proofs.DelayQueue.Returns
import MetricRouter.Proofs.Catalog.Probing
import MetricRouter.Proofs.Ingest.Expiry
import MetricRouter.Proofs.Wire.Buffers
import MetricRouter.Proofs.Wire.Guards

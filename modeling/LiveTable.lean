import LiveTable.OrderedMap
import LiveTable.Number.Reading
import LiveTable.Number.Written
import LiveTable.Text.Blank
import LiveTable.Text.Lowercase
import LiveTable.Text.Printable
import LiveTable.Record
import LiveTable.Value.Display
import LiveTable.Value.Set
import LiveTable.Json.Printer
import LiveTable.Json.Reader
import LiveTable.Schema.Store
import LiveTable.Query.Comparison
import LiveTable.Query.Interchange
import LiveTable.Query.Result
import LiveTable.Table.Collection
import LiveTable.Store.Operation
import LiveTable.Items
import LiveTable.Engine.Config
import LiveTable.Engine.Stats
import LiveTable.Engine.Subscribers
import LiveTable.Engine.Inquiry
import LiveTable.Engine.Run
import LiveTable.Proofs.OrderedMap
import LiveTable.Proofs.Store.Transaction
import LiveTable.Proofs.Table.Rollback
import LiveTable.Proofs.Table.Writing
import LiveTable.Proofs.Value.TotalOrder
import LiveTable.Proofs.Table.Selection
import LiveTable.Proofs.Query.Coherence
import LiveTable.Proofs.Query.Meaning
import LiveTable.Proofs.Engine.Registry
import LiveTable.Proofs.Store.Announcing
import LiveTable.Proofs.Store.Requests
import LiveTable.Proofs.Store.Replay
import LiveTable.Proofs.Engine.Operations
import LiveTable.Proofs.Value.Equality
import LiveTable.Proofs.Engine.Execution
import LiveTable.Proofs.Engine.Commands
import LiveTable.Proofs.Engine.Activities
import LiveTable.Proofs.Engine.Attention
import LiveTable.Proofs.Engine.Steadiness
import LiveTable.Proofs.Engine.Convergence
import LiveTable.Proofs.Engine.Runs
import LiveTable.Proofs.Engine.Deliveries
import LiveTable.Proofs.Engine.Idleness
import LiveTable.Proofs.Query.Congruence
import LiveTable.Proofs.Store.Sequence
import LiveTable.Proofs.Engine.Quiet
import LiveTable.Proofs.Engine.Work
import LiveTable.Proofs.Engine.Progress
import LiveTable.Proofs.Engine.Calmness
import LiveTable.Proofs.Engine.Termination
import LiveTable.Proofs.Engine.Submission
import LiveTable.Proofs.Engine.Sequential
import LiveTable.Proofs.Engine.Emptying
import LiveTable.Proofs.Engine.Resolution
import LiveTable.Proofs.Engine.Served
import LiveTable.Proofs.Value.Sorting
import LiveTable.Proofs.Table.History
import LiveTable.Proofs.Store.Keys
import LiveTable.Proofs.Items.Lookup
import LiveTable.Proofs.Table.Index
import LiveTable.Proofs.Engine.Feed
import LiveTable.Proofs.Engine.Fetching
import LiveTable.Proofs.Store.Keyed
import LiveTable.Proofs.Engine.Storage
import LiveTable.Proofs.Engine.Caching
import LiveTable.Proofs.Engine.Pursuit
import LiveTable.Proofs.Engine.Deeds
import LiveTable.Proofs.Engine.Upkeep
import LiveTable.Proofs.Engine.Freshness
import LiveTable.Proofs.Store.StoredKeys
import LiveTable.Proofs.Engine.Bystanders
import LiveTable.Proofs.Engine.Moments
import LiveTable.Proofs.Engine.Notification
import LiveTable.Proofs.Json.Structures
import LiveTable.Proofs.Query.Interchange
import LiveTable.Proofs.Store.Frame
import LiveTable.Proofs.Engine.Standing
import LiveTable.Proofs.Engine.Exclusion
import LiveTable.Proofs.Engine.Membership
import LiveTable.Proofs.Store.Rows
import LiveTable.Proofs.Engine.Weights
import LiveTable.Proofs.Engine.Yields
import LiveTable.Proofs.Engine.Descent
import LiveTable.Proofs.Engine.Draining
import LiveTable.Proofs.Store.Opening
import LiveTable.Proofs.Store.Lifecycle
import LiveTable.Proofs.Query.FirstMatch
import LiveTable.Proofs.Engine.Settling
import LiveTable.Proofs.Engine.Erasure
import LiveTable.Proofs.Engine.Rewriting
import LiveTable.Proofs.Engine.Posts
import LiveTable.Proofs.Engine.Retaining
import LiveTable.Proofs.Engine.Turns
import LiveTable.Proofs.Engine.Courses
import LiveTable.Proofs.Engine.Fates
import LiveTable.Proofs.Engine.Renewals
import LiveTable.Proofs.Engine.Answers
import LiveTable.Proofs.Engine.ItemRequests
import LiveTable.Proofs.Engine.Rejecting
import LiveTable.Proofs.Engine.Closing
import LiveTable.Proofs.Query.Faults
import LiveTable.Proofs.Query.Grouping
import LiveTable.Proofs.Store.Paging
import LiveTable.Proofs.Store.IndexScan
import LiveTable.Proofs.Query.Numerals
import LiveTable.Proofs.Query.Arguments
import LiveTable.Proofs.Query.Texts
import LiveTable.Proofs.Engine.Dispatching
import LiveTable.Proofs.Query.IgnoringCase
import LiveTable.Proofs.Schema.Declarations
import LiveTable.Proofs.Value.Hashing
import LiveTable.Proofs.Number.Whole
import LiveTable.Proofs.Number.WholeTexts
import LiveTable.Proofs.Number.IntegerOrder
import LiveTable.Proofs.Value.Forms
import LiveTable.Proofs.Items.Names
import LiveTable.Proofs.Query.KeyEquality
import LiveTable.Proofs.Engine.Timings
import LiveTable.Proofs.Engine.Monitoring
import LiveTable.Proofs.Store.Allocation

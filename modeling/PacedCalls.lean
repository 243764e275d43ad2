import PacedCalls.Assoc
import PacedCalls.Body
import PacedCalls.Cache.Basic
import PacedCalls.Cache.Config
import PacedCalls.Cache.Loader
import PacedCalls.Cache.Read
import PacedCalls.Cache.ReadAll
import PacedCalls.Cache.Stats
import PacedCalls.Cache.Store
import PacedCalls.Cache.Table
import PacedCalls.CallError
import PacedCalls.Chain.Lane
import PacedCalls.Chain.Middleware
import PacedCalls.Chain.Pass
import PacedCalls.Classify
import PacedCalls.Client.Build
import PacedCalls.Client.Call
import PacedCalls.Client.RemoteLoader
import PacedCalls.Client.Site
import PacedCalls.Decimal.Layout
import PacedCalls.Decimal.Parts
import PacedCalls.Decimal.Reading
import PacedCalls.Decimal.Shortest
import PacedCalls.Document.Calls
import PacedCalls.Document.Reading
import PacedCalls.Document.Scripts
import PacedCalls.Document.Settings
import PacedCalls.Document.Writing
import PacedCalls.Draft
import PacedCalls.Event
import PacedCalls.Http.Fault
import PacedCalls.Http.Headers
import PacedCalls.Http.Raising
import PacedCalls.Http.Settings
import PacedCalls.Http.StatusCode
import PacedCalls.Json.Printer
import PacedCalls.Json.Reader
import PacedCalls.Json.Value
import PacedCalls.Log.Level
import PacedCalls.Log.Record
import PacedCalls.Log.Session
import PacedCalls.Log.Settings
import PacedCalls.Lookup
import PacedCalls.Outcome
import PacedCalls.Outside.Http.Address
import PacedCalls.Outside.Http.Channel
import PacedCalls.Outside.Http.DomainName
import PacedCalls.Outside.Http.NameFolding
import PacedCalls.Outside.Http.Peer
import PacedCalls.Outside.Http.Url
import PacedCalls.Outside.Log.Criterion
import PacedCalls.Outside.Log.Directive
import PacedCalls.Outside.Log.Filter
import PacedCalls.Outside.Log.Pattern
import PacedCalls.Outside.Text.Base64
import PacedCalls.Outside.Text.Canonical
import PacedCalls.Outside.Text.Direction
import PacedCalls.Outside.Text.Joining
import PacedCalls.Outside.Text.Letters
import PacedCalls.Outside.Text.Punycode
import PacedCalls.Process
import PacedCalls.Rate.Acquire
import PacedCalls.Rate.Config
import PacedCalls.Rate.Controller
import PacedCalls.Rate.Limits
import PacedCalls.Rehearsal.Cache
import PacedCalls.Rehearsal.Chain
import PacedCalls.Rehearsal.Http
import PacedCalls.Rehearsal.Rate
import PacedCalls.Rehearsal.Retry
import PacedCalls.Rehearsal.Scene
import PacedCalls.Rehearsal.Site
import PacedCalls.Request
import PacedCalls.Response
import PacedCalls.Retry.Backoff
import PacedCalls.Retry.Loop
import PacedCalls.Retry.Policy
import PacedCalls.Scalar
import PacedCalls.Schedule
import PacedCalls.Status
import PacedCalls.Text.Blank
import PacedCalls.Text.CodeTable
import PacedCalls.Text.Mark
import PacedCalls.Text.Printing
import PacedCalls.Text.Quoted
import PacedCalls.Text.Utf8
import PacedCalls.Time
import PacedCalls.TransportError
import PacedCalls.Proofs.Cache.Room
import PacedCalls.Proofs.Cache.Moves
import PacedCalls.Proofs.Cache.Acts
import PacedCalls.Proofs.Cache.Deliveries
import PacedCalls.Proofs.Cache.Freshness
import PacedCalls.Proofs.Cache.Invalidation
import PacedCalls.Proofs.Cache.Steps
import PacedCalls.Proofs.Client.Fleet
import PacedCalls.Proofs.Client.Jobs
import PacedCalls.Proofs.Client.Runs
import PacedCalls.Proofs.Client.Window
import PacedCalls.Proofs.Cache.Sources
import PacedCalls.Proofs.Cache.Failures
import PacedCalls.Proofs.Cache.Positions
import PacedCalls.Proofs.Cache.Waiting
import PacedCalls.Proofs.Client.Permits
import PacedCalls.Proofs.Rate.Bounds
import PacedCalls.Proofs.Rate.Queue
import PacedCalls.Proofs.Client.Feedback
import PacedCalls.Proofs.Cache.Recency
import PacedCalls.Proofs.Retry.Course
import PacedCalls.Proofs.Client.Meaning
import PacedCalls.Proofs.Client.Spending
import PacedCalls.Proofs.Cache.Counting
import PacedCalls.Proofs.Cache.Inventory
import PacedCalls.Proofs.Cache.Batches
import PacedCalls.Proofs.Cache.Agreement
import PacedCalls.Proofs.Rate.Ceiling
import PacedCalls.Proofs.Retry.Doubling
import PacedCalls.Proofs.Request
import PacedCalls.Proofs.Client.Outcomes
import PacedCalls.Proofs.Decimal.Order
import PacedCalls.Proofs.Rate.Reports
import PacedCalls.Proofs.Client.Conclusions
import PacedCalls.Proofs.Client.Raising
import PacedCalls.Proofs.Answers
import PacedCalls.Proofs.Client.Steady
import PacedCalls.Proofs.Client.Fallback
import PacedCalls.Proofs.Http.Sources
import PacedCalls.Proofs.Log.Session

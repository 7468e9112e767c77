import QueryMetrics.Log.Line
import QueryMetrics.Row.Moment.Reading
import QueryMetrics.Scripted.Database
import QueryMetrics.Scripted.Driver
import QueryMetrics.Server
import QueryMetrics.Proofs.Metric.Attribution
import QueryMetrics.Proofs.Scrape.Task
import QueryMetrics.Proofs.Scrape.Cycle
import QueryMetrics.Proofs.Scrape.Isolation
import QueryMetrics.Proofs.Scrape.Transcript
import QueryMetrics.Proofs.Scrape.History
import QueryMetrics.Proofs.Scrape.Interval
import QueryMetrics.Proofs.Scrape.Reemission
import QueryMetrics.Proofs.Definition.Loading
import QueryMetrics.Proofs.Definition.Refresh
import QueryMetrics.Proofs.Definition.Freshness
import QueryMetrics.Proofs.Scrape.Reporting
import QueryMetrics.Proofs.Scrape.Accounting
import QueryMetrics.Proofs.Definition.Refusal
import QueryMetrics.Proofs.Server.Reload
import QueryMetrics.Proofs.Definition.Decoding
import QueryMetrics.Proofs.Definition.Detection
import QueryMetrics.Proofs.Definition.FirstRefresh
import QueryMetrics.Proofs.Server.Startup
import QueryMetrics.Proofs.Scrape.FamilyNames
import QueryMetrics.Proofs.Connection.QueryFrame
import QueryMetrics.Proofs.Metric.Reordering
import QueryMetrics.Proofs.Scrape.CompletionOrder
import QueryMetrics.Proofs.Agreement
import QueryMetrics.Proofs.Scrape.Modes
import QueryMetrics.Proofs.Scrape.Exchanges
import QueryMetrics.Proofs.Scrape.Abort
import QueryMetrics.Proofs.Scrape.Validation
import QueryMetrics.Proofs.Connection.Custody
import QueryMetrics.Proofs.Scrape.Serving
import QueryMetrics.Proofs.Connection.Operations
import QueryMetrics.Proofs.Scrape.Recovery
import QueryMetrics.Proofs.Metric.Fates
import QueryMetrics.Proofs.Connection.Alike
import QueryMetrics.Proofs.Connection.Confidentiality
import QueryMetrics.Proofs.Number.Order
import QueryMetrics.Proofs.Scrape.Timetable
import QueryMetrics.Proofs.Scrape.Remembering
import QueryMetrics.Proofs.Definition.Spelling
import QueryMetrics.Proofs.Definition.Usability
import QueryMetrics.Proofs.Definition.Lookup
import QueryMetrics.Proofs.Metric.Columns
import QueryMetrics.Proofs.Metric.Histogram
import QueryMetrics.Proofs.Metric.CleanNames
import QueryMetrics.Proofs.Row.Decoding
import QueryMetrics.Proofs.Connection.Fetching
import QueryMetrics.Proofs.Connection.Metadata

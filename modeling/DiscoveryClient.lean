import DiscoveryClient.Address.HostName
import DiscoveryClient.Address.Order
import DiscoveryClient.Address.Resolution
import DiscoveryClient.Counters
import DiscoveryClient.Failure
import DiscoveryClient.FileTree
import DiscoveryClient.Identity.Coordinator
import DiscoveryClient.Identity.Refresh
import DiscoveryClient.Identity.Scenario
import DiscoveryClient.Journal
import DiscoveryClient.Log.Context
import DiscoveryClient.Log.Directive
import DiscoveryClient.Log.Event
import DiscoveryClient.Log.Handlers
import DiscoveryClient.Log.Line
import DiscoveryClient.Log.Logged
import DiscoveryClient.Log.Output
import DiscoveryClient.Log.Session
import DiscoveryClient.Log.Template
import DiscoveryClient.Mapping
import DiscoveryClient.Metadata.DataCenter
import DiscoveryClient.Metadata.Feed
import DiscoveryClient.Metadata.Field
import DiscoveryClient.Metrics.Registry
import DiscoveryClient.Metrics.Sample
import DiscoveryClient.Number.Double
import DiscoveryClient.Number.Numeral
import DiscoveryClient.Number.Places
import DiscoveryClient.Number.Quantity
import DiscoveryClient.Number.Shortest
import DiscoveryClient.Number.Sum
import DiscoveryClient.Path
import DiscoveryClient.Path.Home
import DiscoveryClient.Path.Reported
import DiscoveryClient.Path.Written
import DiscoveryClient.Proofs.Address.RememberedHost
import DiscoveryClient.Proofs.Address.Walk
import DiscoveryClient.Proofs.Files.RelativePath
import DiscoveryClient.Proofs.Files.ReportedPath
import DiscoveryClient.Proofs.Identity.Accounting
import DiscoveryClient.Proofs.Identity.AllOrNothing
import DiscoveryClient.Proofs.Identity.Books
import DiscoveryClient.Proofs.Identity.ChangeChain
import DiscoveryClient.Proofs.Identity.Closed
import DiscoveryClient.Proofs.Identity.Delivery
import DiscoveryClient.Proofs.Identity.EndToEnd
import DiscoveryClient.Proofs.Identity.Ending
import DiscoveryClient.Proofs.Identity.Environment
import DiscoveryClient.Proofs.Identity.Freshness
import DiscoveryClient.Proofs.Identity.NewestRefresh
import DiscoveryClient.Proofs.Identity.Overlap
import DiscoveryClient.Proofs.Identity.Page
import DiscoveryClient.Proofs.Identity.Publication
import DiscoveryClient.Proofs.Identity.Run
import DiscoveryClient.Proofs.Identity.Steps
import DiscoveryClient.Proofs.Identity.TimeAndMark
import DiscoveryClient.Proofs.Identity.Versions
import DiscoveryClient.Proofs.Identity.Within
import DiscoveryClient.Proofs.Log.Deeds
import DiscoveryClient.Proofs.Log.LogContext
import DiscoveryClient.Proofs.Log.Redaction
import DiscoveryClient.Proofs.Log.Scope
import DiscoveryClient.Proofs.Log.Secrecy
import DiscoveryClient.Proofs.Log.SecretName
import DiscoveryClient.Proofs.Log.SessionScope
import DiscoveryClient.Proofs.Log.Startup
import DiscoveryClient.Proofs.Number.ExactInteger
import DiscoveryClient.Proofs.Number.IntegerText
import DiscoveryClient.Proofs.Number.WrittenInteger
import DiscoveryClient.Proofs.Properties.Cascade
import DiscoveryClient.Proofs.Properties.FileText
import DiscoveryClient.Proofs.Properties.Getters
import DiscoveryClient.Proofs.Properties.HotReload
import DiscoveryClient.Proofs.Properties.IntegerReads
import DiscoveryClient.Proofs.Properties.LayeredLookup
import DiscoveryClient.Proofs.Properties.LineGrammar
import DiscoveryClient.Proofs.Properties.LineReading
import DiscoveryClient.Proofs.Properties.ListReads
import DiscoveryClient.Proofs.Properties.Query
import DiscoveryClient.Proofs.Properties.Reload
import DiscoveryClient.Proofs.Properties.Run
import DiscoveryClient.Proofs.Properties.Secrecy
import DiscoveryClient.Proofs.Properties.StandardStack
import DiscoveryClient.Proofs.Properties.TextLines
import DiscoveryClient.Proofs.Properties.TypedReads
import DiscoveryClient.Proofs.Schedule.Agenda
import DiscoveryClient.Proofs.Schedule.Duration
import DiscoveryClient.Proofs.Schedule.LoopTrace
import DiscoveryClient.Proofs.Schedule.OneLoop
import DiscoveryClient.Proofs.Schedule.Waits
import DiscoveryClient.Proofs.Schedule.Worker
import DiscoveryClient.Proofs.Settings.Acceptance
import DiscoveryClient.Proofs.Settings.Bootstrap
import DiscoveryClient.Proofs.Settings.Effective
import DiscoveryClient.Proofs.Settings.KeptObject
import DiscoveryClient.Proofs.Settings.Precedence
import DiscoveryClient.Proofs.Text.CommaText
import DiscoveryClient.Proofs.Text.Trim
import DiscoveryClient.Proofs.Text.Utf8RoundTrip
import DiscoveryClient.Properties.Binding
import DiscoveryClient.Properties.Client
import DiscoveryClient.Properties.File
import DiscoveryClient.Properties.Interpolation
import DiscoveryClient.Properties.Layered
import DiscoveryClient.Properties.Reader
import DiscoveryClient.Properties.Stack
import DiscoveryClient.Properties.Step
import DiscoveryClient.Properties.Store
import DiscoveryClient.Schedule.Control
import DiscoveryClient.Schedule.Loop
import DiscoveryClient.Schedule.Refresher
import DiscoveryClient.Schedule.Script
import DiscoveryClient.Settings.Bootstrap
import DiscoveryClient.Settings.Cache
import DiscoveryClient.Settings.CommandLine
import DiscoveryClient.Settings.Environment
import DiscoveryClient.Settings.Options
import DiscoveryClient.Settings.Secrets
import DiscoveryClient.Settings.Sources
import DiscoveryClient.Settings.Validation
import DiscoveryClient.Text.Blank
import DiscoveryClient.Text.CodePage
import DiscoveryClient.Text.CodePage.Table
import DiscoveryClient.Text.CommaList
import DiscoveryClient.Text.Decoding
import DiscoveryClient.Text.Digit
import DiscoveryClient.Text.EastAsian
import DiscoveryClient.Text.EastAsian.Chinese
import DiscoveryClient.Text.EastAsian.Chinese.HongKong
import DiscoveryClient.Text.EastAsian.Chinese.Simplified
import DiscoveryClient.Text.EastAsian.Chinese.Traditional
import DiscoveryClient.Text.EastAsian.Grid
import DiscoveryClient.Text.EastAsian.Japanese
import DiscoveryClient.Text.EastAsian.Japanese.Extended
import DiscoveryClient.Text.EastAsian.Japanese.Table
import DiscoveryClient.Text.EastAsian.Korean
import DiscoveryClient.Text.EastAsian.Korean.Table
import DiscoveryClient.Text.EastAsian.Switched
import DiscoveryClient.Text.Encoding
import DiscoveryClient.Text.Encoding.Name
import DiscoveryClient.Text.Escape
import DiscoveryClient.Text.Letter
import DiscoveryClient.Text.Line
import DiscoveryClient.Text.Printable
import DiscoveryClient.Text.Punycode
import DiscoveryClient.Text.Quoted
import DiscoveryClient.Text.Utf7
import DiscoveryClient.Text.Utf8
import DiscoveryClient.Text.Wide
import DiscoveryClient.Time.Clock
import DiscoveryClient.Time.Date
import DiscoveryClient.Value
import DiscoveryClient.Value.Entries
import DiscoveryClient.Value.Equality
import DiscoveryClient.Value.Json
import DiscoveryClient.Value.Order
import DiscoveryClient.Proofs.Identity.Course
import DiscoveryClient.Proofs.Properties.Denotation

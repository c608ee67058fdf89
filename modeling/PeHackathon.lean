import PeHackathon.Lib.Prog
import PeHackathon.Lib.Pool
import PeHackathon.Lib.Tokens
import PeHackathon.Lib.Rely
import PeHackathon.Lib.Dict
import PeHackathon.Lib.Agree
import PeHackathon.Lib.Alone
import PeHackathon.Postgres.Text
import PeHackathon.Python.Json
import PeHackathon.Python.Repr
import PeHackathon.Python.Url
import PeHackathon.UrlShortener.Database
import PeHackathon.UrlShortener.Constraints
import PeHackathon.UrlShortener.Server
import PeHackathon.UrlShortener.Cache
import PeHackathon.UrlShortener.Routes.Urls
import PeHackathon.UrlShortener.Calls
import PeHackathon.UrlShortener.History
import PeHackathon.UrlShortener.SequentialRedirect
import PeHackathon.UrlShortener.ListCache
import PeHackathon.UrlShortener.RedirectRace
import PeHackathon.UrlShortener.RedirectAfterWrite
import PeHackathon.Js.Text
import PeHackathon.Watchdog.Environment
import PeHackathon.Watchdog.Visibility
import PeHackathon.Watchdog.Heartbeat
import PeHackathon.Watchdog.Lifecycle
import PeHackathon.Watchdog.State
import PeHackathon.Watchdog.Tick
import PeHackathon.Watchdog.Effects
import PeHackathon.Watchdog.Rules
import PeHackathon.Watchdog.Trace
import PeHackathon.Watchdog.DeploySafety
import PeHackathon.Watchdog.RedeemCount
import PeHackathon.Watchdog.RedeemOwed
import PeHackathon.Watchdog.RedeployJustified
import PeHackathon.Watchdog.RecoverCooldown
import PeHackathon.Dashboard.Database
import PeHackathon.Dashboard.LogCache
import PeHackathon.Dashboard.FlushConservation
import PeHackathon.Dashboard.FlushBatch
import PeHackathon.Dashboard.ClearRace
import PeHackathon.Dashboard.ShutdownFlush
import PeHackathon.Lib.Record
import PeHackathon.UrlShortener.LostUpdate
import PeHackathon.Lib.Expiry
import PeHackathon.UrlShortener.IpBan
import PeHackathon.UrlShortener.BanProgress
import PeHackathon.Lib.Linearize
import PeHackathon.UrlShortener.BanRace
import PeHackathon.UrlShortener.BanFault
import PeHackathon.Python.Number
import PeHackathon.Postgres.Like
import PeHackathon.Dashboard.LogFilters
import PeHackathon.Dashboard.FilterAgreement
import PeHackathon.Lib.Distinct
import PeHackathon.Dashboard.MergedLogs
import PeHackathon.Lib.Histogram
import PeHackathon.Dashboard.MinuteBuckets
import PeHackathon.Dashboard.BucketLaw
import PeHackathon.Lib.Except
import PeHackathon.Dashboard.MemoryBuckets
import PeHackathon.Dashboard.TableBuckets
import PeHackathon.Lib.FixedWidth
import PeHackathon.Python.Datetime
import PeHackathon.UrlShortener.LogTimestamp
import PeHackathon.Lib.Counter
import PeHackathon.Python.Float
import PeHackathon.Dashboard.Statistics
import PeHackathon.Dashboard.StatsLedger
import PeHackathon.Dashboard.Consumer
import PeHackathon.Dashboard.Ingest
import PeHackathon.Dashboard.IngestEndpoint
import PeHackathon.UrlShortener.CircuitBreaker
import PeHackathon.UrlShortener.HalfOpenProbe
import PeHackathon.UrlShortener.BanFleet
import PeHackathon.Lib.Stretch
import PeHackathon.Lib.Twin
import PeHackathon.Watchdog.RowCalls
import PeHackathon.Watchdog.ServiceEntries
import PeHackathon.Watchdog.RowFrame
import PeHackathon.Watchdog.SequentialTicks
import PeHackathon.Watchdog.Leftovers
import PeHackathon.Watchdog.StopEvents
import PeHackathon.Watchdog.RecoverBudget
import PeHackathon.Watchdog.Script
import PeHackathon.Watchdog.Lockstep
import PeHackathon.Watchdog.RowPairs
import PeHackathon.Watchdog.Independence
import PeHackathon.UrlShortener.OpenBlocks
import PeHackathon.Dashboard.K6Runner
import PeHackathon.Dashboard.OneK6Process
import PeHackathon.UrlShortener.SerialSequences
import PeHackathon.UrlShortener.Migrations
import PeHackathon.UrlShortener.MigrateOnce
import PeHackathon.Lib.Pages
import PeHackathon.UrlShortener.Pages
import PeHackathon.Lib.BulkLoad
import PeHackathon.UrlShortener.Columns
import PeHackathon.UrlShortener.Seed
import PeHackathon.UrlShortener.SeedExact
import PeHackathon.UrlShortener.CreateRace
import PeHackathon.Python.JsonText
import PeHackathon.Python.JsonString
import PeHackathon.Python.JsonNumber
import PeHackathon.Python.JsonRoundTrip
import PeHackathon.Python.JsonFields
import PeHackathon.Dashboard.MergeLogs
import PeHackathon.Lib.ScoredSet
import PeHackathon.UrlShortener.DynamicRateLimit
import PeHackathon.UrlShortener.SlidingWindow
import PeHackathon.UrlShortener.RateLimitConfig
import PeHackathon.Lib.Throws
import PeHackathon.Lib.Tiers
import PeHackathon.UrlShortener.LoadLimits
import PeHackathon.Python.Replace
import PeHackathon.UrlShortener.BanList
import PeHackathon.UrlShortener.Middleware
import PeHackathon.Watchdog.ExitedHistory
import PeHackathon.Watchdog.HeartbeatCooldown
import PeHackathon.Lib.Binary64
import PeHackathon.Python.Division
import PeHackathon.Dashboard.K6Live
import PeHackathon.Dashboard.K6Runs
import PeHackathon.UrlShortener.EventDetails
import PeHackathon.Python.Attribute
import PeHackathon.ComposeWatchdog.Tick
import PeHackathon.Lib.Loop
import PeHackathon.ComposeWatchdog.Pass
import PeHackathon.ComposeWatchdog.Isolation
import PeHackathon.ComposeWatchdog.Streaks
import PeHackathon.UrlShortener.BreakerInvariant
import PeHackathon.Dashboard.K6ErrorRate
import PeHackathon.Dashboard.Webhook
import PeHackathon.Dashboard.WebhookBatches
import PeHackathon.Dashboard.AlertWebhook
import PeHackathon.Dashboard.RateGuard
import PeHackathon.Python.JsonBytes
import PeHackathon.Python.JsonBytesRoundTrip
import PeHackathon.UrlShortener.HttpLogIngest
import PeHackathon.LogPipeline.Transport
import PeHackathon.LogPipeline.Delivery
import PeHackathon.UrlShortener.Users
import PeHackathon.UrlShortener.Routes.Users
import PeHackathon.Python.Csv
import PeHackathon.UrlShortener.Routes.BulkUsers
import PeHackathon.UrlShortener.BulkAccounts
import PeHackathon.Js.Utf8
import PeHackathon.Watchdog.EnvironFile
import PeHackathon.Watchdog.EnvSnapshot
import PeHackathon.UrlShortener.RepeatedDelete
import PeHackathon.Lib.Lines
import PeHackathon.Lib.Pattern
import PeHackathon.Setup.Frame
import PeHackathon.Setup.IngestToken
import PeHackathon.Setup.Main
import PeHackathon.Setup.Project
import PeHackathon.Js.Utf16
import PeHackathon.Setup.Again
import PeHackathon.Setup.Configured
import PeHackathon.Setup.Provision
import PeHackathon.Setup.Railway
import PeHackathon.Setup.Reconcile
import PeHackathon.Setup.TokenLines
import PeHackathon.Setup.TokenRoundTrip
import PeHackathon.Setup.Variables
import PeHackathon.Setup.Wired
import PeHackathon.Python.Quote
import PeHackathon.Lib.UrlMap
import PeHackathon.UrlShortener.UrlMap
import PeHackathon.UrlShortener.KeptUrl
import PeHackathon.UrlShortener.IssuedCodes
import PeHackathon.Lib.Finishes
import PeHackathon.Python.Printed
import PeHackathon.UrlShortener.Routes.Reads
import PeHackathon.UrlShortener.Service
import PeHackathon.UrlShortener.UrlInput
import PeHackathon.UrlShortener.CreateInput
import PeHackathon.UrlShortener.BadInput
import PeHackathon.Lib.Unfinished
import PeHackathon.Watchdog.Worker
import PeHackathon.Watchdog.WorkerRuns
import PeHackathon.Lib.Emits
import PeHackathon.UrlShortener.AuditTrail
import PeHackathon.Chaos.Routes
import PeHackathon.Chaos.Safety
import PeHackathon.Lib.Recent
import PeHackathon.ComposeWatchdog.Feed
import PeHackathon.ComposeWatchdog.Panel
import PeHackathon.ComposeWatchdog.Notifications

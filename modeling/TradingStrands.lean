import TradingStrands.Foundation.Runs
import TradingStrands.Foundation.Programs
import TradingStrands.Foundation.Guarantees
import TradingStrands.Foundation.Dict
import TradingStrands.Foundation.Balance
import TradingStrands.Foundation.DelimitedKey
import TradingStrands.Foundation.Numeral
import TradingStrands.Foundation.Rounding
import TradingStrands.Ir.Tta
import TradingStrands.Ir.Condition
import TradingStrands.MarketData.Provider
import TradingStrands.Orchestrator.Context
import TradingStrands.Ledger.Rounded
import TradingStrands.Risk.Rounded
import TradingStrands.Risk.BuyGate
import TradingStrands.Authz.Isolation
import TradingStrands.Tenancy.Store
import TradingStrands.Bootstrap.Recovery
import TradingStrands.Dashboard.Admin
import TradingStrands.Dashboard.LastSysadmin
import TradingStrands.Dashboard.SystemOrg
import TradingStrands.Dashboard.EmailIndex
import TradingStrands.Risk.MarkedDrawdown
import TradingStrands.Halt.Store
import TradingStrands.Coordinator.Calls
import TradingStrands.Coordinator.Coverage
import TradingStrands.Coordinator.PositionCap
import TradingStrands.Coordinator.DailyLoss
import TradingStrands.Coordinator.Reduction
import TradingStrands.Coordinator.HaltGate
import TradingStrands.App.BrokerFactory
import TradingStrands.AlpacaSecrets.Store
import TradingStrands.Dashboard.Credentials
import TradingStrands.Dashboard.Login
import TradingStrands.App.CredentialIsolation
import TradingStrands.App.CredentialChanges
import TradingStrands.App.Strategies
import TradingStrands.App.PauseResume
import TradingStrands.LedgerStore.Replay
import TradingStrands.Coordinator.Lifecycle
import TradingStrands.Risk.KillSwitch
import TradingStrands.Auditor.Reconciler
import TradingStrands.Dashboard.Publisher
import TradingStrands.Dashboard.HaltControl
import TradingStrands.Orchestrator.Engine
import TradingStrands.Orchestrator.HaltStickiness
import TradingStrands.Orchestrator.TickLoop
import TradingStrands.Orchestrator.Schedule
import TradingStrands.Orchestrator.Crossings
import TradingStrands.Orchestrator.FaultIsolation
import TradingStrands.App.Fleet
import TradingStrands.Desk.Interleaving
import TradingStrands.Desk.Liquidation
import TradingStrands.Desk.Durability
import TradingStrands.Foundation.Newest
import TradingStrands.Foundation.Reading
import TradingStrands.Foundation.Recent
import TradingStrands.Ddb.Schema
import TradingStrands.Ddb.Marshal
import TradingStrands.Ddb.RowJson
import TradingStrands.Models.Registry
import TradingStrands.Tools.Base
import TradingStrands.StrategiesStore.Store
import TradingStrands.StrategyProposals.Store
import TradingStrands.Dashboard.Strategies
import TradingStrands.Dashboard.ReadableStrategies
import TradingStrands.Dashboard.Live
import TradingStrands.Dashboard.LiveIsolation
import TradingStrands.App.Registration
import TradingStrands.App.StrategyPoll
import TradingStrands.Foundation.Redelivery
import TradingStrands.Supervisor.Ecs
import TradingStrands.Supervisor.StrategySupervisor
import TradingStrands.Supervisor.Convergence
import TradingStrands.Supervisor.ReconcileAll
import TradingStrands.Foundation.Padded
import TradingStrands.Foundation.Calendar
import TradingStrands.Foundation.Grouping
import TradingStrands.MarketDataStore.Store
import TradingStrands.MarketDataStore.MinuteBars
import TradingStrands.Foundation.Alternation
import TradingStrands.Halt.AuditLog
import TradingStrands.Foundation.Stages
import TradingStrands.Dashboard.ProposalDecisions
import TradingStrands.Tools.Registry
import TradingStrands.OrgTools.Store
import TradingStrands.App.ToolBinding
import TradingStrands.Foundation.IsoDate
import TradingStrands.ToolQuota.Store
import TradingStrands.Tools.Calls
import TradingStrands.Tools.CacheRuns
import TradingStrands.Tools.ConfiguredQuota
import TradingStrands.Dashboard.ActiveOrg
import TradingStrands.Foundation.Interleaving
import TradingStrands.Foundation.Tally
import TradingStrands.TokenTelemetry.Store
import TradingStrands.Dashboard.TokensToday
import TradingStrands.Foundation.Log
import TradingStrands.RecommendationsStore.Store
import TradingStrands.Dashboard.AppendLogs
import TradingStrands.Ledger.Atomicity
import TradingStrands.LedgerStore.HighWaterMark
import TradingStrands.Foundation.Scaled
import TradingStrands.Auditor.Details
import TradingStrands.Foundation.Journal
import TradingStrands.AuditorAgent.Runner
import TradingStrands.AuditorAgent.LambdaHandler
import TradingStrands.Ir.MissingData
import TradingStrands.MarketDataStore.Faults
import TradingStrands.MarketDataStore.LostTicks
import TradingStrands.MarketDataStore.Range
import TradingStrands.MarketData.StoreProvider
import TradingStrands.Foundation.OwnedKeys
import TradingStrands.Foundation.Binary64
import TradingStrands.Foundation.NumericText
import TradingStrands.Foundation.Moves
import TradingStrands.Foundation.PutFate
import TradingStrands.Ddb.KeySpace
import TradingStrands.Tenancy.Mirror
import TradingStrands.Dashboard.UserCreation
import TradingStrands.SkillsStore.Store
import TradingStrands.Dashboard.OrgConfig
import TradingStrands.Dashboard.Capital
import TradingStrands.App.SingleBot
import TradingStrands.ToolQuota.Reservations
import TradingStrands.Tools.FilingsBrake
import TradingStrands.FilingsStore.Store
import TradingStrands.EdgarWatcher.Submissions
import TradingStrands.EdgarWatcher.Watcher
import TradingStrands.EdgarWatcher.Progress
import TradingStrands.EdgarWatcher.Isolation
import TradingStrands.AgentMemory.Store
import TradingStrands.MemoryCompactor.Runner
import TradingStrands.MemoryCompactor.Readability
import TradingStrands.MemoryCompactor.Appends
import TradingStrands.Reviews.Review
import TradingStrands.Reviews.Runs
import TradingStrands.Strategies.Prompt
import TradingStrands.Strategies.Bot
import TradingStrands.Strategies.Runs
import TradingStrands.Foundation.Paging
import TradingStrands.Ddb.ScanAll
import TradingStrands.CalendarStore.Store
import TradingStrands.CalendarFetcher.Fetcher
import TradingStrands.CalendarFetcher.Partial
import TradingStrands.Foundation.Smoothing
import TradingStrands.TaSnapshot.Indicators
import TradingStrands.TaSnapshot.Rsi
import TradingStrands.TaSnapshot.Macd
import TradingStrands.Foundation.Deviation
import TradingStrands.TaSnapshot.Bollinger
import TradingStrands.Foundation.Utf8
import TradingStrands.FilingsStore.Bodies
import TradingStrands.Tools.ReadFiling
import TradingStrands.Foundation.Buckets
import TradingStrands.TaSnapshot.Store
import TradingStrands.TaComputer.Computer
import TradingStrands.TaComputer.Closes
import TradingStrands.TaComputer.Runs
import TradingStrands.StrategiesStore.Watched
import TradingStrands.Heartbeat.Store
import TradingStrands.PlatformSupervisor.Supervisor
import TradingStrands.Provisioner.BotProvisioner
import TradingStrands.OrgFanout.Fanout
import TradingStrands.MarketDataSubscriber.Loop
import TradingStrands.MarketDataSubscriber.Bars
import TradingStrands.Desk.Books
import TradingStrands.Foundation.Expiry

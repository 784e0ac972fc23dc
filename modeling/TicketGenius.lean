import TicketGenius.Framework.Interleaving
import TicketGenius.ServiceLayer.Handlers
import TicketGenius.ServiceLayer.Requests
import TicketGenius.Properties.OrderLifecycle
import TicketGenius.Properties.HoldExclusion
import TicketGenius.Properties.HoldDeletion
import TicketGenius.Properties.Purchase
import TicketGenius.Properties.Confirmation
import TicketGenius.Properties.Coherence
import TicketGenius.Properties.DoubleSale
import TicketGenius.Properties.Outbox
import TicketGenius.Properties.FailedCommit
import TicketGenius.Properties.OwnOrders
import TicketGenius.Properties.LostUpdate
import TicketGenius.Properties.StoredOrder
import TicketGenius.Language.ExactDecimal
import TicketGenius.Adapters.Orm
import TicketGenius.Properties.PriceStorage
import TicketGenius.Properties.Idempotency
import TicketGenius.Adapters.Plans
import TicketGenius.Adapters.SessionView
import TicketGenius.Properties.Catalogue
import TicketGenius.Properties.PlanDurability
import TicketGenius.Framework.Silent
import TicketGenius.ServiceLayer.Steps
import TicketGenius.Properties.Shutdown
import TicketGenius.Properties.RefundLedger
import TicketGenius.ServiceLayer.SeatHoldSpec
import TicketGenius.Properties.AllOrNothing
import TicketGenius.Framework.TryLock
import TicketGenius.Properties.Competition
import TicketGenius.Properties.FailedOrder
import TicketGenius.Properties.RolledBack
import TicketGenius.Properties.Tickets
import TicketGenius.Adapters.Repositories
import TicketGenius.Properties.OptimisticUpdate
import TicketGenius.Framework.Dispatch
import TicketGenius.Framework.Raises
import TicketGenius.ServiceLayer.MessageBus
import TicketGenius.Properties.Dispatching
import TicketGenius.Properties.Support.Exceptions
import TicketGenius.Properties.RequestRate
import TicketGenius.Properties.SeatText
import TicketGenius.Properties.PlanUpdate
import TicketGenius.Properties.Ingestion
import TicketGenius.Properties.SearchSummaries
import TicketGenius.Cli.Commands
import TicketGenius.Entrypoints.Api
import TicketGenius.Properties.SeatPrices
import TicketGenius.Properties.RefundEntry
import TicketGenius.Framework.PrefixCode
import TicketGenius.Language.UrlEncode
import TicketGenius.Adapters.MakeRequest
import TicketGenius.Properties.ProviderFailures
import TicketGenius.Adapters.CacheKey
import TicketGenius.Properties.ResponseCache
import TicketGenius.Properties.StaleSync
import TicketGenius.Properties.SeatParsing
import TicketGenius.Properties.SeatStorage
import TicketGenius.Properties.CacheKeys
import TicketGenius.Properties.UpdateSafety
import TicketGenius.Adapters.EventSerialization
import TicketGenius.Properties.CursorSafety
import TicketGenius.Properties.EventPayloads
import TicketGenius.Entrypoints.ErrorHandlers
import TicketGenius.Properties.ErrorStatus
import TicketGenius.Properties.InterleavedCommands
import TicketGenius.Properties.ChargedCaptures
import TicketGenius.Adapters.EventCache
import TicketGenius.Properties.EventFreshness
import TicketGenius.Framework.Versioned
import TicketGenius.Properties.OptimisticRuns
import TicketGenius.Adapters.AccessToken
import TicketGenius.Properties.AccessTokens
import TicketGenius.Adapters.PlanSearch
import TicketGenius.Properties.SearchWalk
import TicketGenius.Framework.Claims
import TicketGenius.Properties.SingleAttempts
import TicketGenius.Properties.SettledTickets
import TicketGenius.Framework.Journal
import TicketGenius.Properties.Resync

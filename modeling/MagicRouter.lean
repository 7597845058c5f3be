import MagicRouter.Library.Agreement
import MagicRouter.Library.Base58
import MagicRouter.Library.History
import MagicRouter.Library.Numeral
import MagicRouter.Library.Partition
import MagicRouter.Library.Rotation
import MagicRouter.Library.Run
import MagicRouter.Library.Sharing
import MagicRouter.Library.Possible
import MagicRouter.Library.Stamped
import MagicRouter.Library.Store
import MagicRouter.Library.Tally
import MagicRouter.Types
import MagicRouter.Formats
import MagicRouter.Pubsub.Subscription
import MagicRouter.Cache.Routes
import MagicRouter.Cache.Registry
import MagicRouter.Cache.Announcements
import MagicRouter.Cache.Updater
import MagicRouter.Cache.Proximity
import MagicRouter.Cache.Closest
import MagicRouter.Cache.Delegations
import MagicRouter.Cache.DelegationsStep
import MagicRouter.Cache.DelegationsChange
import MagicRouter.Cache.DelegationsInvariant
import MagicRouter.Cache.Convergence
import MagicRouter.Cache.Coverage
import MagicRouter.Cache.Upkeep
import MagicRouter.Cache.FetchTrace
import MagicRouter.Cache.Linearization
import MagicRouter.Cache.Entries
import MagicRouter.Cache.Fills
import MagicRouter.Cache.Progress
import MagicRouter.Cache.Provenance
import MagicRouter.Cache.Staleness
import MagicRouter.Cache.Reports
import MagicRouter.Cache.Stream
import MagicRouter.Cache.Transitions
import MagicRouter.Pubsub.Connection
import MagicRouter.Pubsub.Listeners
import MagicRouter.Pubsub.Ledger
import MagicRouter.Pubsub.Accounting
import MagicRouter.Pubsub.Bookkeeping
import MagicRouter.Pubsub.Leaks
import MagicRouter.Pubsub.Retirement
import MagicRouter.Pubsub.Dispatch
import MagicRouter.Pubsub.Upstreams
import MagicRouter.Pubsub.Origins
import MagicRouter.Pubsub.Network
import MagicRouter.Pubsub.Composition
import MagicRouter.Cache.Transactions
import MagicRouter.Server.Http
import MagicRouter.Server.Routing
import MagicRouter.Server.Forwarding
import MagicRouter.Server.Statuses
import MagicRouter.Server.Blockhashes
import MagicRouter.Server.Accounts
import MagicRouter.Server.Websocket
import MagicRouter.Server.Switchover
import MagicRouter.Server.Sources
import MagicRouter.Server.HandlerRun
import MagicRouter.Server.Tags
import MagicRouter.Server.Copies
import MagicRouter.Server.Cleanup
import MagicRouter.Server.Signatures
import MagicRouter.Server.Revival
import MagicRouter.Server.Router
import MagicRouter.Server.Delivery
import MagicRouter.Server.Refusals
import MagicRouter.Server.Identifiers
import MagicRouter.Server.Departure
import MagicRouter.Server.Startup
import MagicRouter.Server.Turns
import MagicRouter.Server.Balance
import MagicRouter.Server.Endpoints
import MagicRouter.Server.Service
import MagicRouter.Server.Deployment

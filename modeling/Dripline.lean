import Dripline.Positions.Ledger.Legs
import Dripline.Positions.Ledger.OrderFree
import Dripline.Positions.Ledger.Excursions
import Dripline.Positions.Ledger.Money
import Dripline.Positions.Ledger.Growth
import Dripline.Positions.Average
import Dripline.Positions.Once
import Dripline.Positions.Retry
import Dripline.Positions.Reentry
import Dripline.Positions.InFlight
import Dripline.Positions.WriteOff
import Dripline.Positions.SyntheticClose
import Dripline.Positions.LedgerDuplicates
import Dripline.Positions.Ledger.Ownership
import Dripline.Positions.Ledger.Openings
import Dripline.Swaps.Solvent
import Dripline.Swaps.NoRoute
import Dripline.Positions.Limits
import Dripline.Positions.PendingWrites
import Dripline.Transactions.Completeness
import Dripline.Transactions.SwapAmounts
import Dripline.Trader.Copy.Caps
import Dripline.Trader.Copy.Mirror
import Dripline.Trader.Safety.LossLimit
import Dripline.Wallets.Overflow
import Dripline.Wallets.Order
import Dripline.Wallets.MainWallet
import Dripline.Trader.Copy.Inventory
import Dripline.Trader.Copy.Insights
import Dripline.Swaps.Deposits
import Dripline.Swaps.Delivery
import Dripline.Rpc.Probes
import Dripline.Rpc.Failover
import Dripline.Pools.Blacklist
import Dripline.Pools.Reserves
import Dripline.Pools.ReservePrices
import Dripline.AgentControl.Settlement
import Dripline.AgentControl.Redaction
import Dripline.AgentControl.ConfigAccess
import Dripline.Pools.PriceGaps
import Dripline.Rpc.ProviderRateLimiter
import Dripline.Tokens.RateLimitCoordinator
import Dripline.Tokens.Decimals
import Dripline.Tokens.PoolRefresh
import Dripline.Filtering.Engine
import Dripline.Ohlcv.GapRepair
import Dripline.Ohlcv.Composition
import Dripline.Configuration.Load
import Dripline.Strategies.Soundness
import Dripline.Services.Order
import Dripline.Venues.RaydiumClmm
import Dripline.Venues.DlmmPrice
import Dripline.Venues.MeteoraDbc
import Dripline.Venues.ConstantProduct
import Dripline.Venues.ClmmExact
import Dripline.Swaps.NamedVenue

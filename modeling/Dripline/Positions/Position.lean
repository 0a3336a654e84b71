import Mathlib.Algebra.Order.Ring.Rat

/-!
# Position rows

The `positions` table row and the machine arithmetic its counters are kept in.

* `Position` — every field of the source's struct; money is exact, times are nanoseconds.
* `PositionOrigin`, `PositionManagement` — who opened the position and who may manage it.
* `fromTimestamp` — seconds to a time, in the range the calendar has.
* `saturatingAdd64`, `wrappingAdd64` — the two additions of the `u64` counters.

A source without a file is in `positions/types.rs`.
-/

namespace Dripline.Positions

/-! ## Times -/

/-- A moment, in nanoseconds since the epoch. -/
abbrev DateTime := ℤ

/-- `DateTime::from_timestamp(ts, 0)`: the calendar ends in the years −262143 and 262142. -/
def fromTimestamp (ts : ℤ) : Option DateTime :=
  if -8334601228800 ≤ ts ∧ ts ≤ 8210266876799 then some (ts * 10 ^ 9) else none

/-! ## Counters -/

/-- `u64::saturating_add`. -/
def saturatingAdd64 (a b : ℕ) : ℕ := min (a + b) (2 ^ 64 - 1)

/-- `u64` addition as the release build compiles it, without an overflow check. -/
def wrappingAdd64 (a b : ℕ) : ℕ := (a + b) % 2 ^ 64

/-! ## Rows -/

/-- Why a position exists. Source: `PositionOrigin` -/
inductive PositionOrigin
  | auto (strategyId : Option String)
  | manual
  | copy (taskId : ℤ) (sourceWallet : String)
  | external
  deriving DecidableEq

/-- Ownership policy for automated actions on a position. Source: `PositionManagement` -/
inductive PositionManagement
  | autoTrader
  | userOnly
  | copyTask
  | hybrid
  deriving DecidableEq

/-- A position row. Source: `Position` -/
structure Position where
  id : Option ℤ
  mint : String
  symbol : String
  name : String
  entryPrice : ℚ
  entryTime : DateTime
  exitPrice : Option ℚ
  exitTime : Option DateTime
  positionType : String
  entrySizeSol : ℚ
  totalSizeSol : ℚ
  priceHighest : ℚ
  priceLowest : ℚ
  entryTransactionSignature : Option String
  exitTransactionSignature : Option String
  tokenAmount : Option ℕ
  effectiveEntryPrice : Option ℚ
  effectiveExitPrice : Option ℚ
  solReceived : Option ℚ
  profitTargetMin : Option ℚ
  profitTargetMax : Option ℚ
  liquidityTier : Option String
  transactionEntryVerified : Bool
  transactionExitVerified : Bool
  entryFeeLamports : Option ℕ
  exitFeeLamports : Option ℕ
  currentPrice : Option ℚ
  currentPriceUpdated : Option DateTime
  phantomRemove : Bool
  phantomConfirmations : ℕ
  phantomFirstSeen : Option DateTime
  syntheticExit : Bool
  closedReason : Option String
  pnl : Option ℚ
  pnlPercent : Option ℚ
  unrealizedPnl : Option ℚ
  unrealizedPnlPercent : Option ℚ
  remainingTokenAmount : Option ℕ
  totalExitedAmount : ℕ
  averageExitPrice : Option ℚ
  partialExitCount : ℕ
  dcaCount : ℕ
  averageEntryPrice : ℚ
  lastDcaTime : Option DateTime
  archived : Bool
  archivedAt : Option DateTime
  origin : PositionOrigin
  management : PositionManagement
  roundKey : Option String
  basisComplete : Bool
  historyComplete : Bool
  holdingState : Option String

/-- The row was derived from wallet history rather than executed by the bot. Source:
`Position::is_wallet_derived` -/
def Position.isWalletDerived (position : Position) : Bool :=
  position.origin == .external

/-- Source: `HOLDING_STATE_FROZEN` -/
def holdingStateFrozen : String := "frozen"

end Dripline.Positions

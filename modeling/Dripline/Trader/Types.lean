import Mathlib.Data.Rat.Defs

/-!
# What a trade is for, and what came of it

`trader/types.rs`.
-/

namespace Dripline.Trader

/-- Source: `trader/types.rs` -/
inductive TradeReason
  | strategySignal
  | manualEntry
  | forceBuy
  | copyBuy
  | dcaScheduled
  | takeProfit
  | stopLoss
  | trailingStop
  | timeOverride
  | strategyExit
  | llmAnalysisExit
  | manualExit
  | riskManagement
  | blacklisted
  | forceSell
  | copySell
  deriving DecidableEq

/-- Source: `trader/types.rs` -/
structure TradeResult where
  success : Bool
  txSignature : Option String
  executedPriceSol : Option ℚ
  error : Option String
  confirmationPending : Bool

end Dripline.Trader

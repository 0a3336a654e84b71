import Mathlib.Data.Rat.Defs

/-!
# What a watched wallet did

`wallets/watch/types.rs`: the activity that the watch publishes.

A source without a file is in `wallets/watch/types.rs`.
-/

namespace Dripline.Wallets

/-- Source: `SwapSide` -/
inductive SwapSide
  | buy
  | sell
  deriving DecidableEq

/-- Source: `TransferDirection` -/
inductive TransferDirection
  | incoming
  | outgoing
  deriving DecidableEq

/-- Source: `ActivityKind` -/
inductive ActivityKind
  | swap (mint : String) (side : SwapSide) (solAmount tokenAmount : ℚ) (priceSol : Option ℚ)
  | transfer (mint : String) (amount : ℚ) (direction : TransferDirection)
  | other
  deriving DecidableEq

/-- Why a wallet is watched. Source: `WatchSource` -/
inductive WatchSource
  | ownWallet
  | copy (taskId : ℤ)
  | alert (ruleId : ℤ)
  deriving DecidableEq

/-- Source: `WalletActivity` -/
structure WalletActivity where
  subject : String
  signature : String
  kind : ActivityKind
  sources : List WatchSource
  backfill : Bool

end Dripline.Wallets

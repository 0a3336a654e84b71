import Mathlib.Algebra.Order.Ring.Rat
import Mathlib.Algebra.Order.Field.Basic
import Dripline.Transactions.Delta

/-!
# Rounds and their events

The vocabulary of the wallet-history ledger (`positions/ledger/mod.rs`): one `LedgerRound` is one
`0 → … → 0` lifecycle of a single mint, made of the `LedgerEvent`s that moved its balance. Money
and whole-unit amounts, `f64` in the source, are exact rationals here; raw balances are the
integers they are in the source.

A source without a file is in `ledger/mod.rs`.
-/

namespace Dripline.Positions.Ledger

open Dripline.Transactions

/-- Whole-unit amounts below this are treated as zero. Source: `DUST` -/
def dust : ℚ := 1 / 10 ^ 12

/-- The asset a trade's consideration was denominated in. Source: `QuoteAsset` -/
inductive QuoteAsset
  | sol
  | usd
  deriving DecidableEq

/-- The consideration leg of one trade, in whole units. Source: `QuoteLeg` -/
structure QuoteLeg where
  asset : QuoteAsset
  amount : ℚ
  deriving DecidableEq

/-- What one balance movement meant for its round. Source: `LedgerEventKind` -/
inductive LedgerEventKind
  | entry
  | add
  | partialExit
  | exit
  | receive
  | send
  deriving DecidableEq

/-- Source: `LedgerEventKind::is_acquisition` -/
def LedgerEventKind.isAcquisition : LedgerEventKind → Bool
  | entry | add | receive => true
  | partialExit | exit | send => false

/-- One balance movement inside a round. Source: `LedgerEvent` -/
structure LedgerEvent where
  signature : String
  slot : Option ℕ
  blockTime : Option ℤ
  kind : LedgerEventKind
  amount : ℚ
  balanceAfter : ℚ
  quote : Option QuoteLeg
  priceSol : Option ℚ
  venue : Option String
  deriving DecidableEq

/-- One `0 → … → 0` lifecycle of one mint. Source: `LedgerRound` -/
structure LedgerRound where
  mint : String
  decimals : ℕ
  roundKey : String
  openedAt : Option ℤ
  closedAt : Option ℤ
  isOpen : Bool
  balanceRaw : ℕ
  totalAcquiredRaw : ℕ
  totalDisposedRaw : ℕ
  entryCount : ℕ
  exitCount : ℕ
  investedSol : ℚ
  remainingBasisSol : ℚ
  realizedProceedsSol : ℚ
  realizedCostSol : ℚ
  averageEntryPriceSol : Option ℚ
  averageExitPriceSol : Option ℚ
  realizedPnlSol : Option ℚ
  basisComplete : Bool
  historyComplete : Bool
  entrySignature : Option String
  exitSignature : Option String
  events : List LedgerEvent
  deriving DecidableEq

/-- The latest moment a round was observed to exist: the largest block time of its events, or its
opening. Source: `LedgerRound::last_seen_at` -/
def LedgerRound.lastSeenAt (round : LedgerRound) : Option ℤ :=
  (round.events.filterMap (·.blockTime)).max?.or round.openedAt

/-- A currently-held balance read from the wallet, one per token account. Source: `WalletHolding` -/
structure WalletHolding where
  mint : String
  amountRaw : ℕ
  decimals : ℕ

/-- Raw base units to whole units. Source: `raw_to_whole` -/
def rawToWhole (raw : ℤ) (decimals : ℕ) : ℚ :=
  raw / 10 ^ decimals

lemma rawToWhole_pos {raw : ℤ} (h : 0 < raw) (decimals : ℕ) : 0 < rawToWhole raw decimals := by
  have hraw : (0 : ℚ) < raw := by exact_mod_cast h
  exact div_pos hraw (pow_pos (by norm_num) decimals)

end Dripline.Positions.Ledger

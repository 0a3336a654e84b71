import Dripline.Chain.Asset

/-!
# Subject-relative balance deltas

`SubjectAssetDelta` is one asset movement of the subject wallet inside one transaction: the only
thing the ledger reduces over. Raw amounts are integers; the widths of the source's machine types
are far above what a mint's supply (`u64`) allows, and the one conversion that looks at a width, `u128` to `i128`, is kept as `asI128`.
-/

namespace Dripline.Transactions

open Dripline.Chain

/-- What kind of transaction moved the asset.
Source: `transactions/deltas.rs` -/
inductive DeltaKind
  | trade
  | transfer
  | deFi
  | other
  deriving DecidableEq

/-- One subject-relative asset movement within one transaction. `beforeRaw` and `afterRaw` are the
chain's own balances around it, when they are known.
Source: `transactions/deltas.rs` -/
structure SubjectAssetDelta where
  chain : ChainId
  walletAddress : String
  signature : String
  mint : String
  slot : Option ℕ
  blockTime : Option ℤ
  txIndex : ℕ
  deltaRaw : ℤ
  beforeRaw : Option ℕ
  afterRaw : Option ℕ
  decimals : ℕ
  kind : DeltaKind
  venue : Option String
  feeNativeRaw : Option ℕ
  success : Bool
  deriving DecidableEq

/-- `i128::try_from(v).ok()` of a `u128`. -/
def asI128 (v : ℕ) : Option ℤ :=
  if v < 2 ^ 127 then some v else none

lemma asI128_eq_some {v : ℕ} {n : ℤ} (h : asI128 v = some n) : n = v := by
  unfold asI128 at h
  split at h <;> simp_all

lemma asI128_nonneg {v : ℕ} {n : ℤ} (h : asI128 v = some n) : 0 ≤ n := by
  rw [asI128_eq_some h]
  exact Int.natCast_nonneg v

@[simp] lemma asI128_zero : asI128 0 = some 0 := rfl

/-! ## Rows as the tests build them -/

/-- A successful traded row with the chain's own balances.
Source: `tests/positions_ledger.rs` -/
def SubjectAssetDelta.token (signature : String) (slot : ℕ) (mint : String) (deltaRaw : ℤ)
    (before after : ℕ) : SubjectAssetDelta where
  chain := .solana
  walletAddress := "6uodGCMLfDLfeXkyW71WpUDK1BEG19bU2EV51x2dcGMv"
  signature := signature
  mint := mint
  slot := some slot
  blockTime := some (slot * 100)
  txIndex := 0
  deltaRaw := deltaRaw
  beforeRaw := some before
  afterRaw := some after
  decimals := 6
  kind := .trade
  venue := some "raydium"
  feeNativeRaw := some 5000
  success := true

/-- The native leg of a trade, in lamports. Source: `tests/positions_ledger.rs` -/
def SubjectAssetDelta.native (signature : String) (slot : ℕ) (lamports : ℤ) :
    SubjectAssetDelta where
  chain := .solana
  walletAddress := "6uodGCMLfDLfeXkyW71WpUDK1BEG19bU2EV51x2dcGMv"
  signature := signature
  mint := nativeSolSentinel
  slot := some slot
  blockTime := some (slot * 100)
  txIndex := 0
  deltaRaw := lamports
  beforeRaw := none
  afterRaw := none
  decimals := 9
  kind := .trade
  venue := some "raydium"
  feeNativeRaw := some 5000
  success := true

end Dripline.Transactions

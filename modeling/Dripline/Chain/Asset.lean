import Mathlib.Data.String.Basic

/-!
# Chain identities and reference assets

The part of the chain adapter the ledger reads: which mints denominate trades instead of being
positions, and what a transaction hash looks like as text.

* `isNativeAsset`, `isStableAsset` — the Solana adapter's answers.
* `isReferenceAsset` — the ledger's: the native sentinel, wSOL, the system program, USDC, USDT.
* `IsTransactionHash` — the base58 text of a 64-byte signature.

A source without a file is in `chains/solana/constants.rs`.
-/

namespace Dripline.Chain

/-- The chain a process operates on. Source: `chains/types.rs` -/
inductive ChainId
  | solana
  deriving DecidableEq

/-- The mint of a native SOL row, which has no real mint. Source: `transactions/deltas.rs`,
`NATIVE_SOL_SENTINEL` -/
def nativeSolSentinel : String := "native"

/-- Wrapped SOL. Source: `SOL_MINT` -/
def solMint : String := "So11111111111111111111111111111111111111112"

/-- Source: `SYSTEM_PROGRAM_ID` -/
def systemProgramId : String := "11111111111111111111111111111111"

/-- Source: `USDC_MINT` -/
def usdcMint : String := "EPjFWdd5AufqSSqeM2qN1xzybapC8G4wEGGkZwyTDt1v"

/-- Source: `USDT_MINT` -/
def usdtMint : String := "Es9vMFrzaCERmJfrF4H2FYD4KCoNkY11McCe8BenwNYB"

/-- Every spelling of the native asset the adapter accepts. Source: `chains/solana/adapter.rs`,
`is_native_asset` -/
def isNativeAsset (address : String) : Bool :=
  address == solMint || address == systemProgramId

/-- Canonical stablecoin quote assets. Source: `chains/solana/adapter.rs` -/
def stableAssets : List String := [usdcMint, usdtMint]

/-- Source: `chains/adapter.rs` -/
def isStableAsset (address : String) : Bool :=
  stableAssets.contains address

/-- Assets that denominate trades rather than being positions themselves. Source:
`positions/ledger/reducer.rs`, `is_reference_asset` -/
def isReferenceAsset (mint : String) : Bool :=
  mint == nativeSolSentinel || isNativeAsset mint || isStableAsset mint

/-! ## Text of an identity -/

/-- The base58 alphabet without `0`, `O`, `I` and `l`. Source: `chains/solana/adapter.rs`,
`BASE58_ALPHABET` -/
def base58Alphabet : List Char :=
  "123456789ABCDEFGHJKLMNPQRSTUVWXYZabcdefghijkmnopqrstuvwxyz".toList

/-- The base58 text of a 64-byte signature. -/
def IsTransactionHash (text : String) : Prop :=
  64 ≤ text.toList.length ∧ text.toList.length ≤ 88 ∧ ∀ c ∈ text.toList, c ∈ base58Alphabet

instance (text : String) : Decidable (IsTransactionHash text) :=
  inferInstanceAs (Decidable (_ ∧ _ ∧ _))

lemma isTransactionHash_of_all {text : String} (hmin : 64 ≤ text.toList.length)
    (hmax : text.toList.length ≤ 88) (hall : text.toList.all base58Alphabet.contains = true) :
    IsTransactionHash text := by
  refine ⟨hmin, hmax, fun c hc => ?_⟩
  simpa using List.all_eq_true.mp hall c hc

end Dripline.Chain

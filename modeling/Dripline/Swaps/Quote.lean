import Mathlib.Algebra.Order.Ring.Rat
import Dripline.Found.Outcome
import Dripline.Swaps.Error

/-!
# Quoting a direct swap

`direct/intent.rs`, `direct/fee.rs`, `direct/quote.rs` and `direct/mod.rs`: from what was asked to
the numbers a plan is built from, and the second quote an accepted one is executed by.

* `DirectSwapIntent.validate` — what may be asked.
* `PlatformFee.resolve` — the fee, its side decided by the mints alone.
* `quoteWithMarket` — side, input fee, pool quote, floor, output fee, in this order.
* `holdFloors` — the fresh quote, held to the floors that were accepted.
* `QuoteOf` — what both quotes have in common.

A source without a file is in `direct/fee.rs` or the file of its section, where a definition without
a comment is the one of its name.
-/

namespace Dripline.Swaps

open Dripline.Chain
open Dripline.Found (bind_eq_ok)

/-- Refuse with the error when the condition holds. -/
def refuseIf {ε : Type} (c : Prop) [Decidable c] (e : ε) : Except ε Unit :=
  if c then .error e else .ok ()

/-! ## What is asked, `direct/intent.rs` -/

def maxSlippageBps : ℕ := 5000

/-- A swap of one mint for another in one pool. Source: `direct/intent.rs` -/
structure DirectSwapIntent where
  pool : Pubkey
  owner : Pubkey
  inputMint : Pubkey
  outputMint : Pubkey
  amountIn : ℕ
  slippageBps : ℕ

def isWsol (mint : Pubkey) : Bool := mint == solMint

def DirectSwapIntent.validate (intent : DirectSwapIntent) : Except DirectSwapError Unit :=
  if intent.amountIn = 0 then .error (.invalidRequest "amount_in is zero")
  else if intent.inputMint = intent.outputMint then
    .error (.invalidRequest ("input and output mint are both " ++ intent.inputMint))
  else if maxSlippageBps < intent.slippageBps then
    .error (.invalidRequest ("slippage " ++ toString intent.slippageBps ++ " bps exceeds the " ++
      toString maxSlippageBps ++ " bps ceiling"))
  else .ok ()

def DirectSwapIntent.wrapsNative (intent : DirectSwapIntent) : Bool := isWsol intent.inputMint

def DirectSwapIntent.unwrapsNative (intent : DirectSwapIntent) : Bool := isWsol intent.outputMint

/-! ## The platform fee -/

/-- Source: `revenue.rs` -/
def platformFeeBps : ℕ := 50

/-- Source: `revenue.rs` -/
def bpsDenominator : ℕ := 10000

/-- Source: `revenue.rs` -/
def feeTokenAccountWsol : Pubkey := "9yiZThTzanryu3mg1VVu6Qy4HiqKhydCAUqcasLHPxWB"

/-- Source: `revenue.rs` -/
def feeTokenAccountUsdc : Pubkey := "3kmcF3DFGFRKXeC5v5AMzwpsdj2Uc3Z7a5KrojtWv2GW"

/-- Source: `revenue.rs` -/
def platformFeeAmount (amount : ℕ) : ℕ := amount * platformFeeBps / bpsDenominator

/-- Which leg pays the fee. -/
inductive FeeSide
  | input
  | output
  | none
  deriving DecidableEq

def isReferenceMint (mint : Pubkey) : Bool := mint == solMint || mint == usdcMint

def FeeSide.forPair (inputMint outputMint : Pubkey) : FeeSide :=
  if isReferenceMint outputMint then .output
  else if isReferenceMint inputMint then .input
  else .none

/-- How much, in what, and where it goes. -/
structure PlatformFee where
  side : FeeSide
  amount : ℕ
  mint : Option Pubkey
  destination : Option Pubkey
  decimals : ℕ

def PlatformFee.none : PlatformFee := ⟨.none, 0, Option.none, Option.none, 0⟩

/-- The fee in one reference mint. -/
def PlatformFee.ofReference (side : FeeSide) (referenceMint : Pubkey) (base : ℕ) :
    Except DirectSwapError PlatformFee :=
  if referenceMint = solMint then
    .ok ⟨side, platformFeeAmount base, some solMint, some feeTokenAccountWsol, 9⟩
  else if referenceMint = usdcMint then
    .ok ⟨side, platformFeeAmount base, some usdcMint, some feeTokenAccountUsdc, 6⟩
  else .error (.invalidRequest "fee side resolved without a reference mint on either leg")

def PlatformFee.resolve (side : FeeSide) (inputMint outputMint : Pubkey) (base : ℕ) :
    Except DirectSwapError PlatformFee :=
  match side with
  | .none => .ok PlatformFee.none
  | .input => PlatformFee.ofReference .input inputMint base
  | .output => PlatformFee.ofReference .output outputMint base

/-- An output fee, sized from the floor the chain guarantees; another fee as it is. Source:
`direct/quote.rs`, the fee of `assemble`; `direct_pool.rs`, of `execute_with_keypair` -/
def PlatformFee.sizedFrom (fee : PlatformFee) (inputMint outputMint : Pubkey) (minOut : ℕ) :
    Except DirectSwapError PlatformFee :=
  if fee.side = .output then PlatformFee.resolve .output inputMint outputMint minOut else .ok fee

/-- What an output fee takes from the proceeds. -/
def PlatformFee.onOutput (fee : PlatformFee) : ℕ := if fee.side = .output then fee.amount else 0

def PlatformFee.isCollectible (fee : PlatformFee) : Bool :=
  decide (0 < fee.amount) && fee.mint.isSome && fee.destination.isSome

/-! ## The pool -/

/-- What a venue's own math says; an impact that is not finite is `none`. Source: `direct/venue.rs`,
`VenueQuote` -/
structure VenueQuote where
  amountIn : ℕ
  expectedOut : ℕ
  lpFee : ℕ
  priceImpactPct : Option ℚ

/-- The wallet's side of a swap. Source: `direct/venue.rs` -/
structure SwapAccounts where
  owner : Pubkey
  inputMint : Pubkey
  outputMint : Pubkey
  inputTokenAccount : Pubkey
  outputTokenAccount : Pubkey

/-- A decoded pool that can be quoted; of its swap instruction, the data. Source: `direct/venue.rs`,
`PoolMarket` -/
structure PoolMarket where
  program : String
  pool : Pubkey
  mints : Pubkey × Pubkey
  tokenProgram : Pubkey → Option Pubkey
  quote : Pubkey → ℕ → Except DirectSwapError VenueQuote
  swapInstruction : SwapAccounts → ℕ → ℕ → Except DirectSwapError (List UInt8)
  computeUnits : ℕ
  settlesNativeSol : Bool

/-- Source: `direct/venue.rs` -/
def PoolMarket.trades (market : PoolMarket) (inputMint outputMint : Pubkey) : Bool :=
  (inputMint == market.mints.1 && outputMint == market.mints.2) ||
    (inputMint == market.mints.2 && outputMint == market.mints.1)

/-! ## The quote, `direct/quote.rs` -/

def minOutAfterSlippage (expectedOut slippageBps : ℕ) : ℕ :=
  expectedOut * (bpsDenominator - min slippageBps bpsDenominator) / bpsDenominator

structure DirectQuote where
  pool : Pubkey
  program : String
  inputMint : Pubkey
  outputMint : Pubkey
  amountIn : ℕ
  swapAmountIn : ℕ
  expectedOut : ℕ
  minOut : ℕ
  expectedNetOut : ℕ
  minNetOut : ℕ
  fee : PlatformFee
  lpFee : ℕ
  priceImpactPct : Option ℚ
  slippageBps : ℕ

def DirectQuote.assemble (intent : DirectSwapIntent) (program : String) (swapAmountIn : ℕ)
    (venueQuote : VenueQuote) (inputFee : PlatformFee) : Except DirectSwapError DirectQuote := do
  refuseIf (venueQuote.expectedOut = 0)
    (.insufficientLiquidity intent.pool intent.amountIn "the pool returns nothing for this size")
  let minOut := minOutAfterSlippage venueQuote.expectedOut intent.slippageBps
  refuseIf (minOut = 0)
    (.insufficientLiquidity intent.pool intent.amountIn
      "slippage tolerance reduces the guaranteed output to zero")
  let fee ← inputFee.sizedFrom intent.inputMint intent.outputMint minOut
  let expectedNetOut := venueQuote.expectedOut - fee.onOutput
  let minNetOut := minOut - fee.onOutput
  refuseIf (minNetOut = 0)
    (.insufficientLiquidity intent.pool intent.amountIn
      "the platform fee consumes the entire guaranteed output")
  return {
    pool := intent.pool
    program := program
    inputMint := intent.inputMint
    outputMint := intent.outputMint
    amountIn := intent.amountIn
    swapAmountIn := swapAmountIn
    expectedOut := venueQuote.expectedOut
    minOut := minOut
    expectedNetOut := expectedNetOut
    minNetOut := minNetOut
    fee := fee
    lpFee := venueQuote.lpFee
    priceImpactPct := venueQuote.priceImpactPct
    slippageBps := intent.slippageBps }

/-- Price an intent against a loaded market. Source: `direct/mod.rs` -/
def quoteWithMarket (intent : DirectSwapIntent) (market : PoolMarket) :
    Except DirectSwapError DirectQuote := do
  intent.validate
  refuseIf (market.trades intent.inputMint intent.outputMint = false)
    (.pairNotInPool market.pool intent.inputMint intent.outputMint)
  let side := FeeSide.forPair intent.inputMint intent.outputMint
  let base := if side = .input then intent.amountIn else 0
  let inputFee ← PlatformFee.resolve side intent.inputMint intent.outputMint base
  let swapAmountIn :=
    if side = .input then intent.amountIn - inputFee.amount else intent.amountIn
  refuseIf (swapAmountIn = 0)
    (.invalidRequest "the platform fee consumes the entire input at this size")
  let venueQuote ← market.quote intent.inputMint swapAmountIn
  DirectQuote.assemble intent market.program swapAmountIn venueQuote inputFee

/-! ## The second quote -/

/-- What the accepted quote carries to its execution. Source: `direct_pool.rs`,
`DirectExecutionData` -/
structure DirectExecutionData where
  pool : Pubkey
  amountIn : ℕ
  slippageBps : ℕ
  acceptedMinNetOut : ℕ
  acceptedMinOut : ℕ

/-- The impact of the fresh quote is one the settings allow. -/
def impactAllowed (maxImpact : ℚ) : Option ℚ → Bool
  | some impact => decide (0 ≤ impact) && decide (impact ≤ maxImpact)
  | none => false

/-- Hold a fresh quote to the floors that were accepted, and size the output fee from the floor that
will be enforced. Source: `direct_pool.rs`, `execute_with_keypair` -/
def holdFloors (maxImpact : ℚ) (pool : Pubkey) (data : DirectExecutionData) (fresh : DirectQuote) :
    Except DirectSwapError DirectQuote := do
  let moved := fun freshOut => DirectSwapError.marketMoved pool data.acceptedMinNetOut freshOut
  refuseIf (impactAllowed maxImpact fresh.priceImpactPct = false) (moved fresh.expectedNetOut)
  refuseIf (fresh.expectedOut < data.acceptedMinOut ∨
    fresh.expectedNetOut < data.acceptedMinNetOut) (moved fresh.expectedNetOut)
  let enforcedMinOut := max fresh.minOut data.acceptedMinOut
  let fee ← fresh.fee.sizedFrom fresh.inputMint fresh.outputMint enforcedMinOut
  let minNetOut := enforcedMinOut - fee.onOutput
  refuseIf (minNetOut < data.acceptedMinNetOut) (moved minNetOut)
  return { fresh with
    minOut := enforcedMinOut
    fee := fee
    expectedNetOut :=
      if fee.side = .output then fresh.expectedOut - fee.amount else fresh.expectedNetOut
    minNetOut := minNetOut }

/-! ## What a quote says -/

variable {u : Unit}

lemma refuseIf_eq_ok {ε : Type} {c : Prop} [Decidable c] {e : ε} : refuseIf c e = .ok u ↔ ¬ c := by
  unfold refuseIf
  split
  next h => simp [h]
  next h => simp [h]

variable {intent : DirectSwapIntent}

lemma DirectSwapIntent.ne_of_validate (h : intent.validate = .ok u) :
    intent.inputMint ≠ intent.outputMint := by
  unfold DirectSwapIntent.validate at h
  intro heq
  rw [if_pos heq] at h
  split at h <;> cases h

lemma platformFeeAmount_le (amount : ℕ) : platformFeeAmount amount ≤ amount := by
  unfold platformFeeAmount platformFeeBps bpsDenominator
  omega

/-- **What a resolved fee is**: none, or half a percent of its base, in the reference mint of its
leg, for the account that collects it. -/
inductive FeeOf (inputMint outputMint : Pubkey) (base : ℕ) : PlatformFee → Prop
  | none : FeeOf inputMint outputMint base PlatformFee.none
  | inputWsol (h : inputMint = solMint) : FeeOf inputMint outputMint base
      ⟨.input, platformFeeAmount base, some solMint, some feeTokenAccountWsol, 9⟩
  | inputUsdc (h : inputMint = usdcMint) : FeeOf inputMint outputMint base
      ⟨.input, platformFeeAmount base, some usdcMint, some feeTokenAccountUsdc, 6⟩
  | outputWsol (h : outputMint = solMint) : FeeOf inputMint outputMint base
      ⟨.output, platformFeeAmount base, some solMint, some feeTokenAccountWsol, 9⟩
  | outputUsdc (h : outputMint = usdcMint) : FeeOf inputMint outputMint base
      ⟨.output, platformFeeAmount base, some usdcMint, some feeTokenAccountUsdc, 6⟩

variable {outputMint inputMint : Pubkey} {fee : PlatformFee} {base : ℕ}

lemma PlatformFee.resolve_spec {side : FeeSide}
    (h : PlatformFee.resolve side inputMint outputMint base = .ok fee) :
    fee.side = side ∧ FeeOf inputMint outputMint base fee := by
  have hreference : ∀ {side : FeeSide} {mint : Pubkey},
      PlatformFee.ofReference side mint base = .ok fee →
      (mint = solMint ∧
        fee = ⟨side, platformFeeAmount base, some solMint, some feeTokenAccountWsol, 9⟩) ∨
      (mint = usdcMint ∧
        fee = ⟨side, platformFeeAmount base, some usdcMint, some feeTokenAccountUsdc, 6⟩) := by
    intro side mint h
    unfold PlatformFee.ofReference at h
    split at h
    next hsol => exact Or.inl ⟨hsol, (Except.ok.inj h).symm⟩
    next =>
      split at h
      next husdc => exact Or.inr ⟨husdc, (Except.ok.inj h).symm⟩
      next => cases h
  cases side with
  | none =>
    obtain rfl := Except.ok.inj h
    exact ⟨rfl, .none⟩
  | input =>
    rcases hreference h with ⟨hmint, rfl⟩ | ⟨hmint, rfl⟩
    · exact ⟨rfl, .inputWsol hmint⟩
    · exact ⟨rfl, .inputUsdc hmint⟩
  | output =>
    rcases hreference h with ⟨hmint, rfl⟩ | ⟨hmint, rfl⟩
    · exact ⟨rfl, .outputWsol hmint⟩
    · exact ⟨rfl, .outputUsdc hmint⟩

lemma PlatformFee.sizedFrom_spec {minOut : ℕ} {resized : PlatformFee}
    (hfee : FeeOf inputMint outputMint base fee)
    (h : fee.sizedFrom inputMint outputMint minOut = .ok resized) :
    resized.side = fee.side ∧ (resized.side ≠ .output → resized = fee) ∧
      FeeOf inputMint outputMint (if resized.side = .input then base else minOut) resized := by
  unfold PlatformFee.sizedFrom at h
  by_cases hside : fee.side = .output
  · rw [if_pos hside] at h
    obtain ⟨hresized, hof⟩ := PlatformFee.resolve_spec h
    refine ⟨by rw [hresized, hside], fun hne => absurd hresized hne, ?_⟩
    rw [if_neg (by rw [hresized]; decide)]
    exact hof
  · rw [if_neg hside] at h
    obtain rfl := Except.ok.inj h
    refine ⟨rfl, fun _ => rfl, ?_⟩
    cases hfee with
    | none => exact .none
    | inputWsol hmint => exact .inputWsol hmint
    | inputUsdc hmint => exact .inputUsdc hmint
    | outputWsol hmint | outputUsdc hmint => exact absurd rfl hside

/-- **What holds of a quote of an intent**, the first as the second. -/
structure QuoteOf (intent : DirectSwapIntent) (quote : DirectQuote) : Prop where
  inputMint : quote.inputMint = intent.inputMint
  outputMint : quote.outputMint = intent.outputMint
  amountIn : quote.amountIn = intent.amountIn
  side : quote.fee.side = FeeSide.forPair intent.inputMint intent.outputMint
  /-- the fee, of the leg that pays it -/
  fee : FeeOf intent.inputMint intent.outputMint
    (if quote.fee.side = .input then intent.amountIn else quote.minOut) quote.fee
  /-- what reaches the pool -/
  swapAmountIn : quote.swapAmountIn =
    if quote.fee.side = .input then intent.amountIn - quote.fee.amount else intent.amountIn
  /-- what the wallet is guaranteed to keep -/
  minNetOut : quote.minNetOut = quote.minOut - quote.fee.onOutput

variable {quote : DirectQuote}

lemma quoteWithMarket_spec {market : PoolMarket} (h : quoteWithMarket intent market = .ok quote) :
    intent.inputMint ≠ intent.outputMint ∧ QuoteOf intent quote ∧
      ∃ venueQuote,
        market.quote intent.inputMint quote.swapAmountIn = .ok venueQuote ∧
        quote.minOut = minOutAfterSlippage venueQuote.expectedOut intent.slippageBps := by
  unfold quoteWithMarket at h
  obtain ⟨_, hvalid, h⟩ := bind_eq_ok.mp h
  obtain ⟨_, -, h⟩ := bind_eq_ok.mp h
  obtain ⟨inputFee, hresolved, h⟩ := bind_eq_ok.mp h
  obtain ⟨_, -, h⟩ := bind_eq_ok.mp h
  obtain ⟨venueQuote, hvenue, h⟩ := bind_eq_ok.mp h
  unfold DirectQuote.assemble at h
  obtain ⟨_, -, h⟩ := bind_eq_ok.mp h
  obtain ⟨_, -, h⟩ := bind_eq_ok.mp h
  obtain ⟨fee, hsized, h⟩ := bind_eq_ok.mp h
  obtain ⟨_, -, h⟩ := bind_eq_ok.mp h
  obtain rfl := Except.ok.inj h
  obtain ⟨hside, hinput⟩ := PlatformFee.resolve_spec hresolved
  obtain ⟨hsame, hkept, hfee⟩ := PlatformFee.sizedFrom_spec hinput hsized
  refine ⟨DirectSwapIntent.ne_of_validate hvalid, ?_, venueQuote, hvenue, rfl⟩
  refine ⟨rfl, rfl, rfl, hsame.trans hside, ?_, ?_, rfl⟩
  · -- an input fee is taken from the whole amount
    by_cases hin : fee.side = .input
    · rw [if_pos hin, if_pos (hside.symm.trans (hsame.symm.trans hin))] at hfee
      simpa only [if_pos hin] using hfee
    · rw [if_neg hin] at hfee
      simpa only [if_neg hin] using hfee
  · have hin : FeeSide.forPair intent.inputMint intent.outputMint = .input ↔ fee.side = .input := by
      rw [hsame, hside]
    by_cases hfeeside : fee.side = .input
    · have heq : fee = inputFee := hkept (by rw [hfeeside]; decide)
      simp only [hin, heq]
    · simp only [hin, hfeeside, ↓reduceIte]

lemma holdFloors_spec {maxImpact : ℚ} {pool : Pubkey} {data : DirectExecutionData}
    {fresh held : DirectQuote} (hfresh : QuoteOf intent fresh)
    (h : holdFloors maxImpact pool data fresh = .ok held) :
    QuoteOf intent held ∧ held.swapAmountIn = fresh.swapAmountIn ∧
      held.minOut = max fresh.minOut data.acceptedMinOut ∧
      data.acceptedMinNetOut ≤ held.minNetOut := by
  unfold holdFloors at h
  obtain ⟨_, -, h⟩ := bind_eq_ok.mp h
  obtain ⟨_, -, h⟩ := bind_eq_ok.mp h
  obtain ⟨fee, hsized, h⟩ := bind_eq_ok.mp h
  obtain ⟨_, haccepted, h⟩ := bind_eq_ok.mp h
  obtain rfl := Except.ok.inj h
  rw [hfresh.inputMint, hfresh.outputMint] at hsized
  obtain ⟨hsame, hkept, hfee⟩ := PlatformFee.sizedFrom_spec hfresh.fee hsized
  refine ⟨⟨hfresh.inputMint, hfresh.outputMint, hfresh.amountIn, hsame.trans hfresh.side, ?_, ?_,
    rfl⟩, rfl, rfl, not_lt.mp (refuseIf_eq_ok.mp haccepted)⟩
  · by_cases hin : fee.side = .input
    · rw [if_pos hin, if_pos (hsame.symm.trans hin)] at hfee
      simpa only [if_pos hin] using hfee
    · rw [if_neg hin] at hfee
      simpa only [if_neg hin] using hfee
  · show fresh.swapAmountIn = _
    rw [hfresh.swapAmountIn]
    by_cases hin : fee.side = .input
    · rw [if_pos hin, if_pos (hsame.symm.trans hin), hkept (by rw [hin]; decide)]
    · rw [if_neg hin, if_neg fun h => hin (hsame.trans h)]

lemma QuoteOf.onOutput_le (h : QuoteOf intent quote) : quote.fee.onOutput ≤ quote.minOut := by
  have hfee := h.fee
  unfold PlatformFee.onOutput
  split
  next hout =>
    rw [if_neg (by rw [hout]; decide)] at hfee
    generalize hq : quote.fee = fee at hfee hout
    cases hfee with
    | none => exact Nat.zero_le _
    | inputWsol _ => cases hout
    | inputUsdc _ => cases hout
    | outputWsol _ | outputUsdc _ => exact platformFeeAmount_le _
  next => exact Nat.zero_le _

end Dripline.Swaps

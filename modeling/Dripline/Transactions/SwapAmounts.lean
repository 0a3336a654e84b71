import Dripline.Transactions.BalanceAnalysis

/-!
# The amounts of a swap

`chains/solana/transactions/processor/{analysis, dex_corrections}.rs`: the tokens and the SOL that
are booked for a swap.

* `booksOwn_iff` — exactly when it does.

A source without a file is in `processor/analysis.rs`.
-/

namespace Dripline.Transactions

open Dripline.Chain Dripline.Wallets Option

/-- SOL, and the lamports it is compared by. -/
structure Amount where
  ui : ℚ
  raw : ℕ

/-- Source: `input_raw`, then `input_ui` -/
def Amount.ofLamports (lamports : ℕ) : Amount := ⟨lamportsToSol lamports, lamports⟩

/-- Source: `input_ui`, then `input_raw` -/
def Amount.ofSol (sol : ℚ) : Amount := ⟨sol, toRaw sol⟩

/-- The second where it is more. Source: `processor/analysis.rs`, the comparisons of the raw
amounts -/
def Amount.orLarger (amount : Amount) : Option Amount → Amount
  | some other => if amount.raw < other.raw then other else amount
  | none => amount

/-- What is replaced by a correction. Source: `corrected_amount` -/
def Amount.corrected (amount : Amount) : Option ℕ → Amount
  | some lamports => if lamports = amount.raw then amount else Amount.ofLamports lamports
  | none => amount

/-! ## Corrections -/

/-- Source: `chains/solana/constants.rs`, `PUMP_FUN_LEGACY_PROGRAM_ID`, `PUMP_FUN_AMM_PROGRAM_ID` -/
def pumpfunPrograms : List String :=
  ["6EF8rrecthR5Dkzon8Nwu78hRvfCKubJ14M5uBEwF6P", "pAMMBay6oceH9fJKBRHGP5D4bD4sWpmSwMn52FMfXEA"]

namespace ParsedDetails

variable (details : ParsedDetails) (wallet : String)

/-- Source: `processor/dex_corrections.rs`, `apply_pumpfun_corrections`, `has_pumpfun` -/
def hasPumpfun : Bool :=
  details.instructions.any fun instruction => instruction.programId.any pumpfunPrograms.contains

/-- Where the deposit differs by more than a part in two thousand. Source:
`processor/dex_corrections.rs`, `apply_jupiter_corrections` -/
def applyJupiterCorrections (calculatedAmount : ℕ) : SwapDirection → Option ℕ
  | .solToToken =>
    (details.findLargestSystemTransferFromWalletExcludingTips wallet).bind fun depositRaw =>
      let rel : ℚ :=
        if 0 < calculatedAmount then |(calculatedAmount : ℚ) - depositRaw| / calculatedAmount else 1
      if 5 / 10000 < rel then some depositRaw else none
  | .tokenToSol | .tokenToToken => none

/-- Source: `processor/dex_corrections.rs` -/
def applyPumpfunCorrections (direction : SwapDirection) : Option ℕ :=
  if details.hasPumpfun then
    match direction with
    | .solToToken => details.findLargestSystemTransferFromWalletExcludingTips wallet
    | .tokenToSol => nonzero (toRaw (details.sumInnerWsolTransfersUiToWallet wallet))
    | .tokenToToken => none
  else none

/-- Raydium has none. Source: `processor/dex_corrections.rs` -/
def applyDexSpecificCorrections (router : String) (calculatedAmount : ℕ) (direction : SwapDirection) :
    Option ℕ :=
  if router = "jupiter" then details.applyJupiterCorrections wallet calculatedAmount direction
  else if router = "pumpfun" then details.applyPumpfunCorrections wallet direction
  else none

end ParsedDetails

namespace BalanceAnalysis

variable {details : ParsedDetails} (analysis : BalanceAnalysis details) (wallet router : String)

/-! ## What a buy spent -/

/-- The wrap of SOL, as the first of five measurements finds it. Source: `wrap_measured` -/
def measuredWrap : Option Amount :=
  match details.findWrapDepositViaSysTransfersToWsolAtas wallet with
  | some lamports => some (.ofLamports lamports)
  | none =>
    match details.findWrapDepositViaTransferToSyncAccount wallet with
    | some lamports => some (.ofLamports lamports)
    | none =>
      match details.findWrapSyncAccountAndDelta with
      | some (syncAccount, lamports) =>
        match details.sumSystemTransfersToAccountFromWallet wallet syncAccount with
        | some lamportsPrecise => some (.ofLamports lamportsPrecise)
        | none => some (.ofLamports lamports)
      | none =>
        match details.findWsolWrapDepositLamports with
        | some lamports => some (.ofLamports lamports)
        | none => (analysis.findOwnerWsolChangeUi wallet).map .ofSol

/-- Source: `processor/analysis.rs`, the estimate where no wrap was measured -/
def firstEstimate : Amount :=
  match details.findLargestSystemTransferFromWallet wallet with
  | some lamports => .ofLamports lamports
  | none =>
    let fees := analysis.calculateFeeBreakdown
    .ofSol (|(analysis.solChange wallet).getD 0| + fees.baseFee + fees.priorityFee + fees.mevTips)

/-- The SOL that left the wallet, less what it cost. Source: `derived_swap_ui` -/
def derivedSwap (change : ℚ) : Amount :=
  let fees := analysis.calculateFeeBreakdown
  .ofSol (max (|change| - (fees.baseFee + fees.priorityFee + fees.mevTips + fees.rentCosts)) 0)

/-- Source: `processor/analysis.rs`, the reconciliations of an estimate, and the gross outflow -/
def estimatedInput : Amount :=
  match analysis.solChange wallet with
  | none => analysis.firstEstimate wallet
  | some change =>
    let derived := analysis.derivedSwap change
    let reconciled := ((analysis.firstEstimate wallet).orLarger (some derived)).orLarger
      ((details.findLargestSystemTransferFromWalletExcludingTips wallet).map .ofLamports)
    if change < 0 ∧ 0 < derived.ui then reconciled.orLarger (some derived) else reconciled

/-- Source: `SwapDirection::SolToToken`, `input_ui` -/
def swapInput : Amount :=
  let input := (analysis.measuredWrap wallet).getD (analysis.estimatedInput wallet)
  input.corrected (details.applyDexSpecificCorrections wallet router input.raw .solToToken)

/-! ## What a sell received -/

/-- Source: `processor/analysis.rs`, the outflows of other accounts that count -/
def isPayout (change : String × ℚ) : Bool :=
  change.1 != wallet && decide (change.2 < 0) && !isRentAmount (toRaw |change.2|) && decide
    (|change.2| ≤ 1)

/-- Source: `processor/analysis.rs`, the largest outflow of another account -/
def largestOutflow : ℚ :=
  ((analysis.solChanges.filter (isPayout wallet)).map fun change => |change.2|).foldl max 0

/-- Source: `processor/analysis.rs`, the fallback of a sell -/
def walletOutput : ℚ :=
  let fees := analysis.calculateFeeBreakdown
  let tips := max fees.mevTips details.detectMevTipsFromInstructions
  max (|(analysis.solChange wallet).getD 0| + fees.baseFee + fees.priorityFee + tips) 0

/-- Source: `sol_from_swap` -/
def solFromSwap : ℚ :=
  let credited := details.sumInnerWsolTransfersUiToWallet wallet
  if credited ≠ 0 then credited
  else if analysis.largestOutflow wallet ≠ 0 then analysis.largestOutflow wallet
  else analysis.walletOutput wallet

/-- Source: `SwapDirection::TokenToSol`, `output_ui` -/
def swapOutput : Amount :=
  let output := Amount.ofSol (analysis.solFromSwap wallet)
  output.corrected (details.applyDexSpecificCorrections wallet router output.raw .tokenToSol)

end BalanceAnalysis

/-! ## The record -/

/-- Source: `transactions/types.rs`, `SwapPnLInfo`, the amounts and what they are of -/
structure SwapPnLInfo where
  tokenMint : String
  swapType : String
  solAmount : ℚ
  tokenAmount : ℚ
  calculatedPriceSol : ℚ
  router : String
  feeSol : ℚ
  ataRents : ℚ
  effectiveSolSpent : ℚ
  effectiveSolReceived : ℚ
  tokensBought : ℚ
  tokensSold : ℚ
  netSolChange : ℚ
  feesPaidSol : ℚ

namespace BalanceAnalysis

variable {details : ParsedDetails} (analysis : BalanceAnalysis details) (wallet router : String)

/-- Source: `corrected_sol_amount` -/
def correctedSolAmount (main : SwapPnL) : SwapDirection → ℚ
  | .solToToken => (analysis.swapInput wallet router).ui
  | .tokenToSol => (analysis.swapOutput wallet router).ui
  | .tokenToToken => |main.solAmountAdjusted|

/-- Source: `swap_pnl_info` -/
def swapPnlInfo (classification : SwapClass) : Option SwapPnLInfo :=
  (analysis.calculateMainSwapPnl classification).map fun main =>
    let solAmount := analysis.correctedSolAmount wallet router main classification.direction
    { tokenMint := classification.primaryToken
      swapType :=
        match classification.direction with
        | .solToToken => "Buy"
        | .tokenToSol => "Sell"
        | .tokenToToken => "Swap"
      solAmount := solAmount
      tokenAmount := |main.tokenAmount|
      calculatedPriceSol :=
        if 0 < |main.tokenAmount| then solAmount / |main.tokenAmount| else main.pricePerToken
      router := router
      feeSol := analysis.calculateFeeBreakdown.baseFee
      ataRents := lamportsToSol details.totalRentPaid
      effectiveSolSpent := if classification.direction = .solToToken then solAmount else 0
      effectiveSolReceived := if classification.direction = .tokenToSol then solAmount else 0
      tokensBought := if classification.direction = .solToToken then |main.tokenAmount| else 0
      tokensSold := if classification.direction = .tokenToSol then |main.tokenAmount| else 0
      netSolChange := (analysis.solChanges.map Prod.snd).sum
      feesPaidSol := analysis.calculateFeeBreakdown.totalFees }

end BalanceAnalysis

/-! ## What the wallet did -/

namespace ParsedDetails

variable (details : ParsedDetails) (wallet : String)

/-- What the wallet's own accounts are read from. -/
def reading : Reading :=
  ⟨details.instructions.filterMap (·.programId), details.metadata, details.accountKeys.idxOf wallet⟩

/-- What the wallet's own accounts gained or lost of a mint. -/
def ownTokens (mint : String) : ℚ := |(details.reading wallet).netChange wallet mint|

/-- The lamports that crossed the boundary of the wallet and its token accounts, so with wrapped SOL
and without rent, and without the fee it paid and its tips. -/
def ownLamports : ℕ :=
  ((details.reading wallet).solMoved wallet + details.mevTipsFromWallet wallet).natAbs

end ParsedDetails

/-- A record says what the wallet's own accounts did: the tokens, and the SOL one way or the
other. -/
structure BooksOwn (details : ParsedDetails) (wallet : String) (info : SwapPnLInfo) : Prop where
  token : info.tokenAmount = details.ownTokens wallet info.tokenMint
  sol : info.effectiveSolSpent + info.effectiveSolReceived = lamportsToSol (details.ownLamports wallet)

/-- No amount of a list is above one, and one is that. -/
def IsLargest {α : Type} [LE α] (amounts : List α) (amount : α) : Prop :=
  (∀ other ∈ amounts, other ≤ amount) ∧ amount ∈ amounts

namespace BalanceAnalysis

variable {details : ParsedDetails} (analysis : BalanceAnalysis details) (wallet router : String)

/-- The estimates of what a buy spent: a transfer or the wallet's loss with its fees, the loss less
its costs, and the largest transfer that is no tip. -/
def estimates : List Amount :=
  analysis.firstEstimate wallet ::
    (analysis.solChange wallet).elim [] fun change =>
      analysis.derivedSwap change ::
        ((details.findLargestSystemTransferFromWalletExcludingTips wallet).map Amount.ofLamports).toList

/-- What other accounts paid out. -/
def payouts : List ℚ := (analysis.solChanges.filter (isPayout wallet)).map fun change => |change.2|

/-- Where the wrap of a buy is measured, that is what the wallet spent. -/
def WrapAgrees (lamports : ℕ) : Prop :=
  match details.findWrapDepositViaSysTransfersToWsolAtas wallet with
  | some deposits => deposits = lamports
  | none =>
    match details.findWrapDepositViaTransferToSyncAccount wallet with
    | some deposits => deposits = lamports
    | none =>
      match details.findWrapSyncAccountAndDelta with
      | some (_, gained) => gained = lamports
      | none =>
        match details.findWsolWrapDepositLamports with
        | some _ =>
          IsLargest (((details.tokenBalances.filter (·.mint == solMint)).map
            (·.accountIndex)).filterMap details.lamportsGained) lamports
        | none =>
          ∀ lost, analysis.findOwnerWsolChangeUi wallet = some lost →
            lost = lamportsToSol lamports

/-- A buy is booked at what the wallet spent: by the deposit that corrects it, or by the wrap that
is measured, or by the first of the largest estimates. -/
def SpentAgrees (lamports : ℕ) : Prop :=
  let input := (analysis.measuredWrap wallet).getD (analysis.estimatedInput wallet)
  if ∃ deposit, details.applyDexSpecificCorrections wallet router input.raw .solToToken = some deposit ∧
      deposit ≠ input.raw then
    details.findLargestSystemTransferFromWalletExcludingTips wallet = some lamports
  else if (analysis.measuredWrap wallet).isSome then analysis.WrapAgrees wallet lamports
  else ∃ taken ∈ (analysis.estimates wallet).argmax Amount.raw, taken.ui = lamportsToSol lamports

/-- A sell is booked at what the wallet received: by the credits of wrapped SOL, or as the largest
payout of another account, or by the wallet's change and its fees. -/
def ReceivedAgrees (lamports : ℕ) : Prop :=
  if details.sumInnerWsolTransfersUiToWallet wallet ≠ 0 then
    details.sumInnerWsolTransfersUiToWallet wallet = lamportsToSol lamports
  else if analysis.payouts wallet ≠ [] then IsLargest (analysis.payouts wallet) (lamportsToSol lamports)
  else analysis.walletOutput wallet = lamportsToSol lamports

/-- The SOL of a swap agrees with what the wallet moved. -/
def SolAgrees (lamports : ℕ) : SwapDirection → Prop
  | .solToToken => analysis.SpentAgrees wallet router lamports
  | .tokenToSol => analysis.ReceivedAgrees wallet lamports
  | .tokenToToken => lamports = 0

end BalanceAnalysis

/-! ## Amounts that are taken -/

lemma lamportsToSol_inj {n m : ℕ} : lamportsToSol n = lamportsToSol m ↔ n = m := by
  simp [lamportsToSol]

lemma foldl_max_spec {α : Type} [LinearOrder α] (amounts : List α) (start : α) :
    start ≤ amounts.foldl max start ∧ (∀ other ∈ amounts, other ≤ amounts.foldl max start) ∧
      (amounts.foldl max start = start ∨ amounts.foldl max start ∈ amounts) := by
  induction amounts generalizing start with
  | nil => simp
  | cons first rest ih =>
    obtain ⟨hstart, hall, hmem⟩ := ih (max start first)
    refine ⟨(le_max_left _ _).trans hstart, ?_, ?_⟩
    · intro other hother
      rcases List.mem_cons.mp hother with rfl | hother
      · exact (le_max_right _ _).trans hstart
      · exact hall other hother
    · rcases hmem with heq | hmem
      · rw [List.foldl_cons, heq]
        rcases max_choice start first with hmax | hmax
        · exact Or.inl hmax
        · rw [hmax]
          exact Or.inr List.mem_cons_self
      · exact Or.inr (List.mem_cons_of_mem _ hmem)

lemma isLargest_foldl_max {α : Type} [LinearOrder α] {amounts : List α} {start : α}
    (h : start < amounts.foldl max start) : IsLargest amounts (amounts.foldl max start) := by
  obtain ⟨-, hall, hmem⟩ := foldl_max_spec amounts start
  exact ⟨hall, hmem.resolve_left h.ne'⟩

lemma IsLargest.eq_iff {α : Type} [PartialOrder α] {amounts : List α} {amount other : α}
    (h : IsLargest amounts amount) : amount = other ↔ IsLargest amounts other := by
  constructor
  · rintro rfl
    exact h
  · intro hother
    exact le_antisymm (hother.1 _ h.2) (h.1 _ hother.2)

lemma argmax_append_toList {amounts : List Amount} {amount : Amount}
    (h : amounts.argmax Amount.raw = some amount) (other : Option Amount) :
    (amounts ++ other.toList).argmax Amount.raw = some (amount.orLarger other) := by
  cases other with
  | none => simpa [Amount.orLarger] using h
  | some other =>
    rw [toList_some, List.argmax_concat, h]
    simp only [Amount.orLarger]
    split <;> rfl

namespace BalanceAnalysis

variable {details : ParsedDetails} (analysis : BalanceAnalysis details) (wallet router : String)
  {lamports : ℕ}

lemma measuredWrap_ui_iff {amount : Amount} (h : analysis.measuredWrap wallet = some amount) :
    amount.ui = lamportsToSol lamports ↔ analysis.WrapAgrees wallet lamports := by
  unfold measuredWrap at h
  unfold WrapAgrees
  cases hdeposits : details.findWrapDepositViaSysTransfersToWsolAtas wallet with
  | some deposits =>
    simp only [hdeposits, Option.some.injEq] at h
    rw [← h]
    exact lamportsToSol_inj
  | none =>
    simp only [hdeposits] at h ⊢
    cases htransfers : details.findWrapDepositViaTransferToSyncAccount wallet with
    | some deposits =>
      simp only [htransfers, Option.some.injEq] at h
      rw [← h]
      exact lamportsToSol_inj
    | none =>
      simp only [htransfers] at h ⊢
      cases hsync : details.findWrapSyncAccountAndDelta with
      | some synced =>
        -- transfers to that account would have been found before
        have hnone : details.sumSystemTransfersToAccountFromWallet wallet synced.1 = none := by
          simpa [ParsedDetails.findWrapDepositViaTransferToSyncAccount, hsync] using htransfers
        simp only [hsync, hnone, Option.some.injEq] at h
        rw [← h]
        exact lamportsToSol_inj
      | none =>
        simp only [hsync] at h ⊢
        cases hwrap : details.findWsolWrapDepositLamports with
        | some gained =>
          simp only [hwrap, Option.some.injEq] at h
          rw [← h]
          simp only [ParsedDetails.findWsolWrapDepositLamports, nonzero,
            ite_none_right_eq_some, Option.some.injEq] at hwrap
          obtain ⟨hpos, rfl⟩ := hwrap
          exact lamportsToSol_inj.trans (isLargest_foldl_max hpos).eq_iff
        | none =>
          simp only [hwrap] at h ⊢
          obtain ⟨lost, hlost, rfl⟩ := map_eq_some_iff.mp h
          constructor
          · rintro hui other hother
            rw [← Option.some.inj (hlost.symm.trans hother)]
            exact hui
          · intro hall
            exact hall lost hlost

lemma estimatedInput_mem_argmax :
    analysis.estimatedInput wallet ∈ (analysis.estimates wallet).argmax Amount.raw := by
  unfold estimatedInput estimates
  cases hchange : analysis.solChange wallet with
  | none => simp
  | some change =>
    -- the gross outflow is the derived amount again, and no more than what it was reconciled to
    have hgross : ∀ (first derived : Amount) (deposit : Option Amount),
        ((first.orLarger (some derived)).orLarger deposit).orLarger (some derived) =
          (first.orLarger (some derived)).orLarger deposit := by
      intro first derived deposit
      cases deposit <;> simp only [Amount.orLarger] <;> grind
    have hargmax (first derived : Amount) (deposit : Option Amount) :
        (first :: derived :: deposit.toList).argmax Amount.raw =
          some ((first.orLarger (some derived)).orLarger deposit) :=
      argmax_append_toList (argmax_append_toList List.argmax_singleton (some derived)) deposit
    simp only [hgross, ite_self, elim_some, hargmax, mem_def]

lemma eq_of_corrections {calculated deposit : ℕ}
    (h : details.applyDexSpecificCorrections wallet router calculated .solToToken = some deposit) :
    details.findLargestSystemTransferFromWalletExcludingTips wallet = some deposit := by
  unfold ParsedDetails.applyDexSpecificCorrections at h
  split at h
  · simp only [ParsedDetails.applyJupiterCorrections, bind_eq_some_iff,
      ite_none_right_eq_some, Option.some.injEq] at h
    obtain ⟨found, hfound, -, rfl⟩ := h
    exact hfound
  · split at h
    · unfold ParsedDetails.applyPumpfunCorrections at h
      split at h
      · exact h
      · cases h
    · cases h

lemma taken_ui_iff :
    ((analysis.measuredWrap wallet).getD (analysis.estimatedInput wallet)).ui = lamportsToSol lamports ↔
      if (analysis.measuredWrap wallet).isSome then analysis.WrapAgrees wallet lamports
      else ∃ taken ∈ (analysis.estimates wallet).argmax Amount.raw,
        taken.ui = lamportsToSol lamports := by
  cases hwrap : analysis.measuredWrap wallet with
  | some amount =>
    rw [getD_some, isSome_some, if_pos rfl]
    exact analysis.measuredWrap_ui_iff wallet hwrap
  | none =>
    rw [getD_none, isSome_none, if_neg Bool.false_ne_true]
    have htaken := analysis.estimatedInput_mem_argmax wallet
    constructor
    · intro h
      exact ⟨_, htaken, h⟩
    · rintro ⟨taken, hmem, h⟩
      rwa [mem_unique htaken hmem]

lemma swapInput_ui_iff :
    (analysis.swapInput wallet router).ui = lamportsToSol lamports ↔
      analysis.SpentAgrees wallet router lamports := by
  rw [SpentAgrees, ← analysis.taken_ui_iff wallet]
  unfold swapInput
  generalize (analysis.measuredWrap wallet).getD (analysis.estimatedInput wallet) = input
  dsimp only
  cases hcorrection : details.applyDexSpecificCorrections wallet router input.raw .solToToken with
  | some deposit =>
    by_cases hsame : deposit = input.raw
    · simp [Amount.corrected, hsame]
    · have hdeposit := eq_of_corrections wallet router hcorrection
      simp only [Amount.corrected, hsame, if_false, Amount.ofLamports, lamportsToSol_inj, hdeposit,
        Option.some.injEq, ne_eq, exists_eq_left', not_false_eq_true, if_true]
  | none => simp [Amount.corrected]

lemma swapOutput_ui_eq : (analysis.swapOutput wallet router).ui = analysis.solFromSwap wallet := by
  have hnone : ∀ lamports, details.applyDexSpecificCorrections wallet router
      (Amount.ofSol (analysis.solFromSwap wallet)).raw .tokenToSol = some lamports →
        lamports = (Amount.ofSol (analysis.solFromSwap wallet)).raw := by
    intro lamports h
    unfold ParsedDetails.applyDexSpecificCorrections at h
    split at h
    · cases h
    · split at h
      · simp only [ParsedDetails.applyPumpfunCorrections, ite_none_right_eq_some, nonzero,
          Option.some.injEq] at h
        obtain ⟨-, hpos, rfl⟩ := h
        have hcredited : details.sumInnerWsolTransfersUiToWallet wallet ≠ 0 := by
          intro hzero
          rw [hzero] at hpos
          norm_num [toRaw] at hpos
        rw [solFromSwap, if_pos hcredited]
        rfl
      · cases h
  unfold swapOutput
  dsimp only
  cases hcorrection : details.applyDexSpecificCorrections wallet router
      (Amount.ofSol (analysis.solFromSwap wallet)).raw .tokenToSol with
  | some lamports =>
    rw [Amount.corrected, if_pos (hnone lamports hcorrection)]
    rfl
  | none => rfl

lemma largestOutflow_pos (h : analysis.payouts wallet ≠ []) : 0 < analysis.largestOutflow wallet := by
  obtain ⟨payout, hpayout⟩ := List.exists_mem_of_ne_nil _ h
  have hle := (foldl_max_spec (analysis.payouts wallet) 0).2.1 payout hpayout
  obtain ⟨change, hchange, rfl⟩ := List.mem_map.mp hpayout
  have hcounts := (List.mem_filter.mp hchange).2
  simp only [isPayout, Bool.and_eq_true, decide_eq_true_eq] at hcounts
  exact lt_of_lt_of_le (abs_pos.mpr hcounts.1.1.2.ne) hle

lemma swapOutput_ui_iff :
    (analysis.swapOutput wallet router).ui = lamportsToSol lamports ↔
      analysis.ReceivedAgrees wallet lamports := by
  rw [swapOutput_ui_eq, solFromSwap, ReceivedAgrees]
  split
  case isTrue => rfl
  case isFalse =>
    by_cases hpayouts : analysis.payouts wallet = []
    · have hzero : analysis.largestOutflow wallet = 0 := by
        change (analysis.payouts wallet).foldl max 0 = 0
        rw [hpayouts]
        rfl
      simp only [hzero, hpayouts, ne_eq, not_true_eq_false, if_false]
    · have hpos := analysis.largestOutflow_pos wallet hpayouts
      rw [if_pos hpos.ne', if_pos hpayouts]
      exact (isLargest_foldl_max hpos).eq_iff

variable {mint : String} {amount : ℚ}

lemma findLargestTokenChange_pos (h : analysis.findLargestTokenChange mint = some amount) :
    0 < amount := by
  simp only [findLargestTokenChange, ite_none_right_eq_some, Option.some.injEq] at h
  obtain ⟨hpos, rfl⟩ := h
  exact hpos

lemma findLargestTokenChange_eq_iff {own : ℚ}
    (h : analysis.findLargestTokenChange mint = some amount) :
    amount = own ↔ IsLargest ((analysis.changesOf mint).map abs) own := by
  simp only [findLargestTokenChange, ite_none_right_eq_some, Option.some.injEq] at h
  obtain ⟨hpos, rfl⟩ := h
  exact (isLargest_foldl_max hpos).eq_iff

end BalanceAnalysis

variable {classification : SwapClass}

lemma BalanceAnalysis.findLargestTokenChange_of_main {details : ParsedDetails}
    {analysis : BalanceAnalysis details} {main : SwapPnL}
    (h : analysis.calculateMainSwapPnl classification = some main) :
    analysis.findLargestTokenChange classification.primaryToken = some main.tokenAmount := by
  simp only [calculateMainSwapPnl, bind_eq_bind, bind_eq_some_iff, Option.some.injEq] at h
  obtain ⟨amount, hamount, -, -, rfl⟩ := h
  exact hamount

lemma BalanceAnalysis.sol_of_swapPnlInfo {details : ParsedDetails}
    {analysis : BalanceAnalysis details} {wallet router : String} {info : SwapPnLInfo}
    (h : analysis.swapPnlInfo wallet router classification = some info) :
    info.effectiveSolSpent + info.effectiveSolReceived =
      match classification.direction with
      | .solToToken => (analysis.swapInput wallet router).ui
      | .tokenToSol => (analysis.swapOutput wallet router).ui
      | .tokenToToken => 0 := by
  obtain ⟨main, -, rfl⟩ := map_eq_some_iff.mp h
  cases classification.direction <;> simp [correctedSolAmount]

/-- So many tokens, in millionths. -/
def tokensOf (accountIndex : ℕ) (owner : String) (tokens : ℕ) : UiTokenBalance :=
  ⟨⟨accountIndex, "MINT", some owner, ⟨toString (tokens * 1000000), 6⟩⟩, some tokens⟩

/-- The curve is paid a SOL and gives a hundred tokens, of which the wallet gets so many. -/
def curveMetadata (received : ℕ) : UiMetadata where
  preBalances := [3000000000, 10000000000, 2039280, 2039280]
  postBalances := [1999995000, 11000000000, 2039280, 2039280]
  preTokenBalances := some [tokensOf 2 "CURVE" 1000, tokensOf 3 "WALLET" 0]
  postTokenBalances := some [tokensOf 2 "CURVE" 900, tokensOf 3 "WALLET" received]
  fee := 5000
  lamports_lt := by decide

/-- The buy, with its payment among the inner instructions. -/
def curveDetails (received : ℕ) : ParsedDetails where
  accountKeys := ["WALLET", "CURVE", "CURVE-TOKENS", "WALLET-TOKENS"]
  signatures := 1
  instructions := [{ programId := some "6EF8rrecthR5Dkzon8Nwu78hRvfCKubJ14M5uBEwF6P" }]
  innerInstructions :=
    [{ parsed := some ⟨some "transfer", some
        { source := some "WALLET", destination := some "CURVE", lamports := some 1000000000 }⟩ }]
  metadata := curveMetadata received
  computeUnitsConsumed := none

/-- The changes as they are found. -/
def curveAnalysis (received : ℕ) : BalanceAnalysis (curveDetails received) :=
  ⟨_, _, .refl _, .refl _⟩

end Dripline.Transactions

import Dripline.Trader.Copy.Task

/-!
# Paper fills and the paper book

`trader/copy/paper.rs` and the paper half of `database/ledger.rs`.
-/

namespace Dripline.Trader.Copy

/-! ## Fills -/

/-- Source: `paper.rs` -/
def paperReferralFeeBps : ℚ := 50

/-- Source: `paper.rs` -/
structure PaperCosts where
  networkFeeSol : ℚ
  priorityFeeSol : ℚ

/-- The price of the decision, if there is one, and whether the pool has it.
Source: `paper.rs` -/
structure PaperMarket where
  priceSol : Option ℚ
  fromPool : Bool

/-- Source: `types.rs` -/
structure PaperFill where
  inputSol : ℚ
  marketPriceSol : ℚ
  pricedFromPool : Bool
  fillPriceSol : ℚ
  tokenAmount : ℚ
  referralFeeSol : ℚ
  networkFeeSol : ℚ
  priorityFeeSol : ℚ
  totalCostSol : ℚ

/-- Source: `types.rs` -/
structure PaperSellFill where
  tokenAmount : ℚ
  marketPriceSol : ℚ
  pricedFromPool : Bool
  fillPriceSol : ℚ
  grossSol : ℚ
  referralFeeSol : ℚ
  networkFeeSol : ℚ
  priorityFeeSol : ℚ
  netProceedsSol : ℚ

/-- The market price, which has to be there and positive. Source: `paper.rs` -/
def PaperMarket.price (market : PaperMarket) : Except CopySkip ℚ :=
  match market.priceSol with
  | some price => if 0 < price then .ok price else .error .invalidPrice
  | none => .error .invalidPrice

/-- Source: `paper.rs` -/
def simulateFill (inputSol : ℚ) (market : PaperMarket) (slippagePct : ℚ) (costs : PaperCosts) :
    Except CopySkip PaperFill :=
  if inputSol ≤ 0 then .error .invalidSizing
  else
    market.price.map fun marketPriceSol =>
      let fillPriceSol := marketPriceSol * (1 + slippagePct / 100)
      let referralFeeSol := inputSol * paperReferralFeeBps / 10000
      { inputSol
        marketPriceSol
        pricedFromPool := market.fromPool
        fillPriceSol
        tokenAmount := (inputSol - referralFeeSol) / fillPriceSol
        referralFeeSol
        networkFeeSol := costs.networkFeeSol
        priorityFeeSol := costs.priorityFeeSol
        totalCostSol := inputSol + costs.networkFeeSol + costs.priorityFeeSol }

/-- Source: `paper.rs` -/
def simulateSell (tokenAmount : ℚ) (market : PaperMarket) (slippagePct : ℚ) (costs : PaperCosts) :
    Except CopySkip PaperSellFill :=
  if tokenAmount ≤ 0 then .error .copyPositionNotFound
  else
    market.price.map fun marketPriceSol =>
      let fillPriceSol := marketPriceSol * max (1 - slippagePct / 100) 0
      let grossSol := tokenAmount * fillPriceSol
      let referralFeeSol := grossSol * paperReferralFeeBps / 10000
      { tokenAmount
        marketPriceSol
        pricedFromPool := market.fromPool
        fillPriceSol
        grossSol
        referralFeeSol
        networkFeeSol := costs.networkFeeSol
        priorityFeeSol := costs.priorityFeeSol
        netProceedsSol := grossSol - referralFeeSol - costs.networkFeeSol - costs.priorityFeeSol }

lemma tokenAmount_of_simulateSell {tokenAmount slippagePct : ℚ} {market : PaperMarket}
    {costs : PaperCosts} {fill : PaperSellFill}
    (h : simulateSell tokenAmount market slippagePct costs = .ok fill) :
    fill.tokenAmount = tokenAmount ∧ 0 < tokenAmount := by
  unfold simulateSell at h
  split at h
  · cases h
  case isFalse hpositive =>
    cases hprice : market.price with
    | error reason =>
      rw [hprice] at h
      cases h
    | ok price =>
      rw [hprice] at h
      rw [← Except.ok.inj h]
      exact ⟨rfl, not_le.mp hpositive⟩

/-! ## The book -/

/-- The paper holding of a task in a token. Source: `types.rs` -/
structure PaperPosition where
  tokenAmount : ℚ
  costBasisSol : ℚ
  investedSol : ℚ
  realizedProceedsSol : ℚ
  realizedCostSol : ℚ
  buys : ℕ
  sells : ℕ
  lastPriceSol : Option ℚ
  lastPriceAt : Option ℤ
  openedAt : ℤ
  closedAt : Option ℤ
  peakPriceSol : Option ℚ

/-- Source: `types.rs` -/
def PaperPosition.isOpen (position : PaperPosition) : Bool :=
  position.closedAt.isNone && decide (0 < position.tokenAmount)

/-- A fill joins the holding, and opens it again. Source: `database/ledger.rs` -/
def applyPaperBuy (position : Option PaperPosition) (fill : PaperFill) (decidedAt : ℤ) :
    PaperPosition :=
  match position with
  | none =>
    { tokenAmount := fill.tokenAmount
      costBasisSol := fill.totalCostSol
      investedSol := fill.totalCostSol
      realizedProceedsSol := 0
      realizedCostSol := 0
      buys := 1
      sells := 0
      lastPriceSol := some fill.marketPriceSol
      lastPriceAt := some decidedAt
      openedAt := decidedAt
      closedAt := none
      peakPriceSol := some fill.marketPriceSol }
  | some position =>
    { position with
      tokenAmount := position.tokenAmount + fill.tokenAmount
      costBasisSol := position.costBasisSol + fill.totalCostSol
      investedSol := position.investedSol + fill.totalCostSol
      buys := position.buys + 1
      lastPriceSol := some fill.marketPriceSol
      lastPriceAt := some decidedAt
      openedAt := if position.closedAt.isNone then position.openedAt else decidedAt
      closedAt := none
      peakPriceSol :=
        if position.closedAt.isNone then
          some (max (position.peakPriceSol.getD fill.marketPriceSol) fill.marketPriceSol)
        else some fill.marketPriceSol }

/-- Source: `database/ledger.rs` -/
def closeResidueFraction : ℚ := 1 / 1000000000

/-- A sell takes its share of the cost, and closes the holding when next to nothing is left.
Source: `database/ledger.rs` -/
def applyPaperSell (position : PaperPosition) (tokenAmount netProceedsSol priceSol : ℚ)
    (soldAt : ℤ) : PaperPosition :=
  if position.closedAt.isSome ∨ position.tokenAmount ≤ 0 then position
  else
    let sold := min tokenAmount position.tokenAmount
    let costSold := position.costBasisSol * sold / position.tokenAmount
    let remaining := position.tokenAmount - sold
    let closes := decide (remaining ≤ position.tokenAmount * closeResidueFraction)
    { position with
      tokenAmount := if closes then 0 else remaining
      costBasisSol := if closes then 0 else position.costBasisSol - costSold
      realizedProceedsSol := position.realizedProceedsSol + netProceedsSol
      realizedCostSol := position.realizedCostSol + if closes then position.costBasisSol else costSold
      sells := position.sells + 1
      lastPriceSol := some priceSol
      lastPriceAt := some soldAt
      closedAt := if closes then some soldAt else none }

lemma tokenAmount_applyPaperSell {position : PaperPosition} (hopen : position.isOpen = true)
    (tokenAmount netProceedsSol priceSol : ℚ) (soldAt : ℤ) :
    (applyPaperSell position tokenAmount netProceedsSol priceSol soldAt).tokenAmount =
      if position.tokenAmount - min tokenAmount position.tokenAmount ≤
          position.tokenAmount * closeResidueFraction then 0
      else position.tokenAmount - min tokenAmount position.tokenAmount := by
  obtain ⟨hclosed, hpositive⟩ := (Bool.and_eq_true _ _).mp hopen
  have hheld : 0 < position.tokenAmount := of_decide_eq_true hpositive
  unfold applyPaperSell
  rw [if_neg]
  · simp only [decide_eq_true_eq]
  · rintro (hsome | hnone)
    · rw [Option.isNone_iff_eq_none.mp hclosed] at hsome
      cases hsome
    · exact absurd hheld (not_lt.mpr hnone)

lemma cost_applyPaperSell (position : PaperPosition) (tokenAmount netProceedsSol priceSol : ℚ)
    (soldAt : ℤ) :
    (applyPaperSell position tokenAmount netProceedsSol priceSol soldAt).costBasisSol +
        (applyPaperSell position tokenAmount netProceedsSol priceSol soldAt).realizedCostSol =
      position.costBasisSol + position.realizedCostSol := by
  unfold applyPaperSell
  split
  · rfl
  · dsimp only
    split <;> ring

end Dripline.Trader.Copy

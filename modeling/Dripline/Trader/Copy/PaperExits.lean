import Dripline.Found.Trace
import Dripline.Positions.Transition
import Dripline.Trader.Copy.Paper
import Dripline.Trader.ExitRules
import Mathlib.Tactic.FieldSimp
import Mathlib.Tactic.Positivity

/-!
# Exits of a paper holding, and of the position it stands for

`trader/copy/paper_exits.rs` beside the live monitor of `trader/evaluators/exit.rs`.

* `agrees_of_careful` — they decide alike in every run that reaches none of the differences.
-/

namespace Dripline.Trader.Copy

open Dripline.Found.Rules Dripline.Found.Trace Dripline.Positions

/-! ## The paper book -/

/-- Source: `types.rs` -/
inductive PaperExitRule
  | stopLoss
  | trailingStop
  | takeProfit
  | timeOverride
  | manual

/-- The reason of the live monitor that a rule mirrors. -/
def PaperExitRule.reason : PaperExitRule → TradeReason
  | .stopLoss => .stopLoss
  | .trailingStop => .trailingStop
  | .takeProfit => .takeProfit
  | .timeOverride => .timeOverride
  | .manual => .manualExit

/-- Source: `paper_exits.rs` -/
def evaluatePaperExit (position : PaperPosition) (markPriceSol peakPriceSol : ℚ)
    (policy : ExitPolicy) (now : DateTime) :
    Except PolicyError (Option (PaperExitRule × Option ℚ)) :=
  if position.isOpen = false ∨ markPriceSol ≤ 0 then .ok none
  else
    let entryPrice := position.costBasisSol / position.tokenAmount
    let heldSeconds := numSeconds position.openedAt now
    match stopLossExit entryPrice markPriceSol heldSeconds (decide (0 < position.sells))
        policy.stopLoss with
    | some exitPercentage => .ok (some (.stopLoss, exitPercentage))
    | none =>
      match trailingStopTriggered entryPrice peakPriceSol markPriceSol policy.trailing with
      | .error detail => .error detail
      | .ok true => .ok (some (.trailingStop, none))
      | .ok false =>
        if roiTargetReached entryPrice markPriceSol policy.roi then
          .ok (some (.takeProfit, none))
        else
          match timeOverrideTriggered entryPrice markPriceSol heldSeconds policy.time with
          | .error detail => .error detail
          | .ok true => .ok (some (.timeOverride, none))
          | .ok false => .ok none

lemma evaluatePaperExit_eq {position : PaperPosition} (hopen : position.isOpen = true)
    {markPriceSol : ℚ} (hprice : 0 < markPriceSol) (peakPriceSol : ℚ) (policy : ExitPolicy)
    (now : DateTime) :
    (Found.Rules.decided (evaluatePaperExit position markPriceSol peakPriceSol policy now)).map
        (fun exit => (exit.1.reason, exit.2)) =
      Found.Rules.decided (firstStopping (exitRules
        (position.costBasisSol / position.tokenAmount) peakPriceSol
        markPriceSol (numSeconds position.openedAt now) (decide (0 < position.sells)) policy)) := by
  unfold evaluatePaperExit exitRules
  rw [if_neg (by simp [hopen, hprice])]
  dsimp only
  cases stopLossExit (position.costBasisSol / position.tokenAmount) markPriceSol
      (numSeconds position.openedAt now) (decide (0 < position.sells)) policy.stopLoss with
  | some exitPercentage => rfl
  | none =>
    cases trailingStopTriggered (position.costBasisSol / position.tokenAmount) peakPriceSol
        markPriceSol policy.trailing with
    | error detail => rfl
    | ok triggered =>
      cases triggered with
      | true => rfl
      | false =>
        cases roiTargetReached (position.costBasisSol / position.tokenAmount) markPriceSol
            policy.roi with
        | true => rfl
        | false =>
          cases timeOverrideTriggered (position.costBasisSol / position.tokenAmount)
              markPriceSol (numSeconds position.openedAt now) policy.time with
          | error detail => rfl
          | ok triggered => cases triggered <;> rfl

/-- The highest price a holding is known to have had. Source: `paper_exits.rs`, `sweep`, `peak` -/
def peakAt (position : PaperPosition) (mark : ℚ) : ℚ :=
  match position.peakPriceSol with
  | some peak => max peak mark
  | none => mark

/-- Source: `database/ledger.rs` -/
def raisePaperPeak (position : PaperPosition) (priceSol : ℚ) : PaperPosition :=
  if position.closedAt.isSome then position
  else { position with peakPriceSol := some (max (position.peakPriceSol.getD priceSol) priceSol) }

/-- One holding in a sweep, at the price of its pool: the raised peak, and what the rules decide; a
configuration they cannot run with is logged. Source: `paper_exits.rs`, `sweep` -/
def sweepPosition (position : PaperPosition) (mark : ℚ) (policy : ExitPolicy) (now : DateTime) :
    PaperPosition × Option (PaperExitRule × Option ℚ) :=
  if position.isOpen = false ∨ mark ≤ 0 then (position, none)
  else
    let peak := peakAt position mark
    (raisePaperPeak position peak, Found.Rules.decided
      (evaluatePaperExit position mark peak policy now))

/-! ## The position -/

/-- The price of the pool, corrected by how far the price paid was from it.
Source: `positions/price_resolution.rs` -/
def applyPoolBiasCorrection (poolPrice entryPoolPrice : ℚ) (effectiveEntryPrice : Option ℚ) : ℚ :=
  match effectiveEntryPrice with
  | none => poolPrice
  | some effective =>
    if effective ≤ 0 ∨ entryPoolPrice ≤ 0 then poolPrice
    else
      let biasFactor := effective / entryPoolPrice
      if biasFactor < 9 / 10 ∨ 5 / 4 < biasFactor then poolPrice
      else if |biasFactor - 1| < 1 / 100 then poolPrice
      else if 0 < poolPrice * biasFactor then poolPrice * biasFactor
      else poolPrice

/-- Source: `positions/price_updater.rs`, `update_position_price_and_pnl`, without the profit -/
def updatePositionPrice (position : Position) (currentPrice : ℚ) (now : DateTime) : Position :=
  let correctedPrice :=
    applyPoolBiasCorrection currentPrice position.entryPrice position.effectiveEntryPrice
  { position with
    currentPrice := some correctedPrice
    currentPriceUpdated := some now
    priceHighest :=
      if position.priceHighest < correctedPrice then correctedPrice else position.priceHighest
    priceLowest :=
      if correctedPrice < position.priceLowest ∨ position.priceLowest = 0 then correctedPrice
      else position.priceLowest }

/-- One position at a price: the updated record, and what the monitor decides.
Source: `exit.rs`, `resolve_evaluation_input` and `evaluate_policy_exit` -/
def monitorPosition (position : Position) (price : ℚ) (policy : ExitPolicy) (now : DateTime) :
    Position × Option TradeDecision :=
  if price ≤ 0 then (position, none)
  else
    let fresh := updatePositionPrice position price now
    (fresh, evaluatePolicyExit fresh
      (applyPoolBiasCorrection price position.entryPrice position.effectiveEntryPrice) now policy)

/-! ## The same trades -/

/-- A token that is copied. -/
structure CopyToken where
  mint : String
  symbol : String
  name : String
  decimals : ℕ

/-- A buy, as the paper book fills it and as the chain settles it: the same tokens for the same
SOL. -/
structure CopyTrade (token : CopyToken) where
  fill : PaperFill
  raw : ℕ
  signature : String
  feeLamports : ℕ
  boughtAt : DateTime
  raw_pos : 0 < raw
  input_pos : 0 < fill.inputSol
  price_pos : 0 < fill.marketPriceSol
  tokens : fill.tokenAmount = uiTokenAmount raw token.decimals
  cost : fill.totalCostSol = fill.inputSol + (fill.networkFeeSol + fill.priorityFeeSol)

/-- A buy, a sell of raw tokens, and a price that both see. -/
inductive PairEvent (token : CopyToken)
  | bought (trade : CopyTrade token)
  | sold (raw : ℕ) (netProceedsSol priceSol : ℚ) (soldAt : DateTime)
  | observed (price : ℚ) (policy : ExitPolicy) (now : DateTime)

/-- The paper holding of a token, and the open position that the same trades made. -/
structure CopyPair where
  paper : Option PaperPosition
  live : Option Position

namespace CopyPair

variable {token : CopyToken}

/-- Nothing was bought yet. -/
def empty : CopyPair := ⟨none, none⟩

/-- The row of a buy into nothing: opened, and its entry verified.
Source: `operations/open.rs`, `open_position_impl`, and `apply.rs`, `EntryVerified` -/
def openLive (trade : CopyTrade token) : Position :=
  (openedPosition none token.mint token.symbol token.name trade.signature
    trade.fill.marketPriceSol trade.fill.inputSol (.copy 0 "") .hybrid trade.boughtAt).entryVerified
      (trade.fill.inputSol / uiTokenAmount trade.raw token.decimals) trade.raw trade.feeLamports
      trade.fill.inputSol

/-- A sell of the position; one of all that is held ends it. -/
def sellLive (position : Position) (raw : ℕ) (netProceedsSol priceSol : ℚ) : Option Position :=
  if raw = 0 then some position
  else if position.remainingTokenAmount.getD 0 ≤ raw then none
  else some (position.partialExitVerified raw netProceedsSol priceSol)

/-- What an event does to the two records. -/
def step (pair : CopyPair) : PairEvent token → CopyPair
  | .bought trade =>
    { paper := some (applyPaperBuy pair.paper trade.fill trade.boughtAt)
      live := match pair.live with
        | none => some (openLive trade)
        | some position =>
          some (position.dcaVerified token.decimals trade.raw trade.fill.inputSol trade.boughtAt) }
  | .sold raw netProceedsSol priceSol soldAt =>
    { paper := if raw = 0 then pair.paper else pair.paper.map fun position =>
        applyPaperSell position (uiTokenAmount raw token.decimals) netProceedsSol priceSol soldAt
      live := pair.live.bind (sellLive · raw netProceedsSol priceSol) }
  | .observed price policy now =>
    { paper := pair.paper.map fun position => (sweepPosition position price policy now).1
      live := pair.live.map fun position => (monitorPosition position price policy now).1 }

/-- What the paper book decides at a price. -/
def paperDecision (pair : CopyPair) (price : ℚ) (policy : ExitPolicy) (now : DateTime) :
    Option (TradeReason × Option ℚ) :=
  pair.paper.bind fun position =>
    (sweepPosition position price policy now).2.map fun exit => (exit.1.reason, exit.2)

/-- What the live monitor decides at a price. -/
def liveDecision (pair : CopyPair) (price : ℚ) (policy : ExitPolicy) (now : DateTime) :
    Option (TradeReason × Option ℚ) :=
  pair.live.bind fun position =>
    (monitorPosition position price policy now).2.map fun decision =>
      (decision.reason, decision.exitPercentage)

/-- The two decide alike at a price. -/
def Agrees (pair : CopyPair) : PairEvent token → Prop
  | .observed price policy now =>
    pair.paperDecision price policy now = pair.liveDecision price policy now
  | _ => True

/-! ## Where they part -/

/-- What keeps the two alike: a buy pays no fee that only the book counts, and adds neither to a
position that sold before nor above its peak; a sell leaves nothing, or more than the residue at
which the book closes; the monitor does not correct the price, a partial stop loss does not meet a
holding with a sell of an earlier round, and no rule that fails hides one that decides. The counters
of the row have room. -/
def Careful (pair : CopyPair) : PairEvent token → Prop
  | .bought trade =>
    trade.fill.networkFeeSol + trade.fill.priorityFeeSol = 0 ∧
      ∀ position, pair.live = some position → position.partialExitCount = 0 ∧
        trade.fill.marketPriceSol ≤ position.priceHighest ∧
        position.remainingTokenAmount.getD 0 + trade.raw < 2 ^ 64
  | .sold raw _ _ _ =>
    ∀ position, pair.live = some position → raw < position.remainingTokenAmount.getD 0 →
      (position.remainingTokenAmount.getD 0 : ℚ) * closeResidueFraction <
        position.remainingTokenAmount.getD 0 - raw ∧ position.partialExitCount + 1 < 2 ^ 32
  | .observed price policy now =>
    0 < price → ∀ position, pair.live = some position → ∀ holding, pair.paper = some holding →
      applyPoolBiasCorrection price position.entryPrice position.effectiveEntryPrice = price ∧
      (0 < holding.sells → position.partialExitCount = 0 → policy.stopLoss.allowPartial = true →
        stopLossExit position.averageEntryPrice price (numSeconds position.entryTime now) false
          policy.stopLoss = none) ∧
      Unhidden (exitRules position.averageEntryPrice (max position.priceHighest price) price
        (numSeconds position.entryTime now) (decide (0 < position.partialExitCount)) policy)

/-- What a holding and its position have in common. -/
structure Matched (decimals : ℕ) (holding : PaperPosition) (position : Position) (held : ℕ) :
    Prop where
  opens : holding.closedAt = none
  remaining : position.remainingTokenAmount = some held
  held_pos : 0 < held
  tokens : holding.tokenAmount = uiTokenAmount held decimals
  basis : holding.costBasisSol = position.averageEntryPrice * holding.tokenAmount
  basis_pos : 0 < holding.costBasisSol
  size : position.partialExitCount = 0 → holding.costBasisSol = position.totalSizeSol
  peak : holding.peakPriceSol = some position.priceHighest
  since : holding.openedAt = position.entryTime
  sold : 0 < position.partialExitCount → 0 < holding.sells

/-- The two records of a token: nothing yet, a closed holding, or a holding and its position. -/
inductive Aligned (decimals : ℕ) : CopyPair → Prop
  | fresh : Aligned decimals ⟨none, none⟩
  | closed {holding : PaperPosition} (hclosed : holding.closedAt.isSome)
      (htokens : holding.tokenAmount = 0) (hcost : holding.costBasisSol = 0) :
      Aligned decimals ⟨some holding, none⟩
  | held {holding : PaperPosition} {position : Position} {held : ℕ}
      (h : Matched decimals holding position held) : Aligned decimals ⟨some holding, some position⟩

lemma uiTokenAmount_pos {raw : ℕ} (h : 0 < raw) (decimals : ℕ) : 0 < uiTokenAmount raw decimals := by
  unfold uiTokenAmount
  exact div_pos (Nat.cast_pos.mpr h) (by positivity)

section matched

variable {holding : PaperPosition} {position : Position} {held : ℕ} {decimals : ℕ}

section

variable (h : Matched decimals holding position held)
include h

lemma Matched.tokens_pos : 0 < holding.tokenAmount := by
  rw [h.tokens]
  exact uiTokenAmount_pos h.held_pos decimals

lemma Matched.isOpen : holding.isOpen = true := by
  simp [PaperPosition.isOpen, h.opens, h.tokens_pos]

lemma Matched.entryPrice :
    holding.costBasisSol / holding.tokenAmount = position.averageEntryPrice := by
  rw [h.basis]
  exact mul_div_cancel_right₀ _ h.tokens_pos.ne'

end

lemma matched_open (trade : CopyTrade token)
    (hfees : trade.fill.networkFeeSol + trade.fill.priorityFeeSol = 0) {opened : PaperPosition}
    (hopened : opened.closedAt = none) (htokens : opened.tokenAmount = trade.fill.tokenAmount)
    (hcost : opened.costBasisSol = trade.fill.totalCostSol)
    (hpeak : opened.peakPriceSol = some trade.fill.marketPriceSol)
    (hsince : opened.openedAt = trade.boughtAt) :
    Matched token.decimals opened (openLive trade) trade.raw where
  opens := hopened
  remaining := rfl
  held_pos := trade.raw_pos
  tokens := htokens.trans trade.tokens
  basis := by
    have hui := uiTokenAmount_pos trade.raw_pos token.decimals
    rw [hcost, htokens, trade.cost, hfees, add_zero, trade.tokens]
    exact (div_mul_cancel₀ _ hui.ne').symm
  basis_pos := by
    rw [hcost, trade.cost, hfees, add_zero]
    exact trade.input_pos
  size := fun _ => by
    rw [hcost, trade.cost, hfees, add_zero]
    rfl
  peak := hpeak
  since := hsince
  sold := fun h => absurd h (lt_irrefl 0)

lemma Matched.add (h : Matched token.decimals holding position held) (trade : CopyTrade token)
    (hfees : trade.fill.networkFeeSol + trade.fill.priorityFeeSol = 0)
    (hunsold : position.partialExitCount = 0)
    (hpeak : trade.fill.marketPriceSol ≤ position.priceHighest) (hroom : held + trade.raw < 2 ^ 64) :
    Matched token.decimals (applyPaperBuy (some holding) trade.fill trade.boughtAt)
      (position.dcaVerified token.decimals trade.raw trade.fill.inputSol trade.boughtAt)
      (held + trade.raw) := by
  have hsum : wrappingAdd64 held trade.raw = held + trade.raw := Nat.mod_eq_of_lt hroom
  have htokens : holding.tokenAmount + trade.fill.tokenAmount =
      uiTokenAmount (held + trade.raw) token.decimals := by
    rw [h.tokens, trade.tokens, uiTokenAmount, uiTokenAmount, uiTokenAmount]
    push_cast
    ring
  have hcost : holding.costBasisSol + trade.fill.totalCostSol =
      position.totalSizeSol + trade.fill.inputSol := by
    rw [h.size hunsold, trade.cost, hfees, add_zero]
  have hpositive : 0 < position.totalSizeSol + trade.fill.inputSol := by
    rw [← h.size hunsold]
    exact add_pos h.basis_pos trade.input_pos
  have hmore : 0 < held + trade.raw := Nat.add_pos_left h.held_pos _
  have haverage : (position.dcaVerified token.decimals trade.raw trade.fill.inputSol
      trade.boughtAt).averageEntryPrice = (position.totalSizeSol + trade.fill.inputSol) /
        uiTokenAmount (held + trade.raw) token.decimals := by
    simp only [Position.dcaVerified, h.remaining, hsum]
    rw [if_pos ⟨hmore, hpositive⟩]
  refine ⟨rfl, ?_, hmore, htokens, ?_, ?_, fun _ => hcost, ?_, ?_, ?_⟩
  · simp [Position.dcaVerified, h.remaining, hsum]
  · show holding.costBasisSol + trade.fill.totalCostSol =
      _ * (holding.tokenAmount + trade.fill.tokenAmount)
    rw [haverage, htokens, hcost]
    exact (div_mul_cancel₀ _ (uiTokenAmount_pos hmore _).ne').symm
  · show 0 < holding.costBasisSol + trade.fill.totalCostSol
    rwa [hcost]
  · simp only [applyPaperBuy, h.opens, h.peak, Option.isNone_none, if_true, Option.getD_some]
    exact congrArg some (max_eq_left hpeak)
  · show (if holding.closedAt.isNone then holding.openedAt else trade.boughtAt) = position.entryTime
    rw [h.opens]
    exact h.since
  · exact h.sold

lemma applyPaperSell_of_part (hopen : holding.closedAt = none) {tokenAmount : ℚ}
    (hless : tokenAmount ≤ holding.tokenAmount) (hpos : 0 < holding.tokenAmount)
    (hkeeps : holding.tokenAmount * closeResidueFraction < holding.tokenAmount - tokenAmount)
    (netProceedsSol priceSol : ℚ) (soldAt : DateTime) :
    applyPaperSell holding tokenAmount netProceedsSol priceSol soldAt =
      { holding with
        tokenAmount := holding.tokenAmount - tokenAmount
        costBasisSol :=
          holding.costBasisSol - holding.costBasisSol * tokenAmount / holding.tokenAmount
        realizedProceedsSol := holding.realizedProceedsSol + netProceedsSol
        realizedCostSol :=
          holding.realizedCostSol + holding.costBasisSol * tokenAmount / holding.tokenAmount
        sells := holding.sells + 1
        lastPriceSol := some priceSol
        lastPriceAt := some soldAt
        closedAt := none } := by
  unfold applyPaperSell
  rw [if_neg (by simp [hopen, hpos])]
  simp only [min_eq_left hless, not_le.mpr hkeeps, decide_false, Bool.false_eq_true, if_false]

variable {raw : ℕ}

lemma Matched.sellPart (h : Matched token.decimals holding position held) (hless : raw < held)
    (hresidue : (held : ℚ) * closeResidueFraction < held - raw)
    (hcount : position.partialExitCount + 1 < 2 ^ 32) (netProceedsSol priceSol : ℚ)
    (soldAt : DateTime) :
    Matched token.decimals
      (applyPaperSell holding (uiTokenAmount raw token.decimals) netProceedsSol priceSol soldAt)
      (position.partialExitVerified raw netProceedsSol priceSol) (held - raw) := by
  have hscale : (0 : ℚ) < 10 ^ token.decimals := by positivity
  have hsold : uiTokenAmount raw token.decimals ≤ holding.tokenAmount := by
    rw [h.tokens, uiTokenAmount, uiTokenAmount]
    exact div_le_div_of_nonneg_right (Nat.cast_le.mpr hless.le) hscale.le
  have hleft : holding.tokenAmount - uiTokenAmount raw token.decimals =
      uiTokenAmount (held - raw) token.decimals := by
    rw [h.tokens, uiTokenAmount, uiTokenAmount, uiTokenAmount, Nat.cast_sub hless.le]
    ring
  have hkeeps : holding.tokenAmount * closeResidueFraction <
      holding.tokenAmount - uiTokenAmount raw token.decimals := by
    rw [h.tokens, uiTokenAmount, uiTokenAmount, ← sub_div, div_mul_eq_mul_div]
    exact div_lt_div_of_pos_right hresidue hscale
  have hpos : 0 < held - raw := Nat.sub_pos_of_lt hless
  have hcounted : 0 < wrappingSucc32 position.partialExitCount := by
    rw [wrappingSucc32, Nat.mod_eq_of_lt hcount]
    exact Nat.succ_pos _
  have hcost : holding.costBasisSol -
      holding.costBasisSol * uiTokenAmount raw token.decimals / holding.tokenAmount =
        position.averageEntryPrice * (holding.tokenAmount - uiTokenAmount raw token.decimals) := by
    have htokens := h.tokens_pos.ne'
    rw [h.basis]
    field_simp
  rw [applyPaperSell_of_part h.opens hsold h.tokens_pos hkeeps]
  refine ⟨rfl, ?_, hpos, hleft, hcost, ?_, fun hnone => absurd hnone hcounted.ne', h.peak, h.since,
    fun _ => Nat.succ_pos _⟩
  · simp [Position.partialExitVerified, h.remaining]
  · show 0 < holding.costBasisSol -
      holding.costBasisSol * uiTokenAmount raw token.decimals / holding.tokenAmount
    have haverage : 0 < position.averageEntryPrice := by
      rw [← h.entryPrice]
      exact div_pos h.basis_pos h.tokens_pos
    rw [hcost, hleft]
    exact mul_pos haverage (uiTokenAmount_pos hpos _)

lemma Matched.sellAll (h : Matched decimals holding position held) (hall : held ≤ raw)
    (netProceedsSol priceSol : ℚ) (soldAt : DateTime) :
    Aligned decimals
      ⟨some (applyPaperSell holding (uiTokenAmount raw decimals) netProceedsSol priceSol soldAt),
        none⟩ := by
  have hmore : holding.tokenAmount ≤ uiTokenAmount raw decimals := by
    rw [h.tokens, uiTokenAmount, uiTokenAmount]
    exact div_le_div_of_nonneg_right (Nat.cast_le.mpr hall) (by positivity)
  have hcloses : holding.tokenAmount - holding.tokenAmount ≤
      holding.tokenAmount * closeResidueFraction := by
    rw [sub_self, closeResidueFraction]
    exact mul_nonneg h.tokens_pos.le (by norm_num)
  refine .closed ?_ ?_ ?_ <;>
  · unfold applyPaperSell
    rw [if_neg (by simp [h.opens, h.tokens_pos])]
    simp only [min_eq_right hmore, hcloses, decide_true, if_true, Option.isSome_some]

variable {price : ℚ}

lemma Matched.observe (h : Matched decimals holding position held) (hprice : 0 < price)
    (hbias : applyPoolBiasCorrection price position.entryPrice position.effectiveEntryPrice = price)
    (policy : ExitPolicy) (now : DateTime) :
    Matched decimals (sweepPosition holding price policy now).1
      (monitorPosition position price policy now).1 held := by
  have hpeak : peakAt holding price = max position.priceHighest price := by
    rw [peakAt, h.peak]
  have hswept : (sweepPosition holding price policy now).1 =
      { holding with peakPriceSol := some (max position.priceHighest price) } := by
    rw [sweepPosition, if_neg (by simp [h.isOpen, hprice])]
    simp only [raisePaperPeak, h.opens, hpeak, h.peak, Option.isSome_none, Option.getD_some]
    simp
  have hmonitored : (monitorPosition position price policy now).1 =
      updatePositionPrice position price now := by
    rw [monitorPosition, if_neg (not_le.mpr hprice)]
  have hhighest : (updatePositionPrice position price now).priceHighest =
      max position.priceHighest price := by
    simp only [updatePositionPrice, hbias]
    split
    case isTrue hlt => exact (max_eq_right hlt.le).symm
    case isFalse hle => exact (max_eq_left (not_lt.mp hle)).symm
  rw [hswept, hmonitored]
  exact ⟨h.opens, h.remaining, h.held_pos, h.tokens, h.basis, h.basis_pos, h.size,
    congrArg some hhighest.symm, h.since, h.sold⟩

variable {now : DateTime}

lemma Matched.stopLoss (h : Matched decimals holding position held) {policy : StopLossPolicy}
    (hround : 0 < holding.sells → position.partialExitCount = 0 → policy.allowPartial = true →
      stopLossExit position.averageEntryPrice price
      (numSeconds position.entryTime now) false policy = none) :
    stopLossExit position.averageEntryPrice price (numSeconds position.entryTime now)
        (decide (0 < holding.sells)) policy =
      stopLossExit position.averageEntryPrice price (numSeconds position.entryTime now)
        (decide (0 < position.partialExitCount)) policy := by
  by_cases hcounted : 0 < position.partialExitCount
  · rw [decide_eq_true hcounted, decide_eq_true (h.sold hcounted)]
  · have hzero : position.partialExitCount = 0 := Nat.eq_zero_of_not_pos hcounted
    rw [decide_eq_false hcounted]
    by_cases hsells : 0 < holding.sells
    · rw [decide_eq_true hsells]
      by_cases hallowed : policy.allowPartial = true
      · -- the stop loss would be a partial one, so it must not fire
        have hnone := hround hsells hzero hallowed
        rw [hnone]
        unfold stopLossExit at hnone ⊢
        split_ifs at hnone ⊢ <;> rfl
      · unfold stopLossExit
        simp [hallowed]
    · rw [decide_eq_false hsells]

lemma Matched.agrees (h : Matched decimals holding position held) {policy : ExitPolicy}
    (hcareful : Careful ⟨some holding, some position⟩
      (PairEvent.observed price policy now : PairEvent token)) :
    Agrees ⟨some holding, some position⟩ (PairEvent.observed price policy now : PairEvent token) := by
  show (sweepPosition holding price policy now).2.map (fun exit => (exit.1.reason, exit.2)) =
    (monitorPosition position price policy now).2.map fun decision =>
      (decision.reason, decision.exitPercentage)
  by_cases hprice : 0 < price
  · obtain ⟨hbias, hround, hunhidden⟩ := hcareful hprice position rfl holding rfl
    have hpeak : peakAt holding price = max position.priceHighest price := by
      rw [peakAt, h.peak]
    have hhighest : (updatePositionPrice position price now).priceHighest =
        max position.priceHighest price := by
      have hmatched := (h.observe hprice hbias policy now).peak
      rw [sweepPosition, if_neg (by simp [h.isOpen, hprice]), monitorPosition,
        if_neg (not_le.mpr hprice)] at hmatched
      simpa [raisePaperPeak, h.opens, hpeak, h.peak] using hmatched.symm
    rw [sweepPosition, if_neg (by simp [h.isOpen, hprice]), monitorPosition,
      if_neg (not_le.mpr hprice)]
    dsimp only
    rw [evaluatePaperExit_eq h.isOpen hprice, hbias, evaluatePolicyExit_eq _ _ _ hprice, hhighest,
      hpeak, h.entryPrice, h.since]
    rw [exitRules, h.stopLoss hround]
    exact (firstStopping_iff _).mpr hunhidden
  · have hnone : price ≤ 0 := not_lt.mp hprice
    rw [sweepPosition, if_pos (Or.inr hnone), monitorPosition, if_pos hnone]
    rfl

end matched

/-! ## The run -/

variable {pair : CopyPair}

lemma Aligned.step (h : Aligned token.decimals pair) {event : PairEvent token}
    (hcareful : pair.Careful event) : Aligned token.decimals (pair.step event) := by
  cases event with
  | bought trade =>
    obtain ⟨hfees, hadd⟩ := hcareful
    cases h with
    | fresh => exact .held (matched_open trade hfees rfl rfl rfl rfl rfl)
    | @closed holding hclosed htokens hcost =>
      have hreopened : holding.closedAt.isNone = false := by
        rw [← Option.not_isSome, hclosed]
        rfl
      refine .held (matched_open trade hfees rfl ?_ ?_ ?_ ?_)
      · simp [applyPaperBuy, htokens]
      · simp [applyPaperBuy, hcost]
      · simp [applyPaperBuy, hreopened]
      · simp [applyPaperBuy, hreopened]
    | @held holding position held hmatched =>
      obtain ⟨hunsold, hpeak, hroom⟩ := hadd position rfl
      rw [hmatched.remaining] at hroom
      exact .held (hmatched.add trade hfees hunsold hpeak hroom)
  | sold raw netProceedsSol priceSol soldAt =>
    by_cases hraw : raw = 0
    · have hsame : pair.step (PairEvent.sold raw netProceedsSol priceSol soldAt : PairEvent token) =
          pair := by
        obtain ⟨paper, live⟩ := pair
        cases live <;> simp [CopyPair.step, sellLive, hraw]
      rwa [hsame]
    cases h with
    | fresh => simpa [CopyPair.step, hraw] using Aligned.fresh
    | @closed holding hclosed htokens hcost =>
      have hsame : applyPaperSell holding (uiTokenAmount raw token.decimals) netProceedsSol
          priceSol soldAt = holding := by
        rw [applyPaperSell, if_pos (Or.inl hclosed)]
      simpa [CopyPair.step, hraw, hsame] using Aligned.closed hclosed htokens hcost
    | @held holding position held hmatched =>
      by_cases hless : raw < held
      · obtain ⟨hresidue, hcount⟩ := hcareful position rfl (by rw [hmatched.remaining]; exact hless)
        rw [hmatched.remaining] at hresidue
        simpa [CopyPair.step, sellLive, hraw, hmatched.remaining, not_le.mpr hless] using
          Aligned.held (hmatched.sellPart hless hresidue hcount netProceedsSol priceSol soldAt)
      · simpa [CopyPair.step, sellLive, hraw, hmatched.remaining, not_lt.mp hless] using
          hmatched.sellAll (not_lt.mp hless) netProceedsSol priceSol soldAt
  | observed price policy now =>
    cases h with
    | fresh => exact .fresh
    | @closed holding hclosed htokens hcost =>
      have hshut : holding.isOpen = false := by
        simp [PaperPosition.isOpen, htokens]
      simpa [CopyPair.step, sweepPosition, hshut] using Aligned.closed hclosed htokens hcost
    | @held holding position held hmatched =>
      by_cases hprice : 0 < price
      · obtain ⟨hbias, -, -⟩ := hcareful hprice position rfl holding rfl
        exact .held (hmatched.observe hprice hbias policy now)
      · simpa [CopyPair.step, sweepPosition, monitorPosition, not_lt.mp hprice] using
          Aligned.held hmatched

lemma Aligned.agrees (h : Aligned token.decimals pair) {event : PairEvent token}
    (hcareful : pair.Careful event) : pair.Agrees event := by
  cases event with
  | bought trade => trivial
  | sold raw netProceedsSol priceSol soldAt => trivial
  | observed price policy now =>
    cases h with
    | fresh => rfl
    | closed hclosed htokens hcost =>
      show ((sweepPosition _ price policy now).2.map _) = none
      rw [sweepPosition, if_pos (Or.inl (by simp [PaperPosition.isOpen, htokens]))]
      rfl
    | held hmatched => exact hmatched.agrees hcareful

end CopyPair

/-! ## One round, and a second one -/

/-- A token of no decimals. -/
def wholeToken : CopyToken := ⟨"MINT", "M", "Mint", 0⟩

/-- A hundred tokens for one SOL. -/
def hundredBought (boughtAt : DateTime) : CopyTrade wholeToken where
  fill := ⟨1, 1 / 100, true, 1 / 100, 100, 0, 0, 0, 1⟩
  raw := 100
  signature := "buy"
  feeLamports := 5000
  boughtAt := boughtAt
  raw_pos := by decide
  input_pos := by norm_num
  price_pos := by norm_num
  tokens := by norm_num [uiTokenAmount, wholeToken]
  cost := by norm_num

/-- A stop loss of thirty percent that sells a half first. -/
def halfStop : ExitPolicy :=
  ⟨⟨true, 30, 0, true, 50⟩, ⟨false, 20, 10⟩, ⟨false, 100⟩, ⟨false, -10, 3600⟩⟩

/-- A round in which the price falls under the stop. -/
def fallenRun : List (PairEvent wholeToken) :=
  [.bought (hundredBought 0), .observed (1 / 200) halfStop 1]

/-- The holding is sold and bought again before the price falls. -/
def secondRound : List (PairEvent wholeToken) :=
  [.bought (hundredBought 0), .sold 100 1 (1 / 100) 1, .bought (hundredBought 2)]

end Dripline.Trader.Copy

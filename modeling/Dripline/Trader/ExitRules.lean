import Dripline.Found.Rules
import Dripline.Positions.Position
import Dripline.Trader.Types
import Mathlib.Tactic.Linarith

/-!
# Exit rules

The rules of `trader/evaluators/`, on the plain numbers that the live monitor and the paper book
share, and the chain of the live monitor.
-/

namespace Dripline.Trader

open Dripline.Found.Rules Dripline.Positions

/-! ## The policy -/

/-- Source: `policy.rs` -/
structure StopLossPolicy where
  enabled : Bool
  thresholdPct : ℚ
  minHoldSeconds : ℕ
  allowPartial : Bool
  partialExitDefaultPct : ℚ

/-- Source: `policy.rs` -/
structure TrailingPolicy where
  enabled : Bool
  activationPct : ℚ
  distancePct : ℚ

/-- Source: `policy.rs` -/
structure RoiPolicy where
  enabled : Bool
  targetProfitPct : ℚ

/-- Source: `policy.rs` -/
structure TimePolicy where
  enabled : Bool
  lossThresholdPct : ℚ
  durationSeconds : ℚ

/-- Source: `policy.rs`, `ExitPolicy`, without the settings of DCA -/
structure ExitPolicy where
  stopLoss : StopLossPolicy
  trailing : TrailingPolicy
  roi : RoiPolicy
  time : TimePolicy

/-- The detail of a configuration that a rule cannot run with. -/
inductive PolicyError
  | trailingConfig (distancePct activationPct : ℚ)
  | timeDuration (durationSeconds : ℚ)
  | timeThreshold (lossThresholdPct : ℚ)

/-! ## The rules -/

/-- `as i64` of a `u64`. -/
def asI64 (n : ℕ) : ℤ := if n % 2 ^ 64 < 2 ^ 63 then (n % 2 ^ 64 : ℕ) else (n % 2 ^ 64 : ℕ) - 2 ^ 64

/-- Whole seconds between two moments. Source: `chrono`, `TimeDelta::num_seconds` -/
def numSeconds (start now : DateTime) : ℤ := (now - start).tdiv (10 ^ 9)

/-- The stop loss; the inner value is the percentage, and all of it where there is none.
Source: `exit_stop_loss.rs` -/
def stopLossExit (entryPrice currentPrice : ℚ) (heldSeconds : ℤ) (alreadyPartiallyExited : Bool)
    (policy : StopLossPolicy) : Option (Option ℚ) :=
  if policy.enabled = false ∨ entryPrice ≤ 0 then none
  else if 0 < policy.minHoldSeconds ∧ heldSeconds < asI64 policy.minHoldSeconds then none
  else if (entryPrice - currentPrice) / entryPrice * 100 < policy.thresholdPct then none
  else some (if policy.allowPartial && !alreadyPartiallyExited then
    some policy.partialExitDefaultPct else none)

/-- Source: `exit_trailing.rs` -/
def trailingStopTriggered (entryPrice peakPrice currentPrice : ℚ) (policy : TrailingPolicy) :
    Except PolicyError Bool :=
  if peakPrice ≤ 0 ∨ policy.enabled = false then .ok false
  else if policy.activationPct ≤ policy.distancePct then
    .error (.trailingConfig policy.distancePct policy.activationPct)
  else if entryPrice ≤ 0 then .ok false
  else if (peakPrice / entryPrice - 1) * 100 < policy.activationPct then .ok false
  else
    .ok (decide (currentPrice ≤ peakPrice * (1 - policy.distancePct / 100) ∧
      0 < (currentPrice / entryPrice - 1) * 100))

/-- Source: `exit_roi.rs` -/
def roiTargetReached (entryPrice currentPrice : ℚ) (policy : RoiPolicy) : Bool :=
  policy.enabled && decide (0 < entryPrice) &&
    decide (policy.targetProfitPct ≤ (currentPrice / entryPrice - 1) * 100)

/-- Source: `exit_time.rs` -/
def timeOverrideTriggered (entryPrice currentPrice heldSeconds : ℚ) (policy : TimePolicy) :
    Except PolicyError Bool :=
  if policy.enabled = false then .ok false
  else if policy.durationSeconds ≤ 0 then .error (.timeDuration policy.durationSeconds)
  else if 0 < policy.lossThresholdPct then .error (.timeThreshold policy.lossThresholdPct)
  else if heldSeconds < policy.durationSeconds ∨ entryPrice ≤ 0 then .ok false
  else .ok (decide ((currentPrice - entryPrice) / entryPrice * 100 ≤ policy.lossThresholdPct))

/-- What the rules say, in the order of the monitor: the reason of an exit and its percentage. -/
def exitRules (entryPrice peakPrice currentPrice : ℚ) (heldSeconds : ℤ)
    (alreadyPartiallyExited : Bool) (policy : ExitPolicy) :
    List (Except PolicyError (Option (TradeReason × Option ℚ))) :=
  [.ok ((stopLossExit entryPrice currentPrice heldSeconds alreadyPartiallyExited
      policy.stopLoss).map fun exitPercentage => (.stopLoss, exitPercentage)),
    (trailingStopTriggered entryPrice peakPrice currentPrice policy.trailing).map fun triggered =>
      if triggered then some (.trailingStop, none) else none,
    .ok (if roiTargetReached entryPrice currentPrice policy.roi then some (.takeProfit, none)
      else none),
    (timeOverrideTriggered entryPrice currentPrice heldSeconds policy.time).map fun triggered =>
      if triggered then some (.timeOverride, none) else none]

/-! ## The live monitor -/

/-- Source: `trader/types.rs` -/
inductive TradePriority
  | emergency
  | high
  | normal
  | low

/-- A sell that the monitor decides on. Source: `trader/types.rs` -/
structure TradeDecision where
  positionId : Option ℤ
  mint : String
  reason : TradeReason
  timestamp : DateTime
  priority : TradePriority
  priceSol : Option ℚ
  exitPercentage : Option ℚ

/-- Source: `positions/error.rs`, `InvalidPrice`, and `trader/error.rs`, `StrategyEvaluation` -/
inductive ExitRuleError
  | invalidPrice (mint : String) (price : ℚ)
  | strategyEvaluation (mint : String) (detail : PolicyError)

section monitor

variable (position : Position) (currentPrice : ℚ) (now : DateTime)

/-- The decision to sell the position for a reason. -/
def exitDecision (reason : TradeReason) (priority : TradePriority) (exitPercentage : Option ℚ) :
    TradeDecision :=
  { positionId := position.id
    mint := position.mint
    reason
    timestamp := now
    priority
    priceSol := some currentPrice
    exitPercentage }

/-- Source: `exit_stop_loss.rs` -/
def checkStopLoss (policy : StopLossPolicy) : Except ExitRuleError (Option TradeDecision) :=
  if currentPrice ≤ 0 then .error (.invalidPrice position.mint currentPrice)
  else if policy.enabled = false then .ok none
  else if position.averageEntryPrice ≤ 0 then
    .error (.invalidPrice position.mint position.averageEntryPrice)
  else
    .ok ((stopLossExit position.averageEntryPrice currentPrice (numSeconds position.entryTime now)
      (decide (0 < position.partialExitCount)) policy).map
        (exitDecision position currentPrice now .stopLoss .high))

/-- Source: `exit_trailing.rs` -/
def checkTrailingStop (policy : TrailingPolicy) : Except ExitRuleError (Option TradeDecision) :=
  if currentPrice ≤ 0 then .error (.invalidPrice position.mint currentPrice)
  else
    match trailingStopTriggered position.averageEntryPrice position.priceHighest currentPrice
        policy with
    | .error detail => .error (.strategyEvaluation position.mint detail)
    | .ok triggered =>
      .ok (if triggered then some (exitDecision position currentPrice now .trailingStop .high none)
        else none)

/-- Source: `exit_roi.rs` -/
def checkRoiExit (policy : RoiPolicy) : Except ExitRuleError (Option TradeDecision) :=
  if currentPrice ≤ 0 then .error (.invalidPrice position.mint currentPrice)
  else if roiTargetReached position.averageEntryPrice currentPrice policy then
    .ok (some (exitDecision position currentPrice now .takeProfit .normal none))
  else .ok none

/-- Source: `exit_time.rs` -/
def checkTimeOverride (policy : TimePolicy) : Except ExitRuleError (Option TradeDecision) :=
  if currentPrice ≤ 0 then .error (.invalidPrice position.mint currentPrice)
  else
    match timeOverrideTriggered position.averageEntryPrice currentPrice
        (numSeconds position.entryTime now) policy with
    | .error detail => .error (.strategyEvaluation position.mint detail)
    | .ok triggered =>
      .ok (if triggered then some (exitDecision position currentPrice now .timeOverride .high none)
        else none)

/-- The stop loss, the trailing stop, the target and the time override, with the analysis of a model
and the strategies off; what fails is logged. Source: `exit.rs` -/
def evaluatePolicyExit (policy : ExitPolicy) : Option TradeDecision :=
  firstSkipping
    [checkStopLoss position currentPrice now policy.stopLoss,
      checkTrailingStop position currentPrice now policy.trailing,
      checkRoiExit position currentPrice now policy.roi,
      checkTimeOverride position currentPrice now policy.time]

lemma evaluatePolicyExit_eq (hprice : 0 < currentPrice) (policy : ExitPolicy) :
    (evaluatePolicyExit position currentPrice now policy).map
        (fun decision => (decision.reason, decision.exitPercentage)) =
      firstSkipping (exitRules position.averageEntryPrice position.priceHighest currentPrice
        (numSeconds position.entryTime now) (decide (0 < position.partialExitCount)) policy) := by
  have hpositive : ¬ currentPrice ≤ 0 := not_le.mpr hprice
  refine map_firstSkipping _ (.cons ?_ (.cons ?_ (.cons ?_ (.cons ?_ .nil))))
  · rw [checkStopLoss, if_neg hpositive]
    split
    case isTrue hoff => simp [Found.Rules.decided, stopLossExit, hoff]
    case isFalse hon =>
      split
      case isTrue hentry => simp [Found.Rules.decided, stopLossExit, hentry]
      case isFalse hentry =>
        simp only [Found.Rules.decided, Option.map_map]
        rfl
  · rw [checkTrailingStop, if_neg hpositive]
    cases trailingStopTriggered position.averageEntryPrice position.priceHighest currentPrice
        policy.trailing with
    | error detail => rfl
    | ok triggered => cases triggered <;> rfl
  · rw [checkRoiExit, if_neg hpositive]
    split
    case isTrue => simp [Found.Rules.decided, exitDecision]
    case isFalse => simp [Found.Rules.decided]
  · rw [checkTimeOverride, if_neg hpositive]
    cases timeOverrideTriggered position.averageEntryPrice currentPrice
        (numSeconds position.entryTime now) policy.time with
    | error detail => rfl
    | ok triggered => cases triggered <;> rfl

end monitor

end Dripline.Trader

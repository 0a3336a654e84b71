import Mathlib.Tactic.Linarith
import Mathlib.Tactic.Ring

/-!
# Copy tasks, their gates and sizes

`trader/copy/types.rs`, `risk.rs` and `sizing.rs`. Amounts are exact; a check that a float is finite
holds of them.

* `CopyTask` — what a task copies, and how much it may spend.
* `precheck` — the gates before a buy.
* `sizeFor` — the size of a buy; `SizedWithin`, `sizedWithin_of_sizeFor` — it is within every cap.

A source without a file is in `types.rs`, where a definition without a comment is the one
of its name.
-/

namespace Dripline.Trader.Copy

/-! ## Data -/

inductive CopyMode
  | paper
  | live
  deriving DecidableEq

inductive SizingMode
  | fixed (sol : ℚ)
  | ratioOfTarget (pct : ℚ)
  | percentOfTargetPortfolio (pct : ℚ)

inductive ExitMode
  | buyOnly
  | mirror
  | hybrid
  deriving DecidableEq

structure CopyTask where
  id : ℤ
  targetAddress : String
  enabled : Bool
  mode : CopyMode
  sizing : SizingMode
  exitMode : ExitMode
  maxSolPerTrade : ℚ
  maxSolPerToken : ℚ
  totalBudgetSol : ℚ
  minTargetTradeSol : Option ℚ
  maxTargetTradeSol : Option ℚ
  buyOncePerToken : Bool
  slippagePct : ℚ

/-- Source: `trader/admission.rs` -/
inductive EntryBlock
  | forceStopped
  | lossLimit
  | connectivity (detail : String)
  | positionLimit
  | alreadyOpen
  | reentryCooldown
  | openCooldown (waitSecs : ℕ)
  | entryReserved
  | blacklisted
  | checkFailed (detail : String)

/-- Why a task did not copy. -/
inductive CopySkip
  | notBuySwap
  | notSellSwap
  | exitModeDisabled
  | forceStopped
  | latencyKillSwitch (averageMs thresholdMs : ℕ)
  | claimReconciledAbandoned
  | copyPositionNotFound
  | positionUserOnly
  | positionManagementMismatch
  | taskDisabled
  | modeTransitionRequired
  | unsupportedSizingMode
  | selfCopy
  | targetBelowMinimum (minimumSol : ℚ)
  | targetAboveMaximum (maximumSol : ℚ)
  | alreadyBought
  | blacklisted
  | filterRequired
  | entryBlocked (block : EntryBlock)
  | budgetExhausted
  | tokenCapReached
  | belowMinimumSize (minimumSol : ℚ)
  | invalidSizing
  | invalidSlippage (maximumPct : ℚ)
  | invalidPrice
  | staleObservation (arrivalMs thresholdMs : ℕ)

/-- What a task has spent. -/
structure SpendState where
  totalSpentSol : ℚ
  tokenSpentSol : ℚ
  tokenBuyCount : ℕ

structure RiskContext where
  isSelfWallet : Bool
  mintBlacklisted : Bool
  filterPassed : Bool

structure PipelinePolicy where
  requireFilterPass : Bool
  engineTradeSizeSol : ℚ

/-! ## Gates -/

def minCopySlippagePct : ℚ := 1 / 10

/-- Source: `trader/constants.rs` -/
def maxManualSlippagePct : ℚ := 50

/-- The gates of a task that run before sizing. Source: `risk.rs` -/
def precheck (task : CopyTask) (targetSizeSol : ℚ) (spend : SpendState) (context : RiskContext)
    (policy : PipelinePolicy) : Except CopySkip Unit :=
  if !task.enabled then .error .taskDisabled
  else if context.isSelfWallet then .error .selfCopy
  else if targetSizeSol ≤ 0 then .error .invalidSizing
  else if task.minTargetTradeSol.any (fun minimum => decide (targetSizeSol < minimum)) then
    .error (.targetBelowMinimum (task.minTargetTradeSol.getD 0))
  else if task.maxTargetTradeSol.any (fun maximum => decide (maximum < targetSizeSol)) then
    .error (.targetAboveMaximum (task.maxTargetTradeSol.getD 0))
  else if task.buyOncePerToken && decide (0 < spend.tokenBuyCount) then .error .alreadyBought
  else if context.mintBlacklisted then .error .blacklisted
  else if policy.requireFilterPass && !context.filterPassed then .error .filterRequired
  else if task.slippagePct < minCopySlippagePct ∨ maxManualSlippagePct < task.slippagePct then
    .error (.invalidSlippage maxManualSlippagePct)
  else .ok ()

/-! ## Sizes -/

/-- Source: `trader/constants.rs` -/
def minTradeSizeSol : ℚ := 1 / 1000

/-- Source: `trader/constants.rs` -/
def maxTradeSizeMultiplier : ℚ := 100

/-- The size that a task asks for. Source: `sizing.rs`, `size_for` -/
def requestedSize (sizing : SizingMode) (targetSizeSol : ℚ) : Except CopySkip ℚ :=
  match sizing with
  | .fixed sol => .ok sol
  | .ratioOfTarget pct =>
    if 0 < pct then .ok (targetSizeSol * pct / 100) else .error .invalidSizing
  | .percentOfTargetPortfolio _ => .error .unsupportedSizingMode

/-- The size of a buy: what the task asks for, under every cap. Source: `sizing.rs` -/
def sizeFor (task : CopyTask) (targetSizeSol : ℚ) (spend : SpendState)
    (engineTradeSizeSol : ℚ) : Except CopySkip ℚ :=
  match requestedSize task.sizing targetSizeSol with
  | .error reason => .error reason
  | .ok requested =>
    if requested ≤ 0 ∨ engineTradeSizeSol ≤ 0 then .error .invalidSizing
    else
      let budgetRemaining := max (task.totalBudgetSol - spend.totalSpentSol) 0
      let tokenRemaining := max (task.maxSolPerToken - spend.tokenSpentSol) 0
      let engineCeiling := engineTradeSizeSol * maxTradeSizeMultiplier
      let sized := min (min (min (min requested task.maxSolPerTrade) tokenRemaining)
        budgetRemaining) engineCeiling
      if budgetRemaining < minTradeSizeSol then .error .budgetExhausted
      else if tokenRemaining < minTradeSizeSol then .error .tokenCapReached
      else if sized < minTradeSizeSol then .error (.belowMinimumSize minTradeSizeSol)
      else .ok sized

/-- A size is within what the task may spend on a trade, a token, and in all. -/
structure SizedWithin (task : CopyTask) (spend : SpendState) (sized : ℚ) : Prop where
  positive : minTradeSizeSol ≤ sized
  trade : sized ≤ task.maxSolPerTrade
  token : spend.tokenSpentSol + sized ≤ task.maxSolPerToken
  total : spend.totalSpentSol + sized ≤ task.totalBudgetSol

lemma le_of_remaining {cap spent sized : ℚ} (hleft : minTradeSizeSol ≤ max (cap - spent) 0)
    (hsized : sized ≤ max (cap - spent) 0) : spent + sized ≤ cap := by
  have hpositive : (0 : ℚ) < minTradeSizeSol := by norm_num [minTradeSizeSol]
  rcases max_choice (cap - spent) 0 with h | h
  · rw [h] at hsized
    linarith
  · rw [h] at hleft
    exact absurd (lt_of_lt_of_le hpositive hleft) (lt_irrefl 0)

lemma sizedWithin_of_sizeFor {task : CopyTask} {targetSizeSol engineTradeSizeSol sized : ℚ}
    {spend : SpendState} (h : sizeFor task targetSizeSol spend engineTradeSizeSol = .ok sized) :
    SizedWithin task spend sized := by
  unfold sizeFor at h
  split at h
  · cases h
  case h_2 requested hrequested =>
  split at h
  · cases h
  dsimp only at h
  split at h
  · cases h
  case isFalse hbudget =>
  split at h
  · cases h
  case isFalse htoken =>
  split at h
  · cases h
  case isFalse hminimum =>
  have hsized := Except.ok.inj h
  rw [hsized] at hminimum
  have hle : sized ≤ min (min (min requested task.maxSolPerTrade)
      (max (task.maxSolPerToken - spend.tokenSpentSol) 0))
      (max (task.totalBudgetSol - spend.totalSpentSol) 0) := by
    rw [← hsized]
    exact min_le_left _ _
  have hcaps := le_min_iff.mp hle
  have hcaps' := le_min_iff.mp hcaps.1
  exact ⟨not_lt.mp hminimum, (le_min_iff.mp hcaps'.1).2,
    le_of_remaining (not_lt.mp htoken) hcaps'.2, le_of_remaining (not_lt.mp hbudget) hcaps.2⟩

end Dripline.Trader.Copy

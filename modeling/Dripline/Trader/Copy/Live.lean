import Dripline.Trader.Copy.Ledger
import Dripline.Trader.Types
import Dripline.Wallets.Activity

/-!
# Copied buys

`trader/copy/live.rs` and `pipeline.rs`: a buy of the target, planned and sized for a task.

* `paperEntryOutcome` — the fill of the paper book.
* `prepareLiveEntry` — the plan of a live buy.
* `LiveSubmitResult`, `executeLive` — what came of its submission.
-/

namespace Dripline.Trader.Copy

open Dripline.Wallets

/-- Source: `service.rs` -/
def skipped (taskId : ℤ) (activity : WalletActivity) (mint : String) (reason : CopySkip) :
    CopyOutcome :=
  .skipped taskId activity.signature (some mint) reason

/-! ## Paper -/

/-- Source: `pipeline.rs`, `run_paper_pipeline`, for one of its tasks -/
def paperEntryOutcome (activity : WalletActivity) (task : CopyTask) (spend : SpendState)
    (risk : RiskContext) (policy : PipelinePolicy) (market : PaperMarket) (costs : PaperCosts)
    (decidedAt : ℤ) : CopyOutcome :=
  match activity.kind with
  | .swap mint .buy targetSizeSol targetTokenAmount _ =>
    let outcome : Except CopySkip CopyOutcome := do
      precheck task targetSizeSol spend risk policy
      let sizedSol ← sizeFor task targetSizeSol spend policy.engineTradeSizeSol
      let fill ← simulateFill sizedSol market task.slippagePct costs
      return .paperFilled
        { taskId := task.id
          targetAddress := task.targetAddress
          signature := activity.signature
          mint
          targetSizeSol
          targetTokenAmount
          sizedSol
          fill
          decidedAt }
    match outcome with
    | .ok outcome => outcome
    | .error reason => skipped task.id activity mint reason
  | _ => .skipped task.id activity.signature none .notBuySwap

lemma paperEntryOutcome_isLiveBuy (activity : WalletActivity) (task : CopyTask)
    (spend : SpendState) (risk : RiskContext) (policy : PipelinePolicy) (market : PaperMarket)
    (costs : PaperCosts) (decidedAt : ℤ) :
    (paperEntryOutcome activity task spend risk policy market costs decidedAt).isLiveBuy = false := by
  unfold paperEntryOutcome
  split
  case h_2 => rfl
  case h_1 mint targetSizeSol targetTokenAmount priceSol hkind =>
    cases precheck task targetSizeSol spend risk policy with
    | error reason => rfl
    | ok passed =>
      cases hsized : sizeFor task targetSizeSol spend policy.engineTradeSizeSol with
      | error reason =>
        simp only [bind, Except.bind]
        rfl
      | ok sizedSol =>
        cases hfill : simulateFill sizedSol market task.slippagePct costs with
        | error reason | ok fill =>
          simp only [bind, Except.bind, hfill]
          rfl

/-! ## Live -/

/-- Source: `live.rs`, `PreparedLiveEntry`, with the fields of its `TradeDecision` -/
structure PreparedLiveEntry where
  task : CopyTask
  targetSignature : String
  targetSizeSol : ℚ
  targetTokenAmount : ℚ
  mint : String
  sizedSol : ℚ
  decidedAt : ℤ

/-- Source: `live.rs` -/
def prepareLiveEntry (activity : WalletActivity) (task : CopyTask) (spend : SpendState)
    (risk : RiskContext) (policy : PipelinePolicy) (decidedAt : ℤ) :
    Except CopySkip PreparedLiveEntry :=
  if task.mode ≠ .live then .error .modeTransitionRequired
  else
    match activity.kind with
    | .swap mint .buy targetSizeSol targetTokenAmount _ =>
      match precheck task targetSizeSol spend risk policy with
      | .error reason => .error reason
      | .ok () =>
        (sizeFor task targetSizeSol spend policy.engineTradeSizeSol).map fun sizedSol =>
          { task
            targetSignature := activity.signature
            targetSizeSol
            targetTokenAmount
            mint
            sizedSol
            decidedAt }
    | _ => .error .notBuySwap

/-- Source: `live.rs` -/
inductive LiveSubmitResult
  | confirmed (transactionSignature : String) (fillPriceSol : Option ℚ)
  | submitted (transactionSignature : String) (fillPriceSol : Option ℚ)
  | failed (error : String)

/-- Source: `live.rs` -/
def LiveSubmitResult.fromTradeResult : Option TradeResult → LiveSubmitResult
  | none => .failed "entry submission failed before returning a result"
  | some result =>
    if result.success then
      match result.txSignature with
      | none => .failed "successful entry submission returned no transaction signature"
      | some transactionSignature =>
        if result.confirmationPending then
          .submitted transactionSignature result.executedPriceSol
        else .confirmed transactionSignature result.executedPriceSol
    else .failed (result.error.getD "entry submission failed")

/-- Source: `live.rs` -/
def liveDecision (plan : PreparedLiveEntry) : LiveDecision :=
  { taskId := plan.task.id
    targetAddress := plan.task.targetAddress
    targetSignature := plan.targetSignature
    mint := plan.mint
    targetSizeSol := plan.targetSizeSol
    targetTokenAmount := plan.targetTokenAmount
    sizedSol := plan.sizedSol
    transactionSignature := none
    error := none
    decidedAt := plan.decidedAt }

/-- The outcome of a submission. Source: `live.rs`, `execute_live_with` -/
def executeLive (plan : PreparedLiveEntry) (result : LiveSubmitResult) : CopyOutcome :=
  let decision := liveDecision plan
  match result with
  | .confirmed transactionSignature _ =>
    .liveConfirmed { decision with transactionSignature := some transactionSignature }
  | .submitted transactionSignature _ =>
    .liveSubmitted { decision with transactionSignature := some transactionSignature }
  | .failed error => .liveFailed { decision with error := some error }

lemma prepareLiveEntry_ok {activity : WalletActivity} {task : CopyTask} {spend : SpendState}
    {risk : RiskContext} {policy : PipelinePolicy} {decidedAt : ℤ} {plan : PreparedLiveEntry}
    (h : prepareLiveEntry activity task spend risk policy decidedAt = .ok plan) :
    task.mode = .live ∧ plan.task = task ∧ plan.targetSignature = activity.signature ∧
      SizedWithin task spend plan.sizedSol ∧
      ∃ solAmount tokenAmount priceSol,
        activity.kind = .swap plan.mint .buy solAmount tokenAmount priceSol := by
  unfold prepareLiveEntry at h
  split at h
  · cases h
  case isFalse hmode =>
  split at h
  case h_2 => cases h
  case h_1 mint targetSizeSol targetTokenAmount priceSol hkind =>
    split at h
    · cases h
    cases hsized : sizeFor task targetSizeSol spend policy.engineTradeSizeSol with
    | error reason =>
      rw [hsized] at h
      cases h
    | ok sizedSol =>
      rw [hsized] at h
      rw [← Except.ok.inj h]
      exact ⟨not_not.mp hmode, rfl, rfl, sizedWithin_of_sizeFor hsized, _, _, _, hkind⟩

lemma executeLive_failed (plan : PreparedLiveEntry) {result : Option TradeResult}
    (h : result.any (·.success) = false) :
    ∃ decision, executeLive plan (.fromTradeResult result) = .liveFailed decision := by
  cases result with
  | none => exact ⟨_, rfl⟩
  | some result =>
    obtain ⟨success, txSignature, executedPriceSol, error, confirmationPending⟩ := result
    cases success with
    | true => cases h
    | false => exact ⟨_, rfl⟩

lemma executeLive_submitted (plan : PreparedLiveEntry) {result : Option TradeResult}
    (h : result.any (·.success) = true) (hsignature : result.any (·.txSignature.isSome) = true) :
    ∃ transactionSignature,
      executeLive plan (.fromTradeResult result) =
          .liveSubmitted { liveDecision plan with transactionSignature } ∨
        executeLive plan (.fromTradeResult result) =
          .liveConfirmed { liveDecision plan with transactionSignature } := by
  cases result with
  | none => cases h
  | some result =>
    obtain ⟨success, txSignature, executedPriceSol, error, confirmationPending⟩ := result
    cases success with
    | false => cases h
    | true =>
      cases txSignature with
      | none => cases hsignature
      | some transactionSignature =>
        refine ⟨some transactionSignature, ?_⟩
        cases confirmationPending with
        | true => exact Or.inl rfl
        | false => exact Or.inr rfl

end Dripline.Trader.Copy

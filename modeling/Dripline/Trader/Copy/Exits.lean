import Dripline.Positions.Position
import Dripline.Trader.Copy.Ledger
import Dripline.Trader.Types
import Dripline.Wallets.Activity

/-!
# Mirrored sells

`trader/copy/exits.rs`: a sell of the target closes the same fraction of what a task holds.

* `proportionalExitPercentage` — the fraction, between a hundredth of a percent and all of it.
* `paperSellOutcome` — the sell of the paper book.
* `prepareCopySell`, `executeCopySell` — the sell of the position that the task opened.

A source without a file is in `exits.rs`, where a definition without a comment is the one
of its name.
-/

namespace Dripline.Trader.Copy

open Dripline.Positions Dripline.Wallets

/-- The percentage of its holding that the target sold; all of it when the holding is not known. -/
def proportionalExitPercentage (targetTokenAmount targetHoldingBeforeSell : ℚ) : Option ℚ :=
  if targetTokenAmount ≤ 0 ∨ targetHoldingBeforeSell ≤ 0 then none
  else some (min (max (targetTokenAmount / targetHoldingBeforeSell * 100) (1 / 100)) 100)

/-- The token, the tokens and the SOL of a sell. -/
def sellActivity (activity : WalletActivity) : Except CopySkip (String × ℚ × ℚ) :=
  match activity.kind with
  | .swap mint .sell solAmount tokenAmount _ => .ok (mint, tokenAmount, solAmount)
  | _ => .error .notSellSwap

def sellDecision (task : CopyTask) (targetSignature mint : String)
    (targetTokenAmount targetSolAmount : ℚ) (exitPercentage : Option ℚ) (decidedAt : ℤ) :
    CopySellDecision :=
  { taskId := task.id
    targetAddress := task.targetAddress
    targetSignature
    mint
    targetTokenAmount
    targetSolAmount
    exitPercentage
    transactionSignature := none
    error := none
    decidedAt
    paperFill := none }

/-! ## Paper -/

/-- The tokens of a paper holding that a percentage sells. Source: `paper_sell_outcome` -/
def paperSellAmount (exitPercentage : Option ℚ) (paperTokensHeld : ℚ) : ℚ :=
  match exitPercentage with
  | some pct => if pct < 100 then paperTokensHeld * pct / 100 else paperTokensHeld
  | none => paperTokensHeld

def paperSellOutcome (activity : WalletActivity) (task : CopyTask) (forceStopped : Bool)
    (targetHoldingBeforeSell paperTokensHeld : ℚ) (market : PaperMarket) (costs : PaperCosts)
    (decidedAt : ℤ) : Except CopySkip CopyOutcome :=
  if task.exitMode = .buyOnly then .error .exitModeDisabled
  else if forceStopped then .error .forceStopped
  else
    match sellActivity activity with
    | .error reason => .error reason
    | .ok (mint, targetTokenAmount, targetSolAmount) =>
      if paperTokensHeld ≤ 0 then .error .copyPositionNotFound
      else
        let exitPercentage := proportionalExitPercentage targetTokenAmount targetHoldingBeforeSell
        (simulateSell (paperSellAmount exitPercentage paperTokensHeld) market task.slippagePct
          costs).map fun fill =>
            .paperSellObserved
              { sellDecision task activity.signature mint targetTokenAmount targetSolAmount
                  exitPercentage decidedAt with
                paperFill := some fill }

variable {targetHoldingBeforeSell paperTokensHeld : ℚ} {activity : WalletActivity}
variable {outcome : CopyOutcome} {market : PaperMarket} {forceStopped : Bool} {costs : PaperCosts}
  {task : CopyTask} {decidedAt : ℤ}

section

variable (h : paperSellOutcome activity task forceStopped targetHoldingBeforeSell paperTokensHeld
  market costs decidedAt = .ok outcome)
include h

lemma paperSellOutcome_ok :
    ∃ mint solAmount tokenAmount priceSol fill,
      activity.kind = .swap mint .sell solAmount tokenAmount priceSol ∧
        0 < paperTokensHeld ∧
        simulateSell (paperSellAmount (proportionalExitPercentage tokenAmount
          targetHoldingBeforeSell) paperTokensHeld) market task.slippagePct costs = .ok fill ∧
        outcome = .paperSellObserved
          { sellDecision task activity.signature mint tokenAmount solAmount
              (proportionalExitPercentage tokenAmount targetHoldingBeforeSell) decidedAt with
            paperFill := some fill } := by
  unfold paperSellOutcome at h
  split at h
  · cases h
  split at h
  · cases h
  split at h
  · cases h
  case h_2 mint tokenAmount solAmount heq =>
    split at h
    · cases h
    case isFalse hheld =>
      unfold sellActivity at heq
      split at heq
      case h_2 => cases heq
      case h_1 mint' solAmount' tokenAmount' priceSol hkind =>
        obtain ⟨rfl, rfl, rfl⟩ := by simpa using Except.ok.inj heq
        dsimp only at h
        cases hfill : simulateSell (paperSellAmount (proportionalExitPercentage tokenAmount'
            targetHoldingBeforeSell) paperTokensHeld) market task.slippagePct costs with
        | error reason =>
          rw [hfill] at h
          cases h
        | ok fill =>
          rw [hfill] at h
          exact ⟨_, _, _, _, fill, hkind, not_le.mp hheld, hfill, (Except.ok.inj h).symm⟩

lemma paperSellOutcome_isLiveBuy : outcome.isLiveBuy = false := by
  obtain ⟨_, _, _, _, _, _, _, _, rfl⟩ := paperSellOutcome_ok h
  rfl

end

/-! ## Live -/

/-- Source: `PreparedCopySell`, with the fields of its `TradeDecision` -/
structure PreparedCopySell where
  task : CopyTask
  targetSignature : String
  targetTokenAmount : ℚ
  targetSolAmount : ℚ
  positionId : Option ℤ
  mint : String
  reason : TradeReason
  exitPercentage : Option ℚ
  decidedAt : ℤ

/-- The task opened the position, from its own target. -/
def ownsCopyPosition (position : Position) (task : CopyTask) : Bool :=
  position.origin == .copy task.id task.targetAddress

/-- Source: `positions/types.rs` -/
def allowsCopySell (management : PositionManagement) : Bool :=
  management == .copyTask || management == .hybrid

def prepareCopySell (activity : WalletActivity) (task : CopyTask) (position : Option Position)
    (forceStopped : Bool) (targetHoldingBeforeSell : ℚ) (decidedAt : ℤ) :
    Except CopySkip PreparedCopySell :=
  if task.mode ≠ .live then .error .modeTransitionRequired
  else if task.exitMode = .buyOnly then .error .exitModeDisabled
  else
    match sellActivity activity with
    | .error reason => .error reason
    | .ok (mint, targetTokenAmount, targetSolAmount) =>
      if forceStopped then .error .forceStopped
      else
        match position.filter (ownsCopyPosition · task) with
        | none => .error .copyPositionNotFound
        | some position =>
          if position.management = .userOnly then .error .positionUserOnly
          else if !allowsCopySell position.management then .error .positionManagementMismatch
          else
            .ok
              { task
                targetSignature := activity.signature
                targetTokenAmount
                targetSolAmount
                positionId := position.id
                mint
                reason := .copySell
                exitPercentage :=
                  proportionalExitPercentage targetTokenAmount targetHoldingBeforeSell
                decidedAt }

inductive CopySellSubmitResult
  | submitted (transactionSignature : String)
  | failed (error : String)

def CopySellSubmitResult.fromTradeResult : Except String TradeResult → CopySellSubmitResult
  | .error error => .failed error
  | .ok result =>
    if result.success then
      match result.txSignature with
      | some transactionSignature => .submitted transactionSignature
      | none => .failed "successful copy sell returned no transaction signature"
    else .failed (result.error.getD "copy sell submission failed")

/-- Source: `execute_copy_sell_with` -/
def executeCopySell (plan : PreparedCopySell) (result : CopySellSubmitResult) : CopyOutcome :=
  let decision := sellDecision plan.task plan.targetSignature plan.mint plan.targetTokenAmount
    plan.targetSolAmount plan.exitPercentage plan.decidedAt
  match result with
  | .submitted transactionSignature =>
    .liveSellSubmitted { decision with transactionSignature := some transactionSignature }
  | .failed error => .liveSellFailed { decision with error := some error }

end Dripline.Trader.Copy

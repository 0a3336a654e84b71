import Dripline.Trader.Copy.Exits
import Dripline.Trader.Copy.Live

/-!
# What the copy service does with a transaction of a target

`trader/copy/service.rs`: one loop takes up the activity of the watch, one after another, and what
it does for a task ends with an outcome that is recorded.

* `CopyRun` — the database, and the live buys that were submitted.
* `CopyEvent`, `CopyRun.step` — what happens to the database.

What the guards, the risk checks, the admission and the trade say is an argument; so is whether the
outcome gets recorded, as the write may be refused, or the process stop before it.

A source without a file is in `service.rs`.
-/

namespace Dripline.Trader.Copy

open Dripline.Found Dripline.Positions Dripline.Wallets

/-- A live buy that was submitted, with the task as it was. -/
structure Submission where
  task : CopyTask
  signature : String
  mint : String
  sizedSol : ℚ

/-- The database, and the live buys that were submitted. -/
structure CopyRun where
  database : CopyDatabase
  submitted : List Submission

namespace CopyRun

/-- Nothing is recorded, and nothing submitted. -/
def empty : CopyRun := ⟨.empty, []⟩

variable (run : CopyRun)

/-- The outcome is recorded, unless the write is refused or the process has stopped. -/
def record (recorded : Bool) (outcome : CopyOutcome) : CopyRun :=
  if recorded then { run with database := (run.database.recordOutcome outcome).2 } else run

end CopyRun

/-- A task is on the source of the activity. Source: `matcher.rs`, `matching_tasks` -/
def isMatching (activity : WalletActivity) (task : CopyTask) : Bool :=
  task.targetAddress == activity.subject && activity.sources.contains (.copy task.id)

/-! ## Buys -/

/-- The answers to what the service asks about a buy. -/
structure BuyAnswers where
  copyEnabled : Bool
  guarded : Option CopySkip
  risk : RiskContext
  policy : PipelinePolicy
  paperBlock : Option EntryBlock
  market : PaperMarket
  costs : PaperCosts
  claimWritten : Bool
  stopped : Bool
  liveBlock : Option EntryBlock
  result : Option TradeResult
  recorded : Bool
  now : ℤ

namespace CopyRun

variable (run : CopyRun)

/-- A live buy that is claimed is admitted, submitted, and its outcome recorded. Source: `live.rs`,
`execute_live_with` and `service.rs`, `process_activity` -/
def submit (plan : PreparedLiveEntry) (answers : BuyAnswers) : CopyRun :=
  match answers.liveBlock with
  | some block =>
    run.record answers.recorded
      (.skipped plan.task.id plan.targetSignature (some plan.mint) (.entryBlocked block))
  | none =>
    let submitted := if answers.result.any (·.success) then
        run.submitted ++ [⟨plan.task, plan.targetSignature, plan.mint, plan.sizedSol⟩]
      else run.submitted
    { run with submitted }.record answers.recorded
      (executeLive plan (.fromTradeResult answers.result))

/-- A live buy: it is planned on what the task has spent, and claimed before it is submitted.
Source: `process_activity` -/
def buyLive (task : CopyTask) (activity : WalletActivity) (mint : String) (answers : BuyAnswers) :
    CopyRun :=
  let spend := run.database.spendState task.id task.mode mint
  match prepareLiveEntry activity task spend answers.risk answers.policy answers.now with
  | .error reason => run.record answers.recorded (skipped task.id activity mint reason)
  | .ok plan =>
    if !answers.claimWritten then run
    else
      let (claimed, database) :=
        run.database.claimLiveActivity (task.id, activity.signature) answers.now
      if !claimed || answers.stopped then { run with database }
      else { run with database }.submit plan answers

/-- A buy in the paper book. Source: `process_activity` -/
def buyPaper (task : CopyTask) (activity : WalletActivity) (mint : String) (answers : BuyAnswers) :
    CopyRun :=
  let spend := run.database.spendState task.id task.mode mint
  run.record answers.recorded
    (match answers.paperBlock with
    | some block => skipped task.id activity mint (.entryBlocked block)
    | none =>
      paperEntryOutcome activity task spend answers.risk answers.policy answers.market answers.costs
        answers.now)

/-- A buy of the target, for a task. Source: `process_activity` -/
def buy (task : CopyTask) (activity : WalletActivity) (answers : BuyAnswers) : CopyRun :=
  match activity.kind with
  | .swap mint .buy _ _ _ =>
    if !(isMatching activity task && answers.copyEnabled && task.enabled) then run
    else
      match answers.guarded with
      | some reason => run.record answers.recorded (skipped task.id activity mint reason)
      | none =>
        match task.mode with
        | .paper => run.buyPaper task activity mint answers
        | .live => run.buyLive task activity mint answers
  | _ => run

end CopyRun

/-! ## Sells -/

/-- The answers to what the service asks about a sell. -/
structure SellAnswers where
  acts : Bool
  guarded : Option CopySkip
  forceStopped : Bool
  targetHolding : ℚ
  market : PaperMarket
  costs : PaperCosts
  claimWritten : Bool
  position : Option Position
  result : Except String TradeResult
  recorded : Bool
  now : ℤ

namespace CopyRun

variable (run : CopyRun)

/-- A sell from the paper book. Source: `process_sell_activity` -/
def sellPaper (task : CopyTask) (activity : WalletActivity) (mint : String) (answers : SellAnswers) :
    CopyRun :=
  let position := (run.database.paperPositions (task.id, mint)).filter PaperPosition.isOpen
  let paperHeld := (position.map PaperPosition.tokenAmount).getD 0
  run.record answers.recorded
    (match paperSellOutcome activity task answers.forceStopped answers.targetHolding paperHeld
        answers.market answers.costs answers.now with
    | .ok outcome => outcome
    | .error reason => skipped task.id activity mint reason)

/-- A live sell, which is claimed before it is planned. Source: `process_sell_activity` -/
def sellLive (task : CopyTask) (activity : WalletActivity) (mint : String) (answers : SellAnswers) :
    CopyRun :=
  if !answers.claimWritten then run
  else
    let (claimed, database) :=
      run.database.claimLiveActivity (task.id, activity.signature) answers.now
    if !claimed then { run with database }
    else
      { run with database }.record answers.recorded
        (match prepareCopySell activity task answers.position answers.forceStopped
            answers.targetHolding answers.now with
        | .ok plan => executeCopySell plan (.fromTradeResult answers.result)
        | .error reason => skipped task.id activity mint reason)

/-- A sell of the target, for a task: one that follows its sells, or closes what it holds. Source:
`process_activity` -/
def sell (task : CopyTask) (activity : WalletActivity) (answers : SellAnswers) : CopyRun :=
  match activity.kind with
  | .swap mint .sell _ _ _ =>
    if !(isMatching activity task && answers.acts && task.exitMode != .buyOnly) then run
    else
      match answers.guarded with
      | some reason => run.record answers.recorded (skipped task.id activity mint reason)
      | none =>
        match task.mode with
        | .paper => run.sellPaper task activity mint answers
        | .live => run.sellLive task activity mint answers
  | _ => run

end CopyRun

/-! ## Runs -/

/-- A transaction of the target comes in for a task, as it is then; an exit rule or a user closes a
paper holding; a submitted buy is found confirmed; stale claims are reconciled; a paper book is
reset. -/
inductive CopyEvent
  | bought (task : CopyTask) (activity : WalletActivity) (answers : BuyAnswers)
  | sold (task : CopyTask) (activity : WalletActivity) (answers : SellAnswers)
  | exited (decision : CopySellDecision) (recorded : Bool)
  | confirmed (taskId : ℤ) (signature : String) (recorded : Bool)
  | reconciled (graceSeconds now : ℤ)
  | reset (taskId : ℤ)

namespace CopyRun

/-- A submitted buy whose position is there is confirmed. Source: `reconcile_runtime_state` -/
def confirm (run : CopyRun) (taskId : ℤ) (signature : String) (recorded : Bool) : CopyRun :=
  match run.database.decision (taskId, signature) with
  | some (.liveSubmitted decision) =>
    if decision.transactionSignature.isSome then run.record recorded (.liveConfirmed decision)
    else run
  | _ => run

/-- One event. -/
def step (run : CopyRun) : CopyEvent → CopyRun
  | .bought task activity answers => run.buy task activity answers
  | .sold task activity answers => run.sell task activity answers
  | .exited decision recorded => run.record recorded (.paperSellObserved decision)
  | .confirmed taskId signature recorded => run.confirm taskId signature recorded
  | .reconciled graceSeconds now =>
    { run with database := run.database.reconcileStaleClaims graceSeconds now }
  | .reset taskId => { run with database := run.database.resetPaperBook taskId }

end CopyRun

end Dripline.Trader.Copy

import Mathlib.Algebra.Group.Prod
import Dripline.Found.Tally
import Dripline.Trader.Copy.Paper

/-!
# The ledger of the copy tasks

`trader/copy/database/ledger.rs` and `claims.rs`.

* `CopyOutcome` — what a task decided about a transaction of its target.
* `CopyDatabase` — the decisions, the claims of live submissions, the spend and the paper book.
* `recordOutcome`, `bookOutcome` — an outcome is recorded, and booked when its decision is new.
* `claimLiveActivity`, `reconcileStaleClaims` — claims, which are never given back.
* `resetPaperBook` — the paper book of a task is started over.

A source without a file is in `database/ledger.rs`.
-/

namespace Dripline.Trader.Copy

open Dripline.Found

/-! ## Outcomes -/

/-- Source: `types.rs` -/
structure PaperDecision where
  taskId : ℤ
  targetAddress : String
  signature : String
  mint : String
  targetSizeSol : ℚ
  targetTokenAmount : ℚ
  sizedSol : ℚ
  fill : PaperFill
  decidedAt : ℤ

/-- Source: `types.rs` -/
structure LiveDecision where
  taskId : ℤ
  targetAddress : String
  targetSignature : String
  mint : String
  targetSizeSol : ℚ
  targetTokenAmount : ℚ
  sizedSol : ℚ
  transactionSignature : Option String
  error : Option String
  decidedAt : ℤ

/-- Source: `types.rs` -/
structure CopySellDecision where
  taskId : ℤ
  targetAddress : String
  targetSignature : String
  mint : String
  targetTokenAmount : ℚ
  targetSolAmount : ℚ
  exitPercentage : Option ℚ
  transactionSignature : Option String
  error : Option String
  decidedAt : ℤ
  paperFill : Option PaperSellFill

/-- Source: `types.rs` -/
inductive CopyOutcome
  | paperFilled (decision : PaperDecision)
  | liveSubmitted (decision : LiveDecision)
  | liveConfirmed (decision : LiveDecision)
  | liveFailed (decision : LiveDecision)
  | paperSellObserved (decision : CopySellDecision)
  | liveSellSubmitted (decision : CopySellDecision)
  | liveSellFailed (decision : CopySellDecision)
  | skipped (taskId : ℤ) (signature : String) (mint : Option String) (reason : CopySkip)

namespace CopyOutcome

/-- The task of an outcome and the transaction of its target. Source: `record_outcome_sync` -/
def key : CopyOutcome → ℤ × String
  | paperFilled decision => (decision.taskId, decision.signature)
  | liveSubmitted decision => (decision.taskId, decision.targetSignature)
  | liveConfirmed decision => (decision.taskId, decision.targetSignature)
  | liveFailed decision => (decision.taskId, decision.targetSignature)
  | paperSellObserved decision => (decision.taskId, decision.targetSignature)
  | liveSellSubmitted decision => (decision.taskId, decision.targetSignature)
  | liveSellFailed decision => (decision.taskId, decision.targetSignature)
  | skipped taskId signature _ _ => (taskId, signature)

/-- A live buy that was submitted. -/
def isLiveBuy : CopyOutcome → Bool
  | liveSubmitted _ => true
  | liveConfirmed _ => true
  | _ => false

/-- The paper outcomes and the skips, which a reset removes. Source: `database/maintenance.rs`,
`PAPER_KINDS` -/
def isPaperKind : CopyOutcome → Bool
  | paperFilled _ => true
  | paperSellObserved _ => true
  | skipped _ _ _ _ => true
  | _ => false

end CopyOutcome

/-! ## The database -/

/-- Source: `database/schema.rs`, `copy_live_claims` -/
inductive ClaimState
  | claimed
  | submitted
  | settled
  | abandoned
  deriving DecidableEq

/-- A claim of a live submission. Source: `database/schema.rs`, `copy_live_claims` -/
structure LiveClaim where
  key : ℤ × String
  claimedAt : ℤ
  state : ClaimState

/-- The key of a row of `copy_spend`. -/
structure SpendKey where
  taskId : ℤ
  mode : CopyMode
  mint : String
  deriving DecidableEq

/-- The rows of the decisions, the claims, the spend with its number of buys, and the paper book.
Source: `database/schema.rs` -/
structure CopyDatabase where
  decisions : List CopyOutcome
  liveClaims : List LiveClaim
  spend : List (SpendKey × ℚ × ℕ)
  paperPositions : ℤ × String → Option PaperPosition

namespace CopyDatabase

/-- Nothing is recorded. -/
def empty : CopyDatabase := ⟨[], [], [], fun _ => none⟩

variable (database : CopyDatabase)

/-- The decision on a transaction. -/
def decision (key : ℤ × String) : Option CopyOutcome :=
  database.decisions.find? (·.key = key)

/-- What a task has spent in a mode, on all tokens and on one. Source: `spend_state_sync` -/
def spendState (taskId : ℤ) (mode : CopyMode) (mint : String) : SpendState :=
  let token := Tally.amountOf ⟨taskId, mode, mint⟩ database.spend
  { totalSpentSol :=
      (Tally.total (fun key => key.taskId == taskId && key.mode == mode) database.spend).1
    tokenSpentSol := token.1
    tokenBuyCount := token.2 }

/-! ## Recording -/

/-- Source: `add_spend` -/
def addSpend (taskId : ℤ) (mode : CopyMode) (mint : String) (spentSol : ℚ) : CopyDatabase :=
  { database with spend := Tally.add ⟨taskId, mode, mint⟩ (spentSol, 1) database.spend }

/-- Source: `apply_paper_buy` -/
def bookPaperBuy (decision : PaperDecision) : CopyDatabase :=
  let key := (decision.taskId, decision.mint)
  { database with
    paperPositions := Function.update database.paperPositions key
      (some (applyPaperBuy (database.paperPositions key) decision.fill decision.decidedAt)) }

/-- Source: `apply_paper_sell` -/
def bookPaperSell (decision : CopySellDecision) (fill : PaperSellFill) : CopyDatabase :=
  let key := (decision.taskId, decision.mint)
  { database with
    paperPositions := Function.update database.paperPositions key
      ((database.paperPositions key).map fun position =>
        applyPaperSell position fill.tokenAmount fill.netProceedsSol fill.marketPriceSol
          decision.decidedAt) }

/-- A decision that is new is booked. Source: `book_outcome` -/
def bookOutcome (outcome : CopyOutcome) : CopyDatabase :=
  match outcome with
  | .paperFilled decision =>
    (database.addSpend decision.taskId .paper decision.mint decision.sizedSol).bookPaperBuy decision
  | .liveSubmitted decision => database.addSpend decision.taskId .live decision.mint decision.sizedSol
  | .liveConfirmed decision => database.addSpend decision.taskId .live decision.mint decision.sizedSol
  | .paperSellObserved decision =>
    match decision.paperFill with
    | some fill => database.bookPaperSell decision fill
    | none => database
  | _ => database

/-- The state of a claim after an outcome. Source: `record_outcome_sync` -/
def claimStateAfter : CopyOutcome → Option ClaimState
  | .liveSubmitted _ => some .submitted
  | .liveSellSubmitted _ => some .submitted
  | .liveConfirmed _ => some .settled
  | .liveFailed _ => some .settled
  | .liveSellFailed _ => some .settled
  | .skipped _ _ _ _ => some .settled
  | .paperFilled _ => none
  | .paperSellObserved _ => none

/-- A claim gets another state. -/
def setClaimState (key : ℤ × String) (state : ClaimState) : CopyDatabase :=
  { database with
    liveClaims := database.liveClaims.map fun claim =>
      if claim.key = key then { claim with state } else claim }

variable (outcome : CopyOutcome)

/-- The claim of an outcome gets its state. Source: `record_outcome_sync` -/
def settleClaim : CopyDatabase :=
  match claimStateAfter outcome with
  | some state => database.setClaimState outcome.key state
  | none => database

/-- The decision is inserted, unless there is one on the transaction. Source:
`record_outcome_sync` -/
def insertDecision : Bool × CopyDatabase :=
  match database.decision outcome.key with
  | some _ => (false, database)
  | none => (true, { database with decisions := database.decisions ++ [outcome] })

/-- A submitted buy becomes a confirmed one. Source: `record_outcome_sync` -/
def isConfirmationUpgrade : Bool :=
  match database.decision outcome.key, outcome with
  | some (.liveSubmitted _), .liveConfirmed _ => true
  | _, _ => false

/-- An outcome is recorded: its decision is inserted and booked, or its confirmation noted; the
result says whether it was new. Source: `record_outcome_sync` -/
def recordOutcome : Bool × CopyDatabase :=
  let (inserted, decided) := database.insertDecision outcome
  let confirmationUpgrade := !inserted && database.isConfirmationUpgrade outcome
  let booked :=
    if confirmationUpgrade then
      { decided with
        decisions := decided.decisions.map fun existing =>
          if existing.key = outcome.key then outcome else existing }
    else if inserted then decided.bookOutcome outcome
    else decided
  (inserted || confirmationUpgrade, booked.settleClaim outcome)

/-! ## Claims -/

/-- A transaction is claimed once, and never again. Source: `database/claims.rs`,
`claim_live_activity` -/
def claimLiveActivity (key : ℤ × String) (now : ℤ) : Bool × CopyDatabase :=
  if database.liveClaims.any (·.key == key) then (false, database)
  else (true, { database with liveClaims := database.liveClaims ++ [⟨key, now, .claimed⟩] })

/-- A stale claim is given up, with a decision of its own when there is none. Source:
`database/claims.rs`, `reconcile_stale_claims_sync` -/
def abandonClaim (key : ℤ × String) : CopyDatabase :=
  (database.insertDecision (.skipped key.1 key.2 none .claimReconciledAbandoned)).2.setClaimState key
    .abandoned

/-- Claims with a decision are settled, and those that are stale given up. Source:
`database/claims.rs`, `reconcile_stale_claims_sync` -/
def reconcileStaleClaims (graceSeconds now : ℤ) : CopyDatabase :=
  let settled : CopyDatabase :=
    { database with
      liveClaims := database.liveClaims.map fun claim =>
        if claim.state == .claimed && (database.decision claim.key).isSome then
          { claim with state := .settled }
        else claim }
  let stale := settled.liveClaims.filter fun claim =>
    claim.state == .claimed && decide (claim.claimedAt ≤ now - graceSeconds)
  stale.foldl (fun database claim => database.abandonClaim claim.key) settled

/-! ## Paper resets -/

/-- The paper book of a task is started over: its positions, its paper spend, its paper decisions
and its skips are removed. Source: `database/maintenance.rs` -/
def resetPaperBook (taskId : ℤ) : CopyDatabase :=
  { database with
    decisions := database.decisions.filter fun outcome =>
      !(outcome.key.1 == taskId && outcome.isPaperKind)
    spend := database.spend.filter fun row => !(row.1.taskId == taskId && row.1.mode == .paper)
    paperPositions := fun key => if key.1 = taskId then none else database.paperPositions key }

end CopyDatabase

end Dripline.Trader.Copy

import Dripline.Positions.Pnl

/-!
# Transitions and what they write

`positions/transitions.rs`, and the row updates of `positions/apply.rs`: each is the closure its
branch hands to `update_position_state_by_id`.

* `PositionTransition` — what the verifier and the operations report.
* `openedPosition` — the row of a position that was just opened.
* `Position.entryVerified`, `Position.exitVerified`, `Position.partialExitVerified`,
  `Position.dcaVerified` — the verified swaps.
* `Position.exitFailed`, `Position.exitSynthetic` — a close that did not happen, and one that is
  written off.

A source without a file is in `apply.rs`.
-/

namespace Dripline.Positions

/-! ## Transitions -/

/-- What happened to a position. Source: `transitions.rs` -/
inductive PositionTransition
  | entryVerified (positionId : ℤ) (effectiveEntryPrice : ℚ) (tokenAmountUnits feeLamports : ℕ)
      (solSize : ℚ)
  | exitVerified (positionId : ℤ) (effectiveExitPrice solReceived : ℚ) (feeLamports : ℕ)
      (exitTime : DateTime)
  | exitFailedClearForRetry (positionId : ℤ)
  | exitPermanentFailureSynthetic (positionId : ℤ) (exitTime : DateTime)
  | removeOrphanEntry (positionId : ℤ)
  | updatePriceTracking (mint : String) (currentPrice : ℚ) (highest lowest : Option ℚ)
  | partialExitSubmitted (positionId : ℤ) (exitSignature : String) (exitAmount : ℕ)
      (exitPercentage marketPrice : ℚ)
  | partialExitVerified (positionId : ℤ) (exitAmount : ℕ) (solReceived effectiveExitPrice : ℚ)
      (feeLamports : ℕ) (exitTime : DateTime) (exitSignature : String) (exitPercentage : ℚ)
  | partialExitFailed (positionId : ℤ) (reason : String)
  | exitResidualClearForRetry (positionId : ℤ) (exitAmount : ℕ)
      (solReceived effectiveExitPrice : ℚ) (feeLamports : ℕ) (exitTime : DateTime)
      (exitSignature : String) (exitPercentage : ℚ)
  | dcaSubmitted (positionId : ℤ) (dcaSignature : String) (dcaAmountSol marketPrice : ℚ)
  | dcaVerified (positionId : ℤ) (tokensBought : ℕ) (solSpent effectivePrice : ℚ)
      (feeLamports : ℕ) (dcaTime : DateTime) (dcaSignature : String)
  | dcaFailed (positionId : ℤ) (dcaSignature reason : String)
  deriving DecidableEq

/-- The position a transition is about; a price is about a mint. Source: `transitions.rs`,
`position_id` -/
def PositionTransition.positionId : PositionTransition → Option ℤ
  | .entryVerified id .. | .exitVerified id .. | .exitFailedClearForRetry id
  | .exitPermanentFailureSynthetic id .. | .removeOrphanEntry id | .partialExitSubmitted id ..
  | .partialExitVerified id .. | .partialExitFailed id .. | .exitResidualClearForRetry id ..
  | .dcaSubmitted id .. | .dcaVerified id .. | .dcaFailed id .. => some id
  | .updatePriceTracking .. => none

/-- A transition that reports a swap on chain. -/
def PositionTransition.isVerifiedSwap : PositionTransition → Bool
  | .entryVerified .. | .exitVerified .. | .partialExitVerified .. | .dcaVerified .. => true
  | _ => false

lemma PositionTransition.positionId_of_isVerifiedSwap (transition : PositionTransition)
    (hverified : transition.isVerifiedSwap = true) :
    ∃ positionId, transition.positionId = some positionId := by
  cases transition with
  | updatePriceTracking mint price highest lowest => cases hverified
  | _ => exact ⟨_, rfl⟩

/-! ## Counters -/

/-- `u64` subtraction as the release build compiles it. -/
def wrappingSub64 (a b : ℕ) : ℕ := (a + (2 ^ 64 - b)) % 2 ^ 64

/-- `+= 1` on a `u32` as the release build compiles it. -/
def wrappingSucc32 (n : ℕ) : ℕ := (n + 1) % 2 ^ 32

/-! ## Row updates -/

/-- The row of a position the bot has just opened; its id comes from the table. Source:
`operations/open.rs`, `position` in `open_position_impl` -/
def openedPosition (id : Option ℤ) (mint symbol name signature : String)
    (entryPrice tradeSizeSol : ℚ) (origin : PositionOrigin) (management : PositionManagement)
    (now : DateTime) : Position where
  id := id
  mint := mint
  symbol := symbol
  name := name
  entryPrice := entryPrice
  entryTime := now
  exitPrice := none
  exitTime := none
  positionType := "buy"
  entrySizeSol := tradeSizeSol
  totalSizeSol := tradeSizeSol
  priceHighest := entryPrice
  priceLowest := entryPrice
  entryTransactionSignature := some signature
  exitTransactionSignature := none
  tokenAmount := none
  effectiveEntryPrice := none
  effectiveExitPrice := none
  solReceived := none
  profitTargetMin := some 5
  profitTargetMax := some 20
  liquidityTier := some "UNKNOWN"
  transactionEntryVerified := false
  transactionExitVerified := false
  entryFeeLamports := none
  exitFeeLamports := none
  currentPrice := some entryPrice
  currentPriceUpdated := some now
  phantomRemove := false
  phantomConfirmations := 0
  phantomFirstSeen := none
  syntheticExit := false
  closedReason := none
  pnl := none
  pnlPercent := none
  unrealizedPnl := none
  unrealizedPnlPercent := none
  remainingTokenAmount := none
  totalExitedAmount := 0
  averageExitPrice := none
  partialExitCount := 0
  dcaCount := 0
  averageEntryPrice := entryPrice
  lastDcaTime := none
  archived := false
  archivedAt := none
  origin := origin
  management := management
  roundKey := none
  basisComplete := true
  historyComplete := true
  holdingState := none

/-- Source: `EntryVerified` -/
def Position.entryVerified (pos : Position) (effectiveEntryPrice : ℚ)
    (tokenAmountUnits feeLamports : ℕ) (solSize : ℚ) : Position :=
  { pos with
    transactionEntryVerified := true
    effectiveEntryPrice := some effectiveEntryPrice
    totalSizeSol := solSize
    tokenAmount := some tokenAmountUnits
    entryFeeLamports := some feeLamports
    entrySizeSol := solSize
    remainingTokenAmount := some tokenAmountUnits
    averageEntryPrice := effectiveEntryPrice }

/-- Source: `positions/mod.rs` -/
def pendingVerificationSuffix : String := "_pending_verification"

/-- `str::trim_end_matches`: the suffix is taken off as long as it is there. -/
def trimEnd (suffix : List Char) : ℕ → List Char → List Char
  | 0, text => text
  | n + 1, text =>
    if suffix.isSuffixOf text then trimEnd suffix n (text.take (text.length - suffix.length))
    else text

/-- A close reason once the close is verified. Source: `closed_reason` in `ExitVerified` -/
def verifiedReason (reason : String) : String :=
  String.ofList (trimEnd pendingVerificationSuffix.toList reason.toList.length reason.toList)

variable (pos : Position)

/-- Nothing is held any more: the remainder is rolled into the exited total. Source: `ExitVerified`
and `ExitPermanentFailureSynthetic` -/
def Position.rolledOut : Position :=
  { pos with
    totalExitedAmount :=
      match pos.remainingTokenAmount with
      | some remaining => wrappingAdd64 pos.totalExitedAmount remaining
      | none => pos.totalExitedAmount
    remainingTokenAmount := pos.remainingTokenAmount.map fun _ => 0 }

/-- A verified close; the proceeds accumulate. Source: `ExitVerified` -/
def Position.exitVerified (effectiveExitPrice solReceived : ℚ) (feeLamports : ℕ)
    (exitTime : DateTime) : Position :=
  { pos.rolledOut with
    transactionExitVerified := true
    effectiveExitPrice := some effectiveExitPrice
    solReceived := some (pos.solReceived.getD 0 + solReceived)
    exitFeeLamports := some feeLamports
    exitTime := some exitTime
    closedReason := pos.closedReason.map verifiedReason }

/-- The profit of a close, booked on the row. Source: `pnl_updated` in `ExitVerified` -/
def Position.withPnl (pnl : ℚ × ℚ) : Position :=
  { pos with
    pnl := some pnl.1
    pnlPercent := some pnl.2
    unrealizedPnl := none
    unrealizedPnlPercent := none }

/-- The profit of what is held, kept on the row. Source: `PartialExitVerified` -/
def Position.withUnrealizedPnl (pnl : ℚ × ℚ) : Position :=
  { pos with unrealizedPnl := some pnl.1, unrealizedPnlPercent := some pnl.2 }

/-- Source: `ExitFailedClearForRetry` -/
def Position.exitFailed : Position :=
  { pos with
    exitTransactionSignature := none
    transactionExitVerified := false
    closedReason := some "exit_retry_pending"
    exitPrice := none
    effectiveExitPrice := none }

/-- What a write-off realizes. Source: `realized_pnl` in `ExitPermanentFailureSynthetic` -/
def Position.writtenOff : ℚ := pos.solReceived.getD 0 - pos.totalSizeSol

/-- Source: `ExitPermanentFailureSynthetic` -/
def Position.exitSynthetic (exitTime : DateTime) : Position :=
  { pos.rolledOut with
    syntheticExit := true
    transactionExitVerified := true
    exitTime := some exitTime
    closedReason := some "synthetic_exit_permanent_failure"
    pnl := some pos.writtenOff
    pnlPercent := some
      (if 0 < pos.totalSizeSol then pos.writtenOff / pos.totalSizeSol * 100 else 0)
    unrealizedPnl := none
    unrealizedPnlPercent := none }

/-- A verified partial exit: what is held saturates, what was sold accumulates. Source:
`PartialExitVerified` -/
def Position.partialExitVerified (exitAmount : ℕ) (solReceived effectiveExitPrice : ℚ) : Position :=
  let totalExited := wrappingAdd64 pos.totalExitedAmount exitAmount
  { pos with
    remainingTokenAmount := pos.remainingTokenAmount.map (· - exitAmount)
    totalExitedAmount := totalExited
    averageExitPrice :=
      if 0 < totalExited then
        match pos.averageExitPrice with
        | some average => some (
            average * ((wrappingSub64 totalExited exitAmount : ℕ) / (totalExited : ℚ)) +
            effectiveExitPrice * (exitAmount / (totalExited : ℚ)))
        | none => some effectiveExitPrice
      else pos.averageExitPrice
    partialExitCount := wrappingSucc32 pos.partialExitCount
    solReceived := some (pos.solReceived.getD 0 + solReceived) }

/-- A verified add: what is held grows, and the average follows it. Source: `DcaVerified` -/
def Position.dcaVerified (decimals tokensBought : ℕ) (solSpent : ℚ) (dcaTime : DateTime) :
    Position :=
  let remaining :=
    match pos.remainingTokenAmount with
    | some remaining => wrappingAdd64 remaining tokensBought
    | none => tokensBought
  let totalSizeSol := pos.totalSizeSol + solSpent
  { pos with
    remainingTokenAmount := some remaining
    totalSizeSol := totalSizeSol
    averageEntryPrice :=
      if 0 < remaining ∧ 0 < totalSizeSol then totalSizeSol / uiTokenAmount remaining decimals
      else pos.averageEntryPrice
    dcaCount := wrappingSucc32 pos.dcaCount
    lastDcaTime := some dcaTime }

/-- A price tick. Source: `UpdatePriceTracking` -/
def Position.priced (currentPrice : ℚ) (highest lowest : Option ℚ) (now : DateTime) : Position :=
  { pos with
    currentPrice := some currentPrice
    currentPriceUpdated := some now
    priceHighest := highest.getD pos.priceHighest
    priceLowest := lowest.getD pos.priceLowest }

/-- An open position, a close in flight included. Source: `state.rs`, `is_position_open` -/
def Position.isOpen (position : Position) : Bool :=
  !position.archived && position.positionType == "buy" && position.exitTime.isNone &&
    (position.exitTransactionSignature.isNone || !position.transactionExitVerified)

end Dripline.Positions

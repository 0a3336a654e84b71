import Dripline.Positions.Transition

/-!
# Applying transitions

`positions/apply.rs`, `apply_transition`, over the rows in memory and the entry and exit records.
Everything the database answers is an argument.

A source without a file is in `apply.rs`.
-/

namespace Dripline.Positions

/-! ## The store -/

/-- A row of `position_entries`. Source: `database/convenience.rs`, `save_entry_record` -/
structure EntryRecord where
  positionId : ℤ
  timestamp : DateTime
  amount : ℕ
  price : ℚ
  solSpent : ℚ
  transactionSignature : String
  isDca : Bool
  feesLamports : Option ℕ

/-- A row of `position_exits`. Source: `database/convenience.rs`, `save_exit_record` -/
structure ExitRecord where
  positionId : ℤ
  timestamp : DateTime
  amount : ℕ
  price : ℚ
  solReceived : ℚ
  transactionSignature : String
  isPartial : Bool
  percentage : ℚ
  feesLamports : Option ℕ

/-- The rows in memory, the records, and what the loss limiter was told. -/
structure Store where
  positions : List Position
  entries : List EntryRecord
  exits : List ExitRecord
  losses : List ℚ

/-- What the database answers during one transition; an error carries its text. The pending mark of
a swap is written back only when there is one. -/
structure Answers where
  exitLookup : Bool
  rowWrite : Except String Unit
  recordWrite : Bool
  pendingWrite : Except String Unit
  decimals : String → Option ℕ
  now : DateTime

/-- A database that answers everything, and knows no decimals. -/
def Answers.willing (now : DateTime) : Answers := ⟨true, .ok (), true, .ok (), fun _ => none, now⟩

/-- Source: `ApplyEffects` -/
structure ApplyEffects where
  dbUpdated : Bool
  positionRemoved : Bool
  positionClosed : Bool

/-- No effect. -/
def ApplyEffects.none : ApplyEffects := ⟨false, false, false⟩

/-- Source: `positions/error.rs`, the errors of `apply_transition` -/
inductive ApplyError
  | notFoundById (positionId : ℤ)
  | transitionFailed (transition mint detail : String)

namespace Store

variable (store : Store)

/-- The row of an id. -/
def isRow (positionId : ℤ) (position : Position) : Bool := position.id == some positionId

/-- Source: `state.rs`, `get_position_by_id` -/
def get (positionId : ℤ) : Option Position := store.positions.find? (isRow positionId)

/-- The first row that satisfies a test is written. -/
def updateFirst (test : Position → Bool) (updater : Position → Position) :
    List Position → List Position
  | [] => []
  | position :: positions =>
    if test position then updater position :: positions
    else position :: updateFirst test updater positions

/-- Source: `state.rs`, `update_position_state_by_id` -/
def update (positionId : ℤ) (updater : Position → Position) : Store :=
  { store with positions := updateFirst (isRow positionId) updater store.positions }

/-- Source: `state.rs`, `update_position_state` -/
def updateMint (mint : String) (updater : Position → Position) : Store :=
  { store with positions := updateFirst (·.mint == mint) updater store.positions }

/-- Source: `state.rs`, `get_position_by_mint` -/
def getByMint (mint : String) : Option Position :=
  store.positions.find? fun position => position.mint == mint && position.isOpen

/-- Source: `state.rs`, `remove_position` -/
def removeMint (mint : String) : Store :=
  { store with positions := store.positions.eraseP (·.mint == mint) }

/-- Source: `database/convenience.rs` -/
def exitRecordExists (positionId : ℤ) (signature : String) : Bool :=
  store.exits.any fun record =>
    record.positionId == positionId && record.transactionSignature == signature

/-- One swap, one record. Source: `database/convenience.rs`, `save_exit_record` -/
def saveExit (record : ExitRecord) : Store :=
  if store.exitRecordExists record.positionId record.transactionSignature then store
  else { store with exits := store.exits ++ [record] }

/-- Source: `database/convenience.rs`, `save_entry_record` -/
def saveEntry (record : EntryRecord) : Store :=
  if store.entries.any fun r => r.positionId == record.positionId &&
      r.transactionSignature == record.transactionSignature then store
  else { store with entries := store.entries ++ [record] }

/-- A loss is handed to the loss limiter. Source: `loss_limit::record_realized_loss` -/
def recordLoss (pnl : ℚ) : Store := { store with losses := store.losses ++ [|pnl|] }

/-! ### The row of an id -/

lemma find?_updateFirst {test : Position → Bool} {updater : Position → Position}
    (hkeeps : ∀ position, test (updater position) = test position) (positions : List Position) :
    (updateFirst test updater positions).find? test = (positions.find? test).map updater := by
  induction positions with
  | nil => rfl
  | cons position positions ih =>
    unfold updateFirst
    cases htest : test position with
    | true =>
      rw [if_pos rfl, List.find?_cons_of_pos ((hkeeps position).trans htest),
        List.find?_cons_of_pos htest]
      rfl
    | false =>
      rw [if_neg Bool.false_ne_true, List.find?_cons_of_neg (by simp [htest]),
        List.find?_cons_of_neg (by simp [htest]), ih]

variable {store}

lemma get_update {positionId : ℤ} {row : Position} (updater : Position → Position)
    (hkeeps : ∀ position, (updater position).id = position.id)
    (hrow : store.get positionId = some row) :
    (store.update positionId updater).get positionId = some (updater row) := by
  have hfound := @find?_updateFirst (isRow positionId) updater
    (fun position => by unfold isRow; rw [hkeeps]) store.positions
  unfold get at hrow ⊢
  exact hfound.trans (congrArg (Option.map updater) hrow)

variable (store)

@[simp] lemma get_saveExit (record : ExitRecord) (positionId : ℤ) :
    (store.saveExit record).get positionId = store.get positionId := by
  unfold saveExit
  split <;> rfl

@[simp] lemma get_saveEntry (record : EntryRecord) (positionId : ℤ) :
    (store.saveEntry record).get positionId = store.get positionId := by
  unfold saveEntry
  split <;> rfl

@[simp] lemma get_recordLoss (pnl : ℚ) (positionId : ℤ) :
    (store.recordLoss pnl).get positionId = store.get positionId := rfl

end Store

/-! ## The branches -/

/-- The outcome of one transition. -/
abbrev Applied := Store × Except ApplyError ApplyEffects

/-- A row that could not be written. Source: `transition: "apply"` -/
def writeFailed (position : Position) (detail : String) : ApplyError :=
  .transitionFailed "apply" position.mint detail

section branches

variable (answers : Answers) (store : Store) (positionId : ℤ)

/-- The record of an entry, when it can be written. -/
def recordEntry (record : EntryRecord) : Store :=
  if answers.recordWrite then store.saveEntry record else store

/-- The record of an exit, when it can be written. -/
def recordExit (record : ExitRecord) : Store :=
  if answers.recordWrite then store.saveExit record else store

/-- The loss of a close, unless the row was derived from wallet history: that was no risk the bot
took. Source: `ExitVerified` -/
def recordCloseLoss (position : Position) (pnl : ℚ) : Store :=
  if pnl < 0 ∧ position.isWalletDerived = false then store.recordLoss pnl else store

/-- The unrealized profit of a row that has a price. Source: `PartialExitVerified` -/
def refreshUnrealized (position : Position) : Store :=
  match position.currentPrice with
  | some currentPrice => store.update positionId
      (·.withUnrealizedPnl (calculatePositionPnl answers.decimals position (some currentPrice)))
  | none => store

/-- Source: `EntryVerified` -/
def applyEntryVerified (effectiveEntryPrice : ℚ) (tokenAmountUnits feeLamports : ℕ)
    (solSize : ℚ) : Applied :=
  let store := store.update positionId
    (·.entryVerified effectiveEntryPrice tokenAmountUnits feeLamports solSize)
  match store.get positionId with
  | none => (store, .ok .none)
  | some position =>
    match answers.rowWrite with
    | .error detail => (store, .error (writeFailed position detail))
    | .ok _ =>
      let store :=
        match position.entryTransactionSignature with
        | some signature => recordEntry answers store
            ⟨positionId, position.entryTime, tokenAmountUnits, effectiveEntryPrice, solSize,
              signature, false, some feeLamports⟩
        | none => store
      (store, .ok { ApplyEffects.none with dbUpdated := true })

/-- A close that is booked is not booked again. Source: `ExitVerified` -/
def applyExitVerified (effectiveExitPrice solReceived : ℚ) (feeLamports : ℕ)
    (exitTime : DateTime) : Applied :=
  if (store.get positionId).any (·.transactionExitVerified) then (store, .ok .none)
  else
    let closedAmount := ((store.get positionId).bind (·.remainingTokenAmount)).getD 0
    let store := store.update positionId
      (·.exitVerified effectiveExitPrice solReceived feeLamports exitTime)
    match store.get positionId with
    | none => (store, .ok .none)
    | some position =>
      let pnl := calculatePositionPnl answers.decimals position none
      let store := store.update positionId (·.withPnl pnl)
      let position := position.withPnl pnl
      let store := recordCloseLoss store position pnl.1
      match answers.rowWrite with
      | .error detail => (store, .error (writeFailed position detail))
      | .ok _ =>
        let store :=
          match position.exitTransactionSignature with
          | some signature => recordExit answers store
              ⟨positionId, exitTime, closedAmount, effectiveExitPrice, solReceived, signature,
                false, 100, some feeLamports⟩
          | none => store
        (store, .ok ⟨true, false, true⟩)

/-- Source: `ExitFailedClearForRetry` -/
def applyExitFailedClearForRetry : Applied :=
  let store := store.update positionId (·.exitFailed)
  match store.get positionId with
  | none => (store, .ok .none)
  | some position =>
    match answers.rowWrite with
    | .error detail => (store, .error (writeFailed position detail))
    | .ok _ => (store, .ok { ApplyEffects.none with dbUpdated := true })

/-- Source: `ExitPermanentFailureSynthetic` -/
def applyExitSynthetic (exitTime : DateTime) : Applied :=
  match store.get positionId with
  | none => (store, .ok .none)
  | some row =>
    let store := store.update positionId (·.exitSynthetic exitTime)
    let store := if row.writtenOff < 0 then store.recordLoss row.writtenOff else store
    match answers.rowWrite with
    | .error detail => (store, .error (writeFailed (row.exitSynthetic exitTime) detail))
    | .ok _ => (store, .ok ⟨true, false, true⟩)

/-- The orphan is removed by its mint. Source: `RemoveOrphanEntry` -/
def applyRemoveOrphanEntry : Applied :=
  match store.get positionId with
  | none => (store, .ok .none)
  | some position =>
    (store.removeMint position.mint, .ok { ApplyEffects.none with positionRemoved := true })

/-- Source: `UpdatePriceTracking` -/
def applyUpdatePriceTracking (mint : String) (currentPrice : ℚ) (highest lowest : Option ℚ) :
    Applied :=
  let updated := store.positions.any (·.mint == mint)
  let store := store.updateMint mint (·.priced currentPrice highest lowest answers.now)
  let written := match answers.rowWrite with
    | .ok _ => true
    | .error _ => false
  (store, .ok { ApplyEffects.none with
    dbUpdated := updated && (store.getByMint mint).any (·.id.isSome) && written })

/-- The pending mark of a swap that is confirmed but could not be cleared. -/
def clearFailed (transition what signature : String) (position : Position) (detail : String) :
    ApplyError :=
  .transitionFailed transition position.mint
    ("failed to clear pending " ++ what ++ " " ++ signature ++ " for position " ++
      toString positionId ++ ": " ++ detail)

/-- One swap is booked once: the exit record is the token. Source: `PartialExitVerified` -/
def applyPartialExitVerified (exitAmount : ℕ) (solReceived effectiveExitPrice : ℚ)
    (feeLamports : ℕ) (exitTime : DateTime) (exitSignature : String) (exitPercentage : ℚ) :
    Applied :=
  if answers.exitLookup && store.exitRecordExists positionId exitSignature then
    (store, .ok .none)
  else
    let store := store.update positionId
      (·.partialExitVerified exitAmount solReceived effectiveExitPrice)
    match store.get positionId with
    | none => (store, .ok .none)
    | some position =>
      let store := refreshUnrealized answers store positionId position
      match answers.rowWrite with
      | .error detail => (store, .error (writeFailed position detail))
      | .ok _ =>
        let store := recordExit answers store
          ⟨positionId, exitTime, exitAmount, effectiveExitPrice, solReceived, exitSignature,
            true, exitPercentage, some feeLamports⟩
        match answers.pendingWrite with
        | .error detail =>
          (store, .error
            (clearFailed positionId "partial_exit" "partial exit" exitSignature position
              detail))
        | .ok _ => (store, .ok { ApplyEffects.none with dbUpdated := true })

/-- Source: `DcaVerified` -/
def applyDcaVerified (tokensBought : ℕ) (solSpent effectivePrice : ℚ) (feeLamports : ℕ)
    (dcaTime : DateTime) (dcaSignature : String) : Applied :=
  match store.get positionId with
  | none => (store, .error (.notFoundById positionId))
  | some row =>
    let decimals := (answers.decimals row.mint).getD 9
    let store := store.update positionId (·.dcaVerified decimals tokensBought solSpent dcaTime)
    match answers.rowWrite with
    | .error detail => (store, .error (writeFailed row detail))
    | .ok _ =>
      let store := recordEntry answers store
        ⟨positionId, dcaTime, tokensBought, effectivePrice, solSpent, dcaSignature, true,
          some feeLamports⟩
      match answers.pendingWrite with
      | .error detail =>
        (store, .error (clearFailed positionId "dca" "DCA" dcaSignature row detail))
      | .ok _ => (store, .ok { ApplyEffects.none with dbUpdated := true })

/-- A failed add leaves the row alone. Source: `DcaFailed` -/
def applyDcaFailed (dcaSignature : String) : Applied :=
  match answers.pendingWrite with
  | .error detail =>
    (store, .error (.transitionFailed "dca" (((store.get positionId).map (·.mint)).getD "")
      ("failed to clear pending DCA " ++ dcaSignature ++ " after failure: " ++ detail)))
  | .ok _ => (store, .ok .none)

end branches

/-- Apply a transition to the rows and the records. `again` are the answers to the second half of a
residual exit. Source: `apply_transition` -/
def applyTransition (answers again : Answers) (store : Store) : PositionTransition → Applied
  | .entryVerified id price amount fee size =>
    applyEntryVerified answers store id price amount fee size
  | .exitVerified id price received fee time =>
    applyExitVerified answers store id price received fee time
  | .exitFailedClearForRetry id => applyExitFailedClearForRetry answers store id
  | .exitPermanentFailureSynthetic id time => applyExitSynthetic answers store id time
  | .removeOrphanEntry id => applyRemoveOrphanEntry store id
  | .updatePriceTracking mint price highest lowest =>
    applyUpdatePriceTracking answers store mint price highest lowest
  | .partialExitSubmitted .. => (store, .ok .none)
  | .partialExitVerified id amount received price fee time signature percentage =>
    applyPartialExitVerified answers store id amount received price fee time signature percentage
  | .partialExitFailed .. => (store, .ok .none)
  | .exitResidualClearForRetry id amount received price fee time signature percentage =>
    -- the fill is booked as a partial exit, then the close is cleared for a retry
    match applyPartialExitVerified answers store id amount received price fee time signature
        percentage with
    | (store, .error e) => (store, .error e)
    | (store, .ok _) =>
      match applyExitFailedClearForRetry again store id with
      | (store, .error e) => (store, .error e)
      | (store, .ok cleared) =>
        (store, .ok { ApplyEffects.none with dbUpdated := cleared.dbUpdated })
  | .dcaSubmitted .. => (store, .ok .none)
  | .dcaVerified id tokens spent price fee time signature =>
    applyDcaVerified answers store id tokens spent price fee time signature
  | .dcaFailed id signature _ => applyDcaFailed answers store id signature

/-- A transition, and what the database answers; `again` answers the second half of a residual
exit. -/
structure Delivered where
  transition : PositionTransition
  answers : Answers
  again : Answers

end Dripline.Positions

import Dripline.Positions.Apply

/-!
# The row of an id after a transition

What each branch of `apply_transition` leaves in the row of its id, whatever the database answers
afterwards: the row is written in memory first.
-/

namespace Dripline.Positions

/-! ## Rows written -/

section rows

variable (decimals : String → Option ℕ) (position : Position)

/-- The unrealized profit follows the price the row has. Source: `apply.rs`,
`PartialExitVerified` -/
def Position.refreshed : Position :=
  match position.currentPrice with
  | some currentPrice =>
    position.withUnrealizedPnl (calculatePositionPnl decimals position (some currentPrice))
  | none => position

/-- The row of a verified close, with its profit. Source: `apply.rs`, `ExitVerified` -/
def Position.closedBy (effectiveExitPrice solReceived : ℚ) (feeLamports : ℕ)
    (exitTime : DateTime) : Position :=
  let closed := position.exitVerified effectiveExitPrice solReceived feeLamports exitTime
  closed.withPnl (calculatePositionPnl decimals closed none)

/-- The row of a verified partial exit, with its unrealized profit. Source: `apply.rs`,
`PartialExitVerified` -/
def Position.soldBy (exitAmount : ℕ) (solReceived effectiveExitPrice : ℚ) : Position :=
  (position.partialExitVerified exitAmount solReceived effectiveExitPrice).refreshed decimals

/-- The row of a verified add. Source: `apply.rs`, `DcaVerified` -/
def Position.addedBy (tokensBought : ℕ) (solSpent : ℚ) (dcaTime : DateTime) : Position :=
  position.dcaVerified ((decimals position.mint).getD 9) tokensBought solSpent dcaTime

lemma Position.refreshed_field {α : Type*} (field : Position → α)
    (hkeeps : ∀ position pnl, field (position.withUnrealizedPnl pnl) = field position) :
    field (position.refreshed decimals) = field position := by
  unfold Position.refreshed
  cases position.currentPrice with
  | some price => exact hkeeps position _
  | none => rfl

lemma Position.soldBy_field {α : Type*} (field : Position → α)
    (hkeeps : ∀ position pnl, field (position.withUnrealizedPnl pnl) = field position) (amount : ℕ)
    (received price : ℚ) :
    field (position.soldBy decimals amount received price) =
      field (position.partialExitVerified amount received price) :=
  (position.partialExitVerified amount received price).refreshed_field decimals field hkeeps

lemma Position.partialExitCount_soldBy (amount : ℕ) (received price : ℚ) :
    (position.soldBy decimals amount received price).partialExitCount =
      wrappingSucc32 position.partialExitCount :=
  position.soldBy_field decimals (·.partialExitCount) (fun _ _ => rfl) amount received price

end rows

/-! ## The row of the id -/

namespace Store

variable {store : Store} {positionId : ℤ}

lemma updateFirst_of_find?_none {test : Position → Bool} (updater : Position → Position)
    {positions : List Position} (hnone : positions.find? test = none) :
    updateFirst test updater positions = positions := by
  induction positions with
  | nil => rfl
  | cons position positions ih =>
    have htest := List.find?_eq_none.mp hnone position List.mem_cons_self
    rw [List.find?_cons_of_neg htest] at hnone
    unfold updateFirst
    rw [if_neg htest, ih hnone]

lemma update_of_none (updater : Position → Position) (hrow : store.get positionId = none) :
    store.update positionId updater = store := by
  unfold update
  rw [updateFirst_of_find?_none updater hrow]

lemma find?_updateFirst_of_ne {test other : Position → Bool} {updater : Position → Position}
    (hother : ∀ position, test position = true → other position = false)
    (hwritten : ∀ position, test position = true → other (updater position) = false)
    (positions : List Position) :
    (updateFirst test updater positions).find? other = positions.find? other := by
  induction positions with
  | nil => rfl
  | cons position positions ih =>
    unfold updateFirst
    cases htest : test position with
    | true =>
      rw [if_pos rfl, List.find?_cons_of_neg (by simp [hwritten position htest]),
        List.find?_cons_of_neg (by simp [hother position htest])]
    | false =>
      rw [if_neg Bool.false_ne_true]
      cases hfound : other position with
      | true => rw [List.find?_cons_of_pos hfound, List.find?_cons_of_pos hfound]
      | false =>
        rw [List.find?_cons_of_neg (by simp [hfound]),
          List.find?_cons_of_neg (by simp [hfound]), ih]

lemma get_update_of_ne {positionId' : ℤ} (hne : positionId ≠ positionId')
    (updater : Position → Position) (hkeeps : ∀ position, (updater position).id = position.id) :
    (store.update positionId updater).get positionId' = store.get positionId' := by
  refine find?_updateFirst_of_ne ?_ ?_ store.positions
  · intro position hposition
    simpa [isRow, beq_iff_eq.mp hposition] using hne
  · intro position hposition
    simpa [isRow, hkeeps, beq_iff_eq.mp hposition] using hne

end Store

section branches

variable (answers : Answers) {store : Store} {positionId : ℤ} {row : Position}

@[simp] lemma get_recordEntry (record : EntryRecord) (id : ℤ) :
    (recordEntry answers store record).get id = store.get id := by
  unfold recordEntry
  split
  · exact Store.get_saveEntry store record id
  · rfl

@[simp] lemma get_recordExit (record : ExitRecord) (id : ℤ) :
    (recordExit answers store record).get id = store.get id := by
  unfold recordExit
  split
  · exact Store.get_saveExit store record id
  · rfl

@[simp] lemma get_recordCloseLoss (position : Position) (pnl : ℚ) (id : ℤ) :
    (recordCloseLoss store position pnl).get id = store.get id := by
  unfold recordCloseLoss
  split
  · exact Store.get_recordLoss store pnl id
  · rfl

lemma get_refreshUnrealized (hrow : store.get positionId = some row) :
    (refreshUnrealized answers store positionId row).get positionId =
      some (row.refreshed answers.decimals) := by
  unfold refreshUnrealized Position.refreshed
  cases row.currentPrice with
  | none => exact hrow
  | some price => exact Store.get_update (·.withUnrealizedPnl _) (fun _ => rfl) hrow

section

variable (hrow : store.get positionId = none)
include hrow

lemma applyEntryVerified_of_none (price : ℚ) (amount fee : ℕ) (size : ℚ) :
    applyEntryVerified answers store positionId price amount fee size = (store, .ok .none) := by
  simp only [applyEntryVerified, Store.update_of_none _ hrow, hrow]

lemma applyExitVerified_of_none (price received : ℚ) (fee : ℕ) (time : DateTime) :
    applyExitVerified answers store positionId price received fee time = (store, .ok .none) := by
  simp [applyExitVerified, Store.update_of_none _ hrow, hrow]

lemma applyPartialExitVerified_of_none (amount : ℕ) (received price : ℚ) (fee : ℕ) (time : DateTime)
    (signature : String) (percentage : ℚ) :
    applyPartialExitVerified answers store positionId amount received price fee time signature
      percentage = (store, .ok .none) := by
  simp [applyPartialExitVerified, Store.update_of_none _ hrow, hrow]

lemma applyDcaVerified_of_none (tokens : ℕ) (spent price : ℚ) (fee : ℕ) (time : DateTime)
    (signature : String) :
    applyDcaVerified answers store positionId tokens spent price fee time signature =
      (store, .error (.notFoundById positionId)) := by
  simp only [applyDcaVerified, hrow]

end

lemma applyTransition_of_none {transition : PositionTransition}
    (hverified : transition.isVerifiedSwap = true) (hid : transition.positionId = some positionId)
    (hrow : store.get positionId = none) :
    ∃ result, ∀ answers again, applyTransition answers again store transition = (store, result) := by
  cases transition with
  | entryVerified id price amount fee size =>
    obtain rfl := Option.some.inj hid
    exact ⟨_, fun answers _ => applyEntryVerified_of_none answers hrow price amount fee size⟩
  | exitVerified id price received fee time =>
    obtain rfl := Option.some.inj hid
    exact ⟨_, fun answers _ => applyExitVerified_of_none answers hrow price received fee time⟩
  | partialExitVerified id amount received price fee time signature percentage =>
    obtain rfl := Option.some.inj hid
    exact ⟨_, fun answers _ => applyPartialExitVerified_of_none answers hrow amount received price
      fee time signature percentage⟩
  | dcaVerified id tokens spent price fee time signature =>
    obtain rfl := Option.some.inj hid
    exact ⟨_, fun answers _ => applyDcaVerified_of_none answers hrow tokens spent price fee time
      signature⟩
  | _ => cases hverified

section

variable (hrow : store.get positionId = some row)
include hrow

lemma get_applyEntryVerified (price : ℚ) (amount fee : ℕ) (size : ℚ) :
    (applyEntryVerified answers store positionId price amount fee size).1.get positionId =
      some (row.entryVerified price amount fee size) := by
  have hget := Store.get_update (·.entryVerified price amount fee size) (fun _ => rfl) hrow
  unfold applyEntryVerified
  dsimp only
  rw [hget]
  dsimp only
  cases answers.rowWrite with
  | error detail => exact hget
  | ok _ =>
    cases (row.entryVerified price amount fee size).entryTransactionSignature with
    | none => exact hget
    | some signature => exact (get_recordEntry answers _ positionId).trans hget

lemma applyExitVerified_of_verified (hverified : row.transactionExitVerified = true)
    (price received : ℚ) (fee : ℕ) (time : DateTime) :
    applyExitVerified answers store positionId price received fee time = (store, .ok .none) := by
  unfold applyExitVerified
  simp [hrow, hverified]

lemma get_applyExitVerified (hnew : row.transactionExitVerified = false) (price received : ℚ)
    (fee : ℕ) (time : DateTime) :
    (applyExitVerified answers store positionId price received fee time).1.get positionId =
      some (row.closedBy answers.decimals price received fee time) := by
  have hget := Store.get_update (·.exitVerified price received fee time) (fun _ => rfl) hrow
  have hunverified : (store.get positionId).any (·.transactionExitVerified) = false := by
    rw [hrow]
    exact hnew
  unfold applyExitVerified Position.closedBy
  rw [hunverified]
  simp only [Bool.false_eq_true, if_false, hget]
  generalize calculatePositionPnl answers.decimals (row.exitVerified price received fee time)
    none = pnl
  have hclosed := Store.get_update (·.withPnl pnl) (fun _ => rfl) hget
  cases answers.rowWrite with
  | error detail => exact (get_recordCloseLoss _ _ positionId).trans hclosed
  | ok _ =>
    cases ((row.exitVerified price received fee time).withPnl pnl).exitTransactionSignature with
    | none => exact (get_recordCloseLoss _ _ positionId).trans hclosed
    | some signature =>
      exact (get_recordExit answers _ positionId).trans
        ((get_recordCloseLoss _ _ positionId).trans hclosed)

lemma get_applyExitFailedClearForRetry :
    (applyExitFailedClearForRetry answers store positionId).1.get positionId =
      some row.exitFailed := by
  have hget := Store.get_update (·.exitFailed) (fun _ => rfl) hrow
  unfold applyExitFailedClearForRetry
  dsimp only
  rw [hget]
  dsimp only
  cases answers.rowWrite with
  | error detail => exact hget
  | ok _ => exact hget

lemma get_applyExitSynthetic (time : DateTime) :
    (applyExitSynthetic answers store positionId time).1.get positionId =
      some (row.exitSynthetic time) := by
  have hget := Store.get_update (·.exitSynthetic time) (fun _ => rfl) hrow
  have hwritten : (if row.writtenOff < 0 then
      (store.update positionId (·.exitSynthetic time)).recordLoss row.writtenOff
      else store.update positionId (·.exitSynthetic time)).get positionId =
      some (row.exitSynthetic time) := by
    split
    · exact hget
    · exact hget
  unfold applyExitSynthetic
  rw [hrow]
  dsimp only
  cases answers.rowWrite with
  | error detail | ok _ => exact hwritten

end

variable {signature : String}

lemma applyPartialExitVerified_of_recorded
    (hrecorded : (answers.exitLookup && store.exitRecordExists positionId signature) = true)
    (amount : ℕ) (received price : ℚ) (fee : ℕ) (time : DateTime) (percentage : ℚ) :
    applyPartialExitVerified answers store positionId amount received price fee time signature
      percentage = (store, .ok .none) := by
  unfold applyPartialExitVerified
  rw [if_pos hrecorded]

lemma get_applyPartialExitVerified (hrow : store.get positionId = some row)
    (hnew : (answers.exitLookup && store.exitRecordExists positionId signature) = false)
    (amount : ℕ) (received price : ℚ) (fee : ℕ) (time : DateTime) (percentage : ℚ) :
    (applyPartialExitVerified answers store positionId amount received price fee time signature
      percentage).1.get positionId = some (row.soldBy answers.decimals amount received price) := by
  have hget := get_refreshUnrealized answers
    (Store.get_update (·.partialExitVerified amount received price) (fun _ => rfl) hrow)
  unfold applyPartialExitVerified
  rw [hnew]
  simp only [Bool.false_eq_true, if_false,
    Store.get_update (·.partialExitVerified amount received price) (fun _ => rfl) hrow]
  cases answers.rowWrite with
  | error detail => exact hget
  | ok _ =>
    cases answers.pendingWrite with
    | error detail | ok _ => exact (get_recordExit answers _ positionId).trans hget

lemma get_applyDcaVerified (hrow : store.get positionId = some row) (tokens : ℕ)
    (spent price : ℚ) (fee : ℕ) (time : DateTime) (signature : String) :
    (applyDcaVerified answers store positionId tokens spent price fee time signature).1.get
      positionId = some (row.addedBy answers.decimals tokens spent time) := by
  have hget := Store.get_update
    (·.dcaVerified ((answers.decimals row.mint).getD 9) tokens spent time) (fun _ => rfl) hrow
  unfold applyDcaVerified
  rw [hrow]
  dsimp only
  cases answers.rowWrite with
  | error detail => exact hget
  | ok _ =>
    cases answers.pendingWrite with
    | error detail | ok _ => exact (get_recordEntry answers _ positionId).trans hget

lemma exitRecordExists_recordExit (record : ExitRecord) :
    (recordExit answers store record).exitRecordExists record.positionId
        record.transactionSignature =
      (store.exitRecordExists record.positionId record.transactionSignature ||
        answers.recordWrite) := by
  unfold recordExit Store.saveExit
  cases hrecord : answers.recordWrite with
  | false => rw [if_neg Bool.false_ne_true, Bool.or_false]
  | true =>
    rw [if_pos rfl, Bool.or_true]
    split
    · assumption
    · simp [Store.exitRecordExists]

section

variable (hrow : store.get positionId = some row)
include hrow

lemma exitRecordExists_applyPartialExitVerified
    (hnew : (answers.exitLookup && store.exitRecordExists positionId signature) = false)
    (amount : ℕ) (received price : ℚ) (fee : ℕ) (time : DateTime) (percentage : ℚ) :
    (applyPartialExitVerified answers store positionId amount received price fee time signature
        percentage).1.exitRecordExists positionId signature =
      (store.exitRecordExists positionId signature ||
        (answers.rowWrite.isOk && answers.recordWrite)) := by
  have hkept : ∀ position : Position, (refreshUnrealized answers
      (store.update positionId (·.partialExitVerified amount received price)) positionId
      position).exitRecordExists positionId signature =
      store.exitRecordExists positionId signature := by
    intro position
    unfold refreshUnrealized
    cases position.currentPrice <;> rfl
  unfold applyPartialExitVerified
  rw [hnew]
  simp only [Bool.false_eq_true, if_false,
    Store.get_update (·.partialExitVerified amount received price) (fun _ => rfl) hrow]
  cases answers.rowWrite with
  | error detail => exact (hkept _).trans (Bool.or_false _).symm
  | ok _ =>
    have hrecorded := (exitRecordExists_recordExit answers ⟨positionId, time, amount, price,
      received, signature, true, percentage, some fee⟩).trans
      (congrArg (· || answers.recordWrite) (hkept (row.partialExitVerified amount received price)))
    cases answers.pendingWrite <;> exact hrecorded

/-! ### What it ends in -/

lemma isOk_applyEntryVerified (price : ℚ) (amount fee : ℕ) (size : ℚ) :
    (applyEntryVerified answers store positionId price amount fee size).2.isOk =
      answers.rowWrite.isOk := by
  unfold applyEntryVerified
  dsimp only
  rw [Store.get_update (·.entryVerified price amount fee size) (fun _ => rfl) hrow]
  cases answers.rowWrite <;> rfl

lemma result_applyExitVerified (hnew : row.transactionExitVerified = false) (price received : ℚ)
    (fee : ℕ) (time : DateTime) :
    (applyExitVerified answers store positionId price received fee time).2 =
      match answers.rowWrite with
      | .ok _ => .ok ⟨true, false, true⟩
      | .error detail =>
        .error (writeFailed (row.closedBy answers.decimals price received fee time) detail) := by
  have hget := Store.get_update (·.exitVerified price received fee time) (fun _ => rfl) hrow
  have hunverified : (store.get positionId).any (·.transactionExitVerified) = false := by
    rw [hrow]
    exact hnew
  unfold applyExitVerified
  rw [hunverified]
  simp only [Bool.false_eq_true, if_false, hget]
  cases answers.rowWrite <;> rfl

lemma isOk_applyPartialExitVerified
    (hnew : (answers.exitLookup && store.exitRecordExists positionId signature) = false)
    (amount : ℕ) (received price : ℚ) (fee : ℕ) (time : DateTime) (percentage : ℚ) :
    (applyPartialExitVerified answers store positionId amount received price fee time signature
      percentage).2.isOk = (answers.rowWrite.isOk && answers.pendingWrite.isOk) := by
  unfold applyPartialExitVerified
  rw [hnew]
  simp only [Bool.false_eq_true, if_false,
    Store.get_update (·.partialExitVerified amount received price) (fun _ => rfl) hrow]
  cases answers.rowWrite with
  | error detail => rfl
  | ok _ => cases answers.pendingWrite <;> rfl

lemma isOk_applyDcaVerified (tokens : ℕ) (spent price : ℚ) (fee : ℕ) (time : DateTime)
    (signature : String) :
    (applyDcaVerified answers store positionId tokens spent price fee time signature).2.isOk =
      (answers.rowWrite.isOk && answers.pendingWrite.isOk) := by
  unfold applyDcaVerified
  rw [hrow]
  dsimp only
  cases answers.rowWrite with
  | error detail => rfl
  | ok _ => cases answers.pendingWrite <;> rfl

end

end branches

end Dripline.Positions

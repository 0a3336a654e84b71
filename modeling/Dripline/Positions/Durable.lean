import Dripline.Positions.Outcome
import Dripline.Positions.State

/-!
# The positions in memory and in the database

A transition is applied in memory before its row is written.
-/

namespace Dripline.Positions

/-! ## Rows of the database -/

/-- What a write leaves of a row: who opened it and whether it is archived stay.
Source: `database/operations.rs`, `update_position` -/
def Position.savedOver (position saved : Position) : Position :=
  { position with
    phantomRemove := saved.phantomRemove
    archived := saved.archived
    archivedAt := saved.archivedAt
    origin := saved.origin
    management := saved.management }

/-- Only the prices are written. Source: `database/operations.rs`, `update_position_prices` -/
def Position.pricesSavedOver (position saved : Position) : Position :=
  { saved with
    currentPrice := position.currentPrice
    currentPriceUpdated := position.currentPriceUpdated
    priceHighest := position.priceHighest
    priceLowest := position.priceLowest }

/-- The positions in memory, and the rows of the table by their ids. -/
structure Durable where
  state : State
  rows : ℤ → Option Position

/-- The row a transition writes, unless the swap is booked. Source: `apply.rs`, the calls of
`update_position` in `apply_transition` -/
def Store.writes (store : Store) (answers : Answers) : PositionTransition → Option ℤ
  | .entryVerified id .. | .exitFailedClearForRetry id | .exitPermanentFailureSynthetic id _
  | .dcaVerified id .. => some id
  | .exitVerified id _ _ _ _ =>
    if (store.get id).any (·.transactionExitVerified) then none else some id
  | .partialExitVerified id _ _ _ _ _ signature _ =>
    if answers.exitLookup && store.exitRecordExists id signature then none else some id
  | _ => none

namespace Durable

variable (durable : Durable)

/-- The row in memory is written, if there is one and the database takes it. -/
def save (answers : Answers) (positionId : ℤ) : Durable :=
  match answers.rowWrite, durable.state.store.get positionId with
  | .ok _, some row =>
    { durable with
      rows := Function.update durable.rows positionId
        ((durable.rows positionId).map row.savedOver) }
  | _, _ => durable

/-- A transition with the row it writes. -/
def applyOne (answers : Answers) (transition : PositionTransition) :
    Durable × Except ApplyError ApplyEffects :=
  let applied := durable.state.apply answers answers transition
  let durable' : Durable := ⟨applied.1, durable.rows⟩
  match durable.state.store.writes answers transition with
  | some positionId => (durable'.save answers positionId, applied.2)
  | none => (durable', applied.2)

/-- The prices of the open position of the mint are written.
Source: `apply.rs`, `UpdatePriceTracking` -/
def applyPrice (answers : Answers) (mint : String) (currentPrice : ℚ)
    (highest lowest : Option ℚ) : Durable × Except ApplyError ApplyEffects :=
  let applied := durable.state.apply answers answers
    (.updatePriceTracking mint currentPrice highest lowest)
  let written := match applied.2 with
    | .ok effects => effects.dbUpdated
    | .error _ => false
  let rows :=
    match applied.1.store.getByMint mint with
    | some row =>
      match row.id with
      | some id =>
        if written then
          Function.update durable.rows id ((durable.rows id).map row.pricesSavedOver)
        else durable.rows
      | none => durable.rows
    | none => durable.rows
  (⟨applied.1, rows⟩, applied.2)

/-- Apply a transition to the memory and the table. Source: `apply.rs`, `apply_transition` -/
def apply (answers again : Answers) :
    PositionTransition → Durable × Except ApplyError ApplyEffects
  | .updatePriceTracking mint price highest lowest =>
    durable.applyPrice answers mint price highest lowest
  | .exitResidualClearForRetry id amount received price fee time signature percentage =>
    match durable.applyOne answers
        (.partialExitVerified id amount received price fee time signature percentage) with
    | (durable, .error e) => (durable, .error e)
    | (durable, .ok _) =>
      match durable.applyOne again (.exitFailedClearForRetry id) with
      | (durable, .error e) => (durable, .error e)
      | (durable, .ok cleared) =>
        (durable, .ok { ApplyEffects.none with dbUpdated := cleared.dbUpdated })
  | transition => durable.applyOne answers transition

@[simp] lemma save_state (answers : Answers) (positionId : ℤ) :
    (durable.save answers positionId).state = durable.state := by
  unfold save
  split <;> rfl

lemma applyOne_state (answers : Answers) (transition : PositionTransition) :
    ((durable.applyOne answers transition).1.state, (durable.applyOne answers transition).2) =
      durable.state.apply answers answers transition := by
  unfold applyOne
  dsimp only
  cases durable.state.store.writes answers transition with
  | some positionId => rw [save_state]
  | none => rfl

lemma apply_state (answers again : Answers) (transition : PositionTransition) :
    ((durable.apply answers again transition).1.state,
        (durable.apply answers again transition).2) =
      durable.state.apply answers again transition := by
  cases transition with
  | exitResidualClearForRetry id amount received price fee time signature percentage =>
    have hsold : ((durable.applyOne answers (.partialExitVerified id amount received price fee
        time signature percentage)).1.state, (durable.applyOne answers (.partialExitVerified id
        amount received price fee time signature percentage)).2) =
        durable.state.withApplied (applyPartialExitVerified answers durable.state.store id amount
          received price fee time signature percentage) := durable.applyOne_state answers _
    unfold apply State.apply
    dsimp only
    -- the fill first
    generalize durable.applyOne answers (.partialExitVerified id amount received price fee time
      signature percentage) = sold at hsold
    generalize applyPartialExitVerified answers durable.state.store id amount received price fee
      time signature percentage = applied at hsold
    obtain ⟨sold, result⟩ := sold
    obtain ⟨store, result'⟩ := applied
    obtain ⟨hstate, rfl⟩ := Prod.mk.inj hsold
    cases result with
    | error e => exact congrArg (·, Except.error e) hstate
    | ok effects =>
      -- then the close is cleared
      have hcleared : ((sold.applyOne again (.exitFailedClearForRetry id)).1.state,
          (sold.applyOne again (.exitFailedClearForRetry id)).2) =
          State.applyExitFailedClearForRetry { durable.state with store := store } again id := by
        rw [← hstate]
        exact sold.applyOne_state again _
      dsimp only
      rw [← hcleared]
      rcases sold.applyOne again (.exitFailedClearForRetry id) with ⟨cleared, effects' | e⟩ <;>
        rfl
  | updatePriceTracking mint price highest lowest => rfl
  | _ => exact durable.applyOne_state answers _

end Durable

/-- The row a verified swap makes of a row. -/
def PositionTransition.written (decimals : String → Option ℕ) :
    PositionTransition → Position → Position
  | .entryVerified _ price amount fee size => (·.entryVerified price amount fee size)
  | .exitVerified _ price received fee time => (·.closedBy decimals price received fee time)
  | .partialExitVerified _ amount received price _ _ _ _ => (·.soldBy decimals amount received price)
  | .dcaVerified _ tokens spent _ _ time _ => (·.addedBy decimals tokens spent time)
  | _ => id

/-- The write that ends a verified swap, after its row: a pending mark, for an add or a partial
exit. -/
def PositionTransition.clears (answers : Answers) : PositionTransition → Bool
  | .partialExitVerified .. | .dcaVerified .. => answers.pendingWrite.isOk
  | _ => true

/-- A verified close. -/
def PositionTransition.isClose : PositionTransition → Bool
  | .exitVerified .. => true
  | _ => false

section written

variable {answers : Answers} {store : Store} {positionId : ℤ} {row : Position}
  {transition : PositionTransition}

variable {time : DateTime} {received price : ℚ} {fee : ℕ}

lemma unverified_of_writes (hrow : store.get positionId = some row)
    (hwrites : store.writes answers (.exitVerified positionId price received fee time) =
      some positionId) :
    row.transactionExitVerified = false := by
  simp only [Store.writes, hrow] at hwrites
  cases hverified : row.transactionExitVerified with
  | false => rfl
  | true =>
    rw [if_pos (by simpa using hverified)] at hwrites
    cases hwrites

lemma writes_partialExitVerified (amount : ℕ) (received price : ℚ) (fee : ℕ) (time : DateTime)
    (signature : String) (percentage : ℚ) :
    store.writes answers (.partialExitVerified positionId amount received price fee time signature
        percentage) =
      bif answers.exitLookup && store.exitRecordExists positionId signature then none
      else some positionId := by
  simp only [Store.writes]
  cases answers.exitLookup && store.exitRecordExists positionId signature <;> rfl

lemma unrecorded_of_writes {amount : ℕ} {signature : String} {percentage : ℚ}
    (hwrites : store.writes answers (.partialExitVerified positionId amount received price fee time
      signature percentage) = some positionId) :
    (answers.exitLookup && store.exitRecordExists positionId signature) = false := by
  rw [writes_partialExitVerified] at hwrites
  cases hrecorded : answers.exitLookup && store.exitRecordExists positionId signature with
  | false => rfl
  | true =>
    rw [hrecorded] at hwrites
    cases hwrites

lemma written_of_writes {written : ℤ} (hid : transition.positionId = some positionId)
    (hwrites : store.writes answers transition = some written) : written = positionId := by
  cases transition with
  | exitVerified | partialExitVerified =>
    simp only [Store.writes] at hwrites
    exact Option.some.inj ((Option.ite_none_left_eq_some.mp hwrites).2.symm.trans hid)
  | _ => first | exact Option.some.inj (hwrites.symm.trans hid) | cases hwrites

lemma get_applyTransition_written (again : Answers) (hverified : transition.isVerifiedSwap = true)
    (hid : transition.positionId = some positionId) (hrow : store.get positionId = some row)
    (hwrites : store.writes answers transition = some positionId) :
    (applyTransition answers again store transition).1.get positionId =
      some (transition.written answers.decimals row) := by
  cases transition with
  | entryVerified id price amount fee size =>
    obtain rfl := Option.some.inj hid
    exact get_applyEntryVerified answers hrow price amount fee size
  | exitVerified id price received fee time =>
    obtain rfl := Option.some.inj hid
    exact get_applyExitVerified answers hrow (unverified_of_writes hrow hwrites) price received
      fee time
  | partialExitVerified id amount received price fee time signature percentage =>
    obtain rfl := Option.some.inj hid
    exact get_applyPartialExitVerified answers hrow (unrecorded_of_writes hwrites) amount received
      price fee time percentage
  | dcaVerified id tokens spent price fee time signature =>
    obtain rfl := Option.some.inj hid
    exact get_applyDcaVerified answers hrow tokens spent price fee time signature
  | _ => cases hverified

lemma isOk_applyTransition (again : Answers) (hverified : transition.isVerifiedSwap = true)
    (hid : transition.positionId = some positionId) (hrow : store.get positionId = some row)
    (hwrites : store.writes answers transition = some positionId) :
    (applyTransition answers again store transition).2.isOk =
      (answers.rowWrite.isOk && transition.clears answers) := by
  cases transition with
  | entryVerified id price amount fee size =>
    obtain rfl := Option.some.inj hid
    exact (isOk_applyEntryVerified answers hrow price amount fee size).trans
      (Bool.and_true _).symm
  | exitVerified id price received fee time =>
    obtain rfl := Option.some.inj hid
    show (applyExitVerified answers store id price received fee time).2.isOk = _
    rw [result_applyExitVerified answers hrow (unverified_of_writes hrow hwrites)]
    cases hwrite : answers.rowWrite with
    | ok _ => rfl
    | error detail => rfl
  | partialExitVerified id amount received price fee time signature percentage =>
    obtain rfl := Option.some.inj hid
    exact isOk_applyPartialExitVerified answers hrow (unrecorded_of_writes hwrites) amount
      received price fee time percentage
  | dcaVerified id tokens spent price fee time signature =>
    obtain rfl := Option.some.inj hid
    exact isOk_applyDcaVerified answers hrow tokens spent price fee time signature
  | _ => cases hverified

end written

namespace Durable

variable {durable : Durable} {answers : Answers} {transition : PositionTransition} {positionId : ℤ}

/-- What one attempt makes of a row that is there, when the swap is not booked yet. -/
structure Books (durable : Durable) (answers : Answers) (transition : PositionTransition)
    (positionId : ℤ) (row : Position) : Prop where
  inMemory : (durable.apply answers answers transition).1.state.store.get positionId =
    some (transition.written answers.decimals row)
  inTable : (durable.apply answers answers transition).1.rows positionId =
    if answers.rowWrite.isOk then
      (durable.rows positionId).map (transition.written answers.decimals row).savedOver
    else durable.rows positionId
  slots : (durable.apply answers answers transition).1.state.slots =
    if transition.isClose && answers.rowWrite.isOk then durable.state.slots.release positionId
    else durable.state.slots
  result : (durable.apply answers answers transition).2.isOk =
    (answers.rowWrite.isOk && transition.clears answers)

lemma apply_eq_applyOne (hverified : transition.isVerifiedSwap = true) :
    durable.apply answers answers transition = durable.applyOne answers transition := by
  cases transition with
  | entryVerified => rfl
  | exitVerified => rfl
  | partialExitVerified => rfl
  | dcaVerified => rfl
  | _ => cases hverified

lemma store_apply : (durable.apply answers answers transition).1.state.store =
    (applyTransition answers answers durable.state.store transition).1 :=
  (congrArg (fun applied => applied.1.store) (durable.apply_state answers answers transition)).trans
    (congrArg Prod.fst (durable.state.apply_store answers answers transition))

lemma result_apply : (durable.apply answers answers transition).2 =
    (applyTransition answers answers durable.state.store transition).2 :=
  (congrArg Prod.snd (durable.apply_state answers answers transition)).trans
    (congrArg Prod.snd (durable.state.apply_store answers answers transition))

lemma save_of_none (answers : Answers) (hrow : durable.state.store.get positionId = none) :
    durable.save answers positionId = durable := by
  unfold save
  rw [hrow]
  cases answers.rowWrite <;> rfl

variable {row : Position}

lemma rows_save (hrow : durable.state.store.get positionId = some row) :
    (durable.save answers positionId).rows positionId =
      if answers.rowWrite.isOk then (durable.rows positionId).map row.savedOver
      else durable.rows positionId := by
  unfold save
  rw [hrow]
  cases answers.rowWrite with
  | ok _ => exact Function.update_self _ _ _
  | error detail => rfl

lemma applyOne_of_same {result : Except ApplyError ApplyEffects}
    (hsame : durable.state.apply answers answers transition = (durable.state, result))
    (hnone : ∀ positionId, durable.state.store.writes answers transition = some positionId →
      durable.state.store.get positionId = none) :
    durable.applyOne answers transition = (durable, result) := by
  unfold applyOne
  rw [hsame]
  cases hwrites : durable.state.store.writes answers transition with
  | none => rfl
  | some positionId =>
    have hsave := save_of_none answers (hnone positionId hwrites)
    simp only [hsave]

lemma apply_absent (answers : Answers) (transition : PositionTransition)
    (hverified : transition.isVerifiedSwap = true) (hid : transition.positionId = some positionId)
    (hrow : durable.state.store.get positionId = none) :
    (durable.apply answers answers transition).1 = durable := by
  obtain ⟨result, hsame⟩ : ∃ result, durable.state.apply answers answers transition =
      (durable.state, result) := by
    cases transition with
    | entryVerified id price amount fee size =>
      obtain rfl := Option.some.inj hid
      exact ⟨_, congrArg durable.state.withApplied
        (applyEntryVerified_of_none answers hrow price amount fee size)⟩
    | exitVerified id price received fee time =>
      obtain rfl := Option.some.inj hid
      exact ⟨_, congrArg (durable.state.withClosed id)
        (applyExitVerified_of_none answers hrow price received fee time)⟩
    | partialExitVerified id amount received price fee time signature percentage =>
      obtain rfl := Option.some.inj hid
      exact ⟨_, congrArg durable.state.withApplied (applyPartialExitVerified_of_none answers hrow
        amount received price fee time signature percentage)⟩
    | dcaVerified id tokens spent price fee time signature =>
      obtain rfl := Option.some.inj hid
      exact ⟨_, congrArg durable.state.withApplied (applyDcaVerified_of_none answers hrow tokens
        spent price fee time signature)⟩
    | _ => cases hverified
  rw [apply_eq_applyOne hverified, applyOne_of_same hsame]
  intro written hwrites
  rw [written_of_writes hid hwrites, hrow]

lemma apply_skipped (answers : Answers) (transition : PositionTransition)
    (hverified : transition.isVerifiedSwap = true) (hid : transition.positionId = some positionId)
    (hrow : durable.state.store.get positionId = some row)
    (hskips : durable.state.store.writes answers transition = none) :
    durable.apply answers answers transition = (durable, .ok .none) := by
  have hsame : durable.state.apply answers answers transition = (durable.state, .ok .none) := by
    cases transition with
    | exitVerified id price received fee time =>
      obtain rfl := Option.some.inj hid
      have hbooked : row.transactionExitVerified = true := by
        simpa [Store.writes, hrow] using hskips
      exact congrArg (durable.state.withClosed id)
        (applyExitVerified_of_verified answers hrow hbooked price received fee time)
    | partialExitVerified id amount received price fee time signature percentage =>
      obtain rfl := Option.some.inj hid
      have hrecorded : (answers.exitLookup &&
          durable.state.store.exitRecordExists id signature) = true := by
        simpa [Store.writes] using hskips
      exact congrArg durable.state.withApplied (applyPartialExitVerified_of_recorded answers
        hrecorded amount received price fee time percentage)
    | entryVerified | dcaVerified => cases hskips
    | _ => cases hverified
  rw [apply_eq_applyOne hverified, applyOne_of_same hsame]
  intro written hwrites
  rw [hskips] at hwrites
  cases hwrites

lemma slots_apply (hverified : transition.isVerifiedSwap = true)
    (hid : transition.positionId = some positionId)
    (hrow : durable.state.store.get positionId = some row)
    (hwrites : durable.state.store.writes answers transition = some positionId) :
    (durable.state.apply answers answers transition).1.slots =
      if transition.isClose && answers.rowWrite.isOk then durable.state.slots.release positionId
      else durable.state.slots := by
  cases transition with
  | exitVerified id price received fee time =>
    obtain rfl := Option.some.inj hid
    have hresult := result_applyExitVerified answers hrow (unverified_of_writes hrow hwrites)
      price received fee time
    show (durable.state.withClosed id (applyExitVerified answers durable.state.store id price
      received fee time)).1.slots = _
    generalize applyExitVerified answers durable.state.store id price received fee time = applied
      at hresult
    obtain ⟨store, result⟩ := applied
    obtain rfl := hresult
    cases answers.rowWrite <;> rfl
  | entryVerified => rfl
  | partialExitVerified => rfl
  | dcaVerified => rfl
  | _ => cases hverified

lemma apply_booked (answers : Answers) (transition : PositionTransition)
    (hverified : transition.isVerifiedSwap = true) (hid : transition.positionId = some positionId)
    (hrow : durable.state.store.get positionId = some row)
    (hwrites : durable.state.store.writes answers transition = some positionId) :
    durable.Books answers transition positionId row := by
  have hwritten := get_applyTransition_written answers hverified hid hrow hwrites
  have hmemory : (durable.apply answers answers transition).1.state.store.get positionId =
      some (transition.written answers.decimals row) := by
    rw [store_apply]
    exact hwritten
  constructor
  · exact hmemory
  · rw [apply_eq_applyOne hverified]
    unfold applyOne
    dsimp only
    rw [hwrites]
    refine rows_save ?_
    rw [← hwritten]
    exact congrArg (fun applied => applied.1.get positionId)
      (durable.state.apply_store answers answers transition)
  · rw [← slots_apply hverified hid hrow hwrites]
    exact congrArg (fun applied => applied.1.slots)
      (durable.apply_state answers answers transition)
  · rw [result_apply]
    exact isOk_applyTransition answers hverified hid hrow hwrites

end Durable

end Dripline.Positions

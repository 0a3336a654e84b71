import Dripline.Positions.Durable
import Dripline.Positions.LossFeed

/-!
# What a verification leaves of a row

A transition that settles a swap, when every write succeeds: what it makes of its row in memory and
in the table, and of the two signatures that a start of the process reads off a row.

* `Durable.Settles`, `settles_apply` — a transition with the row it writes.
-/

namespace Dripline.Positions

/-! ## Rows -/

variable (position : Position)

/-- The entry of the row is not verified. Source: `worker.rs`, the loop of
`initialize_positions_system` -/
def Position.entering : Option String :=
  if position.transactionEntryVerified then none else position.entryTransactionSignature

/-- The close of the row is not verified. Source: `worker.rs`, the loop of
`initialize_positions_system` -/
def Position.closing : Option String :=
  if position.transactionExitVerified then none else position.exitTransactionSignature

/-- A row that was closed by a verified exit has the time of it. -/
def Position.Timed : Prop :=
  position.transactionExitVerified = true → position.exitTime.isSome = true

/-- What no transition touches: which trade the row is, and what a write of the table leaves
alone. -/
structure Position.Kept (row after : Position) : Prop where
  id : after.id = row.id
  mint : after.mint = row.mint
  entry : after.entryTransactionSignature = row.entryTransactionSignature
  owned : after.savedOver row = after

/-- The transition ends the close in flight of its row. -/
def PositionTransition.endsClose : PositionTransition → Bool
  | .exitVerified .. | .exitFailedClearForRetry _ | .exitPermanentFailureSynthetic ..
  | .exitResidualClearForRetry .. => true
  | _ => false

/-- The transition ends the entry in flight of its row. -/
def PositionTransition.endsEntry : PositionTransition → Bool
  | .entryVerified .. => true
  | _ => false

/-- What a transition makes of a row, as far as swaps in flight go. -/
structure Position.SettledBy (transition : PositionTransition) (row after : Position) : Prop where
  kept : row.Kept after
  entering : after.entering = if transition.endsEntry then none else row.entering
  closing : after.closing = if transition.endsClose then none else row.closing
  timed : row.Timed → after.Timed

section rows

variable {row after last : Position}

lemma Position.Kept.refl (row : Position) : row.Kept row := ⟨rfl, rfl, rfl, rfl⟩

lemma Position.Kept.trans (h : row.Kept after) (h' : after.Kept last) : row.Kept last where
  id := h'.id.trans h.id
  mint := h'.mint.trans h.mint
  entry := h'.entry.trans h.entry
  owned := by
    have hsame : last.savedOver row = (last.savedOver after).savedOver (after.savedOver row) := rfl
    rw [hsame, h.owned, h'.owned, h'.owned]

lemma Position.kept_refreshed (decimals : String → Option ℕ) (row : Position) :
    row.Kept (row.refreshed decimals) where
  id := row.refreshed_field decimals (·.id) fun _ _ => rfl
  mint := row.refreshed_field decimals (·.mint) fun _ _ => rfl
  entry := row.refreshed_field decimals (·.entryTransactionSignature) fun _ _ => rfl
  owned := by
    unfold Position.refreshed
    split <;> rfl

lemma Position.settledBy_entryVerified (id : ℤ) (price : ℚ) (amount fee : ℕ) (size : ℚ) :
    row.SettledBy (.entryVerified id price amount fee size)
      (row.entryVerified price amount fee size) :=
  ⟨⟨rfl, rfl, rfl, rfl⟩, rfl, rfl, fun h => h⟩

lemma Position.settledBy_exitVerified (decimals : String → Option ℕ) (id : ℤ)
    (price received : ℚ) (fee : ℕ) (time : DateTime) :
    row.SettledBy (.exitVerified id price received fee time)
      (row.closedBy decimals price received fee time) :=
  ⟨⟨rfl, rfl, rfl, rfl⟩, rfl, rfl, fun _ _ => rfl⟩

lemma Position.settledBy_exitVerified_of_verified (hverified : row.transactionExitVerified = true)
    (id : ℤ) (price received : ℚ) (fee : ℕ) (time : DateTime) :
    row.SettledBy (.exitVerified id price received fee time) row :=
  ⟨.refl row, rfl, if_pos hverified, fun h => h⟩

lemma Position.settledBy_exitFailed (id : ℤ) :
    row.SettledBy (.exitFailedClearForRetry id) row.exitFailed :=
  ⟨⟨rfl, rfl, rfl, rfl⟩, rfl, rfl, fun _ h => by cases h⟩

lemma Position.settledBy_exitSynthetic (id : ℤ) (time : DateTime) :
    row.SettledBy (.exitPermanentFailureSynthetic id time) (row.exitSynthetic time) :=
  ⟨⟨rfl, rfl, rfl, rfl⟩, rfl, rfl, fun _ _ => rfl⟩

lemma Position.settledBy_soldBy (decimals : String → Option ℕ) (id : ℤ) (amount : ℕ)
    (received price : ℚ) (fee : ℕ) (time : DateTime) (signature : String) (percentage : ℚ) :
    row.SettledBy (.partialExitVerified id amount received price fee time signature percentage)
      (row.soldBy decimals amount received price) where
  kept := by
    have hsold : row.Kept (row.partialExitVerified amount received price) := ⟨rfl, rfl, rfl, rfl⟩
    exact hsold.trans (Position.kept_refreshed decimals _)
  entering := row.soldBy_field decimals (·.entering) (fun _ _ => rfl) amount received price
  closing := row.soldBy_field decimals (·.closing) (fun _ _ => rfl) amount received price
  timed := by
    have hverified := row.soldBy_field decimals (·.transactionExitVerified) (fun _ _ => rfl) amount
      received price
    have htime := row.soldBy_field decimals (·.exitTime) (fun _ _ => rfl) amount received price
    unfold Position.Timed
    rw [hverified, htime]
    exact fun h => h

lemma Position.settledBy_addedBy (decimals : String → Option ℕ) (id : ℤ) (tokens : ℕ)
    (spent price : ℚ) (fee : ℕ) (time : DateTime) (signature : String) :
    row.SettledBy (.dcaVerified id tokens spent price fee time signature)
      (row.addedBy decimals tokens spent time) :=
  ⟨⟨rfl, rfl, rfl, rfl⟩, rfl, rfl, fun h => h⟩

lemma Position.settledBy_self {transition : PositionTransition}
    (hentry : transition.endsEntry = false) (hclose : transition.endsClose = false) :
    row.SettledBy transition row := by
  refine ⟨.refl row, ?_, ?_, fun h => h⟩
  · rw [hentry]
    rfl
  · rw [hclose]
    rfl

end rows

/-! ## Rows in memory and in the table -/

/-- Every write succeeds. -/
structure Answers.Succeeds (answers : Answers) : Prop where
  row : answers.rowWrite = .ok ()
  recorded : answers.recordWrite = true
  pending : answers.pendingWrite = .ok ()

/-- The row a transition writes; a residual exit is cleared in any case. Source: `apply.rs`, the
calls of `update_position` in `apply_transition` -/
def Store.saves (store : Store) (answers : Answers) : PositionTransition → Option ℤ
  | .exitResidualClearForRetry id .. => some id
  | transition => store.writes answers transition

/-- A transition leaves the other rows alone, and writes its own in memory, and in the table if it
writes it there; otherwise it leaves it alone. -/
structure Durable.Settles (transition : PositionTransition) (positionId : ℤ) (saved : Option ℤ)
    (row : Position) (before after : Durable) (written : Position) : Prop where
  ids : after.state.store.positions.map (·.id) = before.state.store.positions.map (·.id)
  others : ∀ id, positionId ≠ id → after.state.store.get id = before.state.store.get id
  own : after.state.store.get positionId = some written
  settled : row.SettledBy transition written
  table : after.rows =
    if saved = some positionId then
      Function.update before.rows positionId ((before.rows positionId).map written.savedOver)
    else before.rows
  unsaved : saved ≠ some positionId → written = row

section settles

variable {durable : Durable} {answers again : Answers} {transition : PositionTransition}
  {positionId : ℤ} {row written : Position}

lemma Durable.save_rows (hsucceeds : answers.Succeeds)
    (hrow : durable.state.store.get positionId = some row) :
    (durable.save answers positionId).rows =
      Function.update durable.rows positionId ((durable.rows positionId).map row.savedOver) := by
  unfold Durable.save
  rw [hsucceeds.row, hrow]

lemma Durable.settles_applyOne (hsucceeds : answers.Succeeds)
    (hid : transition.positionId = some positionId)
    (horphan : ∀ id, transition ≠ .removeOrphanEntry id)
    (hwrites : durable.state.store.writes answers transition = some positionId)
    (hown : (applyTransition answers answers durable.state.store transition).1.get positionId =
      some written)
    (hsettled : row.SettledBy transition written) :
    Durable.Settles transition positionId (some positionId) row durable
      (durable.applyOne answers transition).1 written := by
  have hstore : (durable.applyOne answers transition).1.state.store =
      (applyTransition answers answers durable.state.store transition).1 :=
    (congrArg (fun applied => applied.1.store) (durable.applyOne_state answers transition)).trans
      (congrArg Prod.fst (durable.state.apply_store answers answers transition))
  obtain ⟨told, hframe⟩ := frame_applyTransition answers answers durable.state.store hid horphan
  refine ⟨?_, ?_, ?_, hsettled, ?_, fun h => absurd rfl h⟩
  · rw [hstore]
    exact hframe.ids
  · rw [hstore]
    exact hframe.others
  · rw [hstore]
    exact hown
  · have happlied : (durable.state.apply answers answers transition).1.store.get positionId =
        some written :=
      (congrArg (fun applied => applied.1.get positionId)
        (durable.state.apply_store answers answers transition)).trans hown
    unfold Durable.applyOne
    dsimp only
    rw [hwrites, if_pos rfl]
    show (Durable.save ⟨_, durable.rows⟩ answers positionId).rows = _
    exact Durable.save_rows hsucceeds happlied

lemma Durable.settles_of_same
    (hwrites : durable.state.store.writes answers transition = none)
    (hsame : (applyTransition answers answers durable.state.store transition).1 =
      durable.state.store)
    (hrow : durable.state.store.get positionId = some row) (hsettled : row.SettledBy transition row) :
    Durable.Settles transition positionId none row durable
      (durable.applyOne answers transition).1 row := by
  have hstore : (durable.applyOne answers transition).1.state.store = durable.state.store :=
    ((congrArg (fun applied => applied.1.store) (durable.applyOne_state answers transition)).trans
      (congrArg Prod.fst (durable.state.apply_store answers answers transition))).trans hsame
  refine ⟨by rw [hstore], fun id _ => by rw [hstore], by rw [hstore, hrow], hsettled, ?_,
    fun _ => rfl⟩
  unfold Durable.applyOne
  rw [hwrites]
  rfl

lemma Durable.settles_partialExit (hsucceeds : answers.Succeeds)
    (hrow : durable.state.store.get positionId = some row) (amount : ℕ) (received price : ℚ)
    (fee : ℕ) (time : DateTime) (signature : String) (percentage : ℚ) :
    ∃ written, Durable.Settles
        (.partialExitVerified positionId amount received price fee time signature percentage)
        positionId (durable.state.store.writes answers
          (.partialExitVerified positionId amount received price fee time signature percentage))
        row durable (durable.applyOne answers (.partialExitVerified positionId amount received price
          fee time signature percentage)).1 written ∧
      (durable.applyOne answers (.partialExitVerified positionId amount received price fee time
        signature percentage)).2.isOk = true := by
  have hresult : (durable.applyOne answers (.partialExitVerified positionId amount received price fee
      time signature percentage)).2 =
      (applyPartialExitVerified answers durable.state.store positionId amount received price fee time
        signature percentage).2 :=
    congrArg Prod.snd ((durable.applyOne_state answers _).trans rfl)
  have hwrites := @writes_partialExitVerified answers durable.state.store positionId amount received
    price fee time signature percentage
  cases hrecorded : answers.exitLookup &&
      durable.state.store.exitRecordExists positionId signature with
  | true =>
    have hsame := applyPartialExitVerified_of_recorded answers hrecorded amount received price fee
      time percentage
    rw [hrecorded, cond_true] at hwrites
    rw [hwrites]
    refine ⟨row, Durable.settles_of_same hwrites ?_ hrow (Position.settledBy_self rfl rfl), ?_⟩
    · exact congrArg Prod.fst hsame
    · rw [hresult, hsame]
      rfl
  | false =>
    rw [hrecorded, cond_false] at hwrites
    rw [hwrites]
    refine ⟨row.soldBy answers.decimals amount received price, ?_, ?_⟩
    · exact Durable.settles_applyOne hsucceeds rfl (fun id h => by cases h) hwrites
        (get_applyPartialExitVerified answers hrow hrecorded amount received price fee time
          percentage)
        (Position.settledBy_soldBy answers.decimals positionId amount received price fee time
          signature percentage)
    · rw [hresult, isOk_applyPartialExitVerified answers hrow hrecorded, hsucceeds.row,
        hsucceeds.pending]
      rfl

lemma Durable.settles_exitFailed (hsucceeds : answers.Succeeds)
    (hrow : durable.state.store.get positionId = some row) :
    Durable.Settles (.exitFailedClearForRetry positionId) positionId (some positionId) row durable
        (durable.applyOne answers (.exitFailedClearForRetry positionId)).1 row.exitFailed ∧
      (durable.applyOne answers (.exitFailedClearForRetry positionId)).2.isOk = true := by
  have hresult : (durable.applyOne answers (.exitFailedClearForRetry positionId)).2 =
      (applyExitFailedClearForRetry answers durable.state.store positionId).2 := rfl
  refine ⟨Durable.settles_applyOne hsucceeds rfl (fun id h => by cases h) rfl
    (get_applyExitFailedClearForRetry answers hrow) (Position.settledBy_exitFailed positionId), ?_⟩
  rw [hresult]
  unfold applyExitFailedClearForRetry
  dsimp only
  rw [Store.get_update (·.exitFailed) (fun _ => rfl) hrow, hsucceeds.row]
  rfl

lemma Durable.settles_residual (hsucceeds : answers.Succeeds) (hagain : again.Succeeds)
    (hrow : durable.state.store.get positionId = some row) (amount : ℕ) (received price : ℚ)
    (fee : ℕ) (time : DateTime) (signature : String) (percentage : ℚ) :
    ∃ written, Durable.Settles
        (.exitResidualClearForRetry positionId amount received price fee time signature percentage)
        positionId (some positionId) row durable
        (durable.apply answers again (.exitResidualClearForRetry positionId amount received price fee
          time signature percentage)).1 written ∧
      (durable.apply answers again (.exitResidualClearForRetry positionId amount received price fee
        time signature percentage)).2.isOk = true := by
  obtain ⟨sold, hsold, hok⟩ := Durable.settles_partialExit hsucceeds hrow amount received price fee
    time signature percentage
  unfold Durable.apply
  dsimp only
  generalize durable.state.store.writes answers (.partialExitVerified positionId amount received price
    fee time signature percentage) = saved at hsold
  generalize durable.applyOne answers (.partialExitVerified positionId amount received price fee time
    signature percentage) = first at hsold hok
  obtain ⟨middle, e | effects⟩ := first
  · cases hok
  · obtain ⟨hcleared, hclearedOk⟩ := Durable.settles_exitFailed hagain hsold.own
    dsimp only
    generalize middle.applyOne again (.exitFailedClearForRetry positionId) = second
      at hcleared hclearedOk
    obtain ⟨last, e | cleared⟩ := second
    · cases hclearedOk
    · refine ⟨sold.exitFailed, ⟨hcleared.ids.trans hsold.ids, ?_, hcleared.own, ?_, ?_,
        fun h => absurd rfl h⟩, rfl⟩
      · exact fun id hne => (hcleared.others id hne).trans (hsold.others id hne)
      · have hkept := hsold.settled.kept.trans hcleared.settled.kept
        exact ⟨hkept, hcleared.settled.entering.trans hsold.settled.entering, hcleared.settled.closing,
          fun h => hcleared.settled.timed (hsold.settled.timed h)⟩
      · have htable := hcleared.table
        rw [if_pos rfl] at htable ⊢
        show last.rows = _
        rw [htable]
        have hmiddle : middle.rows = _ := hsold.table
        rw [hmiddle]
        -- the second write of the row is over the first, if there was one
        split
        · rw [Function.update_idem, Function.update_self, Option.map_map]
          rfl
        · rfl

/-- A transition that settles a swap: not the removal of an orphan, and nothing that only announces
or prices. -/
def PositionTransition.isSettlement : PositionTransition → Bool
  | .removeOrphanEntry _ | .updatePriceTracking .. | .partialExitSubmitted .. | .dcaSubmitted .. =>
    false
  | _ => true

lemma Durable.settles_apply (hsucceeds : answers.Succeeds) (hagain : again.Succeeds)
    (hsettlement : transition.isSettlement = true) (hid : transition.positionId = some positionId)
    (hrow : durable.state.store.get positionId = some row) :
    ∃ written, Durable.Settles transition positionId (durable.state.store.saves answers transition)
        row durable (durable.apply answers again transition).1 written ∧
      (durable.apply answers again transition).2.isOk = true := by
  cases transition with
  | removeOrphanEntry id | updatePriceTracking mint price highest lowest
  | partialExitSubmitted id signature amount percentage price
  | dcaSubmitted id signature amount price => cases hsettlement
  | entryVerified id price amount fee size =>
    obtain rfl := Option.some.inj hid
    refine ⟨row.entryVerified price amount fee size, Durable.settles_applyOne hsucceeds rfl
      (fun id h => by cases h) rfl (get_applyEntryVerified answers hrow price amount fee size)
      (Position.settledBy_entryVerified id price amount fee size), ?_⟩
    show (applyEntryVerified answers durable.state.store id price amount fee size).2.isOk = true
    rw [isOk_applyEntryVerified answers hrow, hsucceeds.row]
    rfl
  | exitVerified id price received fee time =>
    obtain rfl := Option.some.inj hid
    cases hverified : row.transactionExitVerified with
    | true =>
      have hsame := applyExitVerified_of_verified answers hrow hverified price received fee time
      have hwrites : durable.state.store.writes answers
          (.exitVerified id price received fee time) = none := by
        simp only [Store.writes, hrow, Option.any_some, hverified, if_true]
      have hskipped := Durable.settles_of_same hwrites (congrArg Prod.fst hsame) hrow
        (Position.settledBy_exitVerified_of_verified hverified id price received fee time)
      refine ⟨row, ?_, ?_⟩
      · show Durable.Settles _ id (durable.state.store.writes answers
          (.exitVerified id price received fee time)) _ _ _ _
        rw [hwrites]
        exact hskipped
      · have hresult := congrArg Prod.snd (durable.apply_state answers again
          (.exitVerified id price received fee time))
        rw [hresult]
        show (durable.state.withClosed id (applyExitVerified answers durable.state.store id price
          received fee time)).2.isOk = true
        rw [hsame]
        rfl
    | false =>
      have hwrites : durable.state.store.writes answers
          (.exitVerified id price received fee time) = some id := by
        simp only [Store.writes, hrow, Option.any_some, hverified, Bool.false_eq_true, if_false]
      have hwritten := Durable.settles_applyOne hsucceeds rfl (fun id h => by cases h) hwrites
        (get_applyExitVerified answers hrow hverified price received fee time)
        (Position.settledBy_exitVerified answers.decimals id price received fee time)
      refine ⟨row.closedBy answers.decimals price received fee time, ?_, ?_⟩
      · show Durable.Settles _ id (durable.state.store.writes answers
          (.exitVerified id price received fee time)) _ _ _ _
        rw [hwrites]
        exact hwritten
      · have hresult := congrArg Prod.snd ((durable.apply_state answers again
          (.exitVerified id price received fee time)).trans rfl)
        have hclosed := result_applyExitVerified answers hrow hverified price received fee time
        rw [hsucceeds.row] at hclosed
        rw [hresult]
        show (durable.state.withClosed id (applyExitVerified answers durable.state.store id price
          received fee time)).2.isOk = true
        generalize applyExitVerified answers durable.state.store id price received fee time =
          applied at hclosed
        obtain ⟨store, result⟩ := applied
        obtain rfl := hclosed
        rfl
  | exitFailedClearForRetry id =>
    obtain rfl := Option.some.inj hid
    exact ⟨_, Durable.settles_exitFailed hsucceeds hrow⟩
  | exitPermanentFailureSynthetic id time =>
    obtain rfl := Option.some.inj hid
    refine ⟨row.exitSynthetic time, Durable.settles_applyOne hsucceeds rfl
      (fun id h => by cases h) rfl (get_applyExitSynthetic answers hrow time)
      (Position.settledBy_exitSynthetic id time), ?_⟩
    have hresult := congrArg Prod.snd ((durable.apply_state answers again
      (.exitPermanentFailureSynthetic id time)).trans rfl)
    rw [hresult]
    show (durable.state.withClosed id (applyExitSynthetic answers durable.state.store id
      time)).2.isOk = true
    unfold applyExitSynthetic
    rw [hrow, hsucceeds.row]
    rfl
  | partialExitVerified id amount received price fee time signature percentage =>
    obtain rfl := Option.some.inj hid
    exact Durable.settles_partialExit hsucceeds hrow amount received price fee time signature
      percentage
  | partialExitFailed id reason =>
    obtain rfl := Option.some.inj hid
    exact ⟨row, Durable.settles_of_same rfl rfl hrow (Position.settledBy_self rfl rfl), rfl⟩
  | exitResidualClearForRetry id amount received price fee time signature percentage =>
    obtain rfl := Option.some.inj hid
    exact Durable.settles_residual hsucceeds hagain hrow amount received price fee time signature
      percentage
  | dcaVerified id tokens spent price fee time signature =>
    obtain rfl := Option.some.inj hid
    refine ⟨row.addedBy answers.decimals tokens spent time, Durable.settles_applyOne hsucceeds rfl
      (fun id h => by cases h) rfl
      (get_applyDcaVerified answers hrow tokens spent price fee time signature)
      (Position.settledBy_addedBy answers.decimals id tokens spent price fee time signature), ?_⟩
    show (applyDcaVerified answers durable.state.store id tokens spent price fee time
      signature).2.isOk = true
    rw [isOk_applyDcaVerified answers hrow, hsucceeds.row, hsucceeds.pending]
    rfl
  | dcaFailed id signature reason =>
    obtain rfl := Option.some.inj hid
    have hdone : applyDcaFailed answers durable.state.store id signature =
        (durable.state.store, .ok .none) := by
      unfold applyDcaFailed
      rw [hsucceeds.pending]
    refine ⟨row, Durable.settles_of_same rfl (congrArg Prod.fst hdone) hrow
      (Position.settledBy_self rfl rfl), ?_⟩
    show (applyDcaFailed answers durable.state.store id signature).2.isOk = true
    rw [hdone]
    rfl

end settles

end Dripline.Positions

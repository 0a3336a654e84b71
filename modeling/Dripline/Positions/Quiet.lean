import Dripline.Positions.Recovery

/-!
# What opens no row

A row is open as long as it has no exit. Of everything that writes rows, only an open and a sync can
make one open: a transition, an operation on a row that is there, and a change by hand leave no mint
with more open rows than it had.
-/

namespace Dripline.Positions

open List

/-! ## Rows -/

/-- An open row of the mint. -/
def Position.holds (mint : String) (row : Position) : Bool := row.mint == mint && row.isOpen

/-- How many rows of the mint are open. -/
def openRows (positions : List Position) (mint : String) : ℕ := positions.countP (Position.holds mint)

/-- A write that opens nothing, and keeps the time of an exit. -/
def Position.Calms (row after : Position) : Prop :=
  row.Timed → after.Timed ∧ (after.isOpen = true → row.isOpen = true ∧ after.mint = row.mint)

section rows

variable {row after : Position}

lemma Position.isOpen_of_left (hleft : row.exitTime.isSome = true) : row.isOpen = false := by
  obtain ⟨time, htime⟩ := Option.isSome_iff_exists.mp hleft
  simp [Position.isOpen, htime]

lemma Position.calms_of_left (hleft : after.exitTime.isSome = true) : row.Calms after := by
  refine fun _ => ⟨fun _ => hleft, fun hopen => ?_⟩
  rw [Position.isOpen_of_left hleft] at hopen
  cases hopen

lemma Position.calms_of_kept (hmint : after.mint = row.mint) (hopen : after.isOpen = row.isOpen)
    (htimed : row.Timed → after.Timed) : row.Calms after :=
  fun h => ⟨htimed h, fun hafter => ⟨hopen.symm.trans hafter, hmint⟩⟩

lemma Position.calms_exitFailed (row : Position) : row.Calms row.exitFailed := by
  refine fun htimed => ⟨fun h => (by cases h), fun hopen => ⟨?_, rfl⟩⟩
  have hwithout : row.exitTime = none := by
    cases htime : row.exitTime with
    | none => rfl
    | some time =>
      rw [Position.isOpen_of_left (show row.exitFailed.exitTime.isSome = true by
        rw [show row.exitFailed.exitTime = row.exitTime from rfl, htime]; rfl)] at hopen
      cases hopen
  have hunverified : row.transactionExitVerified = false := by
    cases hverified : row.transactionExitVerified with
    | false => rfl
    | true =>
      have htime := htimed hverified
      rw [hwithout] at htime
      cases htime
  have hsame : row.isOpen = row.exitFailed.isOpen := by
    simp [Position.isOpen, Position.exitFailed, hwithout, hunverified]
  exact hsame.trans hopen

lemma Position.calms_exitStamped (row : Position) (signature : String) (exitPrice : ℚ)
    (exitReason : String) : row.Calms (row.exitStamped signature exitPrice exitReason) := by
  refine fun htimed => ⟨htimed, fun hopen => ⟨?_, rfl⟩⟩
  rw [Position.isOpen_exitStamped, Bool.and_eq_true] at hopen
  exact hopen.1

end rows

/-- No mint has more open rows than it had, as long as a closed row has the time of its exit. -/
structure Quiet (before after : List Position) : Prop where
  timed : (∀ row ∈ before, row.Timed) → ∀ row ∈ after, row.Timed
  opens : (∀ row ∈ before, row.Timed) → ∀ mint, openRows after mint ≤ openRows before mint

section quiet

variable {before after last : List Position} {answers again : Answers} {store : Store}
  {positionId : ℤ}

lemma Quiet.refl (positions : List Position) : Quiet positions positions :=
  ⟨fun h => h, fun _ _ => le_rfl⟩

lemma Quiet.trans (h : Quiet before after) (h' : Quiet after last) : Quiet before last where
  timed := fun htimed => h'.timed (h.timed htimed)
  opens := fun htimed mint => (h'.opens (h.timed htimed) mint).trans (h.opens htimed mint)

lemma Quiet.of_sublist (h : after.Sublist before) : Quiet before after where
  timed := fun htimed row hrow => htimed row (h.subset hrow)
  opens := fun _ _ => h.countP_le

lemma Position.Calms.holds_le {row after : Position} (h : row.Calms after) (htimed : row.Timed)
    (mint : String) :
    (if after.holds mint = true then 1 else 0) ≤ if row.holds mint = true then 1 else 0 := by
  by_cases hafter : after.holds mint = true
  · have hrow : row.holds mint = true := by
      unfold Position.holds at hafter ⊢
      rw [Bool.and_eq_true] at hafter ⊢
      obtain ⟨hopen, hmint⟩ := (h htimed).2 hafter.2
      exact ⟨hmint ▸ hafter.1, hopen⟩
    rw [if_pos hrow, if_pos hafter]
  · rw [if_neg hafter]
    exact Nat.zero_le _

lemma quiet_updateFirst {test : Position → Bool} {updater : Position → Position}
    (hcalms : ∀ row : Position, row.Calms (updater row)) (positions : List Position) :
    Quiet positions (Store.updateFirst test updater positions) := by
  induction positions with
  | nil => exact Quiet.refl []
  | cons row positions ih =>
    unfold Store.updateFirst
    split
    · constructor
      · intro htimed
        refine forall_mem_cons.mpr ⟨((hcalms row) (htimed row mem_cons_self)).1, ?_⟩
        exact fun other hother => htimed other (mem_cons_of_mem row hother)
      · intro htimed mint
        have hhead := (hcalms row).holds_le (htimed row mem_cons_self) mint
        unfold openRows
        rw [countP_cons, countP_cons]
        omega
    · constructor
      · intro htimed
        refine forall_mem_cons.mpr ⟨htimed row mem_cons_self,
          ih.timed fun other hother => ?_⟩
        exact htimed other (mem_cons_of_mem row hother)
      · intro htimed mint
        have htail := ih.opens (fun other hother => htimed other (mem_cons_of_mem row hother))
          mint
        unfold openRows at htail ⊢
        rw [countP_cons, countP_cons]
        omega

lemma Quiet.update (h : Quiet before store.positions) {updater : Position → Position}
    (hcalms : ∀ row : Position, row.Calms (updater row)) :
    Quiet before (store.update positionId updater).positions :=
  h.trans (quiet_updateFirst hcalms store.positions)

@[simp] lemma positions_recordEntry (record : EntryRecord) :
    (recordEntry answers store record).positions = store.positions := by
  unfold recordEntry Store.saveEntry
  split
  · split <;> rfl
  · rfl

@[simp] lemma positions_recordExit (record : ExitRecord) :
    (recordExit answers store record).positions = store.positions := by
  unfold recordExit Store.saveExit
  split
  · split <;> rfl
  · rfl

@[simp] lemma positions_recordCloseLoss (position : Position) (pnl : ℚ) :
    (recordCloseLoss store position pnl).positions = store.positions := by
  unfold recordCloseLoss
  split <;> rfl

lemma Quiet.refreshUnrealized (h : Quiet before store.positions) (position : Position) :
    Quiet before (refreshUnrealized answers store positionId position).positions := by
  unfold Positions.refreshUnrealized
  cases position.currentPrice with
  | none => exact h
  | some price => exact h.update fun _ => Position.calms_of_kept rfl rfl fun h => h

/-! ### What each branch opens -/

lemma quiet_applyEntryVerified (price : ℚ) (amount fee : ℕ) (size : ℚ) :
    Quiet store.positions
      (applyEntryVerified answers store positionId price amount fee size).1.positions := by
  have hwritten : Quiet store.positions
      (store.update positionId (·.entryVerified price amount fee size)).positions :=
    (Quiet.refl store.positions).update fun _ => Position.calms_of_kept rfl rfl fun h => h
  unfold applyEntryVerified
  dsimp only
  cases (store.update positionId (·.entryVerified price amount fee size)).get positionId with
  | none => exact hwritten
  | some position =>
    dsimp only
    cases answers.rowWrite with
    | error detail => exact hwritten
    | ok _ =>
      cases position.entryTransactionSignature with
      | none => exact hwritten
      | some signature => simpa using hwritten

lemma quiet_applyExitVerified (price received : ℚ) (fee : ℕ) (time : DateTime) :
    Quiet store.positions
      (applyExitVerified answers store positionId price received fee time).1.positions := by
  have hwritten : Quiet store.positions
      (store.update positionId (·.exitVerified price received fee time)).positions :=
    (Quiet.refl store.positions).update fun _ => Position.calms_of_left rfl
  unfold applyExitVerified
  split
  · exact Quiet.refl store.positions
  · dsimp only
    cases (store.update positionId (·.exitVerified price received fee time)).get positionId with
    | none => exact hwritten
    | some position =>
      dsimp only
      have hbooked : Quiet store.positions ((store.update positionId
          (·.exitVerified price received fee time)).update positionId
          (·.withPnl (calculatePositionPnl answers.decimals position none))).positions :=
        hwritten.update fun _ => Position.calms_of_kept rfl rfl fun h => h
      cases answers.rowWrite with
      | error detail => simpa using hbooked
      | ok _ =>
        cases (position.withPnl (calculatePositionPnl answers.decimals position
          none)).exitTransactionSignature with
        | none => simpa using hbooked
        | some signature => simpa using hbooked

lemma quiet_applyExitFailedClearForRetry :
    Quiet store.positions (applyExitFailedClearForRetry answers store positionId).1.positions := by
  have hwritten : Quiet store.positions (store.update positionId (·.exitFailed)).positions :=
    (Quiet.refl store.positions).update Position.calms_exitFailed
  unfold applyExitFailedClearForRetry
  dsimp only
  cases (store.update positionId (·.exitFailed)).get positionId with
  | none => exact hwritten
  | some position =>
    dsimp only
    cases answers.rowWrite <;> exact hwritten

lemma quiet_applyExitSynthetic (time : DateTime) :
    Quiet store.positions (applyExitSynthetic answers store positionId time).1.positions := by
  unfold applyExitSynthetic
  cases store.get positionId with
  | none => exact Quiet.refl store.positions
  | some row =>
    have hwritten : Quiet store.positions
        (store.update positionId (·.exitSynthetic time)).positions :=
      (Quiet.refl store.positions).update fun _ => Position.calms_of_left rfl
    have htold : (if row.writtenOff < 0 then
        (store.update positionId (·.exitSynthetic time)).recordLoss row.writtenOff
        else store.update positionId (·.exitSynthetic time)).positions =
        (store.update positionId (·.exitSynthetic time)).positions := by
      split <;> rfl
    dsimp only
    cases answers.rowWrite with
    | error detail | ok _ => exact htold ▸ hwritten

lemma quiet_applyPartialExitVerified (amount : ℕ) (received price : ℚ) (fee : ℕ)
    (time : DateTime) (signature : String) (percentage : ℚ) :
    Quiet store.positions (applyPartialExitVerified answers store positionId amount received price
      fee time signature percentage).1.positions := by
  unfold applyPartialExitVerified
  split
  · exact Quiet.refl store.positions
  · have hwritten : Quiet store.positions
        (store.update positionId (·.partialExitVerified amount received price)).positions :=
      (Quiet.refl store.positions).update fun _ => Position.calms_of_kept rfl rfl fun h => h
    dsimp only
    cases (store.update positionId (·.partialExitVerified amount received price)).get
        positionId with
    | none => exact hwritten
    | some position =>
      have hrefreshed : Quiet store.positions
          (refreshUnrealized answers _ positionId position).positions :=
        hwritten.refreshUnrealized position
      dsimp only
      cases answers.rowWrite with
      | error detail => exact hrefreshed
      | ok _ => cases answers.pendingWrite <;> simpa using hrefreshed

lemma quiet_applyDcaVerified (tokens : ℕ) (spent price : ℚ) (fee : ℕ) (time : DateTime)
    (signature : String) :
    Quiet store.positions (applyDcaVerified answers store positionId tokens spent price fee time
      signature).1.positions := by
  unfold applyDcaVerified
  cases store.get positionId with
  | none => exact Quiet.refl store.positions
  | some row =>
    have hwritten : Quiet store.positions (store.update positionId
        (·.dcaVerified ((answers.decimals row.mint).getD 9) tokens spent time)).positions :=
      (Quiet.refl store.positions).update fun _ => Position.calms_of_kept rfl rfl fun h => h
    dsimp only
    cases answers.rowWrite with
    | error detail => exact hwritten
    | ok _ => cases answers.pendingWrite <;> simpa using hwritten

lemma quiet_applyResidual (amount : ℕ) (received price : ℚ) (fee : ℕ) (time : DateTime)
    (signature : String) (percentage : ℚ) :
    Quiet store.positions (applyTransition answers again store (.exitResidualClearForRetry
      positionId amount received price fee time signature percentage)).1.positions := by
  have hsold : Quiet store.positions (applyPartialExitVerified answers store positionId amount
      received price fee time signature percentage).1.positions :=
    quiet_applyPartialExitVerified amount received price fee time signature percentage
  unfold applyTransition
  dsimp only
  generalize applyPartialExitVerified answers store positionId amount received price fee time
    signature percentage = sold at hsold
  obtain ⟨sold, e | effects⟩ := sold
  · exact hsold
  · have hcleared : Quiet sold.positions
        (applyExitFailedClearForRetry again sold positionId).1.positions :=
      quiet_applyExitFailedClearForRetry
    dsimp only
    generalize applyExitFailedClearForRetry again sold positionId = cleared at hcleared
    obtain ⟨cleared, e | effects⟩ := cleared <;> exact hsold.trans hcleared

lemma quiet_applyTransition (answers again : Answers) (store : Store)
    (transition : PositionTransition) :
    Quiet store.positions (applyTransition answers again store transition).1.positions := by
  cases transition with
  | entryVerified id price amount fee size => exact quiet_applyEntryVerified price amount fee size
  | exitVerified id price received fee time =>
    exact quiet_applyExitVerified price received fee time
  | exitFailedClearForRetry id => exact quiet_applyExitFailedClearForRetry
  | exitPermanentFailureSynthetic id time => exact quiet_applyExitSynthetic time
  | removeOrphanEntry id =>
    show Quiet store.positions (applyRemoveOrphanEntry store id).1.positions
    unfold applyRemoveOrphanEntry
    cases store.get id with
    | none => exact Quiet.refl store.positions
    | some row => exact Quiet.of_sublist eraseP_sublist
  | updatePriceTracking mint price highest lowest =>
    have hpriced : ∀ row : Position, row.Calms (row.priced price highest lowest answers.now) :=
      fun _ => Position.calms_of_kept rfl rfl fun h => h
    exact quiet_updateFirst hpriced store.positions
  | partialExitVerified id amount received price fee time signature percentage =>
    exact quiet_applyPartialExitVerified amount received price fee time signature percentage
  | exitResidualClearForRetry id amount received price fee time signature percentage =>
    exact quiet_applyResidual amount received price fee time signature percentage
  | dcaVerified id tokens spent price fee time signature =>
    exact quiet_applyDcaVerified tokens spent price fee time signature
  | dcaFailed id signature reason =>
    show Quiet store.positions (applyDcaFailed answers store id signature).1.positions
    unfold applyDcaFailed
    cases answers.pendingWrite <;> exact Quiet.refl store.positions
  | partialExitSubmitted | partialExitFailed | dcaSubmitted => exact Quiet.refl store.positions

end quiet

/-! ## Memory and table -/

/-- A row whose exit is booked has the time of it, in memory and in the table. -/
structure Durable.Timed (durable : Durable) : Prop where
  memory : ∀ row ∈ durable.state.store.positions, row.Timed
  table : ∀ id row, durable.rows id = some row → row.Timed

/-- No mint has more open rows in memory, and the exits keep their times. -/
structure Durable.Quiet (before after : Durable) : Prop where
  timed : before.Timed → after.Timed
  opens : before.Timed → ∀ mint, openRows after.state.store.positions mint ≤
    openRows before.state.store.positions mint

section durable

variable {durable before after last : Durable} {answers again : Answers} {positionId : ℤ}

lemma Durable.Quiet.refl (durable : Durable) : durable.Quiet durable :=
  ⟨fun h => h, fun _ _ => le_rfl⟩

lemma Durable.Quiet.trans (h : before.Quiet after) (h' : after.Quiet last) :
    before.Quiet last where
  timed := fun htimed => h'.timed (h.timed htimed)
  opens := fun htimed mint => (h'.opens (h.timed htimed) mint).trans (h.opens htimed mint)

lemma Durable.Quiet.of_memory
    (hmemory : Positions.Quiet before.state.store.positions after.state.store.positions)
    (htable : before.Timed → (∀ row ∈ after.state.store.positions, row.Timed) →
      ∀ id row, after.rows id = some row → row.Timed) : before.Quiet after where
  timed := fun htimed =>
    ⟨hmemory.timed htimed.memory, htable htimed (hmemory.timed htimed.memory)⟩
  opens := fun htimed => hmemory.opens htimed.memory

lemma timed_update {rows : ℤ → Option Position} (htimed : ∀ id row, rows id = some row → row.Timed)
    {write : Position → Position}
    (hwrite : ∀ saved, rows positionId = some saved → (write saved).Timed) :
    ∀ id row, Function.update rows positionId ((rows positionId).map write) id = some row →
      row.Timed := by
  intro id row hrow
  by_cases hid : id = positionId
  · subst hid
    rw [Function.update_self] at hrow
    obtain ⟨saved, hsaved, rfl⟩ := Option.map_eq_some_iff.mp hrow
    exact hwrite saved hsaved
  · rw [Function.update_of_ne hid] at hrow
    exact htimed id row hrow

lemma Durable.quiet_save (durable : Durable) (answers : Answers) (positionId : ℤ) :
    durable.Quiet (durable.save answers positionId) := by
  unfold Durable.save
  split
  case h_1 row _ hrow =>
    refine .of_memory (Positions.Quiet.refl _) fun htimed hmemory => ?_
    exact timed_update htimed.table fun _ _ => hmemory row (mem_of_find?_eq_some hrow)
  case h_2 => exact .refl durable

lemma Durable.quiet_applyOne (durable : Durable) (answers : Answers)
    (transition : PositionTransition) : durable.Quiet (durable.applyOne answers transition).1 := by
  have hmemory : durable.Quiet ⟨(durable.state.apply answers answers transition).1, durable.rows⟩ := by
    refine .of_memory ?_ fun htimed _ => htimed.table
    have hstore := congrArg Prod.fst (durable.state.apply_store answers answers transition)
    dsimp only at hstore ⊢
    rw [hstore]
    exact quiet_applyTransition answers answers durable.state.store transition
  unfold Durable.applyOne
  dsimp only
  split
  · exact hmemory.trans (Durable.quiet_save _ answers _)
  · exact hmemory

lemma Durable.quiet_applyPrice (durable : Durable) (answers : Answers) (mint : String)
    (price : ℚ) (highest lowest : Option ℚ) :
    durable.Quiet (durable.applyPrice answers mint price highest lowest).1 := by
  have hmemory : Positions.Quiet durable.state.store.positions
      (durable.applyPrice answers mint price highest lowest).1.state.store.positions :=
    quiet_applyTransition answers answers durable.state.store
      (.updatePriceTracking mint price highest lowest)
  refine .of_memory hmemory fun htimed _ => ?_
  have hwritten : ∀ (written : Bool) (id : ℤ) (row : Position) (key : ℤ) (saved : Position),
      (if written = true then
        Function.update durable.rows id ((durable.rows id).map row.pricesSavedOver)
        else durable.rows) key = some saved → saved.Timed := by
    intro written id row
    cases written with
    | true => exact timed_update htimed.table fun saved hsaved => htimed.table id saved hsaved
    | false => exact htimed.table
  unfold Durable.applyPrice
  dsimp only
  split
  · split
    · exact hwritten _ _ _
    · exact htimed.table
  · exact htimed.table

lemma Durable.quiet_apply (durable : Durable) (answers again : Answers)
    (transition : PositionTransition) : durable.Quiet (durable.apply answers again transition).1 := by
  cases transition with
  | updatePriceTracking mint price highest lowest =>
    exact durable.quiet_applyPrice answers mint price highest lowest
  | exitResidualClearForRetry id amount received price fee time signature percentage =>
    have hsold := durable.quiet_applyOne answers
      (.partialExitVerified id amount received price fee time signature percentage)
    unfold Durable.apply
    dsimp only
    generalize durable.applyOne answers (.partialExitVerified id amount received price fee time
      signature percentage) = sold at hsold
    obtain ⟨sold, e | effects⟩ := sold
    · exact hsold
    · have hcleared := sold.quiet_applyOne again (.exitFailedClearForRetry id)
      dsimp only
      generalize sold.applyOne again (.exitFailedClearForRetry id) = cleared at hcleared
      obtain ⟨cleared, e | effects⟩ := cleared <;> exact hsold.trans hcleared
  | _ => exact durable.quiet_applyOne answers _

end durable

/-! ## Operations -/

/-- The mint an operation trades. -/
def Operation.mint : Operation → String
  | .openPosition mint _ _ _ _ _ _ _ | .addToPosition mint _ _ _
  | .partialClosePosition mint _ _ _ _ _ | .closePositionDirect mint _ _ _ _ => mint

/-- The operation opens a position. -/
def Operation.isOpening : Operation → Bool
  | .openPosition .. => true
  | _ => false

section operations

variable {trades : Trades} {aftermath : Aftermath}

lemma Trades.quiet_added (mint : String) (positionId : ℤ) (dcaAmountSol : ℚ) (signature : String) :
    trades.durable.Quiet
      (trades.added aftermath mint positionId dcaAmountSol signature).1.durable := by
  unfold Trades.added
  dsimp only
  split
  · exact .refl trades.durable
  · split
    · exact .refl trades.durable
    · rename_i price _
      have hsubmitted := trades.durable.quiet_apply aftermath.answers aftermath.answers
        (.dcaSubmitted positionId signature dcaAmountSol price)
      generalize trades.durable.apply aftermath.answers aftermath.answers
        (.dcaSubmitted positionId signature dcaAmountSol price) = applied at hsubmitted
      obtain ⟨applied, e | effects⟩ := applied <;> exact hsubmitted

lemma Trades.quiet_soldPartly (mint : String) (positionId : ℤ) (exitAmount : ℕ)
    (exitPercentage marketPrice : ℚ) (signature : String) :
    trades.durable.Quiet (trades.soldPartly aftermath mint positionId exitAmount exitPercentage
      marketPrice signature).1.durable := by
  unfold Trades.soldPartly
  dsimp only
  split
  · exact .refl trades.durable
  · rename_i exits _ _
    have hindexed : trades.durable.Quiet
        (Trades.indexed { trades with exits := exits } signature mint).durable :=
      ⟨fun htimed => ⟨htimed.memory, htimed.table⟩, fun _ _ => le_rfl⟩
    generalize Trades.indexed { trades with exits := exits } signature mint = registered
      at hindexed
    have hsubmitted := hindexed.trans (registered.durable.quiet_apply aftermath.answers
      aftermath.answers (.partialExitSubmitted positionId signature exitAmount exitPercentage
        marketPrice))
    generalize registered.durable.apply aftermath.answers aftermath.answers
      (.partialExitSubmitted positionId signature exitAmount exitPercentage marketPrice) = applied
      at hsubmitted
    obtain ⟨applied, e | effects⟩ := applied <;> exact hsubmitted

lemma Trades.quiet_closed (mint : String) (exitPrice : ℚ) (exitReason signature : String) :
    trades.durable.Quiet
      (trades.closed aftermath mint exitPrice exitReason signature).1.durable :=
  .of_memory (quiet_updateFirst (fun row => row.calms_exitStamped signature exitPrice exitReason) _)
    fun htimed _ => htimed.table

lemma Operation.quiet_run (operation : Operation) (aftermath : Aftermath) (trades : Trades)
    (hopening : operation.isOpening = false) :
    trades.durable.Quiet (operation.run aftermath (operation.begun trades)).1.durable := by
  cases operation with
  | openPosition => cases hopening
  | addToPosition mint positionId dcaAmountSol reply =>
    unfold Operation.run
    dsimp only
    split
    · exact .refl trades.durable
    · exact trades.quiet_added mint positionId dcaAmountSol _
  | partialClosePosition mint positionId exitAmount exitPercentage marketPrice rungs =>
    unfold Operation.run
    dsimp only
    split
    · exact .refl trades.durable
    · -- the mark that was set before the swap is not a row
      show ({ trades with exits := trades.exits.mark mint } : Trades).durable.Quiet _
      exact Trades.quiet_soldPartly mint positionId exitAmount exitPercentage marketPrice _
  | closePositionDirect mint position exitPrice exitReason rungs =>
    unfold Operation.run
    dsimp only
    split
    · exact .refl trades.durable
    · exact trades.quiet_closed mint exitPrice exitReason _

end operations

end Dripline.Positions

import Dripline.Found.Keyed
import Dripline.Found.Trace
import Dripline.Positions.Outcome

/-!
# What the loss limiter is told

The losses of one position, over any run of transitions and whatever the database answers.

* `feedsOnce_iff` — the limiter was told of the loss of the row, and of nothing else, exactly as
  long as no loss is told twice or of a wallet's own holding.
-/

namespace Dripline.Positions

open Dripline.Found.Keyed List
open Dripline.Found.Trace

/-! ## Losses -/

/-- A loss that is told: nothing unless it is one. -/
def lossTold (pnl : ℚ) : List ℚ := if pnl < 0 then [|pnl|] else []

/-- The loss a row stands for: that of a closed position, unless it was derived from wallet
history. -/
def Position.lossOf (position : Position) : List ℚ :=
  if position.transactionExitVerified && !position.isWalletDerived then
    lossTold (position.pnl.getD 0)
  else []

/-! ## Frames -/

/-- A step that keeps ids, leaves the rows of other ids alone, and tells the limiter of losses. -/
structure Store.Frame (positionId : ℤ) (before after : Store) (told : List ℚ) : Prop where
  ids : after.positions.map (·.id) = before.positions.map (·.id)
  others : ∀ id, positionId ≠ id → after.get id = before.get id
  losses : after.losses = before.losses ++ told

section frames

variable {answers : Answers} {store before after : Store} {positionId : ℤ} {told : List ℚ}
  {row : Position}

lemma Store.Frame.refl (store : Store) : store.Frame positionId store [] :=
  ⟨rfl, fun _ _ => rfl, (append_nil _).symm⟩

variable {more : List ℚ}

lemma Store.Frame.trans {last : Store} (h : before.Frame positionId after told)
    (h' : after.Frame positionId last more) : before.Frame positionId last (told ++ more) where
  ids := h'.ids.trans h.ids
  others := fun id hne => (h'.others id hne).trans (h.others id hne)
  losses := by rw [h'.losses, h.losses, append_assoc]

lemma map_id_updateFirst {test : Position → Bool} {updater : Position → Position}
    (hkeeps : ∀ position, (updater position).id = position.id) (positions : List Position) :
    (Store.updateFirst test updater positions).map (·.id) = positions.map (·.id) := by
  induction positions with
  | nil => rfl
  | cons position positions ih =>
    unfold Store.updateFirst
    split
    · rw [map_cons, map_cons, hkeeps]
    · rw [map_cons, map_cons, ih]

section

variable (h : before.Frame positionId store told)
include h

lemma Store.Frame.update (updater : Position → Position)
    (hkeeps : ∀ position, (updater position).id = position.id) :
    before.Frame positionId (store.update positionId updater) told where
  ids := (map_id_updateFirst hkeeps store.positions).trans h.ids
  others := fun id hne => (Store.get_update_of_ne hne updater hkeeps).trans (h.others id hne)
  losses := h.losses

lemma Store.Frame.keep (hpositions : after.positions = store.positions)
    (hlosses : after.losses = store.losses ++ more) :
    before.Frame positionId after (told ++ more) := by
  refine h.trans ⟨by rw [hpositions], fun id _ => ?_, hlosses⟩
  unfold Store.get
  rw [hpositions]

lemma Store.Frame.recordEntry (record : EntryRecord) :
    before.Frame positionId (recordEntry answers store record) told := by
  have hkept : (Positions.recordEntry answers store record).positions = store.positions ∧
      (Positions.recordEntry answers store record).losses = store.losses ++ [] := by
    rw [append_nil]
    unfold Positions.recordEntry Store.saveEntry
    split
    · split <;> exact ⟨rfl, rfl⟩
    · exact ⟨rfl, rfl⟩
  simpa using h.keep hkept.1 hkept.2

lemma Store.Frame.recordExit (record : ExitRecord) :
    before.Frame positionId (recordExit answers store record) told := by
  have hkept : (Positions.recordExit answers store record).positions = store.positions ∧
      (Positions.recordExit answers store record).losses = store.losses ++ [] := by
    rw [append_nil]
    unfold Positions.recordExit Store.saveExit
    split
    · split <;> exact ⟨rfl, rfl⟩
    · exact ⟨rfl, rfl⟩
  simpa using h.keep hkept.1 hkept.2

lemma Store.Frame.recordCloseLoss (position : Position) (pnl : ℚ) :
    before.Frame positionId (recordCloseLoss store position pnl)
      (told ++ if position.isWalletDerived then [] else lossTold pnl) := by
  refine h.keep ?_ ?_
  · unfold Positions.recordCloseLoss
    split <;> rfl
  · unfold Positions.recordCloseLoss lossTold
    cases position.isWalletDerived with
    | true => simp
    | false =>
      by_cases hloss : pnl < 0
      · simp [hloss, Store.recordLoss]
      · simp [hloss]

lemma Store.Frame.refreshUnrealized (position : Position) :
    before.Frame positionId (refreshUnrealized answers store positionId position) told := by
  unfold Positions.refreshUnrealized
  cases position.currentPrice with
  | none => exact h
  | some price => exact h.update _ fun _ => rfl

end

/-! ### What each branch tells -/

lemma frame_applyEntryVerified (price : ℚ) (amount fee : ℕ) (size : ℚ) :
    store.Frame positionId
      (applyEntryVerified answers store positionId price amount fee size).1 [] := by
  have hwritten : store.Frame positionId
      (store.update positionId (·.entryVerified price amount fee size)) [] :=
    (Store.Frame.refl store).update _ fun _ => rfl
  unfold applyEntryVerified
  dsimp only
  cases (store.update positionId (·.entryVerified price amount fee size)).get positionId with
  | none => exact hwritten
  | some position =>
    dsimp only
    cases answers.rowWrite with
    | error detail => exact hwritten
    | ok _ =>
      cases position.entryTransactionSignature with
      | none => exact hwritten
      | some signature => exact hwritten.recordEntry _

lemma frame_applyExitVerified (hrow : store.get positionId = some row)
    (hnew : row.transactionExitVerified = false) (price received : ℚ) (fee : ℕ) (time : DateTime) :
    store.Frame positionId (applyExitVerified answers store positionId price received fee time).1
      (row.closedBy answers.decimals price received fee time).lossOf := by
  have hget := Store.get_update (·.exitVerified price received fee time) (fun _ => rfl) hrow
  have hunverified : (store.get positionId).any (·.transactionExitVerified) = false := by
    rw [hrow]
    exact hnew
  have hwritten : store.Frame positionId
      (store.update positionId (·.exitVerified price received fee time)) [] :=
    (Store.Frame.refl store).update _ fun _ => rfl
  unfold applyExitVerified Position.closedBy
  rw [hunverified]
  simp only [Bool.false_eq_true, if_false, hget]
  generalize calculatePositionPnl answers.decimals (row.exitVerified price received fee time)
    none = pnl
  have htold : ((row.exitVerified price received fee time).withPnl pnl).lossOf =
      [] ++ if ((row.exitVerified price received fee time).withPnl pnl).isWalletDerived then []
        else lossTold pnl.1 := by
    unfold Position.lossOf
    cases hderived : ((row.exitVerified price received fee time).withPnl pnl).isWalletDerived <;>
      rfl
  rw [htold]
  have hclosed := (hwritten.update (·.withPnl pnl) fun _ => rfl).recordCloseLoss
    ((row.exitVerified price received fee time).withPnl pnl) pnl.1
  cases answers.rowWrite with
  | error detail => exact hclosed
  | ok _ =>
    cases ((row.exitVerified price received fee time).withPnl pnl).exitTransactionSignature with
    | none => exact hclosed
    | some signature => exact hclosed.recordExit _

lemma frame_applyExitFailedClearForRetry :
    store.Frame positionId (applyExitFailedClearForRetry answers store positionId).1 [] := by
  have hwritten : store.Frame positionId (store.update positionId (·.exitFailed)) [] :=
    (Store.Frame.refl store).update _ fun _ => rfl
  unfold applyExitFailedClearForRetry
  dsimp only
  cases (store.update positionId (·.exitFailed)).get positionId with
  | none => exact hwritten
  | some position =>
    dsimp only
    cases answers.rowWrite <;> exact hwritten

lemma frame_applyExitSynthetic (hrow : store.get positionId = some row) (time : DateTime) :
    store.Frame positionId (applyExitSynthetic answers store positionId time).1
      (lossTold row.writtenOff) := by
  have hwritten : store.Frame positionId (store.update positionId (·.exitSynthetic time)) [] :=
    (Store.Frame.refl store).update _ fun _ => rfl
  have htold : store.Frame positionId (if row.writtenOff < 0 then
      (store.update positionId (·.exitSynthetic time)).recordLoss row.writtenOff
      else store.update positionId (·.exitSynthetic time)) (lossTold row.writtenOff) := by
    unfold lossTold
    split
    · exact hwritten.keep rfl rfl
    · exact hwritten
  unfold applyExitSynthetic
  rw [hrow]
  dsimp only
  cases answers.rowWrite <;> exact htold

lemma frame_applyPartialExitVerified (amount : ℕ) (received price : ℚ) (fee : ℕ)
    (time : DateTime) (signature : String) (percentage : ℚ) :
    store.Frame positionId (applyPartialExitVerified answers store positionId amount received price
      fee time signature percentage).1 [] := by
  unfold applyPartialExitVerified
  split
  · exact Store.Frame.refl store
  · have hwritten : store.Frame positionId
        (store.update positionId (·.partialExitVerified amount received price)) [] :=
      (Store.Frame.refl store).update _ fun _ => rfl
    dsimp only
    cases (store.update positionId (·.partialExitVerified amount received price)).get
        positionId with
    | none => exact hwritten
    | some position =>
      dsimp only
      cases answers.rowWrite with
      | error detail => exact hwritten.refreshUnrealized position
      | ok _ =>
        cases answers.pendingWrite <;>
          exact (hwritten.refreshUnrealized position).recordExit _

lemma frame_applyDcaVerified (tokens : ℕ) (spent price : ℚ) (fee : ℕ) (time : DateTime)
    (signature : String) :
    store.Frame positionId
      (applyDcaVerified answers store positionId tokens spent price fee time signature).1 [] := by
  unfold applyDcaVerified
  cases store.get positionId with
  | none => exact Store.Frame.refl store
  | some row =>
    have hwritten : store.Frame positionId (store.update positionId
        (·.dcaVerified ((answers.decimals row.mint).getD 9) tokens spent time)) [] :=
      (Store.Frame.refl store).update _ fun _ => rfl
    dsimp only
    cases answers.rowWrite with
    | error detail => exact hwritten
    | ok _ => cases answers.pendingWrite <;> exact hwritten.recordEntry _

lemma frame_applyResidual (again : Answers) (amount : ℕ) (received price : ℚ) (fee : ℕ)
    (time : DateTime) (signature : String) (percentage : ℚ) :
    store.Frame positionId (applyTransition answers again store (.exitResidualClearForRetry
      positionId amount received price fee time signature percentage)).1 [] := by
  have hsold : store.Frame positionId (applyPartialExitVerified answers store positionId amount
      received price fee time signature percentage).1 [] :=
    frame_applyPartialExitVerified amount received price fee time signature percentage
  unfold applyTransition
  dsimp only
  generalize applyPartialExitVerified answers store positionId amount received price fee time
    signature percentage = sold at hsold
  obtain ⟨sold, result⟩ := sold
  cases result with
  | error e => exact hsold
  | ok effects =>
    have hcleared : sold.Frame positionId (applyExitFailedClearForRetry again sold positionId).1
        [] := frame_applyExitFailedClearForRetry
    dsimp only
    generalize applyExitFailedClearForRetry again sold positionId = cleared at hcleared
    obtain ⟨cleared, result⟩ := cleared
    cases result <;> exact hsold.trans hcleared

lemma frame_applyTransition (answers again : Answers) (store : Store)
    {transition : PositionTransition} (hid : transition.positionId = some positionId)
    (horphan : ∀ id, transition ≠ .removeOrphanEntry id) :
    ∃ told, store.Frame positionId (applyTransition answers again store transition).1 told := by
  have hrefl : ∃ told, store.Frame positionId store told := ⟨[], Store.Frame.refl store⟩
  cases transition with
  | updatePriceTracking mint price highest lowest => cases hid
  | removeOrphanEntry id => exact absurd rfl (horphan id)
  | entryVerified id price amount fee size =>
    obtain rfl := Option.some.inj hid
    exact ⟨[], frame_applyEntryVerified price amount fee size⟩
  | exitVerified id price received fee time =>
    obtain rfl := Option.some.inj hid
    cases hrow : store.get id with
    | none =>
      rw [applyTransition, applyExitVerified_of_none answers hrow]
      exact hrefl
    | some row =>
      cases hverified : row.transactionExitVerified with
      | true =>
        rw [applyTransition, applyExitVerified_of_verified answers hrow hverified]
        exact hrefl
      | false => exact ⟨_, frame_applyExitVerified hrow hverified price received fee time⟩
  | exitFailedClearForRetry id =>
    obtain rfl := Option.some.inj hid
    exact ⟨[], frame_applyExitFailedClearForRetry⟩
  | exitPermanentFailureSynthetic id time =>
    obtain rfl := Option.some.inj hid
    cases hrow : store.get id with
    | none =>
      rw [applyTransition, applyExitSynthetic, hrow]
      exact hrefl
    | some row => exact ⟨_, frame_applyExitSynthetic hrow time⟩
  | partialExitSubmitted => exact hrefl
  | partialExitVerified id amount received price fee time signature percentage =>
    obtain rfl := Option.some.inj hid
    exact ⟨[], frame_applyPartialExitVerified amount received price fee time signature percentage⟩
  | partialExitFailed => exact hrefl
  | exitResidualClearForRetry id amount received price fee time signature percentage =>
    obtain rfl := Option.some.inj hid
    exact ⟨[], frame_applyResidual again amount received price fee time signature percentage⟩
  | dcaSubmitted => exact hrefl
  | dcaVerified id tokens spent price fee time signature =>
    obtain rfl := Option.some.inj hid
    exact ⟨[], frame_applyDcaVerified tokens spent price fee time signature⟩
  | dcaFailed id signature reason =>
    unfold applyTransition applyDcaFailed
    cases answers.pendingWrite <;> exact hrefl

end frames

/-! ## What was told of a position -/

/-- A store, and the losses of one position that were told. -/
structure Feed where
  store : Store
  told : List ℚ

namespace Feed

variable (positionId : ℤ) (feed : Feed) (delivered : Delivered)

/-- What its row stands for was told before. -/
def start (store : Store) : Feed := ⟨store, ((store.get positionId).map (·.lossOf)).getD []⟩

/-- One transition, whether or not it ends in an error; what it tells is of its position. -/
def step : Feed :=
  let store :=
    (applyTransition delivered.answers delivered.again feed.store delivered.transition).1
  { store := store
    told :=
      if delivered.transition.positionId = some positionId then
        feed.told ++ store.losses.drop feed.store.losses.length
      else feed.told }

/-- The losses told are those of the row: one when it is closed at a loss, none otherwise. -/
def Right : Prop := ∀ row, feed.store.get positionId = some row → feed.told = row.lossOf

/-- No loss is told twice, or of a wallet's own holding: a row is written off only if its loss was
not told, and if it is the bot's or stands at no loss; a close is cleared only if no loss of it was
told. -/
def Admits : Prop :=
  delivered.transition.positionId = some positionId →
    ∀ row, feed.store.get positionId = some row →
      match delivered.transition with
      | .exitPermanentFailureSynthetic _ _ =>
        (row.isWalletDerived = true → 0 ≤ row.writtenOff) ∧ row.lossOf = []
      | .exitFailedClearForRetry _ => row.lossOf = []
      | .exitResidualClearForRetry _ _ _ _ _ _ signature _ =>
        -- the close is cleared once the fill is booked
        (delivered.answers.exitLookup && feed.store.exitRecordExists positionId signature ||
          delivered.answers.rowWrite.isOk && delivered.answers.pendingWrite.isOk) = true →
        row.lossOf = []
      | _ => True

/-- No two rows of the store have one id. -/
def Distinct : Prop := (feed.store.positions.filterMap (·.id)).Nodup

variable {positionId feed delivered}

lemma Distinct.of_ids (h : feed.Distinct) {after : Feed}
    (hids : after.store.positions.map (·.id) = feed.store.positions.map (·.id)) :
    after.Distinct := by
  have hsame : after.store.positions.filterMap (·.id) = feed.store.positions.filterMap (·.id) := by
    have hcongr := congrArg (List.filterMap id) hids
    rwa [filterMap_map, filterMap_map] at hcongr
  unfold Distinct
  rw [hsame]
  exact h

lemma get_eq_none_of_ids {before after : Store}
    (hids : after.positions.map (·.id) = before.positions.map (·.id))
    (hrow : before.get positionId = none) : after.get positionId = none := by
  have hnot : some positionId ∉ before.positions.map (·.id) := by
    intro hmem
    obtain ⟨position, hposition, hid⟩ := mem_map.mp hmem
    exact absurd hid (by simpa [Store.isRow] using List.find?_eq_none.mp hrow position hposition)
  refine List.find?_eq_none.mpr fun position hposition => ?_
  have hid : position.id ≠ some positionId := fun hid =>
    hnot (hids ▸ hid ▸ mem_map_of_mem hposition)
  simpa [Store.isRow] using hid

/-! ### Transitions of other positions -/

variable {id : ℤ} {told : List ℚ}

lemma Right.of_other (h : feed.Right positionId) (hid : delivered.transition.positionId = some id)
    (hne : id ≠ positionId)
    (hframe : feed.store.Frame id (applyTransition delivered.answers delivered.again feed.store
      delivered.transition).1 told) :
    (feed.step positionId delivered).Right positionId := by
  intro row hrow
  have hsame : feed.store.get positionId = some row := (hframe.others positionId hne).symm.trans hrow
  have htold : (feed.step positionId delivered).told = feed.told := by
    unfold step
    rw [hid]
    exact if_neg fun hsame => hne (Option.some.inj hsame)
  rw [htold]
  exact h row hsame

lemma find?_updateFirst_of_keeps {test other : Position → Bool} {updater : Position → Position}
    (hkeeps : ∀ position, other (updater position) = other position) (positions : List Position) :
    (Store.updateFirst test updater positions).find? other = positions.find? other ∨
      (Store.updateFirst test updater positions).find? other =
        (positions.find? other).map updater := by
  induction positions with
  | nil => exact Or.inl rfl
  | cons position positions ih =>
    unfold Store.updateFirst
    cases hother : other position with
    | true =>
      rw [List.find?_cons_of_pos hother]
      split
      · exact Or.inr (List.find?_cons_of_pos ((hkeeps position).trans hother))
      · exact Or.inl (List.find?_cons_of_pos hother)
    | false =>
      rw [List.find?_cons_of_neg (by simp [hother])]
      split
      · exact Or.inl (List.find?_cons_of_neg (by simp [hkeeps, hother]))
      · rw [List.find?_cons_of_neg (by simp [hother])]
        exact ih

variable {again : Answers} {price : ℚ} {highest lowest : Option ℚ} {mint : String}
  {answers : Answers}

lemma Right.of_price (h : feed.Right positionId) :
    (feed.step positionId ⟨.updatePriceTracking mint price highest lowest, answers,
      again⟩).Right positionId := by
  intro row hrow
  have hkept := @find?_updateFirst_of_keeps (·.mint == mint) (Store.isRow positionId)
    (·.priced price highest lowest answers.now) (fun _ => rfl) feed.store.positions
  rcases hkept with hsame | hpriced
  · exact h row (hsame.symm.trans hrow)
  · obtain ⟨before, hbefore, hwritten⟩ := Option.map_eq_some_iff.mp (hpriced.symm.trans hrow)
    rw [← hwritten]
    exact h before hbefore

lemma Distinct.of_price (h : feed.Distinct) :
    (feed.step positionId ⟨.updatePriceTracking mint price highest lowest, answers,
      again⟩).Distinct :=
  h.of_ids (@map_id_updateFirst (·.mint == mint) (·.priced price highest lowest answers.now)
    (fun _ => rfl) feed.store.positions)

lemma sublist_applyRemoveOrphanEntry (store : Store) (id : ℤ) :
    (applyRemoveOrphanEntry store id).1.positions.Sublist store.positions ∧
      (applyRemoveOrphanEntry store id).1.losses = store.losses := by
  unfold applyRemoveOrphanEntry
  cases store.get id with
  | none => exact ⟨List.Sublist.refl _, rfl⟩
  | some position => exact ⟨eraseP_sublist, rfl⟩

lemma Right.of_orphan (h : feed.Right positionId) (hdistinct : feed.Distinct) :
    (feed.step positionId ⟨.removeOrphanEntry id, answers, again⟩).Right positionId := by
  obtain ⟨hsublist, hlosses⟩ := sublist_applyRemoveOrphanEntry feed.store id
  intro row hrow
  have hid : row.id = some positionId := by simpa [Store.isRow] using List.find?_some hrow
  have hbefore : feed.store.get positionId = some row :=
    find?_key hdistinct (hsublist.subset (mem_of_find?_eq_some hrow)) hid
  have htold : (feed.step positionId ⟨.removeOrphanEntry id, answers, again⟩).told = feed.told := by
    simp only [step, applyTransition, hlosses, drop_length, append_nil, ite_self]
  rw [htold]
  exact h row hbefore

lemma Distinct.of_orphan (h : feed.Distinct) :
    (feed.step positionId ⟨.removeOrphanEntry id, answers, again⟩).Distinct :=
  h.sublist ((sublist_applyRemoveOrphanEntry feed.store id).1.filterMap _)

/-! ### Transitions of the position -/

variable {after : Position}

lemma right_iff_of_get (transition : PositionTransition)
    (hid : transition.positionId = some positionId)
    (hframe : feed.store.Frame positionId (applyTransition answers again feed.store transition).1 told)
    (hafter : (applyTransition answers again feed.store transition).1.get positionId = some after) :
    (feed.step positionId ⟨transition, answers, again⟩).Right positionId ↔
      feed.told ++ told = after.lossOf := by
  have htold : (feed.step positionId ⟨transition, answers, again⟩).told = feed.told ++ told := by
    simp only [step, hid, if_true, hframe.losses, drop_left]
  unfold Right
  rw [htold]
  constructor
  · exact fun h => h after hafter
  · intro h row hrow
    obtain rfl : after = row := Option.some.inj (hafter.symm.trans hrow)
    exact h

variable {row : Position}

lemma lossOf_congr (hverified : after.transactionExitVerified = row.transactionExitVerified)
    (horigin : after.origin = row.origin) (hpnl : after.pnl = row.pnl) :
    after.lossOf = row.lossOf := by
  unfold Position.lossOf Position.isWalletDerived
  rw [hverified, horigin, hpnl]

lemma lossOf_soldBy (decimals : String → Option ℕ) (row : Position) (amount : ℕ)
    (received price : ℚ) : (row.soldBy decimals amount received price).lossOf = row.lossOf := by
  have hsold := row.soldBy_field decimals (·.lossOf) (fun _ _ => lossOf_congr rfl rfl rfl) amount
    received price
  exact hsold.trans (lossOf_congr rfl rfl rfl)

lemma lossOf_of_unverified {row : Position} (hverified : row.transactionExitVerified = false) :
    row.lossOf = [] := by
  unfold Position.lossOf
  rw [hverified]
  rfl

lemma lossOf_exitSynthetic (row : Position) (time : DateTime) :
    (row.exitSynthetic time).lossOf =
      if row.isWalletDerived then [] else lossTold row.writtenOff := by
  unfold Position.lossOf
  rw [show (row.exitSynthetic time).isWalletDerived = row.isWalletDerived from rfl]
  cases row.isWalletDerived <;> rfl

lemma told_synthetic_iff (row : Position) (time : DateTime) :
    row.lossOf ++ lossTold row.writtenOff = (row.exitSynthetic time).lossOf ↔
      (row.isWalletDerived = true → 0 ≤ row.writtenOff) ∧ row.lossOf = [] := by
  rw [lossOf_exitSynthetic]
  cases hderived : row.isWalletDerived with
  | true =>
    have hnone : row.lossOf = [] := by
      unfold Position.lossOf
      rw [hderived, Bool.not_true, Bool.and_false]
      rfl
    rw [hnone]
    unfold lossTold
    by_cases hloss : row.writtenOff < 0
    · simp [hloss]
    · simp [hloss, not_lt.mp hloss]
  | false => simp

lemma right_residual_iff {amount : ℕ} {received : ℚ} {fee : ℕ} {time : DateTime}
    {signature : String} {percentage : ℚ} (h : feed.Right positionId)
    (hrow : feed.store.get positionId = some row) :
    (feed.step positionId ⟨.exitResidualClearForRetry positionId amount received price fee time
        signature percentage, answers, again⟩).Right positionId ↔
      ((answers.exitLookup && feed.store.exitRecordExists positionId signature ||
        answers.rowWrite.isOk && answers.pendingWrite.isOk) = true → row.lossOf = []) := by
  have htold := h row hrow
  have hframe := @frame_applyResidual answers feed.store positionId again amount received price fee
    time signature percentage
  -- the row after the fill, and what the fill ends in
  obtain ⟨sold, hsold, hloss, hok⟩ : ∃ sold,
      (applyPartialExitVerified answers feed.store positionId amount received price fee time
        signature percentage).1.get positionId = some sold ∧ sold.lossOf = row.lossOf ∧
      (applyPartialExitVerified answers feed.store positionId amount received price fee time
        signature percentage).2.isOk =
        (answers.exitLookup && feed.store.exitRecordExists positionId signature ||
          answers.rowWrite.isOk && answers.pendingWrite.isOk) := by
    cases hrecorded : answers.exitLookup && feed.store.exitRecordExists positionId signature with
    | true =>
      rw [applyPartialExitVerified_of_recorded answers hrecorded]
      exact ⟨row, hrow, rfl, rfl⟩
    | false =>
      exact ⟨_, get_applyPartialExitVerified answers hrow hrecorded amount received price fee time
        percentage, lossOf_soldBy answers.decimals row amount received price,
        isOk_applyPartialExitVerified answers hrow hrecorded amount received price fee time
          percentage⟩
  rw [← hok]
  -- the row after both halves
  obtain ⟨after, hafter, hleft⟩ : ∃ after,
      (applyTransition answers again feed.store (.exitResidualClearForRetry positionId amount received
        price fee time signature percentage)).1.get positionId = some after ∧
      after.lossOf = if (applyPartialExitVerified answers feed.store positionId amount received price
        fee time signature percentage).2.isOk then [] else row.lossOf := by
    unfold applyTransition
    dsimp only
    generalize applyPartialExitVerified answers feed.store positionId amount received price fee time
      signature percentage = applied at hsold
    obtain ⟨store, result⟩ := applied
    cases result with
    | error e => exact ⟨sold, hsold, hloss⟩
    | ok effects =>
      have hcleared := get_applyExitFailedClearForRetry again hsold
      dsimp only
      generalize applyExitFailedClearForRetry again store positionId = cleared at hcleared
      obtain ⟨cleared, result⟩ := cleared
      refine ⟨sold.exitFailed, ?_, lossOf_of_unverified rfl⟩
      cases result <;> exact hcleared
  rw [right_iff_of_get _ rfl hframe hafter, append_nil, htold, hleft]
  cases (applyPartialExitVerified answers feed.store positionId amount received price fee time
    signature percentage).2.isOk <;> simp

lemma right_of_kept (transition : PositionTransition)
    (hid : transition.positionId = some positionId)
    (hframe : feed.store.Frame positionId (applyTransition answers again feed.store transition).1 [])
    (hafter : (applyTransition answers again feed.store transition).1.get positionId = some after)
    (hloss : after.lossOf = row.lossOf) (htold : feed.told = row.lossOf) :
    (feed.step positionId ⟨transition, answers, again⟩).Right positionId :=
  (right_iff_of_get transition hid hframe hafter).mpr (by rw [append_nil, htold, hloss])

lemma right_of_same (transition : PositionTransition) (h : feed.Right positionId)
    (hsame : (applyTransition answers again feed.store transition).1 = feed.store) :
    (feed.step positionId ⟨transition, answers, again⟩).Right positionId := by
  intro row hrow
  have hrow' : feed.store.get positionId = some row := by
    rw [← hsame]
    exact hrow
  have htold : (feed.step positionId ⟨transition, answers, again⟩).told = feed.told := by
    unfold step
    dsimp only
    rw [hsame, drop_length, append_nil, ite_self]
  exact htold.trans (h row hrow')

lemma right_exitVerified (h : feed.Right positionId) (hrow : feed.store.get positionId = some row)
    (price received : ℚ) (fee : ℕ) (time : DateTime) :
    (feed.step positionId ⟨.exitVerified positionId price received fee time, answers,
      again⟩).Right positionId := by
  cases hverified : row.transactionExitVerified with
  | true =>
    exact right_of_same (.exitVerified positionId price received fee time) h (congrArg Prod.fst
      (applyExitVerified_of_verified answers hrow hverified price received fee time))
  | false =>
    refine (right_iff_of_get (.exitVerified positionId price received fee time) rfl
      (frame_applyExitVerified hrow hverified price received fee time)
      (get_applyExitVerified answers hrow hverified price received fee time)).mpr ?_
    rw [h row hrow, lossOf_of_unverified hverified, nil_append]

lemma right_partialExitVerified (h : feed.Right positionId)
    (hrow : feed.store.get positionId = some row) (amount : ℕ) (received price : ℚ) (fee : ℕ)
    (time : DateTime) (signature : String) (percentage : ℚ) :
    (feed.step positionId ⟨.partialExitVerified positionId amount received price fee time signature
      percentage, answers, again⟩).Right positionId := by
  cases hrecorded : answers.exitLookup && feed.store.exitRecordExists positionId signature with
  | true =>
    exact right_of_same (.partialExitVerified positionId amount received price fee time signature
      percentage) h (congrArg Prod.fst (applyPartialExitVerified_of_recorded answers hrecorded
      amount received price fee time percentage))
  | false =>
    exact right_of_kept (.partialExitVerified positionId amount received price fee time signature
      percentage) rfl
      (frame_applyPartialExitVerified amount received price fee time signature percentage)
      (get_applyPartialExitVerified answers hrow hrecorded amount received price fee time
        percentage)
      (lossOf_soldBy answers.decimals row amount received price) (h row hrow)

lemma right_of_own_iff (h : feed.Right positionId)
    (hid : delivered.transition.positionId = some positionId)
    (horphan : ∀ id, delivered.transition ≠ .removeOrphanEntry id) :
    (feed.step positionId delivered).Right positionId ↔ feed.Admits positionId delivered := by
  obtain ⟨transition, answers, again⟩ := delivered
  cases hrow : feed.store.get positionId with
  | none =>
    obtain ⟨told, hframe⟩ := frame_applyTransition answers again feed.store hid horphan
    have hnone := get_eq_none_of_ids hframe.ids hrow
    refine iff_of_true (fun row hsome => ?_) (fun _ row hsome => ?_)
    · cases hnone.symm.trans hsome
    · cases hrow.symm.trans hsome
  | some row =>
    have htold := h row hrow
    cases transition with
    | updatePriceTracking mint price highest lowest => cases hid
    | removeOrphanEntry id => exact absurd rfl (horphan id)
    | entryVerified id price amount fee size =>
      obtain rfl := Option.some.inj hid
      refine iff_of_true ?_ fun _ _ _ => trivial
      exact right_of_kept (.entryVerified id price amount fee size) rfl
        (frame_applyEntryVerified price amount fee size)
        (get_applyEntryVerified answers hrow price amount fee size)
        (lossOf_congr rfl rfl rfl) htold
    | exitVerified id price received fee time =>
      obtain rfl := Option.some.inj hid
      exact iff_of_true (right_exitVerified h hrow price received fee time) fun _ _ _ => trivial
    | exitFailedClearForRetry id =>
      obtain rfl := Option.some.inj hid
      rw [right_iff_of_get (.exitFailedClearForRetry id) rfl frame_applyExitFailedClearForRetry
        (get_applyExitFailedClearForRetry answers hrow), append_nil, htold,
        @lossOf_of_unverified row.exitFailed rfl]
      simp [Admits, hrow, PositionTransition.positionId]
    | exitPermanentFailureSynthetic id time =>
      obtain rfl := Option.some.inj hid
      rw [right_iff_of_get (.exitPermanentFailureSynthetic id time) rfl
        (frame_applyExitSynthetic hrow time) (get_applyExitSynthetic answers hrow time), htold,
        told_synthetic_iff]
      simp [Admits, hrow, PositionTransition.positionId]
    | partialExitSubmitted | partialExitFailed | dcaSubmitted =>
      exact iff_of_true (right_of_same _ h rfl) fun _ _ _ => trivial
    | partialExitVerified id amount received price fee time signature percentage =>
      obtain rfl := Option.some.inj hid
      exact iff_of_true (right_partialExitVerified h hrow amount received price fee time
        signature percentage) fun _ _ _ => trivial
    | exitResidualClearForRetry id amount received price fee time signature percentage =>
      obtain rfl := Option.some.inj hid
      rw [right_residual_iff h hrow]
      simp [Admits, hrow, PositionTransition.positionId]
    | dcaVerified id tokens spent price fee time signature =>
      obtain rfl := Option.some.inj hid
      refine iff_of_true ?_ fun _ _ _ => trivial
      exact right_of_kept (.dcaVerified id tokens spent price fee time signature) rfl
        (frame_applyDcaVerified tokens spent price fee time signature)
        (get_applyDcaVerified answers hrow tokens spent price fee time signature)
        (lossOf_congr rfl rfl rfl) htold
    | dcaFailed id signature reason =>
      have hsame : (applyTransition answers again feed.store (.dcaFailed id signature
          reason)).1 = feed.store := by
        unfold applyTransition applyDcaFailed
        cases answers.pendingWrite <;> rfl
      exact iff_of_true (right_of_same _ h hsame) fun _ _ _ => trivial

lemma right_step (h : feed.Right positionId) (hdistinct : feed.Distinct) :
    ((feed.step positionId delivered).Right positionId ↔ feed.Admits positionId delivered) ∧
      (feed.step positionId delivered).Distinct := by
  obtain ⟨transition, answers, again⟩ := delivered
  by_cases horphan : ∃ id, transition = .removeOrphanEntry id
  · obtain ⟨id, rfl⟩ := horphan
    exact ⟨iff_of_true (h.of_orphan hdistinct) fun _ _ _ => trivial, hdistinct.of_orphan⟩
  have hno : ∀ id, transition ≠ .removeOrphanEntry id := fun id heq => horphan ⟨id, heq⟩
  cases hid : transition.positionId with
  | none =>
    cases transition with
    | updatePriceTracking mint price highest lowest =>
      exact ⟨iff_of_true h.of_price fun _ _ _ => trivial, hdistinct.of_price⟩
    | _ => cases hid
  | some id =>
    obtain ⟨told, hframe⟩ := frame_applyTransition answers again feed.store hid hno
    refine ⟨?_, hdistinct.of_ids hframe.ids⟩
    by_cases hown : id = positionId
    · subst hown
      exact right_of_own_iff h hid hno
    · refine iff_of_true (h.of_other hid hown hframe) fun hother => ?_
      exact absurd (Option.some.inj (hid.symm.trans hother)) hown

end Feed

/-- **The limiter was told of the loss of a position once, when it closed**, and of nothing else of
it, after every transition of a run exactly as long as every transition is admitted: whatever
transitions come in whatever order and as often as they come, and whatever the database answers. -/
theorem feedsOnce_iff (positionId : ℤ) (store : Store)
    (hdistinct : (store.positions.filterMap (·.id)).Nodup) (deliveries : List Delivered) :
    Throughout (Feed.step positionId)
        (fun feed delivered => (feed.step positionId delivered).Right positionId)
        (.start positionId store) deliveries ↔
      Throughout (Feed.step positionId) (Feed.Admits positionId) (.start positionId store)
        deliveries := by
  have hstart : (Feed.start positionId store).Right positionId := by
    intro row hrow
    have hget : store.get positionId = some row := hrow
    simp [Feed.start, hget]
  refine throughout_iff (fun feed => feed.Right positionId ∧ feed.Distinct) ⟨hstart, hdistinct⟩
    ?_ ?_
  · exact fun feed hfeed delivered _ => (Feed.right_step hfeed.1 hfeed.2).1
  · exact fun feed hfeed delivered _ hright => ⟨hright, (Feed.right_step hfeed.1 hfeed.2).2⟩

/-! ## A holding that is written off -/

/-- A store with a position of the bot and a round of the wallet. -/
def mixedStore : Store where
  positions :=
    [openedPosition (some 1) "MINT" "TKN" "Token" "open-sig" 2 2 .manual .userOnly 0,
      openedPosition (some 2) "HELD" "HLD" "Held" "held-sig" 3 3 .external .userOnly 0]
  entries := []
  exits := []
  losses := []

/-- A position of the bot that is written off, and whose close is verified afterwards. -/
theorem feedsOnce_iff_writtenOff :
    Throughout (Feed.step 1) (fun feed delivered => (feed.step 1 delivered).Right 1)
      (.start 1 mixedStore)
      [⟨.exitPermanentFailureSynthetic 1 10, .willing 10, .willing 10⟩,
        ⟨.exitVerified 1 3 1 5000 20, .willing 20, .willing 20⟩] := by
  refine (feedsOnce_iff 1 mixedStore (by decide) _).mpr ⟨fun _ row hrow => ?_, fun _ _ _ => trivial,
    trivial⟩
  obtain rfl := Option.some.inj hrow
  exact ⟨fun h => (by cases h), rfl⟩

/-- A round of the wallet is written off: the limiter is told of its cost. -/
theorem not_feedsOnce_walletDerived :
    ¬ ∀ (positionId : ℤ) (store : Store) (deliveries : List Delivered),
      (store.positions.filterMap (·.id)).Nodup →
      Throughout (Feed.step positionId)
        (fun feed delivered => (feed.step positionId delivered).Right positionId)
        (.start positionId store) deliveries := by
  intro h
  have hrun := h 2 mixedStore [⟨.exitPermanentFailureSynthetic 2 10, .willing 10, .willing 10⟩]
    (by decide)
  have hadmits := ((feedsOnce_iff 2 mixedStore (by decide) _).mp hrun).1 rfl _ rfl
  exact absurd (hadmits.1 rfl) (by decide +kernel)

end Dripline.Positions

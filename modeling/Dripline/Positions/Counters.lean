import Dripline.Found.Trace
import Dripline.Positions.Outcome

/-!
# Tokens held and tokens sold

The two token counters of a position over a run of verified transitions, whatever the database
answers.

* `conserves_iff` — held and sold add up to what was acquired exactly as long as they fit.
-/

namespace Dripline.Positions

open Dripline.Found.Trace

/-! ## The counters of a row -/

/-- The row of the id holds `remaining` tokens and has sold `exited`. -/
def Store.Holds (store : Store) (positionId : ℤ) (remaining exited : ℕ) : Prop :=
  ∃ row, store.get positionId = some row ∧ row.remainingTokenAmount = some remaining ∧
    row.totalExitedAmount = exited

variable {remaining exited : ℕ}

lemma Store.Holds.unique {store : Store} {positionId : ℤ} {remaining' exited' : ℕ}
    (h : store.Holds positionId remaining exited) (h' : store.Holds positionId remaining' exited') :
    remaining = remaining' ∧ exited = exited' := by
  obtain ⟨row, hrow, hremaining, hexited⟩ := h
  obtain ⟨row', hrow', hremaining', hexited'⟩ := h'
  obtain rfl : row = row' := Option.some.inj (hrow.symm.trans hrow')
  exact ⟨Option.some.inj (hremaining.symm.trans hremaining'), hexited.symm.trans hexited'⟩

section branches

variable {answers : Answers} {store : Store} {positionId : ℤ} {remaining exited : ℕ}

lemma holds_entryVerified {row : Position} (hrow : store.get positionId = some row)
    (hfresh : row.totalExitedAmount = 0) (price : ℚ) (amount fee : ℕ) (size : ℚ) :
    (applyEntryVerified answers store positionId price amount fee size).1.Holds positionId
      amount 0 :=
  ⟨_, get_applyEntryVerified answers hrow price amount fee size, rfl, hfresh⟩

lemma holds_partialExitVerified (h : store.Holds positionId remaining exited) {signature : String}
    (hnew : (answers.exitLookup && store.exitRecordExists positionId signature) = false)
    (amount : ℕ) (received price : ℚ) (fee : ℕ) (time : DateTime) (percentage : ℚ) :
    (applyPartialExitVerified answers store positionId amount received price fee time signature
      percentage).1.Holds positionId (remaining - amount) (wrappingAdd64 exited amount) := by
  obtain ⟨row, hrow, hremaining, hexited⟩ := h
  refine ⟨_, get_applyPartialExitVerified answers hrow hnew amount received price fee time
    percentage, ?_, ?_⟩
  · rw [row.soldBy_field answers.decimals (·.remainingTokenAmount) fun _ _ => rfl]
    simp [Position.partialExitVerified, hremaining]
  · rw [row.soldBy_field answers.decimals (·.totalExitedAmount) fun _ _ => rfl]
    simp [Position.partialExitVerified, hexited]

lemma holds_dcaVerified (h : store.Holds positionId remaining exited) (tokens : ℕ)
    (spent price : ℚ) (fee : ℕ) (time : DateTime) (signature : String) :
    (applyDcaVerified answers store positionId tokens spent price fee time signature).1.Holds
      positionId (wrappingAdd64 remaining tokens) exited := by
  obtain ⟨row, hrow, hremaining, hexited⟩ := h
  refine ⟨_, get_applyDcaVerified answers hrow tokens spent price fee time signature, ?_, hexited⟩
  simp [Position.addedBy, Position.dcaVerified, hremaining]

lemma holds_exitVerified (h : store.Holds positionId remaining exited)
    (hnew : (store.get positionId).any (·.transactionExitVerified) = false) (price received : ℚ)
    (fee : ℕ) (time : DateTime) :
    (applyExitVerified answers store positionId price received fee time).1.Holds positionId 0
      (wrappingAdd64 exited remaining) := by
  obtain ⟨row, hrow, hremaining, hexited⟩ := h
  have hunverified : row.transactionExitVerified = false := by
    rw [hrow] at hnew
    exact hnew
  refine ⟨_, get_applyExitVerified answers hrow hunverified price received fee time, ?_, ?_⟩
  · simp [Position.closedBy, Position.exitVerified, Position.withPnl, Position.rolledOut, hremaining]
  · simp [Position.closedBy, Position.exitVerified, Position.withPnl, Position.rolledOut, hremaining,
      hexited]

end branches

/-! ## Wrapping sums -/

lemma wrappingAdd64_lt (a b : ℕ) : wrappingAdd64 a b < 2 ^ 64 :=
  Nat.mod_lt _ (by decide)

lemma partial_sum_iff {amount : ℕ} (hexited : exited < 2 ^ 64) (hamount : amount < 2 ^ 64) :
    remaining - amount + wrappingAdd64 exited amount = remaining + exited ↔
      amount ≤ remaining ∧ exited + amount < 2 ^ 64 := by
  unfold wrappingAdd64
  omega

lemma add_sum_iff {tokens : ℕ} (hremaining : remaining < 2 ^ 64) (htokens : tokens < 2 ^ 64) :
    wrappingAdd64 remaining tokens + exited = remaining + exited + tokens ↔
      remaining + tokens < 2 ^ 64 := by
  unfold wrappingAdd64
  omega

lemma close_sum_iff (hremaining : remaining < 2 ^ 64) (hexited : exited < 2 ^ 64) :
    0 + wrappingAdd64 exited remaining = remaining + exited ↔ exited + remaining < 2 ^ 64 := by
  unfold wrappingAdd64
  omega

/-! ## Runs of verified transitions -/

/-- The tokens a transition says were bought. -/
def PositionTransition.tokensAcquired : PositionTransition → ℕ
  | .entryVerified _ _ amount _ _ => amount
  | .dcaVerified _ tokens _ _ _ _ _ => tokens
  | _ => 0

/-- A verified partial exit, add or close of one position, with amounts the chain can report. -/
def PositionTransition.IsVerifiedOf (positionId : ℤ) : PositionTransition → Prop
  | .partialExitVerified id amount _ _ _ _ _ _ => id = positionId ∧ amount < 2 ^ 64
  | .dcaVerified id tokens _ _ _ _ _ => id = positionId ∧ tokens < 2 ^ 64
  | .exitVerified id _ _ _ _ => id = positionId
  | _ => False

/-- A transition, and what the database answers while it is applied. -/
structure Reported where
  transition : PositionTransition
  answers : Answers

/-- The store, and the tokens bought so far. -/
structure Booking where
  store : Store
  acquired : ℕ

/-- One transition applied, whether or not it ends in an error. -/
def Booking.apply (booking : Booking) (reported : Reported) : Booking where
  store :=
    (applyTransition reported.answers reported.answers booking.store reported.transition).1
  acquired := booking.acquired + reported.transition.tokensAcquired

/-- Held and sold add up to what was bought. -/
def Booking.Conserves (positionId : ℤ) (booking : Booking) : Prop :=
  ∃ remaining exited, booking.store.Holds positionId remaining exited ∧
    remaining + exited = booking.acquired

/-- Neither counter loses tokens to the transition: a partial exit that is not recorded yet sells
no more than is held, and no sum leaves `u64`. -/
def Fits (positionId : ℤ) (booking : Booking) (reported : Reported) : Prop :=
  match reported.transition with
  | .partialExitVerified _ amount _ _ _ _ signature _ =>
    (reported.answers.exitLookup && booking.store.exitRecordExists positionId signature) = true ∨
    ∀ remaining exited, booking.store.Holds positionId remaining exited →
      amount ≤ remaining ∧ exited + amount < 2 ^ 64
  | .dcaVerified _ tokens _ _ _ _ _ =>
    ∀ remaining exited, booking.store.Holds positionId remaining exited →
      remaining + tokens < 2 ^ 64
  | .exitVerified _ _ _ _ _ =>
    (booking.store.get positionId).any (·.transactionExitVerified) = true ∨
    ∀ remaining exited, booking.store.Holds positionId remaining exited →
      exited + remaining < 2 ^ 64
  | _ => True

/-- Held and sold are `u64` counters that add up to what was bought. -/
def Booking.Balanced (positionId : ℤ) (booking : Booking) : Prop :=
  ∃ remaining exited, booking.store.Holds positionId remaining exited ∧
    remaining + exited = booking.acquired ∧ remaining < 2 ^ 64 ∧ exited < 2 ^ 64

section step

variable {positionId : ℤ} {booking : Booking} {reported : Reported}

lemma conserves_apply_iff {remaining exited : ℕ}
    (h : (booking.apply reported).store.Holds positionId remaining exited) :
    (booking.apply reported).Conserves positionId ↔
      remaining + exited = booking.acquired + reported.transition.tokensAcquired := by
  constructor
  · rintro ⟨remaining', exited', h', hsum⟩
    obtain ⟨rfl, rfl⟩ := h.unique h'
    exact hsum
  · intro hsum
    exact ⟨remaining, exited, h, hsum⟩

lemma apply_of_counters {remaining exited : ℕ}
    (hholds : (booking.apply reported).store.Holds positionId remaining exited)
    (hremaining : remaining < 2 ^ 64) (hexited : exited < 2 ^ 64)
    (hfits : remaining + exited = booking.acquired + reported.transition.tokensAcquired ↔
      Fits positionId booking reported) :
    ((booking.apply reported).Conserves positionId ↔ Fits positionId booking reported) ∧
    ((booking.apply reported).Conserves positionId →
      (booking.apply reported).Balanced positionId) := by
  refine ⟨(conserves_apply_iff hholds).trans hfits, ?_⟩
  intro hconserves
  exact ⟨remaining, exited, hholds, (conserves_apply_iff hholds).mp hconserves, hremaining,
    hexited⟩

lemma forall_holds_iff {store : Store} {remaining exited : ℕ}
    (hholds : store.Holds positionId remaining exited) {p : ℕ → ℕ → Prop} :
    (∀ r x, store.Holds positionId r x → p r x) ↔ p remaining exited := by
  constructor
  · exact fun h => h remaining exited hholds
  · intro h r x hrx
    obtain ⟨rfl, rfl⟩ := hholds.unique hrx
    exact h

lemma apply_of_isVerifiedOf (hbalanced : booking.Balanced positionId)
    (hverified : reported.transition.IsVerifiedOf positionId) :
    ((booking.apply reported).Conserves positionId ↔ Fits positionId booking reported) ∧
    ((booking.apply reported).Conserves positionId →
      (booking.apply reported).Balanced positionId) := by
  obtain ⟨remaining, exited, hholds, hsum, hremaining, hexited⟩ := hbalanced
  obtain ⟨transition, answers⟩ := reported
  cases transition with
  | partialExitVerified id amount received price fee time signature percentage =>
    obtain ⟨rfl, hamount⟩ := hverified
    cases hskip : answers.exitLookup && booking.store.exitRecordExists id signature with
    | true =>
      have hafter : (booking.apply ⟨.partialExitVerified id amount received price fee time
          signature percentage, answers⟩).store.Holds id remaining exited := by
        rw [Booking.apply, applyTransition, applyPartialExitVerified_of_recorded answers hskip]
        exact hholds
      exact apply_of_counters hafter hremaining hexited ⟨fun _ => Or.inl hskip, fun _ => hsum⟩
    | false =>
      refine apply_of_counters (holds_partialExitVerified hholds hskip amount received price fee
        time percentage) (by omega) (wrappingAdd64_lt _ _) ?_
      rw [← hsum]
      simp only [Fits, hskip, Bool.false_eq_true, false_or, forall_holds_iff hholds]
      exact partial_sum_iff hexited hamount
  | dcaVerified id tokens spent price fee time signature =>
    obtain ⟨rfl, htokens⟩ := hverified
    refine apply_of_counters (holds_dcaVerified hholds tokens spent price fee time signature)
      (wrappingAdd64_lt _ _) hexited ?_
    rw [← hsum]
    simp only [Fits, forall_holds_iff hholds]
    exact add_sum_iff hremaining htokens
  | exitVerified id price received fee time =>
    obtain rfl := hverified
    cases hskip : (booking.store.get id).any (·.transactionExitVerified) with
    | true =>
      have hafter : (booking.apply ⟨.exitVerified id price received fee time,
          answers⟩).store.Holds id remaining exited := by
        unfold Booking.apply applyTransition applyExitVerified
        simp only [hskip, if_true]
        exact hholds
      exact apply_of_counters hafter hremaining hexited ⟨fun _ => Or.inl hskip, fun _ => hsum⟩
    | false =>
      refine apply_of_counters (holds_exitVerified hholds hskip price received fee time)
        (by decide) (wrappingAdd64_lt _ _) ?_
      rw [← hsum]
      simp only [Fits, hskip, Bool.false_eq_true, false_or, forall_holds_iff hholds]
      exact close_sum_iff hremaining hexited
  | _ => exact hverified.elim

end step

/-- **Held and sold add up to what was bought** after every transition of a run exactly when every
transition fits: an entry of a row that has sold nothing yet, then verified partial exits, adds and
closes of the position in any order, whatever the database answers. -/
theorem conserves_iff (positionId : ℤ) (store : Store) (row : Position)
    (hrow : store.get positionId = some row) (hopened : row.totalExitedAmount = 0)
    (price : ℚ) (amount fee : ℕ) (size : ℚ) (hamount : amount < 2 ^ 64) (answers : Answers)
    (rest : List Reported) (hrest : ∀ r ∈ rest, r.transition.IsVerifiedOf positionId) :
    Throughout Booking.apply (fun booking r => (booking.apply r).Conserves positionId) ⟨store, 0⟩
        (⟨.entryVerified positionId price amount fee size, answers⟩ :: rest) ↔
      Throughout Booking.apply (Fits positionId) ⟨store, 0⟩
        (⟨.entryVerified positionId price amount fee size, answers⟩ :: rest) := by
  have hentry : ((⟨store, 0⟩ : Booking).apply
      ⟨.entryVerified positionId price amount fee size, answers⟩).Balanced positionId := by
    refine ⟨amount, 0, holds_entryVerified hrow hopened price amount fee size, ?_, hamount,
      by decide⟩
    show amount + 0 = 0 + amount
    omega
  have hconserves : ((⟨store, 0⟩ : Booking).apply
      ⟨.entryVerified positionId price amount fee size, answers⟩).Conserves positionId := by
    obtain ⟨remaining, exited, hholds, hsum, -⟩ := hentry
    exact ⟨remaining, exited, hholds, hsum⟩
  refine and_congr ⟨fun _ => trivial, fun _ => hconserves⟩ ?_
  refine throughout_iff (Booking.Balanced positionId) hentry ?_ ?_
  · intro booking hbalanced r hr
    exact (apply_of_isVerifiedOf hbalanced (hrest r hr)).1
  · intro booking hbalanced r hr
    exact (apply_of_isVerifiedOf hbalanced (hrest r hr)).2

/-! ## A sale of more than is held -/

/-- A store with one position, just opened. -/
def testStore : Store where
  positions := [openedPosition (some 1) "MINT" "TKN" "Token" "open-sig" 2 2
    (.auto (some "momentum")) .autoTrader 0]
  entries := []
  exits := []
  losses := []

/-- A database that answers everything. -/
def testAnswers : Answers := ⟨true, .ok (), true, .ok (), fun _ => some 6, 0⟩

/-- An entry and an add that fit. -/
theorem conserves_iff_bought :
    Throughout Booking.apply (fun booking r => (booking.apply r).Conserves 1) ⟨testStore, 0⟩
        [⟨.entryVerified 1 2 100 5000 2, testAnswers⟩,
          ⟨.dcaVerified 1 50 1 2 5000 0 "dca-sig", testAnswers⟩] ↔
      Throughout Booking.apply (Fits 1) ⟨testStore, 0⟩
        [⟨.entryVerified 1 2 100 5000 2, testAnswers⟩,
          ⟨.dcaVerified 1 50 1 2 5000 0 "dca-sig", testAnswers⟩] := by
  refine conserves_iff 1 testStore _ rfl rfl 2 100 5000 2 (by decide) testAnswers _ ?_
  intro r hr
  obtain rfl := List.mem_singleton.mp hr
  exact ⟨rfl, by decide⟩

/-- A partial exit of more tokens than the row holds sells tokens that were never bought. -/
theorem not_conserves_oversold :
    ¬ ∀ (positionId : ℤ) (store : Store) (row : Position) (price : ℚ) (amount fee : ℕ) (size : ℚ)
      (answers : Answers) (rest : List Reported), store.get positionId = some row →
      row.totalExitedAmount = 0 → row.remainingTokenAmount = none → amount < 2 ^ 64 →
      (∀ r ∈ rest, r.transition.IsVerifiedOf positionId) →
      Throughout Booking.apply (fun booking r => (booking.apply r).Conserves positionId)
        ⟨store, 0⟩ (⟨.entryVerified positionId price amount fee size, answers⟩ :: rest) := by
  intro h
  have hrun := h 1 testStore _ 2 100 5000 2 testAnswers
    [⟨.partialExitVerified 1 150 3 2 5000 0 "exit-sig" 100, testAnswers⟩] rfl rfl rfl (by decide)
    (fun r hr => by obtain rfl := List.mem_singleton.mp hr; exact ⟨rfl, by decide⟩)
  obtain ⟨-, ⟨remaining, exited, hholds, hsum⟩, -⟩ := hrun
  have hentry := @holds_entryVerified testAnswers testStore 1 _ rfl rfl 2 100 5000 2
  have hsold := @holds_partialExitVerified testAnswers _ 1 100 0 hentry "exit-sig" rfl 150 3 2 5000
    0 100
  obtain ⟨rfl, rfl⟩ := hsold.unique hholds
  exact absurd hsum (by decide)

end Dripline.Positions

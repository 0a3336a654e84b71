import Mathlib
import Dripline.Positions.Counters

/-!
# The average entry price and the split profit

Two figures of a position over a run of verified transitions: the average against the SOL spent over
all tokens that were ever bought, and the realized and the unrealized profit against the whole.

* `averaged_iff` — the average is right as long as every add finds all those tokens still held.
* `splits_throughout` — the parts make up the whole as long as a close comes after a partial exit.
-/

namespace Dripline.Positions

open Dripline.Found.Trace

/-- The average is what was spent over what was bought. -/
def Booking.Averaged (decimals : ℕ) (positionId : ℤ) (booking : Booking) : Prop :=
  ∃ row, booking.store.get positionId = some row ∧
    row.averageEntryPrice = row.totalSizeSol / uiTokenAmount booking.acquired decimals

/-- The tokens that an add leaves. Source: `apply.rs`, `remaining_tokens` in `DcaVerified` -/
def Position.heldAfter (row : Position) (tokensBought : ℕ) : ℕ :=
  match row.remainingTokenAmount with
  | some remaining => wrappingAdd64 remaining tokensBought
  | none => tokensBought

/-- An entry reports the price it paid; an add divides by all tokens that were ever bought, or leaves
an average that is right already. -/
def KeepsAverage (decimals : ℕ) (positionId : ℤ) (booking : Booking) (reported : Reported) : Prop :=
  match reported.transition with
  | .entryVerified _ price amount _ size =>
    price = size / uiTokenAmount (booking.acquired + amount) decimals
  | .dcaVerified _ tokens spent _ _ _ _ => ∀ row, booking.store.get positionId = some row →
    if 0 < row.heldAfter tokens ∧ 0 < row.totalSizeSol + spent then
      uiTokenAmount (row.heldAfter tokens) ((reported.answers.decimals row.mint).getD 9) =
        uiTokenAmount (booking.acquired + tokens) decimals
    else
      row.averageEntryPrice =
        (row.totalSizeSol + spent) / uiTokenAmount (booking.acquired + tokens) decimals
  | _ => True

section step

variable {decimals : ℕ} {positionId : ℤ} {booking : Booking} {reported : Reported}

lemma averaged_of_row {row : Position} (hrow : booking.store.get positionId = some row) :
    booking.Averaged decimals positionId ↔
      row.averageEntryPrice = row.totalSizeSol / uiTokenAmount booking.acquired decimals := by
  constructor
  · rintro ⟨row', hrow', haverage⟩
    obtain rfl := Option.some.inj (hrow.symm.trans hrow')
    exact haverage
  · exact fun haverage => ⟨row, hrow, haverage⟩

lemma averaged_of_same {row row' : Position} (hrow : booking.store.get positionId = some row)
    (hrow' : (booking.apply reported).store.get positionId = some row')
    (hnone : reported.transition.tokensAcquired = 0)
    (haverage : row'.averageEntryPrice = row.averageEntryPrice)
    (htotal : row'.totalSizeSol = row.totalSizeSol) (h : booking.Averaged decimals positionId) :
    (booking.apply reported).Averaged decimals positionId := by
  rw [averaged_of_row hrow', haverage, htotal, Booking.apply, hnone, Nat.add_zero]
  exact (averaged_of_row hrow).mp h

lemma averaged_addedBy_iff {row : Position} {dec : String → Option ℕ} {tokens acquired : ℕ}
    {spent : ℚ} {time : DateTime} :
    (row.addedBy dec tokens spent time).averageEntryPrice =
        (row.addedBy dec tokens spent time).totalSizeSol / uiTokenAmount acquired decimals ↔
      if 0 < row.heldAfter tokens ∧ 0 < row.totalSizeSol + spent then
        uiTokenAmount (row.heldAfter tokens) ((dec row.mint).getD 9) = uiTokenAmount acquired decimals
      else
        row.averageEntryPrice = (row.totalSizeSol + spent) / uiTokenAmount acquired decimals := by
  have haverage : (row.addedBy dec tokens spent time).averageEntryPrice =
      if 0 < row.heldAfter tokens ∧ 0 < row.totalSizeSol + spent then
        (row.totalSizeSol + spent) / uiTokenAmount (row.heldAfter tokens) ((dec row.mint).getD 9)
      else row.averageEntryPrice := rfl
  have htotal : (row.addedBy dec tokens spent time).totalSizeSol = row.totalSizeSol + spent := rfl
  rw [haverage, htotal]
  split_ifs with hpos
  · rw [div_eq_mul_inv, div_eq_mul_inv, mul_right_inj' hpos.2.ne', inv_inj]
  · rfl

lemma averaged_apply_iff (h : booking.Averaged decimals positionId)
    (hverified : reported.transition.IsVerifiedOf positionId) :
    (booking.apply reported).Averaged decimals positionId ↔
      KeepsAverage decimals positionId booking reported := by
  obtain ⟨row, hrow, -⟩ := id h
  obtain ⟨transition, answers⟩ := reported
  cases transition with
  | partialExitVerified id amount received price fee time signature percentage =>
    obtain ⟨rfl, -⟩ := hverified
    refine iff_of_true ?_ trivial
    cases hskip : answers.exitLookup && booking.store.exitRecordExists id signature with
    | true =>
      refine averaged_of_same hrow ?_ rfl rfl rfl h
      rw [Booking.apply, applyTransition, applyPartialExitVerified_of_recorded answers hskip]
      exact hrow
    | false =>
      refine averaged_of_same hrow (get_applyPartialExitVerified answers hrow hskip amount received
        price fee time percentage) rfl ?_ ?_ h
      · exact row.soldBy_field answers.decimals (·.averageEntryPrice) (fun _ _ => rfl) ..
      · exact row.soldBy_field answers.decimals (·.totalSizeSol) (fun _ _ => rfl) ..
  | dcaVerified id tokens spent price fee time signature =>
    obtain ⟨rfl, -⟩ := hverified
    rw [averaged_of_row (get_applyDcaVerified answers hrow tokens spent price fee time signature)]
    refine averaged_addedBy_iff.trans ⟨fun hkeeps row' hrow' => ?_, fun hkeeps => hkeeps row hrow⟩
    obtain rfl := Option.some.inj (hrow.symm.trans hrow')
    exact hkeeps
  | exitVerified id price received fee time =>
    obtain rfl := hverified
    refine iff_of_true ?_ trivial
    cases hskip : row.transactionExitVerified with
    | true =>
      refine averaged_of_same hrow ?_ rfl rfl rfl h
      have hany : (booking.store.get id).any (·.transactionExitVerified) = true := by
        rw [hrow]
        exact hskip
      unfold Booking.apply applyTransition applyExitVerified
      simp only [hany, if_true]
      exact hrow
    | false =>
      exact averaged_of_same hrow (get_applyExitVerified answers hrow hskip price received fee time)
        rfl rfl rfl h
  | _ => exact hverified.elim

end step

/-- **The average is the SOL spent over all tokens ever bought after every transition of a run
exactly when the entry reports the price it paid and every add divides by all of them**: in an entry,
then verified partial exits, adds and closes of the position in any order. -/
theorem averaged_iff (decimals : ℕ) (positionId : ℤ) (store : Store) (row : Position)
    (hrow : store.get positionId = some row) (price : ℚ) (amount fee : ℕ) (size : ℚ)
    (answers : Answers) (rest : List Reported)
    (hrest : ∀ r ∈ rest, r.transition.IsVerifiedOf positionId) :
    Throughout Booking.apply
        (fun booking r => (booking.apply r).Averaged decimals positionId) ⟨store, 0⟩
        (⟨.entryVerified positionId price amount fee size, answers⟩ :: rest) ↔
      Throughout Booking.apply (KeepsAverage decimals positionId) ⟨store, 0⟩
        (⟨.entryVerified positionId price amount fee size, answers⟩ :: rest) := by
  have hget : ((⟨store, 0⟩ : Booking).apply
      ⟨.entryVerified positionId price amount fee size, answers⟩).store.get positionId =
        some (row.entryVerified price amount fee size) :=
    get_applyEntryVerified answers hrow price amount fee size
  have hentry : ((⟨store, 0⟩ : Booking).apply
      ⟨.entryVerified positionId price amount fee size, answers⟩).Averaged decimals positionId ↔
        price = size / uiTokenAmount (0 + amount) decimals := averaged_of_row hget
  by_cases hprice : price = size / uiTokenAmount (0 + amount) decimals
  · refine and_congr (iff_of_true (hentry.mpr hprice) hprice) ?_
    refine throughout_iff (Booking.Averaged decimals positionId) (hentry.mpr hprice) ?_ ?_
    · intro booking haveraged r hr
      exact averaged_apply_iff haveraged (hrest r hr)
    · exact fun booking _ r _ hafter => hafter
  · exact iff_of_false (fun h => hprice (hentry.mp h.1)) fun h => hprice h.1

/-- An entry, and an add while everything is held. -/
theorem averaged_iff_bought :
    Throughout Booking.apply (fun booking r => (booking.apply r).Averaged 6 1) ⟨testStore, 0⟩
        [⟨.entryVerified 1 20000 100 5000 2, testAnswers⟩,
          ⟨.dcaVerified 1 50 1 20000 5000 0 "dca-sig", testAnswers⟩] ↔
      Throughout Booking.apply (KeepsAverage 6 1) ⟨testStore, 0⟩
        [⟨.entryVerified 1 20000 100 5000 2, testAnswers⟩,
          ⟨.dcaVerified 1 50 1 20000 5000 0 "dca-sig", testAnswers⟩] := by
  refine averaged_iff 6 1 testStore _ rfl 20000 100 5000 2 testAnswers _ ?_
  intro r hr
  obtain rfl := List.mem_singleton.mp hr
  exact ⟨rfl, by decide⟩

/-- Half of the entry is sold before the add, which divides by what is held. -/
theorem not_averaged :
    ¬∀ (decimals : ℕ) (positionId : ℤ) (store : Store) (row : Position) (amount fee : ℕ) (size : ℚ)
      (answers : Answers) (rest : List Reported), store.get positionId = some row →
      (∀ r ∈ rest, r.transition.IsVerifiedOf positionId) →
      (∀ r ∈ rest, ∀ mint, r.answers.decimals mint = some decimals) →
      Throughout Booking.apply (Fits positionId) ⟨store, 0⟩
        (⟨.entryVerified positionId (size / uiTokenAmount amount decimals) amount fee size, answers⟩ ::
          rest) →
      Throughout Booking.apply
        (fun booking r => (booking.apply r).Averaged decimals positionId) ⟨store, 0⟩
        (⟨.entryVerified positionId (size / uiTokenAmount amount decimals) amount fee size, answers⟩ ::
          rest) := by
  intro h
  have hrun := h 6 1 testStore _ 100 5000 2 testAnswers
    [⟨.partialExitVerified 1 50 1 20000 5000 0 "exit-sig" 50, testAnswers⟩,
      ⟨.dcaVerified 1 50 1 20000 5000 0 "dca-sig", testAnswers⟩] rfl
    (by simp [PositionTransition.IsVerifiedOf]) (by simp [testAnswers]) ?_
  · obtain ⟨-, -, ⟨row, hrow, haverage⟩, -⟩ := hrun
    have hfigures := congrArg (Option.map fun row => (row.averageEntryPrice, row.totalSizeSol)) hrow
    have hcomputed : some (row.averageEntryPrice, row.totalSizeSol) = some (30000, 3) :=
      hfigures.symm.trans (by decide +kernel)
    obtain ⟨h1, h2⟩ := Prod.mk.inj (Option.some.inj hcomputed)
    rw [h1, h2] at haverage
    revert haverage
    norm_num [uiTokenAmount, Booking.apply, PositionTransition.tokensAcquired]
  · have hentry := @holds_entryVerified testAnswers testStore 1 _ rfl rfl
      (2 / uiTokenAmount 100 6) 100 5000 2
    have hsold := @holds_partialExitVerified testAnswers _ 1 100 0 hentry "exit-sig" rfl 50 1 20000
      5000 0 50
    exact ⟨trivial, .inr ((forall_holds_iff hentry).mpr (by decide)),
      (forall_holds_iff hsold).mpr (by decide), trivial⟩

/-! ## The split profit -/

/-- Realized, unrealized, and both together in SOL and in percent. Source: `pnl.rs` -/
def calculateSplitPnl (decimals : String → Option ℕ) (position : Position)
    (currentPrice : Option ℚ) : ℚ × ℚ × ℚ × ℚ :=
  let entryPrice :=
    if 0 < position.averageEntryPrice then position.averageEntryPrice
    else position.legacyEntryPrice
  if entryPrice ≤ 0 then (0, 0, 0, 0)
  else
    let acquiredUnits :=
      wrappingAdd64 (position.remainingTokenAmount.getD 0) position.totalExitedAmount
    let acquired : ℚ :=
      if 0 < acquiredUnits then acquiredUnits else (position.tokenAmount.getD 1 : ℕ)
    let realized :=
      if 0 < position.totalExitedAmount ∧ position.averageExitPrice.isSome = true then
        position.solReceived.getD 0 - position.totalSizeSol * (position.totalExitedAmount / acquired) -
          feeSol position.exitFeeLamports
      else 0
    let unrealized :=
      match position.remainingTokenAmount, currentPrice with
      | some remaining, some current =>
        match decimals position.mint with
        | some d =>
          uiTokenAmount remaining d * current - position.totalSizeSol * (remaining / acquired) -
            feeSol position.entryFeeLamports * (remaining / acquired)
        | none => 0
      | none, some current =>
        if position.exitTime.isSome then 0
        else (calculatePositionPnl decimals position (some current)).1
      | _, none => 0
    let total := realized + unrealized
    (realized, unrealized, total, total / position.totalSizeSol * 100)

/-- Without its fees. -/
def Position.feeless (row : Position) : Position :=
  { row with entryFeeLamports := none, exitFeeLamports := none }

/-- The two parts make up the whole. -/
def Position.Splits (decimals : String → Option ℕ) (row : Position) (price : Option ℚ) : Prop :=
  (calculateSplitPnl decimals row price).1 + (calculateSplitPnl decimals row price).2.1 =
    (calculatePositionPnl decimals row price).1

/-- A price with the decimals of the mint, or none where nothing is sold or a close is booked. -/
def Position.Priced (decimals : String → Option ℕ) (row : Position) : Option ℚ → Prop
  | some current => 0 < current ∧ (decimals row.mint).isSome = true
  | none => row.totalExitedAmount = 0 ∨ row.exitTime.isSome = true ∧ row.exitPrice.isSome = true

/-- What the two calculations read agrees. -/
structure Position.SplitSound (row : Position) : Prop where
  held : ∃ remaining, row.remainingTokenAmount = some remaining ∧
    0 < remaining + row.totalExitedAmount ∧ remaining + row.totalExitedAmount < 2 ^ 64 ∧
      (row.exitTime.isSome = true → remaining = 0 ∧ row.solReceived.isSome = true)
  unsold : row.totalExitedAmount = 0 → row.solReceived.getD 0 = 0
  sold : 0 < row.totalExitedAmount → row.averageExitPrice.isSome = true

section split

variable {decimals : String → Option ℕ} {row : Position}

lemma Position.SplitSound.pnl (h : row.SplitSound) {remaining d : ℕ} {current : ℚ}
    (hentryFee : row.entryFeeLamports = none) (hexitFee : row.exitFeeLamports = none)
    (hremaining : row.remainingTokenAmount = some remaining)
    (hdecimals : decimals row.mint = some d) (hcurrent : 0 < current)
    (hentry : ¬(if 0 < row.averageEntryPrice then row.averageEntryPrice else row.legacyEntryPrice) ≤
      0) :
    (calculatePositionPnl decimals row (some current)).1 =
      uiTokenAmount remaining d * current + row.solReceived.getD 0 - row.totalSizeSol := by
  obtain ⟨_, hsame, -, -, hclosed⟩ := h.held
  obtain rfl := Option.some.inj (hremaining.symm.trans hsame)
  have hheld : row.heldAmount = some remaining := by simp [Position.heldAmount, hremaining]
  unfold calculatePositionPnl
  rw [if_neg hentry, if_neg (by simpa using hcurrent)]
  dsimp only
  split
  · rename_i price hprice
    obtain ⟨-, hprice⟩ := Option.ite_none_right_eq_some.mp hprice
    obtain rfl := Option.some.inj hprice
    simp [pnlClosing, hheld, hdecimals, pnlByValue, hentryFee, feeSol]
  · split
    · rename_i exitPrice hbooked
      obtain ⟨hexit, -⟩ := Option.ite_none_right_eq_some.mp hbooked
      obtain ⟨rfl, hreceived⟩ := hclosed hexit
      obtain ⟨received, hreceived⟩ := Option.isSome_iff_exists.mp hreceived
      simp [pnlClosed, hreceived, hentryFee, hexitFee, feeSol, uiTokenAmount]
    · simp [pnlOpen, hheld, hdecimals, pnlByValue, hentryFee, feeSol]

lemma Position.SplitSound.pnl_none (h : row.SplitSound)
    (hentryFee : row.entryFeeLamports = none) (hexitFee : row.exitFeeLamports = none)
    (hpriced : row.Priced decimals none)
    (hentry : ¬(if 0 < row.averageEntryPrice then row.averageEntryPrice else row.legacyEntryPrice) ≤
      0) :
    (calculatePositionPnl decimals row none).1 =
      if 0 < row.totalExitedAmount then row.solReceived.getD 0 - row.totalSizeSol else 0 := by
  obtain ⟨remaining, hremaining, hpos, -, hclosed⟩ := h.held
  unfold calculatePositionPnl
  rw [if_neg hentry]
  simp only [Option.any_none, Bool.false_eq_true, if_false, ite_self]
  rcases hpriced with hnone | ⟨hexit, hprice⟩
  · have hopen : ¬row.exitTime.isSome = true := by
      intro hexit
      have hzero := (hclosed hexit).1
      omega
    simp [hopen, hnone]
  · obtain ⟨exitPrice, hprice⟩ := Option.isSome_iff_exists.mp hprice
    obtain ⟨rfl, hreceived⟩ := hclosed hexit
    obtain ⟨received, hreceived⟩ := Option.isSome_iff_exists.mp hreceived
    have hsold : 0 < row.totalExitedAmount := by omega
    simp [hexit, hprice, pnlClosed, hreceived, hentryFee, hexitFee, feeSol, hsold]

lemma Position.SplitSound.splits (h : row.SplitSound)
    (hentryFee : row.entryFeeLamports = none) (hexitFee : row.exitFeeLamports = none)
    {price : Option ℚ} (hpriced : row.Priced decimals price) : row.Splits decimals price := by
  obtain ⟨remaining, hremaining, hpos, hword, hclosed⟩ := h.held
  unfold Splits
  by_cases hentry : (if 0 < row.averageEntryPrice then row.averageEntryPrice
      else row.legacyEntryPrice) ≤ 0
  · simp [calculateSplitPnl, calculatePositionPnl, hentry]
  have hunits : wrappingAdd64 remaining row.totalExitedAmount = remaining + row.totalExitedAmount :=
    Nat.mod_eq_of_lt hword
  have hacquired : ((remaining + row.totalExitedAmount : ℕ) : ℚ) ≠ 0 := by exact_mod_cast hpos.ne'
  -- the realized part is what came in less its share of the cost
  have hrealized : (calculateSplitPnl decimals row price).1 = row.solReceived.getD 0 -
      row.totalSizeSol * (row.totalExitedAmount / (remaining + row.totalExitedAmount : ℕ)) := by
    unfold calculateSplitPnl
    rw [if_neg hentry]
    simp only [hremaining, Option.getD_some, hunits, hpos, if_true, hexitFee]
    rcases Nat.eq_zero_or_pos row.totalExitedAmount with hnone | hsome
    · simp [hnone, h.unsold hnone]
    · rw [if_pos ⟨hsome, h.sold hsome⟩]
      simp [feeSol]
  rw [hrealized]
  rcases price with _ | current
  · rw [h.pnl_none hentryFee hexitFee hpriced hentry]
    have hunrealized : (calculateSplitPnl decimals row none).2.1 = 0 := by
      unfold calculateSplitPnl
      rw [if_neg hentry]
      simp [hremaining]
    rw [hunrealized]
    split_ifs with hsold
    · obtain ⟨rfl, -⟩ := hclosed (hpriced.resolve_left hsold.ne').1
      rw [Nat.zero_add] at hacquired ⊢
      rw [div_self hacquired]
      ring
    · have hnone : row.totalExitedAmount = 0 := by omega
      simp [hnone, h.unsold hnone]
  · obtain ⟨hcurrent, hsome⟩ := hpriced
    obtain ⟨d, hdecimals⟩ := Option.isSome_iff_exists.mp hsome
    rw [h.pnl hentryFee hexitFee hremaining hdecimals hcurrent hentry]
    have hunrealized : (calculateSplitPnl decimals row (some current)).2.1 =
        uiTokenAmount remaining d * current -
          row.totalSizeSol * (remaining / (remaining + row.totalExitedAmount : ℕ)) := by
      unfold calculateSplitPnl
      rw [if_neg hentry]
      simp [hremaining, hunits, hpos, hdecimals, hentryFee, feeSol]
    rw [hunrealized]
    push_cast at hacquired ⊢
    field_simp
    ring

end split

/-- A partial exit sells something, an add is to an open position, neither leaves 64 bits, and a
close comes after a partial exit. -/
def KeepsSplit (positionId : ℤ) (booking : Booking) (reported : Reported) : Prop :=
  ∀ row, booking.store.get positionId = some row →
    match reported.transition with
    | .entryVerified _ _ amount _ _ => 0 < amount ∧ amount < 2 ^ 64
    | .partialExitVerified _ amount _ _ _ _ signature _ =>
      (reported.answers.exitLookup && booking.store.exitRecordExists positionId signature) = true ∨
        0 < amount ∧ row.totalExitedAmount + max amount (row.remainingTokenAmount.getD 0) < 2 ^ 64
    | .dcaVerified _ tokens _ _ _ _ _ => row.exitTime = none ∧
        row.remainingTokenAmount.getD 0 + tokens + row.totalExitedAmount < 2 ^ 64
    | .exitVerified _ _ _ _ _ =>
      row.transactionExitVerified = true ∨ row.averageExitPrice.isSome = true
    | _ => True

/-- The row splits, without its fees, at every price that may be asked. -/
def Booking.Splits (positionId : ℤ) (booking : Booking) : Prop :=
  ∃ row, booking.store.get positionId = some row ∧
    ∀ decimals asked, row.Priced decimals asked → row.feeless.Splits decimals asked

section run

variable {positionId : ℤ} {booking : Booking} {reported : Reported}

lemma splitSound_apply {row : Position} (hrow : booking.store.get positionId = some row)
    (h : row.SplitSound) (hverified : reported.transition.IsVerifiedOf positionId)
    (hkeeps : KeepsSplit positionId booking reported) :
    ∃ row', (booking.apply reported).store.get positionId = some row' ∧ row'.SplitSound := by
  obtain ⟨remaining, hremaining, hpos, hword, hclosed⟩ := h.held
  obtain ⟨transition, answers⟩ := reported
  have hkeeps := hkeeps row hrow
  cases transition with
  | partialExitVerified id amount received price fee time signature percentage =>
    obtain ⟨rfl, -⟩ := hverified
    cases hskip : answers.exitLookup && booking.store.exitRecordExists id signature with
    | true =>
      refine ⟨row, ?_, h⟩
      rw [Booking.apply, applyTransition, applyPartialExitVerified_of_recorded answers hskip]
      exact hrow
    | false =>
      refine ⟨_, get_applyPartialExitVerified answers hrow hskip amount received price fee time
        percentage, ?_⟩
      obtain ⟨hsome, hfits⟩ := hkeeps.resolve_left (by simp [hskip])
      rw [hremaining, Option.getD_some] at hfits
      have hexited : wrappingAdd64 row.totalExitedAmount amount = row.totalExitedAmount + amount :=
        Nat.mod_eq_of_lt (by omega)
      have hsold : (row.partialExitVerified amount received price).SplitSound := by
        refine ⟨⟨remaining - amount, congrArg (Option.map (· - amount)) hremaining, ?_, ?_, ?_⟩, ?_, ?_⟩
        · show 0 < remaining - amount + wrappingAdd64 row.totalExitedAmount amount
          omega
        · show remaining - amount + wrappingAdd64 row.totalExitedAmount amount < 2 ^ 64
          omega
        · exact fun hexit => ⟨by rw [(hclosed hexit).1, Nat.zero_sub], rfl⟩
        · intro hnone
          have hnone : wrappingAdd64 row.totalExitedAmount amount = 0 := hnone
          omega
        · intro hpos
          have hpos : 0 < wrappingAdd64 row.totalExitedAmount amount := hpos
          simp only [Position.partialExitVerified, if_pos hpos]
          split <;> rfl
      unfold Position.soldBy Position.refreshed
      split
      · exact ⟨hsold.held, hsold.unsold, hsold.sold⟩
      · exact hsold
  | dcaVerified id tokens spent price fee time signature =>
    obtain ⟨rfl, -⟩ := hverified
    refine ⟨_, get_applyDcaVerified answers hrow tokens spent price fee time signature, ?_⟩
    obtain ⟨hopen, hfits⟩ := hkeeps
    rw [hremaining, Option.getD_some] at hfits
    have hheld : wrappingAdd64 remaining tokens = remaining + tokens :=
      Nat.mod_eq_of_lt (by omega)
    refine ⟨⟨remaining + tokens, ?_, ?_, ?_, fun hexit => ?_⟩, h.unsold, h.sold⟩
    · simp [Position.addedBy, Position.dcaVerified, hremaining, hheld]
    · show 0 < remaining + tokens + row.totalExitedAmount
      omega
    · exact hfits
    · have hexit : row.exitTime.isSome = true := hexit
      rw [hopen] at hexit
      cases hexit
  | exitVerified id price received fee time =>
    obtain rfl := hverified
    cases hskip : row.transactionExitVerified with
    | true =>
      refine ⟨row, ?_, h⟩
      rw [Booking.apply, applyTransition, applyExitVerified_of_verified answers hrow hskip]
      exact hrow
    | false =>
      refine ⟨_, get_applyExitVerified answers hrow hskip price received fee time, ?_⟩
      have hsold := hkeeps.resolve_left (by simp [hskip])
      have hexited : (row.closedBy answers.decimals price received fee time).totalExitedAmount =
          row.totalExitedAmount + remaining := by
        simp only [Position.closedBy, Position.exitVerified, Position.withPnl, Position.rolledOut,
          hremaining]
        exact Nat.mod_eq_of_lt (by omega)
      refine ⟨⟨0, congrArg (Option.map fun _ => 0) hremaining, ?_, ?_, fun _ => ⟨rfl, rfl⟩⟩, ?_, ?_⟩
      · omega
      · omega
      · omega
      · exact fun _ => hsold
  | _ => exact hverified.elim

end run

/-- **The realized and the unrealized profit make up the whole in every state of a run whose
transitions all keep what the two read**: an entry of a fresh row, then verified partial exits, adds
and closes of the position in any order, without the fees and at any price that is asked for. -/
theorem splits_throughout (positionId : ℤ) (store : Store) (row : Position)
    (hrow : store.get positionId = some row) (hunsold : row.totalExitedAmount = 0)
    (hreceived : row.solReceived = none) (hopen : row.exitTime = none) (price : ℚ)
    (amount fee : ℕ) (size : ℚ) (answers : Answers) (rest : List Reported)
    (hrest : ∀ r ∈ rest, r.transition.IsVerifiedOf positionId)
    (hkeeps : Throughout Booking.apply (KeepsSplit positionId) ⟨store, 0⟩
      (⟨.entryVerified positionId price amount fee size, answers⟩ :: rest)) :
    Throughout Booking.apply (fun booking r => (booking.apply r).Splits positionId) ⟨store, 0⟩
      (⟨.entryVerified positionId price amount fee size, answers⟩ :: rest) := by
  have hsplits : ∀ row' : Position, row'.SplitSound → ∀ decimals asked,
      row'.Priced decimals asked → row'.feeless.Splits decimals asked := by
    intro row' h decimals asked hpriced
    have hfeeless : row'.feeless.SplitSound := ⟨h.held, h.unsold, h.sold⟩
    refine hfeeless.splits rfl rfl ?_
    cases asked <;> exact hpriced
  have hentry : ∃ row', ((⟨store, 0⟩ : Booking).apply
      ⟨.entryVerified positionId price amount fee size, answers⟩).store.get positionId = some row' ∧
        row'.SplitSound := by
    refine ⟨_, get_applyEntryVerified answers hrow price amount fee size, ?_⟩
    obtain ⟨hamount, hword⟩ := hkeeps.1 row hrow
    refine ⟨⟨amount, rfl, Nat.add_pos_left hamount _, ?_, fun hexit => ?_⟩, fun _ => ?_, fun hpos => ?_⟩
    · show amount + row.totalExitedAmount < 2 ^ 64
      omega
    · have hexit : row.exitTime.isSome = true := hexit
      rw [hopen] at hexit
      cases hexit
    · show row.solReceived.getD 0 = 0
      rw [hreceived]
      rfl
    · exact absurd hunsold (Nat.pos_iff_ne_zero.mp hpos)
  refine ⟨?_, ?_⟩
  · obtain ⟨row', hrow', hsound⟩ := hentry
    exact ⟨row', hrow', hsplits row' hsound⟩
  · refine Throughout.keep (fun booking => ∃ row', booking.store.get positionId = some row' ∧
      row'.SplitSound) hentry ?_ hkeeps.2
    rintro booking ⟨row', hrow', hsound⟩ r hr hkeep
    obtain ⟨after, hafter, hsound'⟩ := splitSound_apply hrow' hsound (hrest r hr) hkeep
    exact ⟨⟨after, hafter, hsplits after hsound'⟩, after, hafter, hsound'⟩

/-- A partial exit, and the close. -/
theorem splits_throughout_sold :
    Throughout Booking.apply (fun booking r => (booking.apply r).Splits 1) ⟨testStore, 0⟩
      [⟨.entryVerified 1 20000 100 5000 2, testAnswers⟩,
        ⟨.partialExitVerified 1 50 3 60000 5000 0 "exit-sig" 50, testAnswers⟩,
        ⟨.exitVerified 1 60000 3 5000 0, testAnswers⟩] := by
  refine splits_throughout 1 testStore _ rfl rfl rfl rfl 20000 100 5000 2 testAnswers _ ?_ ?_
  · simp [PositionTransition.IsVerifiedOf]
  · refine ⟨?_, ?_, ?_, trivial⟩
    · rintro row ⟨⟩
      exact ⟨by decide, by decide⟩
    · rintro row ⟨⟩
      exact .inr ⟨by decide, by decide⟩
    · rintro row ⟨⟩
      exact .inr rfl

/-- A close without an earlier partial exit: 3 SOL came out of 2, and nothing is realized. -/
theorem not_splits_throughout :
    ¬∀ (positionId : ℤ) (store : Store) (row : Position) (price : ℚ) (amount fee : ℕ) (size : ℚ)
      (answers : Answers) (rest : List Reported), store.get positionId = some row →
      (∀ r ∈ rest, r.transition.IsVerifiedOf positionId) →
      Throughout Booking.apply (Fits positionId) ⟨store, 0⟩
        (⟨.entryVerified positionId price amount fee size, answers⟩ :: rest) →
      Throughout Booking.apply (fun booking r => (booking.apply r).Splits positionId) ⟨store, 0⟩
        (⟨.entryVerified positionId price amount fee size, answers⟩ :: rest) := by
  intro h
  have hrun :=
      h 1 testStore _ 20000 100 5000 2 testAnswers [⟨.exitVerified 1 30000 3 5000 0, testAnswers⟩]
    rfl (by simp [PositionTransition.IsVerifiedOf]) ?_
  · obtain ⟨-, ⟨row, hrow, hsplits⟩, -⟩ := hrun
    obtain rfl := Option.some.inj hrow
    have hsplit := hsplits (fun _ => some 6) (some 1) ⟨by norm_num, rfl⟩
    revert hsplit
    unfold Position.Splits
    decide +kernel
  · have hentry := @holds_entryVerified testAnswers testStore 1 _ rfl rfl 20000 100 5000 2
    exact ⟨trivial, .inr ((forall_holds_iff hentry).mpr (by decide)), trivial⟩

end Dripline.Positions

import Dripline.Positions.Ledger.Reducer

/-!
# What one row does to a round

One specification lemma per field of `Round.apply`.
-/

namespace Dripline.Positions.Ledger

open Dripline.Chain Dripline.Transactions Option

/-! ## The balance a row leaves -/

/-- The chain's balance before a row, where it is known and fits. -/
def reportedBefore (delta : SubjectAssetDelta) : Option ℤ := delta.beforeRaw.bind asI128

/-- The chain's balance after a row, where it is known and fits. -/
def reportedAfter (delta : SubjectAssetDelta) : Option ℤ := delta.afterRaw.bind asI128

/-- The balance a row starts from: the chain's, or the one carried so far. -/
def balanceBefore (balance : ℤ) (delta : SubjectAssetDelta) : ℤ :=
  max ((reportedBefore delta).getD balance) 0

/-- The balance a row leaves: the chain's, or what the arithmetic gives. -/
def carry (balance : ℤ) (delta : SubjectAssetDelta) : ℤ :=
  (reportedAfter delta).getD (max (balanceBefore balance delta + delta.deltaRaw) 0)

lemma carry_nonneg (balance : ℤ) (delta : SubjectAssetDelta) : 0 ≤ carry balance delta := by
  unfold carry reportedAfter
  cases h : delta.afterRaw.bind asI128 with
  | none => exact le_max_right _ _
  | some v =>
    obtain ⟨_, -, hv⟩ := bind_eq_some_iff.mp h
    exact asI128_nonneg hv

/-- The chain's balances around a row agree with the running balance, and a disposal finds
something to dispose of. -/
structure Reconciles (balance : ℤ) (delta : SubjectAssetDelta) : Prop where
  before : reportedBefore delta = some balance
  after : reportedAfter delta = some (max (max balance 0 + delta.deltaRaw) 0)
  covered : delta.deltaRaw ≤ 0 → 0 < balance

variable {balance : ℤ}

lemma reconciles_iff {delta : SubjectAssetDelta} : Reconciles balance delta ↔
    reportedBefore delta = some balance ∧
      reportedAfter delta = some (max (balanceBefore balance delta + delta.deltaRaw) 0) ∧
      (0 < delta.deltaRaw ∨ 0 < balanceBefore balance delta) := by
  constructor
  · intro h
    have hbefore : balanceBefore balance delta = max balance 0 := by
      simp [balanceBefore, h.before]
    have hcovered := h.covered
    refine ⟨h.before, by rw [hbefore]; exact h.after, ?_⟩
    rw [hbefore]
    omega
  · rintro ⟨hb, ha, hc⟩
    have hbefore : balanceBefore balance delta = max balance 0 := by simp [balanceBefore, hb]
    rw [hbefore] at ha hc
    exact ⟨hb, ha, by omega⟩

lemma Reconciles.nonneg {delta : SubjectAssetDelta} (h : Reconciles balance delta) :
    0 ≤ balance := by
  obtain ⟨_, -, hv⟩ := bind_eq_some_iff.mp h.before
  exact asI128_nonneg hv

lemma Reconciles.carry_eq {delta : SubjectAssetDelta} (h : Reconciles balance delta) :
    carry balance delta = max (balance + delta.deltaRaw) 0 := by
  simp [carry, h.after, max_eq_left h.nonneg]

/-! ## The event a row leaves -/

/-- The decimals in force: the first that are not zero. -/
def scale (decimals : ℕ) (delta : SubjectAssetDelta) : ℕ :=
  if decimals == 0 then delta.decimals else decimals

/-- The movement came out of a trade. -/
def LedgerEventKind.isTrade : LedgerEventKind → Bool
  | entry | add | partialExit | exit => true
  | receive | send => false

lemma Round.acquisitionKind_isAcquisition (traded : Bool) (before : ℤ) :
    (Round.acquisitionKind traded before).isAcquisition = true := by
  unfold Round.acquisitionKind
  split
  · split <;> rfl
  · rfl

lemma Round.acquisitionKind_isTrade (traded : Bool) (before : ℤ) :
    (Round.acquisitionKind traded before).isTrade = traded := by
  cases traded
  · rfl
  · by_cases h : before ≤ 0 <;> simp [Round.acquisitionKind, LedgerEventKind.isTrade, h]

lemma Round.disposalKind_isAcquisition (traded closing : Bool) :
    (Round.disposalKind traded closing).isAcquisition = false := by
  cases traded <;> cases closing <;> rfl

lemma Round.disposalKind_isTrade (traded closing : Bool) :
    (Round.disposalKind traded closing).isTrade = traded := by
  cases traded <;> cases closing <;> rfl

/-- An event records a row: the same transaction, the same direction, and a trade exactly when the
row was one. -/
structure EventOf (delta : SubjectAssetDelta) (event : LedgerEvent) : Prop where
  signature : event.signature = delta.signature
  slot : event.slot = delta.slot
  blockTime : event.blockTime = delta.blockTime
  venue : event.venue = delta.venue
  acquisition : event.kind.isAcquisition = decide (0 < delta.deltaRaw)
  trade : event.kind.isTrade = (delta.kind == .trade)

/-- The SOL an acquisition was traded for, when that is what it was traded for. -/
def solQuote (group : List SubjectAssetDelta) (delta : SubjectAssetDelta) : Option ℚ :=
  if delta.kind == .trade then
    (quoteFor group delta.mint true).bind fun leg =>
      if leg.asset == .sol then some leg.amount else none
  else none

variable {q : ℚ}

lemma solQuote_eq_some {group : List SubjectAssetDelta} {delta : SubjectAssetDelta} :
    solQuote group delta = some q ↔
      delta.kind = .trade ∧ quoteFor group delta.mint true = some ⟨.sol, q⟩ := by
  unfold solQuote
  by_cases hk : delta.kind = .trade
  · cases hq : quoteFor group delta.mint true with
    | none => simp
    | some leg =>
      obtain ⟨asset, amount⟩ := leg
      cases asset <;> simp [hk]
  · simp [hk]

variable {acquisition : Bool} {mint : String}

lemma findQuote_pos {group : List SubjectAssetDelta} {wanted : String → Bool} {amount : ℚ}
    (h : findQuote group mint acquisition wanted = some amount) : 0 < amount := by
  obtain ⟨delta, -, hd⟩ := List.exists_of_findSome?_eq_some h
  have hcand : quoteCandidate mint acquisition delta = some amount := by
    split at hd
    · exact hd
    · cases hd
  unfold quoteCandidate at hcand
  split at hcand
  next hmoves =>
    have hne : delta.deltaRaw ≠ 0 := by
      intro h0
      cases acquisition <;> simp [matchesDirection, h0] at hmoves
    rw [← Option.some.inj hcand]
    exact rawToWhole_pos (abs_pos.mpr hne) _
  next => cases hcand

lemma quoteFor_amount_pos {group : List SubjectAssetDelta} {leg : QuoteLeg}
    (h : quoteFor group mint acquisition = some leg) : 0 < leg.amount := by
  unfold quoteFor at h
  dsimp only at h
  split at h
  next => cases h
  next =>
    rcases or_eq_some_iff.mp h with h | ⟨-, h⟩
    · obtain ⟨amount, hamount, rfl⟩ := map_eq_some_iff.mp h
      rcases or_eq_some_iff.mp hamount with hamount | ⟨-, hamount⟩
      · exact findQuote_pos hamount
      · exact findQuote_pos hamount
    · obtain ⟨amount, hamount, rfl⟩ := map_eq_some_iff.mp h
      exact findQuote_pos hamount

lemma solQuote_pos {group : List SubjectAssetDelta} {delta : SubjectAssetDelta}
    (h : solQuote group delta = some q) : 0 < q :=
  quoteFor_amount_pos (solQuote_eq_some.mp h).2

/-! ## One row, field by field -/

namespace Round

section fields

variable (r : Round) (group : List SubjectAssetDelta) (delta : SubjectAssetDelta)

@[simp] lemma apply_mint : (r.apply group delta).mint = r.mint := by
  simp only [apply]
  split <;> rfl

@[simp] lemma apply_roundKey : (r.apply group delta).roundKey = r.roundKey := by
  simp only [apply]
  split <;> rfl

@[simp] lemma apply_decimals : (r.apply group delta).decimals = scale r.decimals delta := by
  simp only [apply]
  split <;> rfl

@[simp] lemma apply_balance : (r.apply group delta).balance = carry r.balance delta := by
  simp only [apply]
  split <;> rfl

lemma apply_openedAt : (r.apply group delta).openedAt =
    if 0 < delta.deltaRaw ∧ r.openedAt = none ∧ balanceBefore r.balance delta ≤ 0
    then delta.blockTime else r.openedAt := by
  simp only [apply]
  split
  next h =>
    simp only [applyAcquisition, reconcileBefore, balanceBefore, reportedBefore, h, true_and,
      Bool.and_eq_true, isNone_iff_eq_none, decide_eq_true_eq]
  next h => simp [applyDisposal, reconcileBefore, h]

lemma apply_historyComplete : (r.apply group delta).historyComplete = true ↔
    r.historyComplete = true ∧ Reconciles r.balance delta := by
  have hflag : (r.apply group delta).historyComplete =
      (((r.historyComplete && reportedBefore delta == some r.balance) &&
        reportedAfter delta == some (max (balanceBefore r.balance delta + delta.deltaRaw) 0)) &&
        (decide (0 < delta.deltaRaw) || decide (0 < balanceBefore r.balance delta))) := by
    simp only [apply]
    split
    next h => rw [decide_eq_true h, Bool.true_or, Bool.and_true]; rfl
    next h => rw [decide_eq_false h, Bool.false_or]; rfl
  rw [hflag, reconciles_iff]
  simp only [Bool.and_eq_true, Bool.or_eq_true, beq_iff_eq, decide_eq_true_eq, and_assoc]

lemma apply_events : ∃ event, (r.apply group delta).events = r.events ++ [event] ∧
    EventOf delta event ∧
    event.quote =
      if delta.kind = .trade then quoteFor group delta.mint (decide (0 < delta.deltaRaw))
      else none := by
  simp only [apply]
  split
  next h =>
    refine ⟨_, rfl, ⟨rfl, rfl, rfl, rfl, ?_, ?_⟩, ?_⟩
    · rw [decide_eq_true h]
      exact acquisitionKind_isAcquisition _ _
    · exact acquisitionKind_isTrade _ _
    · simp only [beq_iff_eq, decide_eq_true h]
  next h =>
    refine ⟨_, rfl, ⟨rfl, rfl, rfl, rfl, ?_, ?_⟩, ?_⟩
    · rw [decide_eq_false h]
      exact disposalKind_isAcquisition _ _
    · exact disposalKind_isTrade _ _
    · simp only [beq_iff_eq, decide_eq_false h]

lemma apply_totals (h : Reconciles r.balance delta) :
    (r.apply group delta).totalAcquired =
        r.totalAcquired + max delta.deltaRaw 0 ∧
      (r.apply group delta).totalDisposed =
        r.totalDisposed + max (min (-delta.deltaRaw) r.balance) 0 := by
  have hbefore : delta.beforeRaw.bind asI128 = some r.balance := h.before
  have hnonneg := h.nonneg
  have hcovered := h.covered
  simp only [apply]
  split
  next hpos =>
    refine ⟨?_, ?_⟩
    · simp [applyAcquisition, reconcileBefore, hbefore, max_eq_left hpos.le]
    · have : max (min (-delta.deltaRaw) r.balance) 0 = 0 := by omega
      simp [applyAcquisition, reconcileBefore, this]
  next hpos =>
    have hbal := hcovered (by omega)
    refine ⟨?_, ?_⟩
    · simp [applyDisposal, reconcileBefore, hbefore, max_eq_right (not_lt.mp hpos)]
    · have : max (min (-delta.deltaRaw) r.balance) 0 = min (-delta.deltaRaw) r.balance := by omega
      simp [applyDisposal, reconcileBefore, hbefore, this, hbal, max_eq_left hnonneg]

lemma acceptQuote_snd {r : Round} (hq : r.quoteAsset ≠ some .usd) (leg : QuoteLeg) :
    (r.acceptQuote leg).2 = (leg.asset == .sol) := by
  obtain ⟨asset, amount⟩ := leg
  rcases hr : r.quoteAsset with _ | ⟨_ | _⟩
  · cases asset <;> simp [acceptQuote, hr]
  · cases asset <;> simp [acceptQuote, hr]
  · exact absurd hr hq

lemma acceptQuote_basisComplete {r : Round} (hq : r.quoteAsset ≠ some .usd) (leg : QuoteLeg) :
    (r.acceptQuote leg).1.basisComplete = (r.basisComplete && leg.asset == .sol) := by
  have h := acceptQuote_snd hq leg
  simp only [acceptQuote] at h ⊢
  rw [h]

lemma acceptQuote_quoteAsset {r : Round} (hq : r.quoteAsset ≠ some .usd) {leg : QuoteLeg}
    (hleg : leg.asset = .sol) : (r.acceptQuote leg).1.quoteAsset = some .sol := by
  rcases hr : r.quoteAsset with _ | ⟨_ | _⟩
  · simp [acceptQuote, hr, hleg]
  · simp [acceptQuote, hr, hleg]
  · exact absurd hr hq

variable {r} in
lemma apply_basisComplete (hq : r.quoteAsset ≠ some .usd) :
    (r.apply group delta).basisComplete = true ↔
      r.basisComplete = true ∧ Reconciles r.balance delta ∧
        (0 < delta.deltaRaw → (solQuote group delta).isSome = true) := by
  rw [reconciles_iff]
  simp only [apply]
  split
  next h =>
    simp only [applyAcquisition, solQuote]
    cases hk : delta.kind == .trade
    · simp [h]
    · cases hquote : quoteFor group delta.mint true with
      | none => simp [h]
      | some leg =>
        rw [if_pos rfl, if_pos rfl]
        dsimp only
        rw [acceptQuote_basisComplete (by exact hq)]
        cases hasset : leg.asset <;>
          simp [reconcileBefore, reportedBefore, reportedAfter, balanceBefore, h, hasset,
            and_assoc]
  next h =>
    simp [applyDisposal, reconcileBefore, reportedBefore, reportedAfter, balanceBefore, h,
      and_assoc]

lemma basisComplete_of_apply (h : (r.apply group delta).basisComplete = true) :
    r.basisComplete = true := by
  simp only [apply] at h
  split at h
  next =>
    simp only [applyAcquisition] at h
    split at h
    next => simp [acceptQuote, reconcileBefore] at h; tauto
    next => simp at h
  next =>
    simp [applyDisposal, reconcileBefore] at h
    tauto

variable {r} in
lemma apply_invested (hq : r.quoteAsset ≠ some .usd) : (r.apply group delta).invested =
    r.invested + if 0 < delta.deltaRaw ∧ dust < rawToWhole delta.deltaRaw (scale r.decimals delta)
      then (solQuote group delta).getD 0 else 0 := by
  simp only [apply]
  split
  next h =>
    simp only [applyAcquisition, solQuote, h, true_and]
    cases hk : delta.kind == .trade
    · simp [reconcileBefore]
    · cases hquote : quoteFor group delta.mint true with
      | none => simp [reconcileBefore]
      | some leg =>
        rw [if_pos rfl, if_pos rfl]
        dsimp only
        rw [acceptQuote_snd (by exact hq)]
        by_cases hdust : dust <
            rawToWhole delta.deltaRaw (if r.decimals = 0 then delta.decimals else r.decimals) <;>
          cases hasset : leg.asset <;> simp [reconcileBefore, scale, hdust, hasset]
  next h => simp [applyDisposal, reconcileBefore, h]

variable {r group delta} in
lemma apply_quoteAsset (hq : r.quoteAsset ≠ some .usd)
    (hsol : 0 < delta.deltaRaw → (solQuote group delta).isSome = true) :
    (r.apply group delta).quoteAsset =
      if 0 < delta.deltaRaw then some .sol else r.quoteAsset := by
  simp only [apply]
  split
  next h =>
    obtain ⟨q, hsome⟩ := isSome_iff_exists.mp (hsol h)
    obtain ⟨hk, hquote⟩ := solQuote_eq_some.mp hsome
    simp only [applyAcquisition, hk, beq_self_eq_true, if_true, hquote]
    exact acceptQuote_quoteAsset (by exact hq) rfl
  next h => simp [applyDisposal, reconcileBefore]

lemma apply_entryCount_pos
    (h : 0 < r.entryCount ∨ (0 < delta.deltaRaw ∧ delta.kind = .trade)) :
    0 < (r.apply group delta).entryCount := by
  simp only [apply]
  split
  next hpos =>
    cases hk : delta.kind == .trade
    · have hcount : 0 < r.entryCount := by
        rcases h with h | ⟨-, h⟩
        · exact h
        · simp [h] at hk
      simpa [applyAcquisition, reconcileBefore, hk] using hcount
    · simp [applyAcquisition, hk, saturatingSucc]
  next hpos =>
    have hcount : 0 < r.entryCount := h.resolve_right fun h => hpos h.1
    simpa [applyDisposal, reconcileBefore] using hcount

lemma allocatedBasis_nonneg {remainingBasis : ℚ} (h : 0 ≤ remainingBasis)
    (amountRaw before : ℤ) : 0 ≤ allocatedBasis remainingBasis amountRaw before := by
  unfold allocatedBasis
  split
  · exact mul_nonneg h (le_max_left _ _)
  · exact le_refl _

variable {r} in
lemma apply_remainingBasis (h0 : 0 ≤ r.remainingBasis) (h1 : r.remainingBasis ≤ r.invested) :
    0 ≤ (r.apply group delta).remainingBasis ∧
      (r.apply group delta).remainingBasis ≤ (r.apply group delta).invested := by
  simp only [apply]
  split
  next hpos =>
    -- both grow by the same amount, which is the amount of a quote
    have hpaid : ∀ (c : Bool) (leg : Option QuoteLeg), (∀ l, leg = some l → 0 < l.amount) →
        0 ≤ (if c then leg.map (·.amount) else none).getD 0 := by
      intro c leg hleg
      cases c
      · simp
      · cases leg with
        | none => simp
        | some l => simpa using (hleg l rfl).le
    have hquote : ∀ l, (if delta.kind == .trade then quoteFor group delta.mint true else none)
        = some l → 0 < l.amount := by
      intro l hl
      split at hl
      · exact quoteFor_amount_pos hl
      · cases hl
    refine ⟨add_nonneg h0 (hpaid _ _ hquote), ?_⟩
    exact add_le_add_left h1 _
  next hpos =>
    simp only [applyDisposal, reconcileBefore]
    split
    · exact ⟨le_refl _, h0.trans h1⟩
    · refine ⟨le_max_right _ _, max_le ?_ (h0.trans h1)⟩
      exact (sub_le_self _ (allocatedBasis_nonneg h0 _ _)).trans h1

end fields

/-! ## Conservation -/

/-- While its history is complete, what came into a round is still held or went out. -/
def Conserves (r : Round) : Prop :=
  r.historyComplete = true →
    0 ≤ r.totalDisposed ∧ r.balance + r.totalDisposed = r.totalAcquired

lemma Conserves.apply {r : Round} (h : r.Conserves) (group : List SubjectAssetDelta)
    (delta : SubjectAssetDelta) : (r.apply group delta).Conserves := by
  intro hcomplete
  obtain ⟨hr, hrec⟩ := (apply_historyComplete r group delta).mp hcomplete
  obtain ⟨hdisposed, hbalance⟩ := h hr
  obtain ⟨hacq, hdis⟩ := apply_totals r group delta hrec
  have hcarry := hrec.carry_eq
  have hnonneg := hrec.nonneg
  rw [apply_balance, hacq, hdis]
  omega

end Round

end Dripline.Positions.Ledger

import Dripline.Positions.Ledger.Conservation
import Dripline.Positions.Ledger.Keys

/-!
# The ledger laid against the wallet

What `reconcileWithWallet` promises its caller, and when it keeps the promise: the source looks the
holdings up by mint, but the caller passes one holding for every token account, the wrapped SOL
account included.

* `settled_iff` — the reconciled rounds are settled exactly for such holdings.
-/

namespace Dripline.Positions.Ledger

open Dripline.Chain Dripline.Transactions List

/-! ## Holdings -/

/-- The holdings that hold something. -/
def nonZero (holdings : List WalletHolding) : List WalletHolding :=
  holdings.filter (0 < ·.amountRaw)

/-- What the wallet holds of a mint, over all its token accounts. -/
def heldRaw (holdings : List WalletHolding) (mint : String) : ℕ :=
  (((nonZero holdings).filter (·.mint = mint)).map (·.amountRaw)).sum

/-- Rounds settled with a wallet. -/
structure Settled (holdings : List WalletHolding) (rounds : List LedgerRound) : Prop where
  keys : (rounds.map (·.roundKey)).Nodup
  oneOpen : ∀ mint, (rounds.filter (·.mint = mint)).countP (·.isOpen) ≤ 1
  balance : ∀ round ∈ rounds, round.isOpen = true →
    round.balanceRaw = heldRaw holdings round.mint
  held : ∀ round ∈ rounds, round.isOpen = true → ∃ h ∈ nonZero holdings, h.mint = round.mint
  noReference : ∀ round ∈ rounds, isReferenceAsset round.mint = false

/-- The non-zero holdings are of pairwise distinct mints that can be positions. -/
structure OneAccountPerMint (holdings : List WalletHolding) : Prop where
  distinct : ((nonZero holdings).map (·.mint)).Nodup
  noReference : ∀ h ∈ nonZero holdings, isReferenceAsset h.mint = false

instance (holdings : List WalletHolding) : Decidable (OneAccountPerMint holdings) :=
  decidable_of_iff (((nonZero holdings).map (·.mint)).Nodup ∧
      ∀ h ∈ nonZero holdings, isReferenceAsset h.mint = false)
    ⟨fun h => ⟨h.1, h.2⟩, fun h => ⟨h.distinct, h.noReference⟩⟩

variable {h : WalletHolding} {holdings : List WalletHolding}

lemma heldRaw_of_distinct (hdistinct : ((nonZero holdings).map (·.mint)).Nodup)
    (hh : h ∈ nonZero holdings) : heldRaw holdings h.mint = h.amountRaw := by
  have hfilter : (nonZero holdings).filter (·.mint = h.mint) = [h] := by
    have hnodup : (nonZero holdings).Nodup := List.Nodup.of_map _ hdistinct
    have hmem : ∀ x, x ∈ (nonZero holdings).filter (·.mint = h.mint) ↔ x = h := by
      intro x
      rw [mem_filter]
      constructor
      · rintro ⟨hx, hmint⟩
        exact inj_on_of_nodup_map hdistinct hx hh (by simpa using hmint)
      · rintro rfl
        exact ⟨hh, by simp⟩
    have hperm := (perm_ext_iff_of_nodup (hnodup.filter _) (nodup_singleton h)).mpr
      fun x => by rw [hmem, mem_singleton]
    exact perm_singleton.mp hperm
  rw [heldRaw, hfilter]
  simp

variable {mint : String}

lemma mem_of_onChain_pos (h : 0 < onChain holdings mint) :
    ∃ x ∈ nonZero holdings, x.mint = mint ∧ x.amountRaw = onChain holdings mint := by
  unfold onChain at h ⊢
  cases hlast : (holdings.filter (·.mint == mint)).getLast? with
  | none => simp [hlast] at h
  | some x =>
    rw [hlast] at h
    obtain ⟨hx, hmint⟩ := mem_filter.mp (mem_of_getLast? hlast)
    exact ⟨x, mem_filter.mpr ⟨hx, by simpa using h⟩, by simpa using hmint, rfl⟩

lemma count_of_onChain_eq_heldRaw (hpos : 0 < onChain holdings mint)
    (heq : onChain holdings mint = heldRaw holdings mint) :
    ((nonZero holdings).map (·.mint)).count mint ≤ 1 := by
  have hsplit : (nonZero holdings).filter (·.mint = mint) =
      (holdings.filter (·.mint == mint)).filter (0 < ·.amountRaw) := by
    rw [nonZero, filter_filter, filter_filter]
    apply filter_congr
    intro h _
    rw [Bool.and_comm]
    rfl
  have hcount : ((nonZero holdings).map (·.mint)).count mint =
      ((nonZero holdings).filter (·.mint = mint)).length := by
    rw [count_eq_countP, countP_map, countP_eq_length_filter]
    congr 1
  rw [heldRaw, hsplit] at heq
  rw [hcount, hsplit]
  unfold onChain at hpos heq
  rcases eq_nil_or_concat' (holdings.filter (·.mint == mint)) with h | ⟨init, last, h⟩
  · simp [h]
  · rw [h, List.getLast?_concat] at heq hpos
    simp only [Option.map_some, Option.getD_some] at heq hpos
    rw [h, filter_append, length_append]
    rw [filter_append, map_append, sum_append] at heq
    have hlast : [last].filter (0 < ·.amountRaw) = [last] := by simp [hpos]
    rw [hlast] at heq ⊢
    have hzero : ((init.filter (0 < ·.amountRaw)).map (·.amountRaw)).sum = 0 := by
      simp at heq
      simpa using heq
    have hnil : init.filter (0 < ·.amountRaw) = [] := by
      rw [filter_eq_nil_iff]
      intro x hx hxpos
      have := List.sum_eq_zero_iff_forall_eq_nat.mp hzero x.amountRaw
        (mem_map_of_mem (mem_filter.mpr ⟨hx, hxpos⟩))
      simp [this] at hxpos
    simp [hnil]

/-! ## Rounds laid against the holdings -/

/-- A round the wallet disagrees with: it takes the wallet's amount and loses its flags. -/
def LedgerRound.overruled (round : LedgerRound) (actual : ℕ) : LedgerRound :=
  { round with
    balanceRaw := actual
    historyComplete := false
    basisComplete := false
    realizedPnlSol := none
    averageEntryPriceSol := none }

/-- **What laying a round against the wallet does**: nothing when it is closed or the wallet agrees,
and otherwise the wallet overrules it, and closes it if the mint is gone. -/
lemma reconcileRound_cases (holdings : List WalletHolding) (round : LedgerRound) :
    (reconcileRound holdings round = round ∧
      (round.isOpen = true → onChain holdings round.mint = round.balanceRaw)) ∨
    (round.isOpen = true ∧ onChain holdings round.mint ≠ round.balanceRaw ∧
      onChain holdings round.mint ≠ 0 ∧
      reconcileRound holdings round = round.overruled (onChain holdings round.mint)) ∨
    (round.isOpen = true ∧ onChain holdings round.mint ≠ round.balanceRaw ∧
      onChain holdings round.mint = 0 ∧
      reconcileRound holdings round =
        { round.overruled 0 with isOpen := false, remainingBasisSol := 0 }) := by
  unfold reconcileRound
  cases hopen : round.isOpen with
  | false => exact Or.inl ⟨rfl, fun h => by cases h⟩
  | true =>
    by_cases hagrees : onChain holdings round.mint = round.balanceRaw
    · exact Or.inl ⟨by simp [hagrees], fun _ => hagrees⟩
    · by_cases hgone : onChain holdings round.mint = 0
      · refine Or.inr (Or.inr ⟨rfl, hagrees, hgone, ?_⟩)
        have hheld : ¬ 0 = round.balanceRaw := fun h => hagrees (hgone.trans h)
        simp [hgone, hheld, LedgerRound.overruled]
      · refine Or.inr (Or.inl ⟨rfl, hagrees, hgone, ?_⟩)
        simp [hagrees, hgone, LedgerRound.overruled, hopen]

lemma reconcileRound_field {α : Type*} (field : LedgerRound → α)
    (hoverruled : ∀ (round : LedgerRound) actual, field (round.overruled actual) = field round)
    (hclosed : ∀ round : LedgerRound,
      field { round with isOpen := false, remainingBasisSol := 0 } = field round)
    (holdings : List WalletHolding) (round : LedgerRound) :
    field (reconcileRound holdings round) = field round := by
  rcases reconcileRound_cases holdings round with ⟨h, -⟩ | ⟨-, -, -, h⟩ | ⟨-, -, -, h⟩
  · rw [h]
  · rw [h, hoverruled]
  · rw [h, hclosed, hoverruled]

@[simp] lemma reconcileRound_mint (holdings : List WalletHolding) (round : LedgerRound) :
    (reconcileRound holdings round).mint = round.mint :=
  reconcileRound_field (·.mint) (fun _ _ => rfl) (fun _ => rfl) holdings round

@[simp] lemma reconcileRound_roundKey (holdings : List WalletHolding) (round : LedgerRound) :
    (reconcileRound holdings round).roundKey = round.roundKey :=
  reconcileRound_field (·.roundKey) (fun _ _ => rfl) (fun _ => rfl) holdings round

variable {round : LedgerRound}

lemma reconcileRound_isOpen (hpos : round.isOpen = true → 0 < round.balanceRaw)
    (hopen : (reconcileRound holdings round).isOpen = true) :
    round.isOpen = true ∧
      (reconcileRound holdings round).balanceRaw = onChain holdings round.mint ∧
      0 < onChain holdings round.mint := by
  rcases reconcileRound_cases holdings round with
    ⟨h, hagrees⟩ | ⟨hround, -, hne, h⟩ | ⟨-, -, -, h⟩
  · rw [h] at hopen ⊢
    have hheld := hagrees hopen
    exact ⟨hopen, hheld.symm, hheld.symm ▸ hpos hopen⟩
  · rw [h]
    exact ⟨hround, rfl, Nat.pos_of_ne_zero hne⟩
  · rw [h] at hopen
    cases hopen

variable (taken : List String)

/-- The name of a synthetic round: the bare one, or that of a holding when the bare one is taken. -/
def syntheticName (mint : String) : RoundName :=
  if taken.contains (genesisKey mint) then .holding else .genesis

lemma syntheticRound_roundKey (h : WalletHolding) :
    (syntheticRound taken h).roundKey = (syntheticName taken h.mint).key h.mint := by
  simp only [syntheticRound, syntheticName]
  split <;> rfl

variable {rounds : List LedgerRound}

lemma mem_missingHoldings : h ∈ missingHoldings rounds holdings ↔
      h ∈ nonZero holdings ∧ ∀ round ∈ rounds, round.isOpen = true → round.mint ≠ h.mint := by
  unfold missingHoldings nonZero
  simp only [mem_filter, Bool.and_eq_true, decide_eq_true_eq, Bool.not_eq_true',
    contains_eq_mem, decide_eq_false_iff_not, mem_map, not_exists, not_and, and_assoc,
    ne_eq]

lemma mem_reconcileWithWallet :
    round ∈ reconcileWithWallet rounds holdings ↔
      (∃ r ∈ rounds, reconcileRound holdings r = round) ∨
      (∃ h ∈ missingHoldings (rounds.map (reconcileRound holdings)) holdings,
        syntheticRound (rounds.map (·.roundKey)) h = round) := by
  unfold reconcileWithWallet
  simp only [mem_append, mem_map, map_map, Function.comp_def,
    reconcileRound_roundKey]

lemma exists_open_of_held (rounds : List LedgerRound) (hh : h ∈ nonZero holdings) :
    ∃ round ∈ reconcileWithWallet rounds holdings, round.isOpen = true ∧ round.mint = h.mint := by
  by_cases hknown : ∃ r ∈ rounds, (reconcileRound holdings r).isOpen = true ∧ r.mint = h.mint
  · obtain ⟨r, hr, hopen, hmint⟩ := hknown
    exact ⟨_, mem_reconcileWithWallet.mpr (Or.inl ⟨r, hr, rfl⟩), hopen, by simpa using hmint⟩
  · refine ⟨_, mem_reconcileWithWallet.mpr (Or.inr ⟨h, ?_, rfl⟩), rfl, rfl⟩
    refine mem_missingHoldings.mpr ⟨hh, ?_⟩
    intro round hround hopen hmint
    obtain ⟨r, hr, rfl⟩ := mem_map.mp hround
    exact hknown ⟨r, hr, hopen, by simpa using hmint⟩

/-! ## Settling -/

section settling

variable {deltas : List SubjectAssetDelta} {holdings : List WalletHolding} {round : LedgerRound}

lemma balanceRaw_pos_of_mem (hround : round ∈ reduceRounds deltas) (hopen : round.isOpen = true) :
    0 < round.balanceRaw := by
  obtain ⟨c, hc, rfl⟩ := mem_reduceRounds.mp hround
  exact Chapter.balanceRaw_pos (wellFormed_of_mem_chapters c hc) hopen

lemma noReference_of_mem (hround : round ∈ reduceRounds deltas) :
    isReferenceAsset round.mint = false := by
  obtain ⟨c, hc, rfl⟩ := mem_reduceRounds.mp hround
  obtain ⟨-, -, heligible, -⟩ := delta_of_mem_chapter hc c.segment.first_mem
  simp only [isEligible, Bool.not_eq_true', Bool.or_eq_false_iff] at heligible
  simpa using heligible.1

lemma countP_reconciled (mint : String) :
    (((reduceRounds deltas).map (reconcileRound holdings)).filter (·.mint = mint)).countP
      (·.isOpen) ≤ ((reduceRounds deltas).filter (·.mint = mint)).countP (·.isOpen) := by
  rw [filter_map, countP_map]
  have hmint : ((fun r : LedgerRound => decide (r.mint = mint)) ∘ reconcileRound holdings) =
      fun r => decide (r.mint = mint) := by
    funext r
    simp
  rw [hmint]
  refine countP_mono_left ?_
  intro r hr hopen
  exact (reconcileRound_isOpen (balanceRaw_pos_of_mem (mem_of_mem_filter hr)) hopen).1

lemma countP_synthetic (taken : List String) (missing : List WalletHolding) (mint : String) :
    ((missing.map (syntheticRound taken)).filter (·.mint = mint)).countP (·.isOpen) =
      (missing.map (·.mint)).count mint := by
  rw [countP_filter, countP_map, count_eq_countP, countP_map]
  rfl

/-- The holdings no reduced round explains. -/
abbrev unexplained (deltas : List SubjectAssetDelta) (holdings : List WalletHolding) :
    List WalletHolding :=
  missingHoldings ((reduceRounds deltas).map (reconcileRound holdings)) holdings

lemma nodup_unexplained (hdistinct : ((nonZero holdings).map (·.mint)).Nodup) :
    ((unexplained deltas holdings).map (·.mint)).Nodup := by
  refine hdistinct.sublist (List.Sublist.map _ ?_)
  have hfilter : unexplained deltas holdings =
      (nonZero holdings).filter fun h => !((((reduceRounds deltas).map
        (reconcileRound holdings)).filter (·.isOpen)).map (·.mint)).contains h.mint := by
    rw [unexplained, missingHoldings, nonZero, filter_filter]
    apply filter_congr
    intro h _
    rw [Bool.and_comm]
  rw [hfilter]
  exact filter_sublist

lemma map_roundKey_reconciled :
    (reconcileWithWallet (reduceRounds deltas) holdings).map (·.roundKey) =
      (reduceRounds deltas).map (·.roundKey) ++ (unexplained deltas holdings).map fun h =>
        (syntheticName ((reduceRounds deltas).map (·.roundKey)) h.mint).key h.mint := by
  unfold reconcileWithWallet
  simp only [map_append, map_map, Function.comp_def, reconcileRound_roundKey,
    syntheticRound_roundKey]

lemma syntheticName_safe (taken : List String) (mint : String) :
    (syntheticName taken mint).Safe := by
  unfold syntheticName
  split <;> trivial

lemma syntheticKey_ne (hsafe : ∀ delta ∈ deltas, KeySafe delta) {mint : String}
    (hmint : ':' ∉ mint.toList) (hround : round ∈ reduceRounds deltas) :
    (syntheticName ((reduceRounds deltas).map (·.roundKey)) mint).key mint ≠ round.roundKey := by
  intro heq
  obtain ⟨name, hkey, hs, hholding, hm⟩ := name_of_mem_reduceRounds hsafe hround
  rw [hkey] at heq
  obtain ⟨hsame, rfl⟩ := RoundName.key_inj (syntheticName_safe _ _) hs hmint hm heq
  unfold syntheticName at hsame
  split at hsame
  next => exact hholding hsame.symm
  next htaken =>
    apply htaken
    rw [contains_iff_mem]
    rw [← hsame] at hkey
    have hbare : genesisKey round.mint = round.roundKey := hkey.symm
    rw [hbare]
    exact mem_map_of_mem hround

lemma nodup_reconciledKeys (hsafe : ∀ delta ∈ deltas, KeySafe delta)
    (hunique : (deltas.map fun d => (d.signature, d.mint)).Nodup)
    (hholdings : ∀ h ∈ holdings, ':' ∉ h.mint.toList)
    (hdistinct : ((nonZero holdings).map (·.mint)).Nodup) :
    ((reconcileWithWallet (reduceRounds deltas) holdings).map (·.roundKey)).Nodup := by
  have hmissing := @nodup_unexplained deltas holdings hdistinct
  have hcolon : ∀ h ∈ unexplained deltas holdings, ':' ∉ h.mint.toList := fun h hh =>
    hholdings h (mem_of_mem_filter (mem_missingHoldings.mp hh).1)
  rw [map_roundKey_reconciled, nodup_append]
  refine ⟨nodup_roundKeys hsafe hunique, ?_, ?_⟩
  · refine List.Nodup.map_on ?_ (List.Nodup.of_map _ hmissing)
    intro h hh h' hh' heq
    have hmint := (RoundName.key_inj (syntheticName_safe _ _) (syntheticName_safe _ _)
      (hcolon h hh) (hcolon h' hh') heq).2
    exact inj_on_of_nodup_map hmissing hh hh' hmint
  · rintro key hkey key' hkey' rfl
    obtain ⟨r, hr, rfl⟩ := mem_map.mp hkey
    obtain ⟨h, hh, heq⟩ := mem_map.mp hkey'
    exact syntheticKey_ne hsafe (hcolon h hh) hr heq

lemma countP_open_le_one (hdistinct : ((nonZero holdings).map (·.mint)).Nodup) (mint : String) :
    ((reconcileWithWallet (reduceRounds deltas) holdings).filter (·.mint = mint)).countP
      (·.isOpen) ≤ 1 := by
  unfold reconcileWithWallet
  rw [filter_append, countP_append, countP_synthetic]
  by_cases hheld : mint ∈ (unexplained deltas holdings).map (·.mint)
  · -- the one synthetic round of the mint, which has no other
    obtain ⟨h, hh, rfl⟩ := mem_map.mp hheld
    have hzero : (((reduceRounds deltas).map (reconcileRound holdings)).filter
        (·.mint = h.mint)).countP (·.isOpen) = 0 := by
      rw [countP_eq_zero]
      intro r hr hopen
      exact (mem_missingHoldings.mp hh).2 r (mem_of_mem_filter hr) hopen
        (by simpa using (mem_filter.mp hr).2)
    rw [hzero, Nat.zero_add]
    exact nodup_iff_count_le_one.mp (nodup_unexplained hdistinct) _
  · rw [count_eq_zero_of_not_mem hheld, Nat.add_zero]
    exact (countP_reconciled mint).trans (countP_isOpen_le_one deltas mint)

lemma exists_account_of_open (hround : round ∈ reconcileWithWallet (reduceRounds deltas) holdings)
    (hopen : round.isOpen = true) :
    ∃ h ∈ nonZero holdings, h.mint = round.mint ∧ round.balanceRaw = h.amountRaw := by
  rcases mem_reconcileWithWallet.mp hround with ⟨r, hr, rfl⟩ | ⟨h, hh, rfl⟩
  · obtain ⟨-, hbalance, hpos⟩ := reconcileRound_isOpen (balanceRaw_pos_of_mem hr) hopen
    obtain ⟨x, hx, hmint, hamount⟩ := mem_of_onChain_pos hpos
    exact ⟨x, hx, by rw [hmint, reconcileRound_mint], by rw [hbalance, hamount]⟩
  · exact ⟨h, (mem_missingHoldings.mp hh).1, rfl, rfl⟩

lemma settled_of_oneAccountPerMint (hsafe : ∀ delta ∈ deltas, KeySafe delta)
    (hunique : (deltas.map fun d => (d.signature, d.mint)).Nodup)
    (hholdings : ∀ h ∈ holdings, ':' ∉ h.mint.toList) (hone : OneAccountPerMint holdings) :
    Settled holdings (reconcileWithWallet (reduceRounds deltas) holdings) where
  keys := nodup_reconciledKeys hsafe hunique hholdings hone.distinct
  oneOpen := countP_open_le_one hone.distinct
  balance := by
    intro round hround hopen
    obtain ⟨h, hh, hmint, hbalance⟩ := exists_account_of_open hround hopen
    rw [hbalance, ← hmint, heldRaw_of_distinct hone.distinct hh]
  held := by
    intro round hround hopen
    obtain ⟨h, hh, hmint, -⟩ := exists_account_of_open hround hopen
    exact ⟨h, hh, hmint⟩
  noReference := by
    intro round hround
    rcases mem_reconcileWithWallet.mp hround with ⟨r, hr, rfl⟩ | ⟨h, hh, rfl⟩
    · rw [reconcileRound_mint]
      exact noReference_of_mem hr
    · exact hone.noReference h (mem_missingHoldings.mp hh).1

lemma count_unexplained {h : WalletHolding} (hh : h ∈ unexplained deltas holdings) :
    ((unexplained deltas holdings).map (·.mint)).count h.mint =
      ((nonZero holdings).map (·.mint)).count h.mint := by
  rw [count_eq_countP, count_eq_countP, countP_map, countP_map, unexplained,
    missingHoldings, nonZero, countP_filter, countP_filter]
  apply countP_congr
  intro z hz
  simp only [Function.comp_apply, beq_iff_eq, Bool.and_eq_true, decide_eq_true_eq]
  refine ⟨fun hz' => ⟨hz'.1, hz'.2.1⟩, fun hz' => ⟨hz'.1, hz'.2, ?_⟩⟩
  simp only [Bool.not_eq_true', contains_eq_mem, decide_eq_false_iff_not,
    mem_map, not_exists, not_and, mem_filter, and_imp]
  intro r hr hropen hrmint
  exact (mem_missingHoldings.mp hh).2 r (mem_map.mpr hr) hropen (by rw [hrmint, hz'.1])

lemma oneAccountPerMint_of_settled
    (h : Settled holdings (reconcileWithWallet (reduceRounds deltas) holdings)) :
    OneAccountPerMint holdings := by
  refine ⟨?_, ?_⟩
  · rw [nodup_iff_count_le_one]
    intro mint
    by_cases hheld : mint ∈ (nonZero holdings).map (·.mint)
    · obtain ⟨x, hx, rfl⟩ := mem_map.mp hheld
      obtain ⟨round, hround, hopen, hmint⟩ := exists_open_of_held (reduceRounds deltas) hx
      have hbalance := h.balance round hround hopen
      rcases mem_reconcileWithWallet.mp hround with ⟨r, hr, rfl⟩ | ⟨y, hy, rfl⟩
      · -- an explained mint: the lookup sees one account, the balance is that of all of them
        obtain ⟨-, hlookup, hpos⟩ := reconcileRound_isOpen (balanceRaw_pos_of_mem hr) hopen
        rw [reconcileRound_mint] at hmint hbalance
        rw [hlookup, hmint] at hbalance
        rw [hmint] at hpos
        exact count_of_onChain_eq_heldRaw hpos hbalance
      · -- an unexplained mint: every one of its accounts gets an open round of its own
        have hymint : y.mint = x.mint := hmint
        have hone := h.oneOpen y.mint
        unfold reconcileWithWallet at hone
        rw [filter_append, countP_append, countP_synthetic] at hone
        rw [← hymint, ← count_unexplained hy]
        exact (Nat.le_add_left _ _).trans hone
    · rw [count_eq_zero_of_not_mem hheld]
      exact Nat.zero_le _
  · intro x hx
    obtain ⟨round, hround, -, hmint⟩ := exists_open_of_held (reduceRounds deltas) hx
    rw [← hmint]
    exact h.noReference round hround

/-- **The ledger settles with the wallet exactly when the wallet has one account a mint** and none
of a reference asset. -/
theorem settled_iff (hsafe : ∀ delta ∈ deltas, KeySafe delta)
    (hunique : (deltas.map fun d => (d.signature, d.mint)).Nodup)
    (hholdings : ∀ h ∈ holdings, ':' ∉ h.mint.toList) :
    Settled holdings (reconcileWithWallet (reduceRounds deltas) holdings) ↔
      OneAccountPerMint holdings :=
  ⟨oneAccountPerMint_of_settled, settled_of_oneAccountPerMint hsafe hunique hholdings⟩

end settling

/-- A bought token in one account. -/
theorem settled_iff_bought :
    Settled [⟨"MintA111111111111111111111111111111111111", 5, 6⟩]
        (reconcileWithWallet
          (reduceRounds [.token "sig1" 1 "MintA111111111111111111111111111111111111" 5 0 5])
          [⟨"MintA111111111111111111111111111111111111", 5, 6⟩]) ↔
      OneAccountPerMint [⟨"MintA111111111111111111111111111111111111", 5, 6⟩] :=
  settled_iff (by
    intro delta hdelta
    rw [mem_singleton.mp hdelta]
    exact ⟨⟨by decide, by decide, by decide⟩, by decide⟩) (by decide) (by decide)

/-- A token in two accounts, neither explained by a row: two open rounds under one key. -/
theorem not_settled_two_accounts :
    ¬ Settled [⟨"MintA111111111111111111111111111111111111", 5, 6⟩,
        ⟨"MintA111111111111111111111111111111111111", 3, 6⟩]
      (reconcileWithWallet (reduceRounds [])
        [⟨"MintA111111111111111111111111111111111111", 5, 6⟩,
          ⟨"MintA111111111111111111111111111111111111", 3, 6⟩]) := by
  intro h
  exact absurd h.keys (by decide)

end Dripline.Positions.Ledger

import Dripline.Positions.Ledger.Basis
import Dripline.Positions.Ledger.Wallet

/-!
# No money without a basis

`build_position` writes a round's SOL amounts into a row without looking at the basis flag again:
it relies on the reducer to have zeroed them, and on a closed round to hold nothing.

* `moneyLaw_iff` — all reconciled rounds keep the law exactly when no round is superseded and the
  wallet agrees with every such segment.
-/

namespace Dripline.Positions.Ledger

open Dripline.Chain Dripline.Transactions

/-- An incomplete basis shows no money, and a closed round holds nothing. -/
structure MoneyLaw (round : LedgerRound) : Prop where
  basis : round.basisComplete = false →
    round.investedSol = 0 ∧ round.remainingBasisSol = 0 ∧ round.averageEntryPriceSol = none ∧
      round.realizedPnlSol = none
  closed : round.isOpen = false → round.balanceRaw = 0 ∧ round.remainingBasisSol = 0

/-! ## Finished rounds -/

lemma Round.finish_money (r : Round) {stillOpen : Bool}
    (h : (r.finish stillOpen).basisComplete = false) :
    (r.finish stillOpen).investedSol = 0 ∧ (r.finish stillOpen).remainingBasisSol = 0 ∧
      (r.finish stillOpen).averageEntryPriceSol = none ∧
      (r.finish stillOpen).realizedPnlSol = none := by
  have hflag : ((r.basisComplete && r.quoteAsset == some .sol) && decide (0 < r.entryCount)) =
      false := h
  unfold Round.finish
  simp [hflag]

lemma Round.apply_remainingBasis_zero {r : Round} {group : List SubjectAssetDelta}
    {delta : SubjectAssetDelta} (h : Reconciles r.balance delta)
    (hzero : carry r.balance delta ≤ 0) : (r.apply group delta).remainingBasis = 0 := by
  have hdisposal : ¬ 0 < delta.deltaRaw := by
    have := h.carry_eq
    have := h.nonneg
    omega
  have hclosing : (delta.afterRaw.bind asI128).getD
      (max (max ((delta.beforeRaw.bind asI128).getD r.balance) 0 + delta.deltaRaw) 0) ≤ 0 := hzero
  simp only [Round.apply, if_neg hdisposal, Round.applyDisposal, Round.reconcileBefore]
  simp [hclosing]

variable {c : Chapter}

lemma Chapter.Complete.remainingBasis_zero (h : c.Complete) (hzero : c.segment.standing ≤ 0) :
    c.segment.round.remainingBasis = 0 := by
  obtain ⟨init, last, hsteps⟩ := c.segment.exists_concat
  have hopening := Segment.opening_of_grounded h.grounded
  have hbalance : (replay c.segment.opening init).balance = carryAll 0 init := by
    rw [replay_balance, hopening]
    rfl
  have hrec := h.balanced
  rw [hsteps, balanced_concat] at hrec
  rw [Segment.standing, hsteps, carryAll_concat] at hzero
  rw [Segment.round, hsteps, replay_concat]
  apply Round.apply_remainingBasis_zero
  · rw [hbalance]
    exact hrec.2
  · rw [hbalance]
    exact hzero

lemma moneyLaw_of_returned (hc : c.WellFormed) (hending : c.ending = .returned) :
    MoneyLaw c.round := by
  have hzero := hc.ending.mp hending
  have hraw := c.round_balanceRaw
  have hround := Chapter.round_of_returned hending
  refine ⟨?_, ?_⟩
  · rw [hround]
    exact Round.finish_money _
  · intro _
    refine ⟨by omega, ?_⟩
    cases hflag : c.round.basisComplete
    · rw [hround] at hflag ⊢
      exact (Round.finish_money _ hflag).2.1
    · have hcomplete := (Chapter.round_basisComplete hc).mp hflag
      have hremaining : (c.segment.round.finish false).remainingBasisSol =
          if (c.segment.round.finish false).basisComplete then c.segment.round.remainingBasis
          else 0 := rfl
      rw [hround, hremaining, hcomplete.remainingBasis_zero hzero, ite_self]

lemma not_moneyLaw_of_superseded (hc : c.WellFormed) (hending : c.ending = .superseded) :
    ¬ MoneyLaw c.round := by
  intro h
  have hclosed : c.round.isOpen = false := by
    rw [Bool.eq_false_iff, ne_eq, c.round_isOpen, hending]
    simp
  have hpos : ¬ c.segment.standing ≤ 0 := fun hle => by
    have := hc.ending.mpr hle
    rw [hending] at this
    cases this
  have hraw := c.round_balanceRaw
  have := (h.closed hclosed).1
  omega

/-! ## Running rounds -/

/-- A running segment is paid for: complete, with some acquisition above dust. -/
structure Chapter.PaidFor (c : Chapter) : Prop where
  complete : c.Complete
  aboveDust : SomeAboveDust c.segment.first.delta.decimals c.segment.steps

lemma Chapter.Complete.invested_pos_iff (h : c.Complete) :
    0 < c.segment.round.invested ↔ c.PaidFor := by
  have hopening := Segment.opening_of_grounded h.grounded
  have hiff := @replay_invested_pos c.segment.opening c.segment.steps
    (by rw [hopening]; simp [Round.grounded]) h.priced (by rw [hopening]; exact le_refl _)
  rw [Segment.round, hiff, hopening]
  constructor
  · rintro (hzero | hsome)
    · exact absurd hzero (lt_irrefl _)
    · exact ⟨h, hsome⟩
  · intro hpaid
    exact Or.inr hpaid.aboveDust

lemma Segment.remainingBasis_bounds (g : Segment) :
    0 ≤ g.round.remainingBasis ∧ g.round.remainingBasis ≤ g.round.invested := by
  apply replay_remainingBasis
  · unfold Segment.opening
    split <;> exact le_refl _
  · unfold Segment.opening
    split <;> exact le_refl _

lemma Chapter.running_money (hc : c.WellFormed) (hending : c.ending = .running) :
    (c.Complete → c.round.investedSol = c.segment.round.invested ∧
      c.round.remainingBasisSol = c.segment.round.remainingBasis) ∧
    (¬ c.Complete → c.round.investedSol = 0 ∧ c.round.remainingBasisSol = 0) := by
  have hround := Chapter.round_of_running hending
  constructor
  · intro h
    have hflag := (Chapter.round_basisComplete hc).mpr h
    rw [hround] at hflag ⊢
    exact ⟨if_pos hflag, if_pos hflag⟩
  · intro h
    have hflag : c.round.basisComplete = false := by
      rw [Bool.eq_false_iff, ne_eq, Chapter.round_basisComplete hc]
      exact h
    rw [hround] at hflag ⊢
    obtain ⟨hinvested, hremaining, -⟩ := Round.finish_money _ hflag
    exact ⟨hinvested, hremaining⟩

lemma moneyLaw_of_agrees (hending : c.ending = .running) : MoneyLaw c.round := by
  have hround := Chapter.round_of_running hending
  have hopen : c.round.isOpen = true := c.round_isOpen.mpr hending
  refine ⟨?_, fun hclosed => absurd (hopen.symm.trans hclosed) (by decide)⟩
  rw [hround]
  exact Round.finish_money _

lemma moneyLaw_of_disagrees {holdings : List WalletHolding} {round : LedgerRound}
    (hopen : round.isOpen = true) (hne : onChain holdings round.mint ≠ round.balanceRaw) :
    MoneyLaw (reconcileRound holdings round) ↔ round.investedSol = 0 ∧
      (onChain holdings round.mint = 0 ∨ round.remainingBasisSol = 0) := by
  rcases reconcileRound_cases holdings round with
    ⟨-, hagrees⟩ | ⟨-, -, hheld, h⟩ | ⟨-, -, hgone, h⟩
  · exact absurd (hagrees hopen) hne
  · rw [h]
    constructor
    · intro hlaw
      exact ⟨(hlaw.basis rfl).1, Or.inr (hlaw.basis rfl).2.1⟩
    · rintro ⟨hinvested, hremaining⟩
      refine ⟨fun _ => ⟨hinvested, hremaining.resolve_left hheld, rfl, rfl⟩, fun hclosed => ?_⟩
      exact absurd (hopen.symm.trans hclosed) (by decide)
  · rw [h]
    constructor
    · intro hlaw
      exact ⟨(hlaw.basis rfl).1, Or.inl hgone⟩
    · rintro ⟨hinvested, -⟩
      exact ⟨fun _ => ⟨hinvested, rfl, rfl, rfl⟩, fun _ => ⟨rfl, rfl⟩⟩

lemma Chapter.unpaid_iff (hc : c.WellFormed) (hending : c.ending = .running) :
    c.round.investedSol = 0 ∧ c.round.remainingBasisSol = 0 ↔ ¬ c.PaidFor := by
  obtain ⟨hmoney, hnone⟩ := Chapter.running_money hc hending
  by_cases hcomplete : c.Complete
  · obtain ⟨hinvested, hremaining⟩ := hmoney hcomplete
    obtain ⟨hlow, hhigh⟩ := c.segment.remainingBasis_bounds
    rw [hinvested, hremaining, ← hcomplete.invested_pos_iff]
    constructor
    · rintro ⟨hzero, -⟩ hpos
      exact hpos.ne' hzero
    · intro hnot
      have hzero : c.segment.round.invested = 0 :=
        le_antisymm (not_lt.mp hnot) (hlow.trans hhigh)
      exact ⟨hzero, le_antisymm (hzero ▸ hhigh) hlow⟩
  · exact ⟨fun _ hpaid => hcomplete hpaid.complete, fun _ => hnone hcomplete⟩

lemma moneyLaw_of_running (hc : c.WellFormed) (hending : c.ending = .running)
    (holdings : List WalletHolding) :
    MoneyLaw (reconcileRound holdings c.round) ↔
      (c.PaidFor → (onChain holdings c.round.mint : ℤ) = c.segment.standing) := by
  have hopen : c.round.isOpen = true := c.round_isOpen.mpr hending
  have hunpaid := Chapter.unpaid_iff hc hending
  rw [← c.round_balanceRaw, Nat.cast_inj]
  by_cases hagrees : onChain holdings c.round.mint = c.round.balanceRaw
  · -- nothing is touched
    have hsame : reconcileRound holdings c.round = c.round := by
      rcases reconcileRound_cases holdings c.round with ⟨h, -⟩ | ⟨-, hne, -, -⟩ | ⟨-, hne, -, -⟩
      · exact h
      · exact absurd hagrees hne
      · exact absurd hagrees hne
    rw [hsame]
    exact ⟨fun _ _ => hagrees, fun _ => moneyLaw_of_agrees hending⟩
  · -- the flags go, the invested SOL stays
    rw [moneyLaw_of_disagrees hopen hagrees]
    constructor
    · rintro ⟨hinvested, -⟩ hpaid
      have hshown := ((Chapter.running_money hc hending).1 hpaid.complete).1
      exact absurd (hshown.symm.trans hinvested) (hpaid.complete.invested_pos_iff.mpr hpaid).ne'
    · intro hpaid
      obtain ⟨hinvested, hremaining⟩ := hunpaid.mpr fun h => hagrees (hpaid h)
      exact ⟨hinvested, Or.inr hremaining⟩

/-! ## All rounds -/

lemma moneyLaw_synthetic (taken : List String) (h : WalletHolding) :
    MoneyLaw (syntheticRound taken h) := by
  refine ⟨fun _ => ⟨rfl, rfl, rfl, rfl⟩, fun hclosed => ?_⟩
  cases hclosed

/-- **The rounds show no money without a basis exactly when** no grounded row arrives while its
mint still holds something, and the wallet agrees with every mint whose running segment is paid
for. -/
theorem moneyLaw_iff (deltas : List SubjectAssetDelta) (holdings : List WalletHolding) :
    (∀ round ∈ reconcileWithWallet (reduceRounds deltas) holdings, MoneyLaw round) ↔
      ∀ mint, ∀ c ∈ (trail deltas mint).chapters, c.ending ≠ .superseded ∧
        (c.ending = .running → c.PaidFor → (onChain holdings mint : ℤ) = c.segment.standing) := by
  have hclosed : ∀ c : Chapter, c.ending ≠ .running →
      reconcileRound holdings c.round = c.round := by
    intro c hending
    rcases reconcileRound_cases holdings c.round with ⟨h, -⟩ | ⟨hopen, -⟩ | ⟨hopen, -⟩
    · exact h
    · exact absurd (c.round_isOpen.mp hopen) hending
    · exact absurd (c.round_isOpen.mp hopen) hending
  constructor
  · intro h mint c hc
    have hwf := wellFormed_of_mem_chapters c hc
    have hlaw := h _ (mem_reconcileWithWallet.mpr (Or.inl ⟨_, round_mem_reduceRounds hc, rfl⟩))
    refine ⟨?_, ?_⟩
    · intro hending
      rw [hclosed c (by rw [hending]; simp)] at hlaw
      exact not_moneyLaw_of_superseded hwf hending hlaw
    · intro hending
      rw [← mint_of_mem_chapters hc]
      exact (moneyLaw_of_running hwf hending holdings).mp hlaw
  · intro h round hround
    rcases mem_reconcileWithWallet.mp hround with ⟨r, hr, rfl⟩ | ⟨x, -, rfl⟩
    · obtain ⟨c, hc, rfl⟩ := mem_reduceRounds.mp hr
      have hwf := wellFormed_of_mem_chapters c hc
      obtain ⟨hsuperseded, hrunning⟩ := h _ c hc
      cases hending : c.ending with
      | returned =>
        rw [hclosed c (by rw [hending]; simp)]
        exact moneyLaw_of_returned hwf hending
      | superseded => exact absurd hending hsuperseded
      | running => exact (moneyLaw_of_running hwf hending holdings).mpr (hrunning hending)
    · exact moneyLaw_synthetic _ x

/-- A buy of five units for ten lamports, and three of them left in the wallet. -/
theorem moneyLaw_fails_on_shrunk_wallet :
    ¬ ∀ round ∈ reconcileWithWallet
        (reduceRounds [.token "s1" 1 "mintA" 5 0 5, .native "s1" 1 (-10)]) [⟨"mintA", 3, 6⟩],
      MoneyLaw round := by
  have hrounds : ∃ round ∈ reconcileWithWallet
      (reduceRounds [.token "s1" 1 "mintA" 5 0 5, .native "s1" 1 (-10)]) [⟨"mintA", 3, 6⟩],
      round.basisComplete = false ∧ round.investedSol ≠ 0 := by decide +kernel
  intro h
  obtain ⟨round, hround, hflag, hne⟩ := hrounds
  exact hne ((h round hround).basis hflag).1

end Dripline.Positions.Ledger

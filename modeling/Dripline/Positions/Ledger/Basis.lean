import Mathlib
import Dripline.Positions.Ledger.Conservation

/-!
# What a round shows as its cost

A round shows SOL amounts as a cost basis only when `basisComplete` says that everything in it was
bought for SOL.

* `basisBacked_iff` — it is, as long as no acquisition of a complete round is dust.
* `reduceRounds_basis` — it is conserved: invested, remaining, booked and released.
-/

namespace Dripline.Positions.Ledger

open Dripline.Chain Dripline.Transactions

/-! ## Complete chapters -/

/-- A chapter whose round has a complete basis. -/
structure Chapter.Complete (c : Chapter) : Prop where
  ending : c.ending ≠ .superseded
  grounded : c.segment.isGrounded = true
  balanced : Balanced 0 c.segment.steps
  priced : SolPriced c.segment.steps

variable {steps : List Step}

lemma replay_quoteAsset_sol {r : Round} (hq : r.quoteAsset = some .sol) (hsol : SolPriced steps) :
    (replay r steps).quoteAsset = some .sol := by
  induction steps generalizing r with
  | nil => exact hq
  | cons s steps ih =>
    refine ih ?_ fun s' hs' => hsol s' (List.mem_cons_of_mem _ hs')
    rw [Round.apply_quoteAsset (by rw [hq]; simp) (hsol s List.mem_cons_self)]
    split
    · rfl
    · exact hq

variable {g : Segment}

lemma Segment.basisComplete_of_not_grounded (h : g.isGrounded = false) :
    g.round.basisComplete = false := by
  by_contra hcomplete
  have := basisComplete_of_replay g.opening g.steps (by simpa [Segment.round] using hcomplete)
  unfold Segment.opening at this
  rw [if_neg (by simp [h])] at this
  cases this

lemma Segment.basisComplete_of_grounded (h : g.isGrounded = true) :
    g.round.basisComplete = true ↔ Balanced 0 g.steps ∧ SolPriced g.steps := by
  rw [Segment.round, Segment.opening_of_grounded h, replay_basisComplete (by simp [Round.grounded])]
  exact ⟨fun h => h.2, fun h => ⟨rfl, h⟩⟩

variable {c : Chapter}

lemma Chapter.Complete.finish_flags (hc : c.WellFormed) (h : c.Complete) :
    c.segment.round.quoteAsset = some .sol ∧ 0 < c.segment.round.entryCount := by
  have hg : isGrounded c.segment.first.delta = true := by
    rw [← hc.isGrounded_eq]
    exact h.grounded
  have hpos : 0 < c.segment.first.delta.deltaRaw := by
    simp only [isGrounded, Bool.and_eq_true, decide_eq_true_eq] at hg
    exact hg.1
  obtain ⟨hfirst, hrest⟩ := List.forall_mem_cons.mp h.priced
  obtain ⟨q, hquote⟩ := Option.isSome_iff_exists.mp (hfirst hpos)
  have hopening := Segment.opening_of_grounded h.grounded
  constructor
  · apply replay_quoteAsset_sol _ hrest
    rw [Round.apply_quoteAsset (by rw [hopening]; simp [Round.grounded]) hfirst, if_pos hpos]
  · have hcounted := Round.apply_entryCount_pos c.segment.opening c.segment.first.group
      c.segment.first.delta (Or.inr ⟨hpos, (solQuote_eq_some.mp hquote).1⟩)
    exact @replay_entryCount_pos _ c.segment.rest hcounted

lemma Segment.finish_basisComplete (g : Segment) (stillOpen : Bool) :
    (g.round.finish stillOpen).basisComplete =
      ((g.round.basisComplete && g.round.quoteAsset == some .sol) &&
        decide (0 < g.round.entryCount)) := rfl

lemma Chapter.round_basisComplete (hc : c.WellFormed) :
    c.round.basisComplete = true ↔ c.Complete := by
  have hfinish : ∀ stillOpen, c.ending ≠ .superseded →
      ((c.segment.round.finish stillOpen).basisComplete = true ↔ c.Complete) := by
    intro stillOpen hending
    rw [Segment.finish_basisComplete]
    constructor
    · intro h
      simp only [Bool.and_eq_true] at h
      cases hg : c.segment.isGrounded
      · rw [Segment.basisComplete_of_not_grounded hg] at h
        exact absurd h.1.1 (by simp)
      · obtain ⟨hbalanced, hpriced⟩ := (Segment.basisComplete_of_grounded hg).mp h.1.1
        exact ⟨hending, hg, hbalanced, hpriced⟩
    · intro h
      obtain ⟨hsol, hcount⟩ := Chapter.Complete.finish_flags hc h
      rw [(Segment.basisComplete_of_grounded h.grounded).mpr ⟨h.balanced, h.priced⟩, hsol]
      simpa using hcount
  obtain ⟨g, ending⟩ := c
  cases ending
  · exact hfinish false (by simp)
  · have hpos : 0 < g.standing := by
      by_contra hle
      exact absurd (hc.ending.mpr (not_lt.mp hle)) (by simp)
    simp only [Chapter.round, Round.closeStale, Segment.round_balance, if_pos hpos]
    exact ⟨fun h => (Bool.false_ne_true h).elim, fun h => absurd rfl h.ending⟩
  · exact hfinish true (by simp)

/-! ## The basis and the quotes behind it -/

/-- The SOL of a round's acquisitions, as their events show it. -/
def LedgerRound.quotedCost (round : LedgerRound) : ℚ :=
  ((round.events.filter (·.kind.isAcquisition)).map fun e => (e.quote.map (·.amount)).getD 0).sum

/-- A basis backed by its events: every acquisition is a trade for SOL, and the invested SOL is
their sum. -/
structure BasisBacked (round : LedgerRound) : Prop where
  trades : ∀ e ∈ round.events, e.kind.isAcquisition = true →
    e.kind.isTrade = true ∧ ∃ q, e.quote = some ⟨.sol, q⟩
  invested : round.investedSol = round.quotedCost

lemma Records.of_solPriced {s : Step} {event : LedgerEvent} (h : Records s event)
    (hsol : 0 < s.delta.deltaRaw → (solQuote s.group s.delta).isSome = true)
    (hpos : 0 < s.delta.deltaRaw) :
    ∃ q, solQuote s.group s.delta = some q ∧ event.kind.isTrade = true ∧
      event.quote = some ⟨.sol, q⟩ := by
  obtain ⟨q, hquote⟩ := Option.isSome_iff_exists.mp (hsol hpos)
  obtain ⟨hk, hfor⟩ := solQuote_eq_some.mp hquote
  refine ⟨q, hquote, ?_, ?_⟩
  · rw [h.eventOf.trade, hk]
    rfl
  · rw [h.quote hpos, if_pos hk, hfor]

lemma quoted_of_records {events : List LedgerEvent} (h : List.Forall₂ Records steps events)
    (hsol : SolPriced steps) :
    (∀ e ∈ events, e.kind.isAcquisition = true →
      e.kind.isTrade = true ∧ ∃ q, e.quote = some ⟨.sol, q⟩) ∧
    ((events.filter (·.kind.isAcquisition)).map fun e =>
      (e.quote.map (·.amount)).getD 0).sum = acquisitionCost steps := by
  induction h with
  | nil => simp [acquisitionCost]
  | @cons s event steps events hrec _ ih =>
    obtain ⟨hs, hsteps⟩ := List.forall_mem_cons.mp hsol
    obtain ⟨htrades, hsum⟩ := ih hsteps
    have hcost : acquisitionCost (s :: steps) =
        (if 0 < s.delta.deltaRaw then (solQuote s.group s.delta).getD 0 else 0) +
          acquisitionCost steps := by simp [acquisitionCost]
    have hkind := hrec.eventOf.acquisition
    by_cases hpos : 0 < s.delta.deltaRaw
    · obtain ⟨q, hquote, htrade, hevent⟩ := hrec.of_solPriced hs hpos
      rw [decide_eq_true hpos] at hkind
      refine ⟨List.forall_mem_cons.mpr ⟨fun _ => ⟨htrade, q, hevent⟩, htrades⟩, ?_⟩
      rw [List.filter_cons_of_pos (p := fun e : LedgerEvent => e.kind.isAcquisition) hkind,
        List.map_cons, List.sum_cons, hsum, hcost, if_pos hpos, hevent, hquote]
      rfl
    · rw [decide_eq_false hpos] at hkind
      refine ⟨List.forall_mem_cons.mpr ⟨fun h => ?_, htrades⟩, ?_⟩
      · rw [hkind] at h
        cases h
      · rw [List.filter_cons_of_neg (by simp [hkind]), hsum, hcost, if_neg hpos, zero_add]

lemma Chapter.Complete.round_investedSol (hc : c.WellFormed) (h : c.Complete) :
    c.round.investedSol = c.segment.round.invested := by
  have hflag := (Chapter.round_basisComplete hc).mpr h
  obtain ⟨g, ending⟩ := c
  cases ending
  · simp only [Chapter.round] at hflag ⊢
    exact if_pos hflag
  · exact absurd rfl h.ending
  · simp only [Chapter.round] at hflag ⊢
    exact if_pos hflag

lemma Chapter.Complete.round_basisBacked_iff (hc : c.WellFormed) (h : c.Complete) :
    BasisBacked c.round ↔ AboveDust c.segment.first.delta.decimals c.segment.steps := by
  obtain ⟨htrades, hsum⟩ := quoted_of_records c.round_events h.priced
  have hopening := Segment.opening_of_grounded h.grounded
  obtain ⟨-, hiff⟩ := @replay_invested c.segment.opening c.segment.steps
    (by rw [hopening]; simp [Round.grounded]) h.priced
  have hzero : c.segment.opening.invested = 0 := by rw [hopening]; rfl
  have hdecimals : c.segment.opening.decimals = c.segment.first.delta.decimals := by
    rw [hopening]
    rfl
  rw [hzero, zero_add, hdecimals] at hiff
  rw [← hiff]
  constructor
  · intro hbacked
    have := hbacked.invested
    rw [h.round_investedSol hc, LedgerRound.quotedCost, hsum] at this
    exact this
  · intro heq
    refine ⟨htrades, ?_⟩
    rw [h.round_investedSol hc, LedgerRound.quotedCost, hsum]
    exact heq

/-- **Every complete basis is backed by its events exactly when no complete chapter holds a dust
acquisition.** -/
theorem basisBacked_iff (deltas : List SubjectAssetDelta) :
    (∀ round ∈ reduceRounds deltas, round.basisComplete = true → BasisBacked round) ↔
      ∀ mint, ∀ c ∈ (trail deltas mint).chapters, c.Complete →
        AboveDust c.segment.first.delta.decimals c.segment.steps := by
  constructor
  · intro h mint c hc hcomplete
    have hwf := wellFormed_of_mem_chapters c hc
    exact (hcomplete.round_basisBacked_iff hwf).mp
      (h c.round (round_mem_reduceRounds hc) ((Chapter.round_basisComplete hwf).mpr hcomplete))
  · intro h round hround hcomplete
    obtain ⟨c, hc, rfl⟩ := mem_reduceRounds.mp hround
    have hwf := wellFormed_of_mem_chapters c hc
    have hcomplete' := (Chapter.round_basisComplete hwf).mp hcomplete
    exact (hcomplete'.round_basisBacked_iff hwf).mpr (h _ c hc hcomplete')

/-- A buy of five units of a token with eighteen decimals, for ten lamports. -/
def dustBuy : List SubjectAssetDelta :=
  [{ SubjectAssetDelta.token "s1" 1 "mintA" 5 0 5 with decimals := 18 }, .native "s1" 1 (-10)]

/-- The SOL of a dust acquisition is missing from a basis that says it is complete. -/
theorem dustBuy_not_backed :
    ∃ round ∈ reduceRounds dustBuy, round.basisComplete = true ∧ ¬ BasisBacked round := by
  have hrounds : ∃ round ∈ reduceRounds dustBuy, round.basisComplete = true ∧
      round.investedSol ≠ round.quotedCost := by decide +kernel
  obtain ⟨round, hround, hcomplete, hne⟩ := hrounds
  exact ⟨round, hround, hcomplete, fun h => hne h.invested⟩

/-! ## Where the basis goes -/

/-- The share of the standing basis that goes with what a row disposes of. Source: `allocated_basis`
in `Round::apply_disposal` -/
def Round.released (r : Round) (delta : SubjectAssetDelta) : ℚ :=
  let before := balanceBefore r.balance delta
  allocatedBasis r.remainingBasis (min (-delta.deltaRaw) before) before

/-- A disposal that was traded for SOL. Source: `quote` in `Round::apply_disposal` -/
def soldForSol (group : List SubjectAssetDelta) (delta : SubjectAssetDelta) : Bool :=
  delta.kind == .trade && (quoteFor group delta.mint false).any (·.asset == .sol)

/-- What the disposals that were not priced in SOL release. -/
def unpricedRelease : Round → List Step → ℚ
  | _, [] => 0
  | r, s :: steps =>
    (if 0 < s.delta.deltaRaw || soldForSol s.group s.delta then 0 else r.released s.delta) +
      unpricedRelease (r.apply s.group s.delta) steps

section Flow

variable {r : Round} {group : List SubjectAssetDelta} {delta : SubjectAssetDelta}

lemma apply_acquired (hpos : 0 < delta.deltaRaw) :
    (r.apply group delta).invested - r.invested =
        (r.apply group delta).remainingBasis - r.remainingBasis ∧
      (r.apply group delta).realizedCost = r.realizedCost := by
  simp only [Round.apply, if_pos hpos, Round.applyAcquisition, Round.reconcileBefore]
  exact ⟨(add_sub_cancel_left _ _).trans (add_sub_cancel_left _ _).symm, trivial⟩

lemma apply_released (hneg : ¬0 < delta.deltaRaw) (hrec : Reconciles r.balance delta)
    (h0 : 0 ≤ r.remainingBasis) :
    (r.apply group delta).remainingBasis = r.remainingBasis - r.released delta := by
  have hbalance := hrec.covered (not_lt.mp hneg)
  have hbefore : balanceBefore r.balance delta = r.balance := by
    rw [balanceBefore, hrec.before, Option.getD_some, max_eq_left hbalance.le]
  have hcarry : carry r.balance delta = max (r.balance + delta.deltaRaw) 0 := hrec.carry_eq
  have hfield : (r.apply group delta).remainingBasis =
      if carry r.balance delta ≤ 0 then 0 else max (r.remainingBasis - r.released delta) 0 := by
    have hreported : delta.beforeRaw.bind asI128 = some r.balance := hrec.before
    simp only [Round.apply, if_neg hneg, Round.applyDisposal, Round.reconcileBefore, hreported,
      Option.getD_some, decide_eq_true_eq, Round.released, hbefore, max_eq_left hbalance.le,
      if_pos hbalance, carry, reportedAfter]
  have hratio : (0 : ℚ) < r.balance := by exact_mod_cast hbalance
  rw [hfield, hcarry, Round.released, hbefore, Round.allocatedBasis, if_pos hbalance]
  split_ifs with hclosing
  · rw [show min (-delta.deltaRaw) r.balance = r.balance by omega, div_self hratio.ne']
    simp
  · refine max_eq_left (sub_nonneg.mpr (mul_le_of_le_one_right h0 ?_))
    exact max_le zero_le_one (min_le_right _ _)

lemma apply_realizedCost (hneg : ¬0 < delta.deltaRaw) (hrec : Reconciles r.balance delta)
    (hq : r.quoteAsset ≠ some .usd) : (r.apply group delta).invested = r.invested ∧
    (r.apply group delta).realizedCost =
      r.realizedCost + if soldForSol group delta then r.released delta else 0 := by
  have hbalance := hrec.covered (not_lt.mp hneg)
  have hreported : delta.beforeRaw.bind asI128 = some r.balance := hrec.before
  have hbefore : balanceBefore r.balance delta = r.balance := by
    rw [balanceBefore, hrec.before, Option.getD_some, max_eq_left hbalance.le]
  simp only [Round.apply, if_neg hneg, Round.applyDisposal, Round.reconcileBefore, hreported,
    Option.getD_some, Round.released, hbefore, max_eq_left hbalance.le, if_pos hbalance, soldForSol]
  refine ⟨trivial, ?_⟩
  cases hk : delta.kind == .trade
  · simp
  · cases hquote : quoteFor group delta.mint false with
    | none => simp
    | some leg => cases hasset : leg.asset <;> simp [hasset, hq]

end Flow

lemma replay_flow {r : Round} (hbalanced : Balanced r.balance steps) (hsol : SolPriced steps)
    (hq : r.quoteAsset ≠ some .usd) (h0 : 0 ≤ r.remainingBasis) (h1 : r.remainingBasis ≤ r.invested) :
    (replay r steps).invested - r.invested = (replay r steps).remainingBasis - r.remainingBasis +
      ((replay r steps).realizedCost - r.realizedCost) + unpricedRelease r steps := by
  induction steps generalizing r with
  | nil => simp [unpricedRelease]
  | cons s steps ih =>
    obtain ⟨hrec, hrest⟩ := hbalanced
    obtain ⟨hs, hsteps⟩ := List.forall_mem_cons.mp hsol
    obtain ⟨h0', h1'⟩ := Round.apply_remainingBasis s.group s.delta h0 h1
    have hq' : (r.apply s.group s.delta).quoteAsset ≠ some .usd :=
      @replay_quoteAsset r [s] hq (by simpa [SolPriced] using hs)
    have hflow := ih (by rw [Round.apply_balance]; exact hrest) hsteps hq' h0' h1'
    rw [replay_cons, unpricedRelease]
    by_cases hpos : 0 < s.delta.deltaRaw
    · obtain ⟨hinvested, hcost⟩ := @apply_acquired r s.group s.delta hpos
      rw [decide_eq_true hpos, Bool.true_or, if_pos rfl]
      linarith
    · have hbasis := @apply_released r s.group s.delta hpos hrec h0
      obtain ⟨hinvested, hcost⟩ := @apply_realizedCost r s.group s.delta hpos hrec hq
      rw [decide_eq_false hpos, Bool.false_or]
      cases hsold : soldForSol s.group s.delta <;> simp only [hsold, if_true, if_false,
        Bool.false_eq_true] at hcost ⊢ <;> linarith

lemma remainingBasis_of_closed {r : Round} {group : List SubjectAssetDelta}
    {delta : SubjectAssetDelta} (hrec : Reconciles r.balance delta)
    (hclosed : carry r.balance delta ≤ 0) : (r.apply group delta).remainingBasis = 0 := by
  have hcarry := hrec.carry_eq
  have hnonneg := hrec.nonneg
  have hneg : ¬0 < delta.deltaRaw := by omega
  simp only [carry, balanceBefore, reportedBefore, reportedAfter] at hclosed
  simp [Round.apply, hneg, Round.applyDisposal, Round.reconcileBefore, hclosed]

/-- **The basis is conserved.** In a returned round with a complete basis the SOL invested is what
remains, what was booked as cost and what left with disposals that were not priced in SOL; what
remains lies between nothing and what was invested, and is nothing once the round is closed. -/
theorem reduceRounds_basis (deltas : List SubjectAssetDelta) :
    (∀ round ∈ reduceRounds deltas, round.basisComplete = true →
      ∃ c ∈ (trail deltas round.mint).chapters, c.round = round ∧
        round.investedSol = round.remainingBasisSol + round.realizedCostSol +
          unpricedRelease c.segment.opening c.segment.steps) ∧
    (∀ round ∈ reduceRounds deltas, round.basisComplete = true →
      0 ≤ round.remainingBasisSol ∧ round.remainingBasisSol ≤ round.investedSol) ∧
    ∀ round ∈ reduceRounds deltas, round.basisComplete = true → round.isOpen = false →
      round.remainingBasisSol = 0 := by
  have hround : ∀ round ∈ reduceRounds deltas, round.basisComplete = true →
      ∃ c ∈ (trail deltas round.mint).chapters, c.round = round ∧ c.WellFormed ∧ c.Complete ∧
        c.segment.opening = Round.grounded c.segment.first.delta
          (c.segment.name.key c.segment.first.delta.mint) ∧
        round.investedSol = c.segment.round.invested ∧
        round.remainingBasisSol = c.segment.round.remainingBasis ∧
        round.realizedCostSol = c.segment.round.realizedCost := by
    intro round hmem hcomplete
    obtain ⟨c, hc, rfl⟩ := mem_reduceRounds.mp hmem
    have hwf := wellFormed_of_mem_chapters c hc
    have hcc := (Chapter.round_basisComplete hwf).mp hcomplete
    refine ⟨c, hc, rfl, hwf, hcc, Segment.opening_of_grounded hcc.grounded, ?_⟩
    have hfinish (stillOpen : Bool)
        (hflag : (c.segment.round.finish stillOpen).basisComplete = true) :
        (c.segment.round.finish stillOpen).investedSol = c.segment.round.invested ∧
        (c.segment.round.finish stillOpen).remainingBasisSol = c.segment.round.remainingBasis ∧
        (c.segment.round.finish stillOpen).realizedCostSol = c.segment.round.realizedCost :=
      ⟨if_pos hflag, if_pos hflag, rfl⟩
    cases hending : c.ending with
    | returned =>
      rw [c.round_of_returned hending] at hcomplete ⊢
      exact hfinish false hcomplete
    | superseded => exact absurd hending hcc.ending
    | running =>
      rw [c.round_of_running hending] at hcomplete ⊢
      exact hfinish true hcomplete
  refine ⟨fun round hmem hcomplete => ?_, fun round hmem hcomplete => ?_,
    fun round hmem hcomplete hclosed => ?_⟩
  · obtain ⟨c, hc, hcround, -, hcc, hopening, hinvested, hremaining, hcost⟩ :=
      hround round hmem hcomplete
    refine ⟨c, hc, hcround, ?_⟩
    have hflow := @replay_flow c.segment.steps c.segment.opening
      (by rw [hopening]; exact hcc.balanced) hcc.priced (by simp [hopening, Round.grounded])
      (by simp [hopening, Round.grounded]) (by simp [hopening, Round.grounded])
    rw [hinvested, hremaining, hcost]
    simp only [hopening, Round.grounded, sub_zero] at hflow ⊢
    rw [Segment.round, hopening]
    exact hflow
  · obtain ⟨c, -, -, -, -, hopening, hinvested, hremaining, -⟩ := hround round hmem hcomplete
    rw [hinvested, hremaining, Segment.round]
    exact replay_remainingBasis (by simp [hopening, Round.grounded])
      (by simp [hopening, Round.grounded])
  · obtain ⟨c, -, hcround, hwf, hcc, hopening, -, hremaining, -⟩ := hround round hmem hcomplete
    rw [hremaining]
    have hstanding : c.segment.standing ≤ 0 := by
      refine hwf.ending.mp ?_
      cases hending : c.ending with
      | returned => rfl
      | superseded => exact absurd hending hcc.ending
      | running =>
        rw [← hcround, c.round_isOpen.mpr hending] at hclosed
        cases hclosed
    obtain ⟨init, last, hsteps⟩ := c.segment.exists_concat
    have hbalanced := hcc.balanced
    rw [Segment.standing, hsteps, carryAll_concat] at hstanding
    rw [hsteps, balanced_concat] at hbalanced
    have hbalance : (replay c.segment.opening init).balance = carryAll 0 init := by
      rw [replay_balance, hopening]
      rfl
    rw [Segment.round, hsteps, replay_concat]
    refine remainingBasis_of_closed ?_ ?_
    · rw [hbalance]
      exact hbalanced.2
    · rw [hbalance]
      exact hstanding

end Dripline.Positions.Ledger

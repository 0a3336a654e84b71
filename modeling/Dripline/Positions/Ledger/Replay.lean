import Mathlib.Algebra.BigOperators.Group.List.Basic
import Mathlib.Tactic.Linarith
import Dripline.Positions.Ledger.Row

/-!
# What a list of rows does to a round
-/

namespace Dripline.Positions.Ledger

open Dripline.Chain Dripline.Transactions

/-- A row together with its transaction. -/
structure Step where
  group : List SubjectAssetDelta
  delta : SubjectAssetDelta

/-- A round fed a list of rows. -/
def replay (r : Round) (steps : List Step) : Round :=
  steps.foldl (fun r s => r.apply s.group s.delta) r

/-- The balance a list of rows leaves. -/
def carryAll (balance : ℤ) (steps : List Step) : ℤ :=
  steps.foldl (fun b s => carry b s.delta) balance

/-- Every row reconciles with the balance the rows before it leave. -/
def Balanced : ℤ → List Step → Prop
  | _, [] => True
  | balance, s :: steps => Reconciles balance s.delta ∧ Balanced (carry balance s.delta) steps

/-- Every acquisition is a trade for SOL. -/
def SolPriced (steps : List Step) : Prop :=
  ∀ s ∈ steps, 0 < s.delta.deltaRaw → (solQuote s.group s.delta).isSome = true

/-- The SOL all acquisitions were traded for. -/
def acquisitionCost (steps : List Step) : ℚ :=
  (steps.map fun s =>
    if 0 < s.delta.deltaRaw then (solQuote s.group s.delta).getD 0 else 0).sum

/-- Every acquisition is above dust, in the decimals in force. -/
def AboveDust : ℕ → List Step → Prop
  | _, [] => True
  | decimals, s :: steps =>
    (0 < s.delta.deltaRaw → dust < rawToWhole s.delta.deltaRaw (scale decimals s.delta)) ∧
      AboveDust (scale decimals s.delta) steps

/-- Some acquisition is above dust, in the decimals in force. -/
def SomeAboveDust : ℕ → List Step → Prop
  | _, [] => False
  | decimals, s :: steps =>
    (0 < s.delta.deltaRaw ∧ dust < rawToWhole s.delta.deltaRaw (scale decimals s.delta)) ∨
      SomeAboveDust (scale decimals s.delta) steps

lemma balanced_append {balance : ℤ} {l l' : List Step} :
    Balanced balance (l ++ l') ↔ Balanced balance l ∧ Balanced (carryAll balance l) l' := by
  induction l generalizing balance with
  | nil => simp [Balanced, carryAll]
  | cons s l ih =>
    rw [List.cons_append, Balanced, ih, Balanced, and_assoc]
    rfl

lemma balanced_concat {balance : ℤ} {l : List Step} {s : Step} :
    Balanced balance (l ++ [s]) ↔
      Balanced balance l ∧ Reconciles (carryAll balance l) s.delta := by
  rw [balanced_append]
  simp [Balanced]

section replay

variable (r : Round) (steps : List Step)

@[simp] lemma replay_nil : replay r [] = r := rfl

@[simp] lemma replay_cons (s : Step) :
    replay r (s :: steps) = replay (r.apply s.group s.delta) steps := rfl

@[simp] lemma replay_concat (s : Step) :
    replay r (steps ++ [s]) = (replay r steps).apply s.group s.delta := by
  simp [replay]

@[simp] lemma carryAll_concat (balance : ℤ) (s : Step) :
    carryAll balance (steps ++ [s]) = carry (carryAll balance steps) s.delta := by
  simp [carryAll]

@[simp] lemma replay_mint : (replay r steps).mint = r.mint := by
  induction steps generalizing r with
  | nil => rfl
  | cons s steps ih => rw [replay_cons, ih, Round.apply_mint]

@[simp] lemma replay_roundKey : (replay r steps).roundKey = r.roundKey := by
  induction steps generalizing r with
  | nil => rfl
  | cons s steps ih => rw [replay_cons, ih, Round.apply_roundKey]

@[simp] lemma replay_balance : (replay r steps).balance = carryAll r.balance steps := by
  induction steps generalizing r with
  | nil => rfl
  | cons s steps ih => rw [replay_cons, ih, Round.apply_balance]; rfl

lemma replay_historyComplete : (replay r steps).historyComplete = true ↔
    r.historyComplete = true ∧ Balanced r.balance steps := by
  induction steps generalizing r with
  | nil => simp [Balanced]
  | cons s steps ih =>
    rw [replay_cons, ih, Round.apply_historyComplete, Round.apply_balance, Balanced, and_assoc]

lemma basisComplete_of_replay (h : (replay r steps).basisComplete = true) :
    r.basisComplete = true := by
  induction steps generalizing r with
  | nil => exact h
  | cons s steps ih =>
    exact Round.basisComplete_of_apply r s.group s.delta (ih _ h)

variable {r steps}

lemma replay_quoteAsset (hq : r.quoteAsset ≠ some .usd) (hsol : SolPriced steps) :
    (replay r steps).quoteAsset ≠ some .usd := by
  induction steps generalizing r with
  | nil => exact hq
  | cons s steps ih =>
    refine ih ?_ fun s' hs' => hsol s' (List.mem_cons_of_mem _ hs')
    rw [Round.apply_quoteAsset hq (hsol s List.mem_cons_self)]
    split
    · simp
    · exact hq

lemma replay_basisComplete (hq : r.quoteAsset ≠ some .usd) :
    (replay r steps).basisComplete = true ↔
      r.basisComplete = true ∧ Balanced r.balance steps ∧ SolPriced steps := by
  induction steps generalizing r with
  | nil => simp [Balanced, SolPriced]
  | cons s steps ih =>
    have hsplit : SolPriced (s :: steps) ↔
        (0 < s.delta.deltaRaw → (solQuote s.group s.delta).isSome = true) ∧ SolPriced steps :=
      List.forall_mem_cons
    rw [replay_cons, hsplit, Balanced]
    by_cases hsol : 0 < s.delta.deltaRaw → (solQuote s.group s.delta).isSome = true
    · have hq' : (r.apply s.group s.delta).quoteAsset ≠ some .usd := by
        rw [Round.apply_quoteAsset hq hsol]
        split
        · simp
        · exact hq
      rw [ih hq', Round.apply_basisComplete s.group s.delta hq, Round.apply_balance]
      tauto
    · constructor
      · intro h
        have := basisComplete_of_replay _ _ h
        exact absurd ((Round.apply_basisComplete s.group s.delta hq).mp this).2.2 hsol
      · rintro ⟨-, -, h, -⟩
        exact absurd h hsol

lemma replay_invested (hq : r.quoteAsset ≠ some .usd) (hsol : SolPriced steps) :
    (replay r steps).invested ≤ r.invested + acquisitionCost steps ∧
      ((replay r steps).invested = r.invested + acquisitionCost steps ↔
        AboveDust r.decimals steps) := by
  induction steps generalizing r with
  | nil => simp [acquisitionCost, AboveDust]
  | cons s steps ih =>
    obtain ⟨hs, hsteps⟩ := List.forall_mem_cons.mp hsol
    have hq' : (r.apply s.group s.delta).quoteAsset ≠ some .usd :=
      @replay_quoteAsset r [s] hq (by simpa [SolPriced] using hs)
    obtain ⟨hle, heq⟩ := ih hq' hsteps
    have hinv := Round.apply_invested s.group s.delta hq
    have hcost : acquisitionCost (s :: steps) =
        (if 0 < s.delta.deltaRaw then (solQuote s.group s.delta).getD 0 else 0) +
          acquisitionCost steps := by simp [acquisitionCost]
    rw [Round.apply_decimals] at heq
    rw [replay_cons, hcost, AboveDust, ← heq]
    by_cases hpos : 0 < s.delta.deltaRaw
    · obtain ⟨q, hquote⟩ := Option.isSome_iff_exists.mp (hs hpos)
      have hqpos := solQuote_pos hquote
      rw [hquote, Option.getD_some, if_pos hpos]
      by_cases hdust : dust < rawToWhole s.delta.deltaRaw (scale r.decimals s.delta)
      · rw [if_pos ⟨hpos, hdust⟩, hquote, Option.getD_some] at hinv
        rw [hinv] at hle ⊢
        exact ⟨by linarith, ⟨fun h => ⟨fun _ => hdust, by linarith⟩, fun h => by linarith [h.2]⟩⟩
      · rw [if_neg fun h => hdust h.2, add_zero] at hinv
        rw [hinv] at hle ⊢
        exact ⟨by linarith, ⟨fun h => absurd h (by linarith), fun h => absurd (h.1 hpos) hdust⟩⟩
    · rw [if_neg fun h => hpos h.1, add_zero] at hinv
      rw [if_neg hpos, zero_add, hinv]
      rw [hinv] at hle
      exact ⟨hle, ⟨fun h => ⟨fun h' => absurd h' hpos, h⟩, fun h => h.2⟩⟩

lemma replay_invested_pos (hq : r.quoteAsset ≠ some .usd) (hsol : SolPriced steps)
    (h0 : 0 ≤ r.invested) :
    0 < (replay r steps).invested ↔ 0 < r.invested ∨ SomeAboveDust r.decimals steps := by
  induction steps generalizing r with
  | nil => simp [SomeAboveDust]
  | cons s steps ih =>
    obtain ⟨hs, hsteps⟩ := List.forall_mem_cons.mp hsol
    have hq' : (r.apply s.group s.delta).quoteAsset ≠ some .usd :=
      @replay_quoteAsset r [s] hq (by simpa [SolPriced] using hs)
    have hinv := Round.apply_invested s.group s.delta hq
    have hcost : 0 ≤ (solQuote s.group s.delta).getD 0 := by
      cases hquote : solQuote s.group s.delta with
      | none => exact le_refl _
      | some q => exact (solQuote_pos hquote).le
    have h0' : 0 ≤ (r.apply s.group s.delta).invested := by
      rw [hinv]
      split
      · exact add_nonneg h0 hcost
      · simpa using h0
    rw [replay_cons, ih hq' hsteps h0', Round.apply_decimals, SomeAboveDust, ← or_assoc]
    refine or_congr_left ?_
    rw [hinv]
    by_cases hpaid : 0 < s.delta.deltaRaw ∧
        dust < rawToWhole s.delta.deltaRaw (scale r.decimals s.delta)
    · obtain ⟨q, hquote⟩ := Option.isSome_iff_exists.mp (hs hpaid.1)
      have hqpos := solQuote_pos hquote
      rw [if_pos hpaid, hquote, Option.getD_some]
      exact ⟨fun _ => Or.inr hpaid, fun _ => by linarith⟩
    · simp [hpaid]

lemma replay_remainingBasis (h0 : 0 ≤ r.remainingBasis) (h1 : r.remainingBasis ≤ r.invested) :
    0 ≤ (replay r steps).remainingBasis ∧
      (replay r steps).remainingBasis ≤ (replay r steps).invested := by
  induction steps generalizing r with
  | nil => exact ⟨h0, h1⟩
  | cons s steps ih =>
    obtain ⟨h0', h1'⟩ := Round.apply_remainingBasis s.group s.delta h0 h1
    exact ih h0' h1'

lemma replay_conserves (h : r.Conserves) : (replay r steps).Conserves := by
  induction steps generalizing r with
  | nil => exact h
  | cons s steps ih => exact ih (h.apply s.group s.delta)

lemma replay_entryCount_pos (h : 0 < r.entryCount) : 0 < (replay r steps).entryCount := by
  induction steps generalizing r with
  | nil => exact h
  | cons s steps ih => exact ih (Round.apply_entryCount_pos r s.group s.delta (Or.inl h))

/-- An event records a step: the row, and for an acquisition what it was traded for. -/
structure Records (s : Step) (event : LedgerEvent) : Prop where
  eventOf : EventOf s.delta event
  quote : 0 < s.delta.deltaRaw → event.quote =
    if s.delta.kind = .trade then quoteFor s.group s.delta.mint true else none

lemma replay_events : ∃ events, (replay r steps).events = r.events ++ events ∧
    List.Forall₂ Records steps events := by
  induction steps generalizing r with
  | nil => exact ⟨[], by simp, List.Forall₂.nil⟩
  | cons s steps ih =>
    obtain ⟨event, hevents, hof, hquote⟩ := Round.apply_events r s.group s.delta
    obtain ⟨events, htail, hrec⟩ := ih (r := r.apply s.group s.delta)
    refine ⟨event :: events, ?_, List.Forall₂.cons ⟨hof, fun hpos => ?_⟩ hrec⟩
    · rw [replay_cons, htail, hevents, List.append_assoc, List.singleton_append]
    · rw [hquote, decide_eq_true hpos]

end replay

end Dripline.Positions.Ledger

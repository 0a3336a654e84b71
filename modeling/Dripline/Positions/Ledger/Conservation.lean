import Dripline.Positions.Ledger.Refinement

/-!
# Every movement counted once

* `reduceRounds_conserves` — the three together, over all returned rounds.
-/

namespace Dripline.Positions.Ledger

open Dripline.Chain Dripline.Transactions Dripline.Found.StableSort List

/-! ## Chapters as rounds -/

lemma Segment.exists_concat (g : Segment) : ∃ init last, g.steps = init ++ [last] := by
  rcases eq_nil_or_concat' g.steps with h | h
  · cases h
  · exact h

variable {c : Chapter}

lemma Chapter.round_of_returned (h : c.ending = .returned) :
    c.round = c.segment.round.finish false := by
  unfold Chapter.round
  rw [h]

lemma Chapter.round_of_running (h : c.ending = .running) :
    c.round = c.segment.round.finish true := by
  unfold Chapter.round
  rw [h]

lemma Chapter.round_isOpen (c : Chapter) : c.round.isOpen = true ↔ c.ending = .running := by
  obtain ⟨g, ending⟩ := c
  cases ending
  · simp [Chapter.round, Round.finish]
  · simp only [Chapter.round, Round.closeStale]
    split <;> simp [Round.finish]
  · simp [Chapter.round, Round.finish]

lemma Chapter.round_balanceRaw (c : Chapter) : (c.round.balanceRaw : ℤ) = c.segment.standing := by
  have hnonneg : 0 ≤ c.segment.standing := by
    obtain ⟨init, last, hsteps⟩ := c.segment.exists_concat
    rw [Segment.standing, hsteps, carryAll_concat]
    exact carry_nonneg _ _
  have hfinish : ∀ stillOpen, ((c.segment.round.finish stillOpen).balanceRaw : ℤ) =
      c.segment.standing := fun stillOpen => by
    simp only [Round.finish, Segment.round_balance]
    omega
  obtain ⟨g, ending⟩ := c
  cases ending
  · exact hfinish _
  · simp only [Chapter.round, Round.closeStale]
    split
    · exact hfinish false
    · exact hfinish false
  · exact hfinish _

lemma Chapter.round_events_eq (c : Chapter) : c.round.events = c.segment.round.events := by
  obtain ⟨g, ending⟩ := c
  cases ending
  · rfl
  · simp only [Chapter.round, Round.closeStale]
    split <;> rfl
  · rfl

@[simp] lemma Segment.opening_events (g : Segment) : g.opening.events = [] := by
  unfold Segment.opening
  split <;> rfl

lemma Chapter.round_events (c : Chapter) : List.Forall₂ Records c.segment.steps c.round.events := by
  obtain ⟨events, hevents, hrec⟩ := @replay_events c.segment.opening c.segment.steps
  rw [Chapter.round_events_eq, Segment.round, hevents, Segment.opening_events, nil_append]
  exact hrec

lemma Chapter.round_historyComplete (hc : c.WellFormed) :
    c.round.historyComplete = true ↔
      c.ending ≠ .superseded ∧ c.segment.round.historyComplete = true := by
  obtain ⟨g, ending⟩ := c
  cases ending
  · simp [Chapter.round, Round.finish]
  · have hpos : 0 < g.standing := by
      by_contra hle
      exact absurd (hc.ending.mpr (not_lt.mp hle)) (by simp)
    simp [Chapter.round, Round.closeStale, hpos]
  · simp [Chapter.round, Round.finish]

lemma Segment.opening_of_grounded {g : Segment} (h : g.isGrounded = true) :
    g.opening = Round.grounded g.first.delta (g.name.key g.first.delta.mint) := by
  unfold Segment.opening
  rw [if_pos h]

lemma Segment.opening_conserves (g : Segment) : g.opening.Conserves := by
  unfold Segment.opening
  split
  · intro _
    exact ⟨le_refl _, rfl⟩
  · intro h
    cases h

lemma Chapter.round_conserves (hc : c.WellFormed) (hcomplete : c.round.historyComplete = true) :
    c.round.balanceRaw + c.round.totalDisposedRaw = c.round.totalAcquiredRaw ∧
      (c.round.isOpen = false ↔ c.round.balanceRaw = 0) := by
  obtain ⟨hending, hhistory⟩ := (Chapter.round_historyComplete hc).mp hcomplete
  obtain ⟨hdisposed, hbalance⟩ : 0 ≤ c.segment.round.totalDisposed ∧
      c.segment.round.balance + c.segment.round.totalDisposed = c.segment.round.totalAcquired :=
    replay_conserves c.segment.opening_conserves hhistory
  have hraw := c.round_balanceRaw
  have hisOpen := c.round_isOpen
  have hzero := hc.ending
  rw [Segment.round_balance] at hbalance
  have htotals : c.round.totalAcquiredRaw = (max c.segment.round.totalAcquired 0).toNat ∧
      c.round.totalDisposedRaw = (max c.segment.round.totalDisposed 0).toNat := by
    obtain ⟨g, ending⟩ := c
    cases ending
    · exact ⟨rfl, rfl⟩
    · exact absurd rfl hending
    · exact ⟨rfl, rfl⟩
  refine ⟨by rw [htotals.1, htotals.2]; omega, ?_⟩
  obtain ⟨g, ending⟩ := c
  cases ending
  · have hle : g.standing ≤ 0 := hzero.mp rfl
    simp only [Chapter.round, Round.finish] at hraw ⊢
    simp only [true_iff]
    omega
  · exact absurd rfl hending
  · have hpos : ¬ g.standing ≤ 0 := fun h => absurd (hzero.mpr h) (by simp)
    simp only [Chapter.round, Round.finish] at hraw ⊢
    simp only [Bool.true_eq_false, false_iff]
    omega

/-! ## Open rounds -/

lemma ending_of_mem_past {steps : List Step} : ∀ c ∈ (trailOf steps).past, c.ending ≠ .running := by
  induction steps using List.reverseRecOn with
  | nil =>
    intro c hc
    simp [Trail.empty] at hc
  | append_singleton steps s ih =>
    intro c hc
    rw [trailOf_concat] at hc
    rcases mem_append.mp hc with hc | hc
    · exact ih c hc
    · rcases mem_append.mp hc with hc | hc
      · split at hc
        · obtain ⟨g, -, rfl⟩ := Option.map_eq_some_iff.mp (Option.mem_toList.mp hc)
          simp
        · cases hc
      · split at hc
        · rw [mem_singleton.mp hc]
          simp
        · cases hc

lemma ending_of_split {steps : List Step} {cs cs' : List Chapter}
    (h : (trailOf steps).chapters = cs ++ c :: cs') (hcs' : cs' ≠ []) : c.ending ≠ .running := by
  apply @ending_of_mem_past steps
  cases hcurrent : (trailOf steps).current with
  | none =>
    have hpast : (trailOf steps).past = cs ++ c :: cs' := by
      rw [← h, Trail.chapters, hcurrent]
      simp
    rw [hpast]
    simp
  | some g =>
    have hpast : (trailOf steps).past = (cs ++ c :: cs').dropLast := by
      rw [← h, Trail.chapters, hcurrent]
      simp
    rw [hpast, dropLast_append_of_ne_nil (by simp), dropLast_cons_of_ne_nil hcs']
    simp

lemma countP_isOpen_le_one (deltas : List SubjectAssetDelta) (mint : String) :
    ((reduceRounds deltas).filter (·.mint = mint)).countP (·.isOpen) ≤ 1 := by
  rw [(filter_reduceRounds_perm deltas mint).countP_eq, countP_map, Trail.chapters,
    countP_append]
  have hpast : (trail deltas mint).past.countP ((·.isOpen) ∘ Chapter.round) = 0 := by
    rw [countP_eq_zero]
    intro c hc hopen
    exact ending_of_mem_past c hc (c.round_isOpen.mp hopen)
  rw [hpast, Nat.zero_add]
  cases (trail deltas mint).current with
  | none => simp
  | some g => exact countP_le_length

lemma Chapter.balanceRaw_pos (hc : c.WellFormed) (hopen : c.round.isOpen = true) :
    0 < c.round.balanceRaw := by
  have hraw := c.round_balanceRaw
  have hending := c.round_isOpen.mp hopen
  have hpos : ¬ c.segment.standing ≤ 0 := fun h => by
    have := hc.ending.mpr h
    rw [hending] at this
    cases this
  omega

/-! ## All returned rounds -/

/-- **Every movement is counted once.** The returned rounds split the successful rows that move a
position into lists, one a round, each in chain order and recorded event for event; a mint has at
most one open round, and it holds something; and a round whose history is complete holds exactly
what came in and did not go out, and is closed exactly when that is nothing. -/
theorem reduceRounds_conserves (deltas : List SubjectAssetDelta) :
    (∃ sources : List (List SubjectAssetDelta),
      List.Forall₂ (fun (round : LedgerRound) source =>
        source.Sublist (chainOrder deltas) ∧ (∀ delta ∈ source, delta.mint = round.mint) ∧
          List.Forall₂ EventOf source round.events) (reduceRounds deltas) sources ∧
      sources.flatten.Perm ((chainOrder deltas).filter isEligible)) ∧
    (∀ mint, ((reduceRounds deltas).filter (·.mint = mint)).countP (·.isOpen) ≤ 1) ∧
    (∀ round ∈ reduceRounds deltas, round.isOpen = true → 0 < round.balanceRaw) ∧
    (∀ round ∈ reduceRounds deltas, round.historyComplete = true →
      round.balanceRaw + round.totalDisposedRaw = round.totalAcquiredRaw ∧
        (round.isOpen = false ↔ round.balanceRaw = 0)) := by
  refine ⟨?_, countP_isOpen_le_one deltas, ?_, ?_⟩
  · obtain ⟨chapters, heq, hmem, hperm⟩ := reduceRounds_eq_map deltas
    refine ⟨chapters.map fun c => c.segment.steps.map (·.delta), ?_, by
      rwa [← flatMap_def]⟩
    rw [heq, forall₂_map_left_iff, forall₂_map_right_iff, forall₂_same]
    intro c hc
    refine ⟨?_, ?_, ?_⟩
    · have hpiece : c.segment.steps.Sublist (stepsOf deltas c.round.mint) := by
        rw [← flatMap_chapters (stepsOf deltas c.round.mint), flatMap_def]
        exact sublist_flatten_of_mem (mem_map_of_mem (hmem c hc))
      have hrows : (c.segment.steps.map (·.delta)).Sublist
          ((rows deltas).filter (·.mint = c.round.mint)) := by
        rw [← map_delta_stepsOf]
        exact hpiece.map _
      exact hrows.trans (filter_sublist.trans filter_sublist)
    · intro delta hdelta
      obtain ⟨s, hs, rfl⟩ := mem_map.mp hdelta
      exact (delta_of_mem_chapter (hmem c hc) hs).2.2.2
    · rw [forall₂_map_left_iff]
      exact c.round_events.imp fun _ _ h => h.eventOf
  · intro round hround hopen
    obtain ⟨c, hc, rfl⟩ := mem_reduceRounds.mp hround
    exact Chapter.balanceRaw_pos (wellFormed_of_mem_chapters c hc) hopen
  · intro round hround hcomplete
    obtain ⟨c, hc, rfl⟩ := mem_reduceRounds.mp hround
    exact Chapter.round_conserves (wellFormed_of_mem_chapters c hc) hcomplete

end Dripline.Positions.Ledger

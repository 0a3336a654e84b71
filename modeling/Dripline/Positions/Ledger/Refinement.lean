import Dripline.Positions.Ledger.Trail

/-!
# The reduction refines the trail
-/

namespace Dripline.Positions.Ledger

open Dripline.Chain Dripline.Transactions Dripline.Found.StableSort Dripline.Found.Lanes List

/-! ## Open rounds -/

variable {state : Reduction}

lemma filter_stillOpen (hkeyed : state.Keyed) (mint : String) :
    state.stillOpen.filter (·.mint = mint) = (state.openRounds.lookup mint).toList := by
  have hmint : ∀ e ∈ state.openRounds.entries, e.2.mint = e.1 := fun e he =>
    hkeyed e.1 e.2 (AList.mem_lookup_iff.mpr he)
  have hnodup := state.openRounds.nodupKeys
  unfold Reduction.stillOpen AList.lookup
  generalize state.openRounds.entries = entries at hmint hnodup
  induction entries with
  | nil => rfl
  | cons e entries ih =>
    obtain ⟨key, round⟩ := e
    obtain ⟨hfresh, hnodup'⟩ := nodupKeys_cons.mp hnodup
    have ih' := ih (fun e he => hmint e (mem_cons_of_mem _ he)) hnodup'
    have hround : round.mint = key := hmint ⟨key, round⟩ mem_cons_self
    by_cases hkey : key = mint
    · subst hkey
      have hnone : List.dlookup key entries = none := dlookup_eq_none.mpr hfresh
      rw [hnone] at ih'
      rw [map_cons, filter_cons_of_pos (by simp [hround]), ih', dlookup_cons_eq]
      rfl
    · rw [map_cons, filter_cons_of_neg (by simp [hround, hkey]), ih',
        dlookup_cons_ne _ _ (Ne.symm hkey)]

lemma eq_of_mem_stillOpen (hkeyed : state.Keyed) {r r' : Round} (hr : r ∈ state.stillOpen)
    (hr' : r' ∈ state.stillOpen) (h : r.mint = r'.mint) : r = r' := by
  have hmem : ∀ x ∈ state.stillOpen, x.mint = r.mint →
      x ∈ (state.openRounds.lookup r.mint).toList := fun x hx hmint => by
    rw [← filter_stillOpen hkeyed]
    exact mem_filter.mpr ⟨hx, by simpa using hmint⟩
  have h1 := Option.mem_toList.mp (hmem r hr rfl)
  have h2 := Option.mem_toList.mp (hmem r' hr' h.symm)
  exact Option.mem_unique h1 h2

/-! ## The final sort -/

lemma roundCmp_eq {a b : LedgerRound} (h : roundCmp a b = .eq) :
    a.openedAt = b.openedAt ∧ a.mint = b.mint ∧ a.roundKey = b.roundKey := by
  simp only [roundCmp, compareLex_eq_eq, compareOn, compare_eq_iff_eq] at h
  exact ⟨Std.LawfulEqCmp.eq_of_compare h.1, h.2⟩

instance : Std.TransCmp roundCmp := by
  unfold roundCmp
  infer_instance

lemma rounds_eq_of_perm (hkeyed : state.Keyed) {drained : List Round}
    (hperm : drained.Perm state.stillOpen) :
    state.rounds drained = state.rounds state.stillOpen := by
  refine sortBy_append_of_perm roundCmp state.finished (hperm.map _) ?_
  intro a ha b hb htie
  obtain ⟨r, hr, rfl⟩ := mem_map.mp ha
  obtain ⟨r', hr', rfl⟩ := mem_map.mp hb
  have hmint : r.mint = r'.mint := (roundCmp_eq htie).2.1
  rw [eq_of_mem_stillOpen hkeyed (hperm.mem_iff.mp hr) (hperm.mem_iff.mp hr') hmint]

/-! ## Rounds and chapters -/

/-- The trail of a mint through a whole history. -/
def trail (deltas : List SubjectAssetDelta) (mint : String) : Trail :=
  trailOf (stepsOf deltas mint)

lemma filter_reduceRounds (deltas : List SubjectAssetDelta) (mint : String) :
    (reduceRounds deltas).filter (·.mint = mint) =
      sortBy roundCmp ((trail deltas mint).chapters.map (·.round)) := by
  have hlane := lane_eq_trail deltas mint
  have hdone : (reduceAll deltas).finished.filter (·.mint = mint) =
      (trail deltas mint).past.map (·.round) := congrArg Lane.done hlane
  have hcurrent : (reduceAll deltas).openRounds.lookup mint =
      (trail deltas mint).current.map (·.round) := congrArg Lane.current hlane
  have hopen : ((reduceAll deltas).stillOpen.map (·.finish true)).filter (·.mint = mint) =
      ((trail deltas mint).current.map (Chapter.mk · .running)).toList.map (·.round) := by
    rw [filter_map]
    have hcomp : ((fun round : LedgerRound => decide (round.mint = mint)) ∘
        fun r : Round => r.finish true) = fun r => decide (r.mint = mint) := rfl
    rw [hcomp, filter_stillOpen (keyed_reduceAll deltas), hcurrent]
    cases (trail deltas mint).current <;> rfl
  rw [reduceRounds, Reduction.rounds, filter_sortBy, filter_append, hdone, hopen,
    ← map_append]
  rfl

lemma filter_reduceRounds_perm (deltas : List SubjectAssetDelta) (mint : String) :
    ((reduceRounds deltas).filter (·.mint = mint)).Perm
      ((trail deltas mint).chapters.map (·.round)) := by
  rw [filter_reduceRounds]
  exact sortBy_perm _ _

variable {deltas : List SubjectAssetDelta}

lemma mem_reduceRounds {round : LedgerRound} :
    round ∈ reduceRounds deltas ↔
      ∃ c ∈ (trail deltas round.mint).chapters, c.round = round := by
  rw [← mem_map, ← (filter_reduceRounds_perm deltas round.mint).mem_iff, mem_filter]
  simp

variable {mint : String} {s : Step}

lemma delta_of_mem_stepsOf (hs : s ∈ stepsOf deltas mint) :
    s.delta ∈ deltas ∧ s.delta.success = true ∧
      isEligible s.delta = true ∧ s.delta.mint = mint := by
  obtain ⟨hmem, hmint⟩ := mem_filter.mp hs
  obtain ⟨h1, h2, h3⟩ := delta_of_mem_steps hmem
  exact ⟨h1, h2, h3, by simpa using hmint⟩

variable {c : Chapter}

lemma delta_of_mem_chapter (hc : c ∈ (trail deltas mint).chapters) (hs : s ∈ c.segment.steps) :
    s.delta ∈ deltas ∧ s.delta.success = true ∧ isEligible s.delta = true ∧
      s.delta.mint = mint :=
  delta_of_mem_stepsOf (mem_of_mem_chapter hc hs)

lemma Segment.first_mem (g : Segment) : g.first ∈ g.steps := mem_cons_self

lemma mint_of_mem_chapters (hc : c ∈ (trail deltas mint).chapters) : c.round.mint = mint := by
  rw [Chapter.round_mint]
  exact (delta_of_mem_chapter hc c.segment.first_mem).2.2.2

lemma round_mem_reduceRounds (hc : c ∈ (trail deltas mint).chapters) :
    c.round ∈ reduceRounds deltas :=
  mem_reduceRounds.mpr ⟨c, by rwa [mint_of_mem_chapters hc], rfl⟩

lemma map_delta_stepsOf (deltas : List SubjectAssetDelta) (mint : String) :
    (stepsOf deltas mint).map (·.delta) = (rows deltas).filter (·.mint = mint) := by
  rw [← map_delta_steps, filter_map]
  rfl

lemma flatMap_trail (deltas : List SubjectAssetDelta) (mint : String) :
    ((trail deltas mint).chapters.flatMap fun c => c.segment.steps.map (·.delta)) =
      (rows deltas).filter (·.mint = mint) := by
  rw [← map_delta_stepsOf, ← flatMap_chapters (stepsOf deltas mint), map_flatMap]
  rfl

lemma reduceRounds_eq_map (deltas : List SubjectAssetDelta) :
    ∃ chapters : List Chapter, reduceRounds deltas = chapters.map (·.round) ∧
      (∀ c ∈ chapters, c ∈ (trail deltas c.round.mint).chapters) ∧
      (chapters.flatMap fun c => c.segment.steps.map (·.delta)).Perm (rows deltas) := by
  -- the mints of the rounds and of the rows, once each
  let mints := ((reduceRounds deltas).map (·.mint) ++ (rows deltas).map (·.mint)).dedup
  have hnodup : mints.Nodup := nodup_dedup _
  let all := mints.flatMap fun mint => (trail deltas mint).chapters
  have hall : (reduceRounds deltas).Perm (all.map (·.round)) := by
    have hlanes := perm_flatMap_filter (fun r : LedgerRound => r.mint) hnodup
      (l := reduceRounds deltas) fun r hr => mem_dedup.mpr
        (mem_append_left _ (mem_map_of_mem hr))
    rw [map_flatMap]
    exact hlanes.symm.trans
      (List.Perm.flatMap_left _ fun mint _ => filter_reduceRounds_perm deltas mint)
  have hrows : (all.flatMap fun c => c.segment.steps.map (·.delta)).Perm (rows deltas) := by
    have hlanes := perm_flatMap_filter (fun d : SubjectAssetDelta => d.mint) hnodup
      (l := rows deltas) fun d hd => mem_dedup.mpr
        (mem_append_right _ (mem_map_of_mem hd))
    rw [flatMap_assoc]
    simpa only [flatMap_trail] using hlanes
  obtain ⟨chapters, heq, hperm⟩ :=
    (congrFun₂ (eq_map_comp_perm Chapter.round) (reduceRounds deltas) all).mpr hall
  refine ⟨chapters, heq, ?_, (hperm.flatMap_right _).trans hrows⟩
  intro c hc
  obtain ⟨mint, -, hmem⟩ := mem_flatMap.mp (hperm.mem_iff.mp hc)
  rwa [mint_of_mem_chapters hmem]

end Dripline.Positions.Ledger

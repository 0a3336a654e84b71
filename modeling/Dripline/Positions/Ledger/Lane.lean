import Dripline.Found.Lanes
import Dripline.Positions.Ledger.Replay

/-!
# The reduction, one mint at a time

A row only touches the rounds of its own mint. So the reduction of a whole history is, seen from
one mint, the reduction of that mint's rows.
-/

namespace Dripline.Positions.Ledger

open Dripline.Chain Dripline.Transactions Dripline.Found.StableSort Dripline.Found.Runs List
  Dripline.Found.Lanes

/-! ## One pass over the steps -/

variable (deltas : List SubjectAssetDelta)

/-- The eligible rows in chain order, each with its transaction. -/
def steps : List Step :=
  (runs (·.signature) (chainOrder deltas)).flatMap fun group =>
    (group.filter isEligible).map (Step.mk group)

/-- The eligible rows in chain order. -/
def rows : List SubjectAssetDelta :=
  (chainOrder deltas).filter isEligible

lemma map_delta_steps : (steps deltas).map (·.delta) = rows deltas := by
  have h := flatMap_runs (fun d : SubjectAssetDelta => d.signature) (q := isEligible)
    (f := fun _ d => d) (h := id) (l := chainOrder deltas) (fun _ _ _ _ _ => rfl)
  simpa [steps, rows, map_flatMap, Function.comp_def] using h

lemma delta_of_mem_steps {deltas : List SubjectAssetDelta} {s : Step} (hs : s ∈ steps deltas) :
    s.delta ∈ deltas ∧ s.delta.success = true ∧ isEligible s.delta = true := by
  have hrow : s.delta ∈ rows deltas := by
    rw [← map_delta_steps]
    exact mem_map_of_mem hs
  obtain ⟨hsorted, heligible⟩ := mem_filter.mp hrow
  obtain ⟨hmem, hsuccess⟩ := mem_filter.mp ((mem_sortBy _).mp hsorted)
  exact ⟨hmem, hsuccess, heligible⟩

lemma reduceAll_eq_foldl (deltas : List SubjectAssetDelta) :
    reduceAll deltas =
      (steps deltas).foldl (fun state s => applyDelta s.group state s.delta) Reduction.empty := by
  unfold reduceAll steps
  rw [foldl_flatMap]
  congr 1
  funext state group
  rw [applyGroup, foldl_map, foldl_filter]

/-! ## Lanes -/

/-- One mint's share of the working state. -/
structure Lane where
  current : Option Round
  done : List LedgerRound
  genesisUsed : Bool

/-- The lane of a mint. -/
def Reduction.lane (mint : String) (state : Reduction) : Lane where
  current := state.openRounds.lookup mint
  done := state.finished.filter (·.mint = mint)
  genesisUsed := decide (mint ∈ state.genesisUsed)

variable (lane : Lane)

/-- The round a row is applied to: a fresh one for a grounded row, otherwise the current one or a
genesis round. -/
def Lane.target (delta : SubjectAssetDelta) : Round :=
  if isGrounded delta then Round.grounded delta (groundedKey delta)
  else lane.current.getD (Round.genesis delta
    (if lane.genesisUsed then gapKey delta else genesisKey delta.mint))

/-- The round a row supersedes. -/
def Lane.superseded (delta : SubjectAssetDelta) : List LedgerRound :=
  if isGrounded delta then (lane.current.map Round.closeStale).toList else []

/-- The rounds a row finishes: the one it supersedes, and the one it brings to zero. -/
def Lane.finishes (s : Step) : List LedgerRound :=
  let round := (lane.target s.delta).apply s.group s.delta
  lane.superseded s.delta ++ if round.balance ≤ 0 then [round.finish false] else []

/-- One row in the lane of its mint. -/
def Lane.step (s : Step) : Lane :=
  let round := (lane.target s.delta).apply s.group s.delta
  { current := if round.balance ≤ 0 then none else some round
    done := lane.done ++ lane.finishes s
    genesisUsed := lane.genesisUsed || (!isGrounded s.delta && lane.current.isNone) }

/-- Open rounds sit under their own mint. -/
def Reduction.Keyed (state : Reduction) : Prop :=
  ∀ mint round, state.openRounds.lookup mint = some round → round.mint = mint

@[simp] lemma Round.finish_mint (r : Round) (stillOpen : Bool) :
    (r.finish stillOpen).mint = r.mint := rfl

@[simp] lemma Round.closeStale_mint (r : Round) : r.closeStale.mint = r.mint := by
  unfold Round.closeStale
  split <;> rfl

lemma Lane.target_mint {state : Reduction} (hkeyed : state.Keyed) (delta : SubjectAssetDelta) :
    ((state.lane delta.mint).target delta).mint = delta.mint := by
  unfold Lane.target
  split
  · rfl
  · cases h : state.openRounds.lookup delta.mint with
    | none => simp [Reduction.lane, h, Round.genesis, Round.grounded]
    | some round => simpa [Reduction.lane, h] using hkeyed _ _ h

section routing

variable (state : Reduction) (delta : SubjectAssetDelta)

lemma lookup_openRound_self : (openRound state delta).openRounds.lookup delta.mint =
    some ((state.lane delta.mint).target delta) := by
  unfold openRound Lane.target
  split
  · exact AList.lookup_insert _
  · cases h : state.openRounds.lookup delta.mint with
    | none | some round => simp [Reduction.lane, h]

variable {mint : String}

lemma lookup_openRound_of_ne (h : mint ≠ delta.mint) :
    (openRound state delta).openRounds.lookup mint = state.openRounds.lookup mint := by
  unfold openRound
  split
  · rw [AList.lookup_insert_ne h, AList.lookup_erase_ne h]
  · split
    · exact AList.lookup_insert_ne h
    · rfl

lemma finished_openRound : (openRound state delta).finished =
    state.finished ++ (state.lane delta.mint).superseded delta := by
  unfold openRound Lane.superseded
  split
  · rfl
  · split <;> simp

lemma mem_genesisUsed_openRound :
    mint ∈ (openRound state delta).genesisUsed ↔
      mint ∈ state.genesisUsed ∨
        (mint = delta.mint ∧ isGrounded delta = false ∧
          state.openRounds.lookup delta.mint = none) := by
  unfold openRound
  split
  next h => simp [h]
  next h =>
    split
    next hnone =>
      rw [Option.isNone_iff_eq_none] at hnone
      simp [h, hnone, or_comm]
    next hsome =>
      rw [Option.isNone_iff_eq_none] at hsome
      simp [hsome]

variable (group : List SubjectAssetDelta)

lemma lookup_applyDelta_self : (applyDelta group state delta).openRounds.lookup delta.mint =
    ((state.lane delta.mint).step ⟨group, delta⟩).current := by
  unfold applyDelta Lane.step
  simp only [lookup_openRound_self]
  split <;> simp

lemma lookup_applyDelta_of_ne (h : mint ≠ delta.mint) :
    (applyDelta group state delta).openRounds.lookup mint = state.openRounds.lookup mint := by
  unfold applyDelta
  simp only [lookup_openRound_self]
  split <;> simp [h, lookup_openRound_of_ne]

lemma finished_applyDelta : (applyDelta group state delta).finished = state.finished ++
    (state.lane delta.mint).finishes ⟨group, delta⟩ := by
  unfold applyDelta Lane.finishes
  simp only [lookup_openRound_self, ← append_assoc, ← finished_openRound]
  split <;> simp

lemma genesisUsed_applyDelta :
    (applyDelta group state delta).genesisUsed = (openRound state delta).genesisUsed := by
  unfold applyDelta
  simp only [lookup_openRound_self]
  split <;> rfl

variable {state}

lemma Reduction.Keyed.applyDelta (hkeyed : state.Keyed) :
    (Ledger.applyDelta group state delta).Keyed := by
  intro mint round hlookup
  by_cases hmint : mint = delta.mint
  · subst hmint
    rw [lookup_applyDelta_self] at hlookup
    unfold Lane.step at hlookup
    dsimp only at hlookup
    split at hlookup
    · cases hlookup
    · rw [← Option.some.inj hlookup, Round.apply_mint, Lane.target_mint hkeyed]
  · rw [lookup_applyDelta_of_ne state delta group hmint] at hlookup
    exact hkeyed _ _ hlookup

lemma filter_finished_applyDelta (hkeyed : state.Keyed) (mint : String) :
    (Ledger.applyDelta group state delta).finished.filter (·.mint = mint) =
      state.finished.filter (·.mint = mint) ++
        if delta.mint = mint then (state.lane delta.mint).finishes ⟨group, delta⟩ else [] := by
  rw [finished_applyDelta, filter_append]
  congr 1
  have hall : ∀ round ∈ (state.lane delta.mint).finishes ⟨group, delta⟩,
      round.mint = delta.mint := by
    intro round hround
    rcases mem_append.mp hround with hround | hround
    · unfold Lane.superseded at hround
      split at hround
      · obtain ⟨stale, hstale, rfl⟩ := Option.map_eq_some_iff.mp (Option.mem_toList.mp hround)
        rw [Round.closeStale_mint, hkeyed _ _ hstale]
      · cases hround
    · split at hround
      · rw [mem_singleton.mp hround, Round.finish_mint, Round.apply_mint,
          Lane.target_mint hkeyed]
      · cases hround
  split
  next h =>
    rw [filter_eq_self]
    intro round hround
    simp [hall round hround, h]
  next h =>
    rw [filter_eq_nil_iff]
    intro round hround
    simp [hall round hround, h]

lemma lane_applyDelta_self (hkeyed : state.Keyed) :
    (Ledger.applyDelta group state delta).lane delta.mint =
      (state.lane delta.mint).step ⟨group, delta⟩ := by
  unfold Reduction.lane
  rw [lookup_applyDelta_self, filter_finished_applyDelta delta group hkeyed, if_pos rfl,
    genesisUsed_applyDelta]
  unfold Lane.step
  congr 1
  rw [Bool.eq_iff_iff, decide_eq_true_eq, mem_genesisUsed_openRound]
  simp

lemma lane_applyDelta_of_ne (hkeyed : state.Keyed) (h : mint ≠ delta.mint) :
    (Ledger.applyDelta group state delta).lane mint = state.lane mint := by
  unfold Reduction.lane
  rw [lookup_applyDelta_of_ne state delta group h, filter_finished_applyDelta delta group hkeyed,
    if_neg (Ne.symm h), append_nil, genesisUsed_applyDelta]
  congr 1
  rw [Bool.eq_iff_iff, decide_eq_true_eq, decide_eq_true_eq, mem_genesisUsed_openRound]
  simp [h]

end routing

/-! ## A whole history -/

/-- The steps of one mint. -/
def stepsOf (deltas : List SubjectAssetDelta) (mint : String) : List Step :=
  (steps deltas).filter (·.delta.mint = mint)

/-- The lane before the first row. -/
def Lane.empty : Lane := ⟨none, [], false⟩

lemma keyed_reduceAll (deltas : List SubjectAssetDelta) : (reduceAll deltas).Keyed := by
  rw [reduceAll_eq_foldl]
  apply inv_foldl
  · intro state s hkeyed
    exact hkeyed.applyDelta s.delta s.group
  · intro mint round hlookup
    simp [Reduction.empty] at hlookup

lemma lane_reduceAll (deltas : List SubjectAssetDelta) (mint : String) :
    (reduceAll deltas).lane mint = (stepsOf deltas mint).foldl Lane.step Lane.empty := by
  rw [reduceAll_eq_foldl]
  refine view_foldl (fun s : Step => s.delta.mint)
    (fun state s => applyDelta s.group state s.delta) Reduction.lane Lane.step Reduction.Keyed
    ?_ ?_ ?_ ?_ (steps deltas) mint
  · intro state s hkeyed
    exact hkeyed.applyDelta s.delta s.group
  · intro state s hkeyed
    exact lane_applyDelta_self s.delta s.group hkeyed
  · intro state s mint hkeyed hmint
    exact lane_applyDelta_of_ne s.delta s.group hkeyed hmint
  · intro mint round hlookup
    simp [Reduction.empty] at hlookup

end Dripline.Positions.Ledger

import Dripline.Positions.Ledger.Refinement

/-!
# The reduction does not depend on the order of arrival

The rows come out of a database query in no promised order, failed and zero-amount rows among
them. What the reducer computes only depends on the rows that moved something.

* `reduceRounds_orderFree` — permuting the rows and inserting failed or zero-amount ones changes
  nothing, in whatever order the map of open rounds is drained.
-/

namespace Dripline.Positions.Ledger

open Dripline.Chain Dripline.Transactions Dripline.Found.StableSort Dripline.Found.Runs List

/-! ## Quotes and zero amounts -/

/-- A row that moves something. -/
def moves (delta : SubjectAssetDelta) : Bool := delta.deltaRaw != 0

lemma moves_of_isEligible {delta : SubjectAssetDelta} (h : isEligible delta = true) :
    moves delta = true := by
  simp only [isEligible, Bool.not_eq_true', Bool.or_eq_false_iff] at h
  simp [moves, bne, h.2]

lemma findQuote_filter (group : List SubjectAssetDelta) (mint : String) (acquisition : Bool)
    (wanted : String → Bool) :
    findQuote (group.filter moves) mint acquisition wanted =
      findQuote group mint acquisition wanted := by
  unfold findQuote
  induction group with
  | nil => rfl
  | cons delta group ih =>
    by_cases hmoves : moves delta = true
    · rw [filter_cons_of_pos hmoves, List.findSome?_cons, List.findSome?_cons, ih]
    · have hzero : delta.deltaRaw = 0 := by simpa [moves] using hmoves
      have hnone : (if wanted delta.mint then quoteCandidate mint acquisition delta else none) =
          none := by
        cases acquisition <;> simp [quoteCandidate, matchesDirection, hzero]
      rw [filter_cons_of_neg hmoves, List.findSome?_cons, hnone, ih]

lemma quoteFor_filter (group : List SubjectAssetDelta) (mint : String) (acquisition : Bool) :
    quoteFor (group.filter moves) mint acquisition = quoteFor group mint acquisition := by
  have hcount : ((group.filter moves).filter fun delta =>
      !isReferenceAsset delta.mint && sameDirection acquisition delta.deltaRaw) =
      group.filter fun delta =>
        !isReferenceAsset delta.mint && sameDirection acquisition delta.deltaRaw := by
    rw [filter_filter]
    apply filter_congr
    intro delta _
    by_cases hzero : delta.deltaRaw = 0
    · cases acquisition <;> simp [sameDirection, hzero]
    · simp [moves, hzero]
  unfold quoteFor
  simp only [hcount, findQuote_filter]

lemma Round.apply_congr {group group' : List SubjectAssetDelta}
    (h : ∀ mint acquisition, quoteFor group mint acquisition = quoteFor group' mint acquisition)
    (r : Round) (delta : SubjectAssetDelta) : r.apply group delta = r.apply group' delta := by
  simp only [Round.apply, Round.applyAcquisition, Round.applyDisposal, h]

lemma applyDelta_filter (group : List SubjectAssetDelta) (state : Reduction)
    (delta : SubjectAssetDelta) :
    applyDelta (group.filter moves) state delta = applyDelta group state delta := by
  unfold applyDelta
  simp only [Round.apply_congr (quoteFor_filter group)]

/-! ## Chain order -/

/-- The position of a row in the chain, its mint left out. -/
def positionCmp : SubjectAssetDelta → SubjectAssetDelta → Ordering :=
  compareLex (compareOn fun d => d.slot.isNone) <|
  compareLex (compareOn fun d => d.slot) <|
  compareLex (compareOn fun d => d.txIndex) (compareOn fun d => d.signature)

instance : Std.TransCmp chainCmp := by
  unfold chainCmp
  infer_instance

instance : Std.TransCmp positionCmp := by
  unfold positionCmp
  infer_instance

variable {a b : SubjectAssetDelta}

lemma positionCmp_isLE (h : (chainCmp a b).isLE = true) : (positionCmp a b).isLE = true := by
  have hthen : chainCmp a b = (positionCmp a b).then (compareOn (fun d => d.mint) a b) := by
    simp only [chainCmp, positionCmp, compareLex, Ordering.then_assoc]
  rw [hthen] at h
  cases hpos : positionCmp a b with
  | lt => rfl
  | eq => rfl
  | gt => simp [hpos] at h

lemma signature_of_positionCmp_eq (h : positionCmp a b = .eq) : a.signature = b.signature := by
  simp only [positionCmp, compareLex_eq_eq, compareOn, compare_eq_iff_eq] at h
  exact h.2.2.2

lemma positionCmp_eq (hslot : a.slot = b.slot) (hindex : a.txIndex = b.txIndex)
    (hsig : a.signature = b.signature) : positionCmp a b = .eq := by
  simp [positionCmp, compareLex_eq_eq, compareOn, hslot, hindex, hsig]

lemma chainCmp_eq (h : chainCmp a b = .eq) : a.signature = b.signature ∧ a.mint = b.mint := by
  simp only [chainCmp, compareLex_eq_eq, compareOn, compare_eq_iff_eq] at h
  exact h.2.2.2

variable {deltas : List SubjectAssetDelta}

lemma unseparated_chainOrder {p : SubjectAssetDelta → Bool}
    (h : ∀ a ∈ chainOrder deltas, ∀ b ∈ chainOrder deltas, p a = true → p b = true →
      a.signature = b.signature → a.slot = b.slot ∧ a.txIndex = b.txIndex) :
    Unseparated (·.signature) p (chainOrder deltas) := by
  intro x z y hsub hx hy hsig
  have hsorted := (pairwise_sortBy chainCmp (deltas.filter (·.success))).sublist hsub
  simp only [pairwise_cons, mem_cons, forall_eq_or_imp] at hsorted
  have hxz := positionCmp_isLE hsorted.1.1
  have hzy := positionCmp_isLE hsorted.2.1.1
  obtain ⟨hslot, hindex⟩ := h x (hsub.subset (by simp)) y (hsub.subset (by simp)) hx hy hsig
  have hxy := positionCmp_eq hslot hindex hsig
  -- `x` and `y` are at one position, and `z` between them
  have hzx : (positionCmp z x).isLE = true := by
    rwa [Std.TransCmp.congr_right hxy]
  exact (signature_of_positionCmp_eq (Std.OrientedCmp.isLE_antisymm hxz hzx)).symm

/-! ## The moving rows -/

/-- The successful rows that move something, in chain order. -/
def kept (deltas : List SubjectAssetDelta) : List SubjectAssetDelta :=
  sortBy chainCmp (deltas.filter fun d => moves d && d.success)

lemma filter_chainOrder (deltas : List SubjectAssetDelta) :
    (chainOrder deltas).filter moves = kept deltas := by
  rw [chainOrder, filter_sortBy, filter_filter, kept]

/-- The moving rows of one transaction agree on their slot and index. -/
def OnePosition (deltas : List SubjectAssetDelta) : Prop :=
  ∀ a ∈ deltas, ∀ b ∈ deltas, a.success = true → b.success = true → moves a = true →
    moves b = true → a.signature = b.signature → a.slot = b.slot ∧ a.txIndex = b.txIndex

lemma reduceAll_eq_kept (hpos : OnePosition deltas) :
    reduceAll deltas =
      (((kept deltas).filter isEligible).map fun d =>
        Step.mk ((kept deltas).filter (·.signature == d.signature)) d).foldl
        (fun state s => applyDelta s.group state s.delta) Reduction.empty := by
  have hmem : ∀ a ∈ chainOrder deltas, a ∈ deltas ∧ a.success = true := fun a ha =>
    mem_filter.mp ((mem_sortBy chainCmp).mp ha)
  have hunsep : Unseparated (·.signature) moves (chainOrder deltas) :=
    unseparated_chainOrder fun a ha b hb hma hmb hsig =>
      hpos a (hmem a ha).1 b (hmem b hb).1 (hmem a ha).2 (hmem b hb).2 hma hmb hsig
  have hsteps : ((runs (·.signature) (chainOrder deltas)).flatMap fun group =>
      (group.filter isEligible).map fun d => Step.mk (group.filter moves) d) =
      ((chainOrder deltas).filter isEligible).map fun d =>
        Step.mk ((kept deltas).filter (·.signature == d.signature)) d := by
    apply flatMap_runs (fun d : SubjectAssetDelta => d.signature)
      (f := fun group d => Step.mk (group.filter moves) d)
    intro group hgroup d hd heligible
    congr 1
    rw [filter_run _ hunsep hgroup hd (moves_of_isEligible heligible), ← filter_chainOrder,
      filter_filter]
    apply filter_congr
    intro a _
    rw [Bool.and_comm]
  have heligible : (chainOrder deltas).filter isEligible = (kept deltas).filter isEligible := by
    rw [← filter_chainOrder, filter_filter]
    apply filter_congr
    intro a _
    cases h : isEligible a
    · simp
    · simp [moves_of_isEligible h]
  rw [← heligible, ← hsteps, reduceAll, foldl_flatMap]
  congr 1
  funext state group
  rw [applyGroup, foldl_map, foldl_filter]
  simp only [applyDelta_filter]

lemma reduceAll_congr {deltas' : List SubjectAssetDelta} (hpos : OnePosition deltas)
    (hunique : (deltas.map fun d => (d.signature, d.mint)).Nodup)
    (hperm : (deltas'.filter fun d => moves d && d.success).Perm
      (deltas.filter fun d => moves d && d.success)) :
    reduceAll deltas' = reduceAll deltas := by
  have hpos' : OnePosition deltas' := by
    have hmem : ∀ a ∈ deltas', a.success = true → moves a = true → a ∈ deltas := by
      intro a ha hsuccess hmoves
      have := hperm.mem_iff.mp (mem_filter.mpr ⟨ha, by simp [hsuccess, hmoves]⟩)
      exact mem_of_mem_filter this
    intro a ha b hb hsa hsb hma hmb
    exact hpos a (hmem a ha hsa hma) b (hmem b hb hsb hmb) hsa hsb hma hmb
  have hkept : kept deltas' = kept deltas := by
    refine (sortBy_eq_of_perm chainCmp hperm.symm ?_).symm
    intro a ha b hb htie
    obtain ⟨hsig, hmint⟩ := chainCmp_eq htie
    exact inj_on_of_nodup_map hunique (mem_of_mem_filter ha)
      (mem_of_mem_filter hb) (by rw [hsig, hmint])
  rw [reduceAll_eq_kept hpos, reduceAll_eq_kept hpos', hkept]

/-! ## Order of arrival -/

/-- **The rounds do not depend on the order of arrival**: permute the rows, insert failed rows and
zero-amount rows anywhere, drain the map of open rounds in any order, and the same list comes
out. -/
theorem reduceRounds_orderFree {deltas noise deltas' : List SubjectAssetDelta}
    (hunique : (deltas.map fun d => (d.signature, d.mint)).Nodup)
    (hpos : ∀ a ∈ deltas, ∀ b ∈ deltas, a.signature = b.signature →
      a.slot = b.slot ∧ a.txIndex = b.txIndex)
    (hnoise : ∀ d ∈ noise, d.success = false ∨ (d.deltaRaw = 0 ∧ isReferenceAsset d.mint = false))
    (hperm : deltas'.Perm (deltas ++ noise)) {drained drained' : List Round}
    (hdrained : drained.Perm (reduceAll deltas).stillOpen)
    (hdrained' : drained'.Perm (reduceAll deltas').stillOpen) :
    (reduceAll deltas').rounds drained' = (reduceAll deltas).rounds drained := by
  have hfiltered : (deltas'.filter fun d => moves d && d.success).Perm
      (deltas.filter fun d => moves d && d.success) := by
    have hnone : noise.filter (fun d => moves d && d.success) = [] := by
      rw [filter_eq_nil_iff]
      intro d hd
      rcases hnoise d hd with h | ⟨h, -⟩ <;> simp [moves, h]
    have := hperm.filter fun d => moves d && d.success
    rwa [filter_append, hnone, append_nil] at this
  have hstate : reduceAll deltas' = reduceAll deltas :=
    reduceAll_congr (fun a ha b hb _ _ _ _ => hpos a ha b hb) hunique hfiltered
  rw [rounds_eq_of_perm (keyed_reduceAll deltas') hdrained',
    rounds_eq_of_perm (keyed_reduceAll deltas) hdrained, hstate]

/-- A buy whose two legs arrive in the other order, with a failed and a zero-amount row between
them. -/
theorem reduceRounds_orderFree_buy :
    (reduceAll [.native "s1" 1 (-10), { SubjectAssetDelta.token "s2" 2 "mintA" 7 5 12 with
        success := false }, .token "s3" 3 "mintA" 0 5 5, .token "s1" 1 "mintA" 5 0 5]).rounds
        (reduceAll [.native "s1" 1 (-10), { SubjectAssetDelta.token "s2" 2 "mintA" 7 5 12 with
          success := false }, .token "s3" 3 "mintA" 0 5 5, .token "s1" 1 "mintA" 5 0 5]).stillOpen =
      (reduceAll [.token "s1" 1 "mintA" 5 0 5, .native "s1" 1 (-10)]).rounds
        (reduceAll [.token "s1" 1 "mintA" 5 0 5, .native "s1" 1 (-10)]).stillOpen :=
  @reduceRounds_orderFree [.token "s1" 1 "mintA" 5 0 5, .native "s1" 1 (-10)]
    [{ SubjectAssetDelta.token "s2" 2 "mintA" 7 5 12 with success := false },
      .token "s3" 3 "mintA" 0 5 5] _
    (by decide) (by decide) (by decide) (by decide) _ _ (List.Perm.refl _) (List.Perm.refl _)

end Dripline.Positions.Ledger

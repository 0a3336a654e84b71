import Mathlib.Data.List.Chain

/-!
# The last stretch without a break
-/

namespace Dripline.Found.Segment

open List

variable {α : Type*} (near : α → α → Prop) [DecidableRel near]

/-- The longest end of a list in which no neighbours are apart. -/
def lastSegment : List α → List α
  | [] => []
  | a :: l => if (a :: l).IsChain near then a :: l else lastSegment l

/-- The last elements of a list. -/
def newest (size : ℕ) (l : List α) : List α := l.drop (l.length - size)

variable {near}

lemma lastSegment_suffix (l : List α) : lastSegment near l <:+ l := by
  induction l with
  | nil => exact suffix_refl []
  | cons a l ih =>
    rw [lastSegment]
    split
    · exact suffix_refl _
    · exact ih.trans (suffix_cons a l)

lemma isChain_lastSegment (l : List α) : (lastSegment near l).IsChain near := by
  induction l with
  | nil => exact isChain_nil
  | cons a l ih =>
    rw [lastSegment]
    split
    · assumption
    · exact ih

lemma suffix_lastSegment {l s : List α} (hs : s <:+ l) (h : s.IsChain near) :
    s <:+ lastSegment near l := by
  induction l with
  | nil => simpa [lastSegment] using hs
  | cons a l ih =>
    rw [lastSegment]
    split
    · exact hs
    · rename_i hbreak
      rcases suffix_cons_iff.mp hs with rfl | hs
      · exact absurd h hbreak
      · exact ih hs

lemma lastSegment_ne_nil {l : List α} (h : l ≠ []) : lastSegment near l ≠ [] := by
  intro hnil
  have hlast : [l.getLast h] <:+ lastSegment near l :=
    suffix_lastSegment ⟨l.dropLast, dropLast_append_getLast h⟩ (isChain_singleton _)
  rw [hnil] at hlast
  exact cons_ne_nil _ _ (eq_nil_of_suffix_nil hlast)

lemma getLast?_lastSegment (l : List α) : (lastSegment near l).getLast? = l.getLast? := by
  by_cases h : l = []
  · rw [h, lastSegment]
  · have hsuffix : lastSegment near l <:+ l := lastSegment_suffix l
    have hlast := hsuffix.getLast (lastSegment_ne_nil h)
    rw [List.getLast?_eq_getLast_of_ne_nil h,
      List.getLast?_eq_getLast_of_ne_nil (lastSegment_ne_nil h), hlast]

/-- **One more element** goes on with the last stretch, unless it is apart from the last one. -/
lemma lastSegment_concat (l : List α) (a : α) :
    lastSegment near (l ++ [a]) =
      if ∀ last ∈ l.getLast?, near last a then lastSegment near l ++ [a] else [a] := by
  have hlong : lastSegment near (l ++ [a]) <:+ l ++ [a] := lastSegment_suffix _
  split
  · rename_i hnear
    have hchain : (lastSegment near l ++ [a]).IsChain near := by
      refine (isChain_lastSegment l).append (isChain_singleton a) ?_
      rw [getLast?_lastSegment]
      simpa using hnear
    have hsuffix : lastSegment near l ++ [a] <:+ l ++ [a] := by
      obtain ⟨before, heq⟩ : lastSegment near l <:+ l := lastSegment_suffix l
      exact ⟨before, by rw [← append_assoc, heq]⟩
    -- its own beginning is an end of `l` without a break
    have hother : lastSegment near (l ++ [a]) <:+ lastSegment near l ++ [a] := by
      rcases suffix_concat_iff.mp hlong with hnil | ⟨s, heq, hs⟩
      · exact absurd hnil (lastSegment_ne_nil (by simp))
      · have hstay : (lastSegment near (l ++ [a])).IsChain near := isChain_lastSegment _
        rw [heq] at hstay ⊢
        obtain ⟨before, hbefore⟩ := suffix_lastSegment hs hstay.left_of_append
        exact ⟨before, by rw [← append_assoc, hbefore]⟩
    exact hother.eq_of_length_le (suffix_lastSegment hsuffix hchain).length_le
  · rename_i hapart
    rcases suffix_concat_iff.mp hlong with hnil | ⟨s, heq, hs⟩
    · exact absurd hnil (lastSegment_ne_nil (by simp))
    · have hstay : (lastSegment near (l ++ [a])).IsChain near := isChain_lastSegment _
      rw [heq, isChain_append] at hstay
      by_cases hempty : s = []
      · rw [heq, hempty, nil_append]
      · refine absurd ?_ hapart
        intro last hmem
        refine hstay.2.2 last ?_ a rfl
        rwa [List.getLast?_eq_getLast_of_ne_nil hempty, hs.getLast hempty,
          ← List.getLast?_eq_getLast_of_ne_nil]

lemma newest_eq_self {size : ℕ} {l : List α} (h : l.length ≤ size) : newest size l = l := by
  rw [newest, Nat.sub_eq_zero_of_le h, drop_zero]

lemma length_newest (size : ℕ) (l : List α) : (newest size l).length = min size l.length := by
  rw [newest, length_drop]
  omega

lemma newest_suffix (size : ℕ) (l : List α) : newest size l <:+ l := drop_suffix _ l

lemma newest_concat {size : ℕ} (h : size ≠ 0) (l : List α) (a : α) :
    newest size (l ++ [a]) =
      (if size ≤ (newest size l).length then (newest size l).tail else newest size l) ++ [a] := by
  rw [length_newest]
  simp only [newest, length_append, length_singleton]
  rw [drop_append_of_le_length (by omega)]
  split
  · rw [tail_drop]
    congr 2
    omega
  · congr 2
    omega

end Dripline.Found.Segment

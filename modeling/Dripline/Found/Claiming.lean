import Mathlib.Data.Finset.Insert

/-!
# Pairs claimed in order

Pairs are gone through once. A left side that was seen before is passed over, and so is a pair whose
right side is claimed already; but the left side of such a pair has been seen, and is not asked for
another.
-/

namespace Dripline.Found.Claiming

open List

variable {γ α β : Type*} [DecidableEq α] (left : γ → α) (right : γ → β)

/-- The first pair of a left side. -/
def first (pairs : List γ) (a : α) : Option γ := pairs.find? fun p => left p = a

/-- The right side of the first pair of a left side. -/
def firstRight (pairs : List γ) (a : α) : Option β := (first left pairs a).map right

variable {left right} {pairs : List γ}

lemma firstRight_cons_self (p : γ) : firstRight left right (p :: pairs)
    (left p) = some (right p) := by
  simp [firstRight, first]

lemma firstRight_cons_of_ne {p : γ} {a : α} (h : a ≠ left p) :
    firstRight left right (p :: pairs) a = firstRight left right pairs a := by
  simp [firstRight, first, List.find?_cons_of_neg, Ne.symm h]

variable (left right) in
lemma exists_firstRight {p : γ} (hp : p ∈ pairs) :
    ∃ q ∈ pairs, left q = left p ∧ firstRight left right pairs (left p) = some (right q) := by
  cases hfirst : first left pairs (left p) with
  | none =>
    have := List.find?_eq_none.mp hfirst p hp
    simp at this
  | some q =>
    have hq := List.find?_some hfirst
    exact ⟨q, mem_of_find?_eq_some hfirst, by simpa using hq, by simp [firstRight, hfirst]⟩

variable [DecidableEq β]

variable (left right) in
/-- The pairs that are taken, given the left sides seen and the right sides claimed. -/
def claims : List γ → Finset α → Finset β → List γ
  | [], _, _ => []
  | p :: pairs, seen, claimed =>
    if left p ∈ seen then claims pairs seen claimed
    else if right p ∈ claimed then claims pairs (insert (left p) seen) claimed
    else p :: claims pairs (insert (left p) seen) (insert (right p) claimed)

variable {seen : Finset α} {claimed : Finset β}

lemma claims_sublist (left : γ → α) (right : γ → β) (pairs : List γ) (seen : Finset α)
    (claimed : Finset β) : (claims left right pairs seen claimed).Sublist pairs := by
  induction pairs generalizing seen claimed with
  | nil => exact List.Sublist.refl _
  | cons p pairs ih =>
    unfold claims
    split
    case isTrue => exact (ih _ _).cons p
    case isFalse =>
      split
      case isTrue => exact (ih _ _).cons p
      case isFalse => exact (ih _ _).cons_cons p

/-- **What is taken** is the first pair of its left side, and neither side was taken before. -/
lemma first_of_mem_claims {p : γ} (hp : p ∈ claims left right pairs seen claimed) :
    left p ∉ seen ∧ right p ∉ claimed ∧ firstRight left right pairs (left p) = some (right p) := by
  induction pairs generalizing seen claimed with
  | nil => cases hp
  | cons q pairs ih =>
    unfold claims at hp
    split at hp
    case isTrue hseen =>
      obtain ⟨hleft, hright, hfirst⟩ := ih hp
      have hne : left p ≠ left q := fun h => hleft (h ▸ hseen)
      exact ⟨hleft, hright, by rwa [firstRight_cons_of_ne hne]⟩
    case isFalse hseen =>
      split at hp
      case isTrue =>
        obtain ⟨hleft, hright, hfirst⟩ := ih hp
        rw [Finset.mem_insert, not_or] at hleft
        exact ⟨hleft.2, hright, by rwa [firstRight_cons_of_ne hleft.1]⟩
      case isFalse hclaimed =>
        rcases mem_cons.mp hp with rfl | hp
        · exact ⟨hseen, hclaimed, firstRight_cons_self p⟩
        · obtain ⟨hleft, hright, hfirst⟩ := ih hp
          rw [Finset.mem_insert, not_or] at hleft hright
          exact ⟨hleft.2, hright.2, by rwa [firstRight_cons_of_ne hleft.1]⟩

/-- **A right side is taken** exactly when it is free and first for a left side that was not
seen. -/
lemma exists_claims_iff {b : β} :
    (∃ p ∈ claims left right pairs seen claimed, right p = b) ↔
      b ∉ claimed ∧ ∃ a ∉ seen, firstRight left right pairs a = some b := by
  constructor
  · rintro ⟨p, hp, rfl⟩
    obtain ⟨hleft, hright, hfirst⟩ := first_of_mem_claims hp
    exact ⟨hright, left p, hleft, hfirst⟩
  · rintro ⟨hb, a, ha, hfirst⟩
    induction pairs generalizing seen claimed with
    | nil => cases hfirst
    | cons q pairs ih =>
      unfold claims
      by_cases hseen : left q ∈ seen
      · rw [if_pos hseen]
        have hne : a ≠ left q := fun h => ha (h ▸ hseen)
        exact ih hb ha (by rwa [firstRight_cons_of_ne hne] at hfirst)
      · rw [if_neg hseen]
        by_cases hclaimed : right q ∈ claimed
        · rw [if_pos hclaimed]
          have hne : a ≠ left q := by
            rintro rfl
            rw [firstRight_cons_self] at hfirst
            exact hb (Option.some.inj hfirst ▸ hclaimed)
          rw [firstRight_cons_of_ne hne] at hfirst
          exact ih hb (by simp [hne, ha]) hfirst
        · rw [if_neg hclaimed]
          by_cases hright : right q = b
          · exact ⟨q, mem_cons_self, hright⟩
          · have hne : a ≠ left q := by
              rintro rfl
              rw [firstRight_cons_self] at hfirst
              exact hright (Option.some.inj hfirst)
            rw [firstRight_cons_of_ne hne] at hfirst
            obtain ⟨p, hp, hpb⟩ := ih
              (by simp [hb, Ne.symm hright] : b ∉ insert (right q) claimed)
              (by simp [hne, ha] : a ∉ insert (left q) seen) hfirst
            exact ⟨p, mem_cons_of_mem _ hp, hpb⟩

lemma pairwise_claims (left : γ → α) (right : γ → β) (pairs : List γ) (seen : Finset α)
    (claimed : Finset β) :
    (claims left right pairs seen claimed).Pairwise fun p q => left p ≠ left q ∧ right p ≠ right q := by
  induction pairs generalizing seen claimed with
  | nil => exact .nil
  | cons p pairs ih =>
    unfold claims
    split
    case isTrue => exact ih _ _
    case isFalse =>
      split
      case isTrue => exact ih _ _
      case isFalse =>
        refine .cons (fun q hq => ⟨fun h => ?_, fun h => ?_⟩) (ih _ _)
        · exact (first_of_mem_claims hq).1 (h ▸ Finset.mem_insert_self _ _)
        · exact (first_of_mem_claims hq).2.1 (h ▸ Finset.mem_insert_self _ _)

lemma nodup_left_claims (left : γ → α) (right : γ → β) (pairs : List γ) (seen : Finset α)
    (claimed : Finset β) : ((claims left right pairs seen claimed).map left).Nodup :=
  pairwise_map.mpr ((pairwise_claims ..).imp And.left)

lemma nodup_right_claims (left : γ → α) (right : γ → β) (pairs : List γ) (seen : Finset α)
    (claimed : Finset β) : ((claims left right pairs seen claimed).map right).Nodup :=
  pairwise_map.mpr ((pairwise_claims ..).imp And.right)

variable (left right pairs)

/-- Left sides that share a right side share them all. -/
def Rectangular : Prop :=
  ∀ p ∈ pairs, ∀ q ∈ pairs, right p = right q → ∀ r ∈ pairs, left r = left p →
    ∃ s ∈ pairs, left s = left q ∧ right s = right r

/-- A left side is alone with its first right side, or each of its right sides is first for some
left side. -/
def FirstsSuffice : Prop :=
  ∀ p ∈ pairs,
    (∀ q ∈ pairs, firstRight left right pairs (left q) = firstRight left right pairs (left p) →
      left q = left p) ∨
    ∃ q ∈ pairs, firstRight left right pairs (left q) = some (right p)

/-- Every pair has a side that is taken. -/
def Covered : Prop :=
  ∀ p ∈ pairs, (∃ q ∈ claims left right pairs ∅ ∅, left q = left p) ∨
    ∃ q ∈ claims left right pairs ∅ ∅, right q = right p

variable {left right pairs}

lemma exists_claims_of_first {p : γ} {b : β}
    (hfirst : firstRight left right pairs (left p) = some b) :
    ∃ q ∈ claims left right pairs ∅ ∅, right q = b :=
  exists_claims_iff.mpr ⟨Finset.notMem_empty _, left p, Finset.notMem_empty _, hfirst⟩

lemma not_taken_of_shared {p q : γ} (hne : left q ≠ left p)
    (hshared : firstRight left right pairs (left q) = firstRight left right pairs (left p)) :
    (¬ ∃ r ∈ claims left right pairs ∅ ∅, left r = left p) ∨
      ¬ ∃ r ∈ claims left right pairs ∅ ∅, left r = left q := by
  by_contra hboth
  rw [not_or, not_not, not_not] at hboth
  obtain ⟨⟨r, hr, hleft⟩, s, hs, hleft'⟩ := hboth
  have hfirst := (first_of_mem_claims hr).2.2
  have hfirst' := (first_of_mem_claims hs).2.2
  rw [hleft] at hfirst
  rw [hleft', hshared, hfirst] at hfirst'
  have hsame : s = r := inj_on_of_nodup_map (nodup_right_claims left right pairs ∅ ∅) hs hr
    (Option.some.inj hfirst').symm
  rw [← hleft, ← hleft', hsame] at hne
  exact hne rfl

/-- **Every pair has a side taken** exactly when left sides that share their first right side have
only right sides that are first for some left side. -/
lemma covered_iff (hrect : Rectangular left right pairs) :
    Covered left right pairs ↔ FirstsSuffice left right pairs := by
  constructor
  · intro hcovered p hp
    rw [or_iff_not_imp_left]
    intro hshared
    push Not at hshared
    obtain ⟨q, hq, hfirst, hne⟩ := hshared
    -- whichever of the two left sides is not taken has the right side of `p` too
    obtain ⟨x, hx, hxright, huntaken⟩ : ∃ x ∈ pairs, right x = right p ∧
        ¬ ∃ r ∈ claims left right pairs ∅ ∅, left r = left x := by
      rcases not_taken_of_shared hne hfirst with huntaken | huntaken
      · exact ⟨p, hp, rfl, huntaken⟩
      · obtain ⟨p', hp', hleft, hpfirst⟩ := exists_firstRight left right hp
        obtain ⟨q', hq', hleft', hqfirst⟩ := exists_firstRight left right hq
        have hright : right p' = right q' := by
          rw [hqfirst, hpfirst] at hfirst
          exact (Option.some.inj hfirst).symm
        obtain ⟨x, hx, hxleft, hxright⟩ := hrect p' hp' q' hq' hright p hp hleft.symm
        rw [hleft'] at hxleft
        exact ⟨x, hx, hxright, hxleft ▸ huntaken⟩
    obtain htaken | ⟨r, hr, hright⟩ := hcovered x hx
    · exact absurd htaken huntaken
    · refine ⟨r, (claims_sublist _ _ _ _ _).subset hr, ?_⟩
      rw [(first_of_mem_claims hr).2.2, hright, hxright]
  · intro hfirsts p hp
    rcases hfirsts p hp with halone | ⟨q, hq, hfirst⟩
    · obtain ⟨p', hp', hleft, hpfirst⟩ := exists_firstRight left right hp
      obtain ⟨r, hr, hright⟩ := exists_claims_of_first hpfirst
      refine Or.inl ⟨r, hr, halone r ((claims_sublist _ _ _ _ _).subset hr) ?_⟩
      rw [(first_of_mem_claims hr).2.2, hright, hpfirst]
    · exact Or.inr (exists_claims_of_first hfirst)

end Dripline.Found.Claiming

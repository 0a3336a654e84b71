import Mathlib.Algebra.Order.Group.Defs
import Mathlib.Data.List.Basic

/-!
# Giving along stretches

Something is given for what is paid along a way of stretches. A stretch has a cost and what it gives
where its cost is paid in full, and what it gives for less.
-/

namespace Dripline.Found

variable {K : Type} [AddCommGroup K] [LinearOrder K] [IsOrderedAddMonoid K]

/-- A stretch of a way. -/
structure Stretch (K : Type) where
  cost : K
  full : K
  part : K → K

/-- What a way gives for a payment; nothing past its end. -/
def along : List (Stretch K) → K → K
  | [], _ => 0
  | stretch :: rest, paid =>
    if stretch.cost ≤ paid then stretch.full + along rest (paid - stretch.cost) else stretch.part paid

/-- More is never given for less. -/
structure Stretch.Sound (stretch : Stretch K) : Prop where
  cost_nonneg : 0 ≤ stretch.cost
  full_nonneg : 0 ≤ stretch.full
  part_nonneg : ∀ paid, 0 ≤ paid → paid < stretch.cost → 0 ≤ stretch.part paid
  part_mono : ∀ less more, 0 ≤ less → less ≤ more → more < stretch.cost →
    stretch.part less ≤ stretch.part more
  part_le_full : ∀ paid, 0 ≤ paid → paid < stretch.cost → stretch.part paid ≤ stretch.full

variable {way : List (Stretch K)} {paid : K}

lemma along_nonneg (hsound : ∀ stretch ∈ way, stretch.Sound) (hpaid : 0 ≤ paid) :
    0 ≤ along way paid := by
  induction way generalizing paid with
  | nil => exact le_rfl
  | cons stretch rest ih =>
    have hstretch := hsound stretch (by simp)
    rw [along]
    split
    · rename_i hfull
      exact add_nonneg hstretch.full_nonneg
        (ih (fun other hother => hsound other (by simp [hother])) (sub_nonneg.mpr hfull))
    · rename_i hpart
      exact hstretch.part_nonneg paid hpaid (not_le.mp hpart)

variable {more : K}

/-- **A sound way gives no less for more.** -/
lemma along_mono (hsound : ∀ stretch ∈ way, stretch.Sound) {less : K} (hless : 0 ≤ less)
    (hmore : less ≤ more) : along way less ≤ along way more := by
  induction way generalizing less more with
  | nil => exact le_rfl
  | cons stretch rest ih =>
    have hstretch := hsound stretch (by simp)
    have hrest : ∀ other ∈ rest, other.Sound := fun other hother => hsound other (by simp [hother])
    simp only [along]
    by_cases hfull : stretch.cost ≤ less
    · rw [if_pos hfull, if_pos (hfull.trans hmore)]
      exact add_le_add_right (ih hrest (sub_nonneg.mpr hfull) (sub_le_sub_right hmore _)) _
    · rw [if_neg hfull]
      split
      · rename_i hreached
        exact (hstretch.part_le_full less hless (not_le.mp hfull)).trans
          (le_add_of_nonneg_right (along_nonneg hrest (sub_nonneg.mpr hreached)))
      · rename_i hshort
        exact hstretch.part_mono less more hless hmore (not_le.mp hshort)

variable {rest : List (Stretch K)} {stretch : Stretch K} {given : K}

lemma add_le_along (hsound : ∀ other ∈ rest, other.Sound) {later : K} (hcost : stretch.cost ≤ paid)
    (hgiven : given ≤ stretch.full) (hlater : 0 ≤ later) (hmore : more ≤ along rest later) :
    given + more ≤ along (stretch :: rest) (paid + later) := by
  have hreached : stretch.cost ≤ paid + later := hcost.trans (le_add_of_nonneg_right hlater)
  have hleft : later ≤ paid + later - stretch.cost := by
    rw [le_sub_iff_add_le, add_comm]
    exact add_le_add_left hcost later
  rw [along, if_pos hreached]
  exact add_le_add hgiven (hmore.trans (along_mono hsound hlater hleft))

omit [IsOrderedAddMonoid K] in
lemma le_along (hcost : paid < stretch.cost) (hgiven : given ≤ stretch.part paid) :
    given ≤ along (stretch :: rest) paid := by
  rwa [along, if_neg (not_le.mpr hcost)]

end Dripline.Found

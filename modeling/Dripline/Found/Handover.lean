import Mathlib.Algebra.BigOperators.Group.List.Basic

/-!
# Sums that wait in line

Sums wait in line. Takers come one after another, each of whom takes the first; what is left in the
end goes to a last one.
-/

namespace Dripline.Found.Handover

variable {τ M : Type*} [AddCommMonoid M] (good : τ → Bool) (last : Bool)

/-- What of the waiting sums comes into good hands. -/
def handed : List M → List τ → M
  | [], _ => 0
  | sum :: waiting, [] => (if last then sum else 0) + handed waiting []
  | sum :: waiting, taker :: takers => (if good taker then sum else 0) + handed waiting takers

/-- Whether the sum at a place comes into good hands. -/
def inGoodHands (place : ℕ) (takers : List τ) : Bool := (takers[place]?.map good).getD last

@[simp] lemma handed_nil (takers : List τ) : handed good last ([] : List M) takers = 0 := rfl

lemma handed_last (waiting : List M) :
    handed good last waiting [] = if last then waiting.sum else 0 := by
  induction waiting with
  | nil => simp
  | cons sum waiting ih =>
    rw [handed, ih]
    split <;> simp

lemma handed_raise (sum more : M) (waiting : List M) (takers : List τ) :
    handed good last ((sum + more) :: waiting) takers =
      handed good last (sum :: waiting) takers +
        if inGoodHands good last 0 takers then more else 0 := by
  cases takers with
  | nil =>
    simp only [handed, inGoodHands, List.getElem?_nil, Option.map_none, Option.getD_none]
    by_cases h : last = true
    · simp only [h, if_true]
      exact add_right_comm _ _ _
    · simp [h]
  | cons taker takers =>
    simp only [handed, inGoodHands, List.getElem?_cons_zero, Option.map_some, Option.getD_some]
    by_cases h : good taker = true
    · simp only [h, if_true]
      exact add_right_comm _ _ _
    · simp [h]

lemma handed_join (more : M) (waiting : List M) (takers : List τ) :
    handed good last (waiting ++ [more]) takers =
      handed good last waiting takers + if inGoodHands good last waiting.length takers then more
        else 0 := by
  induction waiting generalizing takers with
  | nil => cases takers <;> simp [handed, inGoodHands]
  | cons sum waiting ih =>
    cases takers with
    | nil =>
      rw [List.cons_append, handed, handed, ih []]
      simp [inGoodHands, add_assoc]
    | cons taker takers =>
      rw [List.cons_append, handed, handed, ih takers, List.length_cons, ← add_assoc]
      rfl

lemma handed_take (waiting : List M) (taker : τ) (takers : List τ) :
    handed good last waiting (taker :: takers) =
      (if good taker then waiting.head?.getD 0 else 0) + handed good last waiting.tail takers := by
  cases waiting with
  | nil => simp
  | cons sum waiting => rfl

end Dripline.Found.Handover

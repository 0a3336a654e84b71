import Mathlib.Data.List.Basic

/-!
# Cutting a list after marked elements
-/

namespace Dripline.Found.Excursion

variable {α : Type*} (p : α → Bool)

/-- The pieces of a list, each ending at the next element that satisfies `p`; the last one may not
have reached one. -/
def cutAfter : List α → List (List α)
  | [] => []
  | a :: l =>
    if p a then [a] :: cutAfter l
    else match cutAfter l with
      | [] => [[a]]
      | piece :: pieces => (a :: piece) :: pieces

lemma cutAfter_complete {init : List α} (hinit : ∀ y ∈ init, p y = false) {x : α}
    (hx : p x = true) (l : List α) :
    cutAfter p (init ++ x :: l) = (init ++ [x]) :: cutAfter p l := by
  induction init with
  | nil => simp [cutAfter, hx]
  | cons y init ih =>
    rw [List.cons_append, cutAfter, hinit y List.mem_cons_self,
      ih fun z hz => hinit z (List.mem_cons_of_mem _ hz)]
    rfl

lemma cutAfter_rest {init : List α} (hinit : ∀ y ∈ init, p y = false) {x : α}
    (hx : p x = false) : cutAfter p (init ++ [x]) = [init ++ [x]] := by
  induction init with
  | nil => simp [cutAfter, hx]
  | cons y init ih =>
    rw [List.cons_append, cutAfter, hinit y List.mem_cons_self,
      ih fun z hz => hinit z (List.mem_cons_of_mem _ hz)]
    rfl

/-- **There is one way to cut**: pieces that satisfy `p` at most at their ends, all but the last of
them there, are the pieces of their concatenation. -/
lemma cutAfter_flatten {pieces : List (List α)}
    (hpieces : ∀ piece ∈ pieces, ∃ init x, piece = init ++ [x] ∧ ∀ y ∈ init, p y = false)
    (hends : ∀ pre piece post, pieces = pre ++ piece :: post → post ≠ [] →
      ∀ x ∈ piece.getLast?, p x = true) : cutAfter p pieces.flatten = pieces := by
  induction pieces with
  | nil => rfl
  | cons piece pieces ih =>
    obtain ⟨init, x, rfl, hinit⟩ := hpieces piece List.mem_cons_self
    have ih' := ih (fun piece hpiece => hpieces piece (List.mem_cons_of_mem _ hpiece))
      fun pre piece post hsplit hpost => hends (_ :: pre) piece post (by rw [hsplit]; rfl) hpost
    rw [List.flatten_cons]
    cases hx : p x
    · -- only the last piece can end without satisfying `p`
      cases pieces with
      | nil => simpa using cutAfter_rest p hinit hx
      | cons piece' pieces =>
        have := hends [] (init ++ [x]) (piece' :: pieces) rfl (by simp) x (by simp)
        rw [hx] at this
        cases this
    · rw [List.append_assoc, List.singleton_append, cutAfter_complete p hinit hx, ih']

end Dripline.Found.Excursion

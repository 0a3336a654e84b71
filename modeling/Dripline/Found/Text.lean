import Mathlib.Data.String.Basic

/-!
# Joining text with a separator
-/

namespace Dripline.Found.Text

lemma append_cons_inj {α : Type*} {sep : α} {a a' b b' : List α}
    (h : a ++ sep :: b = a' ++ sep :: b') (hb : sep ∉ b) (hb' : sep ∉ b') : a = a' ∧ b = b' := by
  rcases List.append_eq_append_iff.mp h with ⟨c, rfl, htail⟩ | ⟨c, rfl, htail⟩
  · cases c with
    | nil => simpa using htail
    | cons x c =>
      obtain ⟨-, rfl⟩ := List.cons_eq_cons.mp htail
      exact absurd (by simp) hb
  · cases c with
    | nil => simpa using htail.symm
    | cons x c =>
      obtain ⟨-, rfl⟩ := List.cons_eq_cons.mp htail
      exact absurd (by simp) hb'

section join

variable {sep : String} {c : Char} (hsep : sep.toList = [c])

include hsep

/-- **Joined texts split back** at the last separator. -/
lemma join_inj {a a' b b' : String} (h : a ++ sep ++ b = a' ++ sep ++ b')
    (hb : c ∉ b.toList) (hb' : c ∉ b'.toList) : a = a' ∧ b = b' := by
  have hlist := congrArg String.toList h
  simp only [String.toList_append, List.append_assoc, hsep, List.singleton_append] at hlist
  obtain ⟨ha, htail⟩ := append_cons_inj hlist hb hb'
  exact ⟨String.toList_inj.mp ha, String.toList_inj.mp htail⟩

lemma ne_join {a b b' : String} (ha : c ∉ a.toList) : a ≠ b ++ sep ++ b' := by
  rintro rfl
  simp [String.toList_append, hsep] at ha

end join

end Dripline.Found.Text

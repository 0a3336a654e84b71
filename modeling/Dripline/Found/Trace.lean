import Mathlib.Logic.Basic

/-!
# What holds throughout a run

A run is a list of events fed to a step function one after another.
-/

namespace Dripline.Found.Trace

open List

variable {σ ε : Type*} (step : σ → ε → σ)

/-- `P` holds at every step of a run: of each state the run goes through, and the event met
there. -/
def Throughout (P : σ → ε → Prop) : σ → List ε → Prop
  | _, [] => True
  | s, e :: l => P s e ∧ Throughout P (step s e) l

variable {step} {P Q : σ → ε → Prop} {l : List ε} {s : σ}

lemma Throughout.imp (himp : ∀ s, ∀ e ∈ l, P s e → Q s e) (h : Throughout step P s l) :
    Throughout step Q s l := by
  induction l generalizing s with
  | nil => trivial
  | cons e l ih =>
    exact ⟨himp s e mem_cons_self h.1,
      ih (fun s e' he' => himp s e' (mem_cons_of_mem e he')) h.2⟩

lemma Throughout.and (h : Throughout step P s l) (h' : Throughout step Q s l) :
    Throughout step (fun s e => P s e ∧ Q s e) s l := by
  induction l generalizing s with
  | nil => trivial
  | cons e l ih => exact ⟨⟨h.1, h'.1⟩, ih h.2 h'.2⟩

lemma Throughout.keep (inv : σ → Prop) (hs : inv s)
    (hstep : ∀ s, inv s → ∀ e ∈ l, P s e → Q s e ∧ inv (step s e)) (h : Throughout step P s l) :
    Throughout step Q s l := by
  induction l generalizing s with
  | nil => trivial
  | cons e l ih =>
    obtain ⟨hQ, hnext⟩ := hstep s hs e mem_cons_self h.1
    exact ⟨hQ, ih hnext (fun s hs e' he' => hstep s hs e' (mem_cons_of_mem e he')) h.2⟩

lemma throughout_of_inv (inv : σ → Prop) (hs : inv s)
    (hstep : ∀ s, inv s → ∀ e ∈ l, P s e ∧ inv (step s e)) : Throughout step P s l := by
  induction l generalizing s with
  | nil => trivial
  | cons e l ih =>
    obtain ⟨hP, hnext⟩ := hstep s hs e mem_cons_self
    exact ⟨hP, ih hnext fun s hs e' he' => hstep s hs e' (mem_cons_of_mem e he')⟩

lemma Throughout.last {e : ε} (h : Throughout step P s (l ++ [e])) : P (l.foldl step s) e := by
  induction l generalizing s with
  | nil => exact h.1
  | cons e' l ih => exact ih h.2

lemma throughout_append {l' : List ε} : Throughout step P s (l ++ l') ↔
    Throughout step P s l ∧ Throughout step P (l.foldl step s) l' := by
  induction l generalizing s with
  | nil => exact ⟨fun h => ⟨trivial, h⟩, And.right⟩
  | cons e l ih =>
    constructor
    · rintro ⟨he, hrest⟩
      obtain ⟨hl, hl'⟩ := ih.mp hrest
      exact ⟨⟨he, hl⟩, hl'⟩
    · rintro ⟨⟨he, hl⟩, hl'⟩
      exact ⟨he, ih.mpr ⟨hl, hl'⟩⟩

lemma Throughout.final (inv : σ → Prop) (hs : inv s)
    (hstep : ∀ s, inv s → ∀ e ∈ l, P s e → inv (step s e)) (h : Throughout step P s l) :
    inv (l.foldl step s) := by
  induction l generalizing s with
  | nil => exact hs
  | cons e l ih =>
    exact ih (hstep s hs e mem_cons_self h.1)
      (fun s hs e' he' => hstep s hs e' (mem_cons_of_mem e he')) h.2

/-- **Spoiled for good**: what careful steps keep, and any other step spoils for good, holds at the
end of exactly the runs whose steps are all careful. -/
lemma holds_iff_throughout (inv good bad : σ → Prop) (hs : inv s) (hgood : good s)
    (hkeeps : ∀ s, inv s → ∀ e, inv (step s e))
    (hcareful : ∀ s, inv s → good s → ∀ e, P s e → good (step s e))
    (hspoils : ∀ s, inv s → good s → ∀ e, ¬P s e → bad (step s e))
    (hstays : ∀ s, inv s → bad s → ∀ e, bad (step s e)) (hbad : ∀ s, inv s → bad s → ¬good s) :
    good (l.foldl step s) ↔ Throughout step P s l := by
  induction l generalizing s with
  | nil => exact ⟨fun _ => trivial, fun _ => hgood⟩
  | cons e l ih =>
    by_cases h : P s e
    · rw [foldl_cons, ih (hkeeps s hs e) (hcareful s hs hgood e h)]
      exact ⟨fun hrest => ⟨h, hrest⟩, And.right⟩
    · -- spoiled here, and so at the end
      obtain ⟨hinv, hspoiled⟩ : inv (l.foldl step (step s e)) ∧ bad (l.foldl step (step s e)) := by
        refine List.foldlRecOn (motive := fun s => inv s ∧ bad s) l step
          ⟨hkeeps s hs e, hspoils s hs hgood e h⟩ ?_
        rintro s ⟨hs, hb⟩ e -
        exact ⟨hkeeps s hs e, hstays s hs hb e⟩
      exact ⟨fun hfinal => absurd hfinal (hbad _ hinv hspoiled),
        fun hthroughout => absurd hthroughout.1 h⟩

/-- **The same throughout a run**: two properties that are the same wherever the invariant holds,
when the steps that have them keep it. -/
lemma throughout_iff (inv : σ → Prop) (hs : inv s) (hsame : ∀ s, inv s → ∀ e ∈ l, (P s e ↔ Q s e))
    (hkeeps : ∀ s, inv s → ∀ e ∈ l, P s e → inv (step s e)) :
    Throughout step P s l ↔ Throughout step Q s l := by
  induction l generalizing s with
  | nil => exact Iff.rfl
  | cons e l ih =>
    have ih' : inv (step s e) →
        (Throughout step P (step s e) l ↔ Throughout step Q (step s e) l) := fun h =>
      ih h (fun s hs e' he' => hsame s hs e' (mem_cons_of_mem e he'))
        (fun s hs e' he' => hkeeps s hs e' (mem_cons_of_mem e he'))
    have hhead := hsame s hs e mem_cons_self
    constructor
    · rintro ⟨hP, hrest⟩
      exact ⟨hhead.mp hP, (ih' (hkeeps s hs e mem_cons_self hP)).mp hrest⟩
    · rintro ⟨hQ, hrest⟩
      have hP := hhead.mpr hQ
      exact ⟨hP, (ih' (hkeeps s hs e mem_cons_self hP)).mpr hrest⟩

end Dripline.Found.Trace

import Mathlib.Data.List.Basic

/-!
# A memory for answers

Questions are asked one after another of a memory that keeps the answers of earlier ones under a
key, each for as long as it is fresh.
-/

namespace Dripline.Found.Memo

open List

variable {κ Q A B ε : Type*}

/-- An answer, and when it was left. -/
structure Entry (A : Type*) where
  answer : A
  leftAt : ℕ

/-- The answers kept, each under its key. -/
abbrev Memory (κ A : Type*) := List (κ × Entry A)

/-- How long an answer is fresh, and how many of them may pile up. -/
structure Terms where
  fresh : ℕ → ℕ → Bool
  capacity : ℕ

namespace Memory

/-- The same memory of other answers. -/
def map (f : A → B) (memory : Memory κ A) : Memory κ B :=
  List.map (fun row => (row.1, ⟨f row.2.answer, row.2.leftAt⟩)) memory

lemma length_map (f : A → B) (memory : Memory κ A) : (memory.map f).length = memory.length :=
  List.length_map _

lemma filter_map (f : A → B) (stays : κ → ℕ → Bool) (memory : Memory κ A) :
    (memory.map f).filter (fun row => stays row.1 row.2.leftAt) =
      map f (memory.filter fun row => stays row.1 row.2.leftAt) := by
  rw [map, map, List.filter_map]
  rfl

variable [DecidableEq κ]

/-- The answer kept under a key, while it is fresh. -/
def recalled (terms : Terms) (memory : Memory κ A) (key : κ) (now : ℕ) : Option A :=
  match memory.lookup key with
  | none => none
  | some entry => if terms.fresh entry.leftAt now then some entry.answer else none

/-- An answer taken in under its key; a memory that grows too large drops what is no longer
fresh. -/
def keep (terms : Terms) (memory : Memory κ A) (key : κ) (answer : A) (now : ℕ) : Memory κ A :=
  let grown := (key, ⟨answer, now⟩) :: memory.filter fun row => decide (row.1 ≠ key)
  if terms.capacity < grown.length then
    grown.filter fun row => terms.fresh row.2.leftAt now
  else grown

lemma lookup_map (f : A → B) (memory : Memory κ A) (key : κ) :
    (memory.map f).lookup key =
      (memory.lookup key).map fun entry => ⟨f entry.answer, entry.leftAt⟩ := by
  induction memory with
  | nil => rfl
  | cons row memory ih =>
    obtain ⟨kept, entry⟩ := row
    simp only [map, map_cons, lookup_cons] at ih ⊢
    cases key == kept
    · exact ih
    · rfl

lemma recalled_map (terms : Terms) (f : A → B) (memory : Memory κ A) (key : κ) (now : ℕ) :
    (memory.map f).recalled terms key now = (memory.recalled terms key now).map f := by
  simp only [recalled, lookup_map]
  cases memory.lookup key with
  | none => rfl
  | some entry => by_cases hfresh : terms.fresh entry.leftAt now <;> simp [hfresh]

lemma keep_map (terms : Terms) (f : A → B) (memory : Memory κ A) (key : κ) (answer : A) (now : ℕ) :
    (memory.map f).keep terms key (f answer) now = (memory.keep terms key answer now).map f := by
  have hothers := filter_map f (fun kept _ => decide (kept ≠ key)) memory
  have hgrown : (key, ⟨f answer, now⟩) :: (memory.map f).filter (fun row => decide (row.1 ≠ key)) =
      map f ((key, ⟨answer, now⟩) :: memory.filter fun row => decide (row.1 ≠ key)) := by
    rw [hothers]
    rfl
  simp only [keep, hgrown, length_map]
  rw [filter_map f (fun _ leftAt => terms.fresh leftAt now), apply_ite (map f)]

variable {memory : Memory κ A} {terms : Terms} {answer : A} {key : κ} {now : ℕ}

lemma mem_of_recall (h : memory.recalled terms key now = some answer) :
    ∃ row ∈ memory, row.2.answer = answer := by
  unfold recalled at h
  cases hlookup : memory.lookup key with
  | none => simp [hlookup] at h
  | some entry =>
    simp only [hlookup, Option.ite_none_right_eq_some, Option.some.injEq] at h
    obtain ⟨l, rest, rfl, -⟩ := lookup_eq_some_iff.mp hlookup
    exact ⟨(key, entry), by simp, h.2⟩

lemma mem_keep {row : κ × Entry A} (h : row ∈ memory.keep terms key answer now) :
    row = (key, ⟨answer, now⟩) ∨ row ∈ memory := by
  have hgrown : row ∈ (key, ⟨answer, now⟩) :: memory.filter fun row => decide (row.1 ≠ key) := by
    simp only [keep] at h
    split at h
    · exact (mem_filter.mp h).1
    · exact h
  obtain hnew | hold := mem_cons.mp hgrown
  · exact .inl hnew
  · exact .inr (mem_filter.mp hold).1

end Memory

section Runs

variable [DecidableEq κ] (terms : Terms) (key : Q → Option κ) (leaves : Q → Except ε A)

/-- A question asked at one time, its answer taken in at another; or the memory emptied. -/
inductive Event (Q : Type*)
  | ask (question : Q) (askedAt leftAt : ℕ)
  | clear

/-- A question is answered from the memory, or by itself; then its answer is kept. -/
def ask (memory : Memory κ A) (question : Q) (askedAt leftAt : ℕ) : Except ε A × Memory κ A :=
  match key question with
  | none => (leaves question, memory)
  | some k =>
    match memory.recalled terms k askedAt with
    | some answer => (.ok answer, memory)
    | none =>
      match leaves question with
      | .ok answer => (.ok answer, memory.keep terms k answer leftAt)
      | .error error => (.error error, memory)

/-- The questions of a run, each with what it was answered. -/
def history : Memory κ A → List (Event Q) → List (Q × Except ε A)
  | _, [] => []
  | memory, .ask question askedAt leftAt :: events =>
    let asked := ask terms key leaves memory question askedAt leftAt
    (question, asked.1) :: history asked.2 events
  | _, .clear :: events => history [] events

lemma ask_map (f : A → B) (memory : Memory κ A) (question : Q) (askedAt leftAt : ℕ) :
    ask terms key (fun q => (leaves q).map f) (memory.map f) question askedAt leftAt =
      ((ask terms key leaves memory question askedAt leftAt).1.map f,
        (ask terms key leaves memory question askedAt leftAt).2.map f) := by
  unfold ask
  cases key question with
  | none => rfl
  | some k =>
    simp only [Memory.recalled_map]
    cases memory.recalled terms k askedAt with
    | some answer => rfl
    | none =>
      cases leaves question with
      | ok answer => simp [Except.map, Memory.keep_map]
      | error error => rfl

lemma history_map (f : A → B) (memory : Memory κ A) (events : List (Event Q)) :
    history terms key (fun q => (leaves q).map f) (memory.map f) events =
      (history terms key leaves memory events).map fun asked => (asked.1, asked.2.map f) := by
  induction events generalizing memory with
  | nil => rfl
  | cons event events ih =>
    cases event with
    | clear => simpa [history, Memory.map] using ih []
    | ask question askedAt leftAt =>
      simp only [history, ask_map, map_cons]
      rw [ih]

/-- Each question of a run with its answer and, where there is one, the question that left it. -/
def origins (events : List (Event Q)) : List (Q × Except ε (Q × A)) :=
  history terms key (fun q => (leaves q).map fun answer => (q, answer)) [] events

lemma left_of_history {memory : Memory κ (Q × A)}
    (hmemory : ∀ row ∈ memory, leaves row.2.answer.1 = .ok row.2.answer.2) (events : List (Event Q))
    {question origin : Q} {answer : A}
    (h : (question, .ok (origin, answer)) ∈
      history terms key (fun q => (leaves q).map fun answer => (q, answer)) memory events) :
    leaves origin = .ok answer := by
  induction events generalizing memory with
  | nil => simp [history] at h
  | cons event events ih =>
    cases event with
    | clear => exact ih (by simp) h
    | ask asked askedAt leftAt =>
      simp only [history, ask, mem_cons, Prod.mk.injEq] at h
      cases hkey : key asked with
      | none =>
        simp only [hkey] at h
        obtain ⟨rfl, hanswer⟩ | hrest := h
        · cases hleaves : leaves question <;> simp_all [Except.map]
        · exact ih hmemory hrest
      | some k =>
        cases hrecall : memory.recalled terms k askedAt with
        | some kept =>
          simp only [hkey, hrecall] at h
          obtain ⟨rfl, hanswer⟩ | hrest := h
          · obtain ⟨row, hrow, hkept⟩ := Memory.mem_of_recall hrecall
            obtain rfl : (origin, answer) = kept := by simpa using hanswer
            simpa [hkept] using hmemory row hrow
          · exact ih hmemory hrest
        | none =>
          cases hleaves : leaves asked with
          | error error =>
            have hanswer : (leaves asked).map (fun answer => (asked, answer)) =
                .error error := by
              rw [hleaves, Except.map]
            simp only [hkey, hrecall, hanswer] at h
            exact ih hmemory (by simpa using h)
          | ok fresh =>
            have hanswer : (leaves asked).map (fun answer => (asked, answer)) =
                .ok (asked, fresh) := by
              rw [hleaves, Except.map]
            simp only [hkey, hrecall, hanswer] at h
            obtain ⟨rfl, hanswer⟩ | hrest := h
            · obtain ⟨rfl, rfl⟩ : origin = question ∧ answer = fresh := by simpa using hanswer
              exact hleaves
            · refine ih (fun row hrow => ?_) hrest
              obtain rfl | hrow := Memory.mem_keep hrow
              · exact hleaves
              · exact hmemory row hrow

/-- **Every answer of a run is right, as soon as each is right that another question has left.** -/
lemma right_iff (right : Q → A → Prop) (events : List (Event Q)) :
    (∀ asked ∈ history terms key leaves ([] : Memory κ A) events, ∀ answer,
      asked.2 = .ok answer → right asked.1 answer) ↔
    ∀ asked ∈ origins terms key leaves events, ∀ origin answer,
      asked.2 = .ok (origin, answer) → right asked.1 answer := by
  have hmap : history terms key leaves ([] : Memory κ A) events =
      (origins terms key leaves events).map fun asked => (asked.1, asked.2.map Prod.snd) := by
    have hsnd := history_map terms key (fun q => (leaves q).map fun answer => (q, answer)) Prod.snd
      ([] : Memory κ (Q × A)) events
    have hleaves : (fun q => ((leaves q).map fun answer => (q, answer)).map Prod.snd) = leaves := by
      funext q
      cases leaves q <;> rfl
    rw [hleaves] at hsnd
    exact hsnd
  rw [hmap]
  constructor
  · intro h asked hasked origin answer hanswer
    exact h _ (mem_map_of_mem hasked) answer (by simp [hanswer, Except.map])
  · intro h asked hasked answer hanswer
    obtain ⟨asked, hmem, rfl⟩ := mem_map.mp hasked
    cases hboth : asked.2 with
    | error error => simp [hboth, Except.map] at hanswer
    | ok both =>
      simp only [hboth, Except.map, Except.ok.injEq] at hanswer
      exact h asked hmem both.1 answer (by rw [hboth, ← hanswer])

end Runs

end Dripline.Found.Memo

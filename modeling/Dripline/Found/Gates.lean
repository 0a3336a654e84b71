import Mathlib.Data.List.Basic
import Mathlib.Data.Int.Notation

/-!
# Checks that read what is written later

A gate lets a task through when the time that was noted last is long enough ago and few enough acts
were noted. What the check reads is written only when an act is noted, some time after it was done.
-/

namespace Dripline.Found.Gates

open List

/-- Something a task did at a time; it is noted once the checks know of it. -/
structure Act (τ : Type*) where
  task : τ
  time : ℤ
  noted : Bool

/-- The time noted last, how many acts were noted, the tasks that were let through, and the acts. -/
structure Gate (τ : Type*) where
  last : Option ℤ
  count : ℕ
  admitted : List τ
  acts : List (Act τ)

variable {τ : Type*}

namespace Gate

variable (gate : Gate τ)

/-- The acts that were not noted yet. -/
def pending : List (Act τ) := gate.acts.filter (!·.noted)

/-- When the acts were done. -/
def times : List ℤ := gate.acts.map (·.time)

/-- A task is let through. -/
def enter (task : τ) : Gate τ := { gate with admitted := gate.admitted ++ [task] }

end Gate

section steps

variable [DecidableEq τ]

/-- The act of a task is noted. -/
def Act.mark (task : τ) (act : Act τ) : Act τ :=
  if act.task = task then { act with noted := true } else act

/-- The act is that of the task, and was not noted yet. -/
def Act.isOwed (task : τ) (act : Act τ) : Bool := !act.noted && decide (act.task = task)

namespace Gate

variable (gate : Gate τ) (task : τ)

/-- A task that was let through acts. -/
def act (now : ℤ) : Gate τ :=
  { gate with admitted := gate.admitted.erase task, acts := gate.acts ++ [⟨task, now, false⟩] }

/-- The act of a task is noted. -/
def note (mark : ℤ) (count : ℕ) : Gate τ :=
  { gate with last := some mark, count := count, acts := gate.acts.map (Act.mark task) }

/-- A task that was let through does nothing. -/
def giveUp : Gate τ := { gate with admitted := gate.admitted.erase task }

/-- An act came to nothing. -/
def fail : Gate τ := { gate with acts := gate.acts.filter (!·.isOwed task) }

end Gate

end steps

/-- One task at a time is on its way; the acts keep the distance and are over, the one that waits to
be noted last; those that were noted are not later than what a check reads; and a task that was let
through keeps the distance to all of them. -/
structure Paced (gap now : ℤ) (gate : Gate τ) : Prop where
  alone : gate.admitted.length + gate.pending.length ≤ 1
  spaced : gate.times.Pairwise fun earlier later => earlier + gap ≤ later
  past : ∀ act ∈ gate.acts, act.time ≤ now
  newest : ∀ owed ∈ gate.pending, ∀ act ∈ gate.acts, act.time ≤ owed.time
  told : ∀ act ∈ gate.acts, act.noted = true → ∃ last, gate.last = some last ∧ act.time ≤ last
  apart : gate.admitted ≠ [] → ∀ act ∈ gate.acts, act.time + gap ≤ now

/-- There are no more acts than allowed, no more were noted than counted, and whoever is on its way
has room. -/
structure Counted (max : ℕ) (gate : Gate τ) : Prop where
  bounded : gate.acts.length + gate.admitted.length ≤ max
  noted : gate.acts.countP (·.noted) ≤ gate.count
  room : gate.admitted ≠ [] ∨ gate.pending ≠ [] → gate.count < max

variable {gate : Gate τ} {task : τ} {gap now later : ℤ} {max : ℕ}

/-! ## Distance -/

variable {last : Option ℤ} {count : ℕ}

lemma paced_nil : Paced gap now (⟨last, count, [], []⟩ : Gate τ) :=
  ⟨by simp [Gate.pending], List.Pairwise.nil, by simp, by simp, by simp, by simp⟩

lemma Paced.tick (h : Paced gap now gate) (hlater : now ≤ later) : Paced gap later gate where
  alone := h.alone
  spaced := h.spaced
  past := fun act hact => Int.le_trans (h.past act hact) hlater
  newest := h.newest
  told := h.told
  apart := fun hne act hact => Int.le_trans (h.apart hne act hact) hlater

lemma noted_of_pending_nil (hnoted : gate.pending = []) {act : Act τ} (hact : act ∈ gate.acts) :
    act.noted = true := by
  simpa using filter_eq_nil_iff.mp hnoted act hact

/-- **A check when nobody is on the way**: everything was noted, and what was noted last is long
enough ago, if there is a distance to keep. -/
lemma Paced.enter (h : Paced gap now gate) (halone : gate.admitted = [])
    (hnoted : gate.pending = [])
    (hclear : gap ≤ 0 ∨ ∀ last, gate.last = some last → last + gap ≤ now) :
    Paced gap now (gate.enter task) where
  alone := by
    have hpending : (gate.enter task).pending = [] := hnoted
    have hadmitted : (gate.enter task).admitted = [task] := by simp [Gate.enter, halone]
    simp [hpending, hadmitted]
  spaced := h.spaced
  past := h.past
  newest := h.newest
  told := h.told
  apart := by
    intro _ act hact
    rcases hclear with hgap | hclear
    · have := h.past act hact
      omega
    · obtain ⟨last, hlast, hle⟩ := h.told act hact (noted_of_pending_nil hnoted hact)
      have := hclear last hlast
      omega

lemma Paced.admitted_eq (h : Paced gap now gate) (htask : task ∈ gate.admitted) :
    gate.admitted = [task] ∧ gate.pending = [] := by
  have halone := h.alone
  have hpos := length_pos_of_mem htask
  obtain ⟨only, honly⟩ := length_eq_one_iff.mp (show gate.admitted.length = 1 by omega)
  rw [honly, mem_singleton] at htask
  rw [honly, htask]
  exact ⟨rfl, eq_nil_of_length_eq_zero (by omega)⟩

section steps

variable [DecidableEq τ]

@[simp] lemma Act.time_mark (task : τ) (act : Act τ) : (act.mark task).time = act.time := by
  unfold Act.mark
  split <;> rfl

@[simp] lemma times_note (mark : ℤ) (count : ℕ) :
    (gate.note task mark count).times = gate.times := by
  simp [Gate.note, Gate.times, Function.comp_def]

lemma Paced.act (h : Paced gap now gate) (htask : task ∈ gate.admitted) :
    Paced gap now (gate.act task now) := by
  obtain ⟨honly, hpending⟩ := h.admitted_eq htask
  have hpending' : (gate.act task now).pending = [⟨task, now, false⟩] := by
    have hsplit : (gate.act task now).pending = gate.pending ++ [⟨task, now, false⟩] := by
      simp [Gate.pending, Gate.act]
    rw [hsplit, hpending, nil_append]
  have hempty : (gate.act task now).admitted = [] := by simp [Gate.act, honly]
  have hmem : ∀ act ∈ (gate.act task now).acts, act ∈ gate.acts ∨ act = ⟨task, now, false⟩ := by
    simp [Gate.act]
  have hpast : ∀ act ∈ (gate.act task now).acts, act.time ≤ now := by
    intro act hact
    rcases hmem act hact with hact | rfl
    · exact h.past act hact
    · exact Int.le_refl now
  refine ⟨?_, ?_, hpast, ?_, ?_, fun hne => absurd hempty hne⟩
  · simp [hpending', hempty]
  · unfold Gate.times Gate.act
    rw [map_append, pairwise_append]
    refine ⟨h.spaced, pairwise_singleton _ _, ?_⟩
    intro earlier hearlier time htime
    obtain ⟨act, hact, rfl⟩ := mem_map.mp hearlier
    rw [mem_singleton.mp htime]
    exact h.apart (ne_nil_of_mem htask) act hact
  · intro owed howed act hact
    rw [hpending', mem_singleton] at howed
    rw [howed]
    exact hpast act hact
  · intro act hact hnoted
    rcases hmem act hact with hact | rfl
    · exact h.told act hact hnoted
    · cases hnoted

lemma Paced.giveUp (h : Paced gap now gate) : Paced gap now (gate.giveUp task) where
  alone := by
    have hpending : (gate.giveUp task).pending = gate.pending := rfl
    have hle := length_erase_le (a := task) (l := gate.admitted)
    have halone := h.alone
    rw [hpending]
    unfold Gate.giveUp
    dsimp only
    omega
  spaced := h.spaced
  past := h.past
  newest := h.newest
  told := h.told
  apart := fun hne => h.apart fun hnil => hne (by simp [Gate.giveUp, hnil])

variable {act : Act τ}

lemma Paced.pending_eq (h : Paced gap now gate) (hact : act ∈ gate.acts)
    (howed : act.isOwed task = true) : gate.pending = [act] ∧ gate.admitted = [] := by
  unfold Act.isOwed at howed
  simp only [Bool.and_eq_true] at howed
  have hpending : act ∈ gate.pending := mem_filter.mpr ⟨hact, howed.1⟩
  have hpos := length_pos_of_mem hpending
  have halone := h.alone
  obtain ⟨only, honly⟩ := length_eq_one_iff.mp (show gate.pending.length = 1 by omega)
  rw [honly, mem_singleton] at hpending
  rw [honly, hpending]
  exact ⟨rfl, eq_nil_of_length_eq_zero (by omega)⟩

lemma Paced.pending_note (h : Paced gap now gate) (hact : act ∈ gate.acts)
    (howed : act.isOwed task = true) (mark : ℤ) (count : ℕ) :
    (gate.note task mark count).pending = [] := by
  have htask : act.task = task := by
    unfold Act.isOwed at howed
    simp only [Bool.and_eq_true, decide_eq_true_eq] at howed
    exact howed.2
  refine filter_eq_nil_iff.mpr ?_
  intro marked hmarked
  obtain ⟨other, hother, rfl⟩ := mem_map.mp hmarked
  cases hnoted : other.noted with
  | true => simp [Act.mark, hnoted, apply_ite]
  | false =>
    have hmem : other ∈ gate.pending := mem_filter.mpr ⟨hother, by simp [hnoted]⟩
    rw [(h.pending_eq hact howed).1, mem_singleton] at hmem
    simp [Act.mark, hmem, htask]

lemma Paced.note (h : Paced gap now gate) (hact : act ∈ gate.acts) (howed : act.isOwed task = true)
    {mark : ℤ} (hmark : act.time ≤ mark) (count : ℕ) :
    Paced gap now (gate.note task mark count) where
  alone := by
    have hadmitted : (gate.note task mark count).admitted = [] := (h.pending_eq hact howed).2
    simp [h.pending_note hact howed, hadmitted]
  spaced := by
    rw [times_note]
    exact h.spaced
  past := by
    intro marked hmarked
    obtain ⟨other, hother, rfl⟩ := mem_map.mp hmarked
    rw [Act.time_mark]
    exact h.past other hother
  newest := by
    rw [h.pending_note hact howed]
    simp
  told := by
    intro marked hmarked _
    obtain ⟨other, hother, rfl⟩ := mem_map.mp hmarked
    refine ⟨mark, rfl, ?_⟩
    rw [Act.time_mark]
    have howed' : act ∈ gate.pending := by simp [(h.pending_eq hact howed).1]
    exact Int.le_trans (h.newest act howed' other hother) hmark
  apart := fun hne => absurd (h.pending_eq hact howed).2 hne

lemma Paced.fail (h : Paced gap now gate) : Paced gap now (gate.fail task) := by
  have hsub : (gate.fail task).acts.Sublist gate.acts := filter_sublist
  have hpending : (gate.fail task).pending.Sublist gate.pending := hsub.filter _
  refine ⟨?_, ?_, ?_, ?_, ?_, ?_⟩
  · have hle := hpending.length_le
    have halone := h.alone
    have hadmitted : (gate.fail task).admitted = gate.admitted := rfl
    rw [hadmitted]
    omega
  · exact h.spaced.sublist (hsub.map _)
  · exact fun act hact => h.past act (hsub.subset hact)
  · exact fun owed howed act hact => h.newest owed (hpending.subset howed) act (hsub.subset hact)
  · exact fun act hact => h.told act (hsub.subset hact)
  · exact fun hne act hact => h.apart hne act (hsub.subset hact)

end steps

/-! ## Number -/

lemma counted_nil : Counted max (⟨last, count, [], []⟩ : Gate τ) :=
  ⟨by simp, by simp, by simp [Gate.pending]⟩

lemma Counted.enter (h : Counted max gate) (halone : gate.admitted = [])
    (hnoted : gate.pending = []) (hroom : gate.count < max) : Counted max (gate.enter task) where
  bounded := by
    have hall : gate.acts.countP (·.noted) = gate.acts.length :=
      countP_eq_length.mpr fun act hact => noted_of_pending_nil hnoted hact
    have hcounted := h.noted
    simp only [Gate.enter, halone, nil_append, length_singleton]
    omega
  noted := h.noted
  room := fun _ => hroom

section steps

variable [DecidableEq τ]

lemma Counted.act (h : Counted max gate) (htask : task ∈ gate.admitted) :
    Counted max (gate.act task now) where
  bounded := by
    have hbounded := h.bounded
    have herase := length_erase_of_mem htask
    have hpos := length_pos_of_mem htask
    simp only [Gate.act, length_append, length_singleton]
    omega
  noted := by
    simpa [Gate.act] using h.noted
  room := fun _ => h.room (Or.inl (ne_nil_of_mem htask))

lemma Counted.giveUp (h : Counted max gate) : Counted max (gate.giveUp task) where
  bounded := by
    have hbounded := h.bounded
    have hle := length_erase_le (a := task) (l := gate.admitted)
    simp only [Gate.giveUp]
    omega
  noted := h.noted
  room := by
    rintro (hne | hne)
    · exact h.room (Or.inl fun hnil => hne (by simp [Gate.giveUp, hnil]))
    · exact h.room (Or.inr hne)

lemma countP_mark_le (acts : List (Act τ)) :
    (acts.map (Act.mark task)).countP (·.noted) ≤
      acts.countP (·.noted) + (acts.filter (!·.noted)).length := by
  induction acts with
  | nil => simp
  | cons act acts ih =>
    rw [map_cons, countP_cons, countP_cons]
    cases hnoted : act.noted with
    | true =>
      have hmarked : (act.mark task).noted = true := by simp [Act.mark, hnoted, apply_ite]
      rw [hmarked, filter_cons_of_neg (by simp [hnoted])]
      omega
    | false =>
      rw [filter_cons_of_pos (by simp [hnoted]), length_cons]
      split <;> omega

lemma Counted.note (h : Counted max gate) (hpaced : Paced gap now gate) {act : Act τ}
    (hact : act ∈ gate.acts) (howed : act.isOwed task = true) {mark : ℤ} {count : ℕ}
    (hcount : gate.count < count) : Counted max (gate.note task mark count) where
  bounded := by simpa [Gate.note] using h.bounded
  noted := by
    have hle : (gate.acts.map (Act.mark task)).countP (·.noted) ≤
        gate.acts.countP (·.noted) + (gate.acts.filter (!·.noted)).length :=
      countP_mark_le gate.acts
    have hone : (gate.acts.filter (!·.noted)).length = 1 :=
      congrArg List.length (hpaced.pending_eq hact howed).1
    have hcounted := h.noted
    simp only [Gate.note]
    omega
  room := by
    have hadmitted : (gate.note task mark count).admitted = [] := (hpaced.pending_eq hact howed).2
    rw [hpaced.pending_note hact howed, hadmitted]
    simp

lemma Counted.fail (h : Counted max gate) : Counted max (gate.fail task) := by
  have hsub : (gate.fail task).acts.Sublist gate.acts := filter_sublist
  have hpending : (gate.fail task).pending.Sublist gate.pending := hsub.filter _
  refine ⟨?_, ?_, ?_⟩
  · have hle := hsub.length_le
    have hbounded := h.bounded
    have hadmitted : (gate.fail task).admitted = gate.admitted := rfl
    rw [hadmitted]
    omega
  · exact Nat.le_trans hsub.countP_le h.noted
  · rintro (hne | hne)
    · exact h.room (Or.inl hne)
    · refine h.room (Or.inr fun hnil => hne ?_)
      rw [hnil] at hpending
      exact sublist_nil.mp hpending

end steps

end Dripline.Found.Gates

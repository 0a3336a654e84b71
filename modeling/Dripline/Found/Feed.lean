import Mathlib.Data.List.Nodup
import Mathlib.Data.List.TakeWhile

/-!
# A feed, newest first

Entries are put in front, and read a page at a time from the front, or behind an entry.
-/

namespace Dripline.Found.Feed

open List

variable {α : Type*} [DecidableEq α]

/-- The entries in front of one; the whole feed without it. -/
def newerThan (mark : Option α) (feed : List α) : List α :=
  match mark with
  | some mark => feed.takeWhile (· ≠ mark)
  | none => feed

/-- The entries behind one; the whole feed without it. -/
def olderThan (mark : Option α) (feed : List α) : List α :=
  match mark with
  | some mark => (feed.dropWhile (· ≠ mark)).tail
  | none => feed

/-- A page of a feed: the first entries behind one, in front of another. -/
def page (size : ℕ) (before last : Option α) (feed : List α) : List α :=
  (newerThan last (olderThan before feed)).take size

/-- One entry is in front of another, which may not be in the feed. -/
def Newer (feed : List α) (entry mark : α) : Prop := entry ∈ newerThan (some mark) feed

variable {mark : α}

lemma ne_of_not_mem {entries : List α} (h : mark ∉ entries) :
    ∀ entry ∈ entries, decide (entry ≠ mark) = true := by
  intro entry hentry
  simpa using fun heq : entry = mark => h (heq ▸ hentry)

variable {front rest : List α}

lemma olderThan_append (h : (front ++ rest).Nodup) (hlast : front.getLast? = some mark) :
    olderThan (some mark) (front ++ rest) = rest := by
  obtain ⟨front, rfl⟩ := List.getLast?_eq_some_iff.mp hlast
  have hmark : mark ∉ front := by
    rw [append_assoc] at h
    exact fun hmem => (nodup_append.mp h).2.2 mark hmem mark (by simp) rfl
  show ((front ++ [mark] ++ rest).dropWhile (· ≠ mark)).tail = rest
  rw [append_assoc, dropWhile_append_of_pos (ne_of_not_mem hmark)]
  simp

lemma page_append (size : ℕ) (h : (front ++ rest).Nodup) :
    page size front.getLast? none (front ++ rest) = rest.take size := by
  unfold page newerThan
  cases hlast : front.getLast? with
  | none =>
    rw [List.getLast?_eq_none_iff.mp hlast]
    rfl
  | some mark => rw [olderThan_append h hlast]

variable {feed : List α}

lemma newerThan_grown {fresh : List α} (h : mark ∉ fresh) :
    newerThan (some mark) (fresh ++ feed) = fresh ++ newerThan (some mark) feed := by
  exact takeWhile_append_of_pos (ne_of_not_mem h)

lemma newerThan_append (h : mark ∈ front) :
    newerThan (some mark) (front ++ rest) = newerThan (some mark) front := by
  show (front ++ rest).takeWhile (· ≠ mark) = front.takeWhile (· ≠ mark)
  rw [takeWhile_append, if_neg]
  intro hall
  have hmem : mark ∈ front.takeWhile (· ≠ mark) := by
    rw [( takeWhile_prefix _).eq_of_length hall]
    exact h
  simpa using mem_takeWhile_imp hmem

lemma newerThan_of_not_mem (h : mark ∉ feed) : newerThan (some mark) feed = feed := by
  exact takeWhile_eq_self_iff.mpr (ne_of_not_mem h)

@[simp] lemma newerThan_nil (mark : Option α) : newerThan mark [] = [] := by
  cases mark <;> rfl

variable {entry : α}

lemma mem_newerThan_take_or_drop {mark : Option α} (size : ℕ) (h : entry ∈ newerThan mark feed) :
    entry ∈ newerThan mark (feed.take size) ∨
      entry ∈ newerThan mark (feed.drop size) ∧ ∀ other ∈ mark, other ∉ feed.take size := by
  rw [← take_append_drop size feed] at h
  cases mark with
  | none => exact (mem_append.mp h).imp_right fun hbehind => ⟨hbehind, by simp⟩
  | some mark =>
    by_cases hmark : mark ∈ feed.take size
    · rw [newerThan_append hmark] at h
      exact Or.inl h
    · rw [newerThan_grown hmark] at h
      rw [newerThan_of_not_mem hmark]
      exact (mem_append.mp h).imp_right fun hbehind =>
        ⟨hbehind, fun other hother => Option.some.inj hother ▸ hmark⟩

lemma mem_of_mem_newerThan {mark : Option α} (h : entry ∈ newerThan mark feed) : entry ∈ feed := by
  cases mark with
  | none => exact h
  | some mark => exact takeWhile_subset _ h

lemma mem_of_mem_olderThan {mark : Option α} (h : entry ∈ olderThan mark feed) : entry ∈ feed := by
  cases mark with
  | none => exact h
  | some mark => exact dropWhile_subset _ (mem_of_mem_tail h)

lemma mem_of_mem_page {size : ℕ} {before last : Option α} (h : entry ∈ page size before last feed) :
    entry ∈ feed :=
  mem_of_mem_olderThan (mem_of_mem_newerThan (mem_of_mem_take h))

lemma Newer.trans {middle : α} (h : Newer feed entry middle) (h' : Newer feed middle mark) :
    Newer feed entry mark := by
  have hparts : newerThan (some mark) feed ++ feed.dropWhile (· ≠ mark) = feed :=
    takeWhile_append_dropWhile
  unfold Newer at h
  rw [← hparts, newerThan_append h'] at h
  exact mem_of_mem_newerThan h

lemma newer_cons {fresh : α} (hmark : fresh ≠ mark) :
    Newer (fresh :: feed) entry mark ↔ entry = fresh ∨ Newer feed entry mark := by
  unfold Newer newerThan
  simp [hmark]

/-! ## Entries one before another -/

section before

variable {entries : List α} {first second : α}

omit [DecidableEq α]

/-- One entry comes before another. -/
def Before (entries : List α) (first second : α) : Prop := [first, second].Sublist entries

lemma Before.mem (h : Before entries first second) : first ∈ entries :=
  h.subset mem_cons_self

lemma Before.asymm (h : Before entries first second) (hnodup : entries.Nodup) :
    ¬Before entries second first := by
  induction entries with
  | nil => cases h
  | cons entry entries ih =>
    obtain ⟨hentry, hnodup⟩ := nodup_cons.mp hnodup
    intro h'
    cases h with
    | cons _ h =>
      cases h' with
      | cons _ h' => exact ih h hnodup h'
      | cons_cons _ h' => exact hentry (h.subset (by simp))
    | cons_cons _ h =>
      cases h' with
      | cons _ h' => exact hentry (h'.subset (by simp))
      | cons_cons _ h' => exact hentry (h.subset (by simp))

lemma pairwise_filter (hnodup : entries.Nodup) (p : α → Bool) :
    (entries.filter p).Pairwise fun first second => ¬Before entries second first := by
  rw [pairwise_iff_forall_sublist]
  intro first second h
  exact Before.asymm (h.trans filter_sublist) hnodup

end before

end Dripline.Found.Feed

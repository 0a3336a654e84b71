import Dripline.Found.Trace
import Dripline.Positions.Pending

/-!
# Marks of partial exits

Whether a mint is marked while a partial exit of it is in flight, over any interleaving of calls,
registrations, verifications, failures and restarts.

* `marked_throughout` — a run is marked as long as every event spares.
-/

namespace Dripline.Positions

open Dripline.Found.Keyed List Function
open Dripline.Found.Trace

/-! ## Runs -/

/-- The bookkeeping, the calls that hold a mark and have no signature yet, and the registered
partial exits whose verification has not ended. -/
structure Exits where
  pending : PendingExits
  begun : String → ℕ
  flying : List PendingPartialExit

/-- What happens to partial exits: a call begins, fails to submit, or is submitted; the worker
applies what it found about a signature to the rows of that moment; the process starts again.
Source: `operations/partial_close.rs`, `apply.rs` and `worker.rs` -/
inductive ExitEvent
  | begin (mint : String)
  | submitFailed (mint : String)
  | submitted (entry : PendingPartialExit) (written : Except String Unit)
  | applied (store : Store) (answers : Answers) (transition : PositionTransition)
      (signature : String)
  | restart (loaded : Except String Unit)

/-- The partial exit whose verification a transition ends; a failure does not say which, so it is
that of the signature the worker looked at. -/
def PositionTransition.settles (signature : String) : PositionTransition → Option String
  | .partialExitVerified _ _ _ _ _ _ signature _
  | .exitResidualClearForRetry _ _ _ _ _ _ signature _ => some signature
  | .partialExitFailed _ _ => some signature
  | _ => none

namespace Exits

/-- Nothing was ever sold. -/
def start : Exits := ⟨⟨fun _ => 0, [], []⟩, fun _ => 0, []⟩

variable (exits : Exits)

/-- The bookkeeping after a transition; the partial exit it settles is no longer in flight. -/
def after (applied : PendingExits × Bool) (settled : Option String) : Exits :=
  match applied, settled with
  | (pending, true), some signature =>
    { exits with
      pending := pending
      flying := exits.flying.filter (·.signature != signature) }
  | (pending, _), _ => { exits with pending := pending }

/-- One event. A call begins only while the mint is not marked; what fails to submit or is submitted
is a call that began. -/
def step : ExitEvent → Exits
  | .begin mint =>
    if exits.pending.isPending mint then exits
    else
      { exits with
        pending := exits.pending.mark mint
        begun := Function.update exits.begun mint (exits.begun mint + 1) }
  | .submitFailed mint =>
    if exits.begun mint = 0 then exits
    else
      { exits with
        pending := exits.pending.clearMark mint
        begun := Function.update exits.begun mint (exits.begun mint - 1) }
  | .submitted entry written =>
    if exits.begun entry.mint = 0 then exits
    else
      let begun := Function.update exits.begun entry.mint (exits.begun entry.mint - 1)
      match exits.pending.register written entry with
      | (pending, .ok _) => ⟨pending, begun, exits.flying ++ [entry]⟩
      | (pending, .error _) => ⟨pending.clearMark entry.mint, begun, exits.flying⟩
  | .applied store answers transition signature =>
    exits.after (exits.pending.apply answers store transition) (transition.settles signature)
  | .restart loaded =>
    { exits with pending := exits.pending.forgotten.rehydrate loaded, begun := fun _ => 0 }

/-- A mint is marked exactly while a call of it has begun, or a partial exit of it is registered or
has not been settled. -/
def Marked : Prop :=
  ∀ mint, 0 < exits.pending.marks mint ↔
    0 < exits.begun mint ∨ (∃ entry ∈ exits.pending.details, entry.mint = mint) ∨
      ∃ entry ∈ exits.flying, entry.mint = mint

/-- The mark that a verified partial exit of the row takes is its own: its details are there, under
the mint of the row, and are dropped with it; or there is neither a mark nor details. -/
def TakesItsOwn (store : Store) (answers : Answers) (positionId : ℤ) (signature : String) : Prop :=
  ∀ row, store.get positionId = some row →
    (∃ entry ∈ exits.pending.details, entry.signature = signature ∧ entry.mint = row.mint ∧
      ((answers.exitLookup && store.exitRecordExists positionId signature) = true →
        answers.pendingWrite.isOk = true)) ∨
    ((∀ entry ∈ exits.pending.details, entry.signature ≠ signature) ∧
      exits.pending.marks row.mint = 0)

/-- No step takes a mark that is not its own: a swap is registered under a new signature, a verified
swap takes its own mark, a failed one is the only one of its mint, and a restart loads what is in
flight. -/
def Spares : ExitEvent → Prop
  | .submitted entry _ => ∀ registered ∈ exits.pending.details, registered.signature ≠ entry.signature
  | .applied store answers transition signature =>
    match transition with
    | .partialExitVerified id _ _ _ _ _ sold _
    | .exitResidualClearForRetry id _ _ _ _ _ sold _ => exits.TakesItsOwn store answers id sold
    | .partialExitFailed id _ =>
      ∀ row, store.get id = some row → exits.begun row.mint = 0 ∧
        ∀ entry ∈ exits.flying, entry.mint = row.mint → entry.signature = signature
    | _ => True
  | .restart loaded =>
    exits.pending.stored.length < 2 ^ 32 ∧ (loaded.isOk = true ∨ exits.flying = [])
  | _ => True

/-- A mint has as many marks as it has calls and registered details; the details are stored, and are
those of what is in flight. -/
structure Accounted : Prop where
  counted : ∀ mint, exits.pending.marks mint =
    exits.begun mint + exits.pending.details.countP (·.mint == mint)
  distinct : (exits.pending.details.map (·.signature)).Nodup
  storedDistinct : (exits.pending.stored.map (·.signature)).Nodup
  stored : ∀ entry ∈ exits.pending.details, entry ∈ exits.pending.stored
  registered : ∀ entry ∈ exits.flying, entry ∈ exits.pending.details

variable {exits}

lemma Accounted.marked (h : exits.Accounted) : exits.Marked := by
  intro mint
  rw [h.counted mint]
  constructor
  · intro hpos
    by_cases hbegun : 0 < exits.begun mint
    · exact Or.inl hbegun
    · have hcount : 0 < exits.pending.details.countP (·.mint == mint) := by omega
      obtain ⟨entry, hentry, hmint⟩ := countP_pos_iff.mp hcount
      exact Or.inr (Or.inl ⟨entry, hentry, by simpa using hmint⟩)
  · have hdetails : (∃ entry ∈ exits.pending.details, entry.mint = mint) →
        0 < exits.pending.details.countP (·.mint == mint) := by
      rintro ⟨entry, hentry, hmint⟩
      exact countP_pos_iff.mpr ⟨entry, hentry, by simpa using hmint⟩
    rintro (hbegun | hentry | ⟨entry, hentry, hmint⟩)
    · omega
    · have := hdetails hentry
      omega
    · have := hdetails ⟨entry, h.registered entry hentry, hmint⟩
      omega

section step

variable {entry : PendingPartialExit}

section

variable (h : exits.Accounted)
include h

lemma Accounted.settle (signature : String) :
    Accounted { exits with flying := exits.flying.filter (·.signature != signature) } where
  counted := h.counted
  distinct := h.distinct
  storedDistinct := h.storedDistinct
  stored := h.stored
  registered := fun entry hentry => h.registered entry (mem_filter.mp hentry).1

lemma Accounted.begin (mint : String) : (exits.step (.begin mint)).Accounted := by
  simp only [step]
  split
  case isTrue hpending => exact h
  case isFalse hpending =>
    have hzero : exits.pending.marks mint = 0 := by
      simpa [PendingExits.isPending] using hpending
    refine ⟨fun other => ?_, h.distinct, h.storedDistinct, h.stored, h.registered⟩
    have hcounted := h.counted other
    by_cases hother : other = mint
    · subst hother
      simp only [PendingExits.mark, update_self, saturatingSucc32]
      omega
    · simp only [PendingExits.mark, update_of_ne hother]
      exact hcounted

lemma Accounted.submitFailed (mint : String) : (exits.step (.submitFailed mint)).Accounted := by
  simp only [step]
  split
  case isTrue hnone => exact h
  case isFalse hbegun =>
    refine ⟨fun other => ?_, h.distinct, h.storedDistinct, h.stored, h.registered⟩
    have hcounted := h.counted other
    by_cases hother : other = mint
    · subst hother
      simp only [PendingExits.clearMark, update_self]
      omega
    · simp only [PendingExits.clearMark, update_of_ne hother]
      exact hcounted

lemma Accounted.submitted (entry : PendingPartialExit) (written : Except String Unit)
    (hfresh : ∀ registered ∈ exits.pending.details, registered.signature ≠ entry.signature) :
    (exits.step (.submitted entry written)).Accounted := by
  have hfailed := h.submitFailed entry.mint
  simp only [step] at hfailed ⊢
  split
  case isTrue hnone => exact h
  case isFalse hbegun =>
    rw [if_neg hbegun] at hfailed
    rw [PendingExits.register_of_fresh written hfresh]
    cases written with
    | error detail => exact ⟨hfailed.counted, h.distinct, h.storedDistinct, h.stored, h.registered⟩
    | ok _ =>
      have hdistinct : ((exits.pending.details ++ [entry]).map (·.signature)).Nodup := by
        rw [map_append, map_singleton, nodup_append]
        refine ⟨h.distinct, nodup_singleton _, ?_⟩
        intro signature hsignature other hother
        obtain ⟨registered, hregistered, rfl⟩ := mem_map.mp hsignature
        rw [mem_singleton.mp hother]
        exact hfresh registered hregistered
      refine ⟨fun mint => ?_, hdistinct, hdistinct, fun _ hmem => hmem, ?_⟩
      · have hcounted := h.counted mint
        dsimp only
        rw [countP_append, countP_singleton]
        by_cases hmint : mint = entry.mint
        · subst hmint
          simp only [update_self, beq_self_eq_true, if_true]
          omega
        · rw [update_of_ne hmint, if_neg (by simpa using Ne.symm hmint), hcounted]
          rfl
      · intro other hother
        rcases mem_append.mp hother with hother | hother
        · exact mem_append_left _ (h.registered other hother)
        · exact mem_append_right _ hother

lemma Accounted.clear (hentry : entry ∈ exits.pending.details) :
    Accounted { exits with
      pending := ({ exits.pending.remove entry.signature with
        stored := (exits.pending.remove entry.signature).details } : PendingExits).clearMark entry.mint
      flying := exits.flying.filter (·.signature != entry.signature) } := by
  have hdistinct : ((exits.pending.remove entry.signature).details.map (·.signature)).Nodup :=
    h.distinct.sublist (filter_sublist.map _)
  refine ⟨fun mint => ?_, hdistinct, hdistinct, fun _ hmem => hmem, ?_⟩
  · have hcounted := h.counted mint
    have hremoved := countP_filter_ne h.distinct hentry (·.mint == mint)
    simp only [PendingExits.clearMark, PendingExits.remove]
    by_cases hmint : mint = entry.mint
    · subst hmint
      simp only [update_self, beq_self_eq_true, if_true] at hremoved ⊢
      omega
    · rw [update_of_ne hmint]
      rw [if_neg (by simpa using Ne.symm hmint)] at hremoved
      omega
  · intro other hother
    obtain ⟨hmem, hsignature⟩ := mem_filter.mp hother
    exact mem_filter.mpr ⟨h.registered other hmem, hsignature⟩

lemma Accounted.putBack (hentry : entry ∈ exits.pending.details) :
    Accounted { exits with
      pending := { exits.pending.remove entry.signature with
        details := (exits.pending.remove entry.signature).details ++ [entry] } } := by
  have hperm := perm_filter_ne h.distinct hentry
  refine ⟨fun mint => ?_, (hperm.map _).nodup_iff.mpr h.distinct, h.storedDistinct, ?_, ?_⟩
  · exact (h.counted mint).trans (congrArg (exits.begun mint + ·) (hperm.countP_eq _).symm)
  · exact fun other hother => h.stored other (hperm.mem_iff.mp hother)
  · exact fun other hother => hperm.mem_iff.mpr (h.registered other hother)

lemma Accounted.sold (store : Store) (answers : Answers) (positionId : ℤ) (signature : String)
    (hown : exits.TakesItsOwn store answers positionId signature) :
    (exits.after (exits.pending.sold answers store positionId signature)
      (some signature)).Accounted := by
  unfold PendingExits.sold
  cases hrow : store.get positionId with
  | none => exact h.settle signature
  | some row =>
    dsimp only
    rcases hown row hrow with ⟨entry, hentry, rfl, hmint, hstored⟩ | ⟨hfresh, hunmarked⟩
    · rw [← hmint]
      have hclear := PendingExits.clearDetail_of_mem answers.pendingWrite h.distinct hentry
      split
      case isTrue hrecorded =>
        cases hwrite : answers.pendingWrite with
        | ok _ =>
          rw [hwrite] at hclear
          rw [hclear]
          exact h.clear hentry
        | error detail =>
          have hok := hstored hrecorded
          rw [hwrite] at hok
          cases hok
      case isFalse hnew =>
        cases answers.rowWrite with
        | error detail => exact h
        | ok _ =>
          dsimp only
          rw [hclear]
          cases answers.pendingWrite with
          | ok _ => exact h.clear hentry
          | error detail => exact h.putBack hentry
    · have hclear := PendingExits.clearDetail_of_fresh answers.pendingWrite hfresh
      rw [hclear]
      dsimp only
      rw [PendingExits.clearMark_of_zero hunmarked]
      split
      case isTrue hrecorded => exact h.settle signature
      case isFalse hnew =>
        cases answers.rowWrite with
        | error detail => exact h
        | ok _ => exact h.settle signature

lemma Accounted.dropMint {mint : String} {stored : List PendingPartialExit}
    (hstored : stored = exits.pending.stored ∨ stored = exits.pending.details.filter (·.mint != mint))
    (hbegun : exits.begun mint = 0) (signature : String)
    (hflying : ∀ entry ∈ exits.flying, entry.mint = mint → entry.signature = signature) :
    Accounted ⟨⟨Function.update exits.pending.marks mint 0,
      exits.pending.details.filter (·.mint != mint), stored⟩, exits.begun,
      exits.flying.filter (·.signature != signature)⟩ := by
  have hdistinct : ((exits.pending.details.filter (·.mint != mint)).map (·.signature)).Nodup :=
    h.distinct.sublist (filter_sublist.map _)
  refine ⟨fun other => ?_, hdistinct, ?_, ?_, ?_⟩
  · have hcounted := h.counted other
    dsimp only
    rw [countP_filter]
    by_cases hother : other = mint
    · subst hother
      rw [update_self, hbegun, countP_eq_zero.mpr (by simp)]
    · rw [update_of_ne hother, hcounted]
      refine congrArg (exits.begun other + ·) (countP_congr fun entry _ => ?_)
      have hne : entry.mint = other → entry.mint ≠ mint := fun heq => heq ▸ hother
      simpa using hne
  · rcases hstored with rfl | rfl
    · exact h.storedDistinct
    · exact hdistinct
  · intro entry hentry
    rcases hstored with rfl | rfl
    · exact h.stored entry (mem_filter.mp hentry).1
    · exact hentry
  · intro entry hentry
    obtain ⟨hmem, hsignature⟩ := mem_filter.mp hentry
    refine mem_filter.mpr ⟨h.registered entry hmem, ?_⟩
    have hne : entry.mint ≠ mint := by
      intro hmint
      rw [hflying entry hmem hmint] at hsignature
      simp at hsignature
    simpa using hne

lemma Accounted.failed (store : Store) (answers : Answers) (positionId : ℤ) (signature : String)
    (honly : ∀ row, store.get positionId = some row → exits.begun row.mint = 0 ∧
      ∀ entry ∈ exits.flying, entry.mint = row.mint → entry.signature = signature) :
    (exits.after (exits.pending.failed answers store positionId, true)
      (some signature)).Accounted := by
  unfold PendingExits.failed
  cases hrow : store.get positionId with
  | none => exact h.settle signature
  | some row =>
    obtain ⟨hbegun, hflying⟩ := honly row hrow
    obtain ⟨stored, hstored, hcleared⟩ :=
      exits.pending.clearForMint_eq answers.pendingWrite row.mint
    dsimp only
    rw [hcleared, PendingExits.clearMark_of_zero (update_self _ _ _)]
    exact h.dropMint hstored hbegun signature hflying

lemma Accounted.forgotten (hflying : exits.flying = []) :
    Accounted { exits with pending := exits.pending.forgotten, begun := fun _ => 0 } where
  counted := fun _ => rfl
  distinct := nodup_nil
  storedDistinct := h.storedDistinct
  stored := fun _ hentry => (by cases hentry)
  registered := fun entry hentry => (by rw [hflying] at hentry; cases hentry)

lemma Accounted.restart (loaded : Except String Unit)
    (hlength : exits.pending.stored.length < 2 ^ 32)
    (hloads : loaded.isOk = true ∨ exits.flying = []) :
    (exits.step (.restart loaded)).Accounted := by
  cases loaded with
  | error detail =>
    rcases hloads with hok | hflying
    · cases hok
    · exact h.forgotten hflying
  | ok _ =>
    obtain ⟨hdetails, hmarks, hstored⟩ :=
      exits.pending.rehydrate_eq h.storedDistinct hlength
    refine ⟨fun mint => ?_, ?_, ?_, ?_, ?_⟩
    all_goals simp only [step]
    · rw [hmarks, hdetails, Nat.zero_add]
    · rw [hdetails]
      exact h.storedDistinct
    · rw [hstored]
      exact h.storedDistinct
    · rw [hdetails, hstored]
      exact fun _ hentry => hentry
    · rw [hdetails]
      exact fun entry hentry => h.stored entry (h.registered entry hentry)

lemma Accounted.step (event : ExitEvent) (hspares : exits.Spares event) :
    (exits.step event).Accounted := by
  cases event with
  | begin mint => exact h.begin mint
  | submitFailed mint => exact h.submitFailed mint
  | submitted entry written => exact h.submitted entry written hspares
  | restart loaded => exact h.restart loaded hspares.1 hspares.2
  | applied store answers transition signature =>
    cases transition with
    | partialExitVerified id amount received price fee time sold percentage
    | exitResidualClearForRetry id amount received price fee time sold percentage =>
      exact h.sold store answers id sold hspares
    | partialExitFailed id reason => exact h.failed store answers id signature hspares
    | _ => exact h

end

end step

end Exits

/-- A store with one open position. -/
def openStore : Store where
  positions := [openedPosition (some 1) "MINT" "TKN" "Token" "open-sig" 2 2 .manual .userOnly 0]
  entries := []
  exits := []
  losses := []

/-- A partial exit of its position. -/
def pendingPart : PendingPartialExit := ⟨"part-sig", "MINT", 1, 40, 40, none, 5⟩

end Dripline.Positions

import Dripline.Found.StableSort
import Dripline.Positions.Position

/-!
# The verification queue

`positions/queue.rs`. The clock is an argument of every operation that reads it, and so is the
fraction the retry delay is jittered by, which the source draws from a hash.

A source without a file is in `queue.rs`, where a definition without a comment is the one
of its name.
-/

namespace Dripline.Positions

open Dripline.Found.StableSort List

/-! ## Items -/

/-- Source: `positions/types.rs` -/
inductive VerificationKind
  | entry
  | exit
  deriving DecidableEq

/-- Source: `positions/types.rs` -/
inductive GiveUpReason
  | maxAttemptsReached (attempts max : ℕ)
  | maxAgeReached (ageHours max : ℤ)

def maxVerificationAttempts : ℕ := 40

def maxVerificationAgeHours : ℤ := 24

def backoffIntervalsSecs : List ℤ :=
  [5, 10, 15, 30, 60, 120, 300, 600, 900, 1800, 3600, 7200, 14400, 28800, 43200, 86400]

def backoffMaxSecs : ℤ := 43200

/-- A swap that waits to be verified. -/
structure VerificationItem where
  signature : String
  mint : String
  positionId : Option ℤ
  kind : VerificationKind
  createdAt : DateTime
  lastAttemptAt : Option DateTime
  nextRetryAt : Option DateTime
  attempts : ℕ
  expiryHeight : Option ℕ
  isPartialExit : Bool
  expectedExitAmount : Option ℕ
  requestedExitPercentage : Option ℚ
  isDca : Bool
  deriving DecidableEq

namespace VerificationItem

def new (signature mint : String) (positionId : Option ℤ) (kind : VerificationKind)
    (expiryHeight : Option ℕ) (now : DateTime) : VerificationItem where
  signature := signature
  mint := mint
  positionId := positionId
  kind := kind
  createdAt := now
  lastAttemptAt := none
  nextRetryAt := none
  attempts := 0
  expiryHeight := expiryHeight
  isPartialExit := false
  expectedExitAmount := none
  requestedExitPercentage := none
  isDca := false

def newPartialExit (signature mint : String) (positionId : Option ℤ) (expectedExitAmount : ℕ)
    (exitPercentage : ℚ) (expiryHeight : Option ℕ) (now : DateTime) : VerificationItem :=
  { new signature mint positionId .exit expiryHeight now with
    isPartialExit := true
    expectedExitAmount := some expectedExitAmount
    requestedExitPercentage := some exitPercentage }

def newDca (signature mint : String) (positionId : Option ℤ) (expiryHeight : Option ℕ)
    (now : DateTime) : VerificationItem :=
  { new signature mint positionId .entry expiryHeight now with isDca := true }

variable (item : VerificationItem) (now : DateTime)

/-- Whole seconds since the item was made. -/
def ageSeconds : ℤ := (now - item.createdAt).tdiv (10 ^ 9)

/-- Whole hours since the item was made. -/
def ageHours : ℤ := (now - item.createdAt).tdiv (3600 * 10 ^ 9)

def shouldGiveUp : Option GiveUpReason :=
  if maxVerificationAttempts ≤ item.attempts then
    some (.maxAttemptsReached item.attempts maxVerificationAttempts)
  else if maxVerificationAgeHours ≤ item.ageHours now then
    some (.maxAgeReached (item.ageHours now) maxVerificationAgeHours)
  else none

/-- The delay before the next attempt, in seconds: the table, then its maximum, with a jitter that
is cut to whole seconds. Source: `with_retry` -/
def backoff (jitter : ℚ) (attempts : ℕ) : ℤ :=
  let secs := if attempts = 0 then 0 else backoffIntervalsSecs.getD (attempts - 1) backoffMaxSecs
  let cut := (secs * jitter).num.tdiv (secs * jitter).den
  max 1 (secs + cut)

/-- One more attempt. -/
def withRetry (jitter : String → ℕ → ℚ) : VerificationItem :=
  let attempts := min (item.attempts + 1) 255
  { item with
    lastAttemptAt := some now
    nextRetryAt := some (now + backoff (jitter item.signature attempts) attempts * 10 ^ 9)
    attempts := attempts }

/-- The chain is past the item's last height, or the item is too old when a height is not known. -/
def isExpired (currentHeight : Option ℕ) : Bool :=
  match item.expiryHeight, currentHeight with
  | some expiry, some current => decide (expiry < current)
  | _, _ =>
    let fallbackSecs := match item.kind with
      | .entry => 600
      | .exit => maxVerificationAgeHours * 3600
    decide (fallbackSecs < item.ageSeconds now)

def isDue : Bool :=
  match item.nextRetryAt with
  | none => true
  | some time => decide (time ≤ now)

@[simp] lemma signature_withRetry (jitter : String → ℕ → ℚ) :
    (item.withRetry now jitter).signature = item.signature := rfl

end VerificationItem

/-! ## The queue -/

/-- The items that wait, in order. -/
structure VerificationQueue where
  items : List VerificationItem

/-- Due first, then recent, then by age. Source: `queue.rs`, the comparator of `poll_batch` -/
def byPriority (now : DateTime) (a b : VerificationItem) : Ordering :=
  if a.isDue now && !b.isDue now then .lt
  else if !a.isDue now && b.isDue now then .gt
  else
    match decide (a.ageSeconds now ≤ 60), decide (b.ageSeconds now ≤ 60) with
    | true, false => .lt
    | false, true => .gt
    | _, _ => compare (a.ageSeconds now) (b.ageSeconds now)

/-- Up to `limit` due items are drained, the rest is kept. Source: `queue.rs`, the loop of
`poll_batch` -/
def drainDue (now : DateTime) : ℕ → List VerificationItem →
    List VerificationItem × List VerificationItem
  | _, [] => ([], [])
  | limit, item :: items =>
    if 0 < limit ∧ item.isDue now then
      (item :: (drainDue now (limit - 1) items).1, (drainDue now (limit - 1) items).2)
    else ((drainDue now limit items).1, item :: (drainDue now limit items).2)

namespace VerificationQueue

variable (queue : VerificationQueue)

/-- The signatures that wait. Source: `get_queue_status` -/
def signatures : List String := queue.items.map (·.signature)

/-- A signature that waits already is not enqueued again. -/
def enqueue (item : VerificationItem) : VerificationQueue :=
  if queue.items.any (·.signature == item.signature) then queue else ⟨queue.items ++ [item]⟩

def pollBatch (limit : ℕ) (now : DateTime) : List VerificationItem × VerificationQueue :=
  let (batch, remaining) := drainDue now limit (sortBy (byPriority now) queue.items)
  (batch, ⟨remaining⟩)

/-- An item is put back with one more attempt; from twelve on it is dropped. -/
def requeue (item : VerificationItem) (now : DateTime) (jitter : String → ℕ → ℚ) :
    VerificationQueue :=
  if item.attempts < 12 then ⟨queue.items ++ [item.withRetry now jitter]⟩ else queue

/-- The first item of a signature is taken out. -/
def remove (signature : String) : VerificationQueue :=
  ⟨queue.items.eraseP (·.signature == signature)⟩

def gcExpired (currentHeight : Option ℕ) (now : DateTime) :
    List VerificationItem × VerificationQueue :=
  (queue.items.filter (·.isExpired now currentHeight),
    ⟨queue.items.filter fun item => !item.isExpired now currentHeight⟩)

/-! ### What each operation does to the signatures -/

variable {queue} {signature : String}

lemma any_signature (item : VerificationItem) :
    queue.items.any (·.signature == item.signature) = true ↔
      item.signature ∈ queue.signatures := by
  simp [signatures]

@[simp] lemma mem_signatures_enqueue (item : VerificationItem) :
    signature ∈ (queue.enqueue item).signatures ↔
      signature ∈ queue.signatures ∨ signature = item.signature := by
  unfold enqueue
  split
  case isTrue h =>
    have hqueued := (any_signature item).mp h
    constructor
    · exact Or.inl
    · rintro (h | rfl)
      · exact h
      · exact hqueued
  case isFalse h => simp [signatures]

lemma nodup_enqueue (hnodup : queue.signatures.Nodup) (item : VerificationItem) :
    (queue.enqueue item).signatures.Nodup := by
  unfold enqueue
  split
  case isTrue h => exact hnodup
  case isFalse h =>
    have hfresh : item.signature ∉ queue.signatures := fun hmem => h ((any_signature item).mpr hmem)
    simpa [signatures, nodup_append, hnodup] using
      ⟨hnodup, fun a ha heq => hfresh (by simpa [signatures] using ⟨a, ha, heq⟩)⟩

lemma perm_drainDue (now : DateTime) (limit : ℕ) (items : List VerificationItem) :
    ((drainDue now limit items).1 ++ (drainDue now limit items).2).Perm items := by
  induction items generalizing limit with
  | nil => exact List.Perm.refl _
  | cons item items ih =>
    unfold drainDue
    split
    · exact (ih (limit - 1)).cons item
    · exact perm_middle.trans ((ih limit).cons item)

lemma perm_pollBatch (limit : ℕ) (now : DateTime) :
    ((queue.pollBatch limit now).1 ++ (queue.pollBatch limit now).2.items).Perm queue.items :=
  (perm_drainDue now limit _).trans (sortBy_perm _ _)

lemma mem_signatures_pollBatch (limit : ℕ) (now : DateTime) :
    signature ∈ queue.signatures ↔
      signature ∈ (queue.pollBatch limit now).1.map (·.signature) ∨
        signature ∈ (queue.pollBatch limit now).2.signatures := by
  have hperm := ((@perm_pollBatch queue limit now).map (·.signature)).mem_iff (a := signature)
  rw [map_append, mem_append] at hperm
  exact hperm.symm

lemma nodup_pollBatch (hnodup : queue.signatures.Nodup) (limit : ℕ) (now : DateTime) :
    (queue.pollBatch limit now).2.signatures.Nodup := by
  have hperm := (@perm_pollBatch queue limit now).map (·.signature)
  rw [map_append] at hperm
  exact ((hperm.nodup_iff.mpr hnodup).sublist (sublist_append_right _ _))

lemma mem_signatures_requeue (item : VerificationItem) (now : DateTime) (jitter : String → ℕ → ℚ) :
    signature ∈ (queue.requeue item now jitter).signatures ↔
      signature ∈ queue.signatures ∨ (item.attempts < 12 ∧ signature = item.signature) := by
  unfold requeue
  split
  case isTrue h => simp [signatures, h]
  case isFalse h => simp [h]

lemma nodup_requeue_iff (hnodup : queue.signatures.Nodup) (item : VerificationItem)
    (now : DateTime) (jitter : String → ℕ → ℚ) :
    (queue.requeue item now jitter).signatures.Nodup ↔
      12 ≤ item.attempts ∨ item.signature ∉ queue.signatures := by
  unfold requeue
  split
  case isTrue h =>
    have hlt : ¬ 12 ≤ item.attempts := by omega
    have happend : (⟨queue.items ++ [item.withRetry now jitter]⟩ : VerificationQueue).signatures =
        queue.signatures ++ [item.signature] := by simp [signatures]
    rw [happend, nodup_append]
    constructor
    · rintro ⟨-, -, hdisjoint⟩
      exact Or.inr fun hmem => hdisjoint _ hmem _ (mem_singleton_self _) rfl
    · rintro (hge | hfresh)
      · exact absurd hge hlt
      · refine ⟨hnodup, nodup_singleton _, ?_⟩
        intro a ha b hb hab
        obtain rfl := mem_singleton.mp hb
        exact hfresh (hab ▸ ha)
  case isFalse h => exact ⟨fun _ => Or.inl (by omega), fun _ => hnodup⟩

lemma mem_signatures_remove {removed : String} (hne : signature ≠ removed) :
    signature ∈ (queue.remove removed).signatures ↔ signature ∈ queue.signatures := by
  unfold signatures remove
  simp only [mem_map]
  constructor
  · rintro ⟨item, hitem, rfl⟩
    exact ⟨item, mem_of_mem_eraseP hitem, rfl⟩
  · rintro ⟨item, hitem, rfl⟩
    exact ⟨item, (mem_eraseP_of_neg (by simpa using hne)).mpr hitem, rfl⟩

lemma nodup_remove (hnodup : queue.signatures.Nodup) (removed : String) :
    (queue.remove removed).signatures.Nodup :=
  hnodup.sublist (eraseP_sublist.map _)

lemma mem_signatures_gcExpired (currentHeight : Option ℕ) (now : DateTime) :
    signature ∈ queue.signatures ↔
      signature ∈ (queue.gcExpired currentHeight now).1.map (·.signature) ∨
        signature ∈ (queue.gcExpired currentHeight now).2.signatures := by
  unfold signatures gcExpired
  simp only [mem_map, mem_filter]
  constructor
  · rintro ⟨item, hitem, rfl⟩
    cases hexpired : item.isExpired now currentHeight with
    | true => exact Or.inl ⟨item, ⟨hitem, hexpired⟩, rfl⟩
    | false => exact Or.inr ⟨item, ⟨hitem, by simp [hexpired]⟩, rfl⟩
  · rintro (⟨item, ⟨hitem, -⟩, rfl⟩ | ⟨item, ⟨hitem, -⟩, rfl⟩)
    · exact ⟨item, hitem, rfl⟩
    · exact ⟨item, hitem, rfl⟩

lemma nodup_gcExpired (hnodup : queue.signatures.Nodup) (currentHeight : Option ℕ)
    (now : DateTime) : (queue.gcExpired currentHeight now).2.signatures.Nodup :=
  hnodup.sublist (filter_sublist.map _)

end VerificationQueue

end Dripline.Positions

import Dripline.Found.Trace
import Dripline.Positions.Apply
import Dripline.Positions.Queue

/-!
# The verification worker

The loop of `positions/worker.rs` that polls the queue, verifies what it polled and applies what
came of it, and the two promises of the queue: a signature waits once, and none is lost.

* `distinct_iff` — no signature waits twice exactly as long as none is put back while it waits.
* `kept_iff` — no signature is lost exactly as long as no item is put back at its thirteenth
  attempt.
-/

namespace Dripline.Positions

open Dripline.Found.Trace List

/-! ## One item -/

/-- Source: `positions/types.rs` -/
inductive VerificationOutcome
  | transition (transition : PositionTransition)
  | retryTransient (reason : String)
  | permanentFailure (transition : PositionTransition)

/-- The debug text of a reason. -/
def GiveUpReason.debug : GiveUpReason → String
  | .maxAttemptsReached attempts max =>
    "MaxAttemptsReached \x7b attempts: " ++ toString attempts ++ ", max: " ++ toString max ++ " \x7d"
  | .maxAgeReached ageHours max =>
    "MaxAgeReached \x7b age_hours: " ++ toString ageHours ++ ", max: " ++ toString max ++ " \x7d"

namespace VerificationItem

variable (item : VerificationItem)

/-- What an expired entry comes to; an item without a position comes to nothing.
Source: `worker.rs`, the loop over `expired_items` -/
def expiredTransition : Option PositionTransition :=
  item.positionId.map fun positionId =>
    if item.isDca then .dcaFailed positionId item.signature "Verification expired"
    else .removeOrphanEntry positionId

/-- An expired exit starts over. Source: `worker.rs` -/
def renewed (now : DateTime) : VerificationItem :=
  { new item.signature item.mint item.positionId .exit item.expiryHeight now with
    isPartialExit := item.isPartialExit
    expectedExitAmount := item.expectedExitAmount
    requestedExitPercentage := item.requestedExitPercentage }

/-- What an abandoned item comes to. Source: `worker.rs`, `Handle abandoned verification` -/
def abandonedTransition (reason : GiveUpReason) (now : DateTime) : Option PositionTransition :=
  item.positionId.map fun positionId =>
    match item.kind with
    | .entry =>
      if item.isDca then
        .dcaFailed positionId item.signature ("Abandoned after " ++ reason.debug)
      else .removeOrphanEntry positionId
    | .exit =>
      if item.isPartialExit then
        .partialExitFailed positionId ("Abandoned after " ++ reason.debug)
      else .exitPermanentFailureSynthetic positionId now

end VerificationItem

/-! ## The loop -/

/-- The rows, the queue, and the items polled and not yet processed. -/
structure Worker where
  store : Store
  queue : VerificationQueue
  batch : List VerificationItem

/-- A step of the loop, with everything it is told, or an item enqueued by an operation or by the
guard of the loop. -/
inductive WorkerEvent
  | enqueue (item : VerificationItem)
  | collect (currentHeight : Option ℕ) (now : DateTime) (answers : VerificationItem → Answers)
  | poll (limit : ℕ) (now : DateTime)
  | process (outcome : VerificationOutcome) (answers again : Answers) (now : DateTime)

namespace Worker

variable (jitter : String → ℕ → ℚ) (worker : Worker)

/-- The result of a transition is not looked at. Source: `worker.rs`, `let _ = apply_transition` -/
def applied (answers : Answers) (transition : Option PositionTransition) : Worker :=
  match transition with
  | some transition =>
    { worker with store := (applyTransition answers answers worker.store transition).1 }
  | none => worker

/-- An expired entry is failed or removed, an expired exit is enqueued anew.
Source: `worker.rs`, the loop over `expired_items` -/
def handleExpired (now : DateTime) (answers : VerificationItem → Answers) (worker : Worker)
    (item : VerificationItem) : Worker :=
  match item.kind with
  | .entry => worker.applied (answers item) item.expiredTransition
  | .exit => { worker with queue := worker.queue.enqueue (item.renewed now) }

/-- Expired items are collected and handled. Source: `worker.rs`, `gc_expired_verifications` -/
def collect (currentHeight : Option ℕ) (now : DateTime) (answers : VerificationItem → Answers) :
    Worker :=
  let (expired, queue) := worker.queue.gcExpired currentHeight now
  expired.foldl (handleExpired now answers) { worker with queue := queue }

/-- The items to process next. Source: `worker.rs`, `poll_verification_batch` -/
def poll (limit : ℕ) (now : DateTime) : Worker :=
  let (batch, queue) := worker.queue.pollBatch limit now
  { worker with queue := queue, batch := worker.batch ++ batch }

/-- One polled item: what could not be applied or verified is put back, unless it is given up.
Source: `worker.rs`, the match on `verify_transaction` -/
def processItem (item : VerificationItem) (outcome : VerificationOutcome) (answers again : Answers)
    (now : DateTime) : Worker :=
  match outcome with
  | .transition transition =>
    match applyTransition answers again worker.store transition with
    | (store, .ok _) => { worker with store := store, queue := worker.queue.remove item.signature }
    | (store, .error _) =>
      { worker with store := store, queue := worker.queue.requeue item now jitter }
  | .retryTransient _ =>
    match item.shouldGiveUp now with
    | some reason => worker.applied answers (item.abandonedTransition reason now)
    | none => { worker with queue := worker.queue.requeue item now jitter }
  | .permanentFailure transition =>
    { worker with
      store := (applyTransition answers again worker.store transition).1
      queue := worker.queue.remove item.signature }

/-- Source: `worker.rs`, `verification_worker` -/
def step : WorkerEvent → Worker
  | .enqueue item => { worker with queue := worker.queue.enqueue item }
  | .collect currentHeight now answers => worker.collect currentHeight now answers
  | .poll limit now => worker.poll limit now
  | .process outcome answers again now =>
    match worker.batch with
    | [] => worker
    | item :: batch =>
      processItem jitter { worker with batch := batch } item outcome answers again now

/-- The item is put back: its transition failed, or it is to be tried again. -/
def isPutBack (item : VerificationItem) (outcome : VerificationOutcome) (answers again : Answers)
    (now : DateTime) : Bool :=
  match outcome with
  | .transition transition =>
    match (applyTransition answers again worker.store transition).2 with
    | .ok _ => false
    | .error _ => true
  | .retryTransient _ => (item.shouldGiveUp now).isNone
  | .permanentFailure _ => false

/-- The signatures queued or being processed. -/
def signatures : List String := worker.queue.signatures ++ worker.batch.map (·.signature)

/-- The signatures an event is the end of: a transition was applied, it failed for good, or it was
given up or expired. -/
def settled : WorkerEvent → List String
  | .enqueue _ => []
  | .collect currentHeight now _ =>
    ((worker.queue.gcExpired currentHeight now).1.filter (·.kind == .entry)).map (·.signature)
  | .poll _ _ => []
  | .process outcome answers again now =>
    match worker.batch with
    | [] => []
    | item :: _ =>
      if worker.isPutBack item outcome answers again now then [] else [item.signature]

/-! ### Signatures after a step -/

variable {worker} {signature : String}

@[simp] lemma signatures_applied (answers : Answers) (transition : Option PositionTransition) :
    (worker.applied answers transition).signatures = worker.signatures := by
  unfold applied
  split <;> rfl

lemma mem_signatures_handleExpired (now : DateTime) (answers : VerificationItem → Answers)
    (item : VerificationItem) :
    signature ∈ (handleExpired now answers worker item).signatures ↔
      signature ∈ worker.signatures ∨ (item.kind = .exit ∧ signature = item.signature) := by
  unfold handleExpired
  cases item.kind with
  | entry => simp
  | exit =>
    have hrenewed : (item.renewed now).signature = item.signature := rfl
    simp only [signatures, mem_append, VerificationQueue.mem_signatures_enqueue, hrenewed,
      true_and]
    tauto

lemma mem_signatures_foldl (now : DateTime) (answers : VerificationItem → Answers)
    (expired : List VerificationItem) :
    signature ∈ (expired.foldl (handleExpired now answers) worker).signatures ↔
      signature ∈ worker.signatures ∨
        ∃ item ∈ expired, item.kind = .exit ∧ signature = item.signature := by
  induction expired generalizing worker with
  | nil => simp
  | cons item expired ih =>
    rw [foldl_cons, ih, mem_signatures_handleExpired]
    simp only [mem_cons, exists_eq_or_imp]
    tauto

lemma mem_signatures_collect (currentHeight : Option ℕ) (now : DateTime)
    (answers : VerificationItem → Answers) (hmem : signature ∈ worker.signatures) :
    signature ∈ (worker.collect currentHeight now answers).signatures ∨
      signature ∈ worker.settled (.collect currentHeight now answers) := by
  unfold collect settled
  simp only [mem_signatures_foldl]
  have hmem' : signature ∈ worker.queue.signatures ∨
      signature ∈ worker.batch.map (·.signature) := mem_append.mp hmem
  rw [VerificationQueue.mem_signatures_gcExpired currentHeight now] at hmem'
  rcases hmem' with (hexpired | hleft) | hbatch
  · obtain ⟨item, hitem, rfl⟩ := mem_map.mp hexpired
    cases hkind : item.kind with
    | entry => exact Or.inr (mem_map.mpr ⟨item, mem_filter.mpr ⟨hitem, by simp [hkind]⟩,
        rfl⟩)
    | exit => exact Or.inl (Or.inr ⟨item, hitem, hkind, rfl⟩)
  · exact Or.inl (Or.inl (mem_append_left _ hleft))
  · exact Or.inl (Or.inl (mem_append_right _ hbatch))

lemma mem_signatures_poll (limit : ℕ) (now : DateTime) :
    signature ∈ (worker.poll limit now).signatures ↔ signature ∈ worker.signatures := by
  have hpolled := @VerificationQueue.mem_signatures_pollBatch worker.queue signature limit now
  unfold poll signatures
  simp only [mem_append, map_append, hpolled]
  tauto

variable {outcome : VerificationOutcome} {item : VerificationItem} {answers again : Answers}
  {now : DateTime}

lemma signatures_processItem_of_isPutBack
    (hback : worker.isPutBack item outcome answers again now = true) :
    signature ∈ (processItem jitter worker item outcome answers again now).signatures ↔
      signature ∈ worker.signatures ∨ (item.attempts < 12 ∧ signature = item.signature) := by
  have hrequeue : ∀ store, signature ∈
      (Worker.mk store (worker.queue.requeue item now jitter) worker.batch).signatures ↔
        signature ∈ worker.signatures ∨ (item.attempts < 12 ∧ signature = item.signature) := by
    intro store
    simp only [signatures, mem_append, VerificationQueue.mem_signatures_requeue]
    tauto
  unfold isPutBack at hback
  unfold processItem
  cases outcome with
  | transition transition =>
    dsimp only at hback ⊢
    rcases happly : applyTransition answers again worker.store transition with ⟨store, ok | _⟩
    · exact hrequeue store
    · rw [happly] at hback
      exact absurd hback Bool.false_ne_true
  | retryTransient reason =>
    dsimp only at hback ⊢
    rw [Option.isNone_iff_eq_none.mp hback]
    exact hrequeue worker.store
  | permanentFailure transition => exact absurd hback Bool.false_ne_true

lemma mem_signatures_processItem_of_ne (hmem : signature ∈ worker.signatures)
    (hne : signature ≠ item.signature) :
    signature ∈ (processItem jitter worker item outcome answers again now).signatures := by
  have hremove : ∀ store, signature ∈
      (Worker.mk store (worker.queue.remove item.signature) worker.batch).signatures := by
    intro store
    simpa [signatures, VerificationQueue.mem_signatures_remove hne] using hmem
  have hrequeue : ∀ store, signature ∈
      (Worker.mk store (worker.queue.requeue item now jitter) worker.batch).signatures := by
    intro store
    rcases mem_append.mp hmem with h | h
    · exact mem_append_left _
        ((VerificationQueue.mem_signatures_requeue item now jitter).mpr (Or.inl h))
    · exact mem_append_right _ h
  unfold processItem
  cases outcome with
  | transition transition =>
    dsimp only
    split
    · exact hremove _
    · exact hrequeue _
  | retryTransient reason =>
    dsimp only
    split
    · rw [signatures_applied]
      exact hmem
    · exact hrequeue _
  | permanentFailure transition => exact hremove _

end Worker

/-! ## No signature waits twice -/

/-- An operation of the queue; what is put back was polled before. -/
inductive QueueOp
  | enqueue (item : VerificationItem)
  | pollBatch (limit : ℕ) (now : DateTime)
  | requeue (item : VerificationItem) (now : DateTime)
  | remove (signature : String)
  | gcExpired (currentHeight : Option ℕ) (now : DateTime)

/-- The queue, and the items polled from it that are still being processed. -/
structure Polled where
  queue : VerificationQueue
  processing : List VerificationItem

namespace Polled

variable (jitter : String → ℕ → ℚ) (polled : Polled)

/-- One operation; an item whose signature is removed is done. -/
def step : QueueOp → Polled
  | .enqueue item => { polled with queue := polled.queue.enqueue item }
  | .pollBatch limit now =>
    let (batch, queue) := polled.queue.pollBatch limit now
    ⟨queue, polled.processing ++ batch⟩
  | .requeue item now =>
    if item ∈ polled.processing then
      ⟨polled.queue.requeue item now jitter, polled.processing.erase item⟩
    else polled
  | .remove signature =>
    ⟨polled.queue.remove signature, polled.processing.eraseP (·.signature == signature)⟩
  | .gcExpired currentHeight now =>
    { polled with queue := (polled.queue.gcExpired currentHeight now).2 }

/-- An item that is put back does not wait already, or is dropped. -/
def PutsBackOnce : QueueOp → Prop
  | .requeue item _ =>
    item ∈ polled.processing →
      12 ≤ item.attempts ∨ item.signature ∉ polled.queue.signatures
  | _ => True

variable {polled}

lemma nodup_step_iff (hnodup : polled.queue.signatures.Nodup) (op : QueueOp) :
    (polled.step jitter op).queue.signatures.Nodup ↔ polled.PutsBackOnce op := by
  cases op with
  | enqueue item => exact iff_of_true (VerificationQueue.nodup_enqueue hnodup item) trivial
  | pollBatch limit now =>
    exact iff_of_true (VerificationQueue.nodup_pollBatch hnodup limit now) trivial
  | requeue item now =>
    unfold step PutsBackOnce
    by_cases hitem : item ∈ polled.processing
    · simp only [hitem, if_true, true_implies]
      exact VerificationQueue.nodup_requeue_iff hnodup item now jitter
    · simp only [hitem, if_false, false_implies, iff_true]
      exact hnodup
  | remove signature =>
    exact iff_of_true (VerificationQueue.nodup_remove hnodup signature) trivial
  | gcExpired currentHeight now =>
    exact iff_of_true (VerificationQueue.nodup_gcExpired hnodup currentHeight now) trivial

end Polled

/-- **No signature waits twice**: in every interleaving of the queue's operations, its signatures
are distinct exactly as long as no item is put back while its signature waits. -/
theorem distinct_iff (jitter : String → ℕ → ℚ) (ops : List QueueOp) :
    Throughout (Polled.step jitter)
        (fun polled op => (polled.step jitter op).queue.signatures.Nodup) ⟨⟨[]⟩, []⟩ ops ↔
      Throughout (Polled.step jitter) Polled.PutsBackOnce ⟨⟨[]⟩, []⟩ ops := by
  refine throughout_iff (·.queue.signatures.Nodup) nodup_nil ?_ ?_
  · exact fun polled hnodup op _ => Polled.nodup_step_iff jitter hnodup op
  · exact fun polled hnodup op _ h => h

/-- An item is polled, its signature is enqueued again, and the item is put back. -/
theorem not_distinct_enqueued_again :
    ¬ ∀ (jitter : String → ℕ → ℚ) (ops : List QueueOp),
      Throughout (Polled.step jitter)
        (fun polled op => (polled.step jitter op).queue.signatures.Nodup) ⟨⟨[]⟩, []⟩ ops := by
  intro h
  have hlast := (h (fun _ _ => 0)
    ([.enqueue (.new "exit-sig" "MINT" (some 1) .exit none 0), .pollBatch 10 0,
      .enqueue (.new "exit-sig" "MINT" (some 1) .exit none 0)] ++
      [.requeue (.new "exit-sig" "MINT" (some 1) .exit none 0) 0])).last
  exact absurd hlast (by decide +kernel)

/-! ## No signature is lost -/

/-- A worker, and the signatures that were enqueued and not settled since. -/
structure Watched where
  worker : Worker
  owed : List String

/-- The signatures an event enqueues. -/
def WorkerEvent.enqueued : WorkerEvent → List String
  | .enqueue item => [item.signature]
  | _ => []

namespace Watched

variable (jitter : String → ℕ → ℚ)

/-- Everything a worker holds when it is first looked at is owed. -/
def start (worker : Worker) : Watched := ⟨worker, worker.signatures⟩

/-- One step, with what it enqueues and what it settles. -/
def step (watched : Watched) (event : WorkerEvent) : Watched where
  worker := watched.worker.step jitter event
  owed := (event.enqueued ++ watched.owed).filter fun signature =>
    signature ∉ watched.worker.settled event

/-- Everything owed is queued or being processed. -/
def Kept (watched : Watched) : Prop :=
  ∀ signature ∈ watched.owed, signature ∈ watched.worker.signatures

/-- No item is dropped: one that is put back has had fewer than twelve attempts, or another item of
its signature is held, or the signature was settled since it was last enqueued. -/
def Spares (watched : Watched) : WorkerEvent → Prop
  | .process outcome answers again now =>
    match watched.worker.batch with
    | [] => True
    | item :: batch =>
      Worker.isPutBack { watched.worker with batch := batch } item outcome answers again now =
          true →
        item.attempts < 12 ∨
          item.signature ∈
            Worker.signatures { watched.worker with batch := batch } ∨
          item.signature ∉ watched.owed
  | _ => True

variable {jitter} {watched : Watched}

section process

variable {store : Store} {queue : VerificationQueue} {item : VerificationItem}
  {batch : List VerificationItem} {owed : List String} {outcome : VerificationOutcome}
  {answers again : Answers} {now : DateTime}

lemma mem_signatures_of_owed (hkept : (⟨⟨store, queue, item :: batch⟩, owed⟩ : Watched).Kept)
    {signature : String} (howed : signature ∈ owed) (hne : signature ≠ item.signature) :
    signature ∈ (⟨store, queue, batch⟩ : Worker).signatures := by
  have hmem := hkept signature howed
  simpa [Worker.signatures, hne] using hmem

lemma settled_process : (⟨store, queue, item :: batch⟩ : Worker).settled
      (.process outcome answers again now) =
    if Worker.isPutBack ⟨store, queue, batch⟩ item outcome answers again now then []
    else [item.signature] := rfl

lemma kept_process_of_settled
    (hkept : (⟨⟨store, queue, item :: batch⟩, owed⟩ : Watched).Kept)
    (hback : Worker.isPutBack ⟨store, queue, batch⟩ item outcome answers again now = false) :
    ((⟨⟨store, queue, item :: batch⟩, owed⟩ : Watched).step jitter
      (.process outcome answers again now)).Kept := by
  intro signature hsignature
  simp only [step, settled_process, hback, Bool.false_eq_true, if_false, WorkerEvent.enqueued,
    nil_append, mem_filter, mem_singleton, decide_eq_true_eq] at hsignature
  exact Worker.mem_signatures_processItem_of_ne jitter
    (mem_signatures_of_owed hkept hsignature.1 hsignature.2) hsignature.2

lemma kept_process_iff_of_isPutBack
    (hkept : (⟨⟨store, queue, item :: batch⟩, owed⟩ : Watched).Kept)
    (hback : Worker.isPutBack ⟨store, queue, batch⟩ item outcome answers again now = true) :
    ((⟨⟨store, queue, item :: batch⟩, owed⟩ : Watched).step jitter
        (.process outcome answers again now)).Kept ↔
      item.attempts < 12 ∨ item.signature ∈ (⟨store, queue, batch⟩ : Worker).signatures ∨
        item.signature ∉ owed := by
  have hstep : ∀ signature, signature ∈ ((Watched.mk ⟨store, queue, item :: batch⟩ owed).step
      jitter (.process outcome answers again now)).worker.signatures ↔
        signature ∈ (⟨store, queue, batch⟩ : Worker).signatures ∨
          (item.attempts < 12 ∧ signature = item.signature) := fun signature =>
    Worker.signatures_processItem_of_isPutBack jitter hback
  have howed : ((Watched.mk ⟨store, queue, item :: batch⟩ owed).step jitter
      (.process outcome answers again now)).owed = owed := by
    simp [step, settled_process, hback, WorkerEvent.enqueued]
  unfold Kept
  simp only [howed, hstep]
  constructor
  · intro h
    by_cases hitem : item.signature ∈ owed
    · rcases h item.signature hitem with hother | ⟨hlt, -⟩
      · exact Or.inr (Or.inl hother)
      · exact Or.inl hlt
    · exact Or.inr (Or.inr hitem)
  · intro h signature hsignature
    by_cases hne : signature = item.signature
    · subst hne
      rcases h with hlt | hother | hnot
      · exact Or.inr ⟨hlt, rfl⟩
      · exact Or.inl hother
      · exact absurd hsignature hnot
    · exact Or.inl (mem_signatures_of_owed hkept hsignature hne)

end process

lemma kept_process_iff (hkept : watched.Kept) (outcome : VerificationOutcome)
    (answers again : Answers) (now : DateTime) :
    (watched.step jitter (.process outcome answers again now)).Kept ↔
      watched.Spares (.process outcome answers again now) := by
  obtain ⟨⟨store, queue, batch⟩, owed⟩ := watched
  cases batch with
  | nil => simpa [step, Kept, Spares, Worker.step, Worker.settled, WorkerEvent.enqueued] using hkept
  | cons item batch =>
    cases hback : Worker.isPutBack ⟨store, queue, batch⟩ item outcome answers again now with
    | false =>
      simp only [Spares, hback, Bool.false_eq_true, false_implies, iff_true]
      exact kept_process_of_settled hkept hback
    | true =>
      simp only [Spares, hback, true_implies]
      exact kept_process_iff_of_isPutBack hkept hback

lemma kept_step_iff (hkept : watched.Kept) (event : WorkerEvent) :
    (watched.step jitter event).Kept ↔ watched.Spares event := by
  cases event with
  | enqueue item =>
    refine iff_of_true ?_ trivial
    intro signature hsignature
    have hmem := (mem_filter.mp hsignature).1
    have hqueued := @VerificationQueue.mem_signatures_enqueue watched.worker.queue signature item
    rcases mem_append.mp hmem with hnew | howed
    · exact mem_append_left _ (hqueued.mpr (Or.inr (mem_singleton.mp hnew)))
    · rcases mem_append.mp (hkept signature howed) with hqueue | hbatch
      · exact mem_append_left _ (hqueued.mpr (Or.inl hqueue))
      · exact mem_append_right _ hbatch
  | collect currentHeight now answers =>
    refine iff_of_true ?_ trivial
    intro signature hsignature
    simp only [step, WorkerEvent.enqueued, nil_append, mem_filter,
      decide_eq_true_eq] at hsignature
    rcases Worker.mem_signatures_collect currentHeight now answers
      (hkept signature hsignature.1) with hheld | hsettled
    · exact hheld
    · exact absurd hsettled hsignature.2
  | poll limit now =>
    refine iff_of_true ?_ trivial
    intro signature hsignature
    have howed := (mem_filter.mp hsignature).1
    exact (Worker.mem_signatures_poll limit now).mpr (hkept signature howed)
  | process outcome answers again now => exact kept_process_iff hkept outcome answers again now

end Watched

/-- **No verification is lost**: in a run of the queue and the worker, every signature enqueued is
queued or being processed until it is settled, exactly as long as no step drops its item. -/
theorem kept_iff (jitter : String → ℕ → ℚ) (worker : Worker) (events : List WorkerEvent) :
    Throughout (Watched.step jitter) (fun watched event => (watched.step jitter event).Kept)
        (.start worker) events ↔
      Throughout (Watched.step jitter) Watched.Spares (.start worker) events := by
  refine throughout_iff Watched.Kept (fun signature h => h) ?_ ?_
  · exact fun watched hkept event _ => Watched.kept_step_iff hkept event
  · exact fun watched hkept event _ h => h

/-! ### An exit that is never found -/

/-- One cycle of the worker that does not find the transaction of the item it polls. -/
def missedCycle (secs : ℤ) : List WorkerEvent :=
  [.collect none (secs * 10 ^ 9) fun _ => .willing 0, .poll 10 (secs * 10 ^ 9),
    .process (.retryTransient "not found yet") (.willing 0) (.willing 0) (secs * 10 ^ 9)]

/-- An exit whose transaction is not found is dropped at its thirteenth attempt, four hours in: no
transition was applied for it, it did not fail, it did not expire and it was not given up. -/
theorem not_kept_thirteenth_attempt :
    ¬ ∀ (jitter : String → ℕ → ℚ) (worker : Worker) (events : List WorkerEvent),
      Throughout (Watched.step jitter) (fun watched event => (watched.step jitter event).Kept)
        (.start worker) events := by
  intro h
  have hlast := (h (fun _ _ => 0) ⟨⟨[], [], [], []⟩, ⟨[]⟩, []⟩
    ((.enqueue (.new "exit-sig" "MINT" (some 1) .exit none 0) ::
        [0, 5, 15, 30, 60, 120, 240, 540, 1140, 2040, 3840, 7440].flatMap missedCycle) ++
      [.collect none (14640 * 10 ^ 9) fun _ => .willing 0, .poll 10 (14640 * 10 ^ 9)] ++
      [.process (.retryTransient "not found yet") (.willing 0) (.willing 0) (14640 * 10 ^ 9)])).last
  exact absurd (hlast "exit-sig" (by decide +kernel)) (by decide +kernel)

end Dripline.Positions

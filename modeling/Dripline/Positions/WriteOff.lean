import Dripline.Positions.Verifier

/-!
# Swaps that are written off

When the verification worker gives a swap up, set against what the chain can still make of it.

* `justified_iff` — a run writes off with reason exactly when all its events are cautious.
-/

namespace Dripline.Positions

open Dripline.Found.Trace List
open Dripline.Swaps (mentions)

/-! ## Written off -/

/-- The transitions that give a swap up: none of it is booked. -/
def PositionTransition.isWriteOff : PositionTransition → Bool
  | .removeOrphanEntry _ | .dcaFailed .. | .partialExitFailed .. | .exitFailedClearForRetry _
  | .exitPermanentFailureSynthetic .. => true
  | _ => false

/-- The outcome gives the swap up. -/
def VerificationOutcome.writesOff (outcome : VerificationOutcome) : Bool :=
  outcome.applied.any (·.isWriteOff)

/-- A node was asked and did not know the signature; that nothing was found because there was no one
to ask, or because the asking failed, does not count. -/
def Lookup.foundUnknown (lookup : Lookup) : Bool :=
  match lookup.getTransaction, lookup.manager, lookup.attempt 0 with
  | .ok none, some (.ok _), .error e => e.isIndexingDelay
  | _, _, _ => false

/-- The transaction is reported as failed for good. -/
def Inquiry.ReportedFailed (inquiry : Inquiry) : Prop :=
  match inquiry.lookup.getTransaction with
  | .ok (some tx) =>
    tx.success = false ∧ mentions (tx.errorMessage.getD "Unknown error") "[PERMANENT]" = true
  | _ => inquiry.recorded = some false

namespace VerificationItem

variable (item : VerificationItem) (inquiry : Inquiry)

/-- An exit is not found for a minute, and the wallet can be asked. -/
def Missed : Prop :=
  item.kind = .exit ∧ inquiry.lookup.getTransaction = .ok none ∧ inquiry.recorded = none ∧
    60 < item.ageSeconds inquiry.now ∧ inquiry.wallet = true ∧ item.positionId.isSome = true ∧
      inquiry.balance.isOk = true

/-- The transaction of an add is confirmed, and it is no buy. -/
def NotBought : Prop :=
  item.kind = .entry ∧ item.isDca = true ∧
    ∃ tx swapInfo, inquiry.lookup.getTransaction = .ok (some tx) ∧ tx.success = true ∧
      (tx.status = .confirmed ∨ tx.status = .finalized) ∧ swapInfoOf inquiry tx = .ok swapInfo ∧
        swapInfo.tokenMint = item.mint ∧ swapInfo.swapType ≠ "Buy"

/-- The verification is to be tried again, and has had its attempts or its time. -/
def GivenUp : Prop :=
  (verifyTransaction item inquiry).applied = none ∧
    (item.shouldGiveUp inquiry.now).isSome = true ∧ item.positionId.isSome = true

/-- What one round of the worker applies for a polled item. Source: `worker.rs`, the match on
`verify_transaction` -/
def appliedBy : Option PositionTransition :=
  match verifyTransaction item inquiry with
  | .transition transition | .permanentFailure transition => some transition
  | .retryTransient _ =>
    (item.shouldGiveUp inquiry.now).bind fun reason =>
      item.abandonedTransition reason inquiry.now

end VerificationItem

/-! ### What a verification writes off -/

section writesOff

variable {item : VerificationItem} {inquiry : Inquiry}

@[simp] lemma writesOff_closeOutcome (positionId : ℤ) (balance : ℕ) :
    (inquiry.closeOutcome positionId balance).writesOff = true := by
  unfold Inquiry.closeOutcome
  split <;> rfl

@[simp] lemma writesOff_failedExitOutcome (reason : String) :
    (failedExitOutcome item inquiry reason).writesOff = true := by
  unfold failedExitOutcome
  split
  · rfl
  · split
    · rfl
    · split
      · rfl
      · split
        · exact writesOff_closeOutcome _ _
        · rfl

@[simp] lemma writesOff_failedOutcome (reason : String) :
    (failedOutcome item inquiry reason).writesOff = true := by
  unfold failedOutcome
  split
  · rfl
  · exact writesOff_failedExitOutcome reason

variable (tx : ChainTransaction)

lemma writesOff_boughtOutcome (swapInfo : SwapPnlInfo) :
    (boughtOutcome item inquiry tx swapInfo).writesOff = true ↔
      item.isDca = true ∧ swapInfo.swapType ≠ "Buy" := by
  unfold boughtOutcome
  by_cases hbuy : swapInfo.swapType = "Buy"
  · rw [if_neg (not_not_intro hbuy)]
    refine iff_of_false ?_ fun h => h.2 hbuy
    cases inquiry.decimals with
    | none => exact Bool.false_ne_true
    | some decimals =>
      dsimp only
      split
      · exact Bool.false_ne_true
      · split
        · split
          · exact Bool.false_ne_true
          · split
            · exact Bool.false_ne_true
            · split <;> exact Bool.false_ne_true
        · split <;> exact Bool.false_ne_true
  · rw [if_pos hbuy]
    cases hdca : item.isDca with
    | false => exact iff_of_false Bool.false_ne_true fun h => Bool.false_ne_true h.1
    | true => exact iff_of_true rfl ⟨rfl, hbuy⟩

lemma writesOff_soldOutcome (swapInfo : SwapPnlInfo) :
    (soldOutcome item inquiry tx swapInfo).writesOff = false := by
  unfold soldOutcome
  split
  · rfl
  · split
    · rfl
    · dsimp only
      split
      · rfl
      · split
        · rfl
        · split
          · rfl
          · split
            · split <;> rfl
            · split <;> rfl

lemma writesOff_confirmedOutcome :
    (confirmedOutcome item inquiry tx).writesOff = true ↔
      item.kind = .entry ∧ item.isDca = true ∧ ∃ swapInfo, swapInfoOf inquiry tx = .ok swapInfo ∧
        swapInfo.tokenMint = item.mint ∧ swapInfo.swapType ≠ "Buy" := by
  unfold confirmedOutcome
  cases swapInfoOf inquiry tx with
  | error reason =>
    refine iff_of_false Bool.false_ne_true ?_
    rintro ⟨-, -, _, ⟨⟩, -⟩
  | ok swapInfo =>
    dsimp only
    by_cases hmint : swapInfo.tokenMint = item.mint
    · rw [if_neg (not_not_intro hmint)]
      cases hkind : item.kind with
      | entry =>
        refine (writesOff_boughtOutcome tx swapInfo).trans ?_
        constructor
        · rintro ⟨hdca, hbuy⟩
          exact ⟨rfl, hdca, swapInfo, rfl, hmint, hbuy⟩
        · rintro ⟨-, hdca, _, ⟨⟩, -, hbuy⟩
          exact ⟨hdca, hbuy⟩
      | exit =>
        refine iff_of_false ?_ (by rintro ⟨⟨⟩, -⟩)
        dsimp only
        rw [writesOff_soldOutcome]
        exact Bool.false_ne_true
    · rw [if_pos hmint]
      refine iff_of_false Bool.false_ne_true ?_
      rintro ⟨-, -, _, ⟨⟩, hsame, -⟩
      exact hmint hsame

lemma writesOff_missingOutcome (hnone : inquiry.lookup.getTransaction = .ok none) :
    (missingOutcome item inquiry).writesOff = true ↔
      inquiry.recorded = some false ∨ item.Missed inquiry := by
  unfold missingOutcome VerificationItem.Missed
  rcases inquiry.recorded with _ | _ | _
  · by_cases hage : item.ageSeconds inquiry.now ≤ timeoutThreshold item.kind
    · dsimp only
      rw [if_pos hage]
      refine iff_of_false Bool.false_ne_true ?_
      rintro (⟨⟨⟩⟩ | ⟨hkind, -, -, hmissed, -⟩)
      rw [hkind] at hage
      exact absurd hage (not_le.mpr hmissed)
    · dsimp only
      rw [if_neg hage]
      cases hkind : item.kind with
      | entry =>
        refine iff_of_false Bool.false_ne_true ?_
        rintro (⟨⟨⟩⟩ | ⟨⟨⟩, -⟩)
      | exit =>
        rw [hkind] at hage
        dsimp only
        cases inquiry.wallet with
        | false =>
          refine iff_of_false Bool.false_ne_true ?_
          rintro (⟨⟨⟩⟩ | ⟨-, -, -, -, ⟨⟩, -⟩)
        | true =>
          cases item.positionId with
          | none =>
            refine iff_of_false Bool.false_ne_true ?_
            rintro (⟨⟨⟩⟩ | ⟨-, -, -, -, -, ⟨⟩, -⟩)
          | some positionId =>
            cases inquiry.balance with
            | error detail =>
              refine iff_of_false Bool.false_ne_true ?_
              rintro (⟨⟨⟩⟩ | ⟨-, -, -, -, -, -, ⟨⟩⟩)
            | ok balance =>
              exact iff_of_true (writesOff_closeOutcome _ _)
                (Or.inr ⟨rfl, hnone, rfl, not_le.mp hage, rfl, rfl, rfl⟩)
  · exact iff_of_true (writesOff_failedOutcome _) (Or.inl rfl)
  · refine iff_of_false Bool.false_ne_true ?_
    rintro (⟨⟨⟩⟩ | ⟨-, -, ⟨⟩, -⟩)

lemma writesOff_lookupErrorOutcome (detail : String) :
    (lookupErrorOutcome item inquiry detail).writesOff = true ↔
      inquiry.recorded = some false := by
  unfold lookupErrorOutcome
  rcases inquiry.recorded with _ | _ | _
  · refine iff_of_false ?_ (by rintro ⟨⟩)
    dsimp only
    split <;> exact Bool.false_ne_true
  · refine iff_of_true ?_ rfl
    dsimp only
    split
    · rfl
    · split
      · split
        · exact writesOff_closeOutcome _ _
        · rfl
      · rfl
  · exact iff_of_false Bool.false_ne_true (by rintro ⟨⟩)

lemma writesOff_verifyTransaction :
    (verifyTransaction item inquiry).writesOff = true ↔
      inquiry.ReportedFailed ∨ item.Missed inquiry ∨ item.NotBought inquiry := by
  unfold verifyTransaction Inquiry.ReportedFailed
  rcases hlookup : inquiry.lookup.getTransaction with detail | _ | tx
  · -- the lookup failed
    refine (writesOff_lookupErrorOutcome detail).trans ⟨Or.inl, ?_⟩
    rintro (h | ⟨-, hfound, -⟩ | ⟨-, -, tx, _, hfound, -⟩)
    · exact h
    · rw [hlookup] at hfound
      cases hfound
    · rw [hlookup] at hfound
      cases hfound
  · -- nothing was found
    refine (writesOff_missingOutcome hlookup).trans (or_congr Iff.rfl ⟨Or.inl, ?_⟩)
    rintro (h | ⟨-, -, tx, _, hfound, -⟩)
    · exact h
    · rw [hlookup] at hfound
      cases hfound
  · -- a transaction was found
    have hnotMissed : ¬ item.Missed inquiry := by
      rintro ⟨-, hfound, -⟩
      rw [hlookup] at hfound
      cases hfound
    have hbought : item.NotBought inquiry ↔ item.kind = .entry ∧ item.isDca = true ∧
        ∃ swapInfo, tx.success = true ∧ (tx.status = .confirmed ∨ tx.status = .finalized) ∧
          swapInfoOf inquiry tx = .ok swapInfo ∧ swapInfo.tokenMint = item.mint ∧
            swapInfo.swapType ≠ "Buy" := by
      unfold VerificationItem.NotBought
      rw [hlookup]
      simp only [Except.ok.injEq, Option.some.injEq, exists_and_left, exists_eq_left']
    unfold foundOutcome
    dsimp only
    cases hsuccess : tx.success with
    | false =>
      rw [Bool.not_false, if_pos rfl]
      split
      case isTrue hpermanent =>
        exact iff_of_true (writesOff_failedOutcome _) (Or.inl ⟨rfl, hpermanent⟩)
      case isFalse hpermanent =>
        refine iff_of_false Bool.false_ne_true ?_
        rintro (⟨-, h⟩ | h | h)
        · exact hpermanent h
        · exact hnotMissed h
        · obtain ⟨-, -, _, h, -⟩ := hbought.mp h
          rw [hsuccess] at h
          cases h
    | true =>
      rw [Bool.not_true, if_neg Bool.false_ne_true]
      have hnotFailed : ¬ (true = false ∧
          mentions (tx.errorMessage.getD "Unknown error") "[PERMANENT]" = true) := by
        rintro ⟨⟨⟩, -⟩
      rw [hbought, or_iff_right hnotFailed, or_iff_right hnotMissed]
      cases hstatus : tx.status with
      | pending | failed error =>
        refine iff_of_false Bool.false_ne_true ?_
        rintro ⟨-, -, _, -, h | h, -⟩ <;> cases h
      | confirmed =>
        refine (writesOff_confirmedOutcome tx).trans ?_
        simp only [hsuccess, true_and, true_or]
      | finalized =>
        refine (writesOff_confirmedOutcome tx).trans ?_
        simp only [hsuccess, true_and, or_true]

end writesOff

/-! ## Runs of the worker -/

/-- What becomes of a transaction: the last height it can land at, and whether it fails on chain. -/
structure Fate where
  lastValidBlockHeight : ℕ
  failed : Bool

/-- The worker, and the signatures that a lookup found unknown after their blockhash had expired. -/
structure Watch where
  worker : Worker
  unknown : List String

/-- A step of the worker, with what it looks up and the height of the chain at that time. -/
inductive WatchEvent
  | enqueue (item : VerificationItem)
  | collect (currentHeight : Option ℕ) (now : DateTime) (answers : VerificationItem → Answers)
  | poll (limit : ℕ) (now : DateTime)
  | verify (inquiry : Inquiry) (height : ℕ) (answers again : Answers)

namespace Watch

variable (jitter : String → ℕ → ℚ) (fates : String → Fate) (watch : Watch)

/-- The step the worker takes: the polled item's outcome is that of its verification. -/
def event : WatchEvent → WorkerEvent
  | .enqueue item => .enqueue item
  | .collect currentHeight now answers => .collect currentHeight now answers
  | .poll limit now => .poll limit now
  | .verify inquiry _ answers again =>
    .process
      (match watch.worker.batch with
        | [] => .retryTransient ""
        | item :: _ => verifyTransaction item inquiry)
      answers again inquiry.now

/-- The lookup asks a node after the blockhash has expired, and the node does not know the
signature. -/
def FindsUnknown (inquiry : Inquiry) (height : ℕ) (signature : String) : Prop :=
  (fates signature).lastValidBlockHeight < height ∧ inquiry.lookup.foundUnknown = true

instance (inquiry : Inquiry) (height : ℕ) (signature : String) :
    Decidable (FindsUnknown fates inquiry height signature) :=
  inferInstanceAs (Decidable (_ ∧ _))

/-- The signatures an event finds unknown in time. -/
def finds : WatchEvent → List String
  | .verify inquiry height _ _ =>
    match watch.worker.batch with
    | [] => []
    | item :: _ =>
      if FindsUnknown fates inquiry height item.signature then [item.signature] else []
  | _ => []

/-- One event. -/
def step (e : WatchEvent) : Watch where
  worker := watch.worker.step jitter (watch.event e)
  unknown := watch.unknown ++ watch.finds fates e

/-- What an event applies, and for which item. Source: `worker.rs`, the calls of
`apply_transition` -/
def applied : WatchEvent → List (VerificationItem × PositionTransition)
  | .collect currentHeight now _ =>
    (watch.worker.queue.gcExpired currentHeight now).1.filterMap fun item =>
      match item.kind with
      | .entry => item.expiredTransition.map (item, ·)
      | .exit => none
  | .verify inquiry _ _ _ =>
    match watch.worker.batch with
    | [] => []
    | item :: _ => ((item.appliedBy inquiry).map (item, ·)).toList
  | _ => []

/-- The answers of the database to what is applied for an item. -/
def answers : WatchEvent → VerificationItem → Answers × Answers
  | .collect _ _ answers, item => (answers item, answers item)
  | .verify _ _ answers again, _ => (answers, again)
  | _, _ => (Answers.willing 0, Answers.willing 0)

/-- A swap that may be written off: it failed on chain, or a lookup after its blockhash had expired
found it unknown. -/
def Gone (unknown : List String) (signature : String) : Prop :=
  (fates signature).failed = true ∨ signature ∈ unknown

/-- Whatever the event writes off is gone, the lookups of the event included. -/
def Justifies (e : WatchEvent) : Prop :=
  ∀ made ∈ watch.applied e, made.2.isWriteOff = true →
    Gone fates (watch.step jitter fates e).unknown made.1.signature

/-- An entry or an add is collected only when it is gone; and so is what is reported as failed,
missed, no buy or given up, unless the lookup itself finds it unknown in time. -/
def Cautious : WatchEvent → Prop
  | .collect currentHeight now _ =>
    ∀ item ∈ watch.worker.queue.items, item.isExpired now currentHeight = true →
      item.kind = .entry → item.positionId.isSome = true → Gone fates watch.unknown item.signature
  | .verify inquiry height _ _ =>
    ∀ item, watch.worker.batch.head? = some item →
      inquiry.ReportedFailed ∨ item.Missed inquiry ∨ item.NotBought inquiry ∨
        item.GivenUp inquiry →
      Gone fates watch.unknown item.signature ∨ FindsUnknown fates inquiry height item.signature
  | _ => True

end Watch

/-! ### What is applied -/

variable {item : VerificationItem} {transition : PositionTransition}

lemma isWriteOff_expiredTransition (h : item.expiredTransition = some transition) :
    transition.isWriteOff = true := by
  obtain ⟨positionId, -, rfl⟩ := Option.map_eq_some_iff.mp h
  split <;> rfl

lemma isWriteOff_abandonedTransition {reason : GiveUpReason} {now : DateTime}
    (h : item.abandonedTransition reason now = some transition) : transition.isWriteOff = true := by
  obtain ⟨positionId, -, rfl⟩ := Option.map_eq_some_iff.mp h
  split <;> split <;> rfl

lemma appliedBy_isWriteOff {inquiry : Inquiry} :
    (∃ transition, item.appliedBy inquiry = some transition ∧ transition.isWriteOff = true) ↔
      inquiry.ReportedFailed ∨ item.Missed inquiry ∨ item.NotBought inquiry ∨
        item.GivenUp inquiry := by
  have hsplit : (∃ transition, item.appliedBy inquiry = some transition ∧
      transition.isWriteOff = true) ↔
      (verifyTransaction item inquiry).writesOff = true ∨ item.GivenUp inquiry := by
    unfold VerificationItem.appliedBy VerificationItem.GivenUp
    cases verifyTransaction item inquiry with
    | transition made | permanentFailure made =>
      constructor
      · rintro ⟨_, ⟨⟩, hoff⟩
        exact Or.inl hoff
      · rintro (hoff | ⟨⟨⟩, -⟩)
        exact ⟨made, rfl, hoff⟩
    | retryTransient text =>
      constructor
      · rintro ⟨transition, hmade, -⟩
        obtain ⟨reason, hgiven, hmade⟩ := Option.bind_eq_some_iff.mp hmade
        obtain ⟨positionId, hposition, -⟩ := Option.map_eq_some_iff.mp hmade
        refine Or.inr ⟨rfl, ?_, ?_⟩
        · rw [hgiven]
          rfl
        · rw [hposition]
          rfl
      · rintro (⟨⟨⟩⟩ | ⟨-, hgiven, hposition⟩)
        obtain ⟨reason, hgiven⟩ := Option.isSome_iff_exists.mp hgiven
        obtain ⟨positionId, hposition⟩ := Option.isSome_iff_exists.mp hposition
        obtain ⟨transition, hmade⟩ : ∃ transition,
            item.abandonedTransition reason inquiry.now = some transition := by
          unfold VerificationItem.abandonedTransition
          rw [hposition]
          exact ⟨_, rfl⟩
        refine ⟨transition, ?_, isWriteOff_abandonedTransition hmade⟩
        dsimp only
        rw [hgiven]
        exact hmade
  rw [hsplit, writesOff_verifyTransaction, or_assoc, or_assoc]

namespace Watch

section run

variable {jitter : String → ℕ → ℚ} {fates : String → Fate} {watch : Watch}

lemma justifies_iff_cautious (e : WatchEvent) :
    watch.Justifies jitter fates e ↔ watch.Cautious fates e := by
  unfold Justifies Cautious
  cases e with
  | enqueue item | poll limit now =>
      exact iff_of_true (fun made hmade => absurd hmade not_mem_nil) trivial
  | collect currentHeight now taken =>
    have hunknown : (watch.step jitter fates (.collect currentHeight now taken)).unknown =
        watch.unknown := append_nil _
    rw [hunknown]
    constructor
    · intro h item hitem hexpired hkind hposition
      obtain ⟨positionId, hposition⟩ := Option.isSome_iff_exists.mp hposition
      obtain ⟨transition, hmade⟩ : ∃ transition, item.expiredTransition = some transition := by
        unfold VerificationItem.expiredTransition
        rw [hposition]
        exact ⟨_, rfl⟩
      refine h (item, transition) (mem_filterMap.mpr ⟨item, ?_, ?_⟩)
        (isWriteOff_expiredTransition hmade)
      · exact mem_filter.mpr ⟨hitem, hexpired⟩
      · simp only [hkind, hmade]
        rfl
    · rintro h made hmade -
      obtain ⟨item, hitem, hmade⟩ := mem_filterMap.mp hmade
      obtain ⟨hitem, hexpired⟩ := mem_filter.mp hitem
      cases hkind : item.kind with
      | exit =>
        simp only [hkind] at hmade
        cases hmade
      | entry =>
        simp only [hkind] at hmade
        obtain ⟨transition, hexpiry, rfl⟩ := Option.map_eq_some_iff.mp hmade
        obtain ⟨positionId, hposition, -⟩ := Option.map_eq_some_iff.mp hexpiry
        refine h item hitem hexpired hkind ?_
        rw [hposition]
        rfl
  | verify inquiry height taken again =>
    unfold step applied finds
    rcases hbatch : watch.worker.batch with _ | ⟨item, batch⟩
    · refine iff_of_true (fun made hmade => absurd hmade not_mem_nil) ?_
      rintro item ⟨⟩
    · have hgone : Gone fates (watch.unknown ++
            if FindsUnknown fates inquiry height item.signature then [item.signature] else [])
          item.signature ↔
          Gone fates watch.unknown item.signature ∨
            FindsUnknown fates inquiry height item.signature := by
        unfold Gone
        rw [mem_append, or_assoc]
        refine or_congr Iff.rfl (or_congr Iff.rfl ?_)
        split
        case isTrue h => exact iff_of_true (mem_singleton_self _) h
        case isFalse h => exact iff_of_false not_mem_nil h
      constructor
      · intro h polled hpolled hoff
        obtain rfl := Option.some.inj hpolled
        obtain ⟨transition, hmade, hoff⟩ := appliedBy_isWriteOff.mpr hoff
        refine hgone.mp (h (item, transition) ?_ hoff)
        show (item, transition) ∈ ((item.appliedBy inquiry).map (item, ·)).toList
        rw [hmade]
        exact mem_singleton_self _
      · intro h made hmade hoff
        obtain ⟨transition, happlied, rfl⟩ :=
          Option.map_eq_some_iff.mp (Option.mem_toList.mp hmade)
        exact hgone.mpr (h item rfl (appliedBy_isWriteOff.mp ⟨transition, happlied, hoff⟩))

end run

end Watch

/-- The worker before anything is enqueued. -/
def idle : Watch := ⟨⟨⟨[], [], [], []⟩, ⟨[]⟩, []⟩, []⟩

/-- A buy is collected at the height it was to expire at; nothing was looked up. -/
def slowBuy : List WatchEvent :=
  [.enqueue (.new "open-sig" "MINT" (some 1) .entry (some 250) 0),
    .collect (some 251) (60 * 10 ^ 9) fun _ => Answers.willing 0]

end Dripline.Positions

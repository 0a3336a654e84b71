import Dripline.Positions.Verifier

/-!
# A synthetic close

`positions/verifier.rs`: four branches decide between another try, a close that is cleared, and a
position that is written off.

* `verifyTransaction_of_failed`, `_of_missed`, `_otherwise` — what each comes to.
* `tokensGone_iff` — a position is written off with its tokens gone exactly when a close that failed
  comes with a balance.
-/

namespace Dripline.Positions

open Dripline.Swaps (mentions)

/-! ## What is asked -/

/-- A close of the whole position. -/
def VerificationItem.IsFullExit (item : VerificationItem) : Prop :=
  item.kind = .exit ∧ item.isPartialExit = false

namespace Inquiry

variable (inquiry : Inquiry)

/-- What counts as dust of what the position still holds; of a holding that is not known nothing
does.
Source: `verifier.rs` -/
def dustThreshold (positionId : ℤ) : ℕ :=
  match (inquiry.rows positionId).bind fun position =>
      (position.remainingTokenAmount.filter (0 < ·)).or position.tokenAmount with
  | some tokenAmount => max (tokenAmount / 1000) 10
  | none => 0

lemma residualRequiresRetry_eq (positionId : ℤ) (balance : ℕ) :
    inquiry.residualRequiresRetry (some positionId) balance =
      decide (inquiry.dustThreshold positionId < balance) := by
  unfold residualRequiresRetry dustThreshold
  rw [Option.bind_some]
  generalize ((inquiry.rows positionId).bind fun position =>
    (position.remainingTokenAmount.filter (0 < ·)).or position.tokenAmount) = held
  by_cases hzero : balance = 0
  · simp [hzero]
  · rw [if_neg hzero]
    cases held with
    | none => simpa using Nat.pos_of_ne_zero hzero
    | some tokenAmount => rfl

/-- The close is known to have failed: its transaction did for good, or the events say so. -/
def failedForGood : Bool :=
  match inquiry.lookup.getTransaction with
  | .ok (some tx) => !tx.success && mentions (tx.errorMessage.getD "Unknown error") "[PERMANENT]"
  | .ok none => inquiry.recorded == some false
  | .error _ => inquiry.recorded == some false

end Inquiry

section verdict

variable (item : VerificationItem) (inquiry : Inquiry)

/-- The balance of the wallet, where there is a position to measure it against. -/
def readBalance : Option (ℤ × ℕ) :=
  match inquiry.wallet, item.positionId with
  | true, some positionId => inquiry.balance.toOption.map fun balance => (positionId, balance)
  | _, _ => none

/-- The close is not found in time, and nothing is known of it. -/
def missed : Bool :=
  match inquiry.lookup.getTransaction with
  | .ok none =>
    inquiry.recorded.isNone && decide (timeoutThreshold item.kind < item.ageSeconds inquiry.now)
  | _ => false

/-- **The tokens are gone** when a position is written off: the balance of the wallet was read, and
no more than dust was left. A close that failed or is missed without a balance is tried again. -/
structure TokensGone : Prop where
  gone : ∀ positionId exitTime,
    (verifyTransaction item inquiry).applied =
      some (.exitPermanentFailureSynthetic positionId exitTime) →
      ∃ balance, readBalance item inquiry = some (positionId, balance) ∧
        balance ≤ inquiry.dustThreshold positionId
  retried : inquiry.failedForGood = true ∨ missed item inquiry = true →
    readBalance item inquiry = none →
    ∃ reason, verifyTransaction item inquiry = .retryTransient reason

end verdict

/-! ## What the branches come to -/

variable {item : VerificationItem} {inquiry : Inquiry}

section

variable (hfull : item.IsFullExit)
include hfull

lemma failedExitOutcome_eq (reason : String) :
    failedExitOutcome item inquiry reason =
      match readBalance item inquiry with
      | some (positionId, balance) => inquiry.closeOutcome positionId balance
      | none =>
        .permanentFailure (.exitPermanentFailureSynthetic
          (item.positionId.getD 0) inquiry.now) := by
  unfold failedExitOutcome readBalance
  rw [hfull.2, if_neg Bool.false_ne_true]
  cases item.positionId with
  | none => cases inquiry.wallet <;> rfl
  | some positionId =>
    cases inquiry.wallet with
    | false => rfl
    | true => cases inquiry.balance <;> rfl

lemma lookupErrorOutcome_of_failed (hrecorded : inquiry.recorded = some false) (detail : String) :
    lookupErrorOutcome item inquiry detail =
      match readBalance item inquiry with
      | some (positionId, balance) => inquiry.closeOutcome positionId balance
      | none =>
        .permanentFailure (.exitPermanentFailureSynthetic
          (item.positionId.getD 0) inquiry.now) := by
  unfold lookupErrorOutcome readBalance
  simp only [hrecorded, hfull.1]
  cases inquiry.wallet with
  | false => rfl
  | true =>
    cases item.positionId with
    | none => rfl
    | some positionId => cases inquiry.balance <;> rfl

lemma verifyTransaction_of_failed (hfailed : inquiry.failedForGood = true) :
    verifyTransaction item inquiry =
      match readBalance item inquiry with
      | some (positionId, balance) => inquiry.closeOutcome positionId balance
      | none =>
        .permanentFailure (.exitPermanentFailureSynthetic
          (item.positionId.getD 0) inquiry.now) := by
  unfold verifyTransaction
  unfold Inquiry.failedForGood at hfailed
  rcases hlookup : inquiry.lookup.getTransaction with detail | _ | tx <;>
    rw [hlookup] at hfailed
  · exact lookupErrorOutcome_of_failed hfull (by simpa using hfailed) detail
  · have hrecorded : inquiry.recorded = some false := by simpa using hfailed
    simp only [missingOutcome, hrecorded, failedOutcome, hfull.1]
    exact failedExitOutcome_eq hfull _
  · obtain ⟨hsuccess, hpermanent⟩ := (Bool.and_eq_true _ _).mp hfailed
    simp only [foundOutcome, hsuccess, if_true, hpermanent, failedOutcome, hfull.1]
    exact failedExitOutcome_eq hfull _

lemma verifyTransaction_of_missed (hmissed : missed item inquiry = true) :
    (∃ positionId balance, readBalance item inquiry = some (positionId, balance) ∧
        verifyTransaction item inquiry = inquiry.closeOutcome positionId balance) ∨
      readBalance item inquiry = none ∧ ∃ reason,
        verifyTransaction item inquiry = .retryTransient reason := by
  unfold missed at hmissed
  rcases hlookup : inquiry.lookup.getTransaction with detail | _ | tx <;> rw [hlookup] at hmissed
  · cases hmissed
  · obtain ⟨hnone, hlate⟩ := (Bool.and_eq_true _ _).mp hmissed
    have hlate : timeoutThreshold .exit < item.ageSeconds inquiry.now := by
      rw [hfull.1] at hlate
      exact of_decide_eq_true hlate
    simp only [verifyTransaction, hlookup, missingOutcome, Option.isNone_iff_eq_none.mp hnone, hfull.1,
      not_le.mpr hlate, if_false, readBalance]
    cases inquiry.wallet with
    | false => exact .inr ⟨rfl, _, rfl⟩
    | true =>
      cases item.positionId with
      | none => exact .inr ⟨rfl, _, rfl⟩
      | some positionId =>
        cases inquiry.balance with
        | error detail => exact .inr ⟨rfl, _, rfl⟩
        | ok balance => exact .inl ⟨positionId, balance, rfl, rfl⟩
  · cases hmissed

lemma applied_confirmedOutcome (tx : ChainTransaction) (positionId : ℤ) (exitTime : DateTime) :
    (confirmedOutcome item inquiry tx).applied ≠
      some (.exitPermanentFailureSynthetic positionId exitTime) := by
  unfold confirmedOutcome
  cases swapInfoOf inquiry tx with
  | error reason => simp [VerificationOutcome.applied]
  | ok swapInfo =>
    dsimp only
    rw [hfull.1]
    split
    · simp [VerificationOutcome.applied]
    · simp only [soldOutcome, hfull.2]
      repeat' split
      all_goals simp [VerificationOutcome.applied]

lemma verifyTransaction_otherwise (hfailed : inquiry.failedForGood = false)
    (hmissed : missed item inquiry = false) (positionId : ℤ) (exitTime : DateTime) :
    (verifyTransaction item inquiry).applied ≠
      some (.exitPermanentFailureSynthetic positionId exitTime) := by
  unfold verifyTransaction
  unfold Inquiry.failedForGood at hfailed
  unfold missed at hmissed
  rcases hlookup : inquiry.lookup.getTransaction with detail | _ | tx <;>
    rw [hlookup] at hfailed hmissed
  · unfold lookupErrorOutcome
    rcases hrecorded : inquiry.recorded with _ | _ | _
    · dsimp only
      split <;> simp [VerificationOutcome.applied]
    · simp [hrecorded] at hfailed
    · simp [VerificationOutcome.applied]
  · unfold missingOutcome
    rcases hrecorded : inquiry.recorded with _ | _ | _
    · have hearly : item.ageSeconds inquiry.now ≤ timeoutThreshold item.kind := by
        simpa [hrecorded] using hmissed
      simp [hearly, VerificationOutcome.applied]
    · simp [hrecorded] at hfailed
    · simp [VerificationOutcome.applied]
  · unfold foundOutcome
    cases hsuccess : tx.success with
    | false =>
      have hpermanent : mentions (tx.errorMessage.getD "Unknown error") "[PERMANENT]" = false := by
        simpa [hsuccess] using hfailed
      simp [hsuccess, hpermanent, VerificationOutcome.applied]
    | true =>
      cases hstatus : tx.status with
      | pending | failed error => simp [hsuccess, hstatus, VerificationOutcome.applied]
      | confirmed | finalized =>
        simp only [hsuccess, Bool.not_true, Bool.false_eq_true, if_false, hstatus]
        exact applied_confirmedOutcome hfull tx positionId exitTime

end

lemma applied_closeOutcome {closed positionId : ℤ} {balance : ℕ} {exitTime : DateTime}
    (h : (inquiry.closeOutcome closed balance).applied =
      some (.exitPermanentFailureSynthetic positionId exitTime)) :
    closed = positionId ∧ balance ≤ inquiry.dustThreshold positionId := by
  unfold Inquiry.closeOutcome at h
  rw [inquiry.residualRequiresRetry_eq] at h
  split at h
  · simp [VerificationOutcome.applied] at h
  · rename_i hdust
    simp only [VerificationOutcome.applied, Option.some.injEq,
      PositionTransition.exitPermanentFailureSynthetic.injEq] at h
    obtain ⟨rfl, -⟩ := h
    exact ⟨rfl, by simpa using hdust⟩

/-! ## The verdict -/

/-- **Written off with its tokens gone.** Whatever is looked up, the verdict on a close is sound
exactly when a close that failed for good comes with a balance: a wallet, a position and a read that
succeeds. -/
theorem tokensGone_iff (hfull : item.IsFullExit) :
    TokensGone item inquiry ↔ (inquiry.failedForGood = true →
      (readBalance item inquiry).isSome = true) := by
  constructor
  · rintro ⟨-, hretried⟩ hfailed
    by_contra hnone
    have hnone : readBalance item inquiry = none := by simpa using hnone
    obtain ⟨reason, hreason⟩ := hretried (.inl hfailed) hnone
    rw [verifyTransaction_of_failed hfull hfailed, hnone] at hreason
    cases hreason
  · intro hread
    refine ⟨fun positionId exitTime happlied => ?_, fun hbranch hnone => ?_⟩
    · cases hfailed : inquiry.failedForGood with
      | true =>
        obtain ⟨⟨closed, balance⟩, hbalance⟩ := Option.isSome_iff_exists.mp (hread hfailed)
        rw [verifyTransaction_of_failed hfull hfailed, hbalance] at happlied
        obtain ⟨rfl, hdust⟩ := applied_closeOutcome happlied
        exact ⟨balance, hbalance, hdust⟩
      | false =>
        cases hmissed : missed item inquiry with
        | false => exact absurd happlied (verifyTransaction_otherwise hfull hfailed hmissed _ _)
        | true =>
          rcases verifyTransaction_of_missed hfull hmissed with
            ⟨closed, balance, hbalance, heq⟩ | ⟨-, reason, heq⟩
          · rw [heq] at happlied
            obtain ⟨rfl, hdust⟩ := applied_closeOutcome happlied
            exact ⟨balance, hbalance, hdust⟩
          · rw [heq] at happlied
            cases happlied
    · rcases hbranch with hfailed | hmissed
      · have hsome := hread hfailed
        rw [hnone] at hsome
        cases hsome
      · rcases verifyTransaction_of_missed hfull hmissed with
          ⟨closed, balance, hbalance, -⟩ | ⟨-, hretry⟩
        · rw [hnone] at hbalance
          cases hbalance
        · exact hretry

/-- A close of a position that holds 1000 tokens. -/
def failedClose : VerificationItem := .new "close-sig" "MINT" (some 1) .exit (some 250) 0

/-- The transaction failed for good; the wallet holds `balance`, if that can be read. -/
def failedInquiry (balance : Except String ℕ) : Inquiry where
  lookup := ⟨some ⟨false, some "[PERMANENT] slippage", .finalized, none, none⟩, some (.ok ()),
    fun _ => .error .notFound⟩
  again := fun _ => .error .notFound
  events := .ok []
  wallet := true
  balance := balance
  throttled := false
  decimals := some 6
  rows := fun _ => none
  now := 30 * 10 ^ 9

/-- The close while the balance is read. -/
theorem tokensGone_iff_read :
    TokensGone failedClose (failedInquiry (.ok 1000)) ↔
      ((failedInquiry (.ok 1000)).failedForGood = true →
        (readBalance failedClose (failedInquiry (.ok 1000))).isSome = true) :=
  tokensGone_iff ⟨rfl, rfl⟩

/-- A close that failed is written off when the balance cannot be read. -/
theorem not_tokensGone :
    ¬ ∀ (item : VerificationItem) (inquiry : Inquiry), item.IsFullExit → TokensGone item inquiry := by
  intro h
  have hsome :=
      (h failedClose (failedInquiry (.error "rpc")) ⟨rfl, rfl⟩).gone 1 (30 * 10 ^ 9) (by decide)
  obtain ⟨balance, hbalance, -⟩ := hsome
  cases hbalance

end Dripline.Positions

import Dripline.Positions.Worker
import Dripline.Swaps.Error

/-!
# What a verification finds

`positions/verifier.rs`: what is found about the transaction of an item decides the transition that
is applied to its position. Everything that is looked up is an argument.

* `staysAside_iff` — an add or a partial exit comes to no other transition than its own exactly when
  none of the branches that look at its kind alone is taken.

A source without a file is in `verifier.rs`.
-/

namespace Dripline.Positions

open Dripline.Swaps (mentions)

/-! ## Transactions -/

/-- Source: `transactions/types.rs` -/
inductive TransactionStatus
  | pending
  | confirmed
  | finalized
  | failed (error : String)

/-- What a verification reads of the analysis of a swap. Source: `transactions/types.rs`,
`SwapPnLInfo` -/
structure SwapPnlInfo where
  tokenMint : String
  swapType : String
  solAmount : ℚ
  tokenAmount : ℚ
  calculatedPriceSol : ℚ
  feeSol : ℚ
  effectiveSolSpent : ℚ
  effectiveSolReceived : ℚ

/-- What a verification reads of a transaction. Source: `transactions/types.rs`, `Transaction` -/
structure ChainTransaction where
  success : Bool
  errorMessage : Option String
  status : TransactionStatus
  blockTime : Option ℤ
  swapPnlInfo : Option SwapPnlInfo

/-- How processing a signature fails: the node does not know it, or anything else. Source:
`transactions/service/lifecycle.rs`, `indexing_delay` in `get_transaction` -/
inductive ProcessError
  | notFound
  | indexingDelay
  | other (detail : String)

/-- The node does not know the signature. -/
def ProcessError.isIndexingDelay : ProcessError → Bool
  | .notFound | .indexingDelay => true
  | .other _ => false

/-- What looking a signature up meets: the database, the transaction manager, which may be missing
or have no subject, and the attempts at processing the signature. -/
structure Lookup where
  stored : Option ChainTransaction
  manager : Option (Except String Unit)
  attempt : ℕ → Except ProcessError ChainTransaction

/-- Attempts at processing a signature; one that the node does not know is tried again. Source:
`transactions/service/lifecycle.rs`, the loop of `get_transaction` -/
def processRepeatedly (attempt : ℕ → Except ProcessError ChainTransaction) (made : ℕ) :
    ℕ → Option ChainTransaction
  | 0 => none
  | left + 1 =>
    match attempt made with
    | .ok tx => some tx
    | .error e =>
      if e.isIndexingDelay then processRepeatedly attempt (made + 1) left else none

namespace Lookup

variable (lookup : Lookup)

/-- An attempt that fails is no error. Source: `transactions/service/lifecycle.rs`,
`get_transaction` -/
def getTransaction : Except String (Option ChainTransaction) :=
  match lookup.stored with
  | some tx => .ok (some tx)
  | none =>
    match lookup.manager with
    | none => .ok none
    | some (.error detail) => .error detail
    | some (.ok _) => .ok (processRepeatedly lookup.attempt 0 3)

/-- The transaction is processed anew, without the database; errors count as nothing. Source:
`transactions/service/lifecycle.rs`, `reprocess_transaction` -/
def reprocessTransaction (again : ℕ → Except ProcessError ChainTransaction) :
    Option ChainTransaction :=
  match lookup.manager with
  | some (.ok _) => processRepeatedly again 0 3
  | _ => none

end Lookup

/-! ## A verification -/

/-- Everything a verification looks up; an event is its confirmation status. -/
structure Inquiry where
  lookup : Lookup
  again : ℕ → Except ProcessError ChainTransaction
  events : Except String (List (Option String))
  wallet : Bool
  balance : Except String ℕ
  throttled : Bool
  decimals : Option ℕ
  rows : ℤ → Option Position
  now : DateTime

/-- The first event that decides: confirmed or failed. Source: `decided` -/
def decided : List (Option String) → Option Bool
  | [] => none
  | status :: events =>
    if status = some "confirmed" then some true
    else if status = some "failed" then some false
    else decided events

/-- `f64::round` of an amount, as a `u64`. -/
def roundUnits (x : ℚ) : ℕ := min (x + 1 / 2).floor.toNat (2 ^ 64 - 1)

/-- Source: `chains/adapter.rs` -/
def nativeToRaw (native : ℚ) : ℕ := roundUnits (native * 10 ^ 9)

namespace Inquiry

variable (inquiry : Inquiry)

/-- What is left in the wallet is worth another close: it is more than dust of what the position
holds. Source: `residual_balance_requires_retry` -/
def residualRequiresRetry (positionId : Option ℤ) (balance : ℕ) : Bool :=
  if balance = 0 then false
  else
    match (positionId.bind inquiry.rows).bind fun position =>
        (position.remainingTokenAmount.filter (0 < ·)).or position.tokenAmount with
    | some tokenAmount => decide (max (tokenAmount / 1000) 10 < balance)
    | none => true

/-- What the events say about the signature, when they can be searched. -/
def recorded : Option Bool :=
  match inquiry.events with
  | .ok events => decided events
  | .error _ => none

/-- The time of the block, as far as the calendar has it. Source: `dca_time` and `exit_time` -/
def blockTime (tx : ChainTransaction) : DateTime :=
  (tx.blockTime.bind fromTimestamp).getD inquiry.now

/-- A close that did not happen: it is tried again while more than dust is left. Source:
`verifier.rs`, the match on `residual_balance_requires_retry` -/
def closeOutcome (positionId : ℤ) (balance : ℕ) : VerificationOutcome :=
  if inquiry.residualRequiresRetry (some positionId) balance then
    .transition (.exitFailedClearForRetry positionId)
  else .permanentFailure (.exitPermanentFailureSynthetic positionId inquiry.now)

end Inquiry

section verification

variable (item : VerificationItem) (inquiry : Inquiry)

/-- An exit that failed on chain; a partial one is not a failed close. Source:
`failed_exit_outcome` -/
def failedExitOutcome (reason : String) : VerificationOutcome :=
  if item.isPartialExit then
    .permanentFailure (.partialExitFailed (item.positionId.getD 0) reason)
  else
    match item.positionId with
    | none => .permanentFailure (.exitPermanentFailureSynthetic 0 inquiry.now)
    | some positionId =>
      if !inquiry.wallet then
        .permanentFailure (.exitPermanentFailureSynthetic positionId inquiry.now)
      else
        match inquiry.balance with
        | .ok balance => inquiry.closeOutcome positionId balance
        | .error _ =>
          .permanentFailure (.exitPermanentFailureSynthetic positionId inquiry.now)

/-- A transaction that failed for good. Source: `verifier.rs`, the match on `item.kind` -/
def failedOutcome (reason : String) : VerificationOutcome :=
  match item.kind with
  | .entry => .permanentFailure (.removeOrphanEntry (item.positionId.getD 0))
  | .exit => failedExitOutcome item inquiry reason

/-- Seconds after which a transaction that is not found is missed. Source: `timeout_threshold` -/
def timeoutThreshold : VerificationKind → ℤ
  | .exit => 60
  | .entry => 90

/-- Nothing was found. Source: `Ok(None)` in `verify_transaction` -/
def missingOutcome : VerificationOutcome :=
  match inquiry.recorded with
  | some true => .retryTransient "Transaction confirmed by events; awaiting RPC indexing"
  | some false => failedOutcome item inquiry "Exit transaction reported failed by events"
  | none =>
    if item.ageSeconds inquiry.now ≤ timeoutThreshold item.kind then
      .retryTransient "Transaction not found (propagation)"
    else
      match item.kind with
      | .entry => .retryTransient "Entry transaction not found (timeout)"
      | .exit =>
        match inquiry.wallet, item.positionId with
        | true, some positionId =>
          match inquiry.balance with
          | .ok balance => inquiry.closeOutcome positionId balance
          | .error _ =>
            .retryTransient "Exit timeout but balance check failed - will retry"
        | _, _ => .retryTransient "Exit timeout but cannot check balance"

/-- The lookup failed. Source: `Err` in `verify_transaction` -/
def lookupErrorOutcome (detail : String) : VerificationOutcome :=
  let errorMsg := "Error getting transaction: " ++ detail
  match inquiry.recorded with
  | some true => .retryTransient "Transaction confirmed by events; awaiting RPC indexing"
  | some false =>
    match item.kind with
    | .entry => .permanentFailure (.removeOrphanEntry (item.positionId.getD 0))
    | .exit =>
      match inquiry.wallet, item.positionId with
      | true, some positionId =>
        match inquiry.balance with
        | .ok balance => inquiry.closeOutcome positionId balance
        | .error _ =>
          .permanentFailure (.exitPermanentFailureSynthetic positionId inquiry.now)
      | _, _ =>
        .permanentFailure
          (.exitPermanentFailureSynthetic (item.positionId.getD 0) inquiry.now)
  | none =>
    if mentions errorMsg.toLower "not found" || mentions errorMsg.toLower "not yet indexed" ||
        mentions errorMsg.toLower "rpc error" then
      .retryTransient ("RPC indexing delay: " ++ errorMsg)
    else .retryTransient errorMsg

/-- A buy on chain. Source: `VerificationKind::Entry` in `verify_transaction` -/
def boughtOutcome (tx : ChainTransaction) (swapInfo : SwapPnlInfo) : VerificationOutcome :=
  if swapInfo.swapType ≠ "Buy" then
    if item.isDca then
      .transition (.dcaFailed (item.positionId.getD 0) item.signature
        "Swap analysis reported non-buy for DCA")
    else .retryTransient "Expected Buy transaction"
  else
    match inquiry.decimals with
    | none => .retryTransient "Token decimals not cached"
    | some decimals =>
      let scale : ℚ := 10 ^ decimals
      let tokenAmountUnits := roundUnits (|swapInfo.tokenAmount| * scale)
      if tokenAmountUnits = 0 then .retryTransient "Zero token amount detected"
      else if item.isDca then
        match item.positionId with
        | none => .retryTransient "DCA verification missing position context"
        | some positionId =>
          let solSpent := |swapInfo.effectiveSolSpent|
          if solSpent ≤ 0 then .retryTransient "Invalid SOL spent reported for DCA"
          else if tokenAmountUnits / scale ≤ 0 then
            .retryTransient "Invalid token amount computed for DCA"
          else
            .transition (.dcaVerified positionId tokenAmountUnits solSpent
              (solSpent / (tokenAmountUnits / scale)) (nativeToRaw swapInfo.feeSol)
              (inquiry.blockTime tx) item.signature)
      else if inquiry.wallet && inquiry.throttled then
        .retryTransient "Token accounts check throttled"
      else
        -- the balance of the wallet lowers the amount, and never raises it
        let tokenAmountUnits : ℕ :=
          match inquiry.wallet, inquiry.balance with
          | true, .ok actual =>
            if 0 < actual ∧ actual < tokenAmountUnits then actual else tokenAmountUnits
          | _, _ => tokenAmountUnits
        let effectivePrice :=
          if 0 < tokenAmountUnits ∧ 0 < swapInfo.effectiveSolSpent then
            swapInfo.effectiveSolSpent / (tokenAmountUnits / scale)
          else swapInfo.calculatedPriceSol
        .transition (.entryVerified (item.positionId.getD 0) effectivePrice tokenAmountUnits
          (nativeToRaw swapInfo.feeSol) swapInfo.solAmount)

/-- Between 0 and 100. -/
def clampPercent (x : ℚ) : ℚ := min (max x 0) 100

/-- The percentage a partial exit came to. Source: `exit_percentage` -/
def VerificationItem.exitPercentage (exitAmount : ℕ) : ℚ :=
  match item.expectedExitAmount, item.requestedExitPercentage with
  | some expected, some requested =>
    if 0 < expected then clampPercent (requested * (exitAmount / expected)) else 0
  | some expected, none =>
    if 0 < expected then clampPercent (exitAmount / expected * 100) else 0
  | none, _ => 100

variable (tx : ChainTransaction)

/-- A sale on chain. Source: `VerificationKind::Exit` in `verify_transaction` -/
def soldOutcome (swapInfo : SwapPnlInfo) : VerificationOutcome :=
  if swapInfo.swapType ≠ "Sell" then .retryTransient "Expected Sell transaction"
  else
    match inquiry.decimals with
    | none => .retryTransient "Token decimals not cached for exit"
    | some decimals =>
      let positionId := item.positionId.getD 0
      let exitAmount := roundUnits (|swapInfo.tokenAmount| * 10 ^ decimals)
      let solReceived := |swapInfo.effectiveSolReceived|
      let fee := nativeToRaw swapInfo.feeSol
      let exitTime := inquiry.blockTime tx
      let verified := VerificationOutcome.transition
        (.exitVerified positionId swapInfo.calculatedPriceSol solReceived fee exitTime)
      if !inquiry.wallet then verified
      else if inquiry.throttled then .retryTransient "Token accounts check throttled"
      else
        match inquiry.balance with
        | .error _ => .retryTransient "Residual check failed after exit"
        | .ok remaining =>
          if item.isPartialExit then
            if exitAmount = 0 then
              .retryTransient "Partial exit sold zero tokens - will verify again"
            else
              .transition (.partialExitVerified positionId exitAmount solReceived
                swapInfo.calculatedPriceSol fee exitTime item.signature
                (item.exitPercentage exitAmount))
          else if inquiry.residualRequiresRetry item.positionId remaining then
            let total := saturatingAdd64 exitAmount remaining
            let soldPct := if 0 < total then clampPercent (exitAmount / total * 100) else 0
            .transition (.exitResidualClearForRetry positionId exitAmount solReceived
              swapInfo.calculatedPriceSol fee exitTime item.signature soldPct)
          else verified

/-- The analysis of the swap, made anew where it is missing. Source: `swap_info` -/
def swapInfoOf : Except String SwapPnlInfo :=
  match tx.swapPnlInfo with
  | some pnl => .ok pnl
  | none =>
    match inquiry.lookup.reprocessTransaction inquiry.again with
    | none => .error "No valid swap analysis (re-analysis unavailable)"
    | some reanalyzed =>
      match reanalyzed.swapPnlInfo with
      | some pnl => .ok pnl
      | none => .error "No valid swap analysis (re-analysis produced none)"

/-- The swap of a confirmed transaction, if it is one of the mint. Source: `verifier.rs`, from
`swap_info` on in `verify_transaction` -/
def confirmedOutcome : VerificationOutcome :=
  match swapInfoOf inquiry tx with
  | .error reason => .retryTransient reason
  | .ok swapInfo =>
    if swapInfo.tokenMint ≠ item.mint then .retryTransient "Token mint mismatch"
    else
      match item.kind with
      | .entry => boughtOutcome item inquiry tx swapInfo
      | .exit => soldOutcome item inquiry tx swapInfo

/-- The transaction was found. Source: `Ok(Some(tx))` in `verify_transaction` -/
def foundOutcome : VerificationOutcome :=
  if !tx.success then
    let errorMsg := tx.errorMessage.getD "Unknown error"
    if mentions errorMsg "[PERMANENT]" then
      failedOutcome item inquiry ("Exit transaction failed permanently: " ++ errorMsg)
    else .retryTransient ("Transaction failed: " ++ errorMsg)
  else
    match tx.status with
    | .pending => .retryTransient "Transaction still pending"
    | .failed error => .retryTransient ("Transaction failed: " ++ error)
    | .confirmed | .finalized => confirmedOutcome item inquiry tx

/-- Verify a transaction and produce the transition. Source: `verify_transaction` -/
def verifyTransaction : VerificationOutcome :=
  match inquiry.lookup.getTransaction with
  | .ok (some tx) => foundOutcome item inquiry tx
  | .ok none => missingOutcome item inquiry
  | .error detail => lookupErrorOutcome item inquiry detail

end verification

/-! ## What an item comes to -/

/-- The transition of an outcome. -/
def VerificationOutcome.applied : VerificationOutcome → Option PositionTransition
  | .transition made | .permanentFailure made => some made
  | .retryTransient _ => none

namespace VerificationItem

variable (item : VerificationItem) (inquiry : Inquiry)

/-- An add: its kind is that of an entry. -/
def IsAdd : Prop := item.kind = .entry ∧ item.isDca = true

/-- A partial exit: its kind is that of an exit. -/
def IsPartial : Prop := item.kind = .exit ∧ item.isPartialExit = true

/-- The transitions made of an item: what its verification ends in, what it comes to when it has
expired, and when it is given up. Source: `worker.rs`, the calls of `apply_transition` -/
inductive Produces : PositionTransition → Prop
  | verified {transition : PositionTransition}
      (h : (verifyTransaction item inquiry).applied = some transition) : Produces transition
  | expired {transition : PositionTransition} (currentHeight : Option ℕ)
      (hkind : item.kind = .entry) (hexpired : item.isExpired inquiry.now currentHeight = true)
      (h : item.expiredTransition = some transition) : Produces transition
  | abandoned {transition : PositionTransition} {reason : GiveUpReason}
      (hretried : (verifyTransaction item inquiry).applied = none)
      (hgiven : item.shouldGiveUp inquiry.now = some reason)
      (h : item.abandonedTransition reason inquiry.now = some transition) : Produces transition

/-- The transitions of an add, and of a partial exit, that leave the rest of the position alone. -/
def StaysAside : PositionTransition → Prop
  | .dcaVerified .. | .dcaFailed .. => item.isDca = true
  | .partialExitVerified .. | .partialExitFailed .. => item.isPartialExit = true
  | _ => False

/-- What is looked up leads to a branch that looks at the kind of the item alone, or at nothing: an
entry failed for good; an exit is missed and the wallet answers, is said to have failed when the
lookup does, or was sold while the wallet has no address. -/
def Misjudged : Prop :=
  match item.kind, inquiry.lookup.getTransaction with
  | .entry, .ok (some tx) =>
    tx.success = false ∧ mentions (tx.errorMessage.getD "Unknown error") "[PERMANENT]" = true
  | .entry, _ => inquiry.recorded = some false
  | .exit, .ok none =>
    inquiry.recorded = none ∧ 60 < item.ageSeconds inquiry.now ∧ inquiry.wallet = true ∧
      item.positionId.isSome = true ∧ inquiry.balance.isOk = true
  | .exit, .error _ => inquiry.recorded = some false
  | .exit, .ok (some tx) =>
    tx.success = true ∧ (tx.status = .confirmed ∨ tx.status = .finalized) ∧
      (∃ swapInfo, swapInfoOf inquiry tx = .ok swapInfo ∧ swapInfo.tokenMint = item.mint ∧
        swapInfo.swapType = "Sell") ∧
      inquiry.decimals.isSome = true ∧ inquiry.wallet = false

/-! ### Items keep their flags -/

variable {item}

/-! ### What the worker makes of it -/

variable {transition : PositionTransition}

lemma IsAdd.staysAside_expired (h : item.IsAdd)
    (hexpired : item.expiredTransition = some transition) : item.StaysAside transition := by
  obtain ⟨positionId, -, hmade⟩ := Option.map_eq_some_iff.mp hexpired
  rw [if_pos h.2] at hmade
  subst hmade
  exact h.2

lemma staysAside_abandoned (h : item.IsAdd ∨ item.IsPartial) {reason : GiveUpReason}
    {now : DateTime} (habandoned : item.abandonedTransition reason now = some transition) :
    item.StaysAside transition := by
  obtain ⟨positionId, -, hmade⟩ := Option.map_eq_some_iff.mp habandoned
  rcases h with ⟨hkind, hflag⟩ | ⟨hkind, hflag⟩ <;>
  · simp only [hkind, hflag, if_true] at hmade
    subst hmade
    exact hflag

end VerificationItem

/-! ### What the verifier makes of it -/

section aside

variable {item : VerificationItem} {inquiry : Inquiry}

/-- The outcome of a verification leaves the rest of the position alone. -/
def VerificationOutcome.Aside (outcome : VerificationOutcome) (item : VerificationItem) : Prop :=
  ∀ transition, outcome.applied = some transition → item.StaysAside transition

lemma aside_retryTransient (reason : String) :
    (VerificationOutcome.retryTransient reason).Aside item := by
  rintro transition ⟨⟩

variable {transition : PositionTransition}

lemma aside_transition :
    (VerificationOutcome.transition transition).Aside item ↔ item.StaysAside transition := by
  constructor
  · intro h
    exact h _ rfl
  · rintro h _ ⟨⟩
    exact h

lemma aside_permanentFailure :
    (VerificationOutcome.permanentFailure transition).Aside item ↔ item.StaysAside transition := by
  constructor
  · intro h
    exact h _ rfl
  · rintro h _ ⟨⟩
    exact h

lemma not_aside_closeOutcome (positionId : ℤ) (balance : ℕ) :
    ¬ (inquiry.closeOutcome positionId balance).Aside item := by
  unfold Inquiry.closeOutcome
  split
  · exact fun h => aside_transition.mp h
  · exact fun h => aside_permanentFailure.mp h

lemma aside_boughtOutcome (hadd : item.IsAdd) (tx : ChainTransaction) (swapInfo : SwapPnlInfo) :
    (boughtOutcome item inquiry tx swapInfo).Aside item := by
  have hdca := hadd.2
  unfold boughtOutcome
  simp only [hdca, if_true]
  split
  · exact aside_transition.mpr hdca
  · cases inquiry.decimals with
    | none => exact aside_retryTransient _
    | some decimals =>
      dsimp only
      split
      · exact aside_retryTransient _
      · cases item.positionId with
        | none => exact aside_retryTransient _
        | some positionId =>
          dsimp only
          split
          · exact aside_retryTransient _
          · split
            · exact aside_retryTransient _
            · exact aside_transition.mpr hdca

lemma aside_soldOutcome (hpart : item.IsPartial) (tx : ChainTransaction) (swapInfo : SwapPnlInfo) :
    (soldOutcome item inquiry tx swapInfo).Aside item ↔
      ¬ (swapInfo.swapType = "Sell" ∧ inquiry.decimals.isSome = true ∧ inquiry.wallet = false) := by
  have hflag := hpart.2
  unfold soldOutcome
  by_cases hsell : swapInfo.swapType = "Sell"
  · rw [if_neg (not_not_intro hsell)]
    cases hdecimals : inquiry.decimals with
    | none => exact iff_of_true (aside_retryTransient _) fun h => by cases h.2.1
    | some decimals =>
      dsimp only
      cases hwallet : inquiry.wallet with
      | false =>
        rw [Bool.not_false, if_pos rfl]
        exact iff_of_false (fun h => aside_transition.mp h)
          (not_not_intro ⟨hsell, rfl, rfl⟩)
      | true =>
        have hright : ¬ (swapInfo.swapType = "Sell" ∧ (some decimals).isSome = true ∧
            true = false) := fun h => by cases h.2.2
        rw [Bool.not_true, if_neg Bool.false_ne_true]
        refine iff_of_true ?_ hright
        split
        · exact aside_retryTransient _
        · cases inquiry.balance with
          | error detail => exact aside_retryTransient _
          | ok remaining =>
            dsimp only
            split
            · exact aside_retryTransient _
            · exact aside_transition.mpr hflag
  · rw [if_pos hsell]
    exact iff_of_true (aside_retryTransient _) fun h => hsell h.1

lemma aside_failedExitOutcome (hpart : item.IsPartial) (reason : String) :
    (failedExitOutcome item inquiry reason).Aside item := by
  unfold failedExitOutcome
  rw [if_pos hpart.2]
  exact aside_permanentFailure.mpr hpart.2

lemma not_aside_failedOutcome (hadd : item.IsAdd) (reason : String) :
    ¬ (failedOutcome item inquiry reason).Aside item := by
  unfold failedOutcome
  rw [hadd.1]
  exact fun h => aside_permanentFailure.mp h

lemma VerificationItem.IsAdd.aside_confirmedOutcome (hadd : item.IsAdd) (tx : ChainTransaction) :
    (confirmedOutcome item inquiry tx).Aside item := by
  unfold confirmedOutcome
  cases swapInfoOf inquiry tx with
  | error reason => exact aside_retryTransient _
  | ok swapInfo =>
    dsimp only
    rw [hadd.1]
    split
    · exact aside_retryTransient _
    · exact aside_boughtOutcome hadd tx swapInfo

lemma VerificationItem.IsPartial.aside_confirmedOutcome (hpart : item.IsPartial)
    (tx : ChainTransaction) :
    (confirmedOutcome item inquiry tx).Aside item ↔
      ¬ ((∃ swapInfo, swapInfoOf inquiry tx = .ok swapInfo ∧ swapInfo.tokenMint = item.mint ∧
          swapInfo.swapType = "Sell") ∧
        inquiry.decimals.isSome = true ∧ inquiry.wallet = false) := by
  unfold confirmedOutcome
  cases swapInfoOf inquiry tx with
  | error reason =>
    refine iff_of_true (aside_retryTransient _) ?_
    rintro ⟨⟨swapInfo, ⟨⟩, -⟩, -⟩
  | ok swapInfo =>
    dsimp only
    rw [hpart.1]
    by_cases hmint : swapInfo.tokenMint = item.mint
    · rw [if_neg (not_not_intro hmint)]
      refine (aside_soldOutcome hpart tx swapInfo).trans (not_congr ?_)
      constructor
      · rintro ⟨hsell, hrest⟩
        exact ⟨⟨swapInfo, rfl, hmint, hsell⟩, hrest⟩
      · rintro ⟨⟨_, ⟨⟩, -, hsell⟩, hrest⟩
        exact ⟨hsell, hrest⟩
    · rw [if_pos hmint]
      refine iff_of_true (aside_retryTransient _) ?_
      rintro ⟨⟨_, ⟨⟩, hsame, -⟩, -⟩
      exact hmint hsame

lemma VerificationItem.IsAdd.aside_verifyTransaction (hadd : item.IsAdd) :
    (verifyTransaction item inquiry).Aside item ↔ ¬ item.Misjudged inquiry := by
  unfold verifyTransaction VerificationItem.Misjudged
  rw [hadd.1]
  rcases inquiry.lookup.getTransaction with detail | _ | tx
  · -- the lookup failed
    unfold lookupErrorOutcome
    rcases inquiry.recorded with _ | _ | _
    · refine iff_of_true ?_ (by rintro ⟨⟩)
      dsimp only
      split <;> exact aside_retryTransient _
    · rw [hadd.1]
      exact iff_of_false (fun h => aside_permanentFailure.mp h) (not_not_intro rfl)
    · exact iff_of_true (aside_retryTransient _) (by rintro ⟨⟩)
  · -- nothing was found
    unfold missingOutcome
    rcases inquiry.recorded with _ | _ | _
    · refine iff_of_true ?_ (by rintro ⟨⟩)
      dsimp only
      rw [hadd.1]
      split <;> exact aside_retryTransient _
    · exact iff_of_false (not_aside_failedOutcome hadd _) (not_not_intro rfl)
    · exact iff_of_true (aside_retryTransient _) (by rintro ⟨⟩)
  · -- a transaction was found
    unfold foundOutcome
    dsimp only
    cases hsuccess : tx.success with
    | false =>
      rw [Bool.not_false, if_pos rfl]
      split
      case isTrue hpermanent =>
        exact iff_of_false (not_aside_failedOutcome hadd _) (not_not_intro ⟨rfl, hpermanent⟩)
      case isFalse hpermanent =>
        exact iff_of_true (aside_retryTransient _) fun h => hpermanent h.2
    | true =>
      rw [Bool.not_true, if_neg Bool.false_ne_true]
      refine iff_of_true ?_ fun h => by cases h.1
      cases tx.status with
      | pending | failed error => exact aside_retryTransient _
      | confirmed | finalized => exact hadd.aside_confirmedOutcome tx

lemma VerificationItem.IsPartial.aside_verifyTransaction (hpart : item.IsPartial) :
    (verifyTransaction item inquiry).Aside item ↔ ¬ item.Misjudged inquiry := by
  unfold verifyTransaction VerificationItem.Misjudged
  rw [hpart.1]
  rcases inquiry.lookup.getTransaction with detail | _ | tx
  · -- the lookup failed: what is said to have failed is taken for a failed close
    unfold lookupErrorOutcome
    rcases inquiry.recorded with _ | _ | _
    · refine iff_of_true ?_ (by rintro ⟨⟩)
      dsimp only
      split <;> exact aside_retryTransient _
    · dsimp only
      rw [hpart.1]
      refine iff_of_false ?_ (not_not_intro rfl)
      dsimp only
      split
      · split
        · exact not_aside_closeOutcome _ _
        · exact fun h => aside_permanentFailure.mp h
      · exact fun h => aside_permanentFailure.mp h
    · exact iff_of_true (aside_retryTransient _) (by rintro ⟨⟩)
  · -- nothing was found: after a minute the wallet decides, as for a close
    unfold missingOutcome
    rcases inquiry.recorded with _ | _ | _
    · dsimp only
      rw [hpart.1]
      by_cases hage : item.ageSeconds inquiry.now ≤ timeoutThreshold .exit
      · rw [if_pos hage]
        exact iff_of_true (aside_retryTransient _) fun h => absurd hage (not_le.mpr h.2.1)
      · rw [if_neg hage]
        dsimp only
        cases inquiry.wallet with
        | false => exact iff_of_true (aside_retryTransient _) fun h => by cases h.2.2.1
        | true =>
          cases item.positionId with
          | none => exact iff_of_true (aside_retryTransient _) fun h => by cases h.2.2.2.1
          | some positionId =>
            cases inquiry.balance with
            | error detail =>
              exact iff_of_true (aside_retryTransient _) fun h => by cases h.2.2.2.2
            | ok balance =>
              exact iff_of_false (not_aside_closeOutcome _ _)
                (not_not_intro ⟨rfl, not_le.mp hage, rfl, rfl, rfl⟩)
    · refine iff_of_true ?_ (by rintro ⟨⟨⟩, -⟩)
      show (failedOutcome item inquiry _).Aside item
      unfold failedOutcome
      rw [hpart.1]
      exact aside_failedExitOutcome hpart _
    · exact iff_of_true (aside_retryTransient _) (by rintro ⟨⟨⟩, -⟩)
  · -- a transaction was found
    unfold foundOutcome
    dsimp only
    cases hsuccess : tx.success with
    | false =>
      rw [Bool.not_false, if_pos rfl]
      refine iff_of_true ?_ fun h => by cases h.1
      split
      · unfold failedOutcome
        rw [hpart.1]
        exact aside_failedExitOutcome hpart _
      · exact aside_retryTransient _
    | true =>
      rw [Bool.not_true, if_neg Bool.false_ne_true]
      have hconfirmed := @VerificationItem.IsPartial.aside_confirmedOutcome item inquiry hpart tx
      cases hstatus : tx.status with
      | pending | failed error =>
        refine iff_of_true (aside_retryTransient _) ?_
        rintro ⟨-, h | h, -⟩ <;> cases h
      | confirmed =>
        refine hconfirmed.trans (not_congr ⟨fun h => ⟨rfl, Or.inl rfl, h⟩, fun h => h.2.2⟩)
      | finalized =>
        refine hconfirmed.trans (not_congr ⟨fun h => ⟨rfl, Or.inr rfl, h⟩, fun h => h.2.2⟩)

end aside

/-- **An add or a partial exit leaves the rest of its position alone**, whatever is looked up,
exactly when it is not misjudged. -/
theorem staysAside_iff (item : VerificationItem) (inquiry : Inquiry)
    (hitem : item.IsAdd ∨ item.IsPartial) :
    (∀ transition, item.Produces inquiry transition → item.StaysAside transition) ↔
      ¬ item.Misjudged inquiry := by
  have hverified : (verifyTransaction item inquiry).Aside item ↔ ¬ item.Misjudged inquiry := by
    rcases hitem with hadd | hpart
    · exact hadd.aside_verifyTransaction
    · exact hpart.aside_verifyTransaction
  rw [← hverified]
  constructor
  · intro h transition happlied
    exact h transition (.verified happlied)
  · rintro h transition (happlied | ⟨height, hkind, hexpired, hmade⟩ | ⟨hretried, hgiven, hmade⟩)
    · exact h transition happlied
    · rcases hitem with hadd | hpart
      · exact hadd.staysAside_expired hmade
      · -- a partial exit is no entry
        rw [hpart.1] at hkind
        cases hkind
    · exact VerificationItem.staysAside_abandoned hitem hmade

/-! ### On a partial exit that is slow to be indexed -/

/-- A partial exit of a position that holds 100 tokens. -/
def slowPartial : VerificationItem := .newPartialExit "part-sig" "MINT" (some 1) 50 50 (some 250) 0

/-- Nothing is found two minutes later, and the wallet still holds 100 tokens. -/
def slowInquiry : Inquiry where
  lookup := ⟨none, some (.ok ()), fun _ => .error .notFound⟩
  again := fun _ => .error .notFound
  events := .ok []
  wallet := true
  balance := .ok 100
  throttled := false
  decimals := some 6
  rows := fun _ => none
  now := 120 * 10 ^ 9

/-- The partial exit while it is not missed yet. -/
theorem staysAside_iff_slowPartial :
    (∀ transition, slowPartial.Produces { slowInquiry with now := 30 * 10 ^ 9 } transition →
        slowPartial.StaysAside transition) ↔
      ¬ slowPartial.Misjudged { slowInquiry with now := 30 * 10 ^ 9 } :=
  staysAside_iff slowPartial _ (Or.inr ⟨rfl, rfl⟩)

/-- A partial exit that is missed for a minute clears the close of its position. -/
theorem not_staysAside :
    ¬ ∀ (item : VerificationItem) (inquiry : Inquiry), item.IsAdd ∨ item.IsPartial →
      ∀ transition, item.Produces inquiry transition → item.StaysAside transition := by
  intro h
  have hmade : (verifyTransaction slowPartial slowInquiry).applied =
      some (.exitFailedClearForRetry 1) := by decide
  exact h slowPartial slowInquiry (Or.inr ⟨rfl, rfl⟩) _ (.verified hmade)

end Dripline.Positions

import Dripline.Swaps.Settle
import Dripline.Swaps.Receipt

/-!
# One attempt at a swap

What one router's `execute_swap` does up to the moment it hands a transaction to a node, what it
makes of the answers afterwards, and what becomes of the transaction meanwhile.

* `DirectNetwork`, `executePlan` — the direct engine.
* `AggregatorNetwork`, `signSendAndConfirmTransaction` — Jupiter and Raptor.
* `Attempt` — either of them, `Attempt.handed` and `Attempt.lands`.
* `Attempt.Misread` — the answers that make it give up a transaction that lands.
-/

namespace Dripline.Swaps

open Dripline.Chain
open Dripline.Found (bind_eq_ok)

/-! ## What is traded -/

/-- What the fallback chain and an attempt read of a quote. Source: `swaps/types.rs` -/
structure Quote where
  chain : String
  routerId : String
  routerName : String
  inputMint : String
  outputMint : String
  inputAmount : ℕ
  outputAmount : ℕ
  slippageBps : ℕ
  walletAddress : String
  swapMode : String
  excludeDexes : Option (List String)

/-- What an attempt that went through reports. Source: `swaps/types.rs` -/
structure SwapResult where
  transactionSignature : String
  inputAmount : ℕ
  outputAmount : ℕ

/-! ## The direct engine -/

/-- The verdict of a simulation. Source: `rpc/types.rs` -/
structure SimulationOutcome where
  err : Option String
  logs : List String

/-- **What the execution of a plan meets**: the look at the wallet's balances, the answers of the
nodes, in the order they are asked, and what becomes of the transaction: whether it lands, now or
later, and without an error. Nodes do not lie about it: one that reports an error reports the
chain's, and one that does not know a signature after its blockhash has expired never will. -/
structure DirectNetwork where
  preflight : Except DirectSwapError Unit
  blockhash : Except Error ℕ
  simulation : Except Error SimulationOutcome
  signature : String
  reply : Except Error Unit
  timeout : ℕ
  answers : Answers
  details : ℕ → Except Error TransactionDetails
  lands : Bool
  settled : ∀ lastValidBlockHeight outcome readings, blockhash = .ok lastValidBlockHeight →
    settle answers signature lastValidBlockHeight timeout = some (outcome, readings) →
    (∀ reading ∈ readings, reading.Failed → lands = false) ∧
      ∀ newer height older, readings = newer ++ .height (.ok height) :: older →
        lastValidBlockHeight < height → (∃ reading ∈ newer, reading.Unknown) → lands = false
  reported : ∀ n found info, details n = .ok found → found.metadata = some info →
    info.err.isSome = true → lands = false

/-- A completed direct swap. Source: `direct/execute.rs` -/
structure DirectSwapOutcome where
  signature : String
  amountIn : ℕ
  receipt : Receipt
  platformFee : ℕ

variable (network : DirectNetwork)

/-- Everything up to the send: the last block height the transaction is valid at.
Source: `direct/execute.rs`, `execute_plan` before `send_transaction` -/
def DirectNetwork.prepare : Except DirectSwapError ℕ := do
  network.preflight
  let lastValidBlockHeight ← network.blockhash.mapError fun e =>
    .nodeUnavailable "getLatestBlockhash" ("no recent blockhash: " ++ e.text)
  let outcome ← network.simulation.mapError fun e =>
    .simulationUnavailable ("simulation could not be run: " ++ e.text)
  refuseIf (outcome.err.isSome = true) (.simulationRejected (outcome.err.getD "") outcome.logs)
  return lastValidBlockHeight

/-- The verdict of `settle`. -/
def DirectNetwork.verdict (lastValidBlockHeight : ℕ) :
    Except DirectSwapError Unit :=
  ((settle network.answers network.signature lastValidBlockHeight network.timeout).get
    (settle_isSome _ _ _ _)).1

/-- The send and everything after it. Source: `direct/execute.rs`, `execute_plan` from
`send_transaction` on -/
def DirectNetwork.follow (owner : Pubkey) (plan : SwapPlan) (lastValidBlockHeight : ℕ) :
    Except DirectSwapError DirectSwapOutcome := do
  network.reply.mapError fun e => .submitFailed e.text
  network.verdict lastValidBlockHeight
  let receipt ← readReceipt network.signature owner plan network.details
  return ⟨network.signature, plan.quote.amountIn, receipt, plan.quote.fee.amount⟩

/-- Source: `direct/execute.rs` -/
def executePlan (owner : Pubkey) (plan : SwapPlan) :
    Except DirectSwapError DirectSwapOutcome := do
  let lastValidBlockHeight ← network.prepare
  network.follow owner plan lastValidBlockHeight

/-- What a direct attempt starts from: its settings, the quote it took on, decoded, and the pool as
it is now. -/
structure DirectAttempt where
  associatedAddress : AssociatedAddress
  priorityFeeMicroLamports : ℕ
  maxImpact : ℚ
  decoded : Except Error (DirectSwapIntent × DirectExecutionData)
  market : Except DirectSwapError PoolMarket
  network : DirectNetwork

/-- A failure of the direct engine, as one of the crate. -/
def liftDirect {α : Type} (x : Except DirectSwapError α) : Except Error α :=
  x.mapError fun e => .solana (.directSwap e)

/-- Whose swap it is, and its plan. Source: `direct_pool.rs`, `execute_with_keypair` -/
def DirectAttempt.plan (attempt : DirectAttempt) : Except Error (Pubkey × SwapPlan) := do
  let (intent, data) ← attempt.decoded
  let market ← liftDirect attempt.market
  let plan ← liftDirect (freshPlan attempt.associatedAddress attempt.priorityFeeMicroLamports
    attempt.maxImpact intent data market)
  return (intent.owner, plan)

/-- Source: `direct_pool.rs`, `execute_swap` -/
def DirectAttempt.result (attempt : DirectAttempt) : Except Error SwapResult := do
  let (owner, plan) ← attempt.plan
  let outcome ← liftDirect (executePlan attempt.network owner plan)
  return ⟨outcome.signature, outcome.amountIn, outcome.receipt.received⟩

/-- A transaction is handed to a node. -/
def DirectAttempt.handed (attempt : DirectAttempt) : Bool :=
  attempt.plan.toBool && attempt.network.prepare.toBool

/-! ## The aggregators -/

/-- **What the execution of an aggregator's quote meets**: the transaction it builds, looked at and
signed, the node's reply to it, the statuses that are answered until the minute is over, and what
becomes of the transaction. Nodes do not lie about it. -/
structure AggregatorNetwork where
  built : Except Error Unit
  signature : String
  isHash : IsTransactionHash signature
  reply : Except Error Unit
  polls : List StatusAnswer
  lands : Bool
  polled : ∀ answer ∈ polls, (Reading.status answer).Failed → lands = false

/-- Whether one of the polls confirms. Source: `rpc/client/methods_impl.rs`, `confirm_transaction`
at `confirmed` -/
def confirmTransaction : List StatusAnswer → Except Error Bool
  | [] => .ok false
  | .error _ :: polls => confirmTransaction polls
  | .ok statuses :: polls =>
    match knownStatus statuses with
    | none => confirmTransaction polls
    | some status =>
      match status.err with
      | some err => .error (.data (.parseError "transaction" ("Transaction failed: " ++ err)))
      | none =>
        if status.confirmationStatus = .processed then confirmTransaction polls else .ok true

/-- Source: `rpc/client/methods_impl.rs` -/
def signSendAndConfirmTransaction (network : AggregatorNetwork) : Except Error String := do
  network.reply
  let confirmed ← confirmTransaction network.polls
  if confirmed then return network.signature
  else
    .error (.data (.parseError "transaction"
      ("Transaction " ++ network.signature ++ " not confirmed within timeout")))

/-- Source: `jupiter.rs` and `raptor.rs`, `execute_swap` -/
def AggregatorNetwork.result (network : AggregatorNetwork) (quote : Quote) :
    Except Error SwapResult := do
  network.built
  let signature ← signSendAndConfirmTransaction network
  return ⟨signature, quote.inputAmount, quote.outputAmount⟩

/-! ## Either of them -/

/-- One call of a router's `execute_swap`. -/
inductive Attempt
  | direct (attempt : DirectAttempt)
  | aggregator (network : AggregatorNetwork)

/-- A transaction is handed to a node. -/
def Attempt.handed : Attempt → Bool
  | .direct attempt => attempt.handed
  | .aggregator network => network.built.toBool

/-- The transaction lands, now or later. -/
def Attempt.lands : Attempt → Bool
  | .direct attempt => attempt.network.lands
  | .aggregator network => network.lands

/-- What the attempt ends with. -/
def Attempt.result (quote : Quote) : Attempt → Except Error SwapResult
  | .direct attempt => attempt.result
  | .aggregator network => network.result quote

/-! ## Misread answers -/

/-- The answers that hide a direct swap that lands: an error to its send, a status that is only
processed after its blockhash has expired, or a receipt that does not name the wallet. -/
inductive DirectAttempt.Hidden (attempt : DirectAttempt) : Prop
  | lost (e : Error) (hreply : attempt.network.reply = .error e)
  | processed (lastValidBlockHeight : ℕ) (outcome : Except DirectSwapError Unit)
      (readings : List Reading) (hblockhash : attempt.network.blockhash = .ok lastValidBlockHeight)
      (hsettle : settle attempt.network.answers attempt.network.signature lastValidBlockHeight
        attempt.network.timeout = some (outcome, readings))
      (hprocessed : ProcessedAfterExpiry lastValidBlockHeight readings)
  | unlocated (owner : Pubkey) (plan : SwapPlan) (found : TransactionDetails)
      (hplan : attempt.plan = .ok (owner, plan))
      (hfound : firstDetails attempt.network.details receiptReadAttempts = some found)
      (hunlocated : Unlocated owner plan found)

/-- The answers that hide an aggregator's swap that lands: an error to its send that names no
signature, or no confirmation of one that is too short to be recognised. -/
inductive AggregatorNetwork.Hidden (network : AggregatorNetwork) : Prop
  | lost (e : Error) (hreply : network.reply = .error e)
      (hunnamed : unconfirmedSwapSignature e = none)
  | unconfirmed (hpolls : ∀ answer ∈ network.polls, ¬ (Reading.status answer).Landed)
      (hshort : network.signature.toList.length < 86)

/-- **A transaction that lands is hidden** by the answers to it. -/
def Attempt.Misread (attempt : Attempt) : Prop :=
  attempt.handed = true ∧ attempt.lands = true ∧
    match attempt with
    | .direct attempt => attempt.Hidden
    | .aggregator network => network.Hidden

lemma exists_of_firstDetails {details : ℕ → Except Error TransactionDetails} {attempts : ℕ}
    {found : TransactionDetails} (h : firstDetails details attempts = some found) :
    ∃ n, details n = .ok found := by
  obtain ⟨n, -, hn⟩ := List.exists_of_findSome?_eq_some h
  refine ⟨n, ?_⟩
  cases hd : details n with
  | error e => rw [hd] at hn; cases hn
  | ok d =>
    rw [hd] at hn
    exact congrArg _ (Option.some.inj hn)

lemma DirectNetwork.hidden_of_follow {attempt : DirectAttempt} {owner : Pubkey} {plan : SwapPlan}
    {lastValidBlockHeight : ℕ} {e : DirectSwapError} (hplan : attempt.plan = .ok (owner, plan))
    (hblockhash : attempt.network.blockhash = .ok lastValidBlockHeight)
    (hfollow : attempt.network.follow owner plan lastValidBlockHeight = .error e)
    (hunnamed : e.settledSignature = none) (hlands : attempt.network.lands = true) :
    attempt.Hidden := by
  unfold DirectNetwork.follow at hfollow
  cases hreply : attempt.network.reply with
  | error sent => exact .lost sent hreply
  | ok _ =>
    obtain ⟨outcome, readings, hsettle, hjustified⟩ := settleLoop_spec attempt.network.answers
      attempt.network.signature lastValidBlockHeight attempt.network.timeout _
      (rested_start _ lastValidBlockHeight)
      (deadline_le_start attempt.network.answers attempt.network.timeout)
    change settle _ _ _ _ = _ at hsettle
    by_cases hprocessed : ProcessedAfterExpiry lastValidBlockHeight readings
    · exact .processed _ _ _ hblockhash hsettle hprocessed
    have hverdict : attempt.network.verdict lastValidBlockHeight = outcome := by
      unfold DirectNetwork.verdict
      rw [Option.get_of_eq_some _ hsettle]
    obtain ⟨hfailed, hexpired⟩ := attempt.network.settled _ _ _ hblockhash hsettle
    rw [hreply, hverdict] at hfollow
    cases outcome with
    | ok _ =>
      -- it has landed, and the receipt is refused
      cases hfound : firstDetails attempt.network.details receiptReadAttempts with
      | none => simp [readReceipt, hfound, Except.mapError, bind, Except.bind, pure,
          Except.pure] at hfollow
      | some found =>
        have hrefused : receiptFromTransaction attempt.network.signature owner plan found =
            .error e := by
          cases hreceipt : receiptFromTransaction attempt.network.signature owner plan
              found with
          | ok receipt => simp [readReceipt, hfound, hreceipt, Except.mapError, bind,
              Except.bind, pure, Except.pure] at hfollow
          | error refused =>
            simp only [readReceipt, hfound, hreceipt, Except.mapError, bind,
              Except.bind] at hfollow
            exact congrArg _ (Except.error.inj hfollow)
        rcases receiptFromTransaction_refused hrefused hunnamed with
          ⟨info, hinfo, herr⟩ | hunlocated
        · obtain ⟨n, hn⟩ := exists_of_firstDetails hfound
          rw [attempt.network.reported n found info hn hinfo herr] at hlands
          cases hlands
        · exact .unlocated _ _ _ hplan hfound hunlocated
    | error verdict =>
      -- a verdict that is justified is one of a transaction that does not land
      obtain rfl : verdict = e := by
        simpa [Except.mapError, bind, Except.bind] using hfollow
      have hjust := hjustified.mpr hprocessed
      cases verdict with
      | transactionFailed signature detail =>
        obtain ⟨reading, hmem, hread⟩ := hjust
        rw [hfailed reading hmem hread] at hlands
        cases hlands
      | blockhashExpired signature last current =>
        obtain ⟨newer, height, older, heq, hheight, hunknown, -⟩ := hjust
        rw [hexpired newer height older heq hheight hunknown] at hlands
        cases hlands
      | confirmationTimeout signature waited => cases hunnamed
      | _ => exact hjust.elim

lemma confirmTransaction_spec {polls : List StatusAnswer} :
    (∀ e, confirmTransaction polls = .error e →
      ∃ answer ∈ polls, (Reading.status answer).Failed) ∧
    (confirmTransaction polls = .ok false → ∀ answer ∈ polls, ¬ (Reading.status answer).Landed) := by
  induction polls with
  | nil => exact ⟨fun _ h => (by cases h), fun _ _ h => (by cases h)⟩
  | cons answer polls ih =>
    obtain ⟨iherror, ihfalse⟩ := ih
    -- an answer that decides nothing leaves it to the others
    have hrest : ¬ (Reading.status answer).Landed →
        (∀ e, confirmTransaction polls = .error e →
          ∃ a ∈ answer :: polls, (Reading.status a).Failed) ∧
        (confirmTransaction polls = .ok false →
          ∀ a ∈ answer :: polls, ¬ (Reading.status a).Landed) := by
      intro hnot
      constructor
      · intro e he
        obtain ⟨a, ha, hfailed⟩ := iherror e he
        exact ⟨a, List.mem_cons_of_mem _ ha, hfailed⟩
      · intro hfalse a ha
        rcases List.mem_cons.mp ha with rfl | ha
        · exact hnot
        · exact ihfalse hfalse a ha
    cases answer with
    | error e => exact hrest not_false
    | ok statuses =>
      cases hknown : knownStatus statuses with
      | none =>
        simp only [confirmTransaction, hknown]
        exact hrest (by rintro ⟨status, hstatus, -⟩; rw [hknown] at hstatus; cases hstatus)
      | some status =>
        obtain ⟨err, confirmation⟩ := status
        cases err with
        | some err =>
          simp only [confirmTransaction, hknown]
          exact ⟨fun _ _ => ⟨_, List.mem_cons_self, _, hknown, rfl⟩, fun h => (by cases h)⟩
        | none =>
          simp only [confirmTransaction, hknown]
          by_cases hprocessed : confirmation = .processed
          · rw [if_pos hprocessed]
            refine hrest ?_
            rintro ⟨status, hstatus, -, hne⟩
            obtain rfl := Option.some.inj (hknown.symm.trans hstatus)
            exact hne hprocessed
          · rw [if_neg hprocessed]
            exact ⟨fun _ h => (by cases h), fun h => (by cases h)⟩

lemma AggregatorNetwork.hidden_of_result {network : AggregatorNetwork} {e : Error}
    (hresult : signSendAndConfirmTransaction network = .error e)
    (hunnamed : unconfirmedSwapSignature e = none) (hlands : network.lands = true) :
    network.Hidden := by
  unfold signSendAndConfirmTransaction at hresult
  cases hreply : network.reply with
  | error sent =>
    rw [hreply] at hresult
    obtain rfl := Except.error.inj hresult
    exact .lost _ hreply hunnamed
  | ok _ =>
    rw [hreply] at hresult
    obtain ⟨hfailed, hunseen⟩ := @confirmTransaction_spec network.polls
    cases hconfirm : confirmTransaction network.polls with
    | error failed =>
      obtain ⟨answer, hmem, hread⟩ := hfailed failed hconfirm
      rw [network.polled answer hmem hread] at hlands
      cases hlands
    | ok confirmed =>
      cases confirmed with
      | true => simp [hconfirm, bind, Except.bind, pure, Except.pure] at hresult
      | false =>
        obtain rfl : _ = e := by
          simpa [hconfirm, bind, Except.bind] using hresult
        rw [unconfirmedSwapSignature_timeout network.isHash] at hunnamed
        refine .unconfirmed (hunseen hconfirm) (not_le.mp fun hlong => ?_)
        rw [if_pos hlong] at hunnamed
        cases hunnamed

lemma DirectAttempt.of_handed {attempt : DirectAttempt} (h : attempt.handed = true) :
    ∃ owner plan lastValidBlockHeight, attempt.plan = .ok (owner, plan) ∧
      attempt.network.prepare = .ok lastValidBlockHeight ∧
      attempt.network.blockhash = .ok lastValidBlockHeight := by
  unfold DirectAttempt.handed at h
  cases hplan : attempt.plan with
  | error e => rw [hplan] at h; cases h
  | ok planned =>
    obtain ⟨owner, plan⟩ := planned
    cases hprepare : attempt.network.prepare with
    | error e => rw [hprepare, hplan] at h; cases h
    | ok lastValidBlockHeight =>
      refine ⟨owner, plan, lastValidBlockHeight, rfl, rfl, ?_⟩
      unfold DirectNetwork.prepare at hprepare
      obtain ⟨_, -, hprepare⟩ := bind_eq_ok.mp hprepare
      obtain ⟨height, hheight, hprepare⟩ := bind_eq_ok.mp hprepare
      obtain ⟨_, -, hprepare⟩ := bind_eq_ok.mp hprepare
      obtain ⟨_, -, hprepare⟩ := bind_eq_ok.mp hprepare
      obtain rfl := Except.ok.inj hprepare
      cases hblockhash : attempt.network.blockhash with
      | error e => rw [hblockhash] at hheight; cases hheight
      | ok height' =>
        rw [hblockhash] at hheight
        exact congrArg _ (Except.ok.inj hheight)

lemma Attempt.misread {attempt : Attempt} {quote : Quote} {e : Error}
    (hresult : attempt.result quote = .error e) (hunnamed : unconfirmedSwapSignature e = none)
    (hhanded : attempt.handed = true) (hlands : attempt.lands = true) : attempt.Misread := by
  refine ⟨hhanded, hlands, ?_⟩
  cases attempt with
  | direct attempt =>
    obtain ⟨owner, plan, lastValidBlockHeight, hplan, hprepare, hblockhash⟩ :=
      DirectAttempt.of_handed hhanded
    cases hfollow : attempt.network.follow owner plan lastValidBlockHeight with
    | ok outcome =>
      simp [Attempt.result, DirectAttempt.result, hplan, executePlan, hprepare, hfollow,
        liftDirect, Except.mapError, bind, Except.bind, pure, Except.pure] at hresult
    | error failed =>
      obtain rfl : Error.solana (.directSwap failed) = e := by
        simpa [Attempt.result, DirectAttempt.result, hplan, executePlan, hprepare, hfollow,
          liftDirect, Except.mapError, bind, Except.bind] using hresult
      exact DirectNetwork.hidden_of_follow hplan hblockhash hfollow hunnamed hlands
  | aggregator network =>
    cases hbuilt : network.built with
    | error failed =>
      simp only [Attempt.handed, hbuilt] at hhanded
      cases hhanded
    | ok _ =>
      cases hsign : signSendAndConfirmTransaction network with
      | ok signature =>
        simp [Attempt.result, AggregatorNetwork.result, hbuilt, hsign, bind, Except.bind,
          pure, Except.pure] at hresult
      | error failed =>
        obtain rfl : failed = e := by
          simpa [Attempt.result, AggregatorNetwork.result, hbuilt, hsign, bind,
            Except.bind] using hresult
        exact AggregatorNetwork.hidden_of_result hsign hunnamed hlands

end Dripline.Swaps

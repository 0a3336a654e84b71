import Dripline.Found.Trace
import Dripline.Trader.Copy.Service

/-!
# Is the live spend what was submitted?

* `accounted_of_careful` — then the spend is accounted for over a whole run; `not_accounted` — else
  not.
-/

namespace Dripline.Trader.Copy

open Dripline.Found Dripline.Found.Tally Dripline.Found.Trace Dripline.Wallets List

/-! ## What holds -/

section statement

/-- What the submitted buys of a task spent on a token. -/
def spentOn (submitted : List Submission) (taskId : ℤ) (mint : String) : ℚ :=
  ((submitted.filter fun buy => buy.task.id == taskId && buy.mint == mint).map (·.sizedSol)).sum

/-- What the submitted buys of a task spent. -/
def spentBy (submitted : List Submission) (taskId : ℤ) : ℚ :=
  ((submitted.filter (·.task.id == taskId)).map (·.sizedSol)).sum

/-- A buy is within the caps of its task, as they were, on top of what was submitted before. -/
structure Capped (before : List Submission) (buy : Submission) : Prop where
  trade : buy.sizedSol ≤ buy.task.maxSolPerTrade
  token : spentOn before buy.task.id buy.mint + buy.sizedSol ≤ buy.task.maxSolPerToken
  total : spentBy before buy.task.id + buy.sizedSol ≤ buy.task.totalBudgetSol

/-- **Accounted**: the live spend of a task, on a token and in all, is what its submitted buys
spent, and each of them was within the caps. -/
structure Accounted (run : CopyRun) : Prop where
  token : ∀ taskId mint, (run.database.spendState taskId .live mint).tokenSpentSol =
    spentOn run.submitted taskId mint
  total : ∀ taskId mint, (run.database.spendState taskId .live mint).totalSpentSol =
    spentBy run.submitted taskId
  capped : ∀ before buy after, run.submitted = before ++ buy :: after → Capped before buy

/-- **Careful**: a live buy that is submitted is of a transaction that has no decision yet, comes
back with its signature, and is recorded. -/
def CopyRun.Careful (run : CopyRun) : CopyEvent → Prop
  | .bought task activity answers =>
    task.mode = .live → answers.result.any (·.success) = true →
      run.database.liveClaims.any (·.key == (task.id, activity.signature)) = false →
        run.database.decision (task.id, activity.signature) = none ∧
          answers.result.any (·.txSignature.isSome) = true ∧ answers.recorded = true
  | _ => True

end statement

/-! ## The live spend -/

section spend

/-- The live rows of the spend. -/
def IsLive (key : SpendKey) : Prop := key.mode = .live

/-- A submitted buy, as it is booked. -/
def entry (buy : Submission) : SpendKey × ℚ × ℕ := (⟨buy.task.id, .live, buy.mint⟩, buy.sizedSol, 1)

lemma total_entries (kind : SpendKey → Bool) (submitted : List Submission) :
    (total kind (submitted.map entry)).1 =
      ((submitted.filter fun buy => kind (entry buy).1).map (·.sizedSol)).sum := by
  induction submitted with
  | nil => rfl
  | cons buy submitted ih =>
    rw [map_cons, total_cons, Prod.fst_add, ih, filter_cons]
    split <;> simp [entry]

lemma spendState_of_books {database : CopyDatabase} {submitted : List Submission}
    (h : Books IsLive database.spend (submitted.map entry)) (taskId : ℤ) (mint : String) :
    (database.spendState taskId .live mint).tokenSpentSol = spentOn submitted taskId mint ∧
      (database.spendState taskId .live mint).totalSpentSol = spentBy submitted taskId := by
  unfold CopyDatabase.spendState spentOn spentBy
  constructor
  · show (amountOf (⟨taskId, .live, mint⟩ : SpendKey) database.spend).1 = _
    rw [h.amountOf ⟨taskId, .live, mint⟩ (show CopyMode.live = .live from rfl), total_entries]
    congr 2
    refine filter_congr fun buy _ => ?_
    simp only [entry, SpendKey.mk.injEq, true_and]
    rw [Bool.decide_and]
    rfl
  · show (total (fun key : SpendKey => key.taskId == taskId && key.mode == .live) database.spend).1 = _
    have hlive : ∀ key : SpendKey, (key.taskId == taskId && key.mode == .live) = true → IsLive key :=
      fun key hkey => beq_iff_eq.mp ((Bool.and_eq_true _ _).mp hkey).2
    rw [h.total _ hlive, total_entries]
    congr 2
    refine filter_congr fun buy _ => ?_
    simp [entry]

variable {database : CopyDatabase} {log : List (SpendKey × ℚ × ℕ)}

@[simp] lemma spend_settleClaim (outcome : CopyOutcome) :
    (database.settleClaim outcome).spend = database.spend := by
  unfold CopyDatabase.settleClaim
  split <;> rfl

@[simp] lemma spend_insertDecision (outcome : CopyOutcome) :
    (database.insertDecision outcome).2.spend = database.spend := by
  unfold CopyDatabase.insertDecision
  split <;> rfl

lemma spend_bookOutcome {database' : CopyDatabase} (h : database'.spend = database.spend)
    (outcome : CopyOutcome) :
    (database'.bookOutcome outcome).spend = (database.bookOutcome outcome).spend := by
  cases outcome with
  | paperSellObserved decision =>
    unfold CopyDatabase.bookOutcome
    dsimp only
    split <;> exact h
  | paperFilled decision | liveSubmitted decision | liveConfirmed decision =>
      exact congrArg (Tally.add _ _) h
  | _ => exact h

lemma spend_recordOutcome (outcome : CopyOutcome) :
    (database.recordOutcome outcome).2.spend =
      if (database.decision outcome.key).isNone then (database.bookOutcome outcome).spend
      else database.spend := by
  unfold CopyDatabase.recordOutcome
  dsimp only
  rw [spend_settleClaim]
  cases hdecision : database.decision outcome.key with
  | none =>
    have hinserted : (database.insertDecision outcome).1 = true := by
      unfold CopyDatabase.insertDecision
      rw [hdecision]
    rw [hinserted]
    exact spend_bookOutcome (spend_insertDecision outcome) outcome
  | some existing =>
    have hinserted : (database.insertDecision outcome).1 = false := by
      unfold CopyDatabase.insertDecision
      rw [hdecision]
    rw [hinserted]
    show (if _ then _ else _ : CopyDatabase).spend = database.spend
    split <;> exact spend_insertDecision outcome

variable {outcome : CopyOutcome}

lemma books_record (h : Books IsLive database.spend log)
    (hother : outcome.isLiveBuy = false ∨ (database.decision outcome.key).isSome = true) :
    Books IsLive (database.recordOutcome outcome).2.spend log := by
  rw [spend_recordOutcome]
  split
  case isFalse hsome => exact h
  case isTrue hnone =>
    have hbuy := hother.resolve_right fun hsome => by
      rw [Option.isNone_iff_eq_none.mp hnone] at hsome
      cases hsome
    cases outcome with
    | liveSubmitted decision => cases hbuy
    | liveConfirmed decision => cases hbuy
    | paperFilled decision => exact h.add_other (by rintro ⟨⟩) _
    | paperSellObserved decision =>
      unfold CopyDatabase.bookOutcome
      dsimp only
      split <;> exact h
    | _ => exact h

lemma books_record_buy {decision : LiveDecision} (h : Books IsLive database.spend log)
    (houtcome : outcome = .liveSubmitted decision ∨ outcome = .liveConfirmed decision)
    (hnew : database.decision outcome.key = none) :
    Books IsLive (database.recordOutcome outcome).2.spend
      (log ++ [(⟨decision.taskId, .live, decision.mint⟩, decision.sizedSol, 1)]) := by
  rw [spend_recordOutcome, hnew]
  rcases houtcome with rfl | rfl
  · exact h.add _ _
  · exact h.add _ _

end spend

/-! ## Events -/

section events

/-- What is carried through a run: the live spend is that of the submitted buys, and each was within
the caps. -/
structure Kept (run : CopyRun) : Prop where
  books : Books IsLive run.database.spend (run.submitted.map entry)
  capped : ∀ before buy after, run.submitted = before ++ buy :: after → Capped before buy

variable {run : CopyRun}

lemma Kept.accounted (h : Kept run) : Accounted run :=
  ⟨fun taskId mint => (spendState_of_books h.books taskId mint).1,
    fun taskId mint => (spendState_of_books h.books taskId mint).2, h.capped⟩

lemma Kept.of_spend (h : Kept run) {database : CopyDatabase}
    (hspend : database.spend = run.database.spend) : Kept { run with database } :=
  ⟨show Books IsLive database.spend _ from hspend ▸ h.books, h.capped⟩

lemma Kept.record (h : Kept run) (recorded : Bool) {outcome : CopyOutcome}
    (hother : outcome.isLiveBuy = false ∨ (run.database.decision outcome.key).isSome = true) :
    Kept (run.record recorded outcome) := by
  unfold CopyRun.record
  split
  · exact ⟨books_record h.books hother, h.capped⟩
  · exact h

lemma capped_append {submitted : List Submission} {buy : Submission}
    (h : ∀ before buy after, submitted = before ++ buy :: after → Capped before buy)
    (hbuy : Capped submitted buy) :
    ∀ before other after, submitted ++ [buy] = before ++ other :: after → Capped before other := by
  intro before other after heq
  rcases eq_nil_or_concat after with rfl | ⟨rest, last, rfl⟩
  · obtain ⟨rfl, hlast⟩ := append_inj' heq rfl
    exact singleton_inj.mp hlast ▸ hbuy
  · rw [concat_eq_append, ← cons_append, ← append_assoc] at heq
    exact h before other rest (append_inj' heq rfl).1

lemma claimLiveActivity_spec (database : CopyDatabase) (key : ℤ × String) (now : ℤ) :
    (database.claimLiveActivity key now).1 = !database.liveClaims.any (·.key == key) ∧
      (database.claimLiveActivity key now).2.spend = database.spend ∧
      (database.claimLiveActivity key now).2.decisions = database.decisions := by
  unfold CopyDatabase.claimLiveActivity
  cases database.liveClaims.any (·.key == key) <;> exact ⟨rfl, rfl, rfl⟩

variable {answers : BuyAnswers}

lemma Kept.submit (h : Kept run) {plan : PreparedLiveEntry}
    (hsized : SizedWithin plan.task (run.database.spendState plan.task.id .live plan.mint)
      plan.sizedSol)
    (hcareful : answers.result.any (·.success) = true →
      run.database.decision (plan.task.id, plan.targetSignature) = none ∧
      answers.result.any (·.txSignature.isSome) = true ∧ answers.recorded = true) :
    Kept (run.submit plan answers) := by
  unfold CopyRun.submit
  split
  case h_1 block => exact h.record _ (Or.inl rfl)
  case h_2 =>
    cases hsuccess : answers.result.any (·.success) with
    | false =>
      obtain ⟨decision, hfailed⟩ := executeLive_failed plan hsuccess
      rw [hfailed]
      exact h.record _ (Or.inl rfl)
    | true =>
      obtain ⟨hnew, hsignature, hrecorded⟩ := hcareful hsuccess
      obtain ⟨transactionSignature, houtcome⟩ :=
        executeLive_submitted plan hsuccess hsignature
      have hkey : (executeLive plan (.fromTradeResult answers.result)).key =
          (plan.task.id, plan.targetSignature) := by
        rcases houtcome with heq | heq <;> rw [heq] <;> rfl
      obtain ⟨htoken, htotal⟩ := spendState_of_books h.books plan.task.id plan.mint
      have hbooks := books_record_buy h.books houtcome (hkey ▸ hnew)
      show Kept (CopyRun.record ⟨run.database, run.submitted ++ [_]⟩ answers.recorded _)
      rw [hrecorded]
      refine ⟨?_, capped_append h.capped ⟨hsized.trade, ?_, ?_⟩⟩
      · show Books IsLive _ ((run.submitted ++ [_]).map entry)
        rw [map_append]
        exact hbooks
      · rw [← htoken]
        exact hsized.token
      · rw [← htotal]
        exact hsized.total

variable {activity : WalletActivity} {task : CopyTask}

lemma Kept.buyLive (h : Kept run) {mint : String}
    (hmint : ∃ solAmount tokenAmount priceSol,
      activity.kind = .swap mint .buy solAmount tokenAmount priceSol)
    (hcareful : run.Careful (.bought task activity answers)) :
    Kept (run.buyLive task activity mint answers) := by
  unfold CopyRun.buyLive
  dsimp only
  split
  case h_1 reason heq => exact h.record _ (Or.inl rfl)
  case h_2 plan heq =>
    obtain ⟨hmode, rfl, hsignature, hsized, _, _, _, hplan⟩ := prepareLiveEntry_ok heq
    obtain ⟨_, _, _, hkind⟩ := hmint
    obtain rfl : mint = plan.mint := (ActivityKind.swap.inj (hkind.symm.trans hplan)).1
    split
    · exact h
    obtain ⟨hclaimed, hspend, hdecisions⟩ :=
      claimLiveActivity_spec run.database (plan.task.id, activity.signature) answers.now
    split
    · exact h.of_spend hspend
    case isFalse hgoes =>
      refine (h.of_spend hspend).submit ?_ fun hsuccess => ?_
      · unfold CopyDatabase.spendState at hsized ⊢
        rw [hmode] at hsized
        rw [hspend]
        exact hsized
      · have hfree : run.database.liveClaims.any
            (·.key == (plan.task.id, activity.signature)) = false := by
          rw [hclaimed] at hgoes
          simpa using (not_or.mp (mt (Bool.or_eq_true _ _).mpr hgoes)).1
        obtain ⟨hnew, hrest⟩ := hcareful hmode hsuccess hfree
        refine ⟨?_, hrest⟩
        show CopyDatabase.decision _ _ = none
        unfold CopyDatabase.decision
        rw [hdecisions, hsignature]
        exact hnew

lemma Kept.buyPaper (h : Kept run) (task : CopyTask) (activity : WalletActivity) (mint : String)
    (answers : BuyAnswers) : Kept (run.buyPaper task activity mint answers) := by
  refine h.record _ (Or.inl ?_)
  split
  · rfl
  · exact paperEntryOutcome_isLiveBuy ..

lemma Kept.buy (h : Kept run) (hcareful : run.Careful (.bought task activity answers)) :
    Kept (run.buy task activity answers) := by
  unfold CopyRun.buy
  split
  case h_2 => exact h
  case h_1 mint solAmount tokenAmount priceSol hkind =>
    split
    · exact h
    split
    · exact h.record _ (Or.inl rfl)
    split
    · exact h.buyPaper task activity mint answers
    · exact h.buyLive ⟨solAmount, tokenAmount, priceSol, hkind⟩ hcareful

lemma Kept.sell (h : Kept run) (task : CopyTask) (activity : WalletActivity)
    (answers : SellAnswers) : Kept (run.sell task activity answers) := by
  unfold CopyRun.sell
  split
  case h_2 => exact h
  case h_1 mint solAmount tokenAmount priceSol hkind =>
    split
    · exact h
    split
    · exact h.record _ (Or.inl rfl)
    split
    case h_1 =>
      refine h.record _ (Or.inl ?_)
      split
      case h_1 outcome heq => exact paperSellOutcome_isLiveBuy heq
      case h_2 => rfl
    case h_2 =>
      unfold CopyRun.sellLive
      split
      · exact h
      dsimp only
      obtain ⟨-, hspend, -⟩ :=
        claimLiveActivity_spec run.database (task.id, activity.signature) answers.now
      split
      · exact h.of_spend hspend
      · refine (h.of_spend hspend).record _ (Or.inl ?_)
        split
        case h_1 plan heq =>
          unfold executeCopySell
          dsimp only
          split <;> rfl
        case h_2 => rfl

lemma Kept.confirm (h : Kept run) (taskId : ℤ) (signature : String) (recorded : Bool) :
    Kept (run.confirm taskId signature recorded) := by
  unfold CopyRun.confirm
  split
  case h_2 => exact h
  case h_1 decision heq =>
    split
    · refine h.record _ (Or.inr ?_)
      -- the decision is still there
      have hkey : (CopyOutcome.liveSubmitted decision).key = (taskId, signature) := by
        simpa using List.find?_some heq
      show (run.database.decision (CopyOutcome.liveSubmitted decision).key).isSome = true
      rw [hkey, heq]
      rfl
    · exact h

lemma spend_reconcileStaleClaims (database : CopyDatabase) (graceSeconds now : ℤ) :
    (database.reconcileStaleClaims graceSeconds now).spend = database.spend := by
  have hfold : ∀ (stale : List LiveClaim) (database : CopyDatabase),
      (stale.foldl (fun database claim => database.abandonClaim claim.key) database).spend =
        database.spend := by
    intro stale
    induction stale with
    | nil => exact fun _ => rfl
    | cons claim stale ih =>
      intro database
      rw [foldl_cons, ih]
      exact spend_insertDecision _
  exact hfold _ _

lemma Kept.step (h : Kept run) {event : CopyEvent} (hcareful : run.Careful event) :
    Kept (run.step event) := by
  cases event with
  | bought task activity answers => exact h.buy hcareful
  | sold task activity answers => exact h.sell task activity answers
  | exited decision recorded => exact h.record _ (Or.inl rfl)
  | confirmed taskId signature recorded => exact h.confirm taskId signature recorded
  | reconciled graceSeconds now =>
    exact h.of_spend (spend_reconcileStaleClaims run.database graceSeconds now)
  | reset taskId =>
    have hkeep : ∀ key, IsLive key → (!(key.taskId == taskId && key.mode == .paper)) = true := by
      rintro ⟨id, mode, mint⟩ hlive
      rw [show mode = .live from hlive]
      simp
    exact ⟨h.books.filter hkeep, h.capped⟩

/-- **The live spend is what was submitted**, in every run whose live buys are of transactions
without a decision, and get recorded. -/
theorem accounted_of_careful (events : List CopyEvent)
    (h : Throughout CopyRun.step CopyRun.Careful .empty events) :
    Accounted (events.foldl CopyRun.step .empty) :=
  (h.final Kept ⟨Books.nil, by simp [CopyRun.empty]⟩ fun _ hkept _ _ hcareful =>
    hkept.step hcareful).accounted

lemma Accounted.spentBy_le (h : Accounted run) {taskId : ℤ} {budget : ℚ} (hbudget : 0 ≤ budget)
    (hsame : ∀ buy ∈ run.submitted, buy.task.id = taskId → buy.task.totalBudgetSol = budget) :
    spentBy run.submitted taskId ≤ budget := by
  have hall : ∀ after before, run.submitted = before ++ after → spentBy before taskId ≤ budget →
      spentBy run.submitted taskId ≤ budget := by
    intro after
    induction after with
    | nil => intro before heq hbefore; rwa [heq, append_nil]
    | cons buy after ih =>
      intro before heq hbefore
      refine ih (before ++ [buy]) (by rw [heq, append_assoc, singleton_append]) ?_
      unfold spentBy at hbefore ⊢
      rw [filter_append, map_append, sum_append]
      by_cases hid : buy.task.id = taskId
      · have htotal := (h.capped before buy after heq).total
        rw [hsame buy (by rw [heq]; simp) hid, hid] at htotal
        simpa [spentBy, hid] using htotal
      · simpa [hid] using hbefore
  exact hall run.submitted [] rfl hbudget

end events

/-! ## A run that is careful, and one that is not -/

/-- A task that may spend a tenth of a SOL. -/
def smallTask (mode : CopyMode) : CopyTask :=
  { id := 1
    targetAddress := "target"
    enabled := true
    mode
    sizing := .fixed (1 / 10)
    exitMode := .mirror
    maxSolPerTrade := 1 / 10
    maxSolPerToken := 1 / 10
    totalBudgetSol := 1 / 10
    minTargetTradeSol := none
    maxTargetTradeSol := none
    buyOncePerToken := false
    slippagePct := 1 }

/-- A buy of the target. -/
def targetBuy (signature : String) : WalletActivity :=
  ⟨"target", signature, .swap "mint" .buy 1 100 none, [.copy 1], false⟩

/-- A buy that goes through. -/
def goodBuy : BuyAnswers :=
  { copyEnabled := true
    guarded := none
    risk := ⟨false, false, true⟩
    policy := ⟨false, 1⟩
    paperBlock := none
    market := ⟨some (1 / 100), true⟩
    costs := ⟨0, 0⟩
    claimWritten := true
    stopped := false
    liveBlock := none
    result := some ⟨true, some "tx", none, none, false⟩
    recorded := true
    now := 0 }

/-- A live buy that is booked. -/
def bookedRun : List CopyEvent := [.bought (smallTask .live) (targetBuy "first") goodBuy]

theorem accounted_of_careful_bookedRun : Accounted (bookedRun.foldl CopyRun.step .empty) :=
  accounted_of_careful bookedRun ⟨fun _ _ _ => ⟨rfl, rfl, rfl⟩, trivial⟩

/-- A transaction is skipped in paper mode, and comes again when the task is live; then the next one
comes. -/
def twiceRun : List CopyEvent :=
  [.bought (smallTask .paper) (targetBuy "first") { goodBuy with paperBlock := some .positionLimit },
    .bought (smallTask .live) (targetBuy "first") goodBuy,
    .bought (smallTask .live) (targetBuy "second") goodBuy]

/-- **The budget is overspent**: the first live buy is not booked, as its transaction was skipped
before, and the second one is sized as if it were the first. -/
theorem not_accounted : ¬Accounted (twiceRun.foldl CopyRun.step .empty) ∧
    spentBy (twiceRun.foldl CopyRun.step .empty).submitted 1 = 2 / 10 := by
  have hspent : spentBy (twiceRun.foldl CopyRun.step .empty).submitted 1 = 2 / 10 := by
    decide +kernel
  refine ⟨fun h => ?_, hspent⟩
  have hle : spentBy (twiceRun.foldl CopyRun.step .empty).submitted 1 ≤ 1 / 10 :=
    h.spentBy_le (by norm_num) (by decide +kernel)
  rw [hspent] at hle
  norm_num at hle

end Dripline.Trader.Copy

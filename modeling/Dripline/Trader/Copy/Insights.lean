import Dripline.Trader.Copy.Ledger
import Dripline.Trader.Copy.PaperExits

/-!
# The paper book, replayed

`replay_paper` in `trader/copy/insights.rs` beside the paper ledger of `database/ledger.rs`.

* `replayPaper_agrees` — so do all totals, and what was invested is the cost held and the cost
  realized.

A source without a file is in `insights.rs`.
-/

namespace Dripline.Trader.Copy

open Dripline.Positions List Function

/-! ## The rows -/

/-- A recorded outcome. Source: `types.rs` -/
structure CopyActivityRow where
  id : ℕ
  taskId : ℤ
  outcome : CopyOutcome

/-- The activity and the tables of the ledger. -/
structure CopyLedger where
  activity : List CopyActivityRow
  database : CopyDatabase

/-- An outcome is recorded, with a row if it is new. Source: `database/ledger.rs`,
`record_outcome_sync` -/
def CopyLedger.record (ledger : CopyLedger) (outcome : CopyOutcome) : CopyLedger :=
  let (recorded, database) := ledger.database.recordOutcome outcome
  { activity :=
      if recorded then ledger.activity ++ [⟨ledger.activity.length + 1, outcome.key.1, outcome⟩]
      else ledger.activity
    database }

/-- Outcomes recorded one after another, from an empty ledger. -/
def recordAll (outcomes : List CopyOutcome) : CopyLedger :=
  outcomes.foldl CopyLedger.record ⟨[], .empty⟩

/-- The rows of a task, oldest first. Source: `ordered` -/
def ordered (taskId : ℤ) (activity : List CopyActivityRow) : List CopyActivityRow :=
  (activity.filter (·.taskId = taskId)).mergeSort fun a b => a.id ≤ b.id

/-! ## The replay -/

/-- Source: `types.rs` -/
inductive CopyBook
  | paper
  | live

/-- Source: `OpenRound` -/
structure OpenRound where
  openedAt : Option DateTime
  tokens : ℚ
  cost : ℚ
  realizedCost : ℚ
  proceeds : ℚ

/-- Source: `insights.rs`, the `Default` of `OpenRound` -/
def OpenRound.default : OpenRound := ⟨none, 0, 0, 0, 0⟩

/-- Source: `CopyRound` -/
structure CopyRound where
  mint : String
  book : CopyBook
  openedAt : DateTime
  closedAt : DateTime
  investedSol : ℚ
  proceedsSol : ℚ
  pnlSol : ℚ
  pnlPct : Option ℚ
  holdSeconds : ℤ
  exit : String

/-- Source: `ExitLeg` -/
structure ExitLeg where
  soldAt : DateTime
  exit : String
  pnlSol : ℚ

/-- The locals of the loop. Source: `replay_paper` -/
structure Replay where
  opened : String → Option OpenRound
  rounds : List CopyRound
  legs : List ExitLeg

/-- Source: `exit_label` -/
def exitLabel : Option PaperExitRule → String
  | none => "target_sell"
  | some .stopLoss => "stop_loss"
  | some .trailingStop => "trailing_stop"
  | some .takeProfit => "take_profit"
  | some .timeOverride => "time_override"
  | some .manual => "manual"

/-- A round that is sold out. Source: `replay_paper` -/
def OpenRound.close (round : OpenRound) (mint exit : String) (soldAt : DateTime) : CopyRound :=
  let openedAt := round.openedAt.getD soldAt
  let pnl := round.proceeds - round.realizedCost
  { mint
    book := .paper
    openedAt
    closedAt := soldAt
    investedSol := round.realizedCost
    proceedsSol := round.proceeds
    pnlSol := pnl
    pnlPct := if 0 < round.realizedCost then some (pnl / round.realizedCost * 100) else none
    holdSeconds := numSeconds openedAt soldAt
    exit }

/-- A fill joins the open round of its token. Source: `replay_paper` -/
def Replay.buy (replay : Replay) (decision : PaperDecision) : Replay :=
  let round := (replay.opened decision.mint).getD .default
  { replay with
    opened := Function.update replay.opened decision.mint (some
      { round with
        openedAt := some (round.openedAt.getD decision.decidedAt)
        tokens := round.tokens + decision.fill.tokenAmount
        cost := round.cost + decision.fill.totalCostSol }) }

/-- A sell takes its share of the cost, and closes the round when next to nothing is left. Source:
`replay_paper` -/
def Replay.sell (replay : Replay) (decision : CopySellDecision) (fill : PaperSellFill) (exit : String) :
    Replay :=
  match replay.opened decision.mint with
  | none => replay
  | some round =>
    if round.tokens ≤ 0 then replay
    else
      let sold := min fill.tokenAmount round.tokens
      let costSold := round.cost * sold / round.tokens
      let left : OpenRound :=
        { round with
          tokens := round.tokens - sold
          cost := round.cost - costSold
          realizedCost := round.realizedCost + costSold
          proceeds := round.proceeds + fill.netProceedsSol }
      let legs := replay.legs ++ [⟨decision.decidedAt, exit, fill.netProceedsSol - costSold⟩]
      if left.tokens ≤ round.tokens * closeResidueFraction then
        { opened := Function.update replay.opened decision.mint none
          rounds := replay.rounds ++ [left.close decision.mint exit decision.decidedAt]
          legs }
      else { replay with opened := Function.update replay.opened decision.mint (some left), legs }

/-- One turn of the loop; `exitRule` is the exit rule that a decision carries. Source:
`replay_paper` -/
def replayRow (exitRule : CopySellDecision → Option PaperExitRule) (replay : Replay)
    (row : CopyActivityRow) :
    Replay :=
  match row.outcome with
  | .paperFilled decision => replay.buy decision
  | .paperSellObserved decision =>
    match decision.paperFill with
    | none => replay
    | some fill => replay.sell decision fill (exitLabel (exitRule decision))
  | _ => replay

/-- The locals after the loop. Source: `replay_paper` -/
def replayRows (exitRule : CopySellDecision → Option PaperExitRule) (rows : List CopyActivityRow) :
    Replay :=
  rows.foldl (replayRow exitRule) ⟨fun _ => none, [], []⟩

/-! ## The totals -/

/-- What is held of a token and what was realized with it. -/
structure PaperTotals where
  tokenAmount : ℚ
  costBasisSol : ℚ
  realizedCostSol : ℚ
  realizedProceedsSol : ℚ
  deriving DecidableEq

/-- The totals of a row of the ledger, if there is one. -/
def ledgerTotals : Option PaperPosition → PaperTotals
  | none => ⟨0, 0, 0, 0⟩
  | some position =>
    ⟨position.tokenAmount, position.costBasisSol, position.realizedCostSol,
      position.realizedProceedsSol⟩

/-- The closed rounds of a token. -/
def Replay.roundsOf (replay : Replay) (mint : String) : List CopyRound :=
  replay.rounds.filter (·.mint = mint)

/-- The totals of a replay: of the open round, and of the closed ones. -/
def Replay.totals (replay : Replay) (mint : String) : PaperTotals :=
  let round := (replay.opened mint).getD .default
  { tokenAmount := round.tokens
    costBasisSol := round.cost
    realizedCostSol := ((replay.roundsOf mint).map (·.investedSol)).sum + round.realizedCost
    realizedProceedsSol := ((replay.roundsOf mint).map (·.proceedsSol)).sum + round.proceeds }

/-- A sell of a holding leaves more than the residue, or sells it out. -/
def SellsOut (position : Option PaperPosition) (fill : PaperSellFill) : Prop :=
  ∀ held ∈ position, held.tokenAmount ≤ fill.tokenAmount ∨
    held.tokenAmount * closeResidueFraction < held.tokenAmount - fill.tokenAmount

instance (position : Option PaperPosition) (fill : PaperSellFill) :
    Decidable (SellsOut position fill) :=
  inferInstanceAs (Decidable (∀ held ∈ position, _))

/-- Ledger and replay say the same of a token, which has an open round exactly while its row is
open. -/
structure Agrees (position : Option PaperPosition) (replay : Replay) (mint : String) : Prop where
  totals : replay.totals mint = ledgerTotals position
  opened : (replay.opened mint).isSome = position.any (·.closedAt.isNone)

variable {position : Option PaperPosition} {replay replay' : Replay} {mint : String}

lemma agrees_nil (mint : String) : Agrees none ⟨fun _ => none, [], []⟩ mint := ⟨by
  simp [Replay.totals, Replay.roundsOf, OpenRound.default, ledgerTotals], rfl⟩

lemma Agrees.frame (h : Agrees position replay mint)
    (hopened : replay'.opened mint = replay.opened mint)
    (hrounds : replay'.roundsOf mint = replay.roundsOf mint) : Agrees position replay' mint := by
  refine ⟨?_, by rw [hopened, h.opened]⟩
  rw [← h.totals]
  simp only [Replay.totals, hopened, hrounds]

lemma Agrees.buy {decision : PaperDecision} (h : Agrees position replay decision.mint) :
    Agrees (some (applyPaperBuy position decision.fill decision.decidedAt)) (replay.buy decision)
      decision.mint := by
  have htotals := h.totals
  have hbuy : ∀ total : PaperTotals, replay.totals decision.mint = total →
      (replay.buy decision).totals decision.mint =
        { total with
          tokenAmount := total.tokenAmount + decision.fill.tokenAmount
          costBasisSol := total.costBasisSol + decision.fill.totalCostSol } := by
    rintro total rfl
    simp [Replay.totals, Replay.buy, Replay.roundsOf]
  refine ⟨?_, ?_⟩
  · rw [hbuy _ htotals]
    cases position with
    | none | some held => simp [ledgerTotals, applyPaperBuy]
  · cases position <;> simp [Replay.buy, applyPaperBuy]

variable {decision : CopySellDecision}

lemma Agrees.sell {fill : PaperSellFill} (h : Agrees position replay decision.mint)
    (hsells : SellsOut position fill) (exit : String) :
    Agrees (position.map fun held =>
        applyPaperSell held fill.tokenAmount fill.netProceedsSol fill.marketPriceSol decision.decidedAt)
      (replay.sell decision fill exit) decision.mint := by
  have hopened := h.opened
  cases hround : replay.opened decision.mint with
  | none =>
    -- the row is not there or closed, so both leave it
    rw [hround] at hopened
    have hsame : replay.sell decision fill exit = replay := by simp [Replay.sell, hround]
    rw [hsame]
    cases position with
    | none => exact h
    | some held =>
      have hclosed : held.closedAt.isSome = true := by simpa using hopened
      have hleft : applyPaperSell held fill.tokenAmount fill.netProceedsSol fill.marketPriceSol
          decision.decidedAt = held := by simp [applyPaperSell, hclosed]
      simpa [hleft] using h
  | some round =>
    rw [hround] at hopened
    cases position with
    | none => simp at hopened
    | some held =>
      have hopen : held.closedAt = none := by simpa using hopened
      have htotals := h.totals
      simp only [Replay.totals, hround, Option.getD_some, ledgerTotals,
        PaperTotals.mk.injEq] at htotals
      obtain ⟨htokens, hcost, hrealized, hproceeds⟩ := htotals
      by_cases hempty : held.tokenAmount ≤ 0
      · have hsame : replay.sell decision fill exit = replay := by
          simp [Replay.sell, hround, htokens, hempty]
        have hleft : applyPaperSell held fill.tokenAmount fill.netProceedsSol fill.marketPriceSol
            decision.decidedAt = held := by simp [applyPaperSell, hempty]
        simpa [hsame, hleft] using h
      · have hheld : 0 < held.tokenAmount := not_le.mp hempty
        have hresidue : 0 ≤ held.tokenAmount * closeResidueFraction :=
          mul_nonneg hheld.le (by norm_num [closeResidueFraction])
        rcases hsells held rfl with hall | hsome
        · -- sold out: the whole cost goes with the tokens
          have hsold : min fill.tokenAmount held.tokenAmount = held.tokenAmount := min_eq_right hall
          have hwhole : held.costBasisSol * held.tokenAmount / held.tokenAmount =
              held.costBasisSol :=
            mul_div_cancel_right₀ _ hheld.ne'
          constructor
          · simp only [Replay.sell, hround, htokens, hcost, hempty, if_false, hsold, sub_self,
              hresidue, if_true, Option.map_some, applyPaperSell, hopen, Option.isSome_none,
              Bool.false_eq_true, or_self, decide_true, ledgerTotals, Replay.totals,
              update_self, Option.getD_none, OpenRound.default, Replay.roundsOf,
              filter_append, map_append, sum_append, hwhole]
            simp only [OpenRound.close, decide_true, filter_cons_of_pos, filter_nil,
              map_cons, map_nil, sum_cons, sum_nil, PaperTotals.mk.injEq,
                true_and]
            simp only [Replay.roundsOf] at hrealized hproceeds
            constructor
            · linarith
            · linarith
          · simp [Replay.sell, applyPaperSell, hround, htokens, hempty, hsold, hresidue, hopen]
        · -- some is left, so neither closes
          have hsold : min fill.tokenAmount held.tokenAmount = fill.tokenAmount := by
            refine min_eq_left (sub_nonneg.mp (hresidue.trans hsome.le))
          constructor
          · simp only [Replay.sell, hround, htokens, hcost, hempty, if_false, hsold,
              not_le.mpr hsome, Option.map_some, applyPaperSell, hopen, Option.isSome_none,
              Bool.false_eq_true, or_self, decide_false, ledgerTotals, Replay.totals,
              update_self, Option.getD_some, PaperTotals.mk.injEq, true_and]
            simp only [Replay.roundsOf] at hrealized hproceeds ⊢
            constructor
            · linarith
            · linarith
          · simp [Replay.sell, applyPaperSell, hround, htokens, hempty, hsold, not_le.mpr hsome,
              hopen]
            linarith

lemma roundsOf_sell (hother : decision.mint ≠ mint) (fill : PaperSellFill) (exit : String) :
    (replay.sell decision fill exit).roundsOf mint = replay.roundsOf mint := by
  unfold Replay.sell
  split
  · rfl
  · dsimp only
    split
    · rfl
    · split
      · simp [Replay.roundsOf, OpenRound.close, hother]
      · rfl

lemma opened_sell (hother : decision.mint ≠ mint) (fill : PaperSellFill) (exit : String) :
    (replay.sell decision fill exit).opened mint = replay.opened mint := by
  unfold Replay.sell
  split
  · rfl
  · dsimp only
    split
    · rfl
    · split
      · exact update_of_ne hother.symm _ _
      · exact update_of_ne hother.symm _ _

/-! ## What is booked -/

/-- What a booked outcome makes of a row of the ledger. -/
def CopyOutcome.bookedOn (key : ℤ × String) (position : Option PaperPosition) :
    CopyOutcome → Option PaperPosition
  | .paperFilled decision =>
    if (decision.taskId, decision.mint) = key then
      some (applyPaperBuy position decision.fill decision.decidedAt)
    else position
  | .paperSellObserved decision =>
    match decision.paperFill with
    | some fill =>
      if (decision.taskId, decision.mint) = key then
        position.map fun held =>
          applyPaperSell held fill.tokenAmount fill.netProceedsSol fill.marketPriceSol
            decision.decidedAt
      else position
    | none => position
  | _ => position

variable {database : CopyDatabase}

@[simp] lemma paperPositions_settleClaim (outcome : CopyOutcome) :
    (database.settleClaim outcome).paperPositions = database.paperPositions := by
  unfold CopyDatabase.settleClaim
  split <;> rfl

@[simp] lemma paperPositions_insertDecision (outcome : CopyOutcome) :
    (database.insertDecision outcome).2.paperPositions = database.paperPositions := by
  unfold CopyDatabase.insertDecision
  split <;> rfl

lemma paperPositions_bookOutcome (outcome : CopyOutcome) (key : ℤ × String) :
    (database.bookOutcome outcome).paperPositions key =
      outcome.bookedOn key (database.paperPositions key) := by
  cases outcome with
  | paperFilled decision =>
    by_cases hkey : (decision.taskId, decision.mint) = key
    · subst hkey
      simp [CopyDatabase.bookOutcome, CopyDatabase.bookPaperBuy, CopyDatabase.addSpend,
        CopyOutcome.bookedOn]
    · simp [CopyDatabase.bookOutcome, CopyDatabase.bookPaperBuy, CopyDatabase.addSpend,
        CopyOutcome.bookedOn, hkey, update_of_ne (Ne.symm hkey)]
  | paperSellObserved decision =>
    cases hfill : decision.paperFill with
    | none => simp [CopyDatabase.bookOutcome, CopyOutcome.bookedOn, hfill]
    | some fill =>
      by_cases hkey : (decision.taskId, decision.mint) = key
      · subst hkey
        simp [CopyDatabase.bookOutcome, CopyDatabase.bookPaperSell, CopyOutcome.bookedOn, hfill]
      · simp [CopyDatabase.bookOutcome, CopyDatabase.bookPaperSell, CopyOutcome.bookedOn, hfill,
          hkey, update_of_ne (Ne.symm hkey)]
  | _ => rfl

lemma paperPositions_recordOutcome (outcome : CopyOutcome) (key : ℤ × String) :
    (database.recordOutcome outcome).2.paperPositions key =
      if (database.decision outcome.key).isNone then outcome.bookedOn key (database.paperPositions key)
      else database.paperPositions key := by
  unfold CopyDatabase.recordOutcome
  dsimp only
  rw [paperPositions_settleClaim]
  cases hdecision : database.decision outcome.key with
  | none =>
    have hinserted : (database.insertDecision outcome).1 = true := by
      simp [CopyDatabase.insertDecision, hdecision]
    simp [hinserted, paperPositions_bookOutcome]
  | some existing =>
    have hinserted : (database.insertDecision outcome).1 = false := by
      simp [CopyDatabase.insertDecision, hdecision]
    simp only [hinserted, Option.isNone_some, Bool.false_eq_true, if_false]
    split
    · exact congrFun (paperPositions_insertDecision outcome) key
    · exact congrFun (paperPositions_insertDecision outcome) key

variable {outcome : CopyOutcome}

lemma bookedOn_of_ne {key : ℤ × String} (hother : outcome.key.1 ≠ key.1) :
    outcome.bookedOn key position = position := by
  have hkey : ∀ mint, (outcome.key.1, mint) ≠ key := by
    rintro mint rfl
    exact hother rfl
  cases outcome with
  | paperFilled decision => exact if_neg (hkey _)
  | paperSellObserved decision =>
    cases hfill : decision.paperFill with
    | none => simp [CopyOutcome.bookedOn, hfill]
    | some fill =>
      simp only [CopyOutcome.bookedOn, hfill]
      exact if_neg (hkey _)
  | _ => rfl

lemma recorded_recordOutcome (outcome : CopyOutcome) :
    (database.recordOutcome outcome).1 =
      ((database.decision outcome.key).isNone || database.isConfirmationUpgrade outcome) := by
  unfold CopyDatabase.recordOutcome
  dsimp only
  cases hdecision : database.decision outcome.key <;> simp [CopyDatabase.insertDecision, hdecision]

lemma agrees_replayRow (exitRule : CopySellDecision → Option PaperExitRule) (row : CopyActivityRow)
    (h : Agrees position replay mint)
    (hsells : ∀ decision, row.outcome = .paperSellObserved decision → decision.mint = mint →
      ∀ fill ∈ decision.paperFill, SellsOut position fill) :
    Agrees (row.outcome.bookedOn (row.outcome.key.1, mint) position)
      (replayRow exitRule replay row) mint := by
  unfold replayRow
  cases hout : row.outcome with
  | paperFilled decision =>
    by_cases hmint : decision.mint = mint
    · subst hmint
      simpa [CopyOutcome.bookedOn, CopyOutcome.key] using h.buy
    · have hother : mint ≠ decision.mint := Ne.symm hmint
      simp only [CopyOutcome.bookedOn, CopyOutcome.key, Prod.mk.injEq, true_and, hmint, if_false]
      exact h.frame (update_of_ne hother _ _) rfl
  | paperSellObserved decision =>
    cases hfill : decision.paperFill with
    | none => simpa [CopyOutcome.bookedOn, hfill] using h
    | some fill =>
      by_cases hmint : decision.mint = mint
      · subst hmint
        have hsold := h.sell (hsells decision hout rfl fill hfill) (exitLabel (exitRule decision))
        simpa [CopyOutcome.bookedOn, CopyOutcome.key, hfill] using hsold
      · simp only [CopyOutcome.bookedOn, CopyOutcome.key, hfill, Prod.mk.injEq, true_and, hmint,
          if_false]
        exact h.frame (opened_sell hmint _ _) (roundsOf_sell hmint _ _)
  | _ => exact h

/-! ## A run -/

/-- The rows are numbered as they come. -/
structure Numbered (activity : List CopyActivityRow) : Prop where
  sorted : activity.Pairwise (·.id ≤ ·.id)
  bounded : ∀ row ∈ activity, row.id ≤ activity.length

variable {activity : List CopyActivityRow}

lemma Numbered.append (h : Numbered activity) (taskId : ℤ) (outcome : CopyOutcome) :
    Numbered (activity ++ [⟨activity.length + 1, taskId, outcome⟩]) := by
  constructor
  · refine pairwise_append.mpr ⟨h.sorted, pairwise_singleton _ _, ?_⟩
    intro row hrow next hnext
    rw [mem_singleton.mp hnext]
    exact (h.bounded row hrow).trans (Nat.le_succ _)
  · intro row hrow
    rw [length_append, length_singleton]
    rcases mem_append.mp hrow with hold | hnew
    · exact (h.bounded row hold).trans (Nat.le_succ _)
    · rw [mem_singleton.mp hnew]

lemma ordered_eq (h : Numbered activity) (taskId : ℤ) :
    ordered taskId activity = activity.filter (·.taskId = taskId) := by
  refine mergeSort_of_pairwise ((h.sorted.filter _).imp ?_)
  intro row next hle
  simpa using hle

lemma recordAll_append (before : List CopyOutcome) (outcome : CopyOutcome) :
    recordAll (before ++ [outcome]) = (recordAll before).record outcome := by
  simp [recordAll]

lemma numbered_recordAll (outcomes : List CopyOutcome) : Numbered (recordAll outcomes).activity := by
  induction outcomes using List.reverseRecOn with
  | nil => exact ⟨List.Pairwise.nil, fun row hrow => absurd hrow not_mem_nil⟩
  | append_singleton before outcome ih =>
    rw [recordAll_append]
    simp only [CopyLedger.record]
    split
    · exact ih.append _ _
    · exact ih

/-- A sell that is recorded leaves more than the residue, or sells out. -/
def CopyLedger.SellsOut (ledger : CopyLedger) (outcome : CopyOutcome) : Prop :=
  match outcome with
  | .paperSellObserved decision =>
    ledger.database.decision outcome.key = none → ∀ fill ∈ decision.paperFill,
      Copy.SellsOut (ledger.database.paperPositions (decision.taskId, decision.mint)) fill
  | _ => True

/-- So does each sell of a run, when its turn comes. -/
def Clean (outcomes : List CopyOutcome) : Prop :=
  ∀ before outcome, before ++ [outcome] <+: outcomes → (recordAll before).SellsOut outcome

lemma Clean.append {before : List CopyOutcome} (h : Clean before)
    (hsells : (recordAll before).SellsOut outcome) : Clean (before ++ [outcome]) := by
  intro earlier next hprefix
  rcases prefix_concat_iff.mp hprefix with heq | hearlier
  · obtain ⟨rfl, hnext⟩ := append_inj' heq rfl
    rwa [singleton_inj.mp hnext]
  · exact h earlier next hearlier

lemma agrees_record (exitRule : CopySellDecision → Option PaperExitRule) {ledger : CopyLedger}
    {taskId : ℤ} (hsells : ledger.SellsOut outcome)
    (h : Agrees (ledger.database.paperPositions (taskId, mint))
      (replayRows exitRule (ledger.activity.filter (·.taskId = taskId))) mint) :
    Agrees ((ledger.record outcome).database.paperPositions (taskId, mint))
      (replayRows exitRule ((ledger.record outcome).activity.filter (·.taskId = taskId))) mint := by
  simp only [CopyLedger.record, paperPositions_recordOutcome, recorded_recordOutcome]
  cases hdecision : ledger.database.decision outcome.key with
  | none =>
    simp only [Option.isNone_none, Bool.true_or, if_true, filter_append]
    by_cases htask : outcome.key.1 = taskId
    · -- the new row is the last one of the task
      subst htask
      have hrow := agrees_replayRow exitRule ⟨ledger.activity.length + 1, outcome.key.1, outcome⟩ h
        fun decision hout hmint fill hfill => by
          obtain rfl : outcome = .paperSellObserved decision := hout
          rw [← hmint]
          exact hsells hdecision fill hfill
      simpa [replayRows] using hrow
    · rw [bookedOn_of_ne htask]
      simpa [htask] using h
  | some existing =>
    simp only [Option.isNone_some, Bool.false_or, Bool.false_eq_true, if_false]
    split
    · -- a confirmation has a row, of which nothing is replayed
      rename_i hupgrade
      cases outcome with
      | liveConfirmed decision =>
        rw [filter_append, replayRows, foldl_append]
        by_cases htask : (CopyOutcome.liveConfirmed decision).key.1 = taskId
        · simpa [htask, replayRow, replayRows] using h
        · simpa [htask, replayRows] using h
      | _ => simp [CopyDatabase.isConfirmationUpgrade] at hupgrade
    · exact h

variable {outcomes : List CopyOutcome}

lemma agrees_recordAll (exitRule : CopySellDecision → Option PaperExitRule)
    (hclean : Clean outcomes) (taskId : ℤ) (mint : String) :
    Agrees ((recordAll outcomes).database.paperPositions (taskId, mint))
      (replayRows exitRule (ordered taskId (recordAll outcomes).activity)) mint := by
  rw [ordered_eq (numbered_recordAll _)]
  induction outcomes using List.reverseRecOn with
  | nil => exact agrees_nil mint
  | append_singleton before outcome ih =>
    rw [recordAll_append]
    refine agrees_record exitRule (hclean before outcome prefix_rfl) (ih ?_)
    intro earlier next hbefore
    exact hclean earlier next (hbefore.trans (prefix_append _ _))

/-! ## The books balance -/

/-- What was invested is the cost held and the cost realized, and neither tokens nor cost are
owed. -/
structure PaperPosition.Balanced (held : PaperPosition) : Prop where
  invested : held.investedSol = held.costBasisSol + held.realizedCostSol
  tokens : 0 ≤ held.tokenAmount
  cost : 0 ≤ held.costBasisSol

/-- A fill adds tokens, and costs. -/
def CopyOutcome.Adds : CopyOutcome → Prop
  | .paperFilled decision => 0 ≤ decision.fill.tokenAmount ∧ 0 ≤ decision.fill.totalCostSol
  | _ => True

lemma balanced_applyPaperBuy {fill : PaperFill} (decidedAt : ℤ)
    (h : ∀ held, position = some held → held.Balanced) (htokens : 0 ≤ fill.tokenAmount)
    (hcost : 0 ≤ fill.totalCostSol) : (applyPaperBuy position fill decidedAt).Balanced := by
  cases position with
  | none =>
    constructor
    · simp [applyPaperBuy]
    · exact htokens
    · exact hcost
  | some held =>
    obtain ⟨hinvested, hheld, hbasis⟩ := h held rfl
    constructor
    · simp only [applyPaperBuy, hinvested]
      ring
    · exact add_nonneg hheld htokens
    · exact add_nonneg hbasis hcost

lemma balanced_applyPaperSell {held : PaperPosition} (h : held.Balanced)
    (tokenAmount netProceedsSol priceSol : ℚ) (soldAt : ℤ) :
    (applyPaperSell held tokenAmount netProceedsSol priceSol soldAt).Balanced := by
  obtain ⟨hinvested, htokens, hcost⟩ := h
  have hmoved := cost_applyPaperSell held tokenAmount netProceedsSol priceSol soldAt
  have hsame : (applyPaperSell held tokenAmount netProceedsSol priceSol soldAt).investedSol =
      held.investedSol := by
    unfold applyPaperSell
    split <;> rfl
  constructor
  · rw [hsame, hinvested, hmoved]
  · unfold applyPaperSell
    split
    · exact htokens
    · dsimp only
      split
      · exact le_rfl
      · exact sub_nonneg.mpr (min_le_right _ _)
  · unfold applyPaperSell
    split
    · exact hcost
    · rename_i hopen
      have hheld : 0 < held.tokenAmount := not_le.mp (not_or.mp hopen).2
      dsimp only
      split
      · exact le_rfl
      · have hshare : held.costBasisSol * min tokenAmount held.tokenAmount ≤
            held.costBasisSol * held.tokenAmount :=
          mul_le_mul_of_nonneg_left (min_le_right _ _) hcost
        exact sub_nonneg.mpr ((div_le_iff₀ hheld).mpr hshare)

lemma balanced_bookedOn (hadds : outcome.Adds) (key : ℤ × String)
    (h : ∀ held, position = some held → held.Balanced) :
    ∀ held, outcome.bookedOn key position = some held → held.Balanced := by
  cases outcome with
  | paperFilled decision =>
    simp only [CopyOutcome.bookedOn]
    split
    · intro held hheld
      rw [← Option.some.inj hheld]
      exact balanced_applyPaperBuy _ h hadds.1 hadds.2
    · exact h
  | paperSellObserved decision =>
    simp only [CopyOutcome.bookedOn]
    split
    · split
      · intro held hheld
        obtain ⟨before, hbefore, rfl⟩ := Option.map_eq_some_iff.mp hheld
        exact balanced_applyPaperSell (h before hbefore) _ _ _ _
      · exact h
    · exact h
  | _ => exact h

lemma balanced_recordAll (hadds : ∀ outcome ∈ outcomes, outcome.Adds) (key : ℤ × String) :
    ∀ held, (recordAll outcomes).database.paperPositions key = some held → held.Balanced := by
  induction outcomes using List.reverseRecOn with
  | nil =>
    intro held hheld
    simp [recordAll, CopyDatabase.empty] at hheld
  | append_singleton before outcome ih =>
    have ih := ih fun earlier hearlier => hadds earlier (mem_append_left _ hearlier)
    rw [recordAll_append]
    simp only [CopyLedger.record, paperPositions_recordOutcome]
    split
    · exact balanced_bookedOn (hadds outcome (by simp)) key ih
    · exact ih

/-- **The replay reproduces the ledger**: at every prefix of a run whose fills add and whose sells
leave more than the residue or sell out, it has the tokens, the cost, the realized cost and the
proceeds of every row, and in every row what was invested is the cost held and the cost realized. -/
theorem replayPaper_agrees (exitRule : CopySellDecision → Option PaperExitRule)
    (outcomes : List CopyOutcome)
    (hadds : ∀ outcome ∈ outcomes, outcome.Adds) (hclean : Clean outcomes) {recorded : List CopyOutcome}
    (hrecorded : recorded <+: outcomes) (taskId : ℤ) (mint : String) :
    (replayRows exitRule (ordered taskId (recordAll recorded).activity)).totals mint =
        ledgerTotals ((recordAll recorded).database.paperPositions (taskId, mint)) ∧
      ∀ held, (recordAll recorded).database.paperPositions (taskId, mint) = some held →
        held.investedSol = held.costBasisSol + held.realizedCostSol ∧
          0 ≤ held.tokenAmount ∧ 0 ≤ held.costBasisSol := by
  have hprefix : Clean recorded :=
      fun before outcome hbefore => hclean before outcome (hbefore.trans hrecorded)
  refine ⟨(agrees_recordAll exitRule hprefix taskId mint).totals, ?_⟩
  intro held hheld
  obtain ⟨hinvested, htokens, hcost⟩ :=
    balanced_recordAll (fun outcome hmem => hadds outcome (hrecorded.subset hmem))
      (taskId, mint) held hheld
  exact ⟨hinvested, htokens, hcost⟩

/-- A fill of a token at a cost. -/
def fillOf (signature : String) (tokenAmount costSol : ℚ) : CopyOutcome :=
  .paperFilled
    { taskId := 1
      targetAddress := "target"
      signature
      mint := "token"
      targetSizeSol := costSol
      targetTokenAmount := tokenAmount
      sizedSol := costSol
      fill := ⟨costSol, 1, true, 1, tokenAmount, 0, 0, 0, costSol⟩
      decidedAt := 0 }

/-- A sell of a token for its proceeds. -/
def sellOf (signature : String) (tokenAmount proceedsSol : ℚ) : CopyOutcome :=
  .paperSellObserved
    { taskId := 1
      targetAddress := "target"
      targetSignature := signature
      mint := "token"
      targetTokenAmount := tokenAmount
      targetSolAmount := proceedsSol
      exitPercentage := none
      transactionSignature := none
      error := none
      decidedAt := 0
      paperFill := some ⟨tokenAmount, 1, true, 1, proceedsSol, 0, 0, 0, proceedsSol⟩ }

/-- Ten tokens are bought, four and then the others are sold, and five are bought again. -/
theorem replayPaper_agrees_reentry :
    (replayRows (fun _ => none) (ordered 1 (recordAll
      [fillOf "first" 10 5, sellOf "some" 4 3, sellOf "others" 20 2,
        fillOf "again" 5 1]).activity)).totals
        "token" = ⟨5, 1, 5, 5⟩ := by
  have hclean : Clean ([] ++ [fillOf "first" 10 5] ++ [sellOf "some" 4 3] ++ [sellOf "others" 20 2] ++
      [fillOf "again" 5 1]) := by
    refine (((Clean.append ?_ ?_).append ?_).append ?_).append ?_
    · intro before outcome hprefix
      exact absurd (prefix_nil.mp hprefix) (by simp)
    · exact True.intro
    · show _ = none → ∀ fill ∈ some _, Copy.SellsOut _ fill
      decide +kernel
    · show _ = none → ∀ fill ∈ some _, Copy.SellsOut _ fill
      decide +kernel
    · exact True.intro
  refine ((replayPaper_agrees (fun _ => none) _ ?_ hclean prefix_rfl 1 "token").1).trans ?_
  · simp [fillOf, sellOf, CopyOutcome.Adds]
  · decide +kernel

end Dripline.Trader.Copy

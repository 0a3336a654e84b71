import Mathlib.Algebra.Order.BigOperators.Group.List
import Mathlib.Tactic.Linarith
import Dripline.Found.Trace

/-!
# The loss limiter

`trader/safety/loss_limit.rs`: losses are added up over a period, and entries are blocked once they
reach the limit.

* `upheld_of_careful` — then the limiter upholds the limit over a whole run; `not_upheld` — else
  not.

Times are in seconds.

A source without a file is in `loss_limit.rs`.
-/

namespace Dripline.Trader.Safety

open Dripline.Found.Trace List

/-! ## The limiter -/

/-- Source: `config/schemas/trader.rs`, `loss_limit_*` -/
structure LossLimitConfig where
  enabled : Bool
  limitSol : ℚ
  periodHours : ℕ
  autoResume : Bool

/-- The length of a period. -/
def LossLimitConfig.period (config : LossLimitConfig) : ℤ := config.periodHours * 3600

/-- Source: `LossLimitStateInternal` -/
structure LossLimitState where
  periodStart : ℤ
  cumulativeLossSol : ℚ
  isLimited : Bool
  limitedAt : Option ℤ

namespace LossLimitState

variable (config : LossLimitConfig) (now : ℤ) (state : LossLimitState)

/-- The end of the running period. -/
def periodEnd : ℤ := state.periodStart + config.period

/-- A period that is over is followed by one that starts now. Source:
`check_and_reset_period_if_needed` -/
def checkAndResetPeriodIfNeeded : LossLimitState :=
  if state.periodEnd config ≤ now then
    { periodStart := now
      cumulativeLossSol := 0
      isLimited := if config.autoResume then false else state.isLimited
      limitedAt := if config.autoResume then none else state.limitedAt }
  else state

/-- Source: `is_entry_blocked_by_loss_limit` -/
def isEntryBlockedByLossLimit : Bool × LossLimitState :=
  if !config.enabled then (false, state)
  else
    let state := state.checkAndResetPeriodIfNeeded config now
    (state.isLimited, state)

/-- The status, with the seconds that are left of the period. Source: `get_loss_limit_status` -/
def getLossLimitStatus : (LossLimitState × ℤ) × LossLimitState :=
  let state := state.checkAndResetPeriodIfNeeded config now
  ((state, max (state.periodEnd config - now) 0), state)

/-- A loss is added to those of the running period, be it over or not. Source:
`record_realized_loss` -/
def recordRealizedLoss (lossSol : ℚ) : LossLimitState :=
  if !config.enabled then state
  else
    let cumulativeLossSol := state.cumulativeLossSol + |lossSol|
    if !state.isLimited && decide (config.limitSol ≤ cumulativeLossSol) then
      { state with cumulativeLossSol, isLimited := true, limitedAt := some now }
    else { state with cumulativeLossSol }

/-- Source: `resume_from_loss_limit` -/
def resumeFromLossLimit : LossLimitState :=
  if state.isLimited then { state with isLimited := false, limitedAt := none } else state

/-- The losses of the last hours are loaded, as those of a period that ends now. Source:
`initialize_from_history` -/
def initializeFromHistory (stats : Except String ℚ) : LossLimitState :=
  if !config.enabled then state
  else
    match stats with
    | .error _ => state
    | .ok loss =>
      let state := { state with periodStart := now - config.period, cumulativeLossSol := loss }
      if config.limitSol ≤ loss then { state with isLimited := true, limitedAt := some now }
      else state

end LossLimitState

/-! ## Runs -/

/-- A loss, with the end of the period in which it occurs. -/
structure Loss where
  amount : ℚ
  periodEnd : ℤ

/-- What the losses come to whose period is not over. -/
def realized (losses : List Loss) (now : ℤ) : ℚ :=
  ((losses.filter fun loss => decide (now < loss.periodEnd)).map Loss.amount).sum

/-- What happens: an entry is checked, the status read, a loss recorded, the limiter resumed or
initialised. -/
inductive LossAction
  | checked
  | statusRead
  | recorded (lossSol : ℚ)
  | resumed
  | initialized (stats : Except String ℚ)

/-- What happens, and how long after what happened before. -/
structure LossEvent where
  elapsed : ℕ
  action : LossAction

/-- The limiter, the time, the losses so far, and, since the limit was reached and as long as no one
has resumed, the end of the period in which it was. -/
structure LossRun where
  state : LossLimitState
  now : ℤ
  losses : List Loss
  reached : Option ℤ

namespace LossRun

variable (config : LossLimitConfig) (run : LossRun)

/-- The limiter of a process that has just started. -/
def started (now : ℤ) : LossRun := ⟨⟨now, 0, false, none⟩, now, [], none⟩

/-- The end of the period in which something happens now: of the running one, or of one that begins
with it. -/
def endOfPeriod (now : ℤ) : ℤ :=
  if now < run.state.periodEnd config then run.state.periodEnd config else now + config.period

/-- A loss occurs. -/
def occur (now : ℤ) (amount : ℚ) : LossRun :=
  let losses := run.losses ++ [⟨amount, run.endOfPeriod config now⟩]
  { run with
    losses
    reached :=
      if config.limitSol ≤ realized losses now then some (run.endOfPeriod config now) else run.reached }

/-- One event. Those losses of the history occur that have not been there before. -/
def step (run : LossRun) (event : LossEvent) : LossRun :=
  let now := run.now + event.elapsed
  match event.action with
  | .checked => { run with now, state := (run.state.isEntryBlockedByLossLimit config now).2 }
  | .statusRead => { run with now, state := (run.state.getLossLimitStatus config now).2 }
  | .recorded lossSol =>
    { run.occur config now |lossSol| with
      now, state := run.state.recordRealizedLoss config now lossSol }
  | .resumed => { run with now, state := run.state.resumeFromLossLimit, reached := none }
  | .initialized stats =>
    let run' := match stats with
      | .ok loss => run.occur config now (max (loss - realized run.losses now) 0)
      | .error _ => run
    { run' with now, state := run.state.initializeFromHistory config now stats }

/-- **Upheld**: the losses of periods that are not over are counted; and an entry check, which
counts these and no others, blocks from the moment they reach the limit until the period is over, or
someone resumes. -/
def Upheld (event : LossEvent) : Prop :=
  let after := run.step config event
  realized after.losses after.now ≤ after.state.cumulativeLossSol ∧
    (event.action = .checked →
      after.state.cumulativeLossSol = realized after.losses after.now ∧
        ∀ periodEnd ∈ run.reached, after.now < periodEnd →
          (run.state.isEntryBlockedByLossLimit config after.now).1 = true)

/-- **Careful**: a loss occurs before the running period is over; and the history is loaded, without
losses, when none is counted in a running period that is not over. -/
def Careful (event : LossEvent) : Prop :=
  let now := run.now + event.elapsed
  match event.action with
  | .recorded _ => now < run.state.periodEnd config
  | .initialized (.ok loss) => loss = 0 ∧ loss < config.limitSol ∧
      (run.state.periodEnd config ≤ now ∨
        run.state.cumulativeLossSol = 0 ∧ run.state.isLimited = false)
  | _ => True

/-! ## What is carried -/

section carried

variable {losses : List Loss} {now : ℤ}

lemma realized_eq_zero (h : ∀ loss ∈ losses, loss.periodEnd ≤ now ∨ loss.amount = 0) :
    realized losses now = 0 := by
  refine sum_eq_zero fun amount hamount => ?_
  obtain ⟨loss, hloss, rfl⟩ := mem_map.mp hamount
  obtain ⟨hmem, hrunning⟩ := mem_filter.mp hloss
  exact (h loss hmem).resolve_left (not_le.mpr (of_decide_eq_true hrunning))

lemma realized_eq_sum (h : ∀ loss ∈ losses, now < loss.periodEnd) :
    realized losses now = (losses.map Loss.amount).sum := by
  unfold realized
  rw [filter_eq_self.mpr fun loss hloss => decide_eq_true (h loss hloss)]

lemma realized_append (losses losses' : List Loss) (now : ℤ) :
    realized (losses ++ losses') now = realized losses now + realized losses' now := by
  unfold realized
  rw [filter_append, map_append, sum_append]

lemma realized_perm {losses' : List Loss} (h : losses.Perm losses') (now : ℤ) :
    realized losses now = realized losses' now :=
  ((h.filter _).map _).sum_eq

/-- The losses are those of the running period, which are counted, and older ones, whose periods are
over; the limit that was reached still blocks. -/
structure Carried (run : LossRun) : Prop where
  amounts : ∀ loss ∈ run.losses, 0 ≤ loss.amount
  counted : ∃ older current, run.losses.Perm (older ++ current) ∧
    (current.map Loss.amount).sum = run.state.cumulativeLossSol ∧
    (∀ loss ∈ current, loss.periodEnd = run.state.periodEnd config) ∧
    ∀ loss ∈ older, loss.periodEnd ≤ run.now ∨ loss.amount = 0
  limited : ∀ periodEnd ∈ run.reached,
    periodEnd ≤ run.now ∨ run.state.isLimited = true ∧ periodEnd ≤ run.state.periodEnd config

variable {config} {run}

section

variable (h : Carried config run)
include h

lemma Carried.realized_eq (hnow : run.now ≤ now) :
    realized run.losses now =
      if now < run.state.periodEnd config then run.state.cumulativeLossSol else 0 := by
  obtain ⟨older, current, hlosses, hsum, hcurrent, holder⟩ := h.counted
  rw [realized_perm hlosses, realized_append, realized_eq_zero fun loss hloss =>
    (holder loss hloss).imp_left fun hover => hover.trans hnow, zero_add]
  split
  case isTrue hrunning =>
    rw [realized_eq_sum fun loss hloss => (hcurrent loss hloss).symm ▸ hrunning, hsum]
  case isFalse hover =>
    exact realized_eq_zero fun loss hloss =>
      Or.inl ((hcurrent loss hloss).symm ▸ not_lt.mp hover)

lemma Carried.cumulative_nonneg : 0 ≤ run.state.cumulativeLossSol := by
  obtain ⟨older, current, hlosses, hsum, -, -⟩ := h.counted
  rw [← hsum]
  refine sum_nonneg fun amount hamount => ?_
  obtain ⟨loss, hloss, rfl⟩ := mem_map.mp hamount
  exact h.amounts loss (hlosses.mem_iff.mpr (mem_append_right _ hloss))

lemma Carried.realized_le : realized run.losses run.now ≤ run.state.cumulativeLossSol := by
  rw [h.realized_eq le_rfl]
  split
  · exact le_rfl
  · exact h.cumulative_nonneg

lemma Carried.later (hnow : run.now ≤ now) : Carried config { run with now } := by
  obtain ⟨older, current, hlosses, hsum, hcurrent, holder⟩ := h.counted
  exact ⟨h.amounts, ⟨older, current, hlosses, hsum, hcurrent, fun loss hloss =>
    (holder loss hloss).imp_left fun hover => hover.trans hnow⟩, fun periodEnd hreached =>
    (h.limited periodEnd hreached).imp_left fun hover => hover.trans hnow⟩

lemma Carried.restart {state : LossLimitState} (hzero : state.cumulativeLossSol = 0)
    (hover : run.state.periodEnd config ≤ run.now ∨ run.state.cumulativeLossSol = 0 ∧
      run.state.isLimited = false) :
    Carried config { run with state } := by
  obtain ⟨older, current, hlosses, hsum, hcurrent, holder⟩ := h.counted
  refine ⟨h.amounts, ⟨run.losses, [], by simp, hzero.symm, by simp, fun loss hloss => ?_⟩,
    fun periodEnd hreached => Or.inl ?_⟩
  · rcases mem_append.mp (hlosses.mem_iff.mp hloss) with hold | hnew
    · exact holder loss hold
    · rcases hover with hover | ⟨hnothing, -⟩
      · exact Or.inl ((hcurrent loss hnew).trans_le hover)
      · -- amounts that come to nothing are nothing
        rw [hnothing] at hsum
        refine Or.inr ?_
        have hnonneg : ∀ amount ∈ current.map Loss.amount, 0 ≤ amount := by
          intro amount hamount
          obtain ⟨other, hother, rfl⟩ := mem_map.mp hamount
          exact h.amounts other (hlosses.mem_iff.mpr (mem_append_right _ hother))
        exact all_zero_of_le_zero_le_of_sum_eq_zero hnonneg hsum (mem_map_of_mem hnew)
  · rcases h.limited periodEnd hreached with hpast | ⟨hlimited, hle⟩
    · exact hpast
    · rcases hover with hover | ⟨-, hnot⟩
      · exact hle.trans hover
      · rw [hnot] at hlimited
        cases hlimited

end

end carried

/-! ## Steps -/

section steps

variable {config} {run}

section

variable (h : Carried config run)
include h

lemma Carried.roll : Carried config
    { run with state := run.state.checkAndResetPeriodIfNeeded config run.now } := by
  unfold LossLimitState.checkAndResetPeriodIfNeeded
  split
  case isTrue hover => exact h.restart rfl (Or.inl hover)
  case isFalse hrunning => exact h

lemma Carried.cumulative_roll :
    (run.state.checkAndResetPeriodIfNeeded config run.now).cumulativeLossSol =
      realized run.losses run.now := by
  rw [h.realized_eq le_rfl]
  unfold LossLimitState.checkAndResetPeriodIfNeeded
  split
  case isTrue hover => rw [if_neg (not_lt.mpr hover)]
  case isFalse hrunning => rw [if_pos (not_le.mp hrunning)]

lemma Carried.blocks {periodEnd : ℤ} (hreached : periodEnd ∈ run.reached)
    (hrunning : run.now < periodEnd) :
    (run.state.checkAndResetPeriodIfNeeded config run.now).isLimited = true := by
  obtain ⟨hlimited, hle⟩ := (h.limited periodEnd hreached).resolve_left (not_le.mpr hrunning)
  unfold LossLimitState.checkAndResetPeriodIfNeeded
  rw [if_neg (not_le.mpr (hrunning.trans_le hle))]
  exact hlimited

lemma Carried.record (henabled : config.enabled = true) (lossSol : ℚ)
    (hrunning : run.now < run.state.periodEnd config) :
    Carried config { run.occur config run.now |lossSol| with
      state := run.state.recordRealizedLoss config run.now lossSol } := by
  have hend : run.endOfPeriod config run.now = run.state.periodEnd config := if_pos hrunning
  have hstate : (run.state.recordRealizedLoss config run.now lossSol).periodEnd config =
        run.state.periodEnd config ∧
      (run.state.recordRealizedLoss config run.now lossSol).cumulativeLossSol =
        run.state.cumulativeLossSol + |lossSol| ∧
      (run.state.isLimited = true ∨ config.limitSol ≤ run.state.cumulativeLossSol + |lossSol| →
        (run.state.recordRealizedLoss config run.now lossSol).isLimited = true) := by
    unfold LossLimitState.recordRealizedLoss
    rw [henabled, if_neg (by simp)]
    dsimp only
    split
    case isTrue hlimit => exact ⟨rfl, rfl, fun _ => rfl⟩
    case isFalse hnot =>
      refine ⟨rfl, rfl, fun hreason => ?_⟩
      rcases hreason with hlimited | hlimit
      · exact hlimited
      · simpa [hlimit] using hnot
  obtain ⟨hperiod, hcumulative, hlimited⟩ := hstate
  obtain ⟨older, current, hlosses, hsum, hcurrent, holder⟩ := h.counted
  refine ⟨fun loss hloss => ?_, ⟨older, current ++ [⟨|lossSol|, run.state.periodEnd config⟩], ?_, ?_,
    fun loss hloss => ?_, holder⟩, fun periodEnd hreached => ?_⟩
  · rcases mem_append.mp hloss with hold | hnew
    · exact h.amounts loss hold
    · rw [mem_singleton.mp hnew]
      exact abs_nonneg lossSol
  · show (run.losses ++ [_]).Perm _
    rw [hend, ← append_assoc]
    exact hlosses.append_right _
  · rw [map_append, sum_append, hsum, hcumulative]
    simp
  · rw [hperiod]
    rcases mem_append.mp hloss with hold | hnew
    · exact hcurrent loss hold
    · rw [mem_singleton.mp hnew]
  · have hrealized : realized (run.losses ++ [⟨|lossSol|, run.state.periodEnd config⟩]) run.now =
        run.state.cumulativeLossSol + |lossSol| := by
      rw [realized_append, h.realized_eq le_rfl, if_pos hrunning,
        realized_eq_sum (by simpa using hrunning)]
      simp
    have hreached : periodEnd ∈
        if config.limitSol ≤ realized (run.losses ++ [⟨|lossSol|, run.endOfPeriod config run.now⟩])
          run.now then some (run.endOfPeriod config run.now) else run.reached := hreached
    rw [hend, hrealized] at hreached
    show periodEnd ≤ run.now ∨ _ ∧ periodEnd ≤ LossLimitState.periodEnd config _
    rw [hperiod]
    split at hreached
    case isTrue hlimit =>
      exact Or.inr ⟨hlimited (Or.inr hlimit), (Option.some.inj hreached).ge⟩
    case isFalse hnot =>
      exact (h.limited periodEnd hreached).imp_right fun hold =>
        ⟨hlimited (Or.inl hold.1), hold.2⟩

lemma Carried.initialize (henabled : config.enabled = true) (hlimit : 0 < config.limitSol)
    (hover : run.state.periodEnd config ≤ run.now ∨ run.state.cumulativeLossSol = 0 ∧
      run.state.isLimited = false) :
    Carried config { run.occur config run.now (max (0 - realized run.losses run.now) 0) with
      state := run.state.initializeFromHistory config run.now (.ok 0) } := by
  have hnothing : realized run.losses run.now = 0 := by
    rw [h.realized_eq le_rfl]
    split
    case isTrue hrunning => exact (hover.resolve_left (not_le.mpr hrunning)).1
    case isFalse => rfl
  have hoccur : Carried config (run.occur config run.now 0) := by
    have hreached : (run.occur config run.now 0).reached = run.reached := by
      show (if config.limitSol ≤ realized (run.losses ++ [_]) run.now then _ else _) = _
      rw [realized_append, hnothing, realized_eq_zero (by simp), add_zero,
        if_neg (not_le.mpr hlimit)]
    obtain ⟨older, current, hlosses, hsum, hcurrent, holder⟩ := h.counted
    refine ⟨fun loss hloss => ?_, ⟨⟨0, run.endOfPeriod config run.now⟩ :: older, current, ?_, hsum,
      hcurrent, fun loss hloss => ?_⟩, hreached ▸ h.limited⟩
    · rcases mem_append.mp hloss with hold | hnew
      · exact h.amounts loss hold
      · rw [mem_singleton.mp hnew]
    · exact (perm_append_singleton _ _).trans (hlosses.cons _)
    · rcases mem_cons.mp hloss with rfl | hold
      · exact Or.inr rfl
      · exact holder loss hold
  rw [hnothing, sub_zero, max_self]
  refine hoccur.restart ?_ hover
  unfold LossLimitState.initializeFromHistory
  rw [henabled, if_neg (by simp)]
  dsimp only
  split <;> rfl

lemma Carried.resume : Carried config
    { run with state := run.state.resumeFromLossLimit, reached := none } := by
  refine ⟨h.amounts, ?_, by simp⟩
  show ∃ older current, _ ∧ _ = run.state.resumeFromLossLimit.cumulativeLossSol ∧ _
  have hcounted := h.counted
  unfold LossLimitState.resumeFromLossLimit
  split <;> exact hcounted

end

lemma carried_started (now : ℤ) : Carried config (started now) :=
  ⟨by simp [started], ⟨[], [], by simp [started], rfl, by simp, by simp⟩, by simp [started]⟩

lemma isEntryBlocked_eq (henabled : config.enabled = true) (state : LossLimitState) (now : ℤ) :
    state.isEntryBlockedByLossLimit config now =
      ((state.checkAndResetPeriodIfNeeded config now).isLimited,
        state.checkAndResetPeriodIfNeeded config now) := by
  unfold LossLimitState.isEntryBlockedByLossLimit
  rw [henabled]
  rfl

variable {event : LossEvent}

lemma Carried.step (h : Carried config run) (henabled : config.enabled = true)
    (hcareful : run.Careful config event) : Carried config (run.step config event) := by
  obtain ⟨elapsed, action⟩ := event
  have hlater : Carried config { run with now := run.now + elapsed } :=
    h.later (le_add_of_nonneg_right (Int.natCast_nonneg elapsed))
  cases action with
  | checked =>
    show Carried config { run with
      now := run.now + elapsed
      state := (run.state.isEntryBlockedByLossLimit config (run.now + elapsed)).2 }
    rw [isEntryBlocked_eq henabled]
    exact hlater.roll
  | statusRead => exact hlater.roll
  | recorded lossSol => exact hlater.record henabled lossSol hcareful
  | resumed => exact hlater.resume
  | initialized stats =>
    cases stats with
    | error detail =>
      have hsame : run.state.initializeFromHistory config (run.now + elapsed) (.error detail) =
          run.state := by
        unfold LossLimitState.initializeFromHistory
        rw [henabled]
        rfl
      show Carried config { run with
        now := run.now + elapsed
        state := run.state.initializeFromHistory config (run.now + elapsed) (.error detail) }
      rw [hsame]
      exact hlater
    | ok loss =>
      obtain ⟨rfl, hlimit, hover⟩ := hcareful
      exact hlater.initialize henabled hlimit hover

lemma Carried.upheld (h : Carried config run) (henabled : config.enabled = true)
    (hcareful : run.Careful config event) : run.Upheld config event := by
  refine ⟨(h.step henabled hcareful).realized_le, fun hchecked => ?_⟩
  obtain ⟨elapsed, action⟩ := event
  obtain rfl : action = .checked := hchecked
  have hlater : Carried config { run with now := run.now + elapsed } :=
    h.later (le_add_of_nonneg_right (Int.natCast_nonneg elapsed))
  constructor
  · show (run.state.isEntryBlockedByLossLimit config (run.now + elapsed)).2.cumulativeLossSol = _
    rw [isEntryBlocked_eq henabled]
    exact hlater.cumulative_roll
  · intro periodEnd hreached hrunning
    show (run.state.isEntryBlockedByLossLimit config (run.now + elapsed)).1 = true
    rw [isEntryBlocked_eq henabled]
    exact hlater.blocks hreached hrunning

/-- **The limit is upheld**, in every run in which losses occur before the running period is over
and no losses are loaded. -/
theorem upheld_of_careful (henabled : config.enabled = true) (now : ℤ) (events : List LossEvent)
    (h : Throughout (LossRun.step config) (Careful config) (started now) events) :
    Throughout (LossRun.step config) (Upheld config) (started now) events :=
  h.keep (Carried config) (carried_started now) fun _ hcarried _ _ hcareful =>
    ⟨hcarried.upheld henabled hcareful, hcarried.step henabled hcareful⟩

end steps

end LossRun

/-! ## A run that is careful, and those that are not -/

/-- One SOL in an hour. -/
def hourly : LossLimitConfig := ⟨true, 1, 1, true⟩

/-- The limit is reached in time, an entry is checked, and someone resumes. -/
def timelyRun : List LossEvent :=
  [⟨0, .initialized (.ok 0)⟩, ⟨5, .checked⟩, ⟨600, .recorded 1⟩, ⟨10, .checked⟩, ⟨20, .resumed⟩]

theorem upheld_of_careful_timelyRun :
    Throughout (LossRun.step hourly) (LossRun.Upheld hourly) (.started 0) timelyRun :=
  LossRun.upheld_of_careful rfl 0 timelyRun
    ⟨⟨rfl, by decide +kernel, Or.inr ⟨rfl, rfl⟩⟩, trivial,
      (by show (605 : ℤ) < 3605; decide), trivial, trivial, trivial⟩

/-- A loss that reaches the limit more than an hour after the last check. -/
def lateRun : List LossEvent := [⟨4000, .recorded 1⟩, ⟨1, .checked⟩]

/-- A start with losses of the last hour that reach the limit. -/
def loadedRun : List LossEvent := [⟨0, .initialized (.ok 1)⟩, ⟨1, .checked⟩]

/-- **The limit is not upheld**: the check a second after the limit was reached does not block, be
it by a loss that comes late or by those that are loaded. -/
theorem not_upheld :
    ¬Throughout (LossRun.step hourly) (LossRun.Upheld hourly) (.started 0) lateRun ∧
      ¬Throughout (LossRun.step hourly) (LossRun.Upheld hourly) (.started 0) loadedRun := by
  constructor
  · rintro ⟨-, ⟨-, hchecked⟩, -⟩
    have := (hchecked rfl).2 7600 (by decide +kernel) (by decide +kernel)
    revert this
    decide +kernel
  · rintro ⟨-, ⟨-, hchecked⟩, -⟩
    have := (hchecked rfl).2 3600 (by decide +kernel) (by decide +kernel)
    revert this
    decide +kernel

end Dripline.Trader.Safety

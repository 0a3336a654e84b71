import Mathlib.Tactic.Linarith
import Dripline.Found.Gates
import Dripline.Found.Trace
import Dripline.Positions.Transition

/-!
# How often the bot trades on its own

Opens have a cooldown, and automatic adds a cooldown and a number of their own. Each is checked
before the swap, against what is written after it, or after it is verified.

* `Pace`, `Pace.step` — opens and adds from their check on, with the verification of the adds.
* `limited_of_unhurried` — then the limits hold; `not_limited` — of themselves they do not.
-/

namespace Dripline.Positions

open Dripline.Found.Gates Dripline.Found.Trace

/-! ## The checks -/

/-- Source: `config/schemas/positions.rs` and `config/schemas/trader.rs`, the limits of automatic
trades -/
structure TradeLimits where
  positionOpenCooldownSecs : ℤ
  dcaEnabled : Bool
  dcaMaxCount : ℕ
  dcaCooldownMinutes : ℤ

/-- `TimeDelta::num_seconds`. -/
def numSeconds (elapsed : ℤ) : ℤ := elapsed.tdiv (10 ^ 9)

/-- `TimeDelta::num_minutes`. -/
def numMinutes (elapsed : ℤ) : ℤ := (numSeconds elapsed).tdiv 60

/-- What a check refuses with. Source: `positions/error.rs`, `DcaDisabled` and `TransitionFailed` -/
inductive LimitError
  | dcaDisabled
  | transitionFailed (transition mint detail : String)

/-- Source: `operations/open.rs`, the cooldown of `open_position_impl` -/
def checkOpenCooldown (limits : TradeLimits) (lastOpen : Option DateTime) (mint : String)
    (now : DateTime) : Except LimitError Unit :=
  match lastOpen with
  | some last =>
    let elapsed := numSeconds (now - last)
    if elapsed < limits.positionOpenCooldownSecs then
      .error (.transitionFailed "open" mint
        ("opening positions cooldown active: wait " ++
          toString (limits.positionOpenCooldownSecs - elapsed) ++ "s"))
    else .ok ()
  | none => .ok ()

/-- What the bot may do on its own; the user is not asked. Source: `operations/dca.rs`,
`add_to_position`, `TradeOrigin::Auto` -/
def checkAddLimits (limits : TradeLimits) (position : Position) (now : DateTime) :
    Except LimitError Unit :=
  if !limits.dcaEnabled then .error .dcaDisabled
  else if limits.dcaMaxCount % 2 ^ 32 ≤ position.dcaCount then
    .error (.transitionFailed "dca" position.mint
      ("maximum DCA count reached: " ++ toString position.dcaCount ++ " (max: " ++
        toString limits.dcaMaxCount ++ ")"))
  else
    match position.lastDcaTime with
    | some last =>
      let elapsed := numMinutes (now - last)
      if elapsed < limits.dcaCooldownMinutes then
        .error (.transitionFailed "dca" position.mint
          ("DCA cooldown active: " ++ toString (limits.dcaCooldownMinutes - elapsed) ++
            " minutes remaining"))
      else .ok ()
    | none => .ok ()

lemma mul_le_of_le_tdiv {elapsed unit units : ℤ} (hunit : 0 < unit) (hunits : 0 < units)
    (h : units ≤ elapsed.tdiv unit) : units * unit ≤ elapsed := by
  rcases Int.le_total 0 elapsed with hnonneg | hneg
  · rw [Int.tdiv_eq_ediv_of_nonneg hnonneg] at h
    exact (Int.le_ediv_iff_mul_le hunit).mp h
  · have hle := Int.tdiv_le_tdiv hunit hneg
    rw [Int.zero_tdiv] at hle
    omega

variable {now : DateTime}

lemma apart_of_checkOpenCooldown {limits : TradeLimits} {lastOpen : Option DateTime} {mint : String}
    (h : checkOpenCooldown limits lastOpen mint now = .ok ()) :
    limits.positionOpenCooldownSecs * 10 ^ 9 ≤ 0 ∨
      ∀ last, lastOpen = some last → last + limits.positionOpenCooldownSecs * 10 ^ 9 ≤ now := by
  rcases Int.lt_or_le 0 limits.positionOpenCooldownSecs with hpos | hnonpos
  · right
    rintro last rfl
    have helapsed : limits.positionOpenCooldownSecs ≤ numSeconds (now - last) := by
      unfold checkOpenCooldown at h
      by_contra hlt
      simp [Int.not_le.mp hlt] at h
    have hpast := mul_le_of_le_tdiv (by norm_num) hpos helapsed
    linarith
  · left
    omega

lemma apart_of_checkAddLimits {limits : TradeLimits} {position : Position}
    (h : checkAddLimits limits position now = .ok ()) :
    position.dcaCount < limits.dcaMaxCount % 2 ^ 32 ∧
      (limits.dcaCooldownMinutes * (60 * 10 ^ 9) ≤ 0 ∨
        ∀ last, position.lastDcaTime = some last →
          last + limits.dcaCooldownMinutes * (60 * 10 ^ 9) ≤ now) := by
  unfold checkAddLimits at h
  split at h
  · cases h
  · split at h
    case isTrue => cases h
    case isFalse hroom =>
      refine ⟨Nat.lt_of_not_le hroom, ?_⟩
      rcases Int.lt_or_le 0 limits.dcaCooldownMinutes with hpos | hnonpos
      · right
        intro last hlast
        have helapsed : limits.dcaCooldownMinutes ≤ numMinutes (now - last) := by
          rw [hlast] at h
          by_contra hlt
          simp [Int.not_le.mp hlt] at h
        have hseconds := mul_le_of_le_tdiv (by norm_num) hpos helapsed
        have hpast := mul_le_of_le_tdiv (by norm_num) (by omega) hseconds
        linarith
      · left
        omega

/-! ## Opens and adds under way -/

/-- The clock, when the last open was done, the opens that passed their check and those that were
submitted, the rows, and the same for the adds of each position; whoever passed the check of an add
holds the lock of its mint. Source: `state.rs`, `LAST_OPEN_TIME`, `POSITIONS` and
`POSITION_LOCKS` -/
structure Pace where
  now : DateTime
  lastOpen : Option DateTime
  opening : List ℕ
  opened : List (Act ℕ)
  rows : ℤ → Option Position
  adding : ℤ → List ℕ
  added : ℤ → List (Act ℕ)

/-- An open is checked, submits its swap or fails to, and is done: its row is there, and the time is
noted. An add is checked, submits its swap or fails to; the swap is verified, or has failed. A row
is written for another reason. -/
inductive PaceEvent
  | openChecked (task : ℕ) (mint : String)
  | openSubmitted (task : ℕ)
  | openFailed (task : ℕ)
  | openDone (task : ℕ) (positionId : ℤ) (mint symbol name signature : String)
      (entryPrice tradeSizeSol : ℚ) (origin : PositionOrigin) (management : PositionManagement)
  | addChecked (task : ℕ) (positionId : ℤ)
  | addSubmitted (task : ℕ) (positionId : ℤ)
  | addFailed (task : ℕ) (positionId : ℤ)
  | addVerified (task : ℕ) (positionId : ℤ) (decimals tokensBought : ℕ) (solSpent : ℚ)
      (dcaTime : DateTime)
  | addRejected (task : ℕ) (positionId : ℤ)
  | rowWritten (positionId : ℤ) (position : Position)

namespace Pace

variable (pace : Pace)

/-- A process that has just started has submitted nothing. -/
def started (now : DateTime) (rows : ℤ → Option Position) : Pace :=
  ⟨now, none, [], [], rows, fun _ => [], fun _ => []⟩

/-- What the check of an open reads, and the opens. -/
def opens : Gate ℕ := ⟨pace.lastOpen, 0, pace.opening, pace.opened⟩

/-- What the check of an add reads, and the adds of the position. -/
def adds (positionId : ℤ) : Gate ℕ :=
  ⟨(pace.rows positionId).bind (·.lastDcaTime), ((pace.rows positionId).map (·.dcaCount)).getD 0,
    pace.adding positionId, pace.added positionId⟩

/-- The opens are written. -/
def withOpens (gate : Gate ℕ) : Pace :=
  { pace with lastOpen := gate.last, opening := gate.admitted, opened := gate.acts }

/-- The adds of a position are written; their time and number are in its row. -/
def withAdds (positionId : ℤ) (gate : Gate ℕ) : Pace :=
  { pace with
    adding := Function.update pace.adding positionId gate.admitted
    added := Function.update pace.added positionId gate.acts }

/-- The row of a position is written. -/
def withRow (positionId : ℤ) (position : Position) : Pace :=
  { pace with rows := Function.update pace.rows positionId (some position) }

/-- What an event does at its time. Source: `operations/open.rs`, `open_position_impl`;
`operations/dca.rs`, `add_to_position`; `apply.rs`, `DcaSubmitted`, `DcaVerified` and `DcaFailed` -/
def proceed (limits : TradeLimits) : PaceEvent → Pace
  | .openChecked task mint =>
    match checkOpenCooldown limits pace.lastOpen mint pace.now with
    | .ok _ => pace.withOpens (pace.opens.enter task)
    | .error _ => pace
  | .openSubmitted task =>
    if task ∈ pace.opening then pace.withOpens (pace.opens.act task pace.now) else pace
  | .openFailed task => pace.withOpens (pace.opens.giveUp task)
  | .openDone task positionId mint symbol name signature entryPrice tradeSizeSol origin management =>
    if pace.opened.any (·.isOwed task) ∧ pace.rows positionId = none then
      (pace.withOpens (pace.opens.note task pace.now 0)).withRow positionId
        (openedPosition (some positionId) mint symbol name signature entryPrice tradeSizeSol origin
          management pace.now)
    else pace
  | .addChecked task positionId =>
    match pace.rows positionId, pace.adding positionId with
    | some position, [] =>
      match checkAddLimits limits position pace.now with
      | .ok _ => pace.withAdds positionId ((pace.adds positionId).enter task)
      | .error _ => pace
    | _, _ => pace
  | .addSubmitted task positionId =>
    if task ∈ pace.adding positionId then
      pace.withAdds positionId ((pace.adds positionId).act task pace.now)
    else pace
  | .addFailed task positionId => pace.withAdds positionId ((pace.adds positionId).giveUp task)
  | .addVerified task positionId decimals tokensBought solSpent dcaTime =>
    match pace.rows positionId with
    | some position =>
      if (pace.added positionId).any (·.isOwed task) then
        let verified := position.dcaVerified decimals tokensBought solSpent dcaTime
        (pace.withAdds positionId
          ((pace.adds positionId).note task dcaTime verified.dcaCount)).withRow positionId verified
      else pace
    | none => pace
  | .addRejected task positionId => pace.withAdds positionId ((pace.adds positionId).fail task)
  | .rowWritten positionId position =>
    if (pace.rows positionId).any fun row =>
        row.dcaCount == position.dcaCount && row.lastDcaTime == position.lastDcaTime then
      pace.withRow positionId position
    else pace

/-- One event, at a time that is not before those of the earlier ones. -/
def step (limits : TradeLimits) (pace : Pace) (event : DateTime × PaceEvent) : Pace :=
  if pace.now ≤ event.1 then proceed { pace with now := event.1 } limits event.2 else pace

/-- The opens keep the cooldown, and the adds of each position their number and their cooldown. -/
structure Limited (limits : TradeLimits) : Prop where
  opens : pace.opens.times.Pairwise fun earlier later =>
    earlier + limits.positionOpenCooldownSecs * 10 ^ 9 ≤ later
  count : ∀ positionId, (pace.added positionId).length ≤ limits.dcaMaxCount
  adds : ∀ positionId, (pace.adds positionId).times.Pairwise fun earlier later =>
    earlier + limits.dcaCooldownMinutes * (60 * 10 ^ 9) ≤ later

/-- No open is between its check and its end when another is checked, no add of the position waits
to be verified when the next is checked, and none is verified with a time before it was
submitted. -/
def Unhurried (event : DateTime × PaceEvent) : Prop :=
  match event.2 with
  | .openChecked _ _ => pace.opening = [] ∧ pace.opens.pending = []
  | .addChecked _ positionId => (pace.adds positionId).pending = []
  | .addVerified task positionId _ _ _ dcaTime =>
    ∀ add ∈ pace.added positionId, add.isOwed task = true → add.time ≤ dcaTime
  | _ => True

/-! ## What holds under way -/

/-- The opens and the adds of each position keep their distance, and the adds their number. -/
structure Orderly (limits : TradeLimits) (pace : Pace) : Prop where
  opens : Paced (limits.positionOpenCooldownSecs * 10 ^ 9) pace.now pace.opens
  adds : ∀ positionId,
    Paced (limits.dcaCooldownMinutes * (60 * 10 ^ 9)) pace.now (pace.adds positionId)
  counted : ∀ positionId, Counted (limits.dcaMaxCount % 2 ^ 32) (pace.adds positionId)

section orderly

variable {limits : TradeLimits} {pace : Pace} {positionId : ℤ}

lemma orderly_started (now : DateTime) (rows : ℤ → Option Position) :
    Orderly limits (started now rows) :=
  ⟨paced_nil, fun _ => paced_nil, fun _ => counted_nil⟩

lemma Orderly.limited (h : Orderly limits pace) : pace.Limited limits where
  opens := h.opens.spaced
  count := fun positionId =>
    (Nat.le_add_right _ _).trans ((h.counted positionId).bounded.trans (Nat.mod_le _ _))
  adds := fun positionId => (h.adds positionId).spaced

lemma Orderly.tick (h : Orderly limits pace) {now : DateTime} (hnow : pace.now ≤ now) :
    Orderly limits { pace with now := now } :=
  ⟨h.opens.tick hnow, fun positionId => (h.adds positionId).tick hnow, h.counted⟩

variable {gate : Gate ℕ}

lemma Orderly.withOpens (h : Orderly limits pace) (hcount : gate.count = 0)
    (hgate : Paced (limits.positionOpenCooldownSecs * 10 ^ 9) pace.now gate) :
    Orderly limits (pace.withOpens gate) where
  opens := by
    obtain ⟨last, count, admitted, acts⟩ := gate
    subst hcount
    exact hgate
  adds := h.adds
  counted := h.counted

lemma Orderly.replaced (h : Orderly limits pace) (positionId : ℤ) {after : Pace}
    (hnow : after.now = pace.now) (hopens : after.opens = pace.opens)
    (hother : ∀ other ≠ positionId, after.adds other = pace.adds other)
    (hpaced : Paced (limits.dcaCooldownMinutes * (60 * 10 ^ 9)) pace.now (after.adds positionId))
    (hcounted : Counted (limits.dcaMaxCount % 2 ^ 32) (after.adds positionId)) :
    Orderly limits after := by
  refine ⟨?_, fun other => ?_, fun other => ?_⟩
  · rw [hnow, hopens]
    exact h.opens
  · rw [hnow]
    by_cases hne : other = positionId
    · exact hne ▸ hpaced
    · exact hother other hne ▸ h.adds other
  · by_cases hne : other = positionId
    · exact hne ▸ hcounted
    · exact hother other hne ▸ h.counted other

lemma adds_withAdds (hlast : gate.last = (pace.adds positionId).last)
    (hcount : gate.count = (pace.adds positionId).count) :
    (pace.withAdds positionId gate).adds positionId = gate := by
  obtain ⟨last, count, admitted, acts⟩ := gate
  simp only at hlast hcount
  simp [Pace.adds, Pace.withAdds, hlast, hcount]

variable {other : ℤ}

lemma adds_withAdds_of_ne (hne : other ≠ positionId) :
    (pace.withAdds positionId gate).adds other = pace.adds other := by
  simp [Pace.adds, Pace.withAdds, Function.update_of_ne hne]

lemma adds_withRow (position : Position) :
    (pace.withRow positionId position).adds positionId =
      { pace.adds positionId with last := position.lastDcaTime, count := position.dcaCount } := by
  simp [Pace.adds, Pace.withRow]

variable {position : Position}

lemma adds_withRow_of_ne (hne : other ≠ positionId) :
    (pace.withRow positionId position).adds other = pace.adds other := by
  simp [Pace.adds, Pace.withRow, Function.update_of_ne hne]

lemma Orderly.withAdds (h : Orderly limits pace) (hlast : gate.last = (pace.adds positionId).last)
    (hcount : gate.count = (pace.adds positionId).count)
    (hpaced : Paced (limits.dcaCooldownMinutes * (60 * 10 ^ 9)) pace.now gate)
    (hcounted : Counted (limits.dcaMaxCount % 2 ^ 32) gate) :
    Orderly limits (pace.withAdds positionId gate) := by
  refine h.replaced positionId rfl rfl (fun _ hne => adds_withAdds_of_ne hne) ?_ ?_
  · rwa [adds_withAdds hlast hcount]
  · rwa [adds_withAdds hlast hcount]

lemma Orderly.withRow (h : Orderly limits pace)
    (hlast : position.lastDcaTime = (pace.adds positionId).last)
    (hcount : position.dcaCount = (pace.adds positionId).count) :
    Orderly limits (pace.withRow positionId position) := by
  have hsame : (pace.withRow positionId position).adds positionId = pace.adds positionId := by
    rw [adds_withRow, hlast, hcount]
  refine h.replaced positionId rfl rfl (fun _ hne => adds_withRow_of_ne hne) ?_ ?_
  · exact hsame ▸ h.adds positionId
  · exact hsame ▸ h.counted positionId

variable {task : ℕ}

lemma Orderly.openDone (h : Orderly limits pace) (howed : pace.opened.any (·.isOwed task) = true) :
    Orderly limits (pace.withOpens (pace.opens.note task pace.now 0)) := by
  obtain ⟨act, hact, hact'⟩ := List.any_eq_true.mp howed
  exact h.withOpens rfl (h.opens.note hact hact' (h.opens.past act hact) 0)

lemma Orderly.addVerified (h : Orderly limits pace) (hrow : pace.rows positionId = some position)
    {add : Act ℕ} (hadd : add ∈ pace.added positionId) (howed : add.isOwed task = true)
    (decimals tokensBought : ℕ) (solSpent : ℚ) {dcaTime : DateTime} (htime : add.time ≤ dcaTime) :
    Orderly limits
      ((pace.withAdds positionId ((pace.adds positionId).note task dcaTime
          (position.dcaVerified decimals tokensBought solSpent dcaTime).dcaCount)).withRow positionId
        (position.dcaVerified decimals tokensBought solSpent dcaTime)) := by
  have hcount : (pace.adds positionId).count = position.dcaCount := by simp [Pace.adds, hrow]
  have hpaced := h.adds positionId
  have hroom : position.dcaCount < limits.dcaMaxCount % 2 ^ 32 := by
    rw [← hcount]
    refine (h.counted positionId).room (Or.inr ?_)
    rw [(hpaced.pending_eq hadd howed).1]
    simp
  -- there is room, so the number does not wrap
  have hnext : (pace.adds positionId).count <
      (position.dcaVerified decimals tokensBought solSpent dcaTime).dcaCount := by
    have hmax := Nat.mod_lt limits.dcaMaxCount (show 0 < 2 ^ 32 by norm_num)
    rw [hcount]
    show position.dcaCount < (position.dcaCount + 1) % 2 ^ 32
    omega
  have hgate : ((pace.withAdds positionId ((pace.adds positionId).note task dcaTime
      (position.dcaVerified decimals tokensBought solSpent dcaTime).dcaCount)).withRow positionId
        (position.dcaVerified decimals tokensBought solSpent dcaTime)).adds positionId =
      (pace.adds positionId).note task dcaTime
        (position.dcaVerified decimals tokensBought solSpent dcaTime).dcaCount := by
    rw [adds_withRow]
    simp [Pace.adds, Pace.withAdds, Gate.note, Position.dcaVerified]
  refine h.replaced positionId rfl rfl (fun _ hne => ?_) ?_ ?_
  · rw [adds_withRow_of_ne hne, adds_withAdds_of_ne hne]
  · rw [hgate]
    exact hpaced.note hadd howed htime _
  · rw [hgate]
    exact (h.counted positionId).note hpaced hadd howed hnext

lemma Orderly.proceed (h : Orderly limits pace) (event : PaceEvent)
    (hunhurried : pace.Unhurried (pace.now, event)) : Orderly limits (pace.proceed limits event) := by
  cases event with
  | openChecked task mint =>
    unfold Pace.proceed
    dsimp only
    cases hcheck : checkOpenCooldown limits pace.lastOpen mint pace.now with
    | error e => exact h
    | ok _ =>
      exact h.withOpens rfl
        (h.opens.enter hunhurried.1 hunhurried.2 (apart_of_checkOpenCooldown hcheck))
  | openSubmitted task =>
    unfold Pace.proceed
    dsimp only
    split
    case isTrue htask => exact h.withOpens rfl (h.opens.act htask)
    case isFalse => exact h
  | openFailed task => exact h.withOpens rfl h.opens.giveUp
  | openDone task positionId mint symbol name signature entryPrice tradeSizeSol origin management =>
    unfold Pace.proceed
    dsimp only
    split
    case isTrue hdone =>
      have hnone : pace.rows positionId = none := hdone.2
      refine (h.openDone hdone.1).withRow ?_ ?_ <;>
        simp [Pace.adds, Pace.withOpens, hnone, openedPosition]
    case isFalse => exact h
  | addChecked task positionId =>
    unfold Pace.proceed
    dsimp only
    split
    case h_1 position hrow hadding =>
      cases hcheck : checkAddLimits limits position pace.now with
      | error e => exact h
      | ok _ =>
        obtain ⟨hroom, hclear⟩ := apart_of_checkAddLimits hcheck
        have hcount : (pace.adds positionId).count = position.dcaCount := by
          simp [Pace.adds, hrow]
        have hlast : (pace.adds positionId).last = position.lastDcaTime := by
          simp [Pace.adds, hrow]
        refine h.withAdds rfl rfl ?_ ?_
        · exact (h.adds positionId).enter hadding hunhurried (hlast ▸ hclear)
        · exact (h.counted positionId).enter hadding hunhurried (hcount ▸ hroom)
    case h_2 => exact h
  | addSubmitted task positionId =>
    unfold Pace.proceed
    dsimp only
    split
    case isTrue htask =>
      exact h.withAdds rfl rfl ((h.adds positionId).act htask) ((h.counted positionId).act htask)
    case isFalse => exact h
  | addFailed task positionId =>
    exact h.withAdds rfl rfl (h.adds positionId).giveUp (h.counted positionId).giveUp
  | addVerified task positionId decimals tokensBought solSpent dcaTime =>
    unfold Pace.proceed
    dsimp only
    split
    case h_1 position hrow =>
      split
      case isTrue howed =>
        obtain ⟨add, hadd, hadd'⟩ := List.any_eq_true.mp howed
        exact h.addVerified hrow hadd hadd' decimals tokensBought solSpent
          (hunhurried add hadd hadd')
      case isFalse => exact h
    case h_2 => exact h
  | addRejected task positionId =>
    exact h.withAdds rfl rfl (h.adds positionId).fail (h.counted positionId).fail
  | rowWritten positionId position =>
    unfold Pace.proceed
    dsimp only
    split
    case isTrue hsame =>
      cases hrow : pace.rows positionId with
      | none => simp [hrow] at hsame
      | some row =>
        simp only [hrow, Option.any_some, Bool.and_eq_true, beq_iff_eq] at hsame
        refine h.withRow ?_ ?_ <;> simp [Pace.adds, hrow, hsame.1, hsame.2]
    case isFalse => exact h

lemma Orderly.step (h : Orderly limits pace) (event : DateTime × PaceEvent)
    (hunhurried : pace.Unhurried event) : Orderly limits (Pace.step limits pace event) := by
  unfold Pace.step
  split
  case isTrue hnow => exact (h.tick hnow).proceed event.2 hunhurried
  case isFalse => exact h

end orderly

end Pace

/-! ## Runs -/

/-- **The limits hold** in a run in which nobody is on the way at a check. -/
theorem limited_of_unhurried (limits : TradeLimits) (now : DateTime) (rows : ℤ → Option Position)
    (events : List (DateTime × PaceEvent))
    (hunhurried : Throughout (Pace.step limits) Pace.Unhurried (Pace.started now rows) events) :
    (events.foldl (Pace.step limits) (Pace.started now rows)).Limited limits := by
  have horderly := hunhurried.final (Pace.Orderly limits) (Pace.orderly_started now rows)
    (fun _ h event _ hevent => h.step event hevent)
  exact horderly.limited

/-- An open cooldown of five seconds, and one add every thirty minutes, at most one. -/
def tightLimits : TradeLimits := ⟨5, true, 1, 30⟩

/-- A position that was opened at the start. -/
def tightRows (positionId : ℤ) : Option Position :=
  if positionId = 7 then
    some (openedPosition (some 7) "DezXAZ8z7PnrnRJjz3wXBoRgixCa6xjnB7YaB1pPB263" "BONK" "Bonk" "entry"
      (1 / 100) 1 (.auto none) .autoTrader 0)
  else none

/-- An open that is done, an add that is verified, and another open five seconds later. -/
def patientRun : List (DateTime × PaceEvent) :=
  [(1 * 10 ^ 9, .openChecked 1 "EKpQGSJtjMFqKZ9KQanSqYXRcF8fBopzLHYxdM65zcjm"),
    (2 * 10 ^ 9, .openSubmitted 1),
    (3 * 10 ^ 9, .openDone 1 8 "EKpQGSJtjMFqKZ9KQanSqYXRcF8fBopzLHYxdM65zcjm" "WIF" "dogwifhat" "first"
      (1 / 100) 1 (.auto none) .autoTrader),
    (4 * 10 ^ 9, .addChecked 2 7),
    (5 * 10 ^ 9, .addSubmitted 2 7),
    (6 * 10 ^ 9, .addVerified 2 7 5 1000 1 (6 * 10 ^ 9)),
    (8 * 10 ^ 9, .openChecked 3 "JUPyiwrYJFskUPiHa7hkeR8VUtAeFoSYbKedZNsDvCN"),
    (9 * 10 ^ 9, .openSubmitted 3)]

theorem limited_of_unhurried_patientRun :
    (patientRun.foldl (Pace.step tightLimits) (Pace.started 0 tightRows)).Limited tightLimits := by
  have hlater : ∀ add ∈ [(⟨2, 5 * 10 ^ 9, false⟩ : Act ℕ)], add.isOwed 2 = true →
      add.time ≤ 6 * 10 ^ 9 := by decide
  exact limited_of_unhurried tightLimits 0 tightRows patientRun
    ⟨⟨rfl, rfl⟩, trivial, trivial, rfl, trivial, hlater, ⟨rfl, rfl⟩, trivial, trivial⟩

/-- Two opens that are checked before either is done, and an add that is checked before the one
before it is verified. -/
def hurriedRun : List (DateTime × PaceEvent) :=
  [(1 * 10 ^ 9, .openChecked 1 "EKpQGSJtjMFqKZ9KQanSqYXRcF8fBopzLHYxdM65zcjm"),
    (1 * 10 ^ 9, .openChecked 2 "JUPyiwrYJFskUPiHa7hkeR8VUtAeFoSYbKedZNsDvCN"),
    (2 * 10 ^ 9, .openSubmitted 1),
    (3 * 10 ^ 9, .openSubmitted 2),
    (4 * 10 ^ 9, .addChecked 3 7),
    (5 * 10 ^ 9, .addSubmitted 3 7),
    (6 * 10 ^ 9, .addChecked 4 7),
    (7 * 10 ^ 9, .addSubmitted 4 7)]

/-- **No limit holds of itself**: two opens a second apart, and two adds two seconds apart where one
is allowed. -/
theorem not_limited :
    let pace := hurriedRun.foldl (Pace.step tightLimits) (Pace.started 0 tightRows)
    (¬ pace.opens.times.Pairwise fun earlier later =>
        earlier + tightLimits.positionOpenCooldownSecs * 10 ^ 9 ≤ later) ∧
      (¬ (pace.added 7).length ≤ tightLimits.dcaMaxCount) ∧
      ¬ (pace.adds 7).times.Pairwise fun earlier later =>
        earlier + tightLimits.dcaCooldownMinutes * (60 * 10 ^ 9) ≤ later := by
  intro pace
  have hopens : pace.opens.times = [2 * 10 ^ 9, 3 * 10 ^ 9] := rfl
  have hadds : (pace.adds 7).times = [5 * 10 ^ 9, 7 * 10 ^ 9] := rfl
  have hcount : (pace.added 7).length = 2 := rfl
  rw [hopens, hadds, hcount]
  decide

end Dripline.Positions

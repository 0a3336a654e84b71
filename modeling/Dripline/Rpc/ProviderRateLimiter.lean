import Mathlib
import Dripline.Found.Trace
import Dripline.Strategies.Types

/-!
# The rate limit of a provider

`rpc/rate_limiter/provider.rs`. Every operation on an atomic is a step of its own; unsigned numbers
wrap, which is how the program is built. The limiter that admits cells is given.

* `sound_iff` — exactly when no error lowers or raises the rate.

A source without a file is in `provider.rs`.
-/

namespace Dripline.Rpc.ProviderRateLimiter

open List

open Dripline.Strategies (F64)
open Dripline.Found.Trace (Throughout)

/-- Numbers of an unsigned 32-bit integer. -/
def u32 : ℕ := 2 ^ 32

/-- `as i32`. -/
def asI32 (value : ℕ) : ℤ := if value < 2 ^ 31 then value else value - 2 ^ 32

/-- `as u32` of a number. -/
def truncate (value : ℚ) : ℕ := min ⌊value⌋₊ (u32 - 1)

/-- What a limiter is made with; the multiplier may be no number. Source: `ProviderRateLimiter` -/
structure Limiter where
  baseRate : ℕ
  backoffMultiplier : Option ℚ
  minRate : ℕ
  baseRate_pos : 0 < baseRate
  baseRate_lt : baseRate < u32
  minRate_lt : minRate < u32
  clamped : ∀ multiplier ∈ backoffMultiplier, 1 / 10 ≤ multiplier ∧ multiplier ≤ 9 / 10

/-- Source: `recovery_rate` -/
def recoveryRate : ℚ := 1 / 10

/-- Source: `recovery_threshold` -/
def recoveryThreshold : ℕ := 10

namespace Limiter

/-- Source: `ProviderRateLimiter::new` -/
def new (ratePerSecond : UInt32) : Limiter where
  baseRate := max ratePerSecond.toNat 1
  backoffMultiplier := some (1 / 2)
  minRate := 1
  baseRate_pos := lt_max_of_lt_right Nat.one_pos
  baseRate_lt := max_lt ratePerSecond.toNat_lt (by decide)
  minRate_lt := by decide
  clamped := by
    rintro multiplier ⟨⟩
    norm_num

variable (limiter : Limiter)

/-- The rate after so many errors in a row. A power of what is no number is none either, but for the
power of zero, and the greater one of it and the least rate is the least rate. Source:
`record_429` -/
def newRate (count : ℕ) : ℕ :=
  match limiter.backoffMultiplier with
  | some multiplier => truncate (max (limiter.baseRate * multiplier ^ asI32 count) limiter.minRate)
  | none => if asI32 count = 0 then truncate (max limiter.baseRate limiter.minRate)
      else truncate limiter.minRate

/-- Source: `record_success`, partial recovery -/
def raisedRate (current : ℕ) : ℕ :=
  let recoveryAmount := truncate (((limiter.baseRate + u32 - current) % u32 : ℕ) * recoveryRate)
  min ((current + recoveryAmount) % u32) limiter.baseRate

end Limiter

/-! ## Calls -/

/-- Source: `provider.rs`, the atomics of `ProviderRateLimiter` -/
structure Shared where
  currentRate : ℕ
  consecutive429s : ℕ
  recoveryProgress : ℕ

/-- Where a call is: what it does next, with what it read. -/
inductive Task
  | countError
  | storeRate (count : ℕ)
  | zeroProgress
  | loadCount
  | addProgress
  | loadRate
  | raiseRate (current : ℕ)
  | restoreCount
  | restoreRate
  | restoreProgress
  | done

/-- The next operation of a call. Source: `record_429`, `record_success`, `reset` -/
def advance (limiter : Limiter) (shared : Shared) : Task → Shared × Task
  | .countError =>
    ({ shared with consecutive429s := (shared.consecutive429s + 1) % u32 },
      .storeRate ((shared.consecutive429s + 1) % u32))
  | .storeRate count => ({ shared with currentRate := limiter.newRate count }, .zeroProgress)
  | .zeroProgress => ({ shared with recoveryProgress := 0 }, .done)
  | .loadCount => (shared, if 0 < shared.consecutive429s then .addProgress else .done)
  | .addProgress =>
    ({ shared with recoveryProgress := (shared.recoveryProgress + 1) % u32 },
      if recoveryThreshold ≤ (shared.recoveryProgress + 1) % u32 then .restoreCount
      else .loadRate)
  | .loadRate => (shared, .raiseRate shared.currentRate)
  | .raiseRate current => ({ shared with currentRate := limiter.raisedRate current }, .done)
  | .restoreCount => ({ shared with consecutive429s := 0 }, .restoreRate)
  | .restoreRate => ({ shared with currentRate := limiter.baseRate }, .restoreProgress)
  | .restoreProgress => ({ shared with recoveryProgress := 0 }, .done)
  | .done => (shared, .done)

/-- A call begins, or goes on. -/
inductive Call
  | record429
  | recordSuccess
  | reset
  | advance (task : ℕ)

/-- The atomics, and where every call is. -/
structure State where
  shared : Shared
  tasks : List Task

/-- A new limiter. -/
def start (limiter : Limiter) : State := ⟨⟨limiter.baseRate, 0, 0⟩, []⟩

/-- One step of the calls. -/
def step (limiter : Limiter) (state : State) : Call → State
  | .record429 => { state with tasks := state.tasks ++ [.countError] }
  | .recordSuccess => { state with tasks := state.tasks ++ [.loadCount] }
  | .reset => { state with tasks := state.tasks ++ [.restoreCount] }
  | .advance index =>
    match state.tasks[index]? with
    | none => state
    | some task =>
      let (shared, task) := advance limiter state.shared task
      ⟨shared, state.tasks.set index task⟩

/-! ## Cells -/

/-- Cells come no faster than a quota admits them: in every stretch, as many as the quota at once,
and as many more in every second. -/
def AtQuota (quota : ℕ) (times : List ℚ) : Prop :=
  ∀ cells, cells <:+: times → ∀ first ∈ cells.head?, ∀ last ∈ cells.getLast?,
    (cells.length : ℚ) ≤ quota + quota * (last - first)

/-- A step of a call, or a cell that a call of `acquire` or `try_acquire` is admitted. -/
inductive Event
  | call (call : Call)
  | cell (time : ℚ)

/-- The calls of a run. -/
def callsOf (run : List Event) : List Call :=
  run.filterMap fun
    | .call call => some call
    | .cell _ => none

/-- When the cells of a run are admitted. -/
def cellsOf (run : List Event) : List ℚ :=
  run.filterMap fun
    | .call _ => none
    | .cell time => some time

/-- The calls, and the cells that were admitted under the rate there is. -/
structure Watched where
  state : State
  cells : List ℚ

/-- An event; another rate begins with no cells. -/
def watch (limiter : Limiter) (watched : Watched) : Event → Watched
  | .call call =>
    let next := step limiter watched.state call
    ⟨next, if next.shared.currentRate = watched.state.shared.currentRate then watched.cells else []⟩
  | .cell time => { watched with cells := watched.cells ++ [time] }

/-- **The rate is in bounds**, and the cells that are admitted under it come no faster. -/
structure Sound (limiter : Limiter) (watched : Watched) : Prop where
  lower : min limiter.minRate limiter.baseRate ≤ watched.state.shared.currentRate
  upper : watched.state.shared.currentRate ≤ limiter.baseRate
  subtraction : ∀ current, Task.raiseRate current ∈ watched.state.tasks → current ≤ limiter.baseRate
  enforced : AtQuota watched.state.shared.currentRate watched.cells

/-- Calls are sound whenever cells are admitted among them, as the limiter admits them: in order,
and at the rate it was built with. -/
def SoundCalls (limiter : Limiter) (calls : List Call) : Prop :=
  ∀ run, callsOf run = calls → (cellsOf run).Pairwise (· ≤ ·) →
    AtQuota limiter.baseRate (cellsOf run) →
      Throughout (watch limiter) (fun watched event => Sound limiter (watch limiter watched event))
        ⟨start limiter, []⟩ run

/-- An error that is about to set the rate leaves it at the base. -/
def LeavesRate (limiter : Limiter) (state : State) (call : Call) : Prop :=
  ∀ index count, call = .advance index → state.tasks[index]? = some (.storeRate count) →
    limiter.newRate count = limiter.baseRate

/-! ## Rates -/

section Rates

variable (limiter : Limiter)

lemma truncate_natCast {value : ℕ} (h : value < u32) : truncate value = value := by
  rw [truncate, Nat.floor_natCast, min_eq_left (Nat.le_sub_one_of_lt h)]

lemma newRate_eq_iff {count : ℕ} (hpos : 0 < count) (hlt : count < 2 ^ 31) :
    limiter.newRate count = limiter.baseRate ↔ limiter.minRate = limiter.baseRate := by
  have hsigned : asI32 count = (count : ℤ) := by rw [asI32, if_pos hlt]
  cases hmultiplier : limiter.backoffMultiplier with
  | none =>
    have hne : asI32 count ≠ 0 := by omega
    simp only [Limiter.newRate, hmultiplier, if_neg hne, truncate_natCast limiter.minRate_lt]
  | some multiplier =>
    obtain ⟨hlow, hhigh⟩ := limiter.clamped multiplier hmultiplier
    have hbase : (0 : ℚ) < limiter.baseRate := by exact_mod_cast limiter.baseRate_pos
    have hpower : multiplier ^ asI32 count ≤ 9 / 10 := by
      rw [hsigned, zpow_natCast]
      exact (pow_le_of_le_one (by linarith) (by linarith) hpos.ne').trans hhigh
    have hbelow : limiter.baseRate * multiplier ^ asI32 count < limiter.baseRate := by
      nlinarith
    simp only [Limiter.newRate, hmultiplier]
    constructor
    · intro heq
      rcases le_total (limiter.baseRate * multiplier ^ asI32 count) limiter.minRate with hle | hle
      · rwa [max_eq_right hle, truncate_natCast limiter.minRate_lt] at heq
      · -- below the base, and so is what is left of it
        have hfloor : ⌊limiter.baseRate * multiplier ^ asI32 count⌋₊ < limiter.baseRate :=
          (Nat.floor_lt' limiter.baseRate_pos.ne').mpr hbelow
        rw [max_eq_left hle, truncate] at heq
        omega
    · intro heq
      rw [heq, max_eq_right hbelow.le, truncate_natCast limiter.baseRate_lt]

lemma raisedRate_baseRate : limiter.raisedRate limiter.baseRate = limiter.baseRate := by
  have hnone : limiter.baseRate + u32 - limiter.baseRate = u32 := by omega
  have hzero : truncate ((0 : ℕ) * recoveryRate) = 0 := by simp [truncate]
  rw [Limiter.raisedRate, hnone, Nat.mod_self]
  simp only [hzero, Nat.add_zero, Nat.mod_eq_of_lt limiter.baseRate_lt, min_self]

/-- The rate is at the base, and so is what calls have read of it. -/
def AtBase (state : State) : Prop :=
  state.shared.currentRate = limiter.baseRate ∧
    ∀ current, Task.raiseRate current ∈ state.tasks → current = limiter.baseRate

variable {limiter} {state : State} {call : Call}

lemma step_atBase (h : AtBase limiter state) (hcall : LeavesRate limiter state call) :
    AtBase limiter (step limiter state call) := by
  have hspawn : ∀ task, (∀ current, task ≠ Task.raiseRate current) →
      AtBase limiter { state with tasks := state.tasks ++ [task] } := by
    intro task hnot
    refine ⟨h.1, fun current hmem => ?_⟩
    rcases mem_append.mp hmem with hold | hnew
    · exact h.2 current hold
    · exact absurd (mem_singleton.mp hnew).symm (hnot current)
  cases call with
  | record429 | recordSuccess | reset => exact hspawn _ nofun
  | advance index =>
    cases htask : state.tasks[index]? with
    | none => simpa only [step, htask] using h
    | some task =>
      have hmem := mem_of_getElem? htask
      have hnext : (advance limiter state.shared task).1.currentRate = limiter.baseRate ∧
          ∀ current, (advance limiter state.shared task).2 = .raiseRate current →
            current = limiter.baseRate := by
        cases task with
        | countError | zeroProgress | restoreCount | restoreProgress | done => exact ⟨h.1, nofun⟩
        | storeRate count => exact ⟨hcall index count rfl htask, nofun⟩
        | loadCount | addProgress =>
          refine ⟨h.1, fun current hcurrent => ?_⟩
          simp only [advance] at hcurrent
          split at hcurrent <;> cases hcurrent
        | loadRate =>
          refine ⟨h.1, fun current hcurrent => ?_⟩
          obtain rfl := Task.raiseRate.inj hcurrent
          exact h.1
        | raiseRate current =>
          obtain rfl := h.2 current hmem
          exact ⟨raisedRate_baseRate limiter, nofun⟩
        | restoreRate => exact ⟨rfl, nofun⟩
      simp only [step, htask]
      refine ⟨hnext.1, fun current hmem => ?_⟩
      rcases mem_or_eq_of_mem_set hmem with hold | hnew
      · exact h.2 current hold
      · exact hnext.2 current hnew.symm

end Rates

/-! ## Cells under a rate -/

section Cells

variable {quota : ℕ} {times : List ℚ}

lemma AtQuota.infix (h : AtQuota quota times) {part : List ℚ} (hpart : part <:+: times) :
    AtQuota quota part := fun cells hcells => h cells (hcells.trans hpart)

lemma atQuota_replicate (quota : ℕ) (time : ℚ) : AtQuota quota (List.replicate quota time) := by
  intro cells hcells first hfirst last hlast
  have hsame : ∀ cell ∈ cells, cell = time := fun cell hcell =>
    eq_of_mem_replicate (hcells.subset hcell)
  rw [hsame first (mem_of_mem_head? hfirst), hsame last (mem_of_getLast? hlast)]
  have hlength := hcells.length_le
  rw [length_replicate] at hlength
  simpa using hlength

lemma le_of_atQuota_replicate {size : ℕ} (hpos : 0 < size) {time : ℚ}
    (h : AtQuota quota (List.replicate size time)) : size ≤ quota := by
  have hne : List.replicate size time ≠ [] := by simpa using hpos.ne'
  have hall := h _ infix_rfl time ?_ time ?_
  · simpa using hall
  · rw [List.head?_eq_some_head hne, head_replicate]
    rfl
  · rw [List.getLast?_eq_getLast_of_ne_nil hne, getLast_replicate]
    rfl

end Cells

/-! ## Runs -/

section Runs

variable {limiter : Limiter} {watched : Watched}

lemma AtBase.sound (h : AtBase limiter watched.state)
    (hcells : AtQuota limiter.baseRate watched.cells) : Sound limiter watched := by
  refine ⟨?_, h.1.le, fun current hcurrent => (h.2 current hcurrent).le, ?_⟩
  · rw [h.1]
    exact min_le_right _ _
  · rwa [h.1]

lemma throughout_sound {run : List Event} (h : AtBase limiter watched.state)
    (hcalls : Throughout (step limiter) (LeavesRate limiter) watched.state (callsOf run))
    (hcells : AtQuota limiter.baseRate (watched.cells ++ cellsOf run)) :
    Throughout (watch limiter) (fun watched event => Sound limiter (watch limiter watched event))
      watched run := by
  induction run generalizing watched with
  | nil => trivial
  | cons event run ih =>
    cases event with
    | call call =>
      have hnext := step_atBase h hcalls.1
      have hsame : (watch limiter watched (.call call)).cells = watched.cells := by
        simp only [watch, hnext.1, h.1, if_true]
      refine ⟨AtBase.sound hnext ?_, ih hnext hcalls.2 ?_⟩
      · rw [hsame]
        exact hcells.infix (prefix_append _ _).isInfix
      · rwa [hsame]
    | cell time =>
      have happend : watched.cells ++ cellsOf (.cell time :: run) =
          (watched.cells ++ [time]) ++ cellsOf run := by
        simp [cellsOf]
      rw [happend] at hcells
      have hsofar : AtQuota limiter.baseRate (watched.cells ++ [time]) :=
        hcells.infix (prefix_append _ _).isInfix
      exact ⟨AtBase.sound h hsofar, ih h hcalls hcells⟩

lemma foldl_cells (watched : Watched) (times : List ℚ) :
    (times.map Event.cell).foldl (watch limiter) watched =
      { watched with cells := watched.cells ++ times } := by
  induction times generalizing watched with
  | nil => simp
  | cons time times ih =>
    rw [map_cons, foldl_cons, ih]
    simp [watch]

variable {calls : List Call} {state : State}

lemma leavesRate_of_sound {call : Call}
    (hsound : ∀ run, callsOf run = call :: calls → (cellsOf run).Pairwise (· ≤ ·) →
      AtQuota limiter.baseRate (cellsOf run) → Throughout (watch limiter)
      (fun watched event => Sound limiter (watch limiter watched event)) ⟨state, []⟩ run) :
    LeavesRate limiter state call := by
  rintro index count rfl htask
  have hrate : (step limiter state (.advance index)).shared.currentRate = limiter.newRate count := by
    simp only [step, htask, advance]
  by_contra hother
  have hcells : cellsOf (.call (.advance index) ::
      ((List.replicate limiter.baseRate (0 : ℚ)).map .cell ++ calls.map .call)) =
        List.replicate limiter.baseRate 0 := by
    simp [cellsOf, filterMap_map]
  have hrun := hsound (.call (.advance index) ::
    ((List.replicate limiter.baseRate (0 : ℚ)).map .cell ++ calls.map .call)) ?_ ?_ ?_
  · have hwatched : watch limiter ⟨state, []⟩ (.call (.advance index)) =
        ⟨step limiter state (.advance index), []⟩ := by
      simp [watch]
    have hupper := hrun.1.upper
    have hburst := (Found.Trace.throughout_append.mp hrun.2).1
    simp only [hwatched] at hupper hburst
    -- after the last of these cells
    obtain ⟨size, hsize⟩ := Nat.exists_eq_succ_of_ne_zero limiter.baseRate_pos.ne'
    rw [hsize, replicate_succ', map_append, map_singleton] at hburst
    have henforced := hburst.last.enforced
    rw [foldl_cells] at henforced
    have hburst' : ∀ {quota : ℕ}, AtQuota quota (List.replicate (size + 1) 0) → size + 1 ≤ quota :=
      le_of_atQuota_replicate (Nat.succ_pos size)
    have hle := hburst' (by simpa [watch, replicate_succ'] using henforced)
    rw [hrate] at hle hupper
    omega
  · simp [callsOf, filterMap_map]
  · rw [hcells]
    exact pairwise_replicate.mpr (.inr le_rfl)
  · rw [hcells]
    exact atQuota_replicate limiter.baseRate 0

lemma throughout_leavesRate (h : AtBase limiter state)
    (hsound : ∀ run, callsOf run = calls → (cellsOf run).Pairwise (· ≤ ·) →
      AtQuota limiter.baseRate (cellsOf run) → Throughout (watch limiter)
      (fun watched event => Sound limiter (watch limiter watched event)) ⟨state, []⟩ run) :
    Throughout (step limiter) (LeavesRate limiter) state calls := by
  induction calls generalizing state with
  | nil => trivial
  | cons call calls ih =>
    have hcall := leavesRate_of_sound hsound
    refine ⟨hcall, ih (step_atBase h hcall) ?_⟩
    intro run hrun hsorted hquota
    have hwatched : watch limiter ⟨state, []⟩ (.call call) = ⟨step limiter state call, []⟩ := by
      simp [watch]
    have hboth := hsound (.call call :: run) (by simpa [callsOf] using hrun)
      (by simpa [cellsOf] using hsorted) (by simpa [cellsOf] using hquota)
    rw [← hwatched]
    exact hboth.2

end Runs

variable (limiter : Limiter) (calls : List Call)

/-- **Calls are sound**, exactly when every error leaves the rate at the base. -/
theorem sound_iff :
    SoundCalls limiter calls ↔
      Throughout (step limiter) (LeavesRate limiter) (start limiter) calls := by
  have hstart : AtBase limiter (start limiter) := ⟨rfl, by simp [start]⟩
  constructor
  · exact throughout_leavesRate hstart
  · rintro hcalls run rfl - hquota
    exact throughout_sound hstart hcalls (by simpa using hquota)

/-- **An error that halves a rate of ten** leaves ten cells admitted at once. -/
theorem not_sound : ¬ ∀ (limiter : Limiter) (calls : List Call), SoundCalls limiter calls := by
  intro h
  have hleaves := throughout_leavesRate ⟨rfl, by simp [start]⟩
    (h (.new 10) [.record429, .advance 0, .advance 0])
  have hrate : (Limiter.new 10).newRate 1 = (Limiter.new 10).baseRate :=
    hleaves.2.2.1 0 1 rfl rfl
  rw [newRate_eq_iff _ Nat.one_pos (by decide)] at hrate
  exact absurd hrate (by decide)

end Dripline.Rpc.ProviderRateLimiter

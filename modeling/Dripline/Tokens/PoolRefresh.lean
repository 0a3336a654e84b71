import Mathlib
import Dripline.Found.Trace

/-!
# The refresh slots of pool snapshots

`tokens/pool_data/cache.rs`. Calls run side by side and may be cancelled wherever they wait. Taking
the lock of the slots, looking under it, registering with a notifier and notifying are steps of
their own; a notifier wakes those who registered before.

* `noneStranded_iff` — exactly the runs of careful steps strand nobody.
-/

namespace Dripline.Tokens.PoolRefresh

open Function

open Dripline.Found.Trace (Throughout)

/-- Who asks for a slot. Source: `cache.rs`, `get_snapshot_internal`, `fetch_immediate`,
`process_task` -/
inductive Kind
  | snapshot
  | immediate
  | prefetch
  deriving DecidableEq

/-- What a call does next; a slot is the notifier that was made for it. -/
inductive Stage
  | start
  | locking
  | looking
  | registering (slot : ℕ)
  | waiting (slot : ℕ)
  | reading
  | refreshing (slot : ℕ)
  | completing (slot : ℕ)
  | removing (slot : ℕ)
  | notifying (removed : Option ℕ)
  | returned

namespace Stage

/-- A call waits here, and may be cancelled. -/
def awaiting : Stage → Bool
  | .start | .locking | .waiting _ | .reading | .refreshing _ | .completing _ => true
  | .looking | .registering _ | .removing _ | .notifying _ | .returned => false

/-- The slot that a call waits on, or is about to. -/
def awaits : Stage → Option ℕ
  | .registering slot | .waiting slot => some slot
  | _ => none

/-- The slot that a call has taken and not removed. -/
def holds : Stage → Option ℕ
  | .refreshing slot | .completing slot | .removing slot => some slot
  | _ => none

/-- The slot whose waiters a call will notify. -/
def completes : Stage → Option ℕ
  | .refreshing slot | .completing slot | .removing slot => some slot
  | .notifying removed => removed
  | _ => none

/-- Source: `Notify::notify_waiters` -/
def wake (removed : Option ℕ) : Stage → Stage
  | .waiting slot => if removed = some slot then .reading else .waiting slot
  | stage => stage

end Stage

/-- Source: `cache.rs`, `POOL_REFRESH_INFLIGHT` -/
structure State (τ κ : Type*) where
  slots : κ → Option ℕ
  made : ℕ
  locked : Bool
  stages : τ → Stage

/-- A call goes on, and may have a snapshot to serve; it is cancelled; or it has waited for as long
as it will. -/
inductive Event (τ : Type*)
  | advance (task : τ) (served : Bool)
  | cancel (task : τ)
  | timeout (task : τ)

/-- No slot is taken, and no call has begun. -/
def start (τ κ : Type*) : State τ κ := ⟨fun _ => none, 0, false, fun _ => .start⟩

section Steps

variable {τ κ : Type*} [DecidableEq τ] [DecidableEq κ] (kind : τ → Kind) (mint : τ → κ)

/-- A call goes to its next stage, and the lock of the slots is left taken or free. -/
def State.move (state : State τ κ) (task : τ) (locked : Bool) (stage : Stage) : State τ κ :=
  { state with locked := locked, stages := Function.update state.stages task stage }

/-- Source: `cache.rs`, `begin_refresh_slot`, what is done under the lock -/
def beginRefreshSlot (state : State τ κ) (task : τ) : State τ κ :=
  match state.slots (mint task) with
  | some slot =>
    state.move task false (if kind task = .prefetch then .returned else .registering slot)
  | none =>
    ({ state with
      slots := Function.update state.slots (mint task) (some state.made)
      made := state.made + 1 } : State τ κ).move task false (.refreshing state.made)

/-- Source: `cache.rs`, `complete_refresh_slot`, what is done under the lock -/
def removeRefreshSlot (state : State τ κ) (task : τ) : State τ κ :=
  ({ state with slots := Function.update state.slots (mint task) none } : State τ κ).move task false
    (.notifying (state.slots (mint task)))

/-- Source: `cache.rs`, `complete_refresh_slot`, what is done after the lock -/
def notifyWaiters (state : State τ κ) (task : τ) (removed : Option ℕ) : State τ κ :=
  { state with
    stages := Function.update (fun other => (state.stages other).wake removed) task .returned }

/-- A call goes on. Source: `cache.rs`, `get_snapshot_internal`, `fetch_immediate`,
`process_task` -/
def advance (state : State τ κ) (task : τ) (served : Bool) : State τ κ :=
  match state.stages task with
  | .start => state.move task state.locked (if served then .returned else .locking)
  | .locking => if state.locked then state else state.move task true .looking
  | .looking => beginRefreshSlot kind mint state task
  | .registering slot => state.move task state.locked (.waiting slot)
  | .waiting _ => state
  | .reading => state.move task state.locked .returned
  | .refreshing slot => state.move task state.locked (.completing slot)
  | .completing slot => if state.locked then state else state.move task true (.removing slot)
  | .removing _ => removeRefreshSlot mint state task
  | .notifying removed => notifyWaiters state task removed
  | .returned => state

/-- One step. The wait of `fetch_immediate` is bounded. -/
def step (state : State τ κ) : Event τ → State τ κ
  | .advance task served => advance kind mint state task served
  | .cancel task =>
    if (state.stages task).awaiting then state.move task state.locked .returned else state
  | .timeout task =>
    match kind task, state.stages task with
    | .immediate, .waiting _ => state.move task state.locked .reading
    | _, _ => state

/-- **Nobody is stranded**: a slot that a call waits on, or is about to wait on, is one that a call
will complete, and a slot that is taken is one that a call refreshes. -/
structure NoneStranded (state : State τ κ) : Prop where
  awaited : ∀ task slot, (state.stages task).awaits = some slot →
    ∃ refresher, (state.stages refresher).completes = some slot
  occupied : ∀ key slot, state.slots key = some slot →
    ∃ refresher, mint refresher = key ∧ (state.stages refresher).holds = some slot

/-- **A careful step**: a call that has a slot is not cancelled, and those who wait are not notified
while a call that was given the slot is about to register. -/
def Careful (state : State τ κ) : Event τ → Prop
  | .advance task _ =>
    ∀ slot, state.stages task = .notifying (some slot) →
      ∀ other, state.stages other ≠ .registering slot
  | .cancel task => (state.stages task).awaiting = true → (state.stages task).holds = none
  | .timeout _ => True

/-- **Sound**: nobody is stranded, a call that has a slot has that of its mint, and a slot is
completed by one call. -/
structure Sound (state : State τ κ) : Prop extends NoneStranded mint state where
  owned : ∀ refresher slot, (state.stages refresher).holds = some slot →
    state.slots (mint refresher) = some slot
  alone : ∀ refresher refresher' slot, (state.stages refresher).completes = some slot →
    (state.stages refresher').completes = some slot → refresher = refresher'
  fresh : ∀ refresher slot, (state.stages refresher).completes = some slot → slot < state.made

end Steps

/-! ## The stages -/

section Stages

variable {stage : Stage} {slot : ℕ} {removed : Option ℕ}

lemma completes_of_holds (h : stage.holds = some slot) : stage.completes = some slot := by
  cases stage <;> simp_all [Stage.holds, Stage.completes]

@[simp]
lemma completes_wake : (stage.wake removed).completes = stage.completes := by
  cases stage with
  | waiting slot =>
    simp only [Stage.wake]
    split_ifs <;> rfl
  | _ => rfl

@[simp]
lemma holds_wake : (stage.wake removed).holds = stage.holds := by
  cases stage with
  | waiting slot =>
    simp only [Stage.wake]
    split_ifs <;> rfl
  | _ => rfl

lemma awaits_wake (h : (stage.wake removed).awaits = some slot) :
    stage.awaits = some slot ∧ (removed = some slot → stage = .registering slot) := by
  cases stage with
  | waiting other =>
    simp only [Stage.wake] at h
    split_ifs at h with hremoved
    · cases h
    · obtain rfl := Option.some.inj h
      exact ⟨rfl, fun heq => absurd heq hremoved⟩
  | registering other =>
    obtain rfl := Option.some.inj h
    exact ⟨rfl, fun _ => rfl⟩
  | _ => cases h

end Stages

/-! ## What a step keeps -/

section Run

variable {τ κ : Type*} [DecidableEq τ] [DecidableEq κ] {kind : τ → Kind} {mint : τ → κ}
  {state : State τ κ} {task : τ}

omit [DecidableEq κ] in
lemma stages_move (state : State τ κ) (task : τ) (locked : Bool) (stage : Stage) (other : τ) :
    other = task ∧ (state.move task locked stage).stages other = stage ∨
      other ≠ task ∧ (state.move task locked stage).stages other = state.stages other := by
  by_cases hother : other = task
  · exact Or.inl ⟨hother, by rw [hother]; exact update_self _ _ _⟩
  · exact Or.inr ⟨hother, update_of_ne hother _ _⟩

omit [DecidableEq κ] in
lemma Sound.move (h : Sound mint state) {locked : Bool} {stage : Stage}
    (hholds : stage.holds = (state.stages task).holds)
    (hcompletes : stage.completes = (state.stages task).completes)
    (hawaits : ∀ slot, stage.awaits = some slot →
      ∃ refresher, (state.stages refresher).completes = some slot) :
    Sound mint (state.move task locked stage) := by
  have hcompletes' : ∀ other, ((state.move task locked stage).stages other).completes =
      (state.stages other).completes := by
    intro other
    rcases stages_move state task locked stage other with ⟨rfl, hstage⟩ | ⟨-, hstage⟩
    · rw [hstage, hcompletes]
    · rw [hstage]
  have hholds' : ∀ other, ((state.move task locked stage).stages other).holds =
      (state.stages other).holds := by
    intro other
    rcases stages_move state task locked stage other with ⟨rfl, hstage⟩ | ⟨-, hstage⟩
    · rw [hstage, hholds]
    · rw [hstage]
  constructor
  case toNoneStranded =>
    constructor
    · intro other slot hother
      simp only [hcompletes']
      rcases stages_move state task locked stage other with ⟨rfl, hstage⟩ | ⟨-, hstage⟩
      · rw [hstage] at hother
        exact hawaits slot hother
      · rw [hstage] at hother
        exact h.awaited other slot hother
    · intro key slot hslot
      simp only [hholds']
      exact h.occupied key slot hslot
  case owned =>
    intro refresher slot hslot
    rw [hholds'] at hslot
    exact h.owned refresher slot hslot
  case alone =>
    intro refresher refresher' slot hslot hslot'
    rw [hcompletes'] at hslot hslot'
    exact h.alone refresher refresher' slot hslot hslot'
  case fresh =>
    intro refresher slot hslot
    rw [hcompletes'] at hslot
    exact h.fresh refresher slot hslot

lemma Sound.take (h : Sound mint state) (hlooking : state.stages task = .looking)
    (hnone : state.slots (mint task) = none) :
    Sound mint (({ state with
      slots := Function.update state.slots (mint task) (some state.made)
      made := state.made + 1 } : State τ κ).move task false (.refreshing state.made)) := by
  have hstages := stages_move ({ state with
    slots := Function.update state.slots (mint task) (some state.made)
    made := state.made + 1 } : State τ κ) task false (.refreshing state.made)
  have hother : ∀ refresher slot, (state.stages refresher).completes = some slot →
      refresher ≠ task := by
    rintro refresher slot hslot rfl
    rw [hlooking] at hslot
    cases hslot
  constructor
  case toNoneStranded =>
    constructor
    · intro other slot hawaits
      rcases hstages other with ⟨rfl, hstage⟩ | ⟨-, hstage⟩
      · rw [hstage] at hawaits
        cases hawaits
      · rw [hstage] at hawaits
        obtain ⟨refresher, hslot⟩ := h.awaited other slot hawaits
        refine ⟨refresher, ?_⟩
        rcases hstages refresher with ⟨hsame, -⟩ | ⟨-, hrefresher⟩
        · exact absurd hsame (hother refresher slot hslot)
        · rw [hrefresher]
          exact hslot
    · intro key slot (hslot : Function.update state.slots _ _ key = some slot)
      by_cases hkey : key = mint task
      · subst hkey
        rw [update_self] at hslot
        obtain rfl := Option.some.inj hslot
        refine ⟨task, rfl, ?_⟩
        rcases hstages task with ⟨-, hstage⟩ | ⟨hne, -⟩
        · rw [hstage]
          rfl
        · exact absurd rfl hne
      · rw [update_of_ne hkey] at hslot
        obtain ⟨refresher, hmint, hholds⟩ := h.occupied key slot hslot
        refine ⟨refresher, hmint, ?_⟩
        rcases hstages refresher with ⟨hsame, -⟩ | ⟨-, hrefresher⟩
        · exact absurd hsame (hother refresher slot (completes_of_holds hholds))
        · rw [hrefresher]
          exact hholds
  case owned =>
    intro refresher slot hholds
    show Function.update state.slots _ _ (mint refresher) = some slot
    rcases hstages refresher with ⟨rfl, hstage⟩ | ⟨-, hstage⟩
    · rw [hstage] at hholds
      rw [update_self]
      exact hholds
    · rw [hstage] at hholds
      have hslot := h.owned refresher slot hholds
      have hmint : mint refresher ≠ mint task := by
        intro hmint
        rw [hmint, hnone] at hslot
        cases hslot
      rw [update_of_ne hmint]
      exact hslot
  case alone =>
    intro refresher refresher' slot hslot hslot'
    rcases hstages refresher with ⟨rfl, hstage⟩ | ⟨-, hstage⟩
    · rcases hstages refresher' with ⟨rfl, -⟩ | ⟨-, hstage'⟩
      · rfl
      · rw [hstage] at hslot
        rw [hstage'] at hslot'
        obtain rfl := Option.some.inj hslot
        exact absurd (h.fresh refresher' _ hslot') (Nat.lt_irrefl _)
    · rcases hstages refresher' with ⟨rfl, hstage'⟩ | ⟨-, hstage'⟩
      · rw [hstage] at hslot
        rw [hstage'] at hslot'
        obtain rfl := Option.some.inj hslot'
        exact absurd (h.fresh refresher _ hslot) (Nat.lt_irrefl _)
      · rw [hstage] at hslot
        rw [hstage'] at hslot'
        exact h.alone refresher refresher' slot hslot hslot'
  case fresh =>
    intro refresher slot hslot
    show slot < state.made + 1
    rcases hstages refresher with ⟨rfl, hstage⟩ | ⟨-, hstage⟩
    · rw [hstage] at hslot
      obtain rfl := Option.some.inj hslot
      exact Nat.lt_succ_self _
    · rw [hstage] at hslot
      exact Nat.lt_succ_of_lt (h.fresh refresher slot hslot)

lemma Sound.beginRefreshSlot (h : Sound mint state) (hlooking : state.stages task = .looking) :
    Sound mint (beginRefreshSlot kind mint state task) := by
  unfold PoolRefresh.beginRefreshSlot
  cases hslots : state.slots (mint task) with
  | some slot =>
    obtain ⟨refresher, -, hholds⟩ := h.occupied _ slot hslots
    dsimp only
    split_ifs
    · exact h.move (by rw [hlooking]; rfl) (by rw [hlooking]; rfl) (by rintro _ ⟨⟩)
    · refine h.move (by rw [hlooking]; rfl) (by rw [hlooking]; rfl) ?_
      rintro _ ⟨⟩
      exact ⟨refresher, completes_of_holds hholds⟩
  | none => exact h.take hlooking hslots

lemma Sound.removeRefreshSlot (h : Sound mint state) {slot : ℕ}
    (hremoving : state.stages task = .removing slot) :
    Sound mint (removeRefreshSlot mint state task) := by
  have hholds : (state.stages task).holds = some slot := by rw [hremoving]; rfl
  have hslot := h.owned task slot hholds
  have hstages := stages_move
    ({ state with slots := Function.update state.slots (mint task) none } : State τ κ) task false
    (.notifying (state.slots (mint task)))
  have hcompletes : ∀ other,
      ((PoolRefresh.removeRefreshSlot mint state task).stages other).completes =
      (state.stages other).completes := by
    intro other
    rcases hstages other with ⟨rfl, hstage⟩ | ⟨-, hstage⟩
    · exact (congrArg Stage.completes hstage).trans
        (hslot.trans (completes_of_holds hholds).symm)
    · exact congrArg Stage.completes hstage
  -- another call that has a slot has that of another mint
  have hmint : ∀ other slot', other ≠ task → (state.stages other).holds = some slot' →
      mint other ≠ mint task := by
    intro other slot' hother hholds' hmint
    have hslot' := h.owned other slot' hholds'
    rw [hmint, hslot] at hslot'
    obtain rfl := Option.some.inj hslot'
    exact hother (h.alone other task slot (completes_of_holds hholds') (completes_of_holds hholds))
  constructor
  case toNoneStranded =>
    constructor
    · intro other slot' hawaits
      simp only [hcompletes]
      rcases hstages other with ⟨rfl, hstage⟩ | ⟨-, hstage⟩
      · cases (congrArg Stage.awaits hstage).symm.trans hawaits
      · exact h.awaited other slot' ((congrArg Stage.awaits hstage).symm.trans hawaits)
    · intro key slot' (hslot' : Function.update state.slots _ _ key = some slot')
      by_cases hkey : key = mint task
      · subst hkey
        rw [update_self] at hslot'
        cases hslot'
      · rw [update_of_ne hkey] at hslot'
        obtain ⟨refresher, hrefresher, hholds'⟩ := h.occupied key slot' hslot'
        refine ⟨refresher, hrefresher, ?_⟩
        rcases hstages refresher with ⟨rfl, -⟩ | ⟨-, hstage⟩
        · exact absurd hrefresher.symm hkey
        · exact (congrArg Stage.holds hstage).trans hholds'
  case owned =>
    intro other slot' hholds'
    show Function.update state.slots _ _ (mint other) = some slot'
    rcases hstages other with ⟨rfl, hstage⟩ | ⟨hother, hstage⟩
    · cases (congrArg Stage.holds hstage).symm.trans hholds'
    · have hbefore := (congrArg Stage.holds hstage).symm.trans hholds'
      rw [update_of_ne (hmint other slot' hother hbefore)]
      exact h.owned other slot' hbefore
  case alone =>
    intro refresher refresher' slot' hslot' hslot''
    rw [hcompletes] at hslot' hslot''
    exact h.alone refresher refresher' slot' hslot' hslot''
  case fresh =>
    intro refresher slot' hslot'
    rw [hcompletes] at hslot'
    exact h.fresh refresher slot' hslot'

omit [DecidableEq κ] in
lemma stages_notifyWaiters (state : State τ κ) (task : τ) (removed : Option ℕ) (other : τ) :
    other = task ∧ (notifyWaiters state task removed).stages other = .returned ∨
      other ≠ task ∧ (notifyWaiters state task removed).stages other =
        (state.stages other).wake removed := by
  have hstages : (notifyWaiters state task removed).stages =
      Function.update (fun other => (state.stages other).wake removed) task .returned := rfl
  by_cases hother : other = task
  · exact Or.inl ⟨hother, by rw [hstages, hother, update_self]⟩
  · exact Or.inr ⟨hother, by rw [hstages, update_of_ne hother]⟩

omit [DecidableEq κ] in
lemma Sound.notifyWaiters (h : Sound mint state) {removed : Option ℕ}
    (hnotifying : state.stages task = .notifying removed)
    (hcareful : ∀ slot, removed = some slot → ∀ other, state.stages other ≠ .registering slot) :
    Sound mint (notifyWaiters state task removed) := by
  have hstages := stages_notifyWaiters state task removed
  have hcompletes : ∀ other slot,
      ((PoolRefresh.notifyWaiters state task removed).stages other).completes = some slot →
      (state.stages other).completes = some slot := by
    intro other slot hslot
    rcases hstages other with ⟨rfl, hstage⟩ | ⟨-, hstage⟩
    · rw [hstage] at hslot
      cases hslot
    · rwa [hstage, completes_wake] at hslot
  have hholds : ∀ other,
      ((PoolRefresh.notifyWaiters state task removed).stages other).holds =
        (state.stages other).holds := by
    intro other
    rcases hstages other with ⟨rfl, hstage⟩ | ⟨-, hstage⟩
    · rw [hstage, hnotifying]
      rfl
    · rw [hstage, holds_wake]
  constructor
  case toNoneStranded =>
    constructor
    · intro other slot hawaits
      rcases hstages other with ⟨rfl, hstage⟩ | ⟨-, hstage⟩
      · rw [hstage] at hawaits
        cases hawaits
      · rw [hstage] at hawaits
        obtain ⟨hbefore, hregistering⟩ := awaits_wake hawaits
        obtain ⟨refresher, hslot⟩ := h.awaited other slot hbefore
        refine ⟨refresher, ?_⟩
        rcases hstages refresher with ⟨rfl, -⟩ | ⟨-, hrefresher⟩
        · -- the slot is the one that is notified, so the call was about to register
          rw [hnotifying] at hslot
          exact absurd (hregistering hslot) (hcareful slot hslot other)
        · rw [hrefresher, completes_wake]
          exact hslot
    · intro key slot hslot
      simp only [hholds]
      exact h.occupied key slot hslot
  case owned =>
    intro refresher slot hslot
    rw [hholds] at hslot
    exact h.owned refresher slot hslot
  case alone =>
    intro refresher refresher' slot hslot hslot'
    exact h.alone refresher refresher' slot (hcompletes _ _ hslot) (hcompletes _ _ hslot')
  case fresh =>
    intro refresher slot hslot
    exact h.fresh refresher slot (hcompletes _ _ hslot)

/-! ## Every step -/

lemma Sound.step (h : Sound mint state) {event : Event τ} (hcareful : Careful state event) :
    Sound mint (step kind mint state event) := by
  cases event with
  | advance task served =>
    show Sound mint (advance kind mint state task served)
    have hmove : ∀ (locked : Bool) (stage : Stage), stage.awaits = none →
        stage.holds = (state.stages task).holds →
        stage.completes = (state.stages task).completes →
        Sound mint (state.move task locked stage) := by
      intro locked stage hawaits hholds hcompletes
      refine h.move hholds hcompletes ?_
      intro slot hslot
      rw [hawaits] at hslot
      cases hslot
    cases hstage : state.stages task with
    | start =>
      simp only [advance, hstage]
      split_ifs
      · exact hmove _ _ rfl (by rw [hstage]; rfl) (by rw [hstage]; rfl)
      · exact hmove _ _ rfl (by rw [hstage]; rfl) (by rw [hstage]; rfl)
    | locking | completing slot =>
      simp only [advance, hstage]
      split_ifs
      · exact h
      · exact hmove _ _ rfl (by rw [hstage]; rfl) (by rw [hstage]; rfl)
    | looking =>
      simp only [advance, hstage]
      exact h.beginRefreshSlot hstage
    | registering slot =>
      simp only [advance, hstage]
      refine h.move (by rw [hstage]; rfl) (by rw [hstage]; rfl) ?_
      rintro _ ⟨⟩
      exact h.awaited task slot (by rw [hstage]; rfl)
    | waiting slot | returned =>
      simp only [advance, hstage]
      exact h
    | reading | refreshing slot =>
      simp only [advance, hstage]
      exact hmove _ _ rfl (by rw [hstage]; rfl) (by rw [hstage]; rfl)
    | removing slot =>
      simp only [advance, hstage]
      exact h.removeRefreshSlot hstage
    | notifying removed =>
      simp only [advance, hstage]
      refine h.notifyWaiters hstage ?_
      rintro slot rfl
      exact hcareful slot hstage
  | cancel task =>
    simp only [PoolRefresh.step]
    split_ifs with hawaiting
    · have hholds := hcareful hawaiting
      refine h.move hholds.symm ?_ (by rintro _ ⟨⟩)
      cases hstage : state.stages task <;> rw [hstage] at hawaiting hholds <;>
        simp_all [Stage.awaiting, Stage.holds, Stage.completes]
    · exact h
  | timeout task =>
    simp only [PoolRefresh.step]
    split
    case h_1 slot _ hstage =>
      exact h.move (by rw [hstage]; rfl) (by rw [hstage]; rfl) (by rintro _ ⟨⟩)
    case h_2 => exact h

lemma Sound.careful_of_noneStranded (h : Sound mint state) {event : Event τ}
    (hnone : NoneStranded mint (PoolRefresh.step kind mint state event)) : Careful state event := by
  cases event with
  | advance task served =>
    intro slot hnotifying other hregistering
    have hstep : PoolRefresh.step kind mint state (.advance task served) =
        PoolRefresh.notifyWaiters state task (some slot) := by
      simp only [PoolRefresh.step, advance, hnotifying]
    rw [hstep] at hnone
    have hstages := stages_notifyWaiters state task (some slot)
    have hawaits : ((PoolRefresh.notifyWaiters state task (some slot)).stages other).awaits =
        some slot := by
      rcases hstages other with ⟨rfl, -⟩ | ⟨-, hstage⟩
      · rw [hnotifying] at hregistering
        cases hregistering
      · rw [hstage, hregistering]
        rfl
    -- nobody but the call that has notified would complete the slot
    obtain ⟨refresher, hslot⟩ := hnone.awaited other slot hawaits
    rcases hstages refresher with ⟨rfl, hstage⟩ | ⟨hne, hstage⟩
    · rw [hstage] at hslot
      cases hslot
    · rw [hstage, completes_wake] at hslot
      exact hne (h.alone refresher task slot hslot (by rw [hnotifying]; rfl))
  | cancel task =>
    intro hawaiting
    simp only [PoolRefresh.step, if_pos hawaiting] at hnone
    apply Option.eq_none_iff_forall_ne_some.mpr
    intro slot hholds
    -- the slot is left to nobody
    obtain ⟨refresher, -, hslot⟩ := hnone.occupied _ slot (h.owned task slot hholds)
    rcases stages_move state task state.locked .returned refresher with
      ⟨rfl, hstage⟩ | ⟨hne, hstage⟩
    · rw [hstage] at hslot
      cases hslot
    · rw [hstage] at hslot
      exact hne (h.alone refresher task slot (completes_of_holds hslot)
        (completes_of_holds hholds))
  | timeout task => trivial

omit [DecidableEq τ] [DecidableEq κ] in
lemma sound_start : Sound mint (start τ κ) where
  awaited := by rintro task slot ⟨⟩
  occupied := by rintro key slot ⟨⟩
  owned := by rintro refresher slot ⟨⟩
  alone := by rintro refresher refresher' slot ⟨⟩
  fresh := by rintro refresher slot ⟨⟩

variable (kind mint) in
/-- **Nobody is ever stranded** in exactly the runs in which no refresh is cancelled, and none is
notified while another call is about to register. -/
theorem noneStranded_iff (events : List (Event τ)) :
    Throughout (step kind mint) (fun state event => NoneStranded mint (step kind mint state event))
        (start τ κ) events ↔
      Throughout (step kind mint) Careful (start τ κ) events :=
  Dripline.Found.Trace.throughout_iff (Sound mint) sound_start
    (fun _ h _ _ => ⟨h.careful_of_noneStranded, fun hcareful => (h.step hcareful).toNoneStranded⟩)
    fun _ h _ _ hnone => h.step (h.careful_of_noneStranded hnone)

end Run

/-- So many steps of a call that is served nothing. -/
def unserved (task : Bool) (steps : ℕ) : List (Event Bool) :=
  List.replicate steps (.advance task false)

/-- A refresh that is cancelled leaves its slot behind; and a call that was given a slot, and
registers after those who wait on it were notified, is left waiting. -/
theorem not_noneStranded :
    ¬NoneStranded (fun _ => 0) ((unserved false 3 ++ [Event.cancel false]).foldl
        (step (fun _ => .snapshot) (fun _ => 0)) (start Bool ℕ)) ∧
      ¬NoneStranded (fun _ => 0) ((unserved false 3 ++ unserved true 3 ++ unserved false 4 ++
        unserved true 1).foldl (step (fun _ => .snapshot) (fun _ => 0)) (start Bool ℕ)) := by
  constructor
  · intro h
    obtain ⟨refresher, -, hholds⟩ := h.occupied 0 0 rfl
    cases refresher with
    | false | true => cases hholds
  · intro h
    obtain ⟨refresher, hcompletes⟩ := h.awaited true 0 rfl
    cases refresher with
    | false | true => cases hcompletes

end Dripline.Tokens.PoolRefresh

import Dripline.Found.Trace
import Dripline.Positions.State

/-!
# Trading slots

The permits of the open-position limit over a run, from the start of the process: who takes one, who
returns one, and what a reconciliation makes of them.

* `accounted_throughout` — a run that starts with no more open positions than slots, and reconciles
  in such states only, never exceeds the limit.
-/

namespace Dripline.Positions

open Dripline.Found.Trace

/-! ## Runs -/

/-- A step that may move a slot. Those of an open are one each; every terminal path names its
position. -/
inductive TradingEvent
  | beginOpen
  | abandonOpen
  | opened (positionId : ℤ) (position : Position)
  | applied (transition : PositionTransition) (answers again : Answers)
  | ledgerUpdated (position : Position)
  | archived (positionId : ℤ) (now : DateTime)
  | unarchived (positionId : ℤ) (now : DateTime)
  | deleted (positionId : ℤ)
  | forceClosed (positionId : ℤ) (exitPrice : ℚ) (closedReason : String) (now : DateTime)
  | reconciled

/-- The position a terminal path names. -/
def TradingEvent.positionId : TradingEvent → Option ℤ
  | .applied transition _ _ => transition.positionId
  | .ledgerUpdated position => position.id
  | .archived id _ => some id
  | .deleted id => some id
  | .forceClosed id _ _ _ => some id
  | _ => none

/-- The state, the permits held by opens in flight, and how often a permit was taken and returned
for each position. -/
structure Trading where
  state : State
  opening : ℕ
  taken : ℤ → ℕ
  returned : ℤ → ℕ

namespace Trading

/-- The start of the process: the semaphore is reconciled, and the holders are the open positions.
Source: `worker.rs`, `initialize_positions_system`; `state.rs`, `rebuild_position_slot_holders` -/
def started (maxOpen : ℕ) (positions : List Position) : Trading :=
  let loaded := (State.empty ⟨maxOpen, ∅⟩).load positions
  let holders := (loaded.capacityConsuming.filterMap (·.id)).toFinset
  { state := { loaded with
      slots := { loaded.slots.reconcile maxOpen loaded.capacityConsuming.length with
        holders := holders } }
    opening := 0
    taken := fun id => if id ∈ holders then 1 else 0
    returned := fun _ => 0 }

variable (maxOpen : ℕ) (trading : Trading)

/-- What a step makes of the state and the opens in flight. A permit that is dropped returns by
itself. Source: `operations/open.rs`, `open_position_impl`, for the first three -/
def move : TradingEvent → State × ℕ
  | .beginOpen =>
    match trading.state.slots.tryAcquire with
    | some slots => ({ trading.state with slots := slots }, trading.opening + 1)
    | none => (trading.state, trading.opening)
  | .abandonOpen =>
    if 0 < trading.opening then
      ({ trading.state with slots := trading.state.slots.releasePermit }, trading.opening - 1)
    else (trading.state, trading.opening)
  | .opened positionId position =>
    if 0 < trading.opening then
      ({ trading.state.addPosition { position with id := some positionId } with
          slots := trading.state.slots.register positionId },
        trading.opening - 1)
    else (trading.state, trading.opening)
  | .applied transition answers again =>
    ((trading.state.apply answers again transition).1, trading.opening)
  | .ledgerUpdated position => (trading.state.applyPlanUpdate position, trading.opening)
  | .archived positionId now => (trading.state.archivePosition positionId now, trading.opening)
  | .unarchived positionId now => (trading.state.unarchivePosition positionId now, trading.opening)
  | .deleted positionId => (trading.state.deletePosition positionId, trading.opening)
  | .forceClosed positionId exitPrice closedReason now =>
    (trading.state.forceClosePosition positionId exitPrice closedReason now, trading.opening)
  | .reconciled =>
    ({ trading.state with
        slots := trading.state.slots.reconcile maxOpen trading.state.capacityConsuming.length },
      trading.opening)

/-- One step: a position takes a slot when it becomes a holder, and returns one when its terminal
path adds a permit. -/
def step (event : TradingEvent) : Trading where
  state := (trading.move maxOpen event).1
  opening := (trading.move maxOpen event).2
  taken := fun id => trading.taken id +
    if id ∈ (trading.move maxOpen event).1.slots.holders ∧ id ∉ trading.state.slots.holders then 1
    else 0
  returned := fun id => trading.returned id +
    if event.positionId = some id ∧
      (trading.move maxOpen event).1.slots.available = trading.state.slots.available + 1 then 1
    else 0

/-- The limit is kept, and no position returns a slot more often than it took one. -/
structure Accounted : Prop where
  limit : trading.state.slots.available + trading.state.slots.holders.card ≤ maxOpen
  once : ∀ id, trading.returned id ≤ trading.taken id

/-- A reconciliation leaves the free permits and the open positions to add up, as far as they
fit. -/
def Reconciled : Prop :=
  trading.state.slots.available = maxOpen - trading.state.capacityConsuming.length

/-- The states a reconciliation leaves right: at least as many positions are open as there are
slots; or no permit is taken; or more are taken than positions are open, and no more positions than
that hold a slot or are being opened. -/
def Reconcilable : Prop :=
  maxOpen ≤ trading.state.capacityConsuming.length ∨ trading.state.slots.available = maxOpen ∨
    (trading.state.capacityConsuming.length + trading.state.slots.available < maxOpen ∧
      trading.state.slots.holders.card + trading.opening ≤ trading.state.capacityConsuming.length)

end Trading

/-! ## What a step can do to the slots -/

/-- Everything but a reconciliation: nothing; an open begins, is abandoned, or is done; a terminal
path releases its position's slot; a restored position takes one. -/
inductive SlotMove (slots : Slots) (opening : ℕ) (positionId : Option ℤ) : Slots → ℕ → Prop
  | stay : SlotMove slots opening positionId slots opening
  | acquire (free : 0 < slots.available) :
      SlotMove slots opening positionId ⟨slots.available - 1, slots.holders⟩ (opening + 1)
  | drop (inFlight : 0 < opening) (nobody : positionId = none) :
      SlotMove slots opening positionId slots.releasePermit (opening - 1)
  | register (inFlight : 0 < opening) (id : ℤ) :
      SlotMove slots opening positionId (slots.register id) (opening - 1)
  | release (id : ℤ) (named : positionId = some id) :
      SlotMove slots opening positionId (slots.release id) opening
  | reclaim (free : 0 < slots.available) (id : ℤ) :
      SlotMove slots opening positionId (Slots.register ⟨slots.available - 1, slots.holders⟩ id)
        opening

section moves

variable (state : State)

@[simp] lemma State.slots_removeFirst (test : Position → Bool) :
    (state.removeFirst test).slots = state.slots := by
  unfold State.removeFirst
  split <;> rfl

lemma State.slots_apply (answers again : Answers) (transition : PositionTransition) :
    (state.apply answers again transition).1.slots = state.slots ∨
      ∃ id, transition.positionId = some id ∧
        (state.apply answers again transition).1.slots = state.slots.release id := by
  have hclosed : ∀ (id : ℤ) (applied : Applied),
      (state.withClosed id applied).1.slots = state.slots ∨
        (state.withClosed id applied).1.slots = state.slots.release id := by
    rintro id ⟨store, e | effects⟩
    · exact Or.inl rfl
    · dsimp only [State.withClosed]
      split
      · exact Or.inr rfl
      · exact Or.inl rfl
  cases transition with
  | exitVerified id price received fee time => exact (hclosed id _).imp_right fun h => ⟨id, rfl, h⟩
  | exitPermanentFailureSynthetic id time =>
    exact (hclosed id _).imp_right fun h => ⟨id, rfl, h⟩
  | removeOrphanEntry id =>
    cases hrow : state.store.get id with
    | none => exact Or.inl (by rw [state.apply_removeOrphanEntry_of_none answers again hrow])
    | some row =>
      refine Or.inr ⟨id, rfl, ?_⟩
      rw [state.apply_removeOrphanEntry_of_some answers again hrow]
  | exitResidualClearForRetry id amount received price fee time signature percentage =>
    left
    unfold State.apply
    dsimp only
    rcases applyPartialExitVerified answers state.store id amount received price fee time
      signature percentage with ⟨store, e | effects⟩
    · rfl
    · dsimp only [State.applyExitFailedClearForRetry]
      rcases Positions.applyExitFailedClearForRetry again store id with ⟨store, e | effects⟩ <;>
        rfl
  | _ => exact Or.inl rfl

lemma State.slots_archivePosition (id : ℤ) (now : DateTime) :
    (state.archivePosition id now).slots = state.slots ∨
      (state.archivePosition id now).slots = state.slots.release id := by
  unfold State.archivePosition
  cases state.store.get id with
  | none => exact Or.inl rfl
  | some position =>
    dsimp only
    split
    · exact Or.inl rfl
    · split
      · exact Or.inr rfl
      · exact Or.inl rfl

lemma State.slots_unarchivePosition (id : ℤ) (now : DateTime) :
    (state.unarchivePosition id now).slots = state.slots ∨
      (0 < state.slots.available ∧ (state.unarchivePosition id now).slots =
        Slots.register ⟨state.slots.available - 1, state.slots.holders⟩ id) := by
  unfold State.unarchivePosition
  cases state.store.get id with
  | none => exact Or.inl rfl
  | some position =>
    dsimp only
    split
    · exact Or.inl rfl
    · split
      · by_cases hfree : 0 < state.slots.available
        · exact Or.inr ⟨hfree, by simp [State.setArchived, Slots.tryAcquire, hfree]⟩
        · exact Or.inl (by simp [State.setArchived, Slots.tryAcquire, hfree])
      · exact Or.inl rfl

lemma State.slots_deletePosition (id : ℤ) :
    (state.deletePosition id).slots = state.slots ∨
      (state.deletePosition id).slots = state.slots.release id := by
  unfold State.deletePosition
  cases state.store.get id with
  | none => exact Or.inl rfl
  | some position =>
    dsimp only [State.removePositionById]
    split
    · exact Or.inr (by simp)
    · exact Or.inl (by simp)

lemma State.slots_forceClosePosition (id : ℤ) (exitPrice : ℚ) (closedReason : String)
    (now : DateTime) :
    (state.forceClosePosition id exitPrice closedReason now).slots = state.slots ∨
      (state.forceClosePosition id exitPrice closedReason now).slots = state.slots.release id := by
  unfold State.forceClosePosition
  cases state.store.get id with
  | none => exact Or.inl rfl
  | some position =>
    dsimp only
    split
    · exact Or.inl rfl
    · exact Or.inr rfl

lemma State.slots_applyPlanUpdate (position : Position) :
    (state.applyPlanUpdate position).slots = state.slots ∨
      ∃ id, position.id = some id ∧
        (state.applyPlanUpdate position).slots = state.slots.release id := by
  unfold State.applyPlanUpdate
  cases hid : position.id with
  | none => exact Or.inl rfl
  | some id =>
    dsimp only
    split
    · exact Or.inr ⟨id, rfl, rfl⟩
    · exact Or.inl rfl

end moves

variable {positionId : Option ℤ} {slots' slots : Slots} {opening' opening : ℕ}

lemma SlotMove.limit (hmove : SlotMove slots opening positionId slots' opening') :
    slots'.available + slots'.holders.card + opening' ≤
      slots.available + slots.holders.card + opening := by
  have hregister : ∀ id, (insert id slots.holders).card ≤ slots.holders.card + 1 :=
    fun id => Finset.card_insert_le id slots.holders
  cases hmove with
  | stay => exact le_rfl
  | acquire free => dsimp only; omega
  | drop inFlight nobody => simp only [Slots.releasePermit]; omega
  | register inFlight id | reclaim free id =>
    have := hregister id
    simp only [Slots.register]
    omega
  | release id named =>
    unfold Slots.release
    split
    case isTrue hheld =>
      have := Finset.card_erase_add_one hheld
      simp only [Slots.releasePermit]
      omega
    case isFalse hheld => exact le_rfl

lemma SlotMove.once (hmove : SlotMove slots opening positionId slots' opening') (id : ℤ) :
    (if positionId = some id ∧ slots'.available = slots.available + 1 then 1 else 0) +
        (if id ∈ slots'.holders then 1 else 0) ≤
      (if id ∈ slots'.holders ∧ id ∉ slots.holders then 1 else 0) +
        (if id ∈ slots.holders then 1 else 0) := by
  -- no permit is added: what is held now was held or is taken
  have hkept : ∀ holders : Finset ℤ,
      (if id ∈ holders then 1 else 0) ≤
        (if id ∈ holders ∧ id ∉ slots.holders then 1 else 0) +
          (if id ∈ slots.holders then 1 else 0) := by
    intro holders
    by_cases hheld : id ∈ slots.holders <;> simp [hheld]
    split_ifs <;> omega
  cases hmove with
  | stay => simp
  | acquire free =>
    have hless : ¬ slots.available - 1 = slots.available + 1 := by omega
    simp [hless]
  | drop inFlight nobody =>
    rw [if_neg (by simp [nobody]), Nat.zero_add]
    exact hkept slots.holders
  | register inFlight jd => simpa [Slots.register] using hkept (insert jd slots.holders)
  | release jd named =>
    unfold Slots.release
    by_cases hheld : jd ∈ slots.holders
    · simp only [hheld, if_true, Slots.releasePermit, named, Option.some.injEq]
      by_cases hid : jd = id
      · subst hid
        simp [hheld]
      · have hid' : id ≠ jd := fun h => hid h.symm
        simp [hid, hid']
    · simp [hheld]
  | reclaim free jd =>
    have hless : ¬ slots.available - 1 = slots.available + 1 := by omega
    simpa [Slots.register, hless] using hkept (insert jd slots.holders)

namespace Trading

variable {maxOpen : ℕ} {trading : Trading}

lemma slotMove_move {event : TradingEvent} (hevent : event ≠ .reconciled) :
    SlotMove trading.state.slots trading.opening event.positionId
      (trading.move maxOpen event).1.slots (trading.move maxOpen event).2 := by
  -- a terminal path: nothing, or a release of the position it names
  have hterminal : ∀ {slots : Slots} {positionId : Option ℤ} {id : ℤ}, positionId = some id →
      slots = trading.state.slots ∨ slots = trading.state.slots.release id →
        SlotMove trading.state.slots trading.opening positionId slots trading.opening := by
    rintro slots positionId id hnamed (rfl | rfl)
    · exact .stay
    · exact .release id hnamed
  cases event with
  | beginOpen =>
    unfold move Slots.tryAcquire
    by_cases hfree : 0 < trading.state.slots.available
    · simpa only [hfree, if_true] using .acquire hfree
    · simpa only [hfree, if_false] using .stay
  | abandonOpen =>
    unfold move
    by_cases hopening : 0 < trading.opening
    · simpa only [hopening, if_true] using .drop hopening rfl
    · simpa only [hopening, if_false] using .stay
  | opened positionId position =>
    unfold move
    by_cases hopening : 0 < trading.opening
    · simpa only [hopening, if_true] using .register hopening positionId
    · simpa only [hopening, if_false] using .stay
  | applied transition answers again =>
    rcases trading.state.slots_apply answers again transition with hsame | ⟨id, hid, hreleased⟩
    · show SlotMove _ _ _ (trading.state.apply answers again transition).1.slots trading.opening
      rw [hsame]
      exact .stay
    · exact hterminal hid (Or.inr hreleased)
  | ledgerUpdated position =>
    rcases trading.state.slots_applyPlanUpdate position with hsame | ⟨id, hid, hreleased⟩
    · show SlotMove _ _ _ (trading.state.applyPlanUpdate position).slots trading.opening
      rw [hsame]
      exact .stay
    · exact hterminal hid (Or.inr hreleased)
  | archived id now => exact hterminal rfl (trading.state.slots_archivePosition id now)
  | unarchived id now =>
    show SlotMove _ _ _ (trading.state.unarchivePosition id now).slots trading.opening
    rcases trading.state.slots_unarchivePosition id now with hsame | ⟨hfree, htaken⟩
    · rw [hsame]
      exact .stay
    · rw [htaken]
      exact .reclaim hfree id
  | deleted id => exact hterminal rfl (trading.state.slots_deletePosition id)
  | forceClosed id exitPrice closedReason now =>
    exact hterminal rfl (trading.state.slots_forceClosePosition id exitPrice closedReason now)
  | reconciled => exact absurd rfl hevent

/-! ## The limit -/

/-- Free permits, holders and opens in flight are within the limit, and a holder has taken a slot
more often than it returned one. -/
structure Sound (maxOpen : ℕ) (trading : Trading) : Prop where
  limit : trading.state.slots.available + trading.state.slots.holders.card + trading.opening ≤ maxOpen
  once : ∀ id, trading.returned id +
    (if id ∈ trading.state.slots.holders then 1 else 0) ≤ trading.taken id

lemma Sound.accounted (h : trading.Sound maxOpen) : trading.Accounted maxOpen where
  limit := by have := h.limit; omega
  once := fun id => by have := h.once id; omega

lemma Sound.step (h : trading.Sound maxOpen) {event : TradingEvent}
    (hevent : event ≠ .reconciled) : (trading.step maxOpen event).Sound maxOpen := by
  have hmove := @slotMove_move maxOpen trading event hevent
  constructor
  · exact hmove.limit.trans h.limit
  · intro id
    have hbefore := h.once id
    have honce := hmove.once id
    show trading.returned id +
          (if event.positionId = some id ∧ (trading.move maxOpen event).1.slots.available =
            trading.state.slots.available + 1 then 1 else 0) +
          (if id ∈ (trading.move maxOpen event).1.slots.holders then 1 else 0) ≤
        trading.taken id +
          (if id ∈ (trading.move maxOpen event).1.slots.holders ∧
            id ∉ trading.state.slots.holders then 1 else 0)
    omega

lemma Sound.reconciled (hmax : maxOpen < 2 ^ 64) (h : trading.Sound maxOpen)
    (hready : trading.Reconcilable maxOpen) :
    (trading.step maxOpen .reconciled).Sound maxOpen ∧
      (trading.step maxOpen .reconciled).Reconciled maxOpen := by
  have hlimit := h.limit
  have hslots := trading.state.slots.reconcile_eq hmax (by omega)
    trading.state.capacityConsuming.length
  have hright : (trading.step maxOpen .reconciled).Reconciled maxOpen := by
    show (trading.state.slots.reconcile maxOpen trading.state.capacityConsuming.length).available =
      maxOpen - trading.state.capacityConsuming.length
    rw [hslots]
    dsimp only
    rcases hready with hfull | hfree | ⟨hleaked, -⟩
    · rw [if_neg (by omega)]
      omega
    · split_ifs <;> omega
    · rw [if_pos hleaked]
  refine ⟨⟨?_, ?_⟩, hright⟩
  · have hholders : (trading.step maxOpen .reconciled).state.slots.holders =
        trading.state.slots.holders := by
      show (trading.state.slots.reconcile maxOpen _).holders = _
      rw [hslots]
    have hopening : (trading.step maxOpen .reconciled).opening = trading.opening := rfl
    have hright' : (trading.step maxOpen .reconciled).state.slots.available =
      maxOpen - trading.state.capacityConsuming.length := hright
    rw [hholders, hopening, hright']
    rcases hready with hfull | hfree | ⟨-, hheld⟩ <;> omega
  · intro id
    have hbefore := h.once id
    have hholders : (trading.move maxOpen .reconciled).1.slots.holders =
        trading.state.slots.holders := by
      show (trading.state.slots.reconcile maxOpen _).holders = _
      rw [hslots]
    simp only [Trading.step, TradingEvent.positionId, hholders]
    simpa using hbefore

lemma sound_started (hmax : maxOpen < 2 ^ 64) {positions : List Position}
    (hopen : (positions.filter (·.consumesCapacity)).length ≤ maxOpen) :
    (started maxOpen positions).Sound maxOpen ∧ (started maxOpen positions).Reconciled maxOpen := by
  have hslots := (⟨maxOpen, ∅⟩ : Slots).reconcile_eq hmax le_rfl
    (positions.filter (·.consumesCapacity)).length
  have havailable : (started maxOpen positions).state.slots.available =
      maxOpen - (positions.filter (·.consumesCapacity)).length := by
    refine (congrArg Slots.available hslots).trans ?_
    dsimp only
    split_ifs <;> omega
  refine ⟨⟨?_, ?_⟩, havailable⟩
  · have hcard : (started maxOpen positions).state.slots.holders.card ≤
        (positions.filter (·.consumesCapacity)).length :=
      (List.toFinset_card_le _).trans (List.length_filterMap_le _ _)
    have hopening : (started maxOpen positions).opening = 0 := rfl
    omega
  · intro id
    show 0 + _ ≤ _
    rw [Nat.zero_add]
    exact le_rfl

end Trading

/-- **The slots are accounted for** throughout a run that starts with no more open positions than
slots and reconciles in reconcilable states only: the limit is kept, no position returns a slot more
often than it took one, and every reconciliation leaves what the open positions leave. -/
theorem accounted_throughout (maxOpen : ℕ) (hmax : maxOpen < 2 ^ 64) (positions : List Position)
    (hopen : (positions.filter (·.consumesCapacity)).length ≤ maxOpen) (events : List TradingEvent)
    (hready : Throughout (Trading.step maxOpen)
      (fun trading event => event = .reconciled → trading.Reconcilable maxOpen)
      (.started maxOpen positions) events) :
    (Trading.started maxOpen positions).Accounted maxOpen ∧
      (Trading.started maxOpen positions).Reconciled maxOpen ∧
      Throughout (Trading.step maxOpen)
        (fun trading event => (trading.step maxOpen event).Accounted maxOpen ∧
          (event = .reconciled → (trading.step maxOpen event).Reconciled maxOpen))
        (.started maxOpen positions) events := by
  obtain ⟨hsound, hright⟩ := Trading.sound_started hmax hopen
  refine ⟨hsound.accounted, hright, hready.keep (Trading.Sound maxOpen) hsound ?_⟩
  intro trading h event _ hevent
  by_cases hreconciled : event = .reconciled
  · subst hreconciled
    obtain ⟨hstep, hafter⟩ := h.reconciled hmax (hevent rfl)
    exact ⟨⟨hstep.accounted, fun _ => hafter⟩, hstep⟩
  · have hstep := h.step hreconciled
    exact ⟨⟨hstep.accounted, fun h => absurd h hreconciled⟩, hstep⟩

/-- A position of the bot that is open. -/
def openBot (id : ℤ) (mint : String) : Position :=
  openedPosition (some id) mint "TKN" "Token" ("open-" ++ mint) 2 2 .manual .userOnly 0

/-- One position is restored and one opened, the semaphore is reconciled at the limit, and one of
the two is archived. -/
theorem accounted_throughout_archived :
    (Trading.started 2 [openBot 1 "A"]).Accounted 2 ∧
      (Trading.started 2 [openBot 1 "A"]).Reconciled 2 ∧
      Throughout (Trading.step 2)
        (fun trading event => (trading.step 2 event).Accounted 2 ∧
          (event = .reconciled → (trading.step 2 event).Reconciled 2))
        (.started 2 [openBot 1 "A"])
        [.beginOpen, .opened 2 (openBot 2 "B"), .reconciled, .archived 1 10] := by
  refine accounted_throughout 2 (by decide) [openBot 1 "A"] (by decide) _ ?_
  exact ⟨(nomatch ·), (nomatch ·), fun _ => Or.inl (by decide), (nomatch ·), trivial⟩

/-- Two open positions are restored where one is allowed: both hold a slot. One is restored where
three are allowed, and the semaphore is reconciled again: a second permit is taken for it. -/
theorem not_accounted_restored :
    (¬ ∀ (maxOpen : ℕ) (positions : List Position), maxOpen < 2 ^ 64 →
      (Trading.started maxOpen positions).Accounted maxOpen) ∧
    ¬ ∀ (maxOpen : ℕ) (positions : List Position) (events : List TradingEvent),
      maxOpen < 2 ^ 64 → (positions.filter (·.consumesCapacity)).length ≤ maxOpen →
      Throughout (Trading.step maxOpen)
        (fun trading event => event = .reconciled →
          (trading.step maxOpen event).Reconciled maxOpen)
        (.started maxOpen positions) events := by
  constructor
  · intro h
    have hlimit := (h 1 [openBot 1 "A", openBot 2 "B"] (by decide)).limit
    exact absurd hlimit (by decide)
  · intro h
    have hright : (1 : ℕ) = 2 := (h 3 [openBot 1 "A"] [.reconciled] (by decide) (by decide)).1 rfl
    exact absurd hright (by decide)

end Dripline.Positions

import Dripline.Found.Trace
import Dripline.Positions.Outcome
import Mathlib.Tactic.Linarith

/-!
# A swap is booked at most once

A verified transition that comes again: after any others, whatever the database answered before and
answers now.

* `keepsFigures_iff` — a run keeps the figures when every repetition is held off, and
  only then if every close brings something in.
-/

namespace Dripline.Positions

open Dripline.Found.Trace

/-! ## Figures -/

/-- The amounts, counts, cost basis and profit of a row. -/
structure Figures where
  tokenAmount : Option ℕ
  remainingTokenAmount : Option ℕ
  totalExitedAmount : ℕ
  partialExitCount : ℕ
  dcaCount : ℕ
  entrySizeSol : ℚ
  totalSizeSol : ℚ
  effectiveEntryPrice : Option ℚ
  averageEntryPrice : ℚ
  entryFeeLamports : Option ℕ
  solReceived : Option ℚ
  effectiveExitPrice : Option ℚ
  averageExitPrice : Option ℚ
  exitFeeLamports : Option ℕ
  pnl : Option ℚ
  pnlPercent : Option ℚ
  unrealizedPnl : Option ℚ
  unrealizedPnlPercent : Option ℚ

/-- The figures of a row. -/
def Position.figures (position : Position) : Figures where
  tokenAmount := position.tokenAmount
  remainingTokenAmount := position.remainingTokenAmount
  totalExitedAmount := position.totalExitedAmount
  partialExitCount := position.partialExitCount
  dcaCount := position.dcaCount
  entrySizeSol := position.entrySizeSol
  totalSizeSol := position.totalSizeSol
  effectiveEntryPrice := position.effectiveEntryPrice
  averageEntryPrice := position.averageEntryPrice
  entryFeeLamports := position.entryFeeLamports
  solReceived := position.solReceived
  effectiveExitPrice := position.effectiveExitPrice
  averageExitPrice := position.averageExitPrice
  exitFeeLamports := position.exitFeeLamports
  pnl := position.pnl
  pnlPercent := position.pnlPercent
  unrealizedPnl := position.unrealizedPnl
  unrealizedPnlPercent := position.unrealizedPnlPercent

/-- The row still shows the entry it was bought with. -/
structure Position.EnteredWith (position : Position) (price : ℚ) (amount fee : ℕ) (size : ℚ) :
    Prop where
  tokenAmount : position.tokenAmount = some amount
  remainingTokenAmount : position.remainingTokenAmount = some amount
  entrySizeSol : position.entrySizeSol = size
  totalSizeSol : position.totalSizeSol = size
  effectiveEntryPrice : position.effectiveEntryPrice = some price
  averageEntryPrice : position.averageEntryPrice = price
  entryFeeLamports : position.entryFeeLamports = some fee

section rows

variable (decimals : String → Option ℕ) (position : Position)

lemma figures_entryVerified_iff (price : ℚ) (amount fee : ℕ) (size : ℚ) :
    (position.entryVerified price amount fee size).figures = position.figures ↔
      position.EnteredWith price amount fee size := by
  constructor
  · intro h
    constructor
    · exact (congrArg Figures.tokenAmount h).symm
    · exact (congrArg Figures.remainingTokenAmount h).symm
    · exact (congrArg Figures.entrySizeSol h).symm
    · exact (congrArg Figures.totalSizeSol h).symm
    · exact (congrArg Figures.effectiveEntryPrice h).symm
    · exact (congrArg Figures.averageEntryPrice h).symm
    · exact (congrArg Figures.entryFeeLamports h).symm
  · intro h
    simp only [Position.figures, Position.entryVerified, h.tokenAmount, h.remainingTokenAmount,
      h.entrySizeSol, h.totalSizeSol, h.effectiveEntryPrice, h.averageEntryPrice,
      h.entryFeeLamports]

lemma wrappingSucc32_ne (n : ℕ) : wrappingSucc32 n ≠ n := by
  unfold wrappingSucc32
  omega

lemma figures_soldBy_ne (amount : ℕ) (received price : ℚ) :
    (position.soldBy decimals amount received price).figures ≠ position.figures := by
  intro h
  exact wrappingSucc32_ne position.partialExitCount
    ((position.partialExitCount_soldBy decimals amount received price).symm.trans
      (congrArg Figures.partialExitCount h))

lemma figures_addedBy_ne (tokens : ℕ) (spent : ℚ) (time : DateTime) :
    (position.addedBy decimals tokens spent time).figures ≠ position.figures := by
  intro h
  exact wrappingSucc32_ne position.dcaCount (congrArg Figures.dcaCount h)

lemma figures_closedBy_ne {received : ℚ} (hreceived : received ≠ 0) (price : ℚ) (fee : ℕ)
    (time : DateTime) :
    (position.closedBy decimals price received fee time).figures ≠ position.figures := by
  intro h
  have hsum : some (position.solReceived.getD 0 + received) = position.solReceived :=
    congrArg Figures.solReceived h
  obtain ⟨before, hbefore⟩ : ∃ before, position.solReceived = some before := ⟨_, hsum.symm⟩
  rw [hbefore] at hsum
  have hadded : before + received = before := Option.some.inj hsum
  exact hreceived (by linarith)

end rows

/-! ## Runs of transitions -/

/-- A close that brings something in. -/
def Delivered.BringsIn (delivered : Delivered) : Prop :=
  ∀ id price received fee time,
    delivered.transition = .exitVerified id price received fee time → received ≠ 0

/-- The store, and the transitions that came so far. -/
structure Booked where
  store : Store
  applied : List PositionTransition

namespace Booked

variable (booked : Booked) (delivered : Delivered)

/-- One transition, whether or not it ends in an error. -/
def step : Booked where
  store :=
    (applyTransition delivered.answers delivered.again booked.store delivered.transition).1
  applied := delivered.transition :: booked.applied

/-- The figures of the row of an id. -/
def figures (positionId : ℤ) : Option Figures :=
  (booked.store.get positionId).map (·.figures)

/-- A verified swap that came before leaves the figures of its row alone. -/
def Keeps : Prop :=
  delivered.transition ∈ booked.applied → delivered.transition.isVerifiedSwap = true →
    ∀ positionId, delivered.transition.positionId = some positionId →
      (booked.step delivered).figures positionId = booked.figures positionId

/-- What holds a repetition off: the row still shows the entry, still has the close verified, or the
record of the partial exit is there and found. An add has no guard, so there must be no row. -/
def HeldOff : Prop :=
  match delivered.transition with
  | .entryVerified id price amount fee size =>
    ∀ row, booked.store.get id = some row → row.EnteredWith price amount fee size
  | .exitVerified id _ _ _ _ =>
    ∀ row, booked.store.get id = some row → row.transactionExitVerified = true
  | .partialExitVerified id _ _ _ _ _ signature _ =>
    booked.store.get id = none ∨
      (delivered.answers.exitLookup && booked.store.exitRecordExists id signature) = true
  | .dcaVerified id _ _ _ _ _ _ => booked.store.get id = none
  | _ => True

/-- A verified swap that came before is held off. -/
def Guarded : Prop :=
  delivered.transition ∈ booked.applied → delivered.transition.isVerifiedSwap = true →
    booked.HeldOff delivered

variable {booked delivered} {positionId : ℤ}

lemma figures_of_store (hstore : (booked.step delivered).store = booked.store) :
    (booked.step delivered).figures positionId = booked.figures positionId := by
  unfold figures
  rw [hstore]

lemma figures_iff_of_get {answers again : Answers} {row after : Position}
    (transition : PositionTransition) (hrow : booked.store.get positionId = some row)
    (hafter : (applyTransition answers again booked.store transition).1.get positionId =
      some after) :
    (booked.step ⟨transition, answers, again⟩).figures positionId = booked.figures positionId ↔
      after.figures = row.figures := by
  unfold figures step
  rw [hrow, hafter]
  exact Option.some_inj

section

variable (hid : delivered.transition.positionId = some positionId)
include hid

lemma figures_of_none (hverified : delivered.transition.isVerifiedSwap = true)
    (hrow : booked.store.get positionId = none) :
    (booked.step delivered).figures positionId = booked.figures positionId := by
  obtain ⟨result, hsame⟩ := applyTransition_of_none hverified hid hrow
  exact figures_of_store (congrArg Prod.fst (hsame delivered.answers delivered.again))

lemma figures_of_heldOff (hverified : delivered.transition.isVerifiedSwap = true)
    (hheld : booked.HeldOff delivered) :
    (booked.step delivered).figures positionId = booked.figures positionId := by
  cases hrow : booked.store.get positionId with
  | none => exact figures_of_none hid hverified hrow
  | some row =>
    obtain ⟨transition, answers, again⟩ := delivered
    cases transition with
    | entryVerified id price amount fee size =>
      obtain rfl := Option.some.inj hid
      refine (figures_iff_of_get (.entryVerified id price amount fee size) hrow
        (get_applyEntryVerified answers hrow price amount fee size)).mpr ?_
      exact (figures_entryVerified_iff row price amount fee size).mpr (hheld row hrow)
    | exitVerified id price received fee time =>
      obtain rfl := Option.some.inj hid
      exact figures_of_store (congrArg Prod.fst (applyExitVerified_of_verified answers hrow
        (hheld row hrow) price received fee time))
    | partialExitVerified id amount received price fee time signature percentage =>
      obtain rfl := Option.some.inj hid
      rcases hheld with hnone | hrecorded
      · exact figures_of_none rfl rfl hnone
      · exact figures_of_store (congrArg Prod.fst (applyPartialExitVerified_of_recorded answers
          hrecorded amount received price fee time percentage))
    | dcaVerified id tokens spent price fee time signature =>
      obtain rfl := Option.some.inj hid
      exact figures_of_none rfl rfl hheld
    | _ => cases hverified

lemma heldOff_of_figures (hbrings : delivered.BringsIn)
    (hsame : (booked.step delivered).figures positionId = booked.figures positionId) :
    booked.HeldOff delivered := by
  obtain ⟨transition, answers, again⟩ := delivered
  cases transition with
  | entryVerified id price amount fee size =>
    obtain rfl := Option.some.inj hid
    intro row hrow
    have hentered := (figures_iff_of_get (.entryVerified id price amount fee size) hrow
      (get_applyEntryVerified answers hrow price amount fee size)).mp hsame
    exact (figures_entryVerified_iff row price amount fee size).mp hentered
  | exitVerified id price received fee time =>
    obtain rfl := Option.some.inj hid
    intro row hrow
    cases hverified : row.transactionExitVerified with
    | true => rfl
    | false =>
      have hclosed := (figures_iff_of_get (.exitVerified id price received fee time) hrow
        (get_applyExitVerified answers hrow hverified price received fee time)).mp hsame
      exact absurd hclosed (figures_closedBy_ne answers.decimals row
        (hbrings id price received fee time rfl) price fee time)
  | partialExitVerified id amount received price fee time signature percentage =>
    obtain rfl := Option.some.inj hid
    cases hrow : booked.store.get id with
    | none => exact Or.inl hrow
    | some row =>
      cases hrecorded : answers.exitLookup && booked.store.exitRecordExists id signature with
      | true => exact Or.inr hrecorded
      | false =>
        have hsold := (figures_iff_of_get (.partialExitVerified id amount received price fee
          time signature percentage) hrow (get_applyPartialExitVerified answers hrow hrecorded
          amount received price fee time percentage)).mp hsame
        exact absurd hsold (figures_soldBy_ne answers.decimals row amount received price)
  | dcaVerified id tokens spent price fee time signature =>
    obtain rfl := Option.some.inj hid
    cases hrow : booked.store.get id with
    | none => exact hrow
    | some row =>
      have hadded := (figures_iff_of_get (.dcaVerified id tokens spent price fee time
        signature) hrow (get_applyDcaVerified answers hrow tokens spent price fee time
        signature)).mp hsame
      exact absurd hadded (figures_addedBy_ne answers.decimals row tokens spent time)
  | _ => trivial

end

end Booked

/-- **A swap that came before changes no figure** in any run in which every repetition is held off;
where every close brings something in, in no other run. -/
theorem keepsFigures_iff (store : Store) (deliveries : List Delivered) :
    (Throughout Booked.step Booked.Guarded ⟨store, []⟩ deliveries →
      Throughout Booked.step Booked.Keeps ⟨store, []⟩ deliveries) ∧
    ((∀ delivered ∈ deliveries, delivered.BringsIn) →
      Throughout Booked.step Booked.Keeps ⟨store, []⟩ deliveries →
      Throughout Booked.step Booked.Guarded ⟨store, []⟩ deliveries) := by
  constructor
  · refine Throughout.imp fun booked delivered _ hguarded hbefore hverified positionId hid => ?_
    exact Booked.figures_of_heldOff hid hverified (hguarded hbefore hverified)
  · intro hbrings
    refine Throughout.imp fun booked delivered hmem hkeeps hbefore hverified => ?_
    obtain ⟨positionId, hid⟩ := delivered.transition.positionId_of_isVerifiedSwap hverified
    exact Booked.heldOff_of_figures hid (hbrings delivered hmem)
      (hkeeps hbefore hverified positionId hid)

/-! ## An add that is verified again -/

/-- A store with one position, entered and verified. -/
def enteredStore : Store where
  positions := [(openedPosition (some 1) "MINT" "TKN" "Token" "open-sig" 2 2 .manual .userOnly
    0).entryVerified 2 100 5000 2]
  entries := []
  exits := []
  losses := []

/-- A verified add of fifty tokens; the database answers as given. -/
def deliveredAdd (pendingWrite : Except String Unit) : Delivered where
  transition := .dcaVerified 1 50 1 2 5000 10 "dca-sig"
  answers := { Answers.willing 10 with pendingWrite := pendingWrite }
  again := .willing 10

/-- An entry that is verified twice, and a close that is. -/
theorem keepsFigures_iff_twice :
    Throughout Booked.step Booked.Keeps ⟨enteredStore, []⟩
      [⟨.entryVerified 1 2 100 5000 2, .willing 10, .willing 10⟩,
        ⟨.entryVerified 1 2 100 5000 2, .willing 11, .willing 11⟩,
        ⟨.exitVerified 1 3 150 5000 20, .willing 20, .willing 20⟩,
        ⟨.exitVerified 1 3 150 5000 20, .willing 21, .willing 21⟩] := by
  refine (keepsFigures_iff _ _).1 ⟨fun h => (by cases h), fun _ _ row hrow => ?_, fun h => ?_,
    fun _ _ row hrow => ?_, trivial⟩
  · obtain rfl := Option.some.inj hrow
    exact ⟨rfl, rfl, rfl, rfl, rfl, rfl, rfl⟩
  · exact absurd h (by decide)
  · obtain rfl := Option.some.inj hrow
    rfl

/-- The database does not clear the pending add, so the worker applies it again: it is counted
twice. -/
theorem not_keepsFigures_addRetried :
    ¬ ∀ (store : Store) (deliveries : List Delivered),
      Throughout Booked.step Booked.Keeps ⟨store, []⟩ deliveries := by
  intro h
  have hlast := (h enteredStore ([deliveredAdd (.error "database is locked")] ++
    [deliveredAdd (.ok ())])).last
  have hsame := hlast List.mem_cons_self rfl 1 rfl
  have hcount := congrArg (Option.map Figures.dcaCount) hsame
  exact absurd hcount (by decide)

end Dripline.Positions

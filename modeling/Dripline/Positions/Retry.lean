import Dripline.Found.Trace
import Dripline.Positions.Durable

/-!
# A swap whose booking failed

A verified swap whose application ends in an error is put back by the worker and applied again.

* `sameAsOnce_iff` — attempts end as one application does when they are undivided, and only then if
  a close had something left to do.
-/

namespace Dripline.Positions

open Dripline.Found.Trace List

/-- What a verified swap counts up. -/
def PositionTransition.count : PositionTransition → Position → ℕ
  | .partialExitVerified .. => (·.partialExitCount)
  | .dcaVerified .. => (·.dcaCount)
  | _ => fun _ => 0

/-! ## Attempts -/

namespace Durable

/-- One attempt, whatever it ends in. -/
def attempt (transition : PositionTransition) (durable : Durable) (answers : Answers) : Durable :=
  (durable.apply answers answers transition).1

/-- Attempts that end in errors, and one that succeeds; the decimals stay what they are.
Source: `worker.rs`, `requeue_verification` after an apply error -/
structure Retried (durable : Durable) (transition : PositionTransition) (failures : List Answers)
    (last : Answers) : Prop where
  failed : Throughout (attempt transition)
    (fun durable answers => (durable.apply answers answers transition).2.isOk = false) durable
    failures
  succeeded :
    ((failures.foldl (attempt transition) durable).apply last last transition).2.isOk = true
  decimals : ∀ failure ∈ failures, failure.decimals = last.decimals

end Durable

/-- The same lookups, and every write succeeds. -/
def Answers.writing (answers : Answers) : Answers :=
  { answers with rowWrite := .ok (), recordWrite := true, pendingWrite := .ok () }

namespace Durable

/-- The same row in memory, the same row in the table, and the same slots. -/
structure Agrees (positionId : ℤ) (after once : Durable) : Prop where
  inMemory : after.state.store.get positionId = once.state.store.get positionId
  inTable : after.rows positionId = once.rows positionId
  slots : after.state.slots = once.state.slots

/-- The attempts leave what one application leaves whose writes all succeed. -/
def SameAsOnce (durable : Durable) (transition : PositionTransition) (positionId : ℤ)
    (failures : List Answers) (last : Answers) : Prop :=
  Agrees positionId (attempt transition (failures.foldl (attempt transition) durable) last)
    (attempt transition durable last.writing)

/-- The attempts book the swap once and finish what it needs: an entry always; a close or an add if
none fails; a partial exit if none fails, or one did only after its row and its record were written
and the next one finds the record. -/
def Undivided (durable : Durable) (transition : PositionTransition) (failures : List Answers)
    (last : Answers) : Prop :=
  match transition with
  | .entryVerified .. => True
  | .partialExitVerified id _ _ _ _ _ signature _ =>
    failures = [] ∨ ∃ failure, failures = [failure] ∧ failure.rowWrite.isOk = true ∧
      failure.recordWrite = true ∧ last.exitLookup = true ∧
      durable.state.store.exitRecordExists id signature = false
  | _ => failures = []

/-- A close that has something left to do: its slot is held, or the row of the table is not
verified. -/
def Unsettled (durable : Durable) (transition : PositionTransition) (positionId : ℤ) : Prop :=
  transition.isClose = true → positionId ∈ durable.state.slots.holders ∨
    ∃ row, durable.rows positionId = some row ∧ row.transactionExitVerified = false

section attempts

variable {durable : Durable} {transition : PositionTransition} {positionId : ℤ}
  {failures : List Answers} {last : Answers} {row : Position}

lemma writes_writing (store : Store) (transition : PositionTransition) :
    store.writes last.writing transition = store.writes last transition := by
  cases transition <;> rfl

section

variable (hverified : transition.isVerifiedSwap = true)
include hverified

lemma foldl_attempt_of_none (hid : transition.positionId = some positionId)
    (hrow : durable.state.store.get positionId = none) :
    failures.foldl (attempt transition) durable = durable := by
  induction failures with
  | nil => rfl
  | cons failure failures ih =>
    rw [foldl_cons, attempt, apply_absent failure transition hverified hid hrow]
    exact ih

lemma sameAsOnce_of_none (hid : transition.positionId = some positionId)
    (hrow : durable.state.store.get positionId = none) :
    durable.SameAsOnce transition positionId failures last := by
  unfold SameAsOnce
  rw [foldl_attempt_of_none hverified hid hrow, attempt, attempt,
    apply_absent last transition hverified hid hrow,
    apply_absent last.writing transition hverified hid hrow]
  exact ⟨rfl, rfl, rfl⟩

lemma failures_nil_of_none (hid : transition.positionId = some positionId)
    (hrow : durable.state.store.get positionId = none)
    (hretried : Retried durable transition failures last) : failures = [] := by
  obtain ⟨result, hsame⟩ := applyTransition_of_none hverified hid hrow
  have hsucceeded := hretried.succeeded
  rw [foldl_attempt_of_none hverified hid hrow, result_apply, hsame] at hsucceeded
  cases failures with
  | nil => rfl
  | cons failure rest =>
    have hfailed : (durable.apply failure failure transition).2.isOk = false :=
      hretried.failed.1
    rw [result_apply, hsame] at hfailed
    exact absurd (hsucceeded.symm.trans hfailed) Bool.noConfusion

end

lemma writes_cases (hid : transition.positionId = some positionId) (answers : Answers) :
    durable.state.store.writes answers transition = none ∨
      durable.state.store.writes answers transition = some positionId := by
  cases hwrites : durable.state.store.writes answers transition with
  | none => exact Or.inl rfl
  | some written => exact Or.inr (congrArg some (written_of_writes hid hwrites))

section

variable (hverified : transition.isVerifiedSwap = true)
include hverified

lemma agrees_of_books {before : Durable} {written : Position}
    (hid : transition.positionId = some positionId)
    (hrow : durable.state.store.get positionId = some row)
    (hwrites : durable.state.store.writes last transition = some positionId)
    (hbooks : before.Books last transition positionId written)
    (hsucceeded : (before.apply last last transition).2.isOk = true)
    (hsame : transition.written last.decimals written = transition.written last.decimals row)
    (hrows : before.rows positionId = durable.rows positionId)
    (hslots : before.state.slots = durable.state.slots) :
    Agrees positionId (attempt transition before last)
      (attempt transition durable last.writing) := by
  have honce := apply_booked last.writing transition hverified hid hrow
    ((writes_writing _ _).trans hwrites)
  have hwrite : last.rowWrite.isOk = true := by
    rw [hbooks.result, Bool.and_eq_true] at hsucceeded
    exact hsucceeded.1
  constructor
  · exact hbooks.inMemory.trans ((congrArg some hsame).trans honce.inMemory.symm)
  · refine hbooks.inTable.trans (Eq.trans ?_ honce.inTable.symm)
    rw [if_pos hwrite, hrows, hsame]
    rfl
  · refine hbooks.slots.trans (Eq.trans ?_ honce.slots.symm)
    rw [hwrite, hslots]
    rfl

lemma sameAsOnce_nil (hid : transition.positionId = some positionId)
    (hsucceeded : (durable.apply last last transition).2.isOk = true) :
    durable.SameAsOnce transition positionId [] last := by
  cases hrow : durable.state.store.get positionId with
  | none => exact sameAsOnce_of_none hverified hid hrow
  | some row =>
    rcases writes_cases hid last with hskips | hwrites
    · have hlast := apply_skipped last transition hverified hid hrow hskips
      have honce := apply_skipped last.writing transition hverified hid hrow
        ((writes_writing _ _).trans hskips)
      show Agrees positionId (durable.apply last last transition).1
        (durable.apply last.writing last.writing transition).1
      rw [hlast, honce]
      exact ⟨rfl, rfl, rfl⟩
    · exact agrees_of_books hverified hid hrow hwrites
        (apply_booked last transition hverified hid hrow hwrites) hsucceeded rfl rfl rfl

lemma writes_of_failed {answers : Answers} (hid : transition.positionId = some positionId)
    (hrow : durable.state.store.get positionId = some row)
    (hfailed : (durable.apply answers answers transition).2.isOk = false) :
    durable.state.store.writes answers transition = some positionId := by
  rcases writes_cases hid answers with hskips | hwrites
  · rw [apply_skipped answers transition hverified hid hrow hskips] at hfailed
    cases hfailed
  · exact hwrites

end

/-! ### Attempts that add up to one -/

variable {price : ℚ} {fee amount : ℕ}

lemma sameAsOnce_entryVerified {size : ℚ} (hrow : durable.state.store.get positionId = some row)
    (hretried : Retried durable (.entryVerified positionId price amount fee size) failures last) :
    durable.SameAsOnce (.entryVerified positionId price amount fee size) positionId failures
      last := by
  have hkept : ∃ held, (failures.foldl (attempt (.entryVerified positionId price amount fee size))
      durable).state.store.get positionId = some held ∧
      held.entryVerified price amount fee size = row.entryVerified price amount fee size ∧
      (failures.foldl (attempt (.entryVerified positionId price amount fee size))
        durable).rows positionId = durable.rows positionId ∧
      (failures.foldl (attempt (.entryVerified positionId price amount fee size))
        durable).state.slots = durable.state.slots := by
    refine hretried.failed.final (fun before => ∃ held,
      before.state.store.get positionId = some held ∧
      held.entryVerified price amount fee size = row.entryVerified price amount fee size ∧
      before.rows positionId = durable.rows positionId ∧ before.state.slots = durable.state.slots)
      ⟨row, hrow, rfl, rfl, rfl⟩ ?_
    rintro before ⟨held, hheld, hsame, hrows, hslots⟩ failure - hfailed
    have hbooks := apply_booked failure (.entryVerified positionId price amount fee size) rfl rfl
      hheld rfl
    have hunwritten : failure.rowWrite.isOk = false := by
      rw [hbooks.result] at hfailed
      simpa [PositionTransition.clears] using hfailed
    refine ⟨_, hbooks.inMemory, hsame, ?_, hbooks.slots.trans hslots⟩
    refine hbooks.inTable.trans ?_
    rw [hunwritten]
    exact hrows
  obtain ⟨held, hheld, hsame, hrows, hslots⟩ := hkept
  exact agrees_of_books rfl rfl hrow rfl (apply_booked last _ rfl rfl hheld rfl)
    hretried.succeeded hsame hrows hslots

variable {failure : Answers}

lemma sameAsOnce_of_heldOff (hverified : transition.isVerifiedSwap = true)
    (hid : transition.positionId = some positionId)
    (hrow : durable.state.store.get positionId = some row)
    (hdecimals : failure.decimals = last.decimals) (hopen : transition.isClose = false)
    (hwrite : failure.rowWrite.isOk = true)
    (hfirst : durable.state.store.writes failure transition = some positionId)
    (honce : durable.state.store.writes last transition = some positionId)
    (hheld : (attempt transition durable failure).state.store.writes last transition = none) :
    durable.SameAsOnce transition positionId [failure] last := by
  have hbooks := apply_booked failure transition hverified hid hrow hfirst
  have hbooksOnce := apply_booked last.writing transition hverified hid hrow
    ((writes_writing _ _).trans honce)
  have hlast := apply_skipped last transition hverified hid hbooks.inMemory hheld
  show Agrees positionId ((durable.apply failure failure transition).1.apply last last transition).1
    (durable.apply last.writing last.writing transition).1
  rw [hlast]
  constructor
  · rw [hbooks.inMemory, hbooksOnce.inMemory, hdecimals]
    rfl
  · rw [hbooks.inTable, hbooksOnce.inTable, hdecimals, hwrite]
    rfl
  · rw [hbooks.slots, hbooksOnce.slots, hopen]
    rfl

variable {time : DateTime} {received percentage : ℚ} {signature : String}

lemma sameAsOnce_partialExitVerified (hrow : durable.state.store.get positionId = some row)
    (hdecimals : failure.decimals = last.decimals) (hwrite : failure.rowWrite.isOk = true)
    (hrecord : failure.recordWrite = true) (hlookup : last.exitLookup = true)
    (hnew : durable.state.store.exitRecordExists positionId signature = false) :
    durable.SameAsOnce (.partialExitVerified positionId amount received price fee time signature
      percentage) positionId [failure] last := by
  have hrecorded := exitRecordExists_applyPartialExitVerified failure hrow
    (by rw [hnew, Bool.and_false]) amount received price fee time percentage
  rw [hnew, hwrite, hrecord] at hrecorded
  refine sameAsOnce_of_heldOff rfl rfl hrow hdecimals rfl hwrite ?_ ?_ ?_
  · rw [writes_partialExitVerified, hnew, Bool.and_false]
    rfl
  · rw [writes_partialExitVerified, hnew, Bool.and_false]
    rfl
  · rw [writes_partialExitVerified, attempt, store_apply, hlookup]
    exact congrArg (fun recorded => bif true && recorded then none else some positionId) hrecorded

/-! ### Attempts that do not -/

lemma release_ne {slots : Slots} (hheld : positionId ∈ slots.holders) :
    slots.release positionId ≠ slots := by
  intro h
  have hholders := congrArg Slots.holders h
  unfold Slots.release at hholders
  rw [if_pos hheld] at hholders
  have hgone : positionId ∉ slots.holders := by
    rw [← hholders]
    exact Finset.notMem_erase positionId slots.holders
  exact hgone hheld

lemma apply_attempted_close (hrow : durable.state.store.get positionId = some row)
    (hwrites : durable.state.store.writes failure
      (.exitVerified positionId price received fee time) = some positionId)
    (answers : Answers) :
    (attempt (.exitVerified positionId price received fee time) durable failure).apply answers
        answers (.exitVerified positionId price received fee time) =
      (attempt (.exitVerified positionId price received fee time) durable failure, .ok .none) := by
  have hbooks := apply_booked failure (.exitVerified positionId price received fee time) rfl rfl
    hrow hwrites
  refine apply_skipped answers _ rfl rfl hbooks.inMemory ?_
  simp only [Store.writes, attempt, hbooks.inMemory]
  rfl

lemma failures_nil_of_exitVerified (hrow : durable.state.store.get positionId = some row)
    (hretried : Retried durable (.exitVerified positionId price received fee time) failures last)
    (hunsettled : durable.Unsettled (.exitVerified positionId price received fee time) positionId)
    (hsame : durable.SameAsOnce (.exitVerified positionId price received fee time) positionId
      failures last) :
    failures = [] := by
  cases failures with
  | nil => rfl
  | cons failure rest =>
    obtain ⟨hfailed, hrest⟩ := hretried.failed
    have hwrites := writes_of_failed rfl rfl hrow hfailed
    have hbooks := apply_booked failure (.exitVerified positionId price received fee time) rfl rfl
      hrow hwrites
    have honce := apply_booked last.writing (.exitVerified positionId price received fee time) rfl
      rfl hrow hwrites
    have hunwritten : failure.rowWrite.isOk = false := by
      rw [hbooks.result] at hfailed
      simpa [PositionTransition.clears] using hfailed
    have hskipped := apply_attempted_close hrow hwrites
    obtain rfl : rest = [] := by
      cases rest with
      | nil => rfl
      | cons next rest =>
        have hnext : ((attempt (.exitVerified positionId price received fee time) durable
            failure).apply next next (.exitVerified positionId price received fee time)).2.isOk =
            false := hrest.1
        rw [hskipped next] at hnext
        cases hnext
    have hagrees : Agrees positionId (durable.apply failure failure (.exitVerified positionId price
        received fee time)).1 (durable.apply last.writing last.writing (.exitVerified positionId
        price received fee time)).1 := by
      have h := hsame
      unfold SameAsOnce at h
      rw [foldl_cons, foldl_nil, attempt, hskipped last] at h
      exact h
    rcases hunsettled rfl with hheld | ⟨saved, hsaved, hunverified⟩
    · have hslots := hagrees.slots
      rw [hbooks.slots, honce.slots, hunwritten] at hslots
      exact absurd hslots.symm (release_ne hheld)
    · have hrows := hagrees.inTable
      rw [hbooks.inTable, honce.inTable, hunwritten, hsaved] at hrows
      have hverified := congrArg (Option.map Position.transactionExitVerified) hrows
      rw [show (if false = true then _ else some saved : Option Position) = some saved from rfl,
        Option.map_some, hunverified] at hverified
      cases hverified

lemma iterate_wrappingSucc32 (n count : ℕ) :
    wrappingSucc32^[n + 1] count = (count + (n + 1)) % 2 ^ 32 := by
  induction n with
  | zero => rfl
  | succ n ih =>
    rw [Function.iterate_succ_apply', ih]
    unfold wrappingSucc32
    omega

lemma count_retried (hverified : transition.isVerifiedSwap = true)
    (hid : transition.positionId = some positionId)
    (hcounts : ∀ decimals row, transition.count (transition.written decimals row) =
      wrappingSucc32 (transition.count row))
    (hrow : durable.state.store.get positionId = some row)
    (hfailed : Throughout (attempt transition)
      (fun durable answers => (durable.apply answers answers transition).2.isOk = false) durable
      failures) :
    ∃ held, (failures.foldl (attempt transition) durable).state.store.get positionId = some held ∧
      transition.count held = wrappingSucc32^[failures.length] (transition.count row) := by
  induction failures generalizing durable row with
  | nil => exact ⟨row, hrow, rfl⟩
  | cons failure failures ih =>
    have hbooks := apply_booked failure transition hverified hid hrow
      (writes_of_failed hverified hid hrow hfailed.1)
    obtain ⟨held, hheld, hcount⟩ := ih hbooks.inMemory hfailed.2
    refine ⟨held, hheld, ?_⟩
    rw [hcount, hcounts, length_cons, Function.iterate_succ_apply]

lemma failures_nil_of_dcaVerified {tokens : ℕ} {spent : ℚ}
    (hrow : durable.state.store.get positionId = some row)
    (hretried : Retried durable (.dcaVerified positionId tokens spent price fee time signature)
      failures last)
    (hlength : failures.length + 1 < 2 ^ 32)
    (hsame : durable.SameAsOnce (.dcaVerified positionId tokens spent price fee time signature)
      positionId failures last) :
    failures = [] := by
  obtain ⟨held, hheld, hcount⟩ := count_retried rfl rfl (fun _ _ => rfl) hrow hretried.failed
  have hbooks := apply_booked last (.dcaVerified positionId tokens spent price fee time signature)
    rfl rfl hheld rfl
  have honce := apply_booked last.writing
    (.dcaVerified positionId tokens spent price fee time signature) rfl rfl hrow rfl
  have hrows := hbooks.inMemory.symm.trans (hsame.inMemory.trans honce.inMemory)
  have hcounts : wrappingSucc32 held.dcaCount = wrappingSucc32 row.dcaCount :=
    congrArg Position.dcaCount (Option.some.inj hrows)
  have hcount' : held.dcaCount = wrappingSucc32^[failures.length] row.dcaCount := hcount
  cases failures with
  | nil => rfl
  | cons failure rest =>
    rw [hcount', length_cons, iterate_wrappingSucc32] at hcounts
    rw [length_cons] at hlength
    unfold wrappingSucc32 at hcounts
    omega

lemma count_attempt (hverified : transition.isVerifiedSwap = true)
    (hid : transition.positionId = some positionId)
    (hcounts : ∀ decimals row, transition.count (transition.written decimals row) =
      wrappingSucc32 (transition.count row))
    (hrow : durable.state.store.get positionId = some row) (answers : Answers) :
    ∃ after, (attempt transition durable answers).state.store.get positionId = some after ∧
      transition.count after =
        if (durable.state.store.writes answers transition).isSome then
          wrappingSucc32 (transition.count row)
        else transition.count row := by
  rcases writes_cases hid answers with hskips | hwrites
  · refine ⟨row, ?_, ?_⟩
    · rw [attempt, apply_skipped answers transition hverified hid hrow hskips]
      exact hrow
    · rw [hskips]
      rfl
  · refine ⟨_, (apply_booked answers transition hverified hid hrow hwrites).inMemory, ?_⟩
    rw [hwrites, hcounts]
    rfl

lemma counted_once {heldOff recorded : Bool} {n count : ℕ} (hlength : n + 1 + 1 < 2 ^ 32)
    (hagree : (if (bif heldOff then none else some positionId).isSome then
        wrappingSucc32 (wrappingSucc32^[n + 1] count) else wrappingSucc32^[n + 1] count) =
      if (bif recorded then none else some positionId).isSome then wrappingSucc32 count
      else count) : heldOff = true ∧ recorded = false ∧ n = 0 := by
  rw [iterate_wrappingSucc32] at hagree
  unfold wrappingSucc32 at hagree
  cases heldOff with
  | false =>
    -- the last attempt counts too
    cases recorded <;> simp only [cond_true, cond_false, Option.isSome_some, Option.isSome_none,
      if_true, Bool.false_eq_true, if_false] at hagree <;> omega
  | true =>
    cases recorded with
    | false =>
      simp only [cond_true, cond_false, Option.isSome_some, Option.isSome_none, if_true,
        Bool.false_eq_true, if_false] at hagree
      refine ⟨rfl, rfl, ?_⟩
      omega
    | true =>
      simp only [cond_true, Option.isSome_none, Bool.false_eq_true, if_false] at hagree
      omega

lemma undivided_of_partialExitVerified (hrow : durable.state.store.get positionId = some row)
    (hretried : Retried durable (.partialExitVerified positionId amount received price fee time
      signature percentage) failures last)
    (hlength : failures.length + 1 < 2 ^ 32)
    (hsame : durable.SameAsOnce (.partialExitVerified positionId amount received price fee time
      signature percentage) positionId failures last) :
    durable.Undivided (.partialExitVerified positionId amount received price fee time signature
      percentage) failures last := by
  have hcounts : ∀ decimals row, PositionTransition.count (.partialExitVerified positionId amount
      received price fee time signature percentage) (PositionTransition.written decimals
      (.partialExitVerified positionId amount received price fee time signature percentage) row) =
      wrappingSucc32 (PositionTransition.count (.partialExitVerified positionId amount received
        price fee time signature percentage) row) :=
    fun decimals row => Position.partialExitCount_soldBy decimals row amount received price
  cases failures with
  | nil => exact Or.inl rfl
  | cons failure rest =>
    have hfirst := unrecorded_of_writes (writes_of_failed rfl rfl hrow hretried.failed.1)
    obtain ⟨held, hheld, hcount⟩ := count_retried rfl rfl hcounts hrow hretried.failed
    obtain ⟨after, hafter, hcountAfter⟩ := count_attempt rfl rfl hcounts hheld last
    obtain ⟨once, honce, hcountOnce⟩ := count_attempt rfl rfl hcounts hrow last.writing
    obtain rfl : after = once :=
      Option.some.inj (hafter.symm.trans (hsame.inMemory.trans honce))
    have hagree := hcountAfter.symm.trans hcountOnce
    rw [writes_writing, writes_partialExitVerified, writes_partialExitVerified, hcount,
      length_cons] at hagree
    rw [length_cons] at hlength
    -- one attempt counted, and the record it left is found
    obtain ⟨hlast, hnew, hrest⟩ := counted_once hlength hagree
    obtain rfl : rest = [] := eq_nil_of_length_eq_zero hrest
    rw [Bool.and_eq_true, foldl_cons, foldl_nil, attempt, store_apply] at hlast
    obtain ⟨hlookup, hrecorded⟩ := hlast
    rw [hlookup, Bool.true_and] at hnew
    have hrecords := (exitRecordExists_applyPartialExitVerified failure hrow hfirst amount received
      price fee time percentage).symm.trans hrecorded
    rw [hnew, Bool.false_or, Bool.and_eq_true] at hrecords
    exact Or.inr ⟨failure, rfl, hrecords.1, hrecords.2, hlookup, hnew⟩

end attempts

end Durable

/-- **Attempts that end as one application does**: the same row in memory and in the table and the
same slots when they are undivided; and only then, if a close had something left to do. -/
theorem sameAsOnce_iff (durable : Durable) (transition : PositionTransition) (positionId : ℤ)
    (failures : List Answers) (last : Answers) (hverified : transition.isVerifiedSwap = true)
    (hid : transition.positionId = some positionId)
    (hretried : durable.Retried transition failures last) :
    (durable.Undivided transition failures last →
      durable.SameAsOnce transition positionId failures last) ∧
    (failures.length + 1 < 2 ^ 32 → durable.Unsettled transition positionId →
      durable.SameAsOnce transition positionId failures last →
      durable.Undivided transition failures last) := by
  cases hrow : durable.state.store.get positionId with
  | none =>
    have hnil := Durable.failures_nil_of_none hverified hid hrow hretried
    refine ⟨fun _ => Durable.sameAsOnce_of_none hverified hid hrow, fun _ _ _ => ?_⟩
    cases transition with
    | entryVerified => trivial
    | exitVerified => exact hnil
    | partialExitVerified => exact Or.inl hnil
    | dcaVerified => exact hnil
    | _ => cases hverified
  | some row =>
    have hnil : failures = [] → durable.SameAsOnce transition positionId failures last := by
      rintro rfl
      exact Durable.sameAsOnce_nil hverified hid hretried.succeeded
    cases transition with
    | entryVerified id price amount fee size =>
      obtain rfl := Option.some.inj hid
      exact ⟨fun _ => Durable.sameAsOnce_entryVerified hrow hretried, fun _ _ _ => trivial⟩
    | exitVerified id price received fee time =>
      obtain rfl := Option.some.inj hid
      exact ⟨hnil, fun _ hunsettled hsame =>
        Durable.failures_nil_of_exitVerified hrow hretried hunsettled hsame⟩
    | partialExitVerified id amount received price fee time signature percentage =>
      obtain rfl := Option.some.inj hid
      refine ⟨?_, fun hlength _ hsame =>
        Durable.undivided_of_partialExitVerified hrow hretried hlength hsame⟩
      rintro (rfl | ⟨failure, rfl, hwrite, hrecord, hlookup, hnew⟩)
      · exact hnil rfl
      · exact Durable.sameAsOnce_partialExitVerified hrow
          (hretried.decimals failure mem_cons_self) hwrite hrecord hlookup hnew
    | dcaVerified id tokens spent price fee time signature =>
      obtain rfl := Option.some.inj hid
      exact ⟨hnil, fun hlength _ hsame =>
        Durable.failures_nil_of_dcaVerified hrow hretried hlength hsame⟩
    | _ => cases hverified

/-! ## A close whose row is not written -/

/-- A position that is being closed, in memory and in the table; it holds the only slot. -/
def closingDurable : Durable where
  state :=
    { store := ⟨[closingRow], [], [], []⟩
      sigToMint := fun _ => none
      mintToPosition := fun _ => none
      slots := ⟨0, {1}⟩ }
  rows := fun positionId => if positionId = 1 then some closingRow else none
where
  closingRow : Position := ((openedPosition (some 1) "MINT" "TKN" "Token" "open-sig" 2 2 .manual
    .userOnly 0).entryVerified 2 100 5000 2).exitStamped "exit-sig" 3 "take_profit"

/-- A partial exit whose mark is not cleared at first. -/
theorem sameAsOnce_iff_marked :
    closingDurable.SameAsOnce (.partialExitVerified 1 40 1 3 5000 10 "part-sig" 40) 1
      [{ Answers.willing 10 with pendingWrite := .error "database is locked" }] (.willing 11) := by
  have hretried : closingDurable.Retried (.partialExitVerified 1 40 1 3 5000 10 "part-sig" 40)
      [{ Answers.willing 10 with pendingWrite := .error "database is locked" }] (.willing 11) := by
    refine ⟨⟨by decide, trivial⟩, by decide, fun failure hfailure => ?_⟩
    obtain rfl := mem_singleton.mp hfailure
    rfl
  exact (sameAsOnce_iff closingDurable _ 1 _ _ rfl rfl hretried).1
    (Or.inr ⟨_, rfl, rfl, rfl, rfl, rfl⟩)

/-- The database does not take the row of a close: the next attempt is held off by the memory, and
the slot of the closed position stays taken. -/
theorem not_sameAsOnce_unwritten :
    ¬ ∀ (durable : Durable) (transition : PositionTransition) (positionId : ℤ)
      (failures : List Answers) (last : Answers), transition.isVerifiedSwap = true →
      transition.positionId = some positionId → durable.Retried transition failures last →
      durable.SameAsOnce transition positionId failures last := by
  intro h
  have hretried : closingDurable.Retried (.exitVerified 1 3 3 5000 10)
      [{ Answers.willing 10 with rowWrite := .error "database is locked" }] (.willing 11) := by
    refine ⟨⟨by decide +kernel, trivial⟩, by decide +kernel, fun failure hfailure => ?_⟩
    obtain rfl := mem_singleton.mp hfailure
    rfl
  have hsame := h closingDurable _ 1 _ _ rfl rfl hretried
  have hnil := Durable.failures_nil_of_exitVerified rfl hretried
    (fun _ => Or.inl (Finset.mem_singleton_self 1)) hsame
  cases hnil

end Dripline.Positions

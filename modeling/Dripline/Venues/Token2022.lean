import Mathlib
import Dripline.Venues.ClmmTicks

/-!
# Fees of a transfer

`direct/venues/token2022.rs`. A mint may take a cut of every transfer, under one of two schedules;
which of them is in force is not looked up, and the one with the higher rate is used.

* `TransferFeeSchedule.feeOn`, `transferFeeSchedule` — the cut, and the choice.
* `overstated_iff` — when the choice takes at least what either schedule would.

A source without a file is in `token2022.rs`, where a definition without a comment is the one
of its name.
-/

namespace Dripline.Venues

open Dripline.Swaps (Pubkey)

/-- A share in hundredths of a percent, rounded up.
Source: Rust's `u128::div_ceil`, by 10,000 -/
def shareOf (amount basisPoints : ℕ) : ℕ := (amount * basisPoints + 9999) / 10000

lemma shareOf_le_shareOf {amount amount' bps bps' : ℕ} (hamount : amount ≤ amount')
    (hbps : bps ≤ bps') : shareOf amount bps ≤ shareOf amount' bps' := by
  have hproduct : amount * bps ≤ amount' * bps' := Nat.mul_le_mul hamount hbps
  unfold shareOf
  omega

structure TransferFeeSchedule where
  basisPoints : ℕ
  maximumFee : ℕ

def TransferFeeSchedule.feeOn (schedule : TransferFeeSchedule) (amount : ℕ) : ℕ :=
  if schedule.basisPoints = 0 then 0
  else min (min (shareOf amount schedule.basisPoints) schedule.maximumFee) amount

def TransferFeeSchedule.netOfFee (schedule : TransferFeeSchedule) (amount : ℕ) : ℕ :=
  amount - schedule.feeOn amount

variable (schedule : Option TransferFeeSchedule)

/-- What arrives of a transfer. -/
def netOfFee (amount : ℕ) : ℕ :=
  (schedule.map (·.netOfFee amount)).getD amount

lemma netOfFee_le (amount : ℕ) : netOfFee schedule amount ≤ amount := by
  cases schedule
  · exact le_rfl
  · exact Nat.sub_le _ _

lemma netOfFee_mono : Monotone (netOfFee schedule) := by
  intro amount amount' hamount
  rcases schedule with _ | ⟨bps, maximum⟩
  · exact hamount
  · simp only [netOfFee, Option.map_some, Option.getD_some, TransferFeeSchedule.netOfFee,
      TransferFeeSchedule.feeOn]
    split_ifs
    · exact hamount
    · obtain ⟨more, rfl⟩ := Nat.exists_eq_add_of_le hamount
      have hexpand : (amount + more) * bps = amount * bps + more * bps := Nat.add_mul _ _ _
      unfold shareOf
      -- a rate up to the whole takes no more than the increase; above it the cut is all or the cap
      rcases Nat.le_total bps 10000 with hbps | hbps
      · have hmore : more * bps ≤ more * 10000 := Nat.mul_le_mul_left _ hbps
        omega
      · have hall : amount * 10000 ≤ amount * bps := Nat.mul_le_mul_left _ hbps
        have hmore : more * 10000 ≤ more * bps := Nat.mul_le_mul_left _ hbps
        omega

/-! ## The choice of a schedule -/

/-- What the program keeps of one schedule. Source: `spl_token_2022`, `TransferFee` -/
structure TransferFee where
  transferFeeBasisPoints : ℕ
  maximumFee : ℕ

/-- Source: `spl_token_2022`, `TransferFeeConfig` -/
structure TransferFeeConfig where
  olderTransferFee : TransferFee
  newerTransferFee : TransferFee

/-- Source: `solana_sdk`, `Account` -/
structure Account (Data : Type) where
  owner : Pubkey
  data : Data

def scheduleFrom (fee : TransferFee) : TransferFeeSchedule :=
  ⟨fee.transferFeeBasisPoints, fee.maximumFee⟩

section Choice

variable {Data : Type} (token2022 : Pubkey) (readConfig : Data → Option TransferFeeConfig)

/-- The reading of an account's data is the token program's. -/
def transferFeeSchedule (mintAccount : Account Data) : Option TransferFeeSchedule :=
  if mintAccount.owner ≠ token2022 then none
  else
    (readConfig mintAccount.data).map fun config =>
      let older := scheduleFrom config.olderTransferFee
      let newer := scheduleFrom config.newerTransferFee
      if older.basisPoints ≤ newer.basisPoints then newer else older

/-- What is deducted is at least what the schedule in force deducts, whatever the amount. -/
def Overstates (used inForce : TransferFeeSchedule) : Prop :=
  ∀ amount ≤ u64Max, inForce.feeOn amount ≤ used.feeOn amount ∧
    used.netOfFee amount ≤ inForce.netOfFee amount

/-- The cap of the one schedule does not bind below what the other may take. -/
def Covers (used other : TransferFeeSchedule) : Prop :=
  min other.maximumFee u64Max ≤ used.maximumFee ∨
    shareOf u64Max other.basisPoints ≤ used.maximumFee

lemma overstates_self (used : TransferFeeSchedule) : Overstates used used :=
  fun _ _ => ⟨le_rfl, le_rfl⟩

lemma overstates_iff_covers {used other : TransferFeeSchedule}
    (hrate : other.basisPoints ≤ used.basisPoints) : Overstates used other ↔ Covers used other := by
  constructor
  · intro h
    have hlargest := (h u64Max le_rfl).1
    unfold TransferFeeSchedule.feeOn at hlargest
    unfold Covers
    have hfree : other.basisPoints = 0 → shareOf u64Max other.basisPoints = 0 := by
      intro hzero
      simp [hzero, shareOf]
    split_ifs at hlargest <;> omega
  · intro hcovers amount hamount
    have hfee : other.feeOn amount ≤ used.feeOn amount := by
      have hhigher : shareOf amount other.basisPoints ≤ shareOf amount used.basisPoints :=
        shareOf_le_shareOf le_rfl hrate
      have hlarger : shareOf amount other.basisPoints ≤ shareOf u64Max other.basisPoints :=
        shareOf_le_shareOf hamount le_rfl
      unfold Covers at hcovers
      unfold TransferFeeSchedule.feeOn
      split_ifs <;> omega
    exact ⟨hfee, Nat.sub_le_sub_left hfee amount⟩

/-- The schedule with the higher rate covers the other. -/
def Covered (older newer : TransferFeeSchedule) : Prop :=
  if older.basisPoints ≤ newer.basisPoints then Covers newer older else Covers older newer

lemma overstates_both_iff (older newer : TransferFeeSchedule) :
    (Overstates (if older.basisPoints ≤ newer.basisPoints then newer else older) older ∧
        Overstates (if older.basisPoints ≤ newer.basisPoints then newer else older) newer) ↔
      Covered older newer := by
  unfold Covered
  split_ifs with hrate
  · rw [overstates_iff_covers hrate]
    exact and_iff_left (overstates_self _)
  · rw [overstates_iff_covers (Nat.le_of_not_le hrate)]
    exact and_iff_right (overstates_self _)

/-- **The choice by rate alone overstates the fee exactly where the higher rate is not stopped by
its cap below what the other schedule can reach.** -/
theorem overstated_iff (mintAccount : Account Data) :
    (∀ config used, readConfig mintAccount.data = some config →
        transferFeeSchedule token2022 readConfig mintAccount = some used →
        Overstates used (scheduleFrom config.olderTransferFee) ∧
          Overstates used (scheduleFrom config.newerTransferFee)) ↔
      ∀ config, readConfig mintAccount.data = some config → mintAccount.owner = token2022 →
        Covered (scheduleFrom config.olderTransferFee) (scheduleFrom config.newerTransferFee) := by
  refine forall_congr' fun config => ?_
  simp only [← overstates_both_iff]
  constructor
  · intro h hread howner
    refine h _ hread ?_
    simp only [transferFeeSchedule, howner, hread, ne_eq, not_true, if_false, Option.map_some]
  · intro h used hread hused
    simp only [transferFeeSchedule, hread, ite_not, Option.map_some, Option.ite_none_right_eq_some,
      Option.some.injEq] at hused
    obtain ⟨howner, rfl⟩ := hused
    exact h hread howner

/-- A rate of five percent up to a thousand is chosen over four percent up to a million, and
deducts less from a million. -/
theorem not_overstated :
    ¬∀ (mintAccount : Account TransferFeeConfig) (config : TransferFeeConfig)
        (used : TransferFeeSchedule), mintAccount.data = config →
      transferFeeSchedule "Token2022" some mintAccount = some used →
      Overstates used (scheduleFrom config.olderTransferFee) := by
  intro h
  have hmillion := (h ⟨"Token2022", ⟨400, 1000000⟩, ⟨500, 1000⟩⟩ _ ⟨500, 1000⟩ rfl rfl 1000000
    (by decide)).1
  revert hmillion
  decide

end Choice

end Dripline.Venues

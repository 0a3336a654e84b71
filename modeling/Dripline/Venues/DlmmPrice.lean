import Mathlib
import Dripline.Venues.MeteoraDlmm

/-!
# The prices of the bins

`direct/venues/meteora_dlmm.rs`, `get_price_from_id` and `pow_q64`. A power is multiplied together
from the squares of a base below one, each product rounded down; for a positive id it is inverted.

* `getPriceFromId_rounds` — the price does not fall as the id grows, and on which side of the power
  it lies.
-/

namespace Dripline.Venues.MeteoraDlmm

/-- The product of the squares that the bits of `n` name, from the lowest bit up. -/
def powBits : ℕ → ℕ → ℕ → ℕ → ℕ
  | 0, _, result, _ => result
  | turns + 1, squaredBase, result, n =>
    powBits turns (squaredBase * squaredBase / 2 ^ 64)
      (if n % 2 = 1 then result * squaredBase / 2 ^ 64 else result) (n / 2)

/-- The base of the powers, in Q64.64. Source: `base` in `get_price_from_id` -/
def q64Base (binStep : ℕ) : ℕ := 2 ^ 64 + binStep * 2 ^ 64 / basisPointMax

lemma mul_div_le_left {a b : ℕ} (hb : b ≤ 2 ^ 64) : a * b / 2 ^ 64 ≤ a :=
  Nat.div_le_of_le_mul (by rw [Nat.mul_comm]; exact Nat.mul_le_mul_right a hb)

lemma powBits_zero (turns squaredBase result : ℕ) : powBits turns squaredBase result 0 = result := by
  induction turns generalizing squaredBase with
  | zero => rfl
  | succ turns ih => exact ih _

lemma powBits_mono (turns squaredBase n : ℕ) {less more : ℕ} (h : less ≤ more) :
    powBits turns squaredBase less n ≤ powBits turns squaredBase more n := by
  induction turns generalizing squaredBase less more n with
  | zero => exact h
  | succ turns ih =>
    refine ih _ _ ?_
    split
    · exact Nat.div_le_div_right (Nat.mul_le_mul_right _ h)
    · exact h

lemma powBits_le (turns n : ℕ) {squaredBase result : ℕ} (hs : squaredBase ≤ 2 ^ 64) :
    powBits turns squaredBase result n ≤ result := by
  induction turns generalizing squaredBase result n with
  | zero => exact le_rfl
  | succ turns ih =>
    refine (ih _ ((mul_div_le_left hs).trans hs)).trans ?_
    split
    · exact mul_div_le_left hs
    · exact le_rfl

/-- **One more in the exponent makes no more.** While the low bits of the smaller exponent are ones,
the larger one has carried past them: `carried` is their product, and the next square is no more. -/
lemma powBits_succ_le {turns n squaredBase carried : ℕ} (hn : n + 1 < 2 ^ turns)
    (hs : squaredBase ≤ carried) (hcarried : carried ≤ 2 ^ 64) :
    powBits turns squaredBase (2 ^ 64) (n + 1) ≤ powBits turns squaredBase carried n := by
  induction turns generalizing n squaredBase carried with
  | zero => simp at hn
  | succ turns ih =>
    have hbase := hs.trans hcarried
    unfold powBits
    rw [pow_succ] at hn
    rcases Nat.mod_two_eq_zero_or_one n with heven | hodd
    · rw [show (n + 1) / 2 = n / 2 by omega, if_pos (by omega), if_neg (by omega),
        Nat.mul_div_cancel_left _ (by norm_num)]
      exact powBits_mono _ _ _ hs
    · rw [show (n + 1) / 2 = n / 2 + 1 by omega, if_neg (by omega), if_pos hodd]
      refine ih (by omega) (Nat.div_le_div_right (Nat.mul_le_mul_right _ hs)) ?_
      exact (mul_div_le_left hbase).trans hcarried

/-- **No more than the power**, where the base is no more than `2 ^ 64` times `x`. -/
lemma powBits_le_pow {turns n squaredBase : ℕ} (hn : n < 2 ^ turns) {x : ℚ} (hx : 0 ≤ x)
    (hs : (squaredBase : ℚ) ≤ 2 ^ 64 * x) (result : ℕ) :
    (powBits turns squaredBase result n : ℚ) ≤ result * x ^ n := by
  have hround (a b : ℕ) : ((a * b / 2 ^ 64 : ℕ) : ℚ) ≤ a * b / 2 ^ 64 := by
    have := Nat.cast_div_le (α := ℚ) (m := a * b) (n := 2 ^ 64)
    push_cast at this
    exact this
  induction turns generalizing n squaredBase x result with
  | zero =>
    obtain rfl : n = 0 := by omega
    simp [powBits]
  | succ turns ih =>
    rw [pow_succ] at hn
    have hsquare : ((squaredBase * squaredBase / 2 ^ 64 : ℕ) : ℚ) ≤ 2 ^ 64 * (x ^ 2) := by
      refine (hround _ _).trans ?_
      rw [div_le_iff₀ (by norm_num)]
      calc (squaredBase * squaredBase : ℚ) ≤ 2 ^ 64 * x * (2 ^ 64 * x) :=
            mul_le_mul hs hs (Nat.cast_nonneg _) (by positivity)
        _ = 2 ^ 64 * x ^ 2 * 2 ^ 64 := by ring
    have hn2 : x ^ n = x ^ (n % 2) * (x ^ 2) ^ (n / 2) := by
      rw [← pow_mul, ← pow_add, Nat.mod_add_div]
    unfold powBits
    refine (ih (by omega) (sq_nonneg x) hsquare _).trans ?_
    rw [hn2, ← mul_assoc]
    refine mul_le_mul_of_nonneg_right ?_ (by positivity)
    rcases Nat.mod_two_eq_zero_or_one n with heven | hodd
    · rw [heven, if_neg (by norm_num), pow_zero, mul_one]
    · rw [hodd, if_pos rfl, pow_one]
      refine (hround _ _).trans ?_
      rw [div_le_iff₀ (by norm_num), mul_assoc, mul_comm x]
      exact mul_le_mul_of_nonneg_left hs (Nat.cast_nonneg _)

/-- The loop names the bits of the exponent. -/
lemma powLoop_eq {exp turns i squaredBase result : ℕ} (hexp : exp < 2 ^ (i + turns))
    (hs : squaredBase < 2 ^ 64) (hresult : result ≤ 2 ^ 64) :
    powLoop exp turns (2 ^ i) (exp / 2 ^ i * 2 ^ i) squaredBase result =
      some (powBits turns squaredBase result (exp / 2 ^ i)) := by
  induction turns generalizing i squaredBase result with
  | zero => rfl
  | succ turns ih =>
    have hfits {a b : ℕ} (ha : a ≤ 2 ^ 64) (hb : b < 2 ^ 64) : mulQ64 a b = some (a * b / 2 ^ 64) := by
      refine if_pos ((Nat.mul_le_mul_right b ha).trans_lt ?_)
      exact (Nat.mul_lt_mul_of_pos_left hb (by norm_num)).trans_eq (by norm_num)
    have hbit (m : ℕ) : m &&& 2 ^ i = m / 2 ^ i % 2 * 2 ^ i := by
      rw [Nat.and_two_pow, Nat.testBit_eq_decide_div_mod_eq]
      rcases Nat.mod_two_eq_zero_or_one (m / 2 ^ i) with h | h <;> simp [h]
    have hpos : 0 < 2 ^ i := Nat.two_pow_pos i
    have hhalf : exp / 2 ^ (i + 1) = exp / 2 ^ i / 2 := by rw [pow_succ, Nat.div_div_eq_div_mul]
    have hnext := @ih (i + 1) (squaredBase * squaredBase / 2 ^ 64)
    rw [hhalf] at hnext
    unfold powLoop powBits
    simp only [hbit, Nat.mul_div_cancel _ hpos, hfits hs.le hs, hfits hresult hs]
    generalize exp / 2 ^ i = n at hnext ⊢
    have hsmall : squaredBase * squaredBase / 2 ^ 64 < 2 ^ 64 := (mul_div_le_left hs.le).trans_lt hs
    have hexp' : exp < 2 ^ (i + 1 + turns) := by rwa [Nat.add_assoc, Nat.add_comm 1]
    have hrest : n * 2 ^ i - n % 2 * 2 ^ i = n / 2 * 2 ^ (i + 1) := by
      rw [← Nat.sub_mul, pow_succ', ← Nat.mul_assoc]
      congr 1
      omega
    rw [hrest, ← pow_succ]
    split
    · rename_i hzero
      obtain rfl : n = 0 := by simpa [hpos.ne'] using hzero
      rw [Nat.zero_mod, if_neg (by norm_num), Nat.zero_div, powBits_zero]
    · rcases Nat.mod_two_eq_zero_or_one n with heven | hodd
      · simp only [heven, Nat.zero_mul, ne_eq, not_true_eq_false, if_false, zero_ne_one]
        exact hnext hexp' hsmall hresult
      · simp only [hodd, Nat.one_mul, ne_eq, hpos.ne', not_false_eq_true, if_true]
        exact hnext hexp' hsmall ((mul_div_le_left hs.le).trans hresult)

section Price

variable (binStep : ℕ)

/-- What the loop leaves for an exponent. -/
def power (n : ℕ) : ℕ := powBits 20 ((2 ^ 128 - 1) / q64Base binStep) (2 ^ 64) n

variable {binStep}

lemma squaredBase_lt : (2 ^ 128 - 1) / q64Base binStep < 2 ^ 64 := by
  have hbase : 2 ^ 64 ≤ q64Base binStep := Nat.le_add_right _ _
  generalize q64Base binStep = base at hbase ⊢
  rw [Nat.div_lt_iff_lt_mul (by omega)]
  omega

lemma power_anti {n n' : ℕ} (h : n ≤ n') (hn : n' < 0x80000) : power binStep n' ≤ power binStep n := by
  induction h with
  | refl => exact le_rfl
  | step h ih =>
    exact (powBits_succ_le (hn.trans (by norm_num)) squaredBase_lt.le le_rfl).trans
      (ih (Nat.lt_of_succ_lt hn))

lemma power_zero : power binStep 0 = 2 ^ 64 := powBits_zero ..

lemma power_le (n : ℕ) : power binStep n ≤ 2 ^ 64 := powBits_le _ _ squaredBase_lt.le

lemma power_le_pow {n : ℕ} (hn : n < 0x80000) :
    (power binStep n : ℚ) * ((q64Base binStep : ℚ) / 2 ^ 64) ^ n ≤ 2 ^ 64 := by
  have hbase : (0 : ℚ) < q64Base binStep := by
    unfold q64Base
    positivity
  have hs : (((2 ^ 128 - 1) / q64Base binStep : ℕ) : ℚ) ≤ 2 ^ 64 * (2 ^ 64 / q64Base binStep) := by
    refine Nat.cast_div_le.trans ?_
    rw [← mul_div_assoc]
    exact div_le_div_of_nonneg_right (by norm_num) hbase.le
  have hle := @powBits_le_pow 20 _ _ (hn.trans (by norm_num)) _ (by positivity) hs (2 ^ 64)
  have hinverse : ((2 : ℚ) ^ 64 / q64Base binStep) ^ n * ((q64Base binStep : ℚ) / 2 ^ 64) ^ n = 1 := by
    rw [← mul_pow, div_mul_div_cancel₀ hbase.ne', div_self (by norm_num), one_pow]
  calc (power binStep n : ℚ) * ((q64Base binStep : ℚ) / 2 ^ 64) ^ n
      ≤ 2 ^ 64 * (2 ^ 64 / q64Base binStep) ^ n * ((q64Base binStep : ℚ) / 2 ^ 64) ^ n := by
        refine mul_le_mul_of_nonneg_right ?_ (by positivity)
        push_cast at hle
        exact hle
    _ = 2 ^ 64 := by rw [mul_assoc, hinverse, mul_one]

lemma power_lt {n : ℕ} (hpos : 0 < n) (hn : n < 0x80000) : power binStep n < 2 ^ 64 := by
  refine (power_anti hpos hn).trans_lt (lt_of_le_of_lt ?_ (@squaredBase_lt binStep))
  unfold power powBits
  rw [if_pos (by norm_num), Nat.mul_div_cancel_left _ (by norm_num)]
  exact (powBits_zero ..).le

lemma powLoop_power {n : ℕ} (hn : n < 0x80000) :
    powLoop n 20 1 n ((2 ^ 128 - 1) / q64Base binStep) (2 ^ 64) = some (power binStep n) := by
  have h := @powLoop_eq n 20 0 _ _ (hn.trans (by norm_num))
    (@squaredBase_lt binStep) le_rfl
  rw [pow_zero, Nat.div_one, Nat.mul_one] at h
  exact h

/-- A price is a power, or for a positive id its inverse. -/
lemma getPriceFromId_eq {id : ℤ} {price : ℕ} (h : getPriceFromId id binStep = some price) :
    id.natAbs < 0x80000 ∧ 0 < power binStep id.natAbs ∧
      (id ≤ 0 ∧ price = power binStep id.natAbs ∨
        0 < id ∧ price = (2 ^ 128 - 1) / power binStep id.natAbs) := by
  have hbase : 2 ^ 64 ≤ q64Base binStep := Nat.le_add_right _ _
  have hpow : powQ64 (q64Base binStep) id = some price := (Option.ite_none_right_eq_some.mp h).2
  unfold powQ64 at hpow
  split at hpow
  · rename_i hzero
    obtain rfl := Option.some.inj hpow
    rw [hzero, Int.natAbs_zero, power_zero]
    exact ⟨by norm_num, by norm_num, .inl ⟨le_rfl, rfl⟩⟩
  · rename_i hzero
    obtain ⟨hmax, hpow⟩ := Option.ite_none_left_eq_some.mp hpow
    have hn : id.natAbs < 0x80000 := not_le.mp hmax
    simp only [decide_eq_true hbase, if_true, powLoop_power hn] at hpow
    obtain ⟨hne, hpow⟩ := Option.ite_none_left_eq_some.mp hpow
    refine ⟨hn, Nat.pos_of_ne_zero hne, ?_⟩
    rcases lt_or_gt_of_ne hzero with hneg | hpos
    · rw [decide_eq_true hneg, bne_self_eq_false, if_neg Bool.false_ne_true] at hpow
      exact .inl ⟨hneg.le, (Option.some.inj hpow).symm⟩
    · rw [decide_eq_false hpos.not_gt, if_pos (by decide)] at hpow
      exact .inr ⟨hpos, (Option.some.inj hpow).symm⟩

end Price

/-- **The price does not fall as the id grows; for a negative id it is at most the power of the base
that the code computes with, and for a positive id at least that power, less one unit.** -/
theorem getPriceFromId_rounds (binStep : ℕ) :
    (∀ id id' price price', id ≤ id' → getPriceFromId id binStep = some price →
      getPriceFromId id' binStep = some price' → price ≤ price') ∧
    (∀ id price, id ≤ 0 → getPriceFromId id binStep = some price →
      (price : ℚ) ≤ 2 ^ 64 * ((q64Base binStep : ℚ) / 2 ^ 64) ^ id) ∧
    ∀ id price, 0 ≤ id → getPriceFromId id binStep = some price →
      2 ^ 64 * ((q64Base binStep : ℚ) / 2 ^ 64) ^ id ≤ price + 1 := by
  have hbase : (0 : ℚ) < (q64Base binStep : ℚ) / 2 ^ 64 := by
    unfold q64Base
    positivity
  refine ⟨fun id id' price price' hle h h' => ?_, fun id price hid h => ?_, fun id price hid h => ?_⟩
  · obtain ⟨hn, hpos, hprice⟩ := getPriceFromId_eq h
    obtain ⟨hn', hpos', hprice'⟩ := getPriceFromId_eq h'
    rcases hprice with ⟨hid, rfl⟩ | ⟨hid, rfl⟩
    · rcases hprice' with ⟨hid', rfl⟩ | ⟨hid', rfl⟩
      · exact power_anti (by omega) hn
      · -- the power of a positive id is below one, so that its inverse is not
        have hlt := @power_lt binStep id'.natAbs (by omega) hn'
        refine (power_le _).trans ((Nat.le_div_iff_mul_le hpos').mpr ?_)
        generalize power binStep id'.natAbs = p at hlt
        omega
    · rcases hprice' with ⟨hid', -⟩ | ⟨hid', rfl⟩
      · omega
      · exact Nat.div_le_div_left (power_anti (by omega) hn') hpos'
  · obtain ⟨hn, -, ⟨-, rfl⟩ | ⟨hpos, -⟩⟩ := getPriceFromId_eq h
    · obtain ⟨n, rfl⟩ := Int.exists_eq_neg_ofNat hid
      rw [Int.natAbs_neg, Int.natAbs_natCast] at hn ⊢
      rw [zpow_neg, zpow_natCast, le_mul_inv_iff₀ (pow_pos hbase n)]
      exact power_le_pow hn
    · omega
  · obtain ⟨n, rfl⟩ := Int.eq_ofNat_of_zero_le hid
    obtain ⟨hn, hpos, hprice⟩ := getPriceFromId_eq h
    rw [Int.natAbs_natCast] at hn hpos hprice
    have hle := @power_le_pow binStep n hn
    rw [zpow_natCast]
    rcases hprice with ⟨hzero, rfl⟩ | ⟨-, rfl⟩
    · obtain rfl : n = 0 := by omega
      rw [power_zero]
      norm_num
    · have hcovers := Nat.lt_mul_div_succ (2 ^ 128 - 1) hpos
      have hpos' : (0 : ℚ) < power binStep n := by exact_mod_cast hpos
      generalize power binStep n = p at hcovers hle hpos' ⊢
      generalize (2 ^ 128 - 1) / p = price at hcovers ⊢
      have hcovers' : (2 : ℚ) ^ 128 ≤ p * (price + 1) := by
        exact_mod_cast Nat.le_of_pred_lt hcovers
      refine le_of_mul_le_mul_left ?_ hpos'
      refine le_trans ?_ hcovers'
      calc (p : ℚ) * (2 ^ 64 * ((q64Base binStep : ℚ) / 2 ^ 64) ^ n)
          = 2 ^ 64 * (p * ((q64Base binStep : ℚ) / 2 ^ 64) ^ n) := by ring
        _ ≤ 2 ^ 64 * 2 ^ 64 := mul_le_mul_of_nonneg_left hle (by norm_num)
        _ = 2 ^ 128 := by norm_num

/-- At a step of ten basis points the bin below the first is priced above the power. -/
theorem not_getPriceFromId_below :
    ¬∀ (binStep : ℕ) (id : ℤ) (price : ℕ), getPriceFromId id binStep = some price →
      (price : ℚ) ≤ 2 ^ 64 * (1 + binStep / 10000) ^ id := by
  intro h
  have hprice := h 10 (-1) 18428315757951600016 (by decide)
  norm_num at hprice

end Dripline.Venues.MeteoraDlmm

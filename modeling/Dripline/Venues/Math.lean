import Mathlib.Algebra.Order.Floor.Semiring
import Mathlib.Data.Nat.Bitwise
import Mathlib.Tactic.Ring

/-!
# Products of 256 bits

`direct/venues/math.rs`. A product of two words of 128 bits is kept in two words and divided one bit
at a time.

* `checkedStep`, `roomLeft_lt` — a step within 32 bits, and the room that it takes.
-/

namespace Dripline.Venues

/-- A value of 128 bits. -/
def Word (n : ℕ) : Prop := n < 2 ^ 128

/-- Source: `math.rs` -/
def ceilDiv (numerator denominator : ℕ) : ℕ :=
  if denominator = 0 then 0 else (numerator + denominator - 1) / denominator

/-- Source: `math.rs` -/
def mulFull (a b : ℕ) : ℕ × ℕ :=
  let lowLow := a % 2 ^ 64 * (b % 2 ^ 64)
  let lowHigh := a % 2 ^ 64 * (b / 2 ^ 64)
  let highLow := a / 2 ^ 64 * (b % 2 ^ 64)
  let highHigh := a / 2 ^ 64 * (b / 2 ^ 64)
  let middle := lowLow / 2 ^ 64 + lowHigh % 2 ^ 64 + highLow % 2 ^ 64
  let low := lowLow % 2 ^ 64 ||| middle * 2 ^ 64 % 2 ^ 128
  (highHigh + lowHigh / 2 ^ 64 + highLow / 2 ^ 64 + middle / 2 ^ 64, low)

/-- Difference within the type. Source: Rust's `u128::wrapping_sub` -/
def wrappingSub (a b : ℕ) : ℕ := (a + 2 ^ 128 - b) % 2 ^ 128

/-- The bits of the low word from `bit` down. Source: `math.rs`, `div_full` -/
def divLoop (low divisor : ℕ) : ℕ → ℕ → ℕ → ℕ
  | 0, _, quotient => quotient
  | bit + 1, remainder, quotient =>
    let carry := remainder / 2 ^ 127
    let shifted := remainder * 2 % 2 ^ 128 ||| low / 2 ^ bit % 2
    if carry = 1 ∨ divisor ≤ shifted then
      divLoop low divisor bit (wrappingSub shifted divisor) (quotient ||| 2 ^ bit)
    else divLoop low divisor bit shifted quotient

/-- Source: `math.rs` -/
def divFull (high low divisor : ℕ) : Option ℕ :=
  if divisor = 0 ∨ divisor ≤ high then none else some (divLoop low divisor 128 high 0)

/-- Source: `math.rs` -/
def mulDivFloor (a b denominator : ℕ) : Option ℕ :=
  divFull (mulFull a b).1 (mulFull a b).2 denominator

/-- Source: `math.rs` -/
def mulDivCeil (a b denominator : ℕ) : Option ℕ :=
  match mulDivFloor a b denominator with
  | none => none
  | some floor =>
    if mulFull floor denominator = mulFull a b then some floor
    else if floor + 1 < 2 ^ 128 then some (floor + 1) else none

/-- Source: `math.rs` -/
def mulShr128Floor (a b : ℕ) : ℕ := (mulFull a b).1

/-- Source: `math.rs` -/
def mulShr128Ceil (a b : ℕ) : ℕ :=
  let (high, low) := mulFull a b
  if low = 0 then high else min (high + 1) (2 ^ 128 - 1)

/-- Source: `math.rs` -/
def shl128DivFloor (numerator denominator : ℕ) : Option ℕ := divFull numerator 0 denominator

/-! ## The product -/

variable {low high : ℕ}

lemma or_shifted (hlow : low < 2 ^ 64) :
    low ||| high * 2 ^ 64 % 2 ^ 128 = high % 2 ^ 64 * 2 ^ 64 + low := by
  have hshift : high * 2 ^ 64 % 2 ^ 128 = 2 ^ 64 * (high % 2 ^ 64) := by omega
  rw [hshift, Nat.or_comm, ← Nat.two_pow_add_eq_or_of_lt hlow, Nat.mul_comm]

lemma mulFull_spec (a b : ℕ) :
    (mulFull a b).1 * 2 ^ 128 + (mulFull a b).2 = a * b ∧ (mulFull a b).2 < 2 ^ 128 := by
  have hab : a * b = a / 2 ^ 64 * (b / 2 ^ 64) * 2 ^ 128 +
      (a % 2 ^ 64 * (b / 2 ^ 64) + a / 2 ^ 64 * (b % 2 ^ 64)) * 2 ^ 64 +
        a % 2 ^ 64 * (b % 2 ^ 64) := by
    conv_lhs => rw [← Nat.div_add_mod a (2 ^ 64), ← Nat.div_add_mod b (2 ^ 64)]
    ring
  simp only [mulFull]
  rw [or_shifted (Nat.mod_lt _ (by norm_num)), hab]
  generalize a / 2 ^ 64 * (b / 2 ^ 64) = highHigh
  generalize a % 2 ^ 64 * (b / 2 ^ 64) = lowHigh
  generalize a / 2 ^ 64 * (b % 2 ^ 64) = highLow
  generalize a % 2 ^ 64 * (b % 2 ^ 64) = lowLow
  omega

lemma mulFull_eq (a b : ℕ) : mulFull a b = (a * b / 2 ^ 128, a * b % 2 ^ 128) := by
  obtain ⟨hsum, hlow⟩ := mulFull_spec a b
  ext <;> simp only <;> omega

/-! ## The quotient -/

/-- What has been divided so far: the bits from `bit` up. -/
structure Divided (number divisor bit remainder quotient : ℕ) : Prop where
  small : remainder < divisor
  exact : ∃ whole, quotient = whole * 2 ^ bit ∧ number / 2 ^ bit = whole * divisor + remainder

lemma div_two_pow (number bit : ℕ) :
    number / 2 ^ bit = 2 * (number / 2 ^ (bit + 1)) + number / 2 ^ bit % 2 := by
  have hhalf : number / 2 ^ bit / 2 = number / 2 ^ (bit + 1) := by
    rw [Nat.div_div_eq_div_mul, pow_succ]
  omega

variable {divisor : ℕ}

lemma divLoop_eq {number : ℕ} (hdivisor : divisor < 2 ^ 128)
    (hbits : ∀ bit < 128, number / 2 ^ bit % 2 = low / 2 ^ bit % 2) {bit remainder quotient : ℕ}
    (hbit : bit ≤ 128) (h : Divided number divisor bit remainder quotient) :
    divLoop low divisor bit remainder quotient = number / divisor := by
  induction bit generalizing remainder quotient with
  | zero =>
    obtain ⟨hsmall, whole, hquotient, hnumber⟩ := h
    simp only [pow_zero, Nat.div_one, mul_one] at hquotient hnumber
    rw [divLoop, hquotient, hnumber, Nat.mul_comm, Nat.mul_add_div (by omega),
      Nat.div_eq_of_lt hsmall, Nat.add_zero]
  | succ bit ih =>
    obtain ⟨hsmall, whole, hquotient, hnumber⟩ := h
    have hnext := div_two_pow number bit
    rw [hbits bit (by omega), hnumber] at hnext
    have hone : low / 2 ^ bit % 2 < 2 := Nat.mod_lt _ (by norm_num)
    simp only [divLoop]
    generalize low / 2 ^ bit % 2 = one at hnext hone ⊢
    have hshifted : remainder * 2 % 2 ^ 128 ||| one = remainder * 2 % 2 ^ 128 + one := by
      have heven : remainder * 2 % 2 ^ 128 = 2 ^ 1 * (remainder % 2 ^ 127) := by omega
      rw [heven, ← Nat.two_pow_add_eq_or_of_lt (by omega)]
    have hbelow : whole * 2 ^ (bit + 1) ||| 2 ^ bit = (whole * 2 + 1) * 2 ^ bit := by
      have hpow : whole * 2 ^ (bit + 1) = 2 ^ (bit + 1) * whole := Nat.mul_comm _ _
      rw [hpow, ← Nat.two_pow_add_eq_or_of_lt (Nat.pow_lt_pow_right (by norm_num) (by omega)),
        pow_succ]
      ring
    rw [hshifted]
    split
    · rename_i hgives
      refine ih (by omega) ⟨?_, whole * 2 + 1, ?_, ?_⟩
      · unfold wrappingSub
        omega
      · rw [hquotient, hbelow]
      · unfold wrappingSub
        have : (whole * 2 + 1) * divisor = 2 * (whole * divisor) + divisor := by ring
        omega
    · rename_i hkeeps
      refine ih (by omega) ⟨by omega, whole * 2, ?_, ?_⟩
      · rw [hquotient, pow_succ]
        ring
      · have : whole * 2 * divisor = 2 * (whole * divisor) := by ring
        omega

lemma divFull_eq (hlow : low < 2 ^ 128) (hdivisor : divisor < 2 ^ 128) :
    divFull high low divisor =
      if divisor = 0 ∨ divisor ≤ high then none else some ((high * 2 ^ 128 + low) / divisor) := by
  unfold divFull
  split
  · rfl
  · rename_i hfits
    refine congrArg some (divLoop_eq hdivisor ?_ le_rfl ⟨by omega, 0, by simp, ?_⟩)
    · intro bit hbit
      have hsplit : high * 2 ^ 128 = 2 ^ bit * (2 * (high * 2 ^ (127 - bit))) := by
        have hpow : (2 : ℕ) ^ 128 = 2 ^ bit * (2 * 2 ^ (127 - bit)) := by
          rw [← pow_succ', ← pow_add]
          congr 1
          omega
        rw [hpow]
        ring
      rw [hsplit, Nat.mul_add_div (Nat.two_pow_pos bit)]
      omega
    · omega

/-! ## Down and up -/

variable {denominator a b q : ℕ}

lemma mulDivFloor_spec (hdenominator : Word denominator) (h : mulDivFloor a b denominator = some q) :
    0 < denominator ∧ q = a * b / denominator ∧ Word q := by
  have hlow : a * b % 2 ^ 128 < 2 ^ 128 := Nat.mod_lt _ (by norm_num)
  rw [mulDivFloor, mulFull_eq, divFull_eq hlow hdenominator] at h
  obtain ⟨hfits, h⟩ := Option.ite_none_left_eq_some.mp h
  have hnumber : a * b / 2 ^ 128 * 2 ^ 128 + a * b % 2 ^ 128 = a * b := by omega
  rw [hnumber] at h
  obtain rfl := Option.some.inj h
  refine ⟨by omega, rfl, ?_⟩
  rw [Word, Nat.div_lt_iff_lt_mul (by omega)]
  have : a * b / 2 ^ 128 < denominator := by omega
  omega

lemma mulDivCeil_spec (hdenominator : Word denominator) (h : mulDivCeil a b denominator = some q) :
    0 < denominator ∧ a * b ≤ q * denominator ∧ q * denominator < a * b + denominator ∧ Word q := by
  unfold mulDivCeil at h
  cases hfloor : mulDivFloor a b denominator with
  | none => simp [hfloor] at h
  | some floor =>
    obtain ⟨hpos, hq, hword⟩ := mulDivFloor_spec hdenominator hfloor
    have hdiv := Nat.div_add_mod (a * b) denominator
    have hmod := Nat.mod_lt (a * b) hpos
    rw [← hq, Nat.mul_comm] at hdiv
    have hsame : mulFull floor denominator = mulFull a b ↔ floor * denominator = a * b := by
      constructor
      · intro heq
        rw [← (mulFull_spec floor denominator).1, ← (mulFull_spec a b).1, heq]
      · intro heq
        rw [mulFull_eq, mulFull_eq, heq]
    simp only [hfloor, hsame] at h
    split_ifs at h with heq hfits
    · obtain rfl := Option.some.inj h
      exact ⟨hpos, by omega, by omega, hword⟩
    · obtain rfl := Option.some.inj h
      have hexpand : (floor + 1) * denominator = floor * denominator + denominator := by ring
      exact ⟨hpos, by omega, by omega, hfits⟩

lemma ceilDiv_spec {numerator denominator : ℕ} (h : 0 < denominator) :
    numerator ≤ ceilDiv numerator denominator * denominator ∧
      ceilDiv numerator denominator * denominator < numerator + denominator := by
  rw [ceilDiv, if_neg h.ne']
  have hdiv := Nat.div_add_mod (numerator + denominator - 1) denominator
  have hmod := Nat.mod_lt (numerator + denominator - 1) h
  rw [Nat.mul_comm] at hdiv
  omega

/-! ## Moves of a price

`n` is the liquidity in the scale of the venue. -/

variable {n sqrtFrom spread sqrtTo step : ℕ}

lemma mulDivCeil_ceilDiv_spec (hword : Word sqrtFrom) (hto : 0 < sqrtTo)
    (h : mulDivCeil n spread sqrtFrom = some step) :
    n * spread ≤ ceilDiv step (max sqrtTo 1) * (sqrtTo * sqrtFrom) ∧
      ceilDiv step (max sqrtTo 1) * (sqrtTo * sqrtFrom) < n * spread + sqrtTo * sqrtFrom := by
  obtain ⟨hfrom, hcovers, hshort, _⟩ := mulDivCeil_spec hword h
  have hmax : max sqrtTo 1 = sqrtTo := by omega
  obtain ⟨hcovers', hshort'⟩ : step ≤ _ ∧ _ := ceilDiv_spec hto
  rw [hmax]
  generalize ceilDiv step sqrtTo = amount at hcovers' hshort' ⊢
  constructor
  · calc n * spread ≤ step * sqrtFrom := hcovers
      _ ≤ amount * sqrtTo * sqrtFrom := Nat.mul_le_mul_right _ hcovers'
      _ = amount * (sqrtTo * sqrtFrom) := Nat.mul_assoc _ _ _
  · have hunit : amount * sqrtTo * sqrtFrom + sqrtFrom ≤ (step + sqrtTo) * sqrtFrom := by
      rw [← Nat.succ_mul]
      exact Nat.mul_le_mul_right _ hshort'
    rw [Nat.add_mul] at hunit
    rw [← Nat.mul_assoc]
    omega

lemma mulDivFloor_div_le (hword : Word sqrtTo) (hfrom : 0 < sqrtFrom)
    (h : mulDivFloor n spread sqrtTo = some step) :
    step / max sqrtFrom 1 * (sqrtTo * sqrtFrom) ≤ n * spread := by
  obtain ⟨_, rfl, _⟩ := mulDivFloor_spec hword h
  have hmax : max sqrtFrom 1 = sqrtFrom := by omega
  rw [hmax, Nat.div_div_eq_div_mul]
  exact Nat.div_mul_le_self _ _

lemma mulDivCeil_back_spec {sqrtPrice amountIn next : ℕ} (hn : 0 < n) (hprice : 0 < sqrtPrice)
    (hword : Word (n + amountIn * sqrtPrice))
    (h : mulDivCeil n sqrtPrice (n + amountIn * sqrtPrice) = some next) :
    0 < next ∧ Word next ∧ next ≤ sqrtPrice ∧ n * sqrtPrice ≤ next * (n + amountIn * sqrtPrice) := by
  obtain ⟨_, hcovers, hshort, hnext⟩ := mulDivCeil_spec hword h
  refine ⟨?_, hnext, ?_, hcovers⟩
  · by_contra hzero
    have hproduct : 0 < n * sqrtPrice := Nat.mul_pos hn hprice
    simp only [Nat.eq_zero_of_not_pos hzero] at hcovers
    omega
  · by_contra hpast
    have hover : (sqrtPrice + 1) * (n + amountIn * sqrtPrice) ≤ next * (n + amountIn * sqrtPrice) :=
      Nat.mul_le_mul_right _ (by omega)
    have hexpand : (sqrtPrice + 1) * (n + amountIn * sqrtPrice) =
        n * sqrtPrice + sqrtPrice * (amountIn * sqrtPrice) + (n + amountIn * sqrtPrice) := by ring
    omega

/-! ## Steps -/

/-- A step down or up, where it stays within 32 bits with a sign.
Source: Rust's `i32::checked_add`, `i32::checked_sub` -/
def checkedStep (down : Bool) (size n : ℤ) : Option ℤ :=
  let next := if down then n - size else n + size
  if -2 ^ 31 ≤ next ∧ next < 2 ^ 31 then some next else none

/-- How far steps may still lead. -/
def roomLeft (down : Bool) (n : ℤ) : ℕ := if down then (n + 2 ^ 31).toNat else (2 ^ 31 - n).toNat

lemma roomLeft_lt {down : Bool} {size n next : ℤ} (hsize : 0 < size)
    (h : checkedStep down size n = some next) : roomLeft down next < roomLeft down n := by
  simp only [checkedStep, Option.ite_none_right_eq_some, Option.some.injEq] at h
  obtain ⟨hrange, rfl⟩ := h
  cases down <;> simp only [roomLeft, if_true, if_false, Bool.false_eq_true] at hrange ⊢ <;> omega

end Dripline.Venues

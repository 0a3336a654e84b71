import Mathlib
import Dripline.Venues.ClmmWalk

/-!
# A stretch by the textbook

`direct/venues/clmm_ticks.rs`. What a move of the price gives, what it takes and where an amount
leads, by the formulas of a constant liquidity with their roundings, against the code, which loses
the bits of the liquidity from the 64th up where it scales it.

* `wide_exact` — products, shifts and quotients of 256 bits, and when there is a quotient.
* `textbook_iff` — when the code gives what the formulas give.
-/

namespace Dripline.Venues

open Dripline.Found (bind_eq_ok)

/-! ## The quotients -/

lemma divFull_eq_div {high low divisor : ℕ} (hlow : Word low) (hdivisor : Word divisor) :
    divFull high low divisor =
      if 0 < divisor ∧ (high * 2 ^ 128 + low) / divisor < 2 ^ 128 then
        some ((high * 2 ^ 128 + low) / divisor)
      else none := by
  rw [divFull_eq hlow hdivisor]
  unfold Word at hlow
  rcases Nat.eq_zero_or_pos divisor with rfl | hpos
  · simp
  · have hfits : ¬(divisor = 0 ∨ divisor ≤ high) ↔
        0 < divisor ∧ (high * 2 ^ 128 + low) / divisor < 2 ^ 128 := by
      rw [Nat.div_lt_iff_lt_mul hpos]
      omega
    rw [← ite_not]
    exact if_congr hfits rfl rfl

lemma mulDivFloor_eq {a b denominator : ℕ} (hdenominator : Word denominator) :
    mulDivFloor a b denominator =
      if 0 < denominator ∧ a * b / denominator < 2 ^ 128 then some (a * b / denominator) else none := by
  obtain ⟨hnumber, hlow⟩ := mulFull_spec a b
  rw [mulDivFloor, divFull_eq_div hlow hdenominator, hnumber]

lemma ceilDiv_unique {n d v : ℕ} (hd : 0 < d) (hcovers : n ≤ v * d) (hshort : v * d < n + d) :
    v = ceilDiv n d := by
  obtain ⟨hcovers', hshort'⟩ := @ceilDiv_spec n _ hd
  have hle : v * d < (ceilDiv n d + 1) * d := by
    rw [Nat.succ_mul]
    omega
  have hge : ceilDiv n d * d < (v + 1) * d := by
    rw [Nat.succ_mul]
    omega
  have hle' := Nat.lt_of_mul_lt_mul_right hle
  have hge' := Nat.lt_of_mul_lt_mul_right hge
  omega

lemma mulDivCeil_eq {a b denominator : ℕ} (hdenominator : Word denominator) :
    mulDivCeil a b denominator =
      if 0 < denominator ∧ ceilDiv (a * b) denominator < 2 ^ 128 then
        some (ceilDiv (a * b) denominator)
      else none := by
  cases hceil : mulDivCeil a b denominator with
  | some q =>
    obtain ⟨hpos, hcovers, hshort, hword⟩ := mulDivCeil_spec hdenominator hceil
    obtain rfl := ceilDiv_unique hpos hcovers hshort
    rw [if_pos ⟨hpos, hword⟩]
  | none =>
    refine (if_neg ?_).symm
    rintro ⟨hpos, hword⟩
    obtain ⟨hcovers, hshort⟩ := @ceilDiv_spec (a * b) _ hpos
    have hdiv := Nat.div_add_mod (a * b) denominator
    have hmod := Nat.mod_lt (a * b) hpos
    rw [Nat.mul_comm] at hdiv
    have hfloor : a * b / denominator ≤ ceilDiv (a * b) denominator := by
      rw [← Nat.lt_succ_iff]
      refine Nat.lt_of_mul_lt_mul_right (a := denominator) ?_
      rw [Nat.succ_mul]
      omega
    have hsome : mulDivFloor a b denominator = some (a * b / denominator) := by
      rw [mulDivFloor_eq hdenominator]
      exact if_pos ⟨hpos, hfloor.trans_lt hword⟩
    unfold mulDivCeil at hceil
    simp only [hsome] at hceil
    split_ifs at hceil with hexact hover
    -- the quotient is not exact, so that the ceiling is the next number
    refine hover (lt_of_le_of_lt ?_ hword)
    rw [Nat.succ_le_iff]
    refine lt_of_le_of_ne hfloor fun heq => hexact ?_
    rw [mulFull_eq, mulFull_eq, show a * b / denominator * denominator = a * b by
      rw [← heq] at hcovers
      omega]

lemma mulDivCeil_eq_some {a b denominator q : ℕ} (hdenominator : Word denominator) :
    mulDivCeil a b denominator = some q ↔
      0 < denominator ∧ Word (ceilDiv (a * b) denominator) ∧ ceilDiv (a * b) denominator = q := by
  rw [mulDivCeil_eq hdenominator, Option.ite_none_right_eq_some, Option.some.injEq, and_assoc, Word]

lemma ceilDiv_eq_ceilDiv (n d : ℕ) : ceilDiv n d = n ⌈/⌉ d := by
  rw [Nat.ceilDiv_eq_add_pred_div, ceilDiv]
  split_ifs with hd
  · rw [hd, Nat.div_zero]
  · rfl

/-- **Wide products, shifts and quotients are exact**: each is what it is in the numbers, and a
quotient is refused exactly where it divides by zero or does not fit 128 bits. -/
theorem wide_exact (a b d high low : Fin (2 ^ 128)) :
    ((mulFull a b).1 * 2 ^ 128 + (mulFull a b).2 = a * b ∧
      (mulFull a b).1 < 2 ^ 128 ∧ (mulFull a b).2 < 2 ^ 128) ∧
    (divFull high low d =
      if 0 < (d : ℕ) ∧ (high * 2 ^ 128 + low : ℕ) / d < 2 ^ 128 then
        some ((high * 2 ^ 128 + low : ℕ) / d)
      else none) ∧
    (mulDivFloor a b d =
      if 0 < (d : ℕ) ∧ (a * b : ℕ) / d < 2 ^ 128 then some ((a * b : ℕ) / d) else none) ∧
    (mulDivCeil a b d =
      if 0 < (d : ℕ) ∧ (a * b : ℕ) ⌈/⌉ (d : ℕ) < 2 ^ 128 then some ((a * b : ℕ) ⌈/⌉ (d : ℕ))
      else none) ∧
    mulShr128Floor a b = (a * b : ℕ) / 2 ^ 128 ∧
    mulShr128Ceil a b = (a * b : ℕ) ⌈/⌉ 2 ^ 128 ∧
    (shl128DivFloor a d =
      if 0 < (d : ℕ) ∧ (a * 2 ^ 128 : ℕ) / d < 2 ^ 128 then some ((a * 2 ^ 128 : ℕ) / d)
      else none) := by
  obtain ⟨hproduct, hlow⟩ := mulFull_spec a b
  have hhigh : (mulFull a b).1 + 1 < 2 ^ 128 := by
    have hle : (a * b : ℕ) ≤ (2 ^ 128 - 1) * (2 ^ 128 - 1) :=
      Nat.mul_le_mul (Nat.le_pred_of_lt a.isLt) (Nat.le_pred_of_lt b.isLt)
    omega
  refine ⟨⟨hproduct, by omega, hlow⟩, divFull_eq_div low.isLt d.isLt, mulDivFloor_eq d.isLt, ?_,
    ?_, ?_, ?_⟩
  · rw [mulDivCeil_eq d.isLt, ceilDiv_eq_ceilDiv]
  · simp only [mulShr128Floor, mulFull_eq]
  · refine Eq.trans (ceilDiv_unique (by norm_num) ?_ ?_) (ceilDiv_eq_ceilDiv (a * b) (2 ^ 128))
    · simp only [mulShr128Ceil]
      split_ifs <;> omega
    · simp only [mulShr128Ceil]
      split_ifs <;> omega
  · rw [shl128DivFloor, divFull_eq_div (show Word 0 by norm_num [Word]) d.isLt, Nat.add_zero]

lemma word_two_pow : Word (2 ^ 64) := by norm_num [Word]

lemma ceilDiv_le_ceilDiv {n n' : ℕ} (d : ℕ) (h : n ≤ n') : ceilDiv n d ≤ ceilDiv n' d := by
  unfold ceilDiv
  split_ifs
  · exact le_rfl
  · exact Nat.div_le_div_right (by omega)

lemma ceilDiv_le_of_le_mul {n d k : ℕ} (h : n ≤ k * d) : ceilDiv n d ≤ k := by
  rcases Nat.eq_zero_or_pos d with rfl | hd
  · exact Nat.zero_le _
  · obtain ⟨-, hshort⟩ := @ceilDiv_spec n _ hd
    refine Nat.le_of_lt_succ (Nat.lt_of_mul_lt_mul_right (a := d) ?_)
    rw [Nat.succ_mul]
    omega

lemma ceilDiv_zero_left (d : ℕ) : ceilDiv 0 d = 0 := by
  unfold ceilDiv
  split_ifs
  · rfl
  · exact Nat.div_eq_of_lt (by omega)

/-! ## The formulas -/

/-- The quotient that rounds down; there is none by zero. -/
def RoundedDown (v numerator denominator : ℕ) : Prop :=
  0 < denominator ∧ v = numerator / denominator

/-- The quotient that rounds up; there is none by zero. -/
def RoundedUp (v numerator denominator : ℕ) : Prop :=
  0 < denominator ∧ v = ceilDiv numerator denominator

section Formulas

variable (zeroForOne : Bool) (liquidity sqrtFrom sqrtTo sqrtPrice amountIn : ℕ)

/-- What a move of the price gives, rounded down. -/
def OutputOf (v : ℕ) : Prop :=
  if zeroForOne then RoundedDown v (liquidity * (sqrtFrom - sqrtTo)) (2 ^ 64)
  else if sqrtFrom < sqrtTo then
    RoundedDown v (liquidity * 2 ^ 64 * (sqrtTo - sqrtFrom)) (sqrtTo * sqrtFrom)
  else v = 0

/-- What a move of the price takes, rounded up. -/
def InputOf (v : ℕ) : Prop :=
  if zeroForOne then
    if sqrtTo < sqrtFrom then
      RoundedUp v (liquidity * 2 ^ 64 * (sqrtFrom - sqrtTo)) (sqrtTo * sqrtFrom)
    else v = 0
  else RoundedUp v (liquidity * (sqrtTo - sqrtFrom)) (2 ^ 64)

/-- Where an amount leads: a falling price is rounded up, a rising one down. -/
def NextPriceOf (v : ℕ) : Prop :=
  if zeroForOne then
    RoundedUp v (liquidity * 2 ^ 64 * sqrtPrice) (liquidity * 2 ^ 64 + amountIn * sqrtPrice)
  else RoundedDown v (sqrtPrice * liquidity + amountIn * 2 ^ 64) liquidity

/-- The liquidity in the scale of the price, as far as 128 bits keep it. -/
def scaled : ℕ := liquidity % 2 ^ 64 * 2 ^ 64

/-- The output is one of 64 bits, or is refused, and the lost bits do not show in it. -/
def OutputFits : Prop :=
  if zeroForOne then
    liquidity * (sqrtFrom - sqrtTo) / 2 ^ 64 ≤ u64Max ∨
      2 ^ 128 ≤ liquidity * (sqrtFrom - sqrtTo) / 2 ^ 64
  else
    sqrtFrom < sqrtTo → 0 < sqrtFrom ∧
      liquidity * 2 ^ 64 * (sqrtTo - sqrtFrom) / (sqrtTo * sqrtFrom) ≤
        min (scaled liquidity * (sqrtTo - sqrtFrom) / (sqrtTo * sqrtFrom)) u64Max

/-- There is a quotient, and the lost bits do not show in it. -/
def InputFits : Prop :=
  zeroForOne = true → sqrtTo < sqrtFrom → 0 < sqrtTo ∧
    ceilDiv (liquidity * 2 ^ 64 * (sqrtFrom - sqrtTo)) (sqrtTo * sqrtFrom) ≤
      ceilDiv (scaled liquidity * (sqrtFrom - sqrtTo)) (sqrtTo * sqrtFrom)

/-- The sum that divides is refused, is zero, or the lost bits do not show in the quotient. -/
def NextPriceFits : Prop :=
  zeroForOne = true → 0 < scaled liquidity + amountIn * sqrtPrice →
    Word (scaled liquidity + amountIn * sqrtPrice) →
    ceilDiv (liquidity * 2 ^ 64 * sqrtPrice) (liquidity * 2 ^ 64 + amountIn * sqrtPrice) ≤
      ceilDiv (scaled liquidity * sqrtPrice) (scaled liquidity + amountIn * sqrtPrice)

end Formulas

lemma checkedShl64_eq (liquidity : ℕ) : checkedShl64 liquidity = some (scaled liquidity) := by
  have hpow : (2 : ℕ) ^ 128 = 2 ^ 64 * 2 ^ 64 := by norm_num
  rw [checkedShl64, scaled, hpow, Nat.mul_mod_mul_right]

lemma scaled_le (liquidity : ℕ) : scaled liquidity ≤ liquidity * 2 ^ 64 :=
  Nat.mul_le_mul_right _ (Nat.mod_le _ _)

lemma scaled_add_lt (liquidity : ℕ) : scaled liquidity + 1 < 2 ^ 128 := by
  have hmod : liquidity % 2 ^ 64 < 2 ^ 64 := Nat.mod_lt _ (by norm_num)
  unfold scaled
  omega

section Moves

variable {liquidity sqrtFrom sqrtTo sqrtPrice amountIn : ℕ}

lemma ceilDiv_le_of_scaled {less more P X : ℕ} (h : less ≤ more) (hpos : 0 < less + X) :
    ceilDiv (less * P) (less + X) ≤ ceilDiv (more * P) (more + X) := by
  obtain ⟨hcovers, -⟩ := @ceilDiv_spec (more * P) _ (show 0 < more + X by omega)
  refine ceilDiv_le_of_le_mul ?_
  generalize ceilDiv (more * P) (more + X) = v at hcovers ⊢
  rw [Nat.mul_add] at hcovers ⊢
  rcases Nat.le_total P v with hle | hle
  · rw [Nat.mul_comm]
    exact (Nat.mul_le_mul_right less hle).trans (Nat.le_add_right _ _)
  · obtain ⟨gap, rfl⟩ := Nat.exists_eq_add_of_le hle
    have hgap : less * gap ≤ more * gap := Nat.mul_le_mul_right _ h
    rw [Nat.mul_add, Nat.mul_comm _ v] at hcovers ⊢
    omega

lemma ok_iff {ε : Type} {value : ℕ} {P : ℕ → Prop} :
    (∀ v, (Except.ok value : Except ε ℕ) = .ok v → P v) ↔ P value := by
  constructor
  · exact fun h => h value rfl
  · rintro h v ⟨⟩
    exact h

lemma outputForMove_iff (zeroForOne : Bool) (hto : Word sqrtTo) :
    (∀ v, outputForMove zeroForOne liquidity sqrtFrom sqrtTo = .ok v →
        OutputOf zeroForOne liquidity sqrtFrom sqrtTo v) ↔
      OutputFits zeroForOne liquidity sqrtFrom sqrtTo := by
  unfold outputForMove OutputOf OutputFits
  cases zeroForOne with
  | true =>
    simp only [if_true, mulDivFloor_eq word_two_pow, RoundedDown,
      show (0 : ℕ) < 2 ^ 64 by norm_num, true_and]
    generalize liquidity * (sqrtFrom - sqrtTo) / 2 ^ 64 = q
    split_ifs with hword
    · simp only [orQuoteMath, bind, Except.bind, ok_iff]
      omega
    · refine iff_of_true (fun v hv => ?_) (.inr (Nat.le_of_not_lt hword))
      cases hv
  | false =>
    simp only [Bool.false_eq_true, if_false, checkedShl64_eq, orQuoteMath, bind, Except.bind]
    by_cases hrises : sqrtFrom < sqrtTo
    · have hpos : 0 < sqrtTo := by omega
      have hword : Word (scaled liquidity * (sqrtTo - sqrtFrom) / sqrtTo) := by
        refine lt_of_le_of_lt (Nat.div_le_of_le_mul ?_) (scaled_add_lt liquidity).le
        rw [Nat.mul_comm]
        exact Nat.mul_le_mul_right _ (Nat.sub_le _ _)
      rw [mulDivFloor_eq hto, if_pos ⟨hpos, hword⟩]
      simp only [ok_iff, hrises, if_true, true_implies, RoundedDown]
      rcases Nat.eq_zero_or_pos sqrtFrom with rfl | hfrom
      · simp
      · have hlost : scaled liquidity * (sqrtTo - sqrtFrom) / (sqrtTo * sqrtFrom) ≤
            liquidity * 2 ^ 64 * (sqrtTo - sqrtFrom) / (sqrtTo * sqrtFrom) :=
          Nat.div_le_div_right (Nat.mul_le_mul_right _ (scaled_le liquidity))
        rw [Nat.max_eq_left hfrom, Nat.div_div_eq_div_mul, and_iff_right hfrom,
          and_iff_right (Nat.mul_pos hpos hfrom)]
        generalize scaled liquidity * (sqrtTo - sqrtFrom) / (sqrtTo * sqrtFrom) = kept at hlost ⊢
        generalize liquidity * 2 ^ 64 * (sqrtTo - sqrtFrom) / (sqrtTo * sqrtFrom) = whole at hlost ⊢
        omega
    · have hsame : sqrtTo - sqrtFrom = 0 := by omega
      simp only [hrises, if_false, false_implies, iff_true, hsame, Nat.mul_zero, mulDivFloor_eq hto,
        Nat.zero_div]
      split_ifs
      · exact ok_iff.2 (by rw [Nat.zero_div, Nat.zero_min])
      · rintro v ⟨⟩

lemma inputForMove_iff (zeroForOne : Bool) (hfrom : Word sqrtFrom) :
    (∀ v, inputForMove zeroForOne liquidity sqrtFrom sqrtTo = .ok v →
        InputOf zeroForOne liquidity sqrtFrom sqrtTo v) ↔
      InputFits zeroForOne liquidity sqrtFrom sqrtTo := by
  unfold inputForMove InputOf InputFits
  cases zeroForOne with
  | true =>
    simp only [if_true, true_implies, checkedShl64_eq, orQuoteMath, bind, Except.bind]
    rcases Nat.lt_or_ge sqrtTo sqrtFrom with hfalls | hstays
    · have hpos : 0 < sqrtFrom := by omega
      have hstep : mulDivCeil (scaled liquidity) (sqrtFrom - sqrtTo) sqrtFrom =
          some (ceilDiv (scaled liquidity * (sqrtFrom - sqrtTo)) sqrtFrom) := by
        rw [mulDivCeil_eq hfrom]
        refine if_pos ⟨hpos, lt_of_le_of_lt ?_ (scaled_add_lt liquidity).le⟩
        exact ceilDiv_le_of_le_mul (Nat.mul_le_mul_left _ (Nat.sub_le _ _))
      simp only [Nat.not_le.2 hfalls, hfalls, if_false, if_true, true_implies, hstep, ok_iff,
        RoundedUp]
      rcases Nat.eq_zero_or_pos sqrtTo with rfl | hto
      · simp
      · have hboth : 0 < sqrtTo * sqrtFrom := Nat.mul_pos hto hpos
        obtain ⟨hcovers, hshort⟩ := mulDivCeil_ceilDiv_spec hfrom hto hstep
        rw [ceilDiv_unique hboth hcovers hshort, and_iff_right hboth, and_iff_right hto]
        have hlost := ceilDiv_le_ceilDiv (sqrtTo * sqrtFrom)
          (Nat.mul_le_mul_right (sqrtFrom - sqrtTo) (scaled_le liquidity))
        exact ⟨fun h => h.ge, fun h => le_antisymm hlost h⟩
    · simp only [hstays, Nat.not_lt.2 hstays, if_true, if_false, false_implies, iff_true]
      exact ok_iff.2 rfl
  | false =>
    simp only [Bool.false_eq_true, if_false, false_implies, iff_true]
    split_ifs with hstays
    · refine ok_iff.2 ⟨by norm_num, ?_⟩
      rw [Nat.sub_eq_zero_of_le hstays, Nat.mul_zero, ceilDiv_zero_left]
    · rw [mulDivCeil_eq word_two_pow]
      split_ifs with hfits
      · exact ok_iff.2 ⟨hfits.1, rfl⟩
      · rintro v ⟨⟩

lemma fallingPrice_eq_ok {v : ℕ} :
    nextSqrtPriceFromInput true liquidity sqrtPrice amountIn = .ok v ↔
      Word (scaled liquidity + amountIn * sqrtPrice) ∧ 0 < scaled liquidity + amountIn * sqrtPrice ∧
        Word (ceilDiv (scaled liquidity * sqrtPrice) (scaled liquidity + amountIn * sqrtPrice)) ∧
          ceilDiv (scaled liquidity * sqrtPrice) (scaled liquidity + amountIn * sqrtPrice) = v := by
  simp only [nextSqrtPriceFromInput, if_true]
  constructor
  · intro h
    obtain ⟨numerator, hnumerator, h⟩ := bind_eq_ok.mp h
    rw [checkedShl64_eq] at hnumerator
    obtain rfl := Option.some.inj (orQuoteMath_eq_ok.mp hnumerator)
    split at h
    · rename_i hwords
      exact ⟨hwords.2, (mulDivCeil_eq_some hwords.2).mp (orQuoteMath_eq_ok.mp h)⟩
    · cases h
  · rintro ⟨hword, hceil⟩
    rw [checkedShl64_eq]
    refine bind_eq_ok.mpr ⟨scaled liquidity, rfl, ?_⟩
    have hwords : amountIn * sqrtPrice < 2 ^ 128 ∧ scaled liquidity + amountIn * sqrtPrice < 2 ^ 128 :=
      ⟨lt_of_le_of_lt (Nat.le_add_left _ _) hword, hword⟩
    rw [if_pos hwords]
    exact orQuoteMath_eq_ok.mpr ((mulDivCeil_eq_some hword).mpr hceil)

lemma nextSqrtPriceFromInput_iff (zeroForOne : Bool) (hliquidity : Word liquidity)
    (hprice : Word sqrtPrice) :
    (∀ v, nextSqrtPriceFromInput zeroForOne liquidity sqrtPrice amountIn = .ok v →
        NextPriceOf zeroForOne liquidity sqrtPrice amountIn v) ↔
      NextPriceFits zeroForOne liquidity sqrtPrice amountIn := by
  unfold NextPriceOf NextPriceFits
  cases zeroForOne with
  | true =>
    simp only [if_true, true_implies, fallingPrice_eq_ok]
    constructor
    · intro h hpos hword
      have hfits : Word (ceilDiv (scaled liquidity * sqrtPrice)
          (scaled liquidity + amountIn * sqrtPrice)) := by
        refine lt_of_le_of_lt (ceilDiv_le_of_le_mul ?_) hprice
        rw [Nat.mul_comm]
        exact Nat.mul_le_mul_left _ (Nat.le_add_right _ _)
      exact (h _ ⟨hword, hpos, hfits, rfl⟩).2.ge
    · rintro h _ ⟨hword, hpos, -, rfl⟩
      have hkept := scaled_le liquidity
      refine ⟨by omega, le_antisymm ?_ (h hpos hword)⟩
      exact ceilDiv_le_of_scaled hkept hpos
  | false =>
    simp only [Bool.false_eq_true, if_false, false_implies, iff_true]
    intro v hv
    obtain ⟨delta, hdelta, hv⟩ := bind_eq_ok.mp hv
    obtain ⟨hpos, rfl, -⟩ := mulDivFloor_spec hliquidity (orQuoteMath_eq_ok.mp hdelta)
    split at hv
    · obtain rfl := Except.ok.inj hv
      refine ⟨hpos, ?_⟩
      rw [Nat.mul_comm sqrtPrice, Nat.mul_add_div hpos]
    · cases hv

end Moves

end Dripline.Venues

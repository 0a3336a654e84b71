import Dripline.Found.Stretches
import Dripline.Venues.ClmmTicks
import Mathlib.Tactic.FieldSimp
import Mathlib.Tactic.Linarith
import Mathlib.Tactic.Positivity

/-!
# The curve that a pool trades along

What a pool without a fee gives for an amount, in rational numbers: between two initialised ticks
its liquidity does not change, at a tick it changes by the tick's net liquidity.
-/

namespace Dripline.Venues

open Dripline.Found (Stretch)

/-! ## One stretch -/

/-- What moving the price takes. -/
def exactIn (zeroForOne : Bool) (liquidity sqrtFrom sqrtTo : ℚ) : ℚ :=
  if zeroForOne then liquidity * 2 ^ 64 * (1 / sqrtTo - 1 / sqrtFrom)
  else liquidity * (sqrtTo - sqrtFrom) / 2 ^ 64

/-- What moving the price gives. -/
def exactOut (zeroForOne : Bool) (liquidity sqrtFrom sqrtTo : ℚ) : ℚ :=
  if zeroForOne then liquidity * (sqrtFrom - sqrtTo) / 2 ^ 64
  else liquidity * 2 ^ 64 * (1 / sqrtFrom - 1 / sqrtTo)

/-- Where an amount moves the price to. -/
def priceAfter (zeroForOne : Bool) (liquidity sqrtPrice amountIn : ℚ) : ℚ :=
  if zeroForOne then 1 / (1 / sqrtPrice + amountIn / (liquidity * 2 ^ 64))
  else sqrtPrice + amountIn * 2 ^ 64 / liquidity

/-- The stretch from one price to another. -/
def move (zeroForOne : Bool) (liquidity sqrtFrom sqrtTo : ℚ) : Stretch ℚ where
  cost := exactIn zeroForOne liquidity sqrtFrom sqrtTo
  full := exactOut zeroForOne liquidity sqrtFrom sqrtTo
  part amountIn :=
    exactOut zeroForOne liquidity sqrtFrom (priceAfter zeroForOne liquidity sqrtFrom amountIn)

/-- The second price lies from the first one where the trade goes. -/
def Toward (zeroForOne : Bool) (first second : ℚ) : Prop :=
  if zeroForOne then second ≤ first else first ≤ second

lemma Toward.refl (zeroForOne : Bool) (price : ℚ) : Toward zeroForOne price price := by
  cases zeroForOne <;> simp [Toward]

variable {zeroForOne : Bool}

lemma Toward.trans {first second third : ℚ} (h : Toward zeroForOne first second)
    (h' : Toward zeroForOne second third) : Toward zeroForOne first third := by
  cases zeroForOne <;> simp only [Toward, if_true, if_false, Bool.false_eq_true] at *
  · exact h.trans h'
  · exact h'.trans h

variable {second first : ℕ}

lemma toward_falling : Toward true (first : ℚ) second ↔ second ≤ first := by
  simp [Toward]

lemma toward_rising : Toward false (first : ℚ) second ↔ first ≤ second := by
  simp [Toward]

variable {liquidity sqrtFrom : ℚ}

lemma exactOut_mono {near far : ℚ} (hliquidity : 0 ≤ liquidity) (hnear : 0 < near)
    (h : Toward zeroForOne near far) :
    exactOut zeroForOne liquidity sqrtFrom near ≤ exactOut zeroForOne liquidity sqrtFrom far := by
  cases zeroForOne <;> simp only [Toward, exactOut, if_true, if_false, Bool.false_eq_true] at *
  · have hinv : 1 / far ≤ 1 / near := one_div_le_one_div_of_le hnear h
    have hscaled : 0 ≤ liquidity * 2 ^ 64 := by positivity
    exact mul_le_mul_of_nonneg_left (by linarith) hscaled
  · have hgain : liquidity * (sqrtFrom - near) ≤ liquidity * (sqrtFrom - far) :=
      mul_le_mul_of_nonneg_left (by linarith) hliquidity
    linarith

variable {sqrtTo : ℚ}

lemma exactOut_nonneg (hliquidity : 0 ≤ liquidity) (hfrom : 0 < sqrtFrom)
    (h : Toward zeroForOne sqrtFrom sqrtTo) :
    0 ≤ exactOut zeroForOne liquidity sqrtFrom sqrtTo := by
  have hnowhere : exactOut zeroForOne liquidity sqrtFrom sqrtFrom = 0 := by
    cases zeroForOne <;> simp [exactOut]
  rw [← hnowhere]
  exact exactOut_mono hliquidity hfrom h

lemma exactIn_nonneg (hliquidity : 0 ≤ liquidity) (hto : 0 < sqrtTo)
    (h : Toward zeroForOne sqrtFrom sqrtTo) : 0 ≤ exactIn zeroForOne liquidity sqrtFrom sqrtTo := by
  cases zeroForOne <;> simp only [Toward, exactIn, if_true, if_false, Bool.false_eq_true] at *
  · have hspread : 0 ≤ sqrtTo - sqrtFrom := sub_nonneg.mpr h
    positivity
  · have hspread : 0 ≤ 1 / sqrtTo - 1 / sqrtFrom := sub_nonneg.mpr (one_div_le_one_div_of_le hto h)
    positivity

lemma liquidity_ne_zero (h : 0 < exactIn zeroForOne liquidity sqrtFrom sqrtTo) : liquidity ≠ 0 := by
  rintro rfl
  cases zeroForOne <;> simp [exactIn] at h

lemma priceAfter_spec (zeroForOne : Bool) {sqrtPrice less more : ℚ} (hliquidity : 0 < liquidity)
    (hprice : 0 < sqrtPrice) (hless : 0 ≤ less) (hmore : less ≤ more) :
    0 < priceAfter zeroForOne liquidity sqrtPrice less ∧
      Toward zeroForOne sqrtPrice (priceAfter zeroForOne liquidity sqrtPrice less) ∧
      Toward zeroForOne (priceAfter zeroForOne liquidity sqrtPrice less)
        (priceAfter zeroForOne liquidity sqrtPrice more) := by
  cases zeroForOne <;> simp only [Toward, priceAfter, if_true, if_false, Bool.false_eq_true]
  · refine ⟨by positivity, le_add_of_nonneg_right (by positivity), ?_⟩
    gcongr
  · refine ⟨by positivity, ?_, one_div_le_one_div_of_le (by positivity) (by gcongr)⟩
    calc 1 / (1 / sqrtPrice + less / (liquidity * 2 ^ 64))
        ≤ 1 / (1 / sqrtPrice) :=
          one_div_le_one_div_of_le (by positivity) (le_add_of_nonneg_right (by positivity))
      _ = sqrtPrice := one_div_one_div sqrtPrice

lemma priceAfter_toward {amountIn : ℚ} (hliquidity : 0 < liquidity) (hfrom : 0 < sqrtFrom)
    (hamount : 0 ≤ amountIn) (h : amountIn < exactIn zeroForOne liquidity sqrtFrom sqrtTo) :
    Toward zeroForOne (priceAfter zeroForOne liquidity sqrtFrom amountIn) sqrtTo := by
  cases zeroForOne <;>
    simp only [Toward, priceAfter, exactIn, if_true, if_false, Bool.false_eq_true] at h ⊢
  · rw [lt_div_iff₀ (by positivity)] at h
    have hdelta : amountIn * 2 ^ 64 / liquidity < sqrtTo - sqrtFrom := by
      rw [div_lt_iff₀ hliquidity]
      linarith
    linarith
  · have hdelta : amountIn / (liquidity * 2 ^ 64) < 1 / sqrtTo - 1 / sqrtFrom := by
      rw [div_lt_iff₀ (by positivity)]
      linarith
    calc sqrtTo = 1 / (1 / sqrtTo) := (one_div_one_div sqrtTo).symm
      _ ≤ 1 / (1 / sqrtFrom + amountIn / (liquidity * 2 ^ 64)) :=
        one_div_le_one_div_of_le (by positivity) (by linarith)

lemma move_sound (hliquidity : 0 ≤ liquidity) (hfrom : 0 < sqrtFrom) (hto : 0 < sqrtTo)
    (h : Toward zeroForOne sqrtFrom sqrtTo) :
    (move zeroForOne liquidity sqrtFrom sqrtTo).Sound := by
  have hpos : ∀ {paid : ℚ}, 0 ≤ paid → paid < exactIn zeroForOne liquidity sqrtFrom sqrtTo →
      0 < liquidity := by
    intro paid hpaid hshort
    exact lt_of_le_of_ne hliquidity (liquidity_ne_zero (hpaid.trans_lt hshort)).symm
  refine ⟨exactIn_nonneg hliquidity hto h, exactOut_nonneg hliquidity hfrom h, ?_, ?_, ?_⟩
  · intro paid hpaid hshort
    obtain ⟨_, hahead, _⟩ := priceAfter_spec zeroForOne (hpos hpaid hshort) hfrom hpaid le_rfl
    exact exactOut_nonneg hliquidity hfrom hahead
  · intro less more hless hmore hshort
    have hl := hpos (hless.trans hmore) hshort
    obtain ⟨hafter, _, hfarther⟩ := priceAfter_spec zeroForOne hl hfrom hless hmore
    exact exactOut_mono hliquidity hafter hfarther
  · intro paid hpaid hshort
    have hl := hpos hpaid hshort
    obtain ⟨hafter, _⟩ := priceAfter_spec zeroForOne hl hfrom hpaid le_rfl
    exact exactOut_mono hliquidity hafter (priceAfter_toward hl hfrom hpaid hshort)

/-! ## Ticks -/

/-- The liquidity past a tick. -/
def liquidityPast (zeroForOne : Bool) (liquidity : ℤ) (tick : InitializedTick) : ℤ :=
  if zeroForOne then liquidity - tick.liquidityNet else liquidity + tick.liquidityNet

/-- The stretches up to the ticks. There is none without a price, and none past a tick that leaves
less than no liquidity. -/
def curve (zeroForOne : Bool) : List InitializedTick → ℤ → ℕ → List (Stretch ℚ)
  | [], _, _ => []
  | tick :: candidates, liquidity, sqrtPrice =>
    match getSqrtPriceAtTick tick.tick with
    | none => []
    | some target =>
      if liquidity < 0 ∨ sqrtPrice = 0 then []
      else
        move zeroForOne liquidity sqrtPrice target ::
          curve zeroForOne candidates (liquidityPast zeroForOne liquidity tick) target

/-- The prices of the ticks, one after the other where the trade goes. -/
def Ahead (zeroForOne : Bool) : ℕ → List InitializedTick → Prop
  | _, [] => True
  | sqrtPrice, tick :: candidates =>
    ∀ target, getSqrtPriceAtTick tick.tick = some target →
      Toward zeroForOne sqrtPrice target ∧ Ahead zeroForOne target candidates

variable {absTick ratio' ratio low : ℕ}

lemma scaleRatio_spec {factor : ℕ × ℕ} (hfactor : factor.2 ≤ 2 ^ 64)
    (h : scaleRatio absTick ratio factor = some ratio') (hlow : low ≤ ratio) :
    low * factor.2 / 2 ^ 64 ≤ ratio' ∧ ratio' ≤ ratio := by
  have hdown : ∀ value : ℕ, value * factor.2 / 2 ^ 64 ≤ value := by
    intro value
    exact Nat.div_le_of_le_mul (by rw [Nat.mul_comm (2 ^ 64)]; exact Nat.mul_le_mul_left _ hfactor)
  unfold scaleRatio at h
  split_ifs at h
  · obtain rfl := Option.some.inj h
    exact ⟨Nat.div_le_div_right (Nat.mul_le_mul_right _ hlow), hdown ratio⟩
  · obtain rfl := Option.some.inj h
    exact ⟨(hdown low).trans hlow, le_rfl⟩

lemma foldlM_scaleRatio_spec {factors : List (ℕ × ℕ)}
    (hfactors : ∀ factor ∈ factors, factor.2 ≤ 2 ^ 64)
    (h : factors.foldlM (scaleRatio absTick) ratio = some ratio') (hlow : low ≤ ratio) :
    factors.foldl (fun low factor => low * factor.2 / 2 ^ 64) low ≤ ratio' ∧ ratio' ≤ ratio := by
  induction factors generalizing ratio low with
  | nil =>
    obtain rfl := Option.some.inj h
    exact ⟨hlow, le_rfl⟩
  | cons factor factors ih =>
    rw [List.foldlM_cons] at h
    obtain ⟨next, hnext, hrest⟩ := Option.bind_eq_some_iff.mp h
    obtain ⟨hdown, hup⟩ := scaleRatio_spec (hfactors factor (by simp)) hnext hlow
    obtain ⟨hdown', hup'⟩ := ih (fun other hother => hfactors other (by simp [hother])) hrest hdown
    exact ⟨hdown', hup'.trans hup⟩

lemma getSqrtPriceAtTick_spec {tick : ℤ} {target : ℕ} (h : getSqrtPriceAtTick tick = some target) :
    0 < target ∧ Word target := by
  unfold getSqrtPriceAtTick at h
  split at h
  · cases h
  · split at h
    · cases h
    · rename_i ratio hratio
      have hstart : magicLowest ≤ (if tick.natAbs &&& 0x1 ≠ 0 then magicLowest else 2 ^ 64) ∧
          (if tick.natAbs &&& 0x1 ≠ 0 then magicLowest else 2 ^ 64) ≤ 2 ^ 64 := by
        split
        · exact ⟨le_rfl, by decide⟩
        · exact ⟨by decide, le_rfl⟩
      obtain ⟨hlow, hhigh⟩ := foldlM_scaleRatio_spec (by decide) hratio hstart.1
      have hall : 0 < magic.foldl (fun low factor => low * factor.2 / 2 ^ 64) magicLowest := by
        decide +kernel
      have hpos : 0 < ratio := hall.trans_le hlow
      have hword : ratio ≤ 2 ^ 64 := hhigh.trans hstart.2
      unfold Word
      split_ifs at h with hrising
      · obtain rfl := Option.some.inj h
        refine ⟨Nat.div_pos (by omega) hpos, (Nat.div_le_self _ _).trans_lt (by norm_num)⟩
      · obtain rfl := Option.some.inj h
        exact ⟨hpos, by omega⟩

lemma curve_sound {candidates : List InitializedTick} {sqrtPrice : ℕ}
    (h : Ahead zeroForOne sqrtPrice candidates) (liquidity : ℤ) :
    ∀ stretch ∈ curve zeroForOne candidates liquidity sqrtPrice, stretch.Sound := by
  induction candidates generalizing liquidity sqrtPrice with
  | nil => simp [curve]
  | cons tick candidates ih =>
    rw [curve]
    split
    · simp
    · rename_i target htarget
      obtain ⟨htoward, hrest⟩ := h target htarget
      have hpos := (getSqrtPriceAtTick_spec htarget).1
      split
      · simp
      · rename_i hpresent
        obtain ⟨hliquidity, hprice⟩ := not_or.mp hpresent
        intro stretch hstretch
        obtain rfl | hstretch := List.mem_cons.mp hstretch
        · exact move_sound (by exact_mod_cast not_lt.mp hliquidity)
            (by exact_mod_cast Nat.pos_of_ne_zero hprice) (by exact_mod_cast hpos) htoward
        · exact ih hrest _ stretch hstretch

end Dripline.Venues

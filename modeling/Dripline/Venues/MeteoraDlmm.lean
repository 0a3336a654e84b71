import Dripline.Found.Outcome
import Dripline.Swaps.Error
import Dripline.Venues.Math
import Mathlib.Tactic.Linarith

/-!
# The walk over bins

`direct/venues/meteora_dlmm.rs`. A liquidity-book swap fills one bin after the other, each at a
price of its own; the fee of a bin goes by how far the walk has come.

* `Filled`, `walkBins_filled` — what the loop has done.
* `walk_filled` — the amounts of a walk.

A source without a file is in `meteora_dlmm.rs`, where a definition without a comment is the one
of its name.
-/

namespace Dripline.Venues.MeteoraDlmm

open List Option

open Dripline.Found (bind_eq_ok)
open Dripline.Swaps (DirectSwapError Pubkey)

/-- The largest value of 64 bits. -/
def u64Max : ℕ := 2 ^ 64 - 1

/-- Source: Rust's `u128` to `u64` conversion -/
def toU64 (n : ℕ) : Option ℕ := if n < 2 ^ 64 then some n else none

def feePrecision : ℕ := 1000000000

def maxFeeRate : ℕ := 100000000

def basisPointMax : ℕ := 10000

/-! ## Prices -/

/-- A product of two prices, where it fits. Source: `pow_q64` -/
def mulQ64 (a b : ℕ) : Option ℕ := if a * b < 2 ^ 128 then some (a * b / 2 ^ 64) else none

/-- The bits of an exponent, from the lowest up to `MAX_EXPONENTIAL`. Source: `pow_q64` -/
def powLoop (exp : ℕ) : ℕ → ℕ → ℕ → ℕ → ℕ → Option ℕ
  | 0, _, _, _, result => some result
  | turns + 1, bit, remaining, squaredBase, result =>
    if remaining = 0 then some result
    else
      match if exp &&& bit ≠ 0 then mulQ64 result squaredBase else some result with
      | none => none
      | some result =>
        match mulQ64 squaredBase squaredBase with
        | none => none
        | some squaredBase =>
          powLoop exp turns (bit * 2) (remaining - (remaining &&& bit)) squaredBase result

def powQ64 (base : ℕ) (exp : ℤ) : Option ℕ :=
  if exp = 0 then some (2 ^ 64)
  else if 0x80000 ≤ exp.natAbs then none
  else
    let inverted := decide (2 ^ 64 ≤ base)
    let squaredBase := if inverted then (2 ^ 128 - 1) / base else base
    match powLoop exp.natAbs 20 1 exp.natAbs squaredBase (2 ^ 64) with
    | none => none
    | some result =>
      if result = 0 then none
      else if decide (exp < 0) != inverted then some ((2 ^ 128 - 1) / result)
      else some result

def getPriceFromId (id : ℤ) (binStep : ℕ) : Option ℕ :=
  let base := 2 ^ 64 + binStep * 2 ^ 64 / basisPointMax
  if base < 2 ^ 128 then powQ64 base id else none

/-! ## Amounts -/

inductive Rounding
  | up
  | down

/-- A quotient, rounded as asked. -/
def mulDiv (rounding : Rounding) (a b denominator : ℕ) : Option ℕ :=
  match rounding with
  | .up => mulDivCeil a b denominator
  | .down => mulDivFloor a b denominator

def getAmountOut (amountIn price : ℕ) (swapForY : Bool) (rounding : Rounding) : Option ℕ :=
  (if swapForY then mulDiv rounding price amountIn (2 ^ 64)
    else mulDiv rounding amountIn (2 ^ 64) price).bind toU64

def getAmountIn (amountOut price : ℕ) (swapForY : Bool) (rounding : Rounding) : Option ℕ :=
  (if swapForY then mulDiv rounding amountOut (2 ^ 64) price
    else mulDiv rounding amountOut price (2 ^ 64)).bind toU64

/-! ## The pair -/

/-- The parameters of the fee that are set once. -/
structure StaticParameters where
  baseFactor : ℕ
  variableFeeControl : ℕ
  maxVolatilityAccumulator : ℕ
  baseFeePowerFactor : ℕ
  collectFeeMode : ℕ

/-- The parameters of the fee that trading moves, after `update_references`. Source:
`VariableParameters` -/
structure VariableParameters where
  volatilityReference : ℕ
  indexReference : ℤ

structure DecodedBin where
  id : ℤ
  amountX : ℕ
  amountY : ℕ
  deriving DecidableEq

/-- A pair, as far as its walk reads it. Source: `LbPairState`, `DlmmMarket` -/
structure DlmmMarket where
  pool : Pubkey
  parameters : StaticParameters
  activeId : ℤ
  binStep : ℕ
  vParams : VariableParameters
  bins : List DecodedBin

/-- The reserve of a bin that a swap can take out. Source: `walk`, `mm_cap` -/
def DecodedBin.cap (bin : DecodedBin) (swapForY : Bool) : ℕ :=
  if swapForY then bin.amountY else bin.amountX

def quoteMathError : DirectSwapError := .quoteMath "DLMM bin/fee arithmetic overflowed"

/-- A result that the arithmetic may refuse. -/
def orQuoteMathError {α : Type} : Option α → Except DirectSwapError α
  | some value => .ok value
  | none => .error quoteMathError

namespace DlmmMarket

variable (market : DlmmMarket)

def feeOnInput (swapForY : Bool) : Bool :=
  if market.parameters.collectFeeMode = 1 then !swapForY else true

def totalFeeRate (volatilityAccumulator : ℕ) : ℕ :=
  let baseFee := market.parameters.baseFactor * market.binStep * 10 *
    10 ^ market.parameters.baseFeePowerFactor % 2 ^ 128
  let variableFee :=
    if 0 < market.parameters.variableFeeControl then
      let square := volatilityAccumulator * market.binStep
      let square := min (square * square) (2 ^ 128 - 1)
      let vFee := min (market.parameters.variableFeeControl * square) (2 ^ 128 - 1)
      (vFee + 99999999999) % 2 ^ 128 / 100000000000
    else 0
  min ((baseFee + variableFee) % 2 ^ 128) maxFeeRate

/-- Source: `walk`, `volatility_accumulator` -/
def volatilityAccumulator (activeId : ℤ) : ℕ :=
  let delta := (market.vParams.indexReference - activeId).natAbs
  min (min (market.vParams.volatilityReference + min (delta * basisPointMax) u64Max) u64Max)
    market.parameters.maxVolatilityAccumulator

end DlmmMarket

/-! ## One fill -/

def feeFromAmount (rate amountWithFee : ℕ) : Option ℕ :=
  (mulDivCeil amountWithFee rate feePrecision).bind toU64

def feeFromExcludedAmount (rate amountExcludingFee : ℕ) : Option ℕ :=
  if feePrecision ≤ rate then none
  else (mulDivCeil amountExcludingFee rate (feePrecision - rate)).bind toU64

/-- What a bin takes of an input without fee, what it leaves of it, and what it gives. Source:
`quote_bin` -/
def fillBin (cap price excludedFeeAmountIn : ℕ) (swapForY : Bool) :
    Except DirectSwapError (ℕ × ℕ × ℕ) :=
  if cap = 0 then .ok (0, excludedFeeAmountIn, 0)
  else do
    let maxAmountIn ← orQuoteMathError (getAmountIn cap price swapForY .up)
    if maxAmountIn ≤ excludedFeeAmountIn then .ok (maxAmountIn, excludedFeeAmountIn - maxAmountIn, cap)
    else do
      let out ← orQuoteMathError (getAmountOut excludedFeeAmountIn price swapForY .down)
      .ok (excludedFeeAmountIn, 0, out)

/-- The input with its fee, and the fee: computed anew where the bin has left something. Source:
`quote_bin` -/
def chargeInput (rate amountIn tradingFee amountInMm amountLeft : ℕ) (feeOnInput : Bool) :
    Except DirectSwapError (ℕ × ℕ) :=
  if 0 < amountLeft then
    if feeOnInput then do
      let fee ← orQuoteMathError (feeFromExcludedAmount rate amountInMm)
      .ok (min (amountInMm + fee) u64Max, fee)
    else .ok (amountInMm, tradingFee)
  else .ok (amountIn, tradingFee)

/-- What is consumed, what is given, and the fee. -/
def quoteBin (bin : DecodedBin) (price amountIn : ℕ) (swapForY feeOnInput : Bool) (rate : ℕ) :
    Except DirectSwapError (ℕ × ℕ × ℕ) := do
  let inputFee ← if feeOnInput then orQuoteMathError (feeFromAmount rate amountIn) else .ok 0
  let (amountInMm, amountLeft, outAmount) ←
    fillBin (bin.cap swapForY) price (amountIn - inputFee) swapForY
  let (included, fee) ← chargeInput rate amountIn inputFee amountInMm amountLeft feeOnInput
  if feeOnInput then .ok (included, outAmount, fee)
  else do
    let outFee ← orQuoteMathError (feeFromAmount rate outAmount)
    .ok (included, outAmount - outFee, outFee)

/-! ## The walk -/

/-- A fill that the walk has made, with what was left of the input before it. -/
structure Fill where
  bin : DecodedBin
  price : ℕ
  left : ℕ
  consumed : ℕ
  out : ℕ
  fee : ℕ
  deriving DecidableEq

namespace DlmmMarket

variable (market : DlmmMarket) (swapForY : Bool)

/-- The fill of a bin with a reserve. Source: `walk` -/
def turn (bin : DecodedBin) (amountLeft : ℕ) : Except DirectSwapError (Option Fill) :=
  if 0 < bin.cap swapForY then do
    let rate := market.totalFeeRate (market.volatilityAccumulator bin.id)
    let price ← orQuoteMathError (getPriceFromId bin.id market.binStep)
    let (consumed, out, fee) ← quoteBin bin price amountLeft swapForY (market.feeOnInput swapForY) rate
    if 0 < consumed then .ok (some ⟨bin, price, amountLeft, consumed, out, fee⟩) else .ok none
  else .ok none

/-- The turns of the loop. Source: `walk` -/
def walkBins (amountIn : ℕ) (activeId : ℤ) (amountLeft totalOut totalFee : ℕ) :
    Except DirectSwapError (List Fill × ℕ × ℕ) :=
  if amountLeft = 0 then .ok ([], totalOut, totalFee)
  else
    match market.bins.find? (·.id == activeId) with
    | none =>
      .error (.insufficientLiquidity market.pool amountIn
        "the size travels further than the loaded bin arrays cover")
    | some bin =>
      match market.turn swapForY bin amountLeft with
      | .error e => .error e
      | .ok fill =>
        let amountLeft := amountLeft - (fill.map (·.consumed)).getD 0
        let totalOut := min (totalOut + (fill.map (·.out)).getD 0) u64Max
        let totalFee := min (totalFee + (fill.map (·.fee)).getD 0) u64Max
        if amountLeft = 0 then .ok (fill.toList, totalOut, totalFee)
        else
          match _h : checkedStep swapForY 1 activeId with
          | none => .error quoteMathError
          | some nextId => do
            let (fills, totals) ← walkBins amountIn nextId amountLeft totalOut totalFee
            .ok (fill.toList ++ fills, totals)
termination_by roomLeft swapForY activeId
decreasing_by exact roomLeft_lt (by decide) _h

/-- The fills, the output, the fee, and whether the fee is of the input. -/
def walk (amountIn : ℕ) : Except DirectSwapError (List Fill × ℕ × ℕ × Bool) := do
  let (fills, totalOut, totalFee) ← market.walkBins swapForY amountIn market.activeId amountIn 0 0
  .ok (fills, totalOut, totalFee, market.feeOnInput swapForY)

end DlmmMarket

/-! ## What the arithmetic says -/

@[simp] lemma orQuoteMathError_eq_ok {α : Type} {answer : Option α} {a : α} :
    orQuoteMathError answer = .ok a ↔ answer = some a := by
  cases answer <;> simp [orQuoteMathError]

variable {n : ℕ}

@[simp] lemma bind_toU64_eq_some {answer : Option ℕ} :
    answer.bind toU64 = some n ↔ answer = some n ∧ n < 2 ^ 64 := by
  cases answer with
  | none => simp
  | some value =>
    simp only [bind_some, toU64, ite_none_right_eq_some, Option.some.injEq]
    constructor
    · rintro ⟨hfits, rfl⟩
      exact ⟨rfl, hfits⟩
    · rintro ⟨rfl, hfits⟩
      exact ⟨hfits, rfl⟩

lemma word_of_le (h : n ≤ 2 ^ 64) : Word n := by
  unfold Word
  omega

variable {power : ℕ}

lemma powLoop_lt {exp turns bit remaining squaredBase result : ℕ} (hresult : result ≤ 2 ^ 64)
    (h : powLoop exp turns bit remaining squaredBase result = some power) : power ≤ 2 ^ 64 := by
  induction turns generalizing bit remaining squaredBase result with
  | zero =>
    obtain rfl := Option.some.inj h
    exact hresult
  | succ turns ih =>
    simp only [powLoop] at h
    split at h
    · obtain rfl := Option.some.inj h
      exact hresult
    · split at h
      · cases h
      · rename_i next hnext
        have hbound : next ≤ 2 ^ 64 := by
          split_ifs at hnext
          · simp only [mulQ64, ite_none_right_eq_some, Option.some.injEq] at hnext
            omega
          · obtain rfl := Option.some.inj hnext
            exact hresult
        split at h
        · cases h
        · exact ih hbound h

lemma powQ64_spec {base : ℕ} {exp : ℤ} (h : powQ64 base exp = some power) :
    0 < power ∧ Word power := by
  unfold Word
  unfold powQ64 at h
  split at h
  · obtain rfl := Option.some.inj h
    norm_num
  · have h := (ite_none_left_eq_some.mp h).2
    simp only at h
    split at h
    · cases h
    · rename_i result hresult
      have hbound := powLoop_lt le_rfl hresult
      obtain ⟨hnonzero, h⟩ := ite_none_left_eq_some.mp h
      split at h
      · obtain rfl := Option.some.inj h
        exact ⟨Nat.div_pos (by omega) (by omega), (Nat.div_le_self _ _).trans_lt (by norm_num)⟩
      · obtain rfl := Option.some.inj h
        omega

variable {price : ℕ}

lemma getPriceFromId_spec {id : ℤ} {binStep : ℕ} (h : getPriceFromId id binStep = some price) :
    0 < price ∧ Word price := by
  simp only [getPriceFromId, ite_none_right_eq_some] at h
  exact powQ64_spec h.2

/-- What a price gives for an amount, at most. -/
def Allows (swapForY : Bool) (price amountIn amountOut : ℕ) : Prop :=
  if swapForY then amountOut * 2 ^ 64 ≤ amountIn * price else amountOut * price ≤ amountIn * 2 ^ 64

variable {swapForY : Bool} {amountIn : ℕ}

lemma Allows.mono {less more : ℕ} (hless : less ≤ more) (h : Allows swapForY price amountIn more) :
    Allows swapForY price amountIn less := by
  cases swapForY <;> simp only [Allows, if_true, if_false, Bool.false_eq_true] at h ⊢
  · exact (Nat.mul_le_mul_right _ hless).trans h
  · exact (Nat.mul_le_mul_right _ hless).trans h

variable {out : ℕ}

lemma getAmountOut_spec (hword : Word price)
    (h : getAmountOut amountIn price swapForY .down = some out) :
    Allows swapForY price amountIn out := by
  cases swapForY <;>
    simp only [getAmountOut, mulDiv, if_true, if_false, Bool.false_eq_true, bind_toU64_eq_some] at h
  · obtain ⟨_, rfl, _⟩ := mulDivFloor_spec hword h.1
    simp only [Allows, Bool.false_eq_true, if_false]
    exact Nat.div_mul_le_self _ _
  · obtain ⟨_, rfl, _⟩ := mulDivFloor_spec (word_of_le le_rfl) h.1
    simp only [Allows, if_true]
    rw [Nat.mul_comm amountIn]
    exact Nat.div_mul_le_self _ _

lemma getAmountIn_spec {amountOut : ℕ} (hword : Word price) (hprice : 0 < price)
    (h : getAmountIn amountOut price swapForY .up = some amountIn) :
    Allows swapForY price amountIn amountOut ∧
      ∀ less out, less < amountIn → Allows swapForY price less out → out ≤ amountOut := by
  cases swapForY <;>
    simp only [getAmountIn, mulDiv, if_true, if_false, Bool.false_eq_true, bind_toU64_eq_some] at h
  · obtain ⟨_, hcovers, hshort, _⟩ := mulDivCeil_spec (word_of_le le_rfl) h.1
    simp only [Allows, Bool.false_eq_true, if_false]
    refine ⟨hcovers, fun less out hless hallowed => ?_⟩
    have hscaled : out * price ≤ amountOut * price := by omega
    exact Nat.le_of_mul_le_mul_right hscaled hprice
  · obtain ⟨_, hcovers, hshort, _⟩ := mulDivCeil_spec hword h.1
    simp only [Allows, if_true]
    refine ⟨hcovers, fun less out hless hallowed => ?_⟩
    have hunit : (less + 1) * price ≤ amountIn * price := Nat.mul_le_mul_right _ hless
    rw [Nat.add_mul] at hunit
    omega

/-! ## What a fill does -/

lemma fillBin_spec {cap offered taken left : ℕ} (hword : Word price) (hprice : 0 < price)
    (h : fillBin cap price offered swapForY = .ok (taken, left, out)) :
    taken + left = offered ∧ out ≤ cap ∧ Allows swapForY price taken out := by
  unfold fillBin at h
  split at h
  · obtain ⟨rfl, rfl, rfl⟩ : 0 = taken ∧ offered = left ∧ 0 = out := by simpa using h
    refine ⟨Nat.zero_add _, Nat.zero_le _, ?_⟩
    cases swapForY <;> simp [Allows]
  · obtain ⟨maxAmountIn, hmax, h⟩ := bind_eq_ok.mp h
    obtain ⟨hall, hless⟩ := getAmountIn_spec hword hprice (orQuoteMathError_eq_ok.mp hmax)
    split at h
    · rename_i hdrained
      obtain ⟨rfl, rfl, rfl⟩ : maxAmountIn = taken ∧ offered - maxAmountIn = left ∧ cap = out := by
        simpa using h
      exact ⟨by omega, le_rfl, hall⟩
    · rename_i hpart
      obtain ⟨given, hgiven, h⟩ := bind_eq_ok.mp h
      obtain ⟨rfl, rfl, rfl⟩ : offered = taken ∧ 0 = left ∧ given = out := by simpa using h
      have hallowed := getAmountOut_spec hword (orQuoteMathError_eq_ok.mp hgiven)
      exact ⟨Nat.add_zero _, hless offered given (by omega) hallowed, hallowed⟩

variable {rate fee : ℕ}

lemma feeFromAmount_le {amount : ℕ} (hrate : rate ≤ feePrecision)
    (h : feeFromAmount rate amount = some fee) : fee ≤ amount := by
  obtain ⟨hfee, _⟩ := bind_toU64_eq_some.mp h
  obtain ⟨hpos, _, hshort, _⟩ := mulDivCeil_spec (word_of_le (by decide)) hfee
  have hscaled : amount * rate ≤ amount * feePrecision := Nat.mul_le_mul_left _ hrate
  by_contra hover
  have hunit : (amount + 1) * feePrecision ≤ fee * feePrecision := Nat.mul_le_mul_right _ (by omega)
  rw [Nat.add_mul] at hunit
  omega

lemma feeFromExcludedAmount_fits {whole part inside onTop : ℕ}
    (hinside : feeFromAmount rate whole = some inside)
    (hontop : feeFromExcludedAmount rate part = some onTop) (hleft : part < whole - inside) :
    part + onTop ≤ whole := by
  unfold feeFromExcludedAmount at hontop
  split at hontop
  · cases hontop
  · rename_i hrate
    obtain ⟨hfee, _⟩ := bind_toU64_eq_some.mp hinside
    obtain ⟨_, hcovers, _, _⟩ := mulDivCeil_spec (word_of_le (by decide)) hfee
    obtain ⟨hfee', _⟩ := bind_toU64_eq_some.mp hontop
    have hsmall : feePrecision - rate ≤ 2 ^ 64 := (Nat.sub_le _ _).trans (by decide)
    obtain ⟨_, _, hshort, _⟩ := mulDivCeil_spec (word_of_le hsmall) hfee'
    by_contra hover
    have hsplit : ∀ n : ℕ, n * feePrecision = n * rate + n * (feePrecision - rate) := by
      intro n
      rw [← Nat.mul_add]
      congr 1
      omega
    -- one unit too many on top would be one unit too many in all
    have hunit : (whole + 1) * (feePrecision - rate) ≤ (part + onTop) * (feePrecision - rate) :=
      Nat.mul_le_mul_right _ (by omega)
    rw [Nat.add_mul, Nat.add_mul] at hunit
    have hroom : (part + inside + 1) * feePrecision ≤ whole * feePrecision :=
      Nat.mul_le_mul_right _ (by omega)
    rw [Nat.add_mul, Nat.add_mul] at hroom
    have hwhole := hsplit whole
    have hpart := hsplit part
    have hpositive : 0 < feePrecision := by decide
    omega

lemma quoteBin_spec {bin : DecodedBin} {consumed : ℕ} {feeOnInput : Bool} (hword : Word price)
    (hprice : 0 < price) (hrate : rate ≤ maxFeeRate) (hamount : amountIn ≤ u64Max)
    (h : quoteBin bin price amountIn swapForY feeOnInput rate = .ok (consumed, out, fee)) :
    consumed ≤ amountIn ∧ out ≤ bin.cap swapForY ∧ (feeOnInput = true → fee ≤ consumed) ∧
      Allows swapForY price (if feeOnInput then consumed - fee else consumed) out := by
  have hprecision : rate ≤ feePrecision := hrate.trans (by decide)
  unfold quoteBin at h
  cases feeOnInput with
  | true =>
    simp only [if_true] at h
    obtain ⟨inputFee, hinputFee, h⟩ := bind_eq_ok.mp h
    rw [orQuoteMathError_eq_ok] at hinputFee
    obtain ⟨⟨taken, left, given⟩, hfilled, h⟩ := bind_eq_ok.mp h
    obtain ⟨⟨included, charged⟩, hcharged, h⟩ := bind_eq_ok.mp h
    obtain ⟨rfl, rfl, rfl⟩ : included = consumed ∧ given = out ∧ charged = fee := by simpa using h
    obtain ⟨hoffered, hcap, hallowed⟩ := fillBin_spec hword hprice hfilled
    have hinside := feeFromAmount_le hprecision hinputFee
    simp only [chargeInput] at hcharged
    split at hcharged
    · rename_i hleft
      simp only [if_true] at hcharged
      obtain ⟨onTop, hontop, hcharged⟩ := bind_eq_ok.mp hcharged
      obtain ⟨rfl, rfl⟩ : min (taken + onTop) u64Max = included ∧ onTop = charged := by
        simpa using hcharged
      have hfits := feeFromExcludedAmount_fits hinputFee (orQuoteMathError_eq_ok.mp hontop)
        (show taken < amountIn - inputFee by omega)
      have hclip : min (taken + onTop) u64Max = taken + onTop := by omega
      simp only [hclip, if_true, Nat.add_sub_cancel]
      exact ⟨hfits, hcap, fun _ => Nat.le_add_left _ _, hallowed⟩
    · obtain ⟨rfl, rfl⟩ : amountIn = included ∧ inputFee = charged := by simpa using hcharged
      have htaken : amountIn - inputFee = taken := by omega
      simp only [htaken, if_true]
      exact ⟨le_rfl, hcap, fun _ => hinside, hallowed⟩
  | false =>
    simp only [Bool.false_eq_true, if_false] at h
    obtain ⟨inputFee, hinputFee, h⟩ := bind_eq_ok.mp h
    obtain rfl := Except.ok.inj hinputFee
    obtain ⟨⟨taken, left, given⟩, hfilled, h⟩ := bind_eq_ok.mp h
    obtain ⟨⟨included, charged⟩, hcharged, h⟩ := bind_eq_ok.mp h
    obtain ⟨outFee, _, h⟩ := bind_eq_ok.mp h
    obtain ⟨rfl, rfl, rfl⟩ : included = consumed ∧ given - outFee = out ∧ outFee = fee := by
      simpa using h
    obtain ⟨hoffered, hcap, hallowed⟩ := fillBin_spec hword hprice hfilled
    have hincluded : included = taken := by
      simp only [chargeInput, Bool.false_eq_true, if_false] at hcharged
      split at hcharged
      · obtain ⟨rfl, _⟩ : taken = included ∧ _ := by simpa using hcharged
        rfl
      · obtain ⟨rfl, _⟩ : amountIn = included ∧ _ := by simpa using hcharged
        omega
    subst hincluded
    simp only [Bool.false_eq_true, if_false]
    exact ⟨by omega, (Nat.sub_le _ _).trans hcap, fun hnot => absurd hnot (by simp),
      hallowed.mono (Nat.sub_le _ _)⟩

/-! ## What the walk does -/

/-- What a fill has taken in, net of a fee on the input. -/
def Fill.net (fill : Fill) (feeOnInput : Bool) : ℕ :=
  if feeOnInput then fill.consumed - fill.fee else fill.consumed

/-- A fill of a bin of the market, at the price of the bin: it takes no more than was left, gives no
more than the reserve, and no more than the price allows for what it took in. -/
structure Fair (market : DlmmMarket) (swapForY : Bool) (fill : Fill) : Prop where
  mem : fill.bin ∈ market.bins
  priced : getPriceFromId fill.bin.id market.binStep = some fill.price
  positive : 0 < fill.consumed
  within : fill.consumed ≤ fill.left
  reserve : fill.out ≤ fill.bin.cap swapForY
  charged : market.feeOnInput swapForY = true → fill.fee ≤ fill.consumed
  allowed : Allows swapForY fill.price (fill.net (market.feeOnInput swapForY)) fill.out

/-- One bin lies behind the other where the walk goes. -/
def Behind (swapForY : Bool) (first second : ℤ) : Prop :=
  if swapForY then second < first else first < second

/-- The fills of a walk from a bin: they take all of what was left, each from what the ones before
it have left, no bin twice, and the output is theirs, as far as 64 bits hold it. -/
structure Filled (market : DlmmMarket) (swapForY : Bool) (activeId : ℤ) (amountLeft totalOut : ℕ)
    (fills : List Fill) (out : ℕ) : Prop where
  fair : ∀ fill ∈ fills, Fair market swapForY fill
  consumed : (fills.map (·.consumed)).sum = amountLeft
  left : ∀ before fill after, fills = before ++ fill :: after →
    fill.left + (before.map (·.consumed)).sum = amountLeft
  out : out = min (totalOut + (fills.map (·.out)).sum) u64Max
  onward : ∀ fill ∈ fills, fill.bin.id = activeId ∨ Behind swapForY activeId fill.bin.id
  once : fills.Pairwise fun first second => Behind swapForY first.bin.id second.bin.id

section

variable {market : DlmmMarket} {swapForY : Bool}

lemma totalFeeRate_le (volatilityAccumulator : ℕ) :
    market.totalFeeRate volatilityAccumulator ≤ maxFeeRate := min_le_right _ _

variable {amountLeft : ℕ}

lemma turn_spec {bin : DecodedBin} {fill : Option Fill} (hbin : bin ∈ market.bins)
    (hamount : amountLeft ≤ u64Max) (h : market.turn swapForY bin amountLeft = .ok fill) :
    ∀ made ∈ fill, Fair market swapForY made ∧ made.bin = bin ∧ made.left = amountLeft := by
  unfold DlmmMarket.turn at h
  split at h
  · obtain ⟨price, hprice, h⟩ := bind_eq_ok.mp h
    obtain ⟨⟨consumed, out, fee⟩, hquote, h⟩ := bind_eq_ok.mp h
    rw [orQuoteMathError_eq_ok] at hprice
    obtain ⟨hpositive, hword⟩ := getPriceFromId_spec hprice
    obtain ⟨hwithin, hreserve, hcharged, hallowed⟩ :=
      quoteBin_spec hword hpositive (totalFeeRate_le _) hamount hquote
    simp only at h
    split at h
    · rename_i htaken
      obtain rfl := Except.ok.inj h
      rintro made hmade
      obtain rfl := Option.some.inj hmade
      exact ⟨⟨hbin, hprice, htaken, hwithin, hreserve, hcharged, hallowed⟩, rfl, rfl⟩
    · obtain rfl := Except.ok.inj h
      simp
  · obtain rfl := Except.ok.inj h
    simp

lemma Filled.none (activeId : ℤ) (totalOut : ℕ) (hout : totalOut ≤ u64Max) :
    Filled market swapForY activeId 0 totalOut [] totalOut := by
  constructor <;> simp [hout]

lemma behind_of_checkedStep {n next : ℤ} (h : checkedStep swapForY 1 n = some next) :
    Behind swapForY n next := by
  simp only [checkedStep, ite_none_right_eq_some, Option.some.injEq] at h
  obtain ⟨_, rfl⟩ := h
  cases swapForY <;> simp [Behind]

lemma Behind.trans {first second third : ℤ} (h : Behind swapForY first second)
    (h' : Behind swapForY second third) : Behind swapForY first third := by
  cases swapForY <;> simp only [Behind, if_true, if_false, Bool.false_eq_true] at * <;> omega

lemma exists_behind (swapForY : Bool) (n : ℤ) : ∃ next, Behind swapForY n next := by
  cases swapForY
  · exact ⟨n + 1, by simp [Behind]⟩
  · exact ⟨n - 1, by simp [Behind]⟩

lemma Filled.cons {activeId nextId : ℤ} {amountLeft totalOut out : ℕ} {fill : Option Fill}
    {fills : List Fill} (hfair : ∀ made ∈ fill, Fair market swapForY made)
    (hactive : ∀ made ∈ fill, made.bin.id = activeId) (hleft : ∀ made ∈ fill, made.left = amountLeft)
    (hnext : Behind swapForY activeId nextId)
    (h : Filled market swapForY nextId (amountLeft - (fill.map (·.consumed)).getD 0)
      (min (totalOut + (fill.map (·.out)).getD 0) u64Max) fills out) :
    Filled market swapForY activeId amountLeft totalOut (fill.toList ++ fills) out := by
  obtain ⟨hfairs, hconsumed, hlefts, hout, honward, honce⟩ := h
  have hbehind : ∀ later ∈ fills, Behind swapForY activeId later.bin.id := by
    intro later hlater
    rcases honward later hlater with hid | hid
    · rwa [hid]
    · exact hnext.trans hid
  cases fill with
  | none =>
    simp only [map_none, getD_none, Nat.sub_zero, Nat.add_zero] at hconsumed hlefts hout
    refine ⟨hfairs, hconsumed, hlefts, ?_, fun later hlater => .inr (hbehind later hlater), honce⟩
    rw [hout]
    simp only [toList_none, nil_append]
    omega
  | some made =>
    have hmade := hfair made rfl
    have hwithin := hmade.within
    rw [hleft made rfl] at hwithin
    simp only [map_some, getD_some] at hconsumed hlefts hout
    simp only [toList_some, cons_append, nil_append]
    constructor
    case fair =>
      intro later hlater
      obtain rfl | hlater := mem_cons.mp hlater
      · exact hmade
      · exact hfairs later hlater
    case consumed =>
      simp only [map_cons, sum_cons]
      omega
    case left =>
      intro before later after hsplit
      cases before with
      | nil =>
        obtain ⟨rfl, _⟩ := List.cons.inj hsplit
        simpa using hleft made rfl
      | cons first before =>
        obtain ⟨rfl, hrest⟩ := List.cons.inj hsplit
        have := hlefts before later after hrest
        simp only [map_cons, sum_cons]
        omega
    case out =>
      rw [hout]
      simp only [map_cons, sum_cons]
      omega
    case onward =>
      intro later hlater
      obtain rfl | hlater := mem_cons.mp hlater
      · exact .inl (hactive later rfl)
      · exact .inr (hbehind later hlater)
    case once =>
      refine pairwise_cons.mpr ⟨fun later hlater => ?_, honce⟩
      rw [hactive made rfl]
      exact hbehind later hlater

lemma walkBins_filled {amountIn : ℕ} {activeId : ℤ} {totalOut totalFee : ℕ} {fills : List Fill}
    {out fee : ℕ} (hamount : amountLeft ≤ u64Max) (htotal : totalOut ≤ u64Max)
    (h : market.walkBins swapForY amountIn activeId amountLeft totalOut totalFee =
      .ok (fills, out, fee)) :
    Filled market swapForY activeId amountLeft totalOut fills out := by
  fun_induction DlmmMarket.walkBins market swapForY amountIn activeId amountLeft totalOut totalFee
    generalizing fills out fee with
  | case1 activeId totalOut totalFee =>
    obtain ⟨rfl, rfl, rfl⟩ : [] = fills ∧ totalOut = out ∧ totalFee = fee := by simpa using h
    exact .none activeId totalOut htotal
  | case2 activeId amountLeft totalOut totalFee hleft hnone => cases h
  | case3 activeId amountLeft totalOut totalFee hleft bin hfind e hturn => cases h
  | case4 =>
    rename_i activeId amountLeft totalOut totalFee hleft bin hfind fill hturn left' totalOut'
      totalFee' hspent
    obtain ⟨rfl, htotals⟩ := Prod.mk.inj (Except.ok.inj h)
    obtain ⟨rfl, rfl⟩ := Prod.mk.inj htotals
    have hmade := turn_spec (mem_of_find?_eq_some hfind) hamount hturn
    have hid : bin.id = activeId := by simpa using List.find?_some hfind
    obtain ⟨nextId, hnext⟩ := exists_behind swapForY activeId
    have hrest : Filled market swapForY nextId left' totalOut' [] totalOut' := by
      rw [hspent]
      exact .none nextId _ (min_le_right _ _)
    have hfilled := Filled.cons (fun made h => (hmade made h).1)
      (fun made h => by rw [(hmade made h).2.1, hid]) (fun made h => (hmade made h).2.2) hnext hrest
    rwa [append_nil] at hfilled
  | case5 => cases h
  | case6 =>
    rename_i activeId amountLeft totalOut totalFee hleft bin hfind fill hturn left' totalOut'
      totalFee' hmore
      nextId hstep ih
    obtain ⟨⟨rest, out', fee'⟩, hrest, h⟩ := bind_eq_ok.mp h
    obtain ⟨rfl, rfl, rfl⟩ : fill.toList ++ rest = fills ∧ out' = out ∧ fee' = fee := by simpa using h
    have hmade := turn_spec (mem_of_find?_eq_some hfind) hamount hturn
    have hid : bin.id = activeId := by simpa using List.find?_some hfind
    exact Filled.cons (fun made h => (hmade made h).1)
      (fun made h => by rw [(hmade made h).2.1, hid]) (fun made h => (hmade made h).2.2)
      (behind_of_checkedStep hstep) (ih ((Nat.sub_le _ _).trans hamount) (min_le_right _ _) hrest)

end

/-- **The amounts of a walk**: its fills take exactly the input, each fairly and from a bin of its
own, and the output is the sum of theirs, as far as 64 bits hold it. -/
theorem walk_filled {market : DlmmMarket} {swapForY : Bool} {amountIn : ℕ} {fills : List Fill}
    {totalOut totalFee : ℕ} {feeOnInput : Bool} (hamount : amountIn ≤ u64Max)
    (h : market.walk swapForY amountIn = .ok (fills, totalOut, totalFee, feeOnInput)) :
    Filled market swapForY market.activeId amountIn 0 fills totalOut := by
  obtain ⟨⟨fills', totalOut', totalFee'⟩, hwalk, h⟩ := bind_eq_ok.mp h
  obtain ⟨rfl, rfl, rfl, _⟩ : fills' = fills ∧ totalOut' = totalOut ∧ totalFee' = totalFee ∧ _ := by
    simpa using h
  exact walkBins_filled hamount (Nat.zero_le _) hwalk

/-! ## More than 64 bits hold -/

section

variable {market : DlmmMarket} {swapForY : Bool} {amountIn amountLeft totalOut totalFee : ℕ}
  {activeId : ℤ}
  {bin : DecodedBin} {fill : Fill}

lemma walkBins_of_last (hleft : amountLeft ≠ 0)
    (hfind : market.bins.find? (·.id == activeId) = some bin)
    (hturn : market.turn swapForY bin amountLeft = .ok (some fill))
    (hspent : amountLeft - fill.consumed = 0) :
    market.walkBins swapForY amountIn activeId amountLeft totalOut totalFee =
      .ok ([fill], min (totalOut + fill.out) u64Max, min (totalFee + fill.fee) u64Max) := by
  rw [DlmmMarket.walkBins, if_neg hleft]
  simp [hfind, hturn, hspent]

lemma walkBins_of_turn {nextId : ℤ} {fills : List Fill} {totals : ℕ × ℕ} (hleft : amountLeft ≠ 0)
    (hfind : market.bins.find? (·.id == activeId) = some bin)
    (hturn : market.turn swapForY bin amountLeft = .ok (some fill))
    (hmore : amountLeft - fill.consumed ≠ 0) (hstep : checkedStep swapForY 1 activeId = some nextId)
    (hrest : market.walkBins swapForY amountIn nextId (amountLeft - fill.consumed)
      (min (totalOut + fill.out) u64Max) (min (totalFee + fill.fee) u64Max) = .ok (fills, totals)) :
    market.walkBins swapForY amountIn activeId amountLeft totalOut totalFee =
      .ok (fill :: fills, totals) := by
  rw [DlmmMarket.walkBins, if_neg hleft]
  simp only [hfind, hturn, map_some, getD_some, hmore, if_false]
  split
  · rename_i hnone
    rw [hstep] at hnone
    cases hnone
  · rename_i next hsome
    obtain rfl : nextId = next := Option.some.inj (hstep.symm.trans hsome)
    rw [hrest]
    rfl

end

/-- Two bins that hold as much as 64 bits can, at about a million to one. -/
def richMarket : DlmmMarket where
  pool := "pair"
  parameters := ⟨1, 0, 0, 0, 0⟩
  activeId := 20
  binStep := 10000
  vParams := ⟨0, 20⟩
  bins := [⟨19, 0, 2 ^ 64 - 1⟩, ⟨20, 0, 2 ^ 64 - 1⟩]

def richFills : List Fill :=
  [⟨⟨20, 0, 2 ^ 64 - 1⟩, 19342813113835166306926592, 20000000000000, 17593945438959, 2 ^ 64 - 1,
    1759394544⟩,
    ⟨⟨19, 0, 2 ^ 64 - 1⟩, 9671406556917308275556352, 2406054561041, 2406054561041, 1261339387145260041,
      240605457⟩]

lemma walk_rich : richMarket.walk true 20000000000000 = .ok
    (richFills, 2 ^ 64 - 1, 2000000001, true) := by
  have hwalk : richMarket.walkBins true 20000000000000 20 20000000000000 0 0 =
      .ok (richFills, 2 ^ 64 - 1, 2000000001) := by
    have hfirst : richMarket.bins.find? (·.id == 20) = some ⟨20, 0, 2 ^ 64 - 1⟩ := by decide
    have hsecond : richMarket.bins.find? (·.id == 19) = some ⟨19, 0, 2 ^ 64 - 1⟩ := by decide
    have hstep : checkedStep true 1 20 = some 19 := by decide
    exact walkBins_of_turn (by decide) hfirst (by decide +kernel) (by decide) hstep
      (walkBins_of_last (by decide) hsecond (by decide +kernel) (by decide))
  rw [DlmmMarket.walk]
  have hactive : richMarket.activeId = 20 := rfl
  rw [hactive, hwalk]
  rfl

theorem walk_filled_rich : Filled richMarket true 20 20000000000000 0 richFills (2 ^ 64 - 1) :=
  walk_filled (by decide) walk_rich

/-- **Not every output is the sum of the outputs of the bins**: it stops at what 64 bits hold. -/
theorem not_sum :
    ¬∀ (market : DlmmMarket) (swapForY : Bool) (amountIn : ℕ) (fills : List Fill)
      (totalOut totalFee : ℕ)
      (feeOnInput : Bool), amountIn ≤ u64Max →
      market.walk swapForY amountIn = .ok (fills, totalOut, totalFee, feeOnInput) →
      (fills.map (·.consumed)).sum = amountIn ∧ (∀ fill ∈ fills, Fair market swapForY fill) ∧
        totalOut = (fills.map (·.out)).sum := by
  intro hall
  have hsum := (hall _ _ _ _ _ _ _ (by decide) walk_rich).2.2
  revert hsum
  decide

end Dripline.Venues.MeteoraDlmm

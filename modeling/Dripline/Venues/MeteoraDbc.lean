import Dripline.Found.Outcome
import Dripline.Found.Piecewise
import Dripline.Swaps.Error
import Dripline.Venues.Math
import Mathlib.Tactic.FieldSimp
import Mathlib.Tactic.Positivity

/-!
# The walk over a bonding curve

`direct/venues/meteora_dbc.rs`. A curve is a start price and points; up to each point the liquidity
is one. A buy puts the quote token in and moves the price up, a sell puts the base token in and
moves it down.

* `walk_conserves` — what a walk takes, where it goes, and what it gives back.

A source without a file is in `meteora_dbc.rs`, where a definition without a comment is the one
of its name.
-/

namespace Dripline.Venues.MeteoraDbc

open Dripline.Found (bind_eq_ok)
open Dripline.Found.Piecewise List
open Dripline.Swaps (DirectSwapError Pubkey)

/-- The largest value of 64 bits. -/
def u64Max : ℕ := 2 ^ 64 - 1

/-- Source: `math.rs` -/
def mulShr128Floor (a b : ℕ) : ℕ := (mulFull a b).1

/-- Source: `math.rs` -/
def mulShr128Ceil (a b : ℕ) : ℕ :=
  if (mulFull a b).2 = 0 then (mulFull a b).1 else min ((mulFull a b).1 + 1) (2 ^ 128 - 1)

/-- Source: `math.rs` -/
def shl128DivFloor (numerator denominator : ℕ) : Option ℕ := divFull numerator 0 denominator

/-! ## One stretch -/

def quoteMathOverflow : DirectSwapError := .quoteMath "the DBC curve step overflowed 256 bits"

/-- A result that the arithmetic may refuse. -/
def orOverflow : Option ℕ → Except DirectSwapError ℕ
  | some value => .ok value
  | none => .error quoteMathOverflow

def outputForMove (zeroForOne : Bool) (liquidity sqrtFrom sqrtTo : ℕ) : Except DirectSwapError ℕ :=
  if zeroForOne then .ok (min (mulShr128Floor liquidity (sqrtFrom - sqrtTo)) u64Max)
  else do
    let step ← orOverflow (mulDivFloor liquidity (sqrtTo - sqrtFrom) sqrtTo)
    .ok (min (step / max sqrtFrom 1) u64Max)

def inputForMove (zeroForOne : Bool) (liquidity sqrtFrom sqrtTo : ℕ) : Except DirectSwapError ℕ :=
  if zeroForOne then
    if sqrtFrom ≤ sqrtTo then .ok 0
    else do
      let step ← orOverflow (mulDivCeil liquidity (sqrtFrom - sqrtTo) sqrtFrom)
      .ok (ceilDiv step (max sqrtTo 1))
  else if sqrtTo ≤ sqrtFrom then .ok 0
  else .ok (mulShr128Ceil liquidity (sqrtTo - sqrtFrom))

def nextSqrtPriceFromInput (zeroForOne : Bool) (liquidity sqrtPrice amountIn : ℕ) :
    Except DirectSwapError ℕ :=
  if zeroForOne then
    if amountIn * sqrtPrice < 2 ^ 128 ∧ liquidity + amountIn * sqrtPrice < 2 ^ 128 then
      orOverflow (mulDivCeil liquidity sqrtPrice (liquidity + amountIn * sqrtPrice))
    else .error quoteMathOverflow
  else do
    let delta ← orOverflow (shl128DivFloor amountIn liquidity)
    if sqrtPrice + delta < 2 ^ 128 then .ok (sqrtPrice + delta) else .error quoteMathOverflow

/-! ## The curve -/

structure CurvePoint where
  sqrtPrice : ℕ
  liquidity : ℕ

/-- A market, as far as its walk reads it. Source: `VirtualPoolState`, `PoolConfigState`,
`DbcMarket` -/
structure DbcMarket where
  pool : Pubkey
  sqrtPrice : ℕ
  sqrtStartPrice : ℕ
  curve : List CurvePoint

def DbcMarket.boundaries (market : DbcMarket) : List ℕ :=
  market.sqrtStartPrice :: market.curve.map (·.sqrtPrice)

def DbcMarket.liquidities (market : DbcMarket) : List ℕ := market.curve.map (·.liquidity)

/-- The first segment that ends at the price or past it, or the last one. Source:
`current_segment_index` -/
def currentSegmentIndex (boundaries : List ℕ) (price : ℕ) : ℕ :=
  let segments := boundaries.length - 1
  if segments = 0 then 0
  else ((List.range segments).find? fun i => price ≤ boundaries.getD (i + 1) 0).getD (segments - 1)

/-! ## The walk -/

/-- What one turn of the loop has taken and given, and whether it has reached the end of its
segment. -/
structure Step where
  sqrtFrom : ℕ
  sqrtTo : ℕ
  taken : ℕ
  out : ℕ
  crossed : Bool
  deriving DecidableEq

/-- One turn of the loop. Source: `walk` -/
def turn (zeroForOne : Bool) (liquidity boundary sqrtPrice remaining : ℕ) :
    Except DirectSwapError Step := do
  let inputNeeded ← inputForMove zeroForOne liquidity sqrtPrice boundary
  if remaining < inputNeeded then do
    let nextPrice ← nextSqrtPriceFromInput zeroForOne liquidity sqrtPrice remaining
    let out ← outputForMove zeroForOne liquidity sqrtPrice nextPrice
    .ok ⟨sqrtPrice, nextPrice, remaining, out, false⟩
  else do
    let out ← outputForMove zeroForOne liquidity sqrtPrice boundary
    .ok ⟨sqrtPrice, boundary, inputNeeded, out, true⟩

namespace DbcMarket

variable (market : DbcMarket) (zeroForOne : Bool) (amountIn : ℕ)

/-- The turns of the loop, with the number of segments that lie ahead, this one included: a sell
goes down to the first, a buy up to the last. Source: `walk` -/
def walkLoop : ℕ → ℕ → ℕ → ℕ → Except DirectSwapError (List Step × ℕ × ℕ)
  | ahead, sqrtPrice, remaining, totalOut =>
    if remaining = 0 then .ok ([], totalOut, sqrtPrice)
    else
      match ahead with
      | 0 =>
        .error (.insufficientLiquidity market.pool amountIn
          (if zeroForOne then "the sell would push the curve below its own starting price"
            else "the swap would travel past the curve segments this venue loaded"))
      | ahead + 1 =>
        let idx := if zeroForOne then ahead else market.liquidities.length - (ahead + 1)
        match market.liquidities[idx]? with
        | none =>
          .error (.insufficientLiquidity market.pool amountIn
            "the swap would travel past the curve segments this venue loaded")
        | some liquidity =>
          if liquidity = 0 then
            .error (.insufficientLiquidity market.pool amountIn
              "a loaded curve segment carries zero liquidity")
          else do
            let boundary := market.boundaries.getD (if zeroForOne then idx else idx + 1) 0
            let step ← turn zeroForOne liquidity boundary sqrtPrice remaining
            if step.crossed then do
              let (steps, ended) ←
                walkLoop ahead step.sqrtTo (remaining - step.taken) (totalOut + step.out)
              .ok (step :: steps, ended)
            else .ok ([step], totalOut + step.out, step.sqrtTo)

/-- The segments ahead of a price. -/
def ahead : ℕ :=
  let idx := currentSegmentIndex market.boundaries market.sqrtPrice
  if zeroForOne then idx + 1 else market.liquidities.length - idx

/-- The turns, the output and the price at which a walk ends. -/
def walk : Except DirectSwapError (List Step × ℕ × ℕ) := do
  let (steps, totalOut, sqrtPrice) ←
    market.walkLoop zeroForOne amountIn (market.ahead zeroForOne) market.sqrtPrice amountIn 0
  .ok (steps, min totalOut u64Max, sqrtPrice)

end DbcMarket

/-! ## One turn -/

@[simp] lemma orOverflow_eq_ok {answer : Option ℕ} {n : ℕ} :
    orOverflow answer = .ok n ↔ answer = some n := by
  cases answer <;> simp [orOverflow]

lemma mulShr128Floor_eq (a b : ℕ) : mulShr128Floor a b = a * b / 2 ^ 128 := by
  rw [mulShr128Floor, mulFull_eq]

lemma mulShr128Ceil_spec {a b : ℕ} (ha : Word a) (hb : Word b) :
    a * b ≤ mulShr128Ceil a b * 2 ^ 128 ∧ mulShr128Ceil a b * 2 ^ 128 < a * b + 2 ^ 128 := by
  have hproduct : a * b ≤ (2 ^ 128 - 1) * (2 ^ 128 - 1) :=
    Nat.mul_le_mul (Nat.le_sub_one_of_lt ha) (Nat.le_sub_one_of_lt hb)
  simp only [mulShr128Ceil, mulFull_eq]
  split <;> omega

variable {sqrtPrice boundary : ℕ} {liquidity remaining : ℕ} {step : Step}

lemma turn_rising (hliquidity : Word liquidity) (hboundary : Word boundary)
    (hle : sqrtPrice ≤ boundary) (h : turn false liquidity boundary sqrtPrice remaining = .ok step) :
    step.sqrtFrom = sqrtPrice ∧ sqrtPrice ≤ step.sqrtTo ∧ step.sqrtTo ≤ boundary ∧
      step.taken ≤ remaining ∧ (step.crossed = true → step.sqrtTo = boundary) ∧
      (step.crossed = false → step.taken = remaining) ∧
      liquidity * (step.sqrtTo - sqrtPrice) ≤ step.taken * 2 ^ 128 ∧
      (0 < sqrtPrice → step.out * (step.sqrtTo * sqrtPrice) ≤
        liquidity * (step.sqrtTo - sqrtPrice)) := by
  have hgift : ∀ {next out : ℕ}, Word next → outputForMove false liquidity sqrtPrice next = .ok out →
      0 < sqrtPrice → out * (next * sqrtPrice) ≤ liquidity * (next - sqrtPrice) := by
    intro next out hnext hout hprice
    simp only [outputForMove, Bool.false_eq_true, if_false] at hout
    obtain ⟨given, hgiven, hout⟩ := bind_eq_ok.mp hout
    obtain rfl := Except.ok.inj hout
    exact (Nat.mul_le_mul_right _ (min_le_left _ _)).trans
      (mulDivFloor_div_le hnext hprice (orOverflow_eq_ok.mp hgiven))
  have hneeded : ∀ {needed : ℕ}, inputForMove false liquidity sqrtPrice boundary = .ok needed →
      liquidity * (boundary - sqrtPrice) ≤ needed * 2 ^ 128 ∧
        needed * 2 ^ 128 < liquidity * (boundary - sqrtPrice) + 2 ^ 128 := by
    intro needed hinput
    simp only [inputForMove, Bool.false_eq_true, if_false] at hinput
    split at hinput
    · obtain rfl := Except.ok.inj hinput
      have hspread : boundary - sqrtPrice = 0 := by omega
      rw [hspread]
      omega
    · obtain rfl := Except.ok.inj hinput
      exact mulShr128Ceil_spec hliquidity ((Nat.sub_le _ _).trans_lt hboundary)
  obtain ⟨needed, hinput, h⟩ := bind_eq_ok.mp h
  obtain ⟨hcovers, hceiling⟩ := hneeded hinput
  split at h
  · rename_i hshort
    have hunit : remaining * 2 ^ 128 + 2 ^ 128 ≤ needed * 2 ^ 128 := by
      rw [← Nat.succ_mul]
      exact Nat.mul_le_mul_right _ hshort
    have hbelow : remaining * 2 ^ 128 < liquidity * (boundary - sqrtPrice) :=
      Nat.lt_of_add_lt_add_right (hunit.trans_lt hceiling)
    obtain ⟨next, hnext, h⟩ := bind_eq_ok.mp h
    obtain ⟨out, hout, h⟩ := bind_eq_ok.mp h
    obtain rfl := Except.ok.inj h
    simp only [nextSqrtPriceFromInput, Bool.false_eq_true, if_false] at hnext
    obtain ⟨delta, hdelta, hnext⟩ := bind_eq_ok.mp hnext
    split at hnext
    · rename_i hword
      obtain rfl := Except.ok.inj hnext
      -- what is left moves the price by less than the rest of the segment
      have hmove : delta * liquidity ≤ remaining * 2 ^ 128 := by
        rw [orOverflow_eq_ok, shl128DivFloor, divFull_eq (by norm_num) hliquidity,
          Nat.add_zero] at hdelta
        obtain rfl := Option.some.inj (Option.ite_none_left_eq_some.mp hdelta).2
        exact Nat.div_mul_le_self _ _
      have hdelta' : delta ≤ boundary - sqrtPrice := by
        by_contra hfar
        have hproduct : liquidity * (boundary - sqrtPrice) ≤ delta * liquidity := by
          rw [Nat.mul_comm delta]
          exact Nat.mul_le_mul_left _ (by omega)
        exact absurd (hproduct.trans hmove) (not_le.mpr hbelow)
      have hspread : sqrtPrice + delta - sqrtPrice = delta := by omega
      refine ⟨rfl, Nat.le_add_right _ _, by simp only; omega, le_rfl, by simp, fun _ => rfl, ?_,
        hgift hword hout⟩
      simp only [hspread]
      rwa [Nat.mul_comm]
    · cases hnext
  · rename_i hreached
    obtain ⟨out, hout, h⟩ := bind_eq_ok.mp h
    obtain rfl := Except.ok.inj h
    exact ⟨rfl, hle, le_rfl, not_lt.mp hreached, fun _ => rfl, by simp, hcovers, hgift hboundary hout⟩

lemma inputForMove_falling {needed : ℕ} (hword : Word sqrtPrice) (hle : boundary ≤ sqrtPrice)
    (h : inputForMove true liquidity sqrtPrice boundary = .ok needed) :
    (0 < boundary → liquidity * (sqrtPrice - boundary) ≤ needed * (boundary * sqrtPrice) ∧
      (0 < needed → needed * (boundary * sqrtPrice) <
        liquidity * (sqrtPrice - boundary) + boundary * sqrtPrice)) ∧
      (boundary = 0 → 0 < sqrtPrice → liquidity ≤ needed) := by
  simp only [inputForMove, if_true] at h
  split at h
  · rename_i hback
    obtain rfl := Except.ok.inj h
    have hspread : sqrtPrice - boundary = 0 := by omega
    rw [hspread]
    exact ⟨fun _ => ⟨by omega, fun hpos => absurd hpos (by omega)⟩, fun hzero hpos => by omega⟩
  · obtain ⟨step, hstep, h⟩ := bind_eq_ok.mp h
    obtain rfl := Except.ok.inj h
    rw [orOverflow_eq_ok] at hstep
    refine ⟨fun hpos => ?_, fun hzero hpos => ?_⟩
    · obtain ⟨hcovers, hshort⟩ := mulDivCeil_ceilDiv_spec hword hpos hstep
      exact ⟨hcovers, fun _ => hshort⟩
    · subst hzero
      obtain ⟨_, hcovers, _⟩ := mulDivCeil_spec hword hstep
      rw [Nat.sub_zero] at hcovers
      have hceil : ceilDiv step (max 0 1) = step := by simp [ceilDiv]
      rw [hceil]
      exact Nat.le_of_mul_le_mul_right hcovers hpos

lemma turn_falling (hpositive : 0 < liquidity) (hword : Word sqrtPrice) (hle : boundary ≤ sqrtPrice)
    (h : turn true liquidity boundary sqrtPrice remaining = .ok step) :
    step.sqrtFrom = sqrtPrice ∧ step.sqrtTo ≤ sqrtPrice ∧ boundary ≤ step.sqrtTo ∧
      step.taken ≤ remaining ∧ (step.crossed = true → step.sqrtTo = boundary) ∧
      (step.crossed = false → step.taken = remaining) ∧
      step.out * 2 ^ 128 ≤ liquidity * (sqrtPrice - step.sqrtTo) ∧
      (step.crossed = true → 0 < boundary →
        liquidity * (sqrtPrice - boundary) ≤ step.taken * (boundary * sqrtPrice)) ∧
      (step.crossed = true → boundary = 0 → 0 < sqrtPrice → liquidity ≤ step.taken) ∧
      (∀ floor, 0 < floor → boundary ≤ floor → floor ≤ sqrtPrice →
        remaining * (floor * sqrtPrice) + liquidity * floor ≤ liquidity * sqrtPrice →
          floor ≤ step.sqrtTo) := by
  have hgift : ∀ {next out : ℕ}, outputForMove true liquidity sqrtPrice next = .ok out →
      out * 2 ^ 128 ≤ liquidity * (sqrtPrice - next) := by
    intro next out hout
    simp only [outputForMove, if_true] at hout
    obtain rfl := Except.ok.inj hout
    rw [mulShr128Floor_eq]
    exact (Nat.mul_le_mul_right _ (min_le_left _ _)).trans (Nat.div_mul_le_self _ _)
  obtain ⟨needed, hinput, h⟩ := bind_eq_ok.mp h
  obtain ⟨hsegment, hbottom⟩ := inputForMove_falling hword hle hinput
  split at h
  · rename_i hshort
    obtain ⟨next, hnext, h⟩ := bind_eq_ok.mp h
    obtain ⟨out, hout, h⟩ := bind_eq_ok.mp h
    obtain rfl := Except.ok.inj h
    have hprice : 0 < sqrtPrice := by
      by_contra hzero
      have : needed = 0 := by
        have hback : sqrtPrice ≤ boundary := by omega
        simp only [inputForMove, if_true, hback] at hinput
        exact (Except.ok.inj hinput).symm
      omega
    simp only [nextSqrtPriceFromInput, if_true] at hnext
    split at hnext
    · rename_i hsum
      obtain ⟨_, _, hback, hcovers⟩ :=
        mulDivCeil_back_spec hpositive hprice hsum.2 (orOverflow_eq_ok.mp hnext)
      -- whatever the exact price is not below, the rounded one is not below either
      have hfloor : ∀ floor, remaining * (floor * sqrtPrice) + liquidity * floor ≤
          liquidity * sqrtPrice →
          floor ≤ next := by
        intro floor hholds
        have hscaled : floor * (liquidity + remaining * sqrtPrice) ≤
            next * (liquidity + remaining * sqrtPrice) := by
          have hexpand : floor * (liquidity + remaining * sqrtPrice) =
              remaining * (floor * sqrtPrice) + liquidity * floor := by ring
          omega
        exact Nat.le_of_mul_le_mul_right hscaled (by omega)
      refine ⟨rfl, hback, ?_, le_rfl, by simp, fun _ => rfl, hgift hout, by simp, by simp,
        fun floor _ _ _ hholds => hfloor floor hholds⟩
      rcases Nat.eq_zero_or_pos boundary with rfl | hboundary
      · exact Nat.zero_le _
      · have hceiling := (hsegment hboundary).2 (by omega)
        have hunit : (remaining + 1) * (boundary * sqrtPrice) ≤ needed * (boundary * sqrtPrice) :=
          Nat.mul_le_mul_right _ hshort
        rw [Nat.add_mul] at hunit
        have hspread : liquidity * (sqrtPrice - boundary) + liquidity * boundary =
            liquidity * sqrtPrice := by
          rw [← Nat.mul_add]
          congr 1
          omega
        exact hfloor boundary (by omega)
    · cases hnext
  · rename_i hreached
    obtain ⟨out, hout, h⟩ := bind_eq_ok.mp h
    obtain rfl := Except.ok.inj h
    refine ⟨rfl, hle, le_rfl, not_lt.mp hreached, fun _ => rfl, by simp, hgift hout,
      fun _ hpos => (hsegment hpos).1, fun _ => hbottom, ?_⟩
    intro floor hfloor hbelow hwithin hholds
    by_contra hpassed
    have hneeded : needed ≤ remaining := not_lt.mp hreached
    have hprice : 0 < sqrtPrice := by omega
    rcases Nat.eq_zero_or_pos boundary with hzero | hboundary
    · have hall := hbottom hzero hprice
      have hproduct : liquidity * sqrtPrice ≤ remaining * (floor * sqrtPrice) :=
        Nat.mul_le_mul (hall.trans hneeded) (Nat.le_mul_of_pos_left _ hfloor)
      have : 0 < liquidity * floor := Nat.mul_pos hpositive hfloor
      omega
    · have hcharge := (hsegment hboundary).1
      have hpaid : needed * (boundary * sqrtPrice) ≤ remaining * (boundary * sqrtPrice) :=
        Nat.mul_le_mul_right _ hneeded
      have hfarther : remaining * (boundary * sqrtPrice) ≤ remaining * (floor * sqrtPrice) :=
        Nat.mul_le_mul_left _ (Nat.mul_le_mul_right _ hbelow)
      have hspread : liquidity * (sqrtPrice - boundary) + liquidity * boundary =
          liquidity * sqrtPrice := by
        rw [← Nat.mul_add]
        congr 1
        omega
      have hunit : liquidity * (boundary + 1) ≤ liquidity * floor :=
          Nat.mul_le_mul_left _ (by simp only at hpassed; omega)
      rw [Nat.mul_add] at hunit
      omega

/-! ## The turns of a walk -/

namespace DbcMarket

variable (market : DbcMarket)

/-- The points of the curve, with their weights. -/
def stops : List (ℕ × ℚ) := market.curve.map fun point => (point.sqrtPrice, (point.liquidity : ℚ))

/-- A segment of the curve. -/
def Segment (first last liquidity : ℕ) : Prop :=
  ∃ index : ℕ, stretchAt market.sqrtStartPrice market.stops index = some (first, last, (liquidity : ℚ))

/-- A price between the start of the curve and its last point. -/
def OnCurve (price : ℕ) : Prop :=
  ∃ first last liquidity, market.Segment first last liquidity ∧ first ≤ price ∧ price ≤ last

/-- A curve whose prices rise, in words of 128 bits. -/
structure WellFormed : Prop where
  increasing : Ordered market.sqrtStartPrice market.stops
  start : Word market.sqrtStartPrice
  points : ∀ point ∈ market.curve, Word point.sqrtPrice ∧ Word point.liquidity

variable {market} {liquidity index : ℕ}

lemma stretchAt_of_getElem? (h : market.liquidities[index]? = some liquidity) :
    stretchAt market.sqrtStartPrice market.stops index =
      some (market.boundaries.getD index 0, market.boundaries.getD (index + 1) 0, (liquidity : ℚ)) := by
  have hcurve : ∀ (curve : List CurvePoint) (start index : ℕ),
      (curve.map (·.liquidity))[index]? = some liquidity →
      stretchAt start (curve.map fun point => (point.sqrtPrice, (point.liquidity : ℚ))) index =
        some ((start :: curve.map (·.sqrtPrice)).getD index 0,
          (start :: curve.map (·.sqrtPrice)).getD (index + 1) 0, (liquidity : ℚ)) := by
    intro curve
    induction curve with
    | nil =>
      intro start index hindex
      simp at hindex
    | cons point curve ih =>
      intro start index hindex
      cases index with
      | zero =>
        obtain rfl : point.liquidity = liquidity := by simpa using hindex
        simp [stretchAt]
      | succ index =>
        have hrest := ih point.sqrtPrice index (by simpa using hindex)
        simpa [stretchAt] using hrest
  exact hcurve market.curve market.sqrtStartPrice index h

lemma segment_of_getElem? (h : market.liquidities[index]? = some liquidity) :
    market.Segment (market.boundaries.getD index 0) (market.boundaries.getD (index + 1) 0) liquidity :=
  ⟨index, stretchAt_of_getElem? h⟩

/-- Two turns of the loop or none: how a walk goes on from a price with so much left. -/
inductive Turns (market : DbcMarket) (zeroForOne : Bool) : ℕ → ℕ → List Step → ℕ → Prop
  | done (price : ℕ) : Turns market zeroForOne price 0 [] price
  | cross {price remaining first last liquidity step steps ended}
      (hsegment : market.Segment first last liquidity) (hfirst : first ≤ price) (hlast : price ≤ last)
      (hliquidity : 0 < liquidity)
      (hturn : turn zeroForOne liquidity (if zeroForOne then first else last) price remaining =
        .ok step)
      (hcrossed : step.crossed = true)
      (hrest : Turns market zeroForOne step.sqrtTo (remaining - step.taken) steps ended) :
      Turns market zeroForOne price remaining (step :: steps) ended
  | stop {price remaining first last liquidity step}
      (hsegment : market.Segment first last liquidity) (hfirst : first ≤ price) (hlast : price ≤ last)
      (hliquidity : 0 < liquidity)
      (hturn : turn zeroForOne liquidity (if zeroForOne then first else last) price remaining =
        .ok step)
      (hstopped : step.crossed = false) : Turns market zeroForOne price remaining [step] step.sqrtTo

/-- The index of the segment of a turn. -/
def indexAhead (market : DbcMarket) (zeroForOne : Bool) (ahead : ℕ) : ℕ :=
  if zeroForOne then ahead else market.liquidities.length - (ahead + 1)

/-- The price lies in the first of the segments ahead, if there is one. -/
def Within (market : DbcMarket) (zeroForOne : Bool) (ahead price : ℕ) : Prop :=
  ∀ n, ahead = n + 1 → (zeroForOne = false → ahead ≤ market.liquidities.length) ∧
    market.boundaries.getD (market.indexAhead zeroForOne n) 0 ≤ price ∧
      price ≤ market.boundaries.getD (market.indexAhead zeroForOne n + 1) 0

lemma boundaries_le (hmarket : market.WellFormed) (h : index < market.liquidities.length) :
    market.boundaries.getD index 0 ≤ market.boundaries.getD (index + 1) 0 :=
  (stretchAt_le hmarket.increasing (stretchAt_of_getElem? (List.getElem?_eq_getElem h))).2

variable {ahead : ℕ} {zeroForOne : Bool}

lemma within_next (hmarket : market.WellFormed)
    (hsegments : zeroForOne = false → ahead + 1 ≤ market.liquidities.length)
    (h : market.liquidities[market.indexAhead zeroForOne ahead]? = some liquidity) :
    market.Within zeroForOne ahead (market.boundaries.getD
      (if zeroForOne then market.indexAhead zeroForOne ahead else market.indexAhead zeroForOne
        ahead + 1) 0) := by
  rintro n rfl
  have hindex : market.indexAhead zeroForOne (n + 1) < market.liquidities.length :=
    (List.getElem?_eq_some_iff.mp h).1
  cases zeroForOne with
  | true =>
    simp only [indexAhead, if_true] at hindex ⊢
    exact ⟨by simp, boundaries_le hmarket (by omega), le_rfl⟩
  | false =>
    have hroom := hsegments rfl
    simp only [indexAhead, Bool.false_eq_true, if_false] at hindex ⊢
    have hnext : market.liquidities.length - (n + 1 + 1) + 1 =
        market.liquidities.length - (n + 1) := by omega
    rw [hnext]
    exact ⟨fun _ => by omega, le_rfl, boundaries_le hmarket (by omega)⟩

variable {remaining price : ℕ} {step : Step}

lemma turn_crossed {boundary : ℕ}
    (h : turn zeroForOne liquidity boundary price remaining = .ok step)
    (hcrossed : step.crossed = true) : step.sqrtTo = boundary := by
  obtain ⟨needed, _, h⟩ := bind_eq_ok.mp h
  split at h
  · obtain ⟨next, _, h⟩ := bind_eq_ok.mp h
    obtain ⟨out, _, h⟩ := bind_eq_ok.mp h
    obtain rfl := Except.ok.inj h
    simp at hcrossed
  · obtain ⟨out, _, h⟩ := bind_eq_ok.mp h
    obtain rfl := Except.ok.inj h
    rfl

variable {steps : List Step} {ended out : ℕ} {amountIn : ℕ}

lemma turns_of_walkLoop (hmarket : market.WellFormed) {totalOut : ℕ}
    (hwithin : market.Within zeroForOne ahead price)
    (h : market.walkLoop zeroForOne amountIn ahead price remaining totalOut = .ok (steps, out, ended)) :
    market.Turns zeroForOne price remaining steps ended ∧ out = totalOut + (steps.map (·.out)).sum := by
  induction ahead generalizing price remaining totalOut steps with
  | zero =>
    unfold walkLoop at h
    split at h
    · rename_i hnone
      obtain ⟨rfl, rfl, rfl⟩ : [] = steps ∧ totalOut = out ∧ price = ended := by simpa using h
      subst hnone
      exact ⟨.done _, by simp⟩
    · cases h
  | succ ahead ih =>
    unfold walkLoop at h
    split at h
    · rename_i hnone
      obtain ⟨rfl, rfl, rfl⟩ : [] = steps ∧ totalOut = out ∧ price = ended := by simpa using h
      subst hnone
      exact ⟨.done _, by simp⟩
    · obtain ⟨hsegments, hfirst, hlast⟩ := hwithin ahead rfl
      simp only at h
      rw [← indexAhead] at h
      split at h
      · cases h
      · rename_i liquidity hliquidity
        have hsegment := segment_of_getElem? hliquidity
        split at h
        · cases h
        · rename_i hpositive
          obtain ⟨step, hturn, h⟩ := bind_eq_ok.mp h
          have hturn' : turn zeroForOne liquidity
              (if zeroForOne then market.boundaries.getD (market.indexAhead zeroForOne ahead) 0
                else market.boundaries.getD (market.indexAhead zeroForOne ahead + 1) 0)
              price remaining = .ok step := by
            cases zeroForOne <;> exact hturn
          split at h
          · rename_i hcrossed
            obtain ⟨⟨rest, total, stopped⟩, hrest, h⟩ := bind_eq_ok.mp h
            obtain ⟨rfl, rfl, rfl⟩ : step :: rest = steps ∧ total = out ∧ stopped = ended := by
              simpa using h
            have hnext := within_next hmarket hsegments hliquidity
            rw [← turn_crossed hturn hcrossed] at hnext
            obtain ⟨hturns, rfl⟩ := ih hnext hrest
            refine ⟨.cross hsegment hfirst hlast
              (Nat.pos_of_ne_zero hpositive) hturn' hcrossed hturns, ?_⟩
            simp [Nat.add_assoc]
          · rename_i hstopped
            obtain ⟨rfl, rfl, rfl⟩ : [step] = steps ∧ totalOut + step.out = out ∧
                step.sqrtTo = ended := by
              simpa using h
            refine ⟨.stop hsegment hfirst hlast (Nat.pos_of_ne_zero hpositive) hturn' ?_, by simp⟩
            simpa using hstopped

variable {first last : ℕ}

lemma word_of_segment (hmarket : market.WellFormed) (h : market.Segment first last liquidity) :
    Word first ∧ Word last ∧ Word liquidity := by
  obtain ⟨index, hstretch⟩ := h
  obtain ⟨_, hlast, hfirst⟩ := stretchAt_mem hstretch
  obtain ⟨point, hpoint, hends⟩ := mem_map.mp hlast
  obtain ⟨rfl, hweight⟩ : point.sqrtPrice = last ∧ (point.liquidity : ℚ) = liquidity := by
    simpa using hends
  obtain rfl : point.liquidity = liquidity := by exact_mod_cast hweight
  refine ⟨?_, hmarket.points point hpoint⟩
  rcases hfirst with rfl | ⟨stop, hstop, rfl⟩
  · exact hmarket.start
  · obtain ⟨other, hother, rfl⟩ := mem_map.mp hstop
    exact (hmarket.points other hother).1

lemma currentSegmentIndex_spec (hmarket : market.WellFormed) (h : market.OnCurve price) :
    currentSegmentIndex market.boundaries price < market.liquidities.length ∧
      market.boundaries.getD (currentSegmentIndex market.boundaries price) 0 ≤ price ∧
      price ≤ market.boundaries.getD (currentSegmentIndex market.boundaries price + 1) 0 := by
  obtain ⟨first, last, liquidity, ⟨index, hstretch⟩, hfirst, hlast⟩ := h
  have hlength : index < market.liquidities.length := by
    simpa [stops, liquidities] using (stretchAt_mem hstretch).1
  have hsame := stretchAt_of_getElem? (List.getElem?_eq_getElem hlength)
  have hend : market.boundaries.getD (index + 1) 0 = last := by
    simp only [hstretch, Option.some.injEq, Prod.mk.injEq] at hsame
    exact hsame.2.1.symm
  have hstart : market.sqrtStartPrice ≤ price :=
      (stretchAt_le hmarket.increasing hstretch).1.trans hfirst
  have hsegments : market.boundaries.length - 1 = market.liquidities.length := by
    simp [boundaries, liquidities]
  have hsome : ((List.range market.liquidities.length).find? fun i =>
      decide (price ≤ market.boundaries.getD (i + 1) 0)).isSome := by
    rw [List.find?_isSome]
    exact ⟨index, mem_range.mpr hlength, decide_eq_true (hlast.trans_eq hend.symm)⟩
  obtain ⟨found, hfound⟩ := Option.isSome_iff_exists.mp hsome
  have hindex : currentSegmentIndex market.boundaries price = found := by
    simp only [currentSegmentIndex, hsegments, hfound]
    rw [if_neg (by omega)]
    rfl
  rw [hindex]
  obtain ⟨hwithin, before, after, hrange, hbefore⟩ := List.find?_eq_some_iff_append.mp hfound
  have hlen : found < market.liquidities.length :=
    mem_range.mp (by simp [hrange])
  have hposition : before.length = found := by
    have hget : (List.range market.liquidities.length)[before.length]? = some found := by
      rw [hrange]
      simp
    rw [List.getElem?_eq_some_iff] at hget
    obtain ⟨_, hget⟩ := hget
    simpa using hget
  refine ⟨hlen, ?_, by simpa using hwithin⟩
  cases found with
  | zero => simpa [boundaries] using hstart
  | succ found =>
    have hmem : found ∈ before := by
      have hget : (List.range market.liquidities.length)[found]? = some found := by
        rw [List.getElem?_range]
        omega
      rw [hrange, List.getElem?_append_left (by omega)] at hget
      exact mem_of_getElem? hget
    have hpast := hbefore found hmem
    simp only [Bool.not_eq_true', decide_eq_false_iff_not, not_le] at hpast
    exact hpast.le

lemma turns_of_walk (hmarket : market.WellFormed) (hprice : market.OnCurve market.sqrtPrice)
    (h : market.walk zeroForOne amountIn = .ok (steps, out, ended)) :
    market.Turns zeroForOne market.sqrtPrice amountIn steps ended ∧ out ≤ (steps.map (·.out)).sum := by
  obtain ⟨hindex, hfirst, hlast⟩ := currentSegmentIndex_spec hmarket hprice
  obtain ⟨⟨taken, total, stopped⟩, hloop, h⟩ := bind_eq_ok.mp h
  obtain ⟨rfl, rfl, rfl⟩ : taken = steps ∧ min total u64Max = out ∧ stopped = ended := by
    simpa using h
  have hwithin : market.Within zeroForOne (market.ahead zeroForOne) market.sqrtPrice := by
    intro n hn
    cases zeroForOne with
    | true =>
      simp only [ahead, if_true, Nat.add_right_cancel_iff] at hn
      subst hn
      exact ⟨by simp, hfirst, hlast⟩
    | false =>
      simp only [ahead, Bool.false_eq_true, if_false] at hn
      have hback : market.indexAhead false n =
          currentSegmentIndex market.boundaries market.sqrtPrice := by
        simp only [indexAhead, Bool.false_eq_true, if_false]
        omega
      rw [hback]
      refine ⟨fun _ => ?_, hfirst, hlast⟩
      simp only [ahead, Bool.false_eq_true, if_false]
      omega
  obtain ⟨hturns, hsum⟩ := turns_of_walkLoop hmarket hwithin hloop
  refine ⟨hturns, ?_⟩
  rw [Nat.zero_add] at hsum
  exact hsum ▸ min_le_left _ _

/-! ## What a walk takes, and where it goes -/

/-- The steps lead from a price to a price, each in the direction of the trade. -/
def Leads (zeroForOne : Bool) : ℕ → List Step → ℕ → Prop
  | price, [], ended => price = ended
  | price, step :: steps, ended =>
    step.sqrtFrom = price ∧ (if zeroForOne then step.sqrtTo ≤ price else price ≤ step.sqrtTo) ∧
      Leads zeroForOne step.sqrtTo steps ended

/-- A walk that has taken all that was put in, moved the price one way only, and stayed on the
curve. -/
structure Travelled (market : DbcMarket) (zeroForOne : Bool) (price amountIn : ℕ) (steps : List Step)
    (ended : ℕ) : Prop where
  consumed : (steps.map (·.taken)).sum = amountIn
  leads : Leads zeroForOne price steps ended
  onCurve : market.OnCurve ended ∧ ∀ step ∈ steps, market.OnCurve step.sqrtTo

lemma turn_leads (hmarket : market.WellFormed) (hsegment : market.Segment first last liquidity)
    (hfirst : first ≤ price) (hlast : price ≤ last) (hliquidity : 0 < liquidity)
    (hturn : turn zeroForOne liquidity (if zeroForOne then first else last) price remaining =
      .ok step) :
    step.sqrtFrom = price ∧ (if zeroForOne then step.sqrtTo ≤ price else price ≤ step.sqrtTo) ∧
      market.OnCurve step.sqrtTo ∧ step.taken ≤ remaining ∧
      (step.crossed = false → step.taken = remaining) := by
  obtain ⟨_, hword, hword'⟩ := word_of_segment hmarket hsegment
  cases zeroForOne with
  | true =>
    obtain ⟨hfrom, hdown, hstays, htaken, _, hrest, _⟩ :=
      turn_falling hliquidity (hlast.trans_lt hword) hfirst hturn
    exact ⟨hfrom, hdown, ⟨first, last, liquidity, hsegment, hstays, hdown.trans hlast⟩, htaken, hrest⟩
  | false =>
    obtain ⟨hfrom, hup, hstays, htaken, _, hrest, _⟩ := turn_rising hword' hword hlast hturn
    exact ⟨hfrom, hup, ⟨first, last, liquidity, hsegment, hfirst.trans hup, hstays⟩, htaken, hrest⟩

lemma travelled_of_turns (hmarket : market.WellFormed) (hprice : market.OnCurve price)
    (h : market.Turns zeroForOne price remaining steps ended) :
    market.Travelled zeroForOne price remaining steps ended := by
  induction h with
  | done price => exact ⟨rfl, rfl, hprice, by simp⟩
  | cross hsegment hfirst hlast hliquidity hturn hcrossed _ ih =>
    obtain ⟨hfrom, htoward, hto, htaken, _⟩ :=
        turn_leads hmarket hsegment hfirst hlast hliquidity hturn
    obtain ⟨hconsumed, hleads, hended, hsteps⟩ := ih hto
    refine ⟨?_, ⟨hfrom, htoward, hleads⟩, hended, ?_⟩
    · simp only [map_cons, sum_cons, hconsumed]
      omega
    · intro step hstep
      rcases mem_cons.mp hstep with rfl | hstep
      · exact hto
      · exact hsteps step hstep
  | stop hsegment hfirst hlast hliquidity hturn hstopped =>
    obtain ⟨hfrom, htoward, hto, _, hrest⟩ :=
        turn_leads hmarket hsegment hfirst hlast hliquidity hturn
    exact ⟨by simpa using hrest hstopped, ⟨hfrom, htoward, rfl⟩, hto, by simpa using hto⟩

lemma turns_of_price {current : ℕ}
    (h : { market with sqrtPrice := current }.Turns zeroForOne price remaining steps ended) :
    market.Turns zeroForOne price remaining steps ended := by
  induction h with
  | done price => exact .done price
  | cross hsegment hfirst hlast hliquidity hturn hcrossed _ ih =>
    exact .cross hsegment hfirst hlast hliquidity hturn hcrossed ih
  | stop hsegment hfirst hlast hliquidity hturn hstopped =>
    exact .stop hsegment hfirst hlast hliquidity hturn hstopped

/-! ## What the curve holds -/

/-- The quote token that the curve holds between its start and a price. -/
def quoteBelow (market : DbcMarket) (price : ℕ) : ℚ :=
  gathered (fun p : ℕ => (p : ℚ) / 2 ^ 128) market.sqrtStartPrice market.stops price

/-- The base token that the curve gives between its start and a price. -/
def baseBelow (market : DbcMarket) (price : ℕ) : ℚ :=
  gathered (fun p : ℕ => -(1 / ((max p 1 : ℕ) : ℚ))) market.sqrtStartPrice market.stops price

variable {near far : ℕ}

lemma quoteBelow_move (hmarket : market.WellFormed) (hsegment : market.Segment first last liquidity)
    (hfirst : first ≤ near) (h : near ≤ far) (hlast : far ≤ last) :
    (market.quoteBelow far - market.quoteBelow near) * 2 ^ 128 = liquidity *
    ((far - near : ℕ) : ℚ) := by
  obtain ⟨index, hstretch⟩ := hsegment
  rw [quoteBelow, quoteBelow, gathered_move _ hmarket.increasing hstretch hfirst h hlast,
    Nat.cast_sub h]
  field_simp

lemma baseBelow_move (hmarket : market.WellFormed) (hsegment : market.Segment first last liquidity)
    (hfirst : first ≤ near) (h : near ≤ far) (hlast : far ≤ last) (hpos : 0 < near) :
    (market.baseBelow far - market.baseBelow near) * (far * near) = liquidity *
    ((far - near : ℕ) : ℚ) := by
  obtain ⟨index, hstretch⟩ := hsegment
  have hnear : max near 1 = near := by omega
  have hfar : max far 1 = far := by omega
  have hnear' : (near : ℚ) ≠ 0 := by exact_mod_cast hpos.ne'
  have hfar' : (far : ℚ) ≠ 0 := by exact_mod_cast (hpos.trans_le h).ne'
  rw [baseBelow, baseBelow, gathered_move _ hmarket.increasing hstretch hfirst h hlast, Nat.cast_sub h,
    hnear, hfar]
  field_simp
  ring

lemma quoteBelow_mono (h : near ≤ far) : market.quoteBelow near ≤ market.quoteBelow far := by
  refine gathered_mono ?_ ?_ h
  · intro p q hpq
    have : (p : ℚ) ≤ q := by exact_mod_cast hpq
    simp only
    gcongr
  · intro stop hstop
    obtain ⟨point, _, rfl⟩ := mem_map.mp hstop
    simp

section

variable (hmarket : market.WellFormed)
include hmarket

lemma turn_rising_holds (hsegment : market.Segment first last liquidity) (hfirst : first ≤ price)
    (hlast : price ≤ last) (hturn : turn false liquidity last price remaining = .ok step) :
    market.quoteBelow step.sqrtTo - market.quoteBelow price ≤ step.taken ∧
      (0 < price → (step.out : ℚ) ≤ market.baseBelow step.sqrtTo - market.baseBelow price) := by
  obtain ⟨_, hword, hword'⟩ := word_of_segment hmarket hsegment
  obtain ⟨_, hup, hstays, _, _, _, hcovers, hgives⟩ := turn_rising hword' hword hlast hturn
  constructor
  · have hmove := quoteBelow_move hmarket hsegment hfirst hup hstays
    have hcovers' : (liquidity : ℚ) * ((step.sqrtTo - price : ℕ) : ℚ) ≤ step.taken * 2 ^ 128 := by
      exact_mod_cast hcovers
    rw [← hmove] at hcovers'
    exact le_of_mul_le_mul_right hcovers' (by positivity)
  · intro hpos
    have hmove := baseBelow_move hmarket hsegment hfirst hup hstays hpos
    have hgives' : (step.out : ℚ) * (step.sqrtTo * price) ≤
        liquidity * ((step.sqrtTo - price : ℕ) : ℚ) := by
      exact_mod_cast hgives hpos
    rw [← hmove] at hgives'
    have hprice : (0 : ℚ) < price := by exact_mod_cast hpos
    have hto : (0 : ℚ) < step.sqrtTo := by exact_mod_cast hpos.trans_le hup
    exact le_of_mul_le_mul_right hgives' (mul_pos hto hprice)

/-- **A turn down** takes out no more than the curve held, has paid for a segment that it crosses,
and does not pass a price down to which the curve takes back all that is left. -/
lemma turn_falling_holds (hsegment : market.Segment first last liquidity) (hfirst : first ≤ price)
    (hlast : price ≤ last) (hliquidity : 0 < liquidity)
    (hturn : turn true liquidity first price remaining = .ok step) :
    (step.out : ℚ) ≤ market.quoteBelow price - market.quoteBelow step.sqrtTo ∧
      (step.crossed = true → 0 < first →
        market.baseBelow price - market.baseBelow first ≤ step.taken) ∧
      (∀ floor, 0 < floor → first ≤ floor → floor ≤ price →
        (remaining : ℚ) ≤ market.baseBelow price - market.baseBelow floor → floor ≤ step.sqrtTo) := by
  obtain ⟨_, hword, _⟩ := word_of_segment hmarket hsegment
  obtain ⟨_, hdown, hstays, _, _, _, hgives, hpaid, _, hkeeps⟩ :=
    turn_falling hliquidity (hlast.trans_lt hword) hfirst hturn
  refine ⟨?_, ?_, ?_⟩
  · have hmove := quoteBelow_move hmarket hsegment hstays hdown hlast
    have hgives' : (step.out : ℚ) * 2 ^ 128 ≤ liquidity * ((price - step.sqrtTo : ℕ) : ℚ) := by
      exact_mod_cast hgives
    rw [← hmove] at hgives'
    exact le_of_mul_le_mul_right hgives' (by positivity)
  · intro hcrossed hpos
    have hmove := baseBelow_move hmarket hsegment le_rfl hfirst hlast hpos
    have hpaid' : (liquidity : ℚ) * ((price - first : ℕ) : ℚ) ≤ step.taken * (first * price) := by
      exact_mod_cast hpaid hcrossed hpos
    rw [← hmove, mul_comm (first : ℚ)] at hpaid'
    have hfirst' : (0 : ℚ) < first := by exact_mod_cast hpos
    have hprice : (0 : ℚ) < price := by exact_mod_cast hpos.trans_le hfirst
    exact le_of_mul_le_mul_right hpaid' (mul_pos hprice hfirst')
  · intro floor hpos hwithin hbelow hholds
    have hmove := baseBelow_move hmarket hsegment hwithin hbelow hlast hpos
    have hscaled : (remaining : ℚ) * (price * floor) ≤ liquidity * ((price - floor : ℕ) : ℚ) := by
      rw [← hmove]
      exact mul_le_mul_of_nonneg_right hholds (by positivity)
    have hscaled' : remaining * (price * floor) ≤ liquidity * (price - floor) := by
      exact_mod_cast hscaled
    refine hkeeps floor hpos hwithin hbelow ?_
    have hspread : liquidity * (price - floor) + liquidity * floor = liquidity * price := by
      rw [← Nat.mul_add]
      congr 1
      omega
    rw [Nat.mul_comm floor price]
    omega

lemma buy_holds (h : market.Turns false price remaining steps ended) :
    price ≤ ended ∧ market.quoteBelow ended - market.quoteBelow price ≤ remaining ∧
      (0 < price → (((steps.map (·.out)).sum : ℕ) : ℚ) ≤
        market.baseBelow ended - market.baseBelow price) := by
  induction h with
  | done price => simp
  | @cross price remaining first last liquidity step steps ended hsegment hfirst hlast hliquidity
    hturn _ _ ih =>
      obtain ⟨_, hup, _, htaken, _⟩ := turn_leads hmarket hsegment hfirst hlast hliquidity hturn
      obtain ⟨hputs, hgives⟩ := turn_rising_holds hmarket hsegment hfirst hlast hturn
      obtain ⟨hrest, hrestPuts, hrestGives⟩ := ih
      have hup : price ≤ step.sqrtTo := hup
      rw [Nat.cast_sub htaken] at hrestPuts
      refine ⟨hup.trans hrest, by linarith, fun hpos => ?_⟩
      have hsum := add_le_add (hgives hpos) (hrestGives (hpos.trans_le hup))
      simp only [map_cons, sum_cons, Nat.cast_add]
      linarith
  | stop hsegment hfirst hlast hliquidity hturn hstopped =>
    obtain ⟨_, hup, _, _, hrest⟩ := turn_leads hmarket hsegment hfirst hlast hliquidity hturn
    obtain ⟨hputs, hgives⟩ := turn_rising_holds hmarket hsegment hfirst hlast hturn
    rw [hrest hstopped] at hputs
    exact ⟨hup, hputs, fun hpos => by simpa using hgives hpos⟩

lemma sell_holds (h : market.Turns true price remaining steps ended) :
    (((steps.map (·.out)).sum : ℕ) : ℚ) ≤ market.quoteBelow price - market.quoteBelow ended := by
  induction h with
  | done price => simp
  | cross hsegment hfirst hlast hliquidity hturn _ _ ih =>
    have hgives := (turn_falling_holds hmarket hsegment hfirst hlast hliquidity hturn).1
    simp only [map_cons, sum_cons, Nat.cast_add]
    linarith
  | stop hsegment hfirst hlast hliquidity hturn _ =>
    simpa using (turn_falling_holds hmarket hsegment hfirst hlast hliquidity hturn).1

lemma sell_stays {floor : ℕ} (h : market.Turns true price remaining steps ended) (hpos : 0 < floor)
    (hfloor : floor ≤ price)
    (hholds : (remaining : ℚ) ≤ market.baseBelow price - market.baseBelow floor) :
    floor ≤ ended := by
  induction h with
  | done price => exact hfloor
  | @cross price remaining first last liquidity step _ _ hsegment hfirst hlast hliquidity hturn
    hcrossed _ ih =>
      obtain ⟨_, _, _, htaken, _⟩ := turn_leads hmarket hsegment hfirst hlast hliquidity hturn
      obtain ⟨_, hpaid, hkeeps⟩ := turn_falling_holds hmarket hsegment hfirst hlast hliquidity hturn
      have hto : step.sqrtTo = first := turn_crossed hturn hcrossed
      -- either the floor is the end of this segment, or it lies in one further down
      have hbelow : floor ≤ first := by
        rcases le_total first floor with hwithin | hbelow
        · exact (hkeeps floor hpos hwithin hfloor hholds).trans_eq hto
        · exact hbelow
      have hcharged := hpaid hcrossed (hpos.trans_le hbelow)
      rw [hto, Nat.cast_sub htaken] at ih
      exact ih hbelow (by linarith)
  | @stop price remaining first last liquidity step hsegment hfirst hlast hliquidity hturn _ =>
    obtain ⟨_, _, hkeeps⟩ := turn_falling_holds hmarket hsegment hfirst hlast hliquidity hturn
    have hstays : first ≤ step.sqrtTo := by
      obtain ⟨_, hword, _⟩ := word_of_segment hmarket hsegment
      exact (turn_falling hliquidity (hlast.trans_lt hword) hfirst hturn).2.2.1
    rcases le_total first floor with hwithin | hbelow
    · exact hkeeps floor hpos hwithin hfloor hholds
    · exact hbelow.trans hstays

lemma sold_le_spent {spent turned sold : ℕ} {bought back : List Step}
    (hbuy : market.Turns false price spent bought turned)
    (hsell : market.Turns true turned sold back ended) (hsold : sold ≤ (bought.map (·.out)).sum) :
    (back.map (·.out)).sum ≤ spent := by
  obtain ⟨hup, hputs, hgives⟩ := buy_holds hmarket hbuy
  have hreturned := sell_holds hmarket hsell
  have hstays : price ≤ ended := by
    rcases Nat.eq_zero_or_pos price with rfl | hpos
    · exact Nat.zero_le _
    · have hsold' : (sold : ℚ) ≤ (((bought.map (·.out)).sum : ℕ) : ℚ) := by exact_mod_cast hsold
      exact sell_stays hmarket hsell hpos hup (hsold'.trans (hgives hpos))
  have hmono : market.quoteBelow price ≤ market.quoteBelow ended := quoteBelow_mono hstays
  have hle : (((back.map (·.out)).sum : ℕ) : ℚ) ≤ spent := by linarith
  exact_mod_cast hle

end

/-- **The walk over the curve.** From a price on a curve whose prices rise, a walk that succeeds has
taken exactly what was put in, and has moved the price only in the direction of the trade and never
off the curve; and tokens that were bought are sold, at the price at which the buy has ended, for no
more than was spent. -/
theorem walk_conserves (market : DbcMarket) (hmarket : market.WellFormed)
    (hprice : market.OnCurve market.sqrtPrice) :
    (∀ {zeroForOne : Bool} {amountIn out ended : ℕ} {steps : List Step},
      market.walk zeroForOne amountIn = .ok (steps, out, ended) →
        market.Travelled zeroForOne market.sqrtPrice amountIn steps ended) ∧
      ∀ {spent tokens turned returned ended : ℕ} {bought back : List Step},
        market.walk false spent = .ok (bought, tokens, turned) →
        { market with sqrtPrice := turned }.walk true tokens = .ok (back, returned, ended) →
          returned ≤ spent := by
  constructor
  · intro zeroForOne amountIn out ended steps h
    exact travelled_of_turns hmarket hprice (turns_of_walk hmarket hprice h).1
  · intro spent tokens turned returned ended bought back hbuy hsell
    obtain ⟨hbought, htokens⟩ := turns_of_walk hmarket hprice hbuy
    have hturned : market.OnCurve turned := (travelled_of_turns hmarket hprice hbought).onCurve.1
    have hmarket' : { market with sqrtPrice := turned }.WellFormed :=
      ⟨hmarket.increasing, hmarket.start, hmarket.points⟩
    obtain ⟨hback, hreturned⟩ := turns_of_walk hmarket' hturned hsell
    have hback' : market.Turns true turned tokens back ended := turns_of_price hback
    exact hreturned.trans (sold_le_spent hmarket hbought hback' htokens)

/-- A curve of two segments, at its start. -/
def twoSegments : DbcMarket :=
  ⟨"dbc", 2 ^ 64, 2 ^ 64, [⟨2 ^ 65, 2 ^ 80⟩, ⟨2 ^ 66, 2 ^ 81⟩]⟩

/-- A buy that crosses the first segment, and the sell of what it bought, back across it. -/
theorem walk_conserves_two :
    (∃ steps ended, twoSegments.walk false 100000 = .ok (steps, 40382, ended) ∧ steps.length = 2 ∧
      twoSegments.Travelled false (2 ^ 64) 100000 steps ended) ∧
    ∃ back returned ended, { twoSegments with sqrtPrice := 41743864946097127424 }.walk true 40382 =
      .ok (back, returned, ended) ∧ back.length = 2 ∧ 0 < returned ∧ returned ≤ 100000 := by
  have hmarket : twoSegments.WellFormed := by
    refine ⟨?_, by unfold Word; decide, by unfold Word; decide⟩
    simp [twoSegments, stops, Ordered]
  have hprice : twoSegments.OnCurve twoSegments.sqrtPrice :=
    ⟨2 ^ 64, 2 ^ 65, 2 ^ 80, ⟨0, by simp [twoSegments, stops, stretchAt]⟩, le_rfl, by decide⟩
  obtain ⟨htravels, hreturns⟩ := walk_conserves twoSegments hmarket hprice
  have hbuy : twoSegments.walk false 100000 = .ok
      ([⟨2 ^ 64, 2 ^ 65, 65536, 32768, true⟩, ⟨2 ^ 65, 41743864946097127424, 34464, 7614, false⟩],
        40382,
        41743864946097127424) := by
    decide +kernel
  refine ⟨⟨_, _, hbuy, rfl, htravels hbuy⟩, ?_⟩
  have hsell : ∃ back returned ended,
      { twoSegments with sqrtPrice := 41743864946097127424 }.walk true 40382 =
        .ok (back, returned, ended) ∧
        back.length = 2 ∧ 0 < returned :=
    ⟨_, _, _, rfl, by decide +kernel, by decide +kernel⟩
  obtain ⟨back, returned, ended, hback, hlength, hpos⟩ := hsell
  exact ⟨back, returned, ended, hback, hlength, hpos, hreturns hbuy hback⟩

end DbcMarket

end Dripline.Venues.MeteoraDbc

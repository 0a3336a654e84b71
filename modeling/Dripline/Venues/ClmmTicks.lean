import Dripline.Swaps.Error
import Dripline.Venues.Math

/-!
# The walk over ticks

`direct/venues/clmm_ticks.rs`. A concentrated-liquidity swap goes from one initialised tick to the
next; prices are square roots in Q64.64.

* `getSqrtPriceAtTick` — the price of a tick, a chain of products.
* `outputForMove`, `inputForMove`, `nextSqrtPriceFromInput`, `crossTick` — one stretch of constant
  liquidity.
* `checkedShl64` — the shift of the code: it refuses no value, it loses the upper bits.
* `walkLoop`, `walkTicks` — the loop, with what each of its turns has done, and the swap.

A source without a file is in `clmm_ticks.rs`, where a definition without a comment is the one
of its name.
-/

namespace Dripline.Venues

open Dripline.Swaps (DirectSwapError Pubkey)

/-- The largest value of 64 bits. -/
def u64Max : ℕ := 2 ^ 64 - 1

/-! ## Prices -/

def minTick : ℤ := -443636

def maxTick : ℤ := 443636

/-- The factors of the bits of a tick but the lowest. Source: `get_sqrt_price_at_tick`, `MAGIC` -/
def magic : List (ℕ × ℕ) :=
  [(0x2, 0xfff97272373d4000), (0x4, 0xfff2e50f5f657000), (0x8, 0xffe5caca7e10f000),
    (0x10, 0xffcb9843d60f7000), (0x20, 0xff973b41fa98e800), (0x40, 0xff2ea16466c9b000),
    (0x80, 0xfe5dee046a9a3800), (0x100, 0xfcbe86c7900bb000), (0x200, 0xf987a7253ac65800),
    (0x400, 0xf3392b0822bb6000), (0x800, 0xe7159475a2caf000), (0x1000, 0xd097f3bdfd2f2000),
    (0x2000, 0xa9f746462d9f8000), (0x4000, 0x70d869a156f31c00), (0x8000, 0x31be135f97ed3200),
    (0x10000, 0x9aa508b5b85a500), (0x20000, 0x5d6af8dedc582c), (0x40000, 0x2216e584f5fa)]

/-- The factor of the lowest bit. -/
def magicLowest : ℕ := 0xfffcb933bd6fb800

/-- One factor, where its bit is set. Source: `get_sqrt_price_at_tick` -/
def scaleRatio (absTick ratio : ℕ) (factor : ℕ × ℕ) : Option ℕ :=
  if absTick &&& factor.1 ≠ 0 then
    if ratio * factor.2 < 2 ^ 128 then some (ratio * factor.2 / 2 ^ 64) else none
  else some ratio

def getSqrtPriceAtTick (tick : ℤ) : Option ℕ :=
  if tick < minTick ∨ maxTick < tick then none
  else
    match magic.foldlM (scaleRatio tick.natAbs)
        (if tick.natAbs &&& 0x1 ≠ 0 then magicLowest else 2 ^ 64) with
    | none => none
    | some ratio =>
      if 0 < tick then if ratio = 0 then none else some ((2 ^ 128 - 1) / ratio) else some ratio

structure InitializedTick where
  tick : ℤ
  liquidityNet : ℤ
  deriving DecidableEq

/-- Source: `clmm_ticks.rs` -/
def ticksAhead (ticks : List InitializedTick) (tickCurrent : ℤ) (zeroForOne : Bool) :
    List InitializedTick :=
  if zeroForOne then ticks.reverse.filter fun tick => decide (tick.tick ≤ tickCurrent)
  else ticks.filter fun tick => decide (tickCurrent < tick.tick)

/-! ## One stretch -/

/-- Shifted up by 64 bits: only a shift by the whole width would be refused. Source: Rust's
`u128::checked_shl` -/
def checkedShl64 (value : ℕ) : Option ℕ := some (value * 2 ^ 64 % 2 ^ 128)

/-- A result that the arithmetic may refuse. -/
def orQuoteMath {α : Type} (detail : String) : Option α → Except DirectSwapError α
  | some value => .ok value
  | none => .error (.quoteMath detail)

def outputForMove (zeroForOne : Bool) (liquidity sqrtFrom sqrtTo : ℕ) : Except DirectSwapError ℕ := do
  let overflow := "the concentrated-liquidity output overflowed 256 bits"
  let out ←
    if zeroForOne then orQuoteMath overflow (mulDivFloor liquidity (sqrtFrom - sqrtTo) (2 ^ 64))
    else do
      let numerator ← orQuoteMath "liquidity is too large to scale to Q64.64" (checkedShl64 liquidity)
      let intermediate ← orQuoteMath overflow (mulDivFloor numerator (sqrtTo - sqrtFrom) sqrtTo)
      .ok (intermediate / max sqrtFrom 1)
  .ok (min out u64Max)

def nextSqrtPriceFromInput (zeroForOne : Bool) (liquidity sqrtPrice amountIn : ℕ) :
    Except DirectSwapError ℕ :=
  let overflow := "the concentrated-liquidity step overflowed 256 bits"
  if zeroForOne then do
    let numerator ← orQuoteMath "liquidity is too large to scale to Q64.64" (checkedShl64 liquidity)
    if amountIn * sqrtPrice < 2 ^ 128 ∧ numerator + amountIn * sqrtPrice < 2 ^ 128 then
      orQuoteMath overflow (mulDivCeil numerator sqrtPrice (numerator + amountIn * sqrtPrice))
    else .error (.quoteMath overflow)
  else do
    let delta ← orQuoteMath overflow (mulDivFloor amountIn (2 ^ 64) liquidity)
    if sqrtPrice + delta < 2 ^ 128 then .ok (sqrtPrice + delta) else .error (.quoteMath overflow)

def inputForMove (zeroForOne : Bool) (liquidity sqrtFrom sqrtTo : ℕ) : Except DirectSwapError ℕ :=
  let overflow := "the concentrated-liquidity input overflowed 256 bits"
  if zeroForOne then
    if sqrtFrom ≤ sqrtTo then .ok 0
    else do
      let numerator ← orQuoteMath "liquidity is too large to scale to Q64.64" (checkedShl64 liquidity)
      let step ← orQuoteMath overflow (mulDivCeil numerator (sqrtFrom - sqrtTo) sqrtFrom)
      .ok (ceilDiv step (max sqrtTo 1))
  else if sqrtTo ≤ sqrtFrom then .ok 0
  else orQuoteMath overflow (mulDivCeil liquidity (sqrtTo - sqrtFrom) (2 ^ 64))

/-- The negative of a value of 128 bits with a sign: the least one has none, and stays. -/
def wrappingNeg (value : ℤ) : ℤ := if value = -2 ^ 127 then value else -value

/-- The liquidity of the other side of a tick. -/
def crossTick (pool : Pubkey) (liquidity : ℕ) (tick : InitializedTick) (zeroForOne : Bool) :
    Except DirectSwapError ℕ :=
  let delta := if zeroForOne then wrappingNeg tick.liquidityNet else tick.liquidityNet
  if 0 ≤ liquidity + delta ∧ liquidity + delta < 2 ^ 128 then .ok (liquidity + delta).toNat
  else
    .error (.insufficientLiquidity pool 0 ("crossing tick " ++ toString tick.tick ++
      " would take pool liquidity negative -- the loaded tick data is inconsistent with the pool's own" ++
      " reported liquidity"))

/-! ## The walk -/

/-- Source: `walk_ticks` -/
structure WalkState where
  liquidity : ℕ
  sqrtPrice : ℕ
  remaining : ℕ
  totalOut : ℕ
  totalFee : ℕ
  deriving DecidableEq

/-- One turn of the loop: what it has taken in net of the fee, and whether it has crossed the tick
that it has gone towards. -/
structure Step where
  tick : InitializedTick
  target : ℕ
  liquidity : ℕ
  net : ℕ
  crossed : Bool
  deriving DecidableEq

variable (pool : Pubkey) (feeRate feeRateDenominator : ℕ) (zeroForOne : Bool) (amountIn : ℕ)

/-- What an amount comes to with its fee on top. Source: `walk_ticks`, `gross_needed` -/
def grossUp (amountToTarget : ℕ) : Except DirectSwapError ℕ :=
  if amountToTarget = 0 then .ok 0
  else
    orQuoteMath "the per-step fee grossing-up overflowed 256 bits"
      (mulDivCeil amountToTarget feeRateDenominator (feeRateDenominator - feeRate))

/-- The turns of the loop, and how they end. Source: `walk_ticks` -/
def walkLoop : List InitializedTick → WalkState → Except DirectSwapError (List Step × WalkState)
  | candidates, state =>
    if state.remaining = 0 then .ok ([], state)
    else if state.liquidity = 0 ∨ state.sqrtPrice = 0 then
      .error (.insufficientLiquidity pool amountIn "liquidity was exhausted mid-walk")
    else
      match candidates with
      | [] =>
        .error (.insufficientLiquidity pool amountIn
          "the size travels further than the loaded tick arrays cover")
      | nextTick :: candidates => do
        let target ← orQuoteMath ("tick " ++ toString nextTick.tick ++
          " lies outside the programme's own range") (getSqrtPriceAtTick nextTick.tick)
        let amountToTarget ← inputForMove zeroForOne state.liquidity state.sqrtPrice target
        let grossNeeded ← grossUp feeRate feeRateDenominator amountToTarget
        if grossNeeded ≤ state.remaining then do
          let out ← outputForMove zeroForOne state.liquidity state.sqrtPrice target
          let liquidity ← crossTick pool state.liquidity nextTick zeroForOne
          let ended ← walkLoop candidates
            { liquidity := liquidity
              sqrtPrice := target
              remaining := state.remaining - grossNeeded
              totalOut := state.totalOut + out
              totalFee := state.totalFee + min (grossNeeded - amountToTarget) u64Max }
          .ok (⟨nextTick, target, state.liquidity, amountToTarget, true⟩ :: ended.1, ended.2)
        else do
          let swappable ← orQuoteMath "the per-step net-of-fee amount overflowed 256 bits"
            (mulDivFloor state.remaining (feeRateDenominator - feeRate) feeRateDenominator)
          let fee := state.remaining - swappable
          let step : Step := ⟨nextTick, target, state.liquidity, swappable, false⟩
          if swappable = 0 then .ok ([step], { state with totalFee := state.totalFee + fee })
          else do
            let sqrtNext ←
              nextSqrtPriceFromInput zeroForOne state.liquidity state.sqrtPrice swappable
            let out ← outputForMove zeroForOne state.liquidity state.sqrtPrice sqrtNext
            .ok ([step],
              { state with
                sqrtPrice := sqrtNext
                remaining := 0
                totalOut := state.totalOut + out
                totalFee := state.totalFee + fee })

/-- Source: `walk_ticks` -/
def walk (candidates : List InitializedTick) (liquidity sqrtPrice : ℕ) :
    Except DirectSwapError (List Step × WalkState) :=
  if feeRateDenominator ≤ feeRate then
    .error (.quoteMath "the trade fee rate is not below its own denominator")
  else
    walkLoop pool feeRate feeRateDenominator zeroForOne amountIn candidates
      ⟨liquidity, sqrtPrice, amountIn, 0, 0⟩

/-- The output, the fee and the price at which a swap ends. -/
def walkTicks (candidates : List InitializedTick) (liquidity sqrtPrice : ℕ) :
    Except DirectSwapError (ℕ × ℕ × ℕ) := do
  let (_, state) ← walk pool feeRate feeRateDenominator zeroForOne amountIn candidates liquidity
      sqrtPrice
  .ok (min state.totalOut u64Max, min state.totalFee u64Max, state.sqrtPrice)

end Dripline.Venues

import Dripline.Found.Outcome
import Dripline.Strategies.Types

/-!
# The conditions

`strategies/conditions`. A condition checks its own parameters, and answers from the context.

* `refuse` — a check that names the field it refuses; every parameter check is one.
* `getCandlesForTimeframe`, `getCurrentPrice`, `usableBasis` — readings that are refused rather than
  misread.
* `compareLevel`, `compareChange` — the comparisons that several conditions share.
* `ConditionKind` — the eight conditions of the registry, each with `evaluate` and `validate`.

A source without a file is in `conditions/mod.rs` or the file of its section, where a definition
without a comment is the one of its name.
-/

namespace Dripline.Strategies

open Dripline.Ohlcv (Candle Timeframe)

/-! ## Checks -/

/-- A value outside what a field accepts. -/
def refuse (refused : Prop) [Decidable refused] (field : String) (value : Shown) : Except Error Unit :=
  if refused then .error (.invalidConditionValue field value) else .ok ()

@[simp] lemma refuse_eq_ok {refused : Prop} [Decidable refused] {field : String} {value : Shown}
    {u : Unit} : refuse refused field value = .ok u ↔ ¬refused := by
  simp [refuse]

/-! ## Parameters -/

variable (condition : Condition)

def getParamF64 (name : String) : Except Error ℚ :=
  match condition.parameters name with
  | none => .error (.missingConditionParameter name)
  | some parameter =>
    match parameter.value with
    | .number value => .ok value
    | _ => .error (.conditionParameterType name "a number")

def getParamString (name : String) : Except Error String :=
  match condition.parameters name with
  | none => .error (.missingConditionParameter name)
  | some parameter =>
    match parameter.value with
    | .string value => .ok value
    | _ => .error (.conditionParameterType name "a string")

def getParamStringOptional (name : String) : Option String :=
  match condition.parameters name with
  | none => none
  | some parameter =>
    match parameter.value with
    | .string value => some value
    | _ => none

def validateTimeframeParam : Except Error Unit :=
  match getParamStringOptional condition "timeframe" with
  | none => .ok ()
  | some timeframe =>
    refuse (timeframe ∉ ["1m", "5m", "15m", "1h", "4h", "12h", "1d"]) "timeframe" (.text timeframe)

/-! ## Readings -/

/-- How many buckets behind the evaluation a series may fall. Source:
`MAX_SERIES_STALENESS_BUCKETS` -/
def maxSeriesStalenessBuckets : ℤ := 3

/-- The newest time of a series, of an empty one the epoch. -/
def newestTimestamp (candles : List Candle) : ℤ := (candles.map Candle.timestamp).max?.getD 0

def getCandlesForTimeframe (context : EvaluationContext) (conditionTimeframe : Option String) :
    Except Error (List Candle) :=
  match context.timeframeBundle with
  | none => .error (.missingContextData "OHLCV data")
  | some bundle =>
    let timeframe := conditionTimeframe.getD context.strategyTimeframe
    match timeframeFromStr timeframe with
    | none => .error (.invalidConditionValue "timeframe" (.text timeframe))
    | some known =>
      match bundle.getTimeframe timeframe with
      | none => .error (.noCandleData timeframe)
      | some candles =>
        if candles.isEmpty then .error (.noCandleData timeframe)
        else
          let ageSeconds := context.evaluatedAt - newestTimestamp candles
          let maxAgeSeconds := known.toSeconds * maxSeriesStalenessBuckets
          if maxAgeSeconds < ageSeconds then
            .error (.staleCandleData timeframe ageSeconds maxAgeSeconds)
          else .ok candles

/-- A value that may stand under a percentage: a number above zero. -/
def usableBasis (label : String) (value : F64) : Except Error ℚ :=
  match value with
  | .finite number =>
    if number ≤ 0 then .error (.invalidConditionValue label (.number value)) else .ok number
  | _ => .error (.invalidConditionValue label (.number value))

def getCurrentPrice (context : EvaluationContext) : Except Error ℚ :=
  match context.currentPrice with
  | none => .error (.missingContextData "current price")
  | some price => usableBasis "current price" price

lemma usableBasis_finite {label : String} {number : ℚ} (h : 0 < number) :
    usableBasis label (.finite number) = .ok number := by
  simp [usableBasis, not_le.mpr h]

/-! ## Numbers of the code -/

/-- `as usize`: towards zero, within the type. -/
def asUsize (value : ℚ) : ℕ := min ⌊value⌋₊ (2 ^ 64 - 1)

/-- `as i64`: towards zero, within the type. -/
def asI64 (value : ℚ) : ℤ :=
  max (-2 ^ 63) (min (if 0 ≤ value then ⌊value⌋ else ⌈value⌉) (2 ^ 63 - 1))

/-! ## Shared comparisons -/

/-- A reading against a threshold. Source: `liquidity_level.rs`, `position_holding_time.rs`,
`evaluate` -/
def compareLevel (comparison : String) (reading : F64) (threshold : ℚ) : Except Error Bool :=
  match comparison with
  | "GREATER_THAN" => .ok (reading.gt threshold)
  | "LESS_THAN" => .ok (reading.lt threshold)
  | "GREATER_EQUAL" => .ok (reading.ge threshold)
  | "LESS_EQUAL" => .ok (reading.le threshold)
  | _ => .error (.invalidConditionValue "comparison" (.text comparison))

/-- A change in percent against a bound. Source: `price_change_percent.rs`, `price_to_ma.rs`,
`evaluate` -/
def compareChange (field direction : String) (change bound : ℚ) : Except Error Bool :=
  match direction with
  | "ABOVE" => .ok (decide (bound ≤ change))
  | "BELOW" => .ok (decide (change ≤ -bound))
  | "WITHIN" => .ok (decide (|change| ≤ bound))
  | _ => .error (.invalidConditionValue field (.text direction))

/-! ## Price change percent, `price_change_percent.rs` -/

namespace PriceChangePercent

/-- Source: `price_change_percent.rs`, `evaluate` -/
def lookbackSeconds (timeValue : ℚ) (timeUnit : String) : Except Error ℤ :=
  match timeUnit with
  | "SECONDS" => .ok (asI64 timeValue)
  | "MINUTES" => .ok (asI64 (timeValue * 60))
  | "HOURS" => .ok (asI64 (timeValue * 3600))
  | _ => .error (.invalidConditionValue "time unit" (.text timeUnit))

/-- The last of the newest candles. Source: Rust's `max_by_key` -/
def maxByTimestamp : List Candle → Option Candle :=
  List.foldl (fun best candle =>
    match best with
    | none => some candle
    | some best => if best.timestamp ≤ candle.timestamp then some candle else some best) none

/-- The newest candle at or before the lookback. Source: `price_change_percent.rs`, `evaluate` -/
def pastCandle (candles : List Candle) (lookbackTimestamp : ℤ) : Option Candle :=
  maxByTimestamp (candles.filter fun candle => decide (candle.timestamp ≤ lookbackTimestamp))

def evaluate (condition : Condition) (context : EvaluationContext) : Except Error Bool := do
  let percentage ← getParamF64 condition "percentage"
  let direction ← getParamString condition "direction"
  let timeValue ← getParamF64 condition "time_value"
  let timeUnit ← getParamString condition "time_unit"
  let timeframe := getParamStringOptional condition "timeframe"
  let currentPrice ← getCurrentPrice context
  let lookback ← lookbackSeconds timeValue timeUnit
  let candles ← getCandlesForTimeframe context timeframe
  let currentTimestamp := newestTimestamp candles
  match pastCandle candles (currentTimestamp - lookback) with
  | none =>
    let oldest := (candles.map Candle.timestamp).min?.getD currentTimestamp
    .error (.insufficientHistory "price change lookback" (max (currentTimestamp - oldest) 0)
      (max lookback 0))
  | some past => do
    let pastPrice ← usableBasis "reference candle close" (.finite past.close)
    compareChange "direction" direction ((currentPrice - pastPrice) / pastPrice * 100) percentage

def validate (condition : Condition) : Except Error Unit := do
  validateTimeframeParam condition
  let percentage ← getParamF64 condition "percentage"
  refuse (percentage < 1 / 10) "percentage" (.number (.finite percentage))
  refuse (percentage > 1000) "percentage" (.number (.finite percentage))
  let direction ← getParamString condition "direction"
  refuse (direction ∉ ["ABOVE", "BELOW", "WITHIN"]) "direction" (.text direction)
  let timeValue ← getParamF64 condition "time_value"
  refuse (timeValue < 1) "time value" (.number (.finite timeValue))
  let timeUnit ← getParamString condition "time_unit"
  refuse (timeUnit ∉ ["SECONDS", "MINUTES", "HOURS"]) "time unit" (.text timeUnit)
  match timeUnit with
  | "SECONDS" => refuse (timeValue > 3600) "time value" (.number (.finite timeValue))
  | "MINUTES" => refuse (timeValue > 1440) "time value" (.number (.finite timeValue))
  | "HOURS" => refuse (timeValue > 720) "time value" (.number (.finite timeValue))
  | _ => .ok ()

end PriceChangePercent

/-! ## Price to moving average, `price_to_ma.rs` -/

namespace PriceToMA

def evaluate (condition : Condition) (context : EvaluationContext) : Except Error Bool := do
  let period := asUsize (← getParamF64 condition "period")
  let position ← getParamString condition "position"
  let distance ← getParamF64 condition "distance"
  let timeframe := getParamStringOptional condition "timeframe"
  let candles ← getCandlesForTimeframe context timeframe
  if candles.length < period then
    .error (.insufficientCandles "moving average" candles.length period)
  else do
    let recent := candles.drop (candles.length - period)
    let ma ← usableBasis "moving average" (.finite ((recent.map Candle.close).sum / period))
    let currentPrice ← getCurrentPrice context
    compareChange "position" position ((currentPrice - ma) / ma * 100) distance

def validate (condition : Condition) : Except Error Unit := do
  validateTimeframeParam condition
  let period ← getParamF64 condition "period"
  refuse (period < 2) "period" (.number (.finite period))
  refuse (period > 200) "period" (.number (.finite period))
  let distance ← getParamF64 condition "distance"
  refuse (distance < 0) "distance" (.number (.finite distance))
  refuse (distance > 100) "distance" (.number (.finite distance))
  let position ← getParamString condition "position"
  refuse (position ∉ ["ABOVE", "BELOW", "WITHIN"]) "position" (.text position)

end PriceToMA

/-! ## Consecutive candles, `consecutive_candles.rs` -/

namespace ConsecutiveCandles

/-- The streak after one more candle; one without a usable open breaks it. Source:
`consecutive_candles.rs`, `evaluate` -/
def extend (direction : String) (minimumChange : ℚ) (streak : ℕ) (candle : Candle) :
    Except Error ℕ :=
  if candle.openPrice ≤ 0 then .ok 0
  else
    let change := (candle.close - candle.openPrice) / candle.openPrice * 100
    match direction with
    | "GREEN" => .ok (if minimumChange ≤ change then streak + 1 else 0)
    | "RED" => .ok (if change ≤ -minimumChange then streak + 1 else 0)
    | _ => .error (.invalidConditionValue "direction" (.text direction))

def evaluate (condition : Condition) (context : EvaluationContext) : Except Error Bool := do
  let count := asUsize (← getParamF64 condition "count")
  let direction ← getParamString condition "direction"
  let minimumChange ← getParamF64 condition "minimum_change"
  let timeframe := getParamStringOptional condition "timeframe"
  let candles ← getCandlesForTimeframe context timeframe
  if candles.length < count then
    .error (.insufficientCandles "consecutive candles" candles.length count)
  else do
    let streak ← (candles.drop (candles.length - count)).foldlM (extend direction minimumChange) 0
    .ok (decide (count ≤ streak))

def validate (condition : Condition) : Except Error Unit := do
  validateTimeframeParam condition
  let count ← getParamF64 condition "count"
  refuse (count < 2 ∨ count > 20) "count" (.number (.finite count))
  let direction ← getParamString condition "direction"
  refuse (direction ∉ ["GREEN", "RED"]) "direction" (.text direction)
  let minimumChange ← getParamF64 condition "minimum_change"
  refuse (minimumChange < 0) "minimum change" (.number (.finite minimumChange))
  refuse (minimumChange > 50) "minimum change" (.number (.finite minimumChange))

end ConsecutiveCandles

/-! ## Candle size, `candle_size.rs` -/

namespace CandleSize

/-- A candle against a pattern. Source: `candle_size.rs`, `evaluate` -/
def matchesPattern (pattern : String) (threshold : ℚ) (candle : Candle) : Except Error Bool :=
  let bodySize := |candle.close - candle.openPrice|
  let totalRange := candle.high - candle.low
  let upperWick := candle.high - max candle.close candle.openPrice
  let lowerWick := min candle.close candle.openPrice - candle.low
  let bodyPct := if 0 < totalRange then bodySize / totalRange * 100 else 0
  if candle.openPrice ≤ 0 then
    .error (.invalidConditionValue "candle open" (.number (.finite candle.openPrice)))
  else
    let priceChangePct := |(candle.close - candle.openPrice) / candle.openPrice| * 100
    match pattern with
    | "LARGE_BODY" => .ok (decide (threshold ≤ bodyPct) && decide (threshold ≤ priceChangePct))
    | "SMALL_BODY" => .ok (decide (bodyPct ≤ threshold))
    | "LONG_UPPER_WICK" =>
      .ok (decide (0 < totalRange) && decide (threshold ≤ upperWick / totalRange * 100))
    | "LONG_LOWER_WICK" =>
      .ok (decide (0 < totalRange) && decide (threshold ≤ lowerWick / totalRange * 100))
    | _ => .error (.invalidConditionValue "pattern" (.text pattern))

def evaluate (condition : Condition) (context : EvaluationContext) : Except Error Bool := do
  let pattern ← getParamString condition "pattern"
  let threshold ← getParamF64 condition "threshold"
  let timeframe := getParamStringOptional condition "timeframe"
  let candles ← getCandlesForTimeframe context timeframe
  match candles.getLast? with
  | none => .error (.noCandleData (timeframe.getD context.strategyTimeframe))
  | some candle => matchesPattern pattern threshold candle

def validate (condition : Condition) : Except Error Unit := do
  validateTimeframeParam condition
  let pattern ← getParamString condition "pattern"
  refuse (pattern ∉ ["LARGE_BODY", "SMALL_BODY", "LONG_UPPER_WICK", "LONG_LOWER_WICK"]) "pattern"
    (.text pattern)
  let threshold ← getParamF64 condition "threshold"
  refuse (threshold < 0) "threshold" (.number (.finite threshold))
  refuse (threshold > 100) "threshold" (.number (.finite threshold))

end CandleSize

/-- The candles before the current one, as many as asked for. Source: `price_breakout.rs`,
`volume_spike.rs`, `evaluate` -/
def lookbackCandles (candles : List Candle) (lookback : ℕ) : List Candle :=
  let last := candles.length - 1
  (candles.take last).drop (last - lookback)

/-! ## Price breakout, `price_breakout.rs` -/

namespace PriceBreakout

def evaluate (condition : Condition) (context : EvaluationContext) : Except Error Bool := do
  let lookback := asUsize (← getParamF64 condition "lookback")
  let direction ← getParamString condition "direction"
  let confirmation ← getParamF64 condition "confirmation"
  let timeframe := getParamStringOptional condition "timeframe"
  let candles ← getCandlesForTimeframe context timeframe
  if candles.length < lookback + 1 then
    .error (.insufficientCandles "price breakout" candles.length (lookback + 1))
  else do
    let currentPrice ← getCurrentPrice context
    -- the extremes of no candles are infinite, which is refused here before they are taken
    match ((lookbackCandles candles lookback).map Candle.high).max?,
        ((lookbackCandles candles lookback).map Candle.low).min? with
    | some periodHigh, some periodLow =>
      match direction with
      | "UPWARD" => .ok (decide (periodHigh * (1 + confirmation / 100) ≤ currentPrice))
      | "DOWNWARD" => .ok (decide (currentPrice ≤ periodLow * (1 - confirmation / 100)))
      | _ => .error (.invalidConditionValue "direction" (.text direction))
    | _, _ => .error (.noCandleData (timeframe.getD context.strategyTimeframe))

def validate (condition : Condition) : Except Error Unit := do
  validateTimeframeParam condition
  let lookback ← getParamF64 condition "lookback"
  refuse (lookback < 2 ∨ lookback > 100) "lookback" (.number (.finite lookback))
  let direction ← getParamString condition "direction"
  refuse (direction ∉ ["UPWARD", "DOWNWARD"]) "direction" (.text direction)
  let confirmation ← getParamF64 condition "confirmation"
  refuse (confirmation < 0 ∨ confirmation > 20) "confirmation" (.number (.finite confirmation))

end PriceBreakout

/-! ## Volume spike, `volume_spike.rs` -/

namespace VolumeSpike

def evaluate (condition : Condition) (context : EvaluationContext) : Except Error Bool := do
  let lookback := asUsize (← getParamF64 condition "lookback")
  let multiplier ← getParamF64 condition "multiplier"
  let timeframe := getParamStringOptional condition "timeframe"
  let candles ← getCandlesForTimeframe context timeframe
  if candles.length < lookback + 1 then
    .error (.insufficientCandles "volume spike" candles.length (lookback + 1))
  else
    match candles.getLast? with
    | none => .error (.noCandleData (timeframe.getD context.strategyTimeframe))
    | some current =>
      let before := lookbackCandles candles lookback
      if before.isEmpty then .error (.noCandleData (timeframe.getD context.strategyTimeframe))
      else
        let avgVolume := (before.map Candle.volume).sum / before.length
        if avgVolume ≤ 0 then
          .error (.invalidConditionValue "average volume" (.number (.finite avgVolume)))
        else .ok (decide (multiplier ≤ current.volume / avgVolume))

def validate (condition : Condition) : Except Error Unit := do
  validateTimeframeParam condition
  let lookback ← getParamF64 condition "lookback"
  refuse (lookback < 2 ∨ lookback > 100) "lookback" (.number (.finite lookback))
  let multiplier ← getParamF64 condition "multiplier"
  refuse (multiplier < 1 ∨ multiplier > 50) "multiplier" (.number (.finite multiplier))

end VolumeSpike

/-- The comparisons of a level. Source: `liquidity_level.rs`, `position_holding_time.rs`,
`validate` -/
def validComparisons : List String := ["GREATER_THAN", "LESS_THAN", "GREATER_EQUAL", "LESS_EQUAL"]

/-- A level's parameters: a threshold that is not negative, and a comparison. -/
def validateLevel (field : String) (condition : Condition) : Except Error Unit := do
  let threshold ← getParamF64 condition field
  refuse (threshold < 0) field (.number (.finite threshold))
  let comparison ← getParamString condition "comparison"
  refuse (comparison ∉ validComparisons) "comparison" (.text comparison)

/-! ## Liquidity level, `liquidity_level.rs` -/

namespace LiquidityLevel

def evaluate (condition : Condition) (context : EvaluationContext) : Except Error Bool := do
  let threshold ← getParamF64 condition "threshold"
  let comparison ← getParamString condition "comparison"
  match context.marketData with
  | none => .error (.missingContextData "market data")
  | some marketData =>
    match marketData.liquiditySol with
    | none => .error (.missingContextData "liquidity data")
    | some liquidity => compareLevel comparison liquidity threshold

def validate (condition : Condition) : Except Error Unit := validateLevel "threshold" condition

end LiquidityLevel

/-! ## Position holding time, `position_holding_time.rs` -/

namespace PositionHoldingTime

def evaluate (condition : Condition) (context : EvaluationContext) : Except Error Bool := do
  let hours ← getParamF64 condition "hours"
  let comparison ← getParamString condition "comparison"
  match context.positionData with
  | none => .error (.missingContextData "position data")
  | some positionData => compareLevel comparison positionData.positionAgeHours hours

def validate (condition : Condition) : Except Error Unit := validateLevel "hours" condition

end PositionHoldingTime

/-! ## The registry -/

/-- The evaluators. Source: `ConditionRegistry` -/
inductive ConditionKind
  | priceChangePercent
  | priceToMA
  | consecutiveCandles
  | candleSize
  | priceBreakout
  | volumeSpike
  | liquidityLevel
  | positionHoldingTime

namespace ConditionKind

/-- Source: `ConditionRegistry`, `get` -/
def get : String → Option ConditionKind
  | "PriceChangePercent" => some priceChangePercent
  | "PriceToMA" => some priceToMA
  | "ConsecutiveCandles" => some consecutiveCandles
  | "CandleSize" => some candleSize
  | "PriceBreakout" => some priceBreakout
  | "VolumeSpike" => some volumeSpike
  | "LiquidityLevel" => some liquidityLevel
  | "PositionHoldingTime" => some positionHoldingTime
  | _ => none

/-- Source: `ConditionEvaluator`, `evaluate` -/
def evaluate : ConditionKind → Condition → EvaluationContext → Except Error Bool
  | priceChangePercent => PriceChangePercent.evaluate
  | priceToMA => PriceToMA.evaluate
  | consecutiveCandles => ConsecutiveCandles.evaluate
  | candleSize => CandleSize.evaluate
  | priceBreakout => PriceBreakout.evaluate
  | volumeSpike => VolumeSpike.evaluate
  | liquidityLevel => LiquidityLevel.evaluate
  | positionHoldingTime => PositionHoldingTime.evaluate

/-- Source: `ConditionEvaluator`, `validate` -/
def validate : ConditionKind → Condition → Except Error Unit
  | priceChangePercent => PriceChangePercent.validate
  | priceToMA => PriceToMA.validate
  | consecutiveCandles => ConsecutiveCandles.validate
  | candleSize => CandleSize.validate
  | priceBreakout => PriceBreakout.validate
  | volumeSpike => VolumeSpike.validate
  | liquidityLevel => LiquidityLevel.validate
  | positionHoldingTime => PositionHoldingTime.validate

end ConditionKind

/-! ## What a condition reads -/

end Dripline.Strategies

import Mathlib.Algebra.Order.BigOperators.Group.List
import Dripline.Strategies.Engine

/-!
# What an accepted condition answers

`strategies/conditions`. What `validate` has accepted, `evaluate` answers from a context that has
everything a condition may read.
-/

namespace Dripline.Strategies

open List

open Dripline.Found (bind_eq_ok ok_bind error_bind)
open Dripline.Ohlcv (Candle Timeframe)

namespace RuleTree

mutual

/-- The leaves of a tree. -/
def leaves : RuleTree → List Condition
  | .mk _ _ (some condition) => [condition]
  | .mk _ none none => []
  | .mk _ (some conditions) none => leavesOf conditions

/-- The leaves of all children. -/
def leavesOf : List RuleTree → List Condition
  | [] => []
  | child :: conditions => child.leaves ++ leavesOf conditions

end

end RuleTree

/-! ## What a condition needs -/

/-- A numeric parameter, of a condition that has it. -/
def number (condition : Condition) (name : String) : ℚ :=
  (getParamF64 condition name).toOption.getD 0

/-- A text parameter, of a condition that has it. -/
def text (condition : Condition) (name : String) : String :=
  (getParamString condition name).toOption.getD ""

namespace ConditionKind

/-- The conditions that read a series. -/
def needsCandles : ConditionKind → Bool
  | liquidityLevel | positionHoldingTime => false
  | _ => true

/-- How many candles a condition asks for. -/
def neededCandles : ConditionKind → Condition → ℕ
  | priceToMA, condition => asUsize (number condition "period")
  | consecutiveCandles, condition => asUsize (number condition "count")
  | priceBreakout, condition => asUsize (number condition "lookback") + 1
  | volumeSpike, condition => asUsize (number condition "lookback") + 1
  | _, _ => 1

/-- How far back a condition asks, in seconds. -/
def neededSeconds : ConditionKind → Condition → ℤ
  | priceChangePercent, condition =>
    (PriceChangePercent.lookbackSeconds (number condition "time_value")
      (text condition "time_unit")).toOption.getD 0
  | _, _ => 0

/-- A series reaches as far as a condition asks, in candles and in time. -/
def LongEnough (kind : ConditionKind) (condition : Condition) (candles : List Candle) : Prop :=
  kind.neededCandles condition ≤ candles.length ∧
    ∃ candle ∈ candles,
      candle.timestamp ≤ newestTimestamp candles - kind.neededSeconds condition

end ConditionKind

/-- A candle with prices and volume above zero. -/
structure Positive (candle : Candle) : Prop where
  openPrice : 0 < candle.openPrice
  high : 0 < candle.high
  low : 0 < candle.low
  close : 0 < candle.close
  volume : 0 < candle.volume

/-- A series that a tree's conditions can answer from. -/
structure UsableSeries (tree : RuleTree) (evaluatedAt : ℤ) (timeframe : Timeframe)
    (candles : List Candle) : Prop where
  present : candles ≠ []
  fresh : evaluatedAt - newestTimestamp candles ≤ timeframe.toSeconds * maxSeriesStalenessBuckets
  positive : ∀ candle ∈ candles, Positive candle
  long : ∀ condition ∈ tree.leaves, ∀ kind, ConditionKind.get condition.conditionType = some kind →
    kind.LongEnough condition candles

/-- A context with everything that a tree's conditions may read. -/
structure Usable (tree : RuleTree) (context : EvaluationContext) : Prop where
  price : ∃ price, context.currentPrice = some (.finite price) ∧ 0 < price
  liquidity : ∃ market liquidity, context.marketData = some market ∧
    market.liquiditySol = some liquidity
  position : ∃ position, context.positionData = some position
  series : ∃ bundle, context.timeframeBundle = some bundle ∧
    ∀ timeframe, UsableSeries tree context.evaluatedAt timeframe (bundle.series timeframe)

/-! ## The readings of a usable context -/

lemma Usable.getCurrentPrice {tree : RuleTree} {context : EvaluationContext}
    (h : Usable tree context) : ∃ price, getCurrentPrice context = .ok price := by
  obtain ⟨price, hprice, hpos⟩ := h.price
  exact ⟨price, by simp only [Strategies.getCurrentPrice, hprice, usableBasis_finite hpos]⟩

lemma Usable.getCandlesForTimeframe {tree : RuleTree} {context : EvaluationContext}
    (h : Usable tree context) (own : Option String) :
    getCandlesForTimeframe context own =
        .error (.invalidConditionValue "timeframe" (.text (own.getD context.strategyTimeframe))) ∧
      timeframeFromStr (own.getD context.strategyTimeframe) = none ∨
    ∃ known candles, timeframeFromStr (own.getD context.strategyTimeframe) = some known ∧
      getCandlesForTimeframe context own = .ok candles ∧
      UsableSeries tree context.evaluatedAt known candles := by
  obtain ⟨bundle, hbundle, hseries⟩ := h.series
  cases hknown : timeframeFromStr (own.getD context.strategyTimeframe) with
  | none =>
    left
    simp only [Strategies.getCandlesForTimeframe, hbundle, hknown, and_self]
  | some known =>
    right
    have husable := hseries known
    refine ⟨known, bundle.series known, rfl, ?_, husable⟩
    have hempty : (bundle.series known).isEmpty = false := by simpa using husable.present
    simp only [Strategies.getCandlesForTimeframe, hbundle, hknown,
      TimeframeBundle.getTimeframe_eq, Option.map_some, hempty, Bool.false_eq_true, if_false,
      if_neg (not_lt.mpr husable.fresh)]

/-! ## Accepted parameters -/

variable {condition : Condition} {u : Unit}

lemma isSome_of_validateTimeframeParam (h : validateTimeframeParam condition = .ok u) {own : String}
    (hown : getParamStringOptional condition "timeframe" = some own) :
    (timeframeFromStr own).isSome := by
  rw [timeframeFromStr_isSome]
  simpa only [validateTimeframeParam, hown, refuse_eq_ok, not_not] using h

variable {name : String} {value : ℚ}

lemma number_eq (h : getParamF64 condition name = .ok value) : number condition name = value := by
  simp [number, h, Except.toOption]

lemma text_eq {value : String} (h : getParamString condition name = .ok value) :
    text condition name = value := by
  simp [text, h, Except.toOption]

lemma compareChange_ok {direction : String} (h : direction ∈ ["ABOVE", "BELOW", "WITHIN"])
    (field : String) (change bound : ℚ) : ∃ b, compareChange field direction change bound = .ok b := by
  simp only [mem_cons, not_mem_nil, or_false] at h
  rcases h with rfl | rfl | rfl <;> exact ⟨_, rfl⟩

lemma compareLevel_ok {comparison : String} (h : comparison ∈ validComparisons) (reading : F64)
    (threshold : ℚ) : ∃ b, compareLevel comparison reading threshold = .ok b := by
  simp only [validComparisons, mem_cons, not_mem_nil, or_false] at h
  rcases h with rfl | rfl | rfl | rfl <;> exact ⟨_, rfl⟩

/-- What an accepted condition does with the series that it has read, or not. -/
structure Answers (kind : ConditionKind) (condition : Condition) (context : EvaluationContext) :
    Prop where
  ok : ∀ candles, getCandlesForTimeframe context (getParamStringOptional condition "timeframe") =
    .ok candles → (∀ candle ∈ candles, Positive candle) → kind.LongEnough condition candles →
      ∃ b, kind.evaluate condition context = .ok b
  refused : ∀ error, getCandlesForTimeframe context (getParamStringOptional condition "timeframe") =
    .error error → kind.evaluate condition context = .error error

lemma le_asUsize {n : ℕ} (hn : n ≤ 2 ^ 64 - 1) (h : n ≤ value) : n ≤ asUsize value :=
  le_min (Nat.le_floor h) hn

lemma average_pos {numbers : List ℚ} (hpositive : ∀ number ∈ numbers, 0 < number)
    (hpresent : numbers ≠ []) {count : ℕ} (hcount : 0 < count) : 0 < numbers.sum / count :=
  div_pos (sum_pos numbers hpositive hpresent) (Nat.cast_pos.mpr hcount)

namespace PriceToMA

lemma answers {condition : Condition} {context : EvaluationContext} {price : ℚ}
    (hprice : getCurrentPrice context = .ok price) {u : Unit} (h : validate condition = .ok u) :
    Answers .priceToMA condition context := by
  simp only [validate, bind_eq_ok, refuse_eq_ok, exists_const, not_not, not_lt] at h
  obtain ⟨-, -, period, hperiod, htwo, -, distance, hdistance, -, -, position, hposition, hknown⟩ := h
  constructor
  · intro candles hcandles hpositive hlong
    have hcount : 2 ≤ asUsize period := le_asUsize (by norm_num) (by exact_mod_cast htwo)
    have hlength : asUsize period ≤ candles.length := by
      have := hlong.1
      rwa [ConditionKind.neededCandles, number_eq hperiod] at this
    have hma : 0 < ((candles.drop (candles.length - asUsize period)).map Candle.close).sum /
        (asUsize period : ℚ) := by
      refine average_pos ?_ ?_ (by omega)
      · intro close hclose
        obtain ⟨candle, hcandle, rfl⟩ := mem_map.mp hclose
        exact (hpositive candle (mem_of_mem_drop hcandle)).close
      · rw [← length_pos_iff, length_map, length_drop]
        omega
    obtain ⟨b, hb⟩ := compareChange_ok hknown "position" _ distance
    refine ⟨b, ?_⟩
    simp only [ConditionKind.evaluate, evaluate, hperiod, hposition, hdistance, hcandles, ok_bind,
      if_neg (not_lt.mpr hlength), usableBasis_finite hma, hprice]
    exact hb
  · intro error hcandles
    simp only [ConditionKind.evaluate, evaluate, hperiod, hposition, hdistance, hcandles, ok_bind,
      error_bind]

end PriceToMA

namespace PriceChangePercent

lemma lookbackSeconds_ok {timeUnit : String} (h : timeUnit ∈ ["SECONDS", "MINUTES", "HOURS"])
    (timeValue : ℚ) : ∃ seconds, lookbackSeconds timeValue timeUnit = .ok seconds := by
  simp only [mem_cons, not_mem_nil, or_false] at h
  rcases h with rfl | rfl | rfl <;> exact ⟨_, rfl⟩

lemma maxByTimestamp_fold (candles : List Candle) (best : Option Candle) {candle : Candle}
    (h : candles.foldl (fun best candle =>
      match best with
      | none => some candle
      | some best => if best.timestamp ≤ candle.timestamp then some candle else some best) best =
        some candle) : candle ∈ candles ∨ best = some candle := by
  induction candles generalizing best with
  | nil => exact .inr h
  | cons first candles ih =>
    obtain hmem | hbest := ih _ h
    · exact .inl (mem_cons_of_mem first hmem)
    · cases best with
      | none => simp_all
      | some best =>
        simp only at hbest
        split at hbest <;> simp_all

variable {candles : List Candle}

lemma maxByTimestamp_isSome (h : candles ≠ []) : (maxByTimestamp candles).isSome := by
  have hfold : ∀ (candles : List Candle) (best : Candle),
      (candles.foldl (fun best candle =>
        match best with
        | none => some candle
        | some best => if best.timestamp ≤ candle.timestamp then some candle else some best)
        (some best)).isSome := by
    intro candles
    induction candles with
    | nil => intro best; rfl
    | cons first candles ih =>
      intro best
      simp only [foldl_cons]
      split <;> exact ih _
  cases candles with
  | nil => exact absurd rfl h
  | cons first candles => exact hfold candles first

lemma pastCandle_of_mem {lookback : ℤ} (h : ∃ candle ∈ candles, candle.timestamp ≤ lookback) :
    ∃ past ∈ candles, pastCandle candles lookback = some past := by
  obtain ⟨candle, hcandle, hold⟩ := h
  have hpresent : candles.filter (fun candle => decide (candle.timestamp ≤ lookback)) ≠ [] :=
    ne_nil_of_mem (mem_filter.mpr ⟨hcandle, by simpa using hold⟩)
  obtain ⟨past, hpast⟩ := Option.isSome_iff_exists.mp (maxByTimestamp_isSome hpresent)
  obtain hmem | hnone := maxByTimestamp_fold _ none hpast
  · exact ⟨past, (mem_filter.mp hmem).1, hpast⟩
  · cases hnone

lemma answers {condition : Condition} {context : EvaluationContext} {price : ℚ}
    (hprice : getCurrentPrice context = .ok price) {u : Unit} (h : validate condition = .ok u) :
    Answers .priceChangePercent condition context := by
  simp only [validate, bind_eq_ok, refuse_eq_ok, exists_const, not_not, not_lt] at h
  obtain ⟨-, -, percentage, hpercentage, -, -, direction, hdirection, hway, timeValue, htimeValue, -,
    timeUnit, htimeUnit, hunit, -⟩ := h
  obtain ⟨seconds, hseconds⟩ := lookbackSeconds_ok hunit timeValue
  constructor
  · intro candles hcandles hpositive hlong
    have hold : ∃ candle ∈ candles, candle.timestamp ≤ newestTimestamp candles - seconds := by
      have := hlong.2
      rwa [ConditionKind.neededSeconds, number_eq htimeValue, text_eq htimeUnit, hseconds] at this
    obtain ⟨past, hmem, hpast⟩ := pastCandle_of_mem hold
    obtain ⟨b, hb⟩ := compareChange_ok hway "direction" _ percentage
    refine ⟨b, ?_⟩
    simp only [ConditionKind.evaluate, evaluate, hpercentage, hdirection, htimeValue, htimeUnit, hprice,
      hseconds, hcandles, ok_bind, hpast, usableBasis_finite (hpositive past hmem).close]
    exact hb
  · intro error hcandles
    simp only [ConditionKind.evaluate, evaluate, hpercentage, hdirection, htimeValue, htimeUnit, hprice,
      hseconds, hcandles, ok_bind, error_bind]

end PriceChangePercent

namespace ConsecutiveCandles

lemma foldlM_extend_ok {direction : String} (h : direction ∈ ["GREEN", "RED"]) (minimumChange : ℚ)
    (candles : List Candle) (streak : ℕ) :
    ∃ counted, candles.foldlM (extend direction minimumChange) streak = .ok counted := by
  induction candles generalizing streak with
  | nil => exact ⟨streak, rfl⟩
  | cons candle candles ih =>
    have hstep : ∃ next, extend direction minimumChange streak candle = .ok next := by
      simp only [mem_cons, not_mem_nil, or_false] at h
      unfold extend
      split
      · exact ⟨0, rfl⟩
      · rcases h with rfl | rfl <;> exact ⟨_, rfl⟩
    obtain ⟨next, hnext⟩ := hstep
    obtain ⟨counted, hcounted⟩ := ih next
    exact ⟨counted, by rw [foldlM_cons, hnext, ok_bind, hcounted]⟩

lemma answers {condition : Condition} {context : EvaluationContext} {u : Unit}
    (h : validate condition = .ok u) : Answers .consecutiveCandles condition context := by
  simp only [validate, bind_eq_ok, refuse_eq_ok, exists_const, not_not, not_lt] at h
  obtain ⟨-, -, count, hcount, -, direction, hdirection, hway, minimumChange, hminimum, -⟩ := h
  constructor
  · intro candles hcandles hpositive hlong
    have hlength : asUsize count ≤ candles.length := by
      have := hlong.1
      rwa [ConditionKind.neededCandles, number_eq hcount] at this
    obtain ⟨streak, hstreak⟩ := foldlM_extend_ok hway minimumChange
      (candles.drop (candles.length - asUsize count)) 0
    simp only [ConditionKind.evaluate, evaluate, hcount, hdirection, hminimum, hcandles, ok_bind,
      if_neg (not_lt.mpr hlength), hstreak]
    exact ⟨_, rfl⟩
  · intro error hcandles
    simp only [ConditionKind.evaluate, evaluate, hcount, hdirection, hminimum, hcandles, ok_bind,
      error_bind]

end ConsecutiveCandles

namespace CandleSize

lemma matchesPattern_ok {pattern : String}
    (h : pattern ∈ ["LARGE_BODY", "SMALL_BODY", "LONG_UPPER_WICK", "LONG_LOWER_WICK"])
    (threshold : ℚ) {candle : Candle} (hopen : 0 < candle.openPrice) :
    ∃ b, matchesPattern pattern threshold candle = .ok b := by
  simp only [mem_cons, not_mem_nil, or_false] at h
  simp only [matchesPattern, if_neg (not_le.mpr hopen)]
  rcases h with rfl | rfl | rfl | rfl <;> exact ⟨_, rfl⟩

lemma answers {condition : Condition} {context : EvaluationContext} {u : Unit}
    (h : validate condition = .ok u) : Answers .candleSize condition context := by
  simp only [validate, bind_eq_ok, refuse_eq_ok, exists_const, not_not, not_lt] at h
  obtain ⟨-, -, pattern, hpattern, hknown, threshold, hthreshold, -⟩ := h
  constructor
  · intro candles hcandles hpositive hlong
    have hpresent : candles ≠ [] := ne_nil_of_length_pos hlong.1
    have hlast : candles.getLast? = some (candles.getLast hpresent) :=
      List.getLast?_eq_some_getLast hpresent
    obtain ⟨b, hb⟩ := matchesPattern_ok hknown threshold
      (hpositive _ (getLast_mem hpresent)).openPrice
    exact ⟨b, by simp only [ConditionKind.evaluate, evaluate, hpattern, hthreshold, hcandles, ok_bind,
      hlast, hb]⟩
  · intro error hcandles
    simp only [ConditionKind.evaluate, evaluate, hpattern, hthreshold, hcandles, ok_bind, error_bind]

end CandleSize

variable {lookback : ℕ}

lemma lookbackCandles_ne_nil {candles : List Candle} (htwo : 2 ≤ lookback)
    (h : lookback + 1 ≤ candles.length) : lookbackCandles candles lookback ≠ [] := by
  rw [← length_pos_iff, lookbackCandles, length_drop, length_take]
  omega

lemma mem_of_mem_lookbackCandles {candles : List Candle} {candle : Candle}
    (h : candle ∈ lookbackCandles candles lookback) : candle ∈ candles :=
  mem_of_mem_take (mem_of_mem_drop h)

namespace PriceBreakout

lemma answers {condition : Condition} {context : EvaluationContext} {price : ℚ}
    (hprice : getCurrentPrice context = .ok price) {u : Unit} (h : validate condition = .ok u) :
    Answers .priceBreakout condition context := by
  simp only [validate, bind_eq_ok, refuse_eq_ok, exists_const, not_not, not_lt, not_or] at h
  obtain ⟨-, -, lookback, hlookback, ⟨htwo, -⟩, direction, hdirection, hway, confirmation,
    hconfirmation, -⟩ := h
  constructor
  · intro candles hcandles hpositive hlong
    have hcount : 2 ≤ asUsize lookback := le_asUsize (by norm_num) (by exact_mod_cast htwo)
    have hlength : asUsize lookback + 1 ≤ candles.length := by
      have := hlong.1
      rwa [ConditionKind.neededCandles, number_eq hlookback] at this
    have hpresent := lookbackCandles_ne_nil hcount hlength
    obtain ⟨high, hhigh⟩ := Option.isSome_iff_exists.mp
      (isSome_max?_of_ne_nil (l := (lookbackCandles candles (asUsize lookback)).map Candle.high)
        (by simpa using hpresent))
    obtain ⟨low, hlow⟩ := Option.isSome_iff_exists.mp
      (isSome_min?_of_ne_nil (l := (lookbackCandles candles (asUsize lookback)).map Candle.low)
        (by simpa using hpresent))
    simp only [ConditionKind.evaluate, evaluate, hlookback, hdirection, hconfirmation, hcandles,
      ok_bind, if_neg (not_lt.mpr hlength), hprice, hhigh, hlow]
    simp only [mem_cons, not_mem_nil, or_false] at hway
    rcases hway with rfl | rfl <;> exact ⟨_, rfl⟩
  · intro error hcandles
    simp only [ConditionKind.evaluate, evaluate, hlookback, hdirection, hconfirmation, hcandles,
      ok_bind, error_bind]

end PriceBreakout

namespace VolumeSpike

lemma answers {condition : Condition} {context : EvaluationContext} {u : Unit}
    (h : validate condition = .ok u) : Answers .volumeSpike condition context := by
  simp only [validate, bind_eq_ok, refuse_eq_ok, exists_const, not_lt, not_or] at h
  obtain ⟨-, -, lookback, hlookback, ⟨htwo, -⟩, multiplier, hmultiplier, -⟩ := h
  constructor
  · intro candles hcandles hpositive hlong
    have hcount : 2 ≤ asUsize lookback := le_asUsize (by norm_num) (by exact_mod_cast htwo)
    have hlength : asUsize lookback + 1 ≤ candles.length := by
      have := hlong.1
      rwa [ConditionKind.neededCandles, number_eq hlookback] at this
    have hpresent := lookbackCandles_ne_nil hcount hlength
    have hcandles' : candles ≠ [] := ne_nil_of_length_pos (by omega)
    have hlast : candles.getLast? = some (candles.getLast hcandles') :=
      List.getLast?_eq_some_getLast hcandles'
    have haverage : 0 < ((lookbackCandles candles (asUsize lookback)).map Candle.volume).sum /
        ((lookbackCandles candles (asUsize lookback)).length : ℚ) := by
      refine average_pos ?_ (by simpa using hpresent) (length_pos_iff.mpr hpresent)
      intro volume hvolume
      obtain ⟨candle, hcandle, rfl⟩ := mem_map.mp hvolume
      exact (hpositive candle (mem_of_mem_lookbackCandles hcandle)).volume
    have hbefore : (lookbackCandles candles (asUsize lookback)).isEmpty = false := by
      simpa using hpresent
    simp only [ConditionKind.evaluate, evaluate, hlookback, hmultiplier, hcandles, ok_bind,
      if_neg (not_lt.mpr hlength), hlast, hbefore, Bool.false_eq_true, if_false,
      if_neg (not_le.mpr haverage)]
    exact ⟨_, rfl⟩
  · intro error hcandles
    simp only [ConditionKind.evaluate, evaluate, hlookback, hmultiplier, hcandles, ok_bind, error_bind]

end VolumeSpike

/-! ## All conditions -/

lemma validateLevel_ok {field : String} (h : validateLevel field condition = .ok u) :
    ∃ threshold comparison, getParamF64 condition field = .ok threshold ∧
      getParamString condition "comparison" = .ok comparison ∧ comparison ∈ validComparisons := by
  simp only [validateLevel, bind_eq_ok, refuse_eq_ok, exists_const, not_not] at h
  obtain ⟨threshold, hthreshold, -, comparison, hcomparison, hknown⟩ := h
  exact ⟨threshold, comparison, hthreshold, hcomparison, hknown⟩

variable {kind : ConditionKind}

lemma ConditionKind.validateTimeframeParam_of_validate (hneeds : kind.needsCandles = true)
    (h : kind.validate condition = .ok u) : ∃ v, validateTimeframeParam condition = .ok v := by
  cases kind with
  | liquidityLevel | positionHoldingTime => simp [needsCandles] at hneeds
  | priceChangePercent | priceToMA | consecutiveCandles | candleSize | priceBreakout
  | volumeSpike => exact (bind_eq_ok.mp h).imp fun _ hv => hv.1

variable {context : EvaluationContext} {tree : RuleTree}

lemma ConditionKind.answers (husable : Usable tree context) (hneeds : kind.needsCandles = true)
    (h : kind.validate condition = .ok u) : Answers kind condition context := by
  obtain ⟨price, hprice⟩ := husable.getCurrentPrice
  cases kind with
  | priceChangePercent => exact PriceChangePercent.answers hprice h
  | priceToMA => exact PriceToMA.answers hprice h
  | consecutiveCandles => exact ConsecutiveCandles.answers h
  | candleSize => exact CandleSize.answers h
  | priceBreakout => exact PriceBreakout.answers hprice h
  | volumeSpike => exact VolumeSpike.answers h
  | liquidityLevel | positionHoldingTime => simp [needsCandles] at hneeds

lemma ConditionKind.evaluate_ok_of_level (husable : Usable tree context)
    (hneeds : kind.needsCandles = false) (h : kind.validate condition = .ok u) :
    ∃ b, kind.evaluate condition context = .ok b := by
  cases kind with
  | liquidityLevel =>
    obtain ⟨threshold, comparison, hthreshold, hcomparison, hknown⟩ := validateLevel_ok h
    obtain ⟨market, liquidity, hmarket, hliquidity⟩ := husable.liquidity
    simp only [evaluate, LiquidityLevel.evaluate, hthreshold, hcomparison, hmarket, hliquidity,
      ok_bind]
    exact compareLevel_ok hknown liquidity threshold
  | positionHoldingTime =>
    obtain ⟨threshold, comparison, hthreshold, hcomparison, hknown⟩ := validateLevel_ok h
    obtain ⟨position, hposition⟩ := husable.position
    simp only [evaluate, PositionHoldingTime.evaluate, hthreshold, hcomparison, hposition, ok_bind]
    exact compareLevel_ok hknown position.positionAgeHours threshold
  | _ => simp [needsCandles] at hneeds

end Dripline.Strategies

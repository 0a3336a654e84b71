import Mathlib.Data.Rat.Floor
import Dripline.AgentControl.Json
import Dripline.Ohlcv.Types

/-!
# Strategies and what they are evaluated on

`strategies/types.rs`, `strategies/error.rs`, `ohlcvs/types.rs`, `TimeframeBundle`.

* `F64` — a reading may be no number, or infinite; where it is a number it is an exact rational.
* `formatFixed` — a reading written with so many decimals, `{:.n}`.
* `RuleTree`, `Strategy` — conditions under AND, OR and NOT; the tree as it was saved, sound or not.
* `EvaluationContext` — what a condition may read. Parameters are JSON, whose numbers are finite.
* `Shown` — the value that an error names: a text, or a number as the code prints it.

A source without a file is in `types.rs`, where a definition without a comment is the one
of its name.
-/

namespace Dripline.Strategies

open Dripline.Ohlcv (Candle Timeframe)

/-- A 64-bit reading; the sign of zero is left out. -/
inductive F64
  | nan
  | negInf
  | finite (value : ℚ)
  | posInf
  deriving DecidableEq

namespace F64

/-- `<` against a number. -/
def lt : F64 → ℚ → Bool
  | nan, _ => false
  | negInf, _ => true
  | finite value, bound => decide (value < bound)
  | posInf, _ => false

/-- `<=` against a number. -/
def le : F64 → ℚ → Bool
  | nan, _ => false
  | negInf, _ => true
  | finite value, bound => decide (value ≤ bound)
  | posInf, _ => false

/-- `>` against a number. -/
def gt : F64 → ℚ → Bool
  | nan, _ => false
  | negInf, _ => false
  | finite value, bound => decide (bound < value)
  | posInf, _ => true

/-- `>=` against a number. -/
def ge : F64 → ℚ → Bool
  | nan, _ => false
  | negInf, _ => false
  | finite value, bound => decide (bound ≤ value)
  | posInf, _ => true

end F64

/-- A non-negative number rounded to a whole one, a tie to the even one. -/
def roundHalfEven (value : ℚ) : ℕ :=
  let whole := ⌊value⌋₊
  let rest := value - whole
  if rest < 1 / 2 then whole
  else if 1 / 2 < rest then whole + 1
  else if whole % 2 = 0 then whole else whole + 1

/-- The digits of a whole number of which the last `places` stand behind the point. -/
def pointed (scaled places : ℕ) : String :=
  let behind := toString (scaled % 10 ^ places)
  toString (scaled / 10 ^ places) ++ "." ++
    String.ofList (List.replicate (places - behind.length) '0') ++ behind

/-- A number with so many decimals. Source: Rust's `format!`, `{:.n}` -/
def formatFixed (places : ℕ) : F64 → String
  | .nan => "NaN"
  | .negInf => "-inf"
  | .posInf => "inf"
  | .finite value =>
    let digits := pointed (roundHalfEven (|value| * 10 ^ places)) places
    if value < 0 then "-" ++ digits else digits

lemma formatFixed_congr {places : ℕ} {a b : ℚ} (ha : 0 ≤ a) (hb : 0 ≤ b)
    (h : roundHalfEven (a * 10 ^ places) = roundHalfEven (b * 10 ^ places)) :
    formatFixed places (.finite a) = formatFixed places (.finite b) := by
  simp only [formatFixed, abs_of_nonneg ha, abs_of_nonneg hb, h, if_neg (not_lt.mpr ha),
    if_neg (not_lt.mpr hb)]

inductive LogicalOperator
  | and
  | or
  | not
  deriving DecidableEq

structure Parameter where
  value : Dripline.AgentControl.Value ℚ

structure Condition where
  conditionType : String
  parameters : String → Option Parameter

/-- A node with a condition is a leaf, whatever else it has; one with an operator only is a branch. -/
inductive RuleTree
  | mk (operator : Option LogicalOperator) (conditions : Option (List RuleTree))
      (condition : Option Condition)

namespace RuleTree

def leaf (condition : Condition) : RuleTree := mk none none (some condition)

end RuleTree

structure Strategy where
  id : String
  timeframe : String
  rules : RuleTree

/-- Source: `ohlcvs/types.rs` -/
structure TimeframeBundle where
  /-- Built at this time, in seconds. -/
  timestamp : ℤ
  series : Timeframe → List Candle
  cacheAgeSeconds : ℕ

structure PositionData where
  entryPrice : F64
  entryTime : ℤ
  currentSizeSol : F64
  unrealizedProfitPct : Option F64
  positionAgeHours : F64

structure MarketData where
  liquiditySol : Option F64
  volume24h : Option F64
  marketCap : Option F64
  holderCount : Option ℕ
  tokenAgeHours : Option F64

structure EvaluationContext where
  tokenMint : String
  currentPrice : Option F64
  positionData : Option PositionData
  marketData : Option MarketData
  timeframeBundle : Option TimeframeBundle
  strategyTimeframe : String
  /-- The moment of the price, in seconds. -/
  evaluatedAt : ℤ

/-- The value that an error names. -/
inductive Shown
  | text (value : String)
  | number (value : F64)
  deriving DecidableEq

/-- Source: `error.rs` -/
inductive Error
  | missingConditionParameter (field : String)
  | conditionParameterType (field expected : String)
  | invalidConditionValue (field : String) (value : Shown)
  | missingContextData (data : String)
  | noCandleData (timeframe : String)
  | insufficientHistory (indicator : String) (availableSeconds requiredSeconds : ℤ)
  | insufficientCandles (indicator : String) (available required : ℕ)
  | staleCandleData (timeframe : String) (ageSeconds maxAgeSeconds : ℤ)
  | invalidRuleTree (reason : String)
  | evaluationTimeout (timeoutMs : ℕ)
  deriving DecidableEq

/-- Source: `ohlcvs/types.rs`, `from_str` -/
def timeframeFromStr : String → Option Timeframe
  | "1m" => some .minute1
  | "5m" => some .minute5
  | "15m" => some .minute15
  | "1h" => some .hour1
  | "4h" => some .hour4
  | "12h" => some .hour12
  | "1d" => some .day1
  | _ => none

/-- Source: `ohlcvs/types.rs` -/
def TimeframeBundle.getTimeframe (bundle : TimeframeBundle) : String → Option (List Candle)
  | "1m" => some (bundle.series .minute1)
  | "5m" => some (bundle.series .minute5)
  | "15m" => some (bundle.series .minute15)
  | "1h" => some (bundle.series .hour1)
  | "4h" => some (bundle.series .hour4)
  | "12h" => some (bundle.series .hour12)
  | "1d" => some (bundle.series .day1)
  | _ => none

lemma TimeframeBundle.getTimeframe_eq (bundle : TimeframeBundle) (text : String) :
    bundle.getTimeframe text = (timeframeFromStr text).map bundle.series := by
  unfold getTimeframe timeframeFromStr
  split <;> rfl

lemma timeframeFromStr_isSome {text : String} :
    (timeframeFromStr text).isSome ↔ text ∈ ["1m", "5m", "15m", "1h", "4h", "12h", "1d"] := by
  constructor
  · intro h
    unfold timeframeFromStr at h
    split at h <;> simp_all
  · intro h
    simp only [List.mem_cons, List.not_mem_nil, or_false] at h
    rcases h with rfl | rfl | rfl | rfl | rfl | rfl | rfl <;> rfl

end Dripline.Strategies

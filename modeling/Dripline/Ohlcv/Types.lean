import Mathlib.Data.Int.Basic
import Mathlib.Data.Rat.Defs

/-!
# Candles and timeframes

`ohlcvs/types.rs`. Times are seconds; prices and volumes, `f64` in the source, are exact rationals.

* `Timeframe`, `Candle` — a series is of one timeframe, its candles stamped with the start of their
  period.
* `bucketStart` — the start of the period of a time, on the grid that starts at the epoch.
-/

namespace Dripline.Ohlcv

/-- Source: `types.rs` -/
inductive Timeframe
  | minute1
  | minute5
  | minute15
  | hour1
  | hour4
  | hour12
  | day1
  deriving DecidableEq

namespace Timeframe

/-- Source: `types.rs` -/
def toSeconds : Timeframe → ℤ
  | minute1 => 60
  | minute5 => 300
  | minute15 => 900
  | hour1 => 3600
  | hour4 => 14400
  | hour12 => 43200
  | day1 => 86400

/-- Source: `types.rs` -/
def asStr : Timeframe → String
  | minute1 => "1m"
  | minute5 => "5m"
  | minute15 => "15m"
  | hour1 => "1h"
  | hour4 => "4h"
  | hour12 => "12h"
  | day1 => "1d"

/-- The granularity that the provider is asked for. Source: `types.rs` -/
def toApiParam : Timeframe → String
  | minute1 | minute5 | minute15 => "minute"
  | hour1 | hour4 | hour12 => "hour"
  | day1 => "day"

lemma sixty_le_toSeconds (timeframe : Timeframe) : 60 ≤ timeframe.toSeconds := by
  cases timeframe <;> decide

lemma toSeconds_pos (timeframe : Timeframe) : 0 < timeframe.toSeconds := by
  have := timeframe.sixty_le_toSeconds
  omega

end Timeframe

/-- Source: `types.rs` -/
structure Candle where
  timestamp : ℤ
  openPrice : ℚ
  high : ℚ
  low : ℚ
  close : ℚ
  volume : ℚ
  deriving DecidableEq

/-- Source: `types.rs` -/
inductive OhlcvError
  | databaseError (message : String)
  | apiError (message : String)
  | rateLimitExceeded
  | poolNotFound (pool : String)
  | invalidTimeframe (message : String)
  | dataGap (start last : ℤ)
  | cacheError (message : String)
  | notFound (message : String)
  deriving DecidableEq

/-- The start of a time's period, `(ts / bucket) * bucket`: the division rounds towards the epoch.
Source: `aggregator.rs`, `aggregate`; `database/candles.rs`, `insert_candles_batch` -/
def bucketStart (bucket timestamp : ℤ) : ℤ := timestamp.tdiv bucket * bucket

lemma bucketStart_mul {bucket : ℤ} (hbucket : bucket ≠ 0) (count : ℤ) :
    bucketStart bucket (count * bucket) = count * bucket := by
  rw [bucketStart, Int.mul_tdiv_cancel count hbucket]

@[simp] lemma bucketStart_bucketStart (timeframe : Timeframe) (timestamp : ℤ) :
    bucketStart timeframe.toSeconds (bucketStart timeframe.toSeconds timestamp) =
      bucketStart timeframe.toSeconds timestamp :=
  bucketStart_mul (Int.ne_of_gt timeframe.toSeconds_pos) _

end Dripline.Ohlcv

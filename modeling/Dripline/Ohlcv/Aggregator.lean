import Dripline.Ohlcv.Types
import Dripline.Found.StableSort
import Dripline.Found.Grid
import Mathlib.Algebra.Order.Ring.Rat
import Mathlib.Algebra.BigOperators.Group.List.Basic
import Mathlib.Data.List.Dedup

/-!
# Combining candles

`ohlcvs/aggregator.rs`.
-/

namespace Dripline.Ohlcv

open List

open Found.StableSort (sortByKey)

/-- The next candle of an ascending series: a repeated time replaces the one before.
Source: `aggregator.rs`, the loop of `one_candle_per_timestamp` -/
def pushLatest (unique : List Candle) (candle : Candle) : List Candle :=
  match unique.getLast? with
  | some last =>
    if last.timestamp = candle.timestamp then unique.dropLast ++ [candle] else unique ++ [candle]
  | none => unique ++ [candle]

/-- Source: `aggregator.rs` -/
def oneCandlePerTimestamp (data : List Candle) : List Candle :=
  (sortByKey Candle.timestamp data).foldl pushLatest []

/-- The candles of one period. -/
def inBucket (bucketSize start : ℤ) (points : List Candle) : List Candle :=
  points.filter fun point => bucketStart bucketSize point.timestamp = start

/-- The periods that a series meets, each with its candles; the source's map gives them in any
order.
Source: `aggregator.rs`, the grouping of `aggregate` -/
def buckets (bucketSize : ℤ) (points : List Candle) : List (ℤ × List Candle) :=
  (points.map fun point => bucketStart bucketSize point.timestamp).dedup.map fun start =>
    (start, inBucket bucketSize start points)

/-- Source: `aggregator.rs` -/
def aggregateBucket (timestamp : ℤ) (points : List Candle) : Option Candle := do
  let first ← points.head?
  let last ← points.getLast?
  -- the folds from the infinities are the greatest and the least of a series that is not empty
  let high ← (points.map (·.high)).max?
  let low ← (points.map (·.low)).min?
  some
    { timestamp
      openPrice := first.openPrice
      high
      low
      close := last.close
      volume := (points.map (·.volume)).sum }

/-- The series of a coarser timeframe, out of a series with one candle for each time.
Source: `aggregator.rs`, the end of `aggregate` -/
def combined (bucketSize : ℤ) (points : List Candle) : List Candle :=
  sortByKey Candle.timestamp ((buckets bucketSize points).filterMap fun bucket =>
    aggregateBucket bucket.1 bucket.2)

/-- Source: `aggregator.rs` -/
def aggregate (data : List Candle) (fromTimeframe toTimeframe : Timeframe) :
    Except OhlcvError (List Candle) :=
  if toTimeframe.toSeconds < fromTimeframe.toSeconds then
    .error (.invalidTimeframe ("cannot aggregate " ++ fromTimeframe.asStr ++
      " candles into finer " ++ toTimeframe.asStr ++ " candles"))
  else if data = [] then .ok []
  else if fromTimeframe = toTimeframe then .ok (oneCandlePerTimestamp data)
  else .ok (combined toTimeframe.toSeconds (oneCandlePerTimestamp data))

/-- A batch in ascending order, the first of each time.
Source: `monitor.rs`, `persist_chunk`; `fetcher.rs`, `fetch_historical`: `sort_by_key`,
`dedup_by_key` -/
def firstPerTimestamp (points : List Candle) : List Candle :=
  (sortByKey Candle.timestamp points).eraseRepsBy (·.timestamp == ·.timestamp)

/-- Source: `aggregator.rs` -/
def detectGaps (data : List Candle) (timeframe : Timeframe) : List (ℤ × ℤ) :=
  if data.length < 2 then []
  else Found.Grid.missing timeframe.toSeconds ((sortByKey Candle.timestamp data).map (·.timestamp))

/-! ## One candle for each time -/

variable {data : List Candle}

lemma foldl_pushLatest {unique : List Candle} (hdata : data.Pairwise (·.timestamp < ·.timestamp))
    (hlast : ∀ last ∈ unique.getLast?, ∀ candle ∈ data, last.timestamp < candle.timestamp) :
    data.foldl pushLatest unique = unique ++ data := by
  induction data generalizing unique with
  | nil => simp
  | cons candle data ih =>
    obtain ⟨hcandle, hdata⟩ := pairwise_cons.mp hdata
    have hpush : pushLatest unique candle = unique ++ [candle] := by
      unfold pushLatest
      cases h : unique.getLast? with
      | none => rfl
      | some last => exact if_neg (hlast last h candle mem_cons_self).ne
    rw [foldl_cons, hpush, ih hdata]
    · simp
    · intro last hmem
      obtain rfl : candle = last := by simpa using hmem
      exact hcandle

lemma oneCandlePerTimestamp_of_strict (h : data.Pairwise (·.timestamp < ·.timestamp)) :
    oneCandlePerTimestamp data = data := by
  rw [oneCandlePerTimestamp, Found.StableSort.sortByKey_eq_self _ (h.imp le_of_lt),
    foldl_pushLatest h (by simp), nil_append]

variable {candle : Candle}

lemma eraseRepsBy_loop {acc : List Candle}
    (hdata : (candle :: data).Pairwise (·.timestamp < ·.timestamp)) :
    List.eraseRepsBy.loop (·.timestamp == ·.timestamp) candle data acc =
      acc.reverse ++ candle :: data := by
  induction data generalizing candle acc with
  | nil => simp [List.eraseRepsBy.loop]
  | cons next data ih =>
    obtain ⟨hcandle, hdata⟩ := pairwise_cons.mp hdata
    have hne : (candle.timestamp == next.timestamp) = false := by
      simpa using (hcandle next mem_cons_self).ne
    rw [List.eraseRepsBy.loop, hne]
    simp only
    rw [ih hdata]
    simp

variable {points : List Candle}

lemma mem_firstPerTimestamp (h : (points.map Candle.timestamp).Nodup) :
    candle ∈ firstPerTimestamp points ↔ candle ∈ points := by
  have hstrict := Found.StableSort.strict_sortByKey Candle.timestamp h
  rw [← Found.StableSort.mem_sortByKey Candle.timestamp (l := points), firstPerTimestamp]
  cases hsorted : sortByKey Candle.timestamp points with
  | nil => rfl
  | cons first rest =>
    rw [hsorted] at hstrict
    rw [List.eraseRepsBy, eraseRepsBy_loop hstrict]
    rfl

/-! ## Gaps -/

/-- The gaps of a series: exactly the maximal runs of missing candles, apart and in order, that make
up the grid between its ends with the candles that are there. -/
structure ExactGaps (timeframe : Timeframe) (data : List Candle) (gaps : List (ℤ × ℤ)) : Prop where
  runs : ∀ gap, gap ∈ gaps ↔
    Found.Grid.Run timeframe.toSeconds (data.map (·.timestamp)) gap.1 gap.2
  ordered : gaps.Pairwise fun gap gap' => gap.2 < gap'.1
  full : ∀ time, timeframe.toSeconds ∣ time → (∃ candle ∈ data, candle.timestamp ≤ time) →
    (∃ candle ∈ data, time ≤ candle.timestamp) →
      (∃ candle ∈ data, candle.timestamp = time) ∨ ∃ gap ∈ gaps, gap.1 ≤ time ∧ time ≤ gap.2

lemma detectGaps_eq (data : List Candle) (timeframe : Timeframe) : detectGaps data timeframe =
    Found.Grid.missing timeframe.toSeconds ((sortByKey Candle.timestamp data).map (·.timestamp)) := by
  rw [detectGaps]
  split
  · next hshort =>
    have hlength : (sortByKey Candle.timestamp data).length < 2 := by
      rwa [(Found.StableSort.sortByKey_perm _ data).length_eq]
    match sortByKey Candle.timestamp data, hlength with
    | [], _ => rfl
    | [_], _ => rfl
  · rfl

variable {timeframe : Timeframe}

lemma ascending_times (haligned : ∀ candle ∈ data, timeframe.toSeconds ∣ candle.timestamp) :
    Found.Grid.Ascending timeframe.toSeconds
      ((sortByKey Candle.timestamp data).map (·.timestamp)) := by
  refine ⟨?_, pairwise_map.mpr (Found.StableSort.pairwise_sortByKey _ data)⟩
  intro time htime
  obtain ⟨candle, hcandle, rfl⟩ := mem_map.mp htime
  exact haligned candle ((Found.StableSort.mem_sortByKey _).mp hcandle)

lemma mem_times {time : ℤ} :
    time ∈ (sortByKey Candle.timestamp data).map (·.timestamp) ↔
      ∃ candle ∈ data, candle.timestamp = time := by
  simp

lemma exact_detectGaps (haligned : ∀ candle ∈ data, timeframe.toSeconds ∣ candle.timestamp) :
    ExactGaps timeframe data (detectGaps data timeframe) := by
  have hgrid := ascending_times haligned
  have hpos := timeframe.toSeconds_pos
  rw [detectGaps_eq]
  refine ⟨?_, (Found.Grid.pairwise_missing hpos hgrid).imp (by omega), ?_⟩
  · intro gap
    rw [Found.Grid.mem_missing hpos hgrid]
    refine Found.Grid.run_congr fun time => ?_
    rw [mem_times, mem_map]
  · intro time htime hbelow habove
    rw [← mem_times]
    refine Found.Grid.covered hgrid htime ?_ ?_
    · obtain ⟨candle, hcandle, hle⟩ := hbelow
      exact ⟨_, mem_times.mpr ⟨candle, hcandle, rfl⟩, hle⟩
    · obtain ⟨candle, hcandle, hle⟩ := habove
      exact ⟨_, mem_times.mpr ⟨candle, hcandle, rfl⟩, hle⟩

/-! ## Buckets -/

@[simp] lemma aggregateBucket_nil (timestamp : ℤ) : aggregateBucket timestamp [] = none := rfl

lemma exists_aggregateBucket (timestamp : ℤ) (h : points ≠ []) :
    ∃ candle, aggregateBucket timestamp points = some candle ∧ candle.timestamp = timestamp ∧
      candle.volume = (points.map (·.volume)).sum := by
  obtain ⟨high, hhigh⟩ := Option.isSome_iff_exists.mp
    (isSome_max?_of_ne_nil (l := points.map (·.high)) (by simpa using h))
  obtain ⟨low, hlow⟩ := Option.isSome_iff_exists.mp
    (isSome_min?_of_ne_nil (l := points.map (·.low)) (by simpa using h))
  refine ⟨⟨timestamp, (points.head h).openPrice, high, low, (points.getLast h).close,
    (points.map (·.volume)).sum⟩, ?_, rfl, rfl⟩
  rw [aggregateBucket, List.head?_eq_some_head h, List.getLast?_eq_some_getLast h, hhigh, hlow]
  rfl

lemma of_aggregateBucket {timestamp : ℤ} (h : aggregateBucket timestamp points = some candle) :
    points ≠ [] ∧
      candle.timestamp = timestamp ∧ candle.volume = (points.map (·.volume)).sum := by
  have hne : points ≠ [] := by
    rintro rfl
    cases h
  obtain ⟨candle', heq, hstamp, hvolume⟩ := exists_aggregateBucket timestamp hne
  obtain rfl : candle' = candle := Option.some.inj (heq.symm.trans h)
  exact ⟨hne, hstamp, hvolume⟩

lemma mem_combined {bucketSize : ℤ} :
    candle ∈ combined bucketSize points ↔
      aggregateBucket candle.timestamp (inBucket bucketSize candle.timestamp points) = some candle := by
  simp only [combined, Found.StableSort.mem_sortByKey, mem_filterMap, buckets, mem_map,
    mem_dedup]
  constructor
  · rintro ⟨bucket, ⟨start, -, rfl⟩, h⟩
    obtain ⟨-, rfl, -⟩ := of_aggregateBucket h
    exact h
  · intro h
    obtain ⟨hne, -, -⟩ := of_aggregateBucket h
    obtain ⟨point, hpoint⟩ := exists_mem_of_ne_nil _ hne
    obtain ⟨hmem, hstart⟩ := mem_filter.mp hpoint
    exact ⟨_, ⟨candle.timestamp, ⟨point, hmem, of_decide_eq_true hstart⟩, rfl⟩, h⟩

lemma combined_inBucket (bucketSize start : ℤ) (points : List Candle) :
    combined bucketSize (inBucket bucketSize start points) =
      (aggregateBucket start (inBucket bucketSize start points)).toList := by
  have hsame : inBucket bucketSize start (inBucket bucketSize start points) =
      inBucket bucketSize start points := by
    simp [inBucket, filter_filter]
  by_cases hne : inBucket bucketSize start points = []
  · rw [hne]
    rfl
  · have hdedup : ((inBucket bucketSize start points).map fun point =>
        bucketStart bucketSize point.timestamp).dedup = [start] := by
      have hall : ((inBucket bucketSize start points).map fun point =>
          bucketStart bucketSize point.timestamp) =
            List.replicate (inBucket bucketSize start points).length start := by
        refine eq_replicate_iff.mpr ⟨length_map _, ?_⟩
        intro time htime
        obtain ⟨point, hpoint, rfl⟩ := mem_map.mp htime
        exact of_decide_eq_true (mem_filter.mp hpoint).2
      rw [hall, replicate_dedup (by simpa using hne)]
    obtain ⟨candle, hcandle, -, -⟩ := exists_aggregateBucket start hne
    rw [combined, buckets, hdedup, map_singleton, hsame]
    simp only [filterMap_cons, filterMap_nil, hcandle]
    rfl

/-! ## The coarser series -/

variable {fromTimeframe toTimeframe : Timeframe}

lemma aggregate_of_strict (h : data.Pairwise (·.timestamp < ·.timestamp))
    (hfiner : fromTimeframe.toSeconds < toTimeframe.toSeconds) :
    aggregate data fromTimeframe toTimeframe = .ok (combined toTimeframe.toSeconds data) := by
  have hne : fromTimeframe ≠ toTimeframe := by
    rintro rfl
    exact lt_irrefl _ hfiner
  rw [aggregate, if_neg hfiner.not_gt, if_neg hne, oneCandlePerTimestamp_of_strict h]
  split
  · next hempty =>
    rw [hempty]
    rfl
  · rfl

lemma aggregate_bucket (h : data.Pairwise (·.timestamp < ·.timestamp))
    (hfiner : fromTimeframe.toSeconds < toTimeframe.toSeconds) (start : ℤ) :
    aggregate (inBucket toTimeframe.toSeconds start data) fromTimeframe toTimeframe =
      .ok (aggregateBucket start (inBucket toTimeframe.toSeconds start data)).toList := by
  have hstrict : (inBucket toTimeframe.toSeconds start data).Pairwise (·.timestamp < ·.timestamp) :=
    h.filter _
  rw [aggregate_of_strict hstrict hfiner, combined_inBucket]

end Dripline.Ohlcv

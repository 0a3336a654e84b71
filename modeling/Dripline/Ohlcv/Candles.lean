import Dripline.Ohlcv.Aggregator
import Dripline.Found.Unique
import Mathlib

/-!
# The candles table

`ohlcvs/database/candles.rs`, over the table `ohlcv_candles` of one chain.
-/

namespace Dripline.Ohlcv

open Found.StableSort (sortByKey)
open Found.Unique

/-- A token on one pool. -/
structure Series where
  mint : String
  poolAddress : String
  deriving DecidableEq

/-- Who wrote a candle: the texts of the column `source`. -/
inductive Source
  | monitor
  | monitorAggregate
  | solanatracker
  | gapFiller
  | backfill
  deriving DecidableEq

/-- A row of `ohlcv_candles`. -/
structure CandleRow where
  series : Series
  timeframe : Timeframe
  candle : Candle
  source : Source

namespace CandleRow

/-- The unique columns. -/
def key (row : CandleRow) : Series × Timeframe × ℤ := (row.series, row.timeframe, row.candle.timestamp)

end CandleRow

/-- A candle as a row, its time snapped to the grid. Source: `candles.rs`, `insert_candles_batch` -/
def rowOf (series : Series) (timeframe : Timeframe) (source : Source) (candle : Candle) : CandleRow :=
  ⟨series, timeframe, { candle with timestamp := bucketStart timeframe.toSeconds candle.timestamp },
    source⟩

/-- The rows that a batch offers: a candle without trades is never recorded.
Source: `candles.rs`, `insert_candles_batch` -/
def offered (series : Series) (timeframe : Timeframe) (candles : List Candle) (source : Source) :
    List CandleRow :=
  (candles.filter fun candle => 0 < candle.volume).map (rowOf series timeframe source)

/-- Source: `candles.rs`, `insert_candles_batch`; with the number of rows inserted -/
def insertCandlesBatch (series : Series) (timeframe : Timeframe) (candles : List Candle)
    (source : Source)
    (rows : List CandleRow) : List CandleRow × ℕ :=
  let after := insertAll CandleRow.key (offered series timeframe candles source) rows
  (after, after.length - rows.length)

/-- Source: `candles.rs`, `get_candles` of one pool -/
def getCandles (series : Series) (timeframe : Timeframe) (fromTs toTs : Option ℤ) (limit : Option ℕ)
    (rows : List CandleRow) : List Candle :=
  let found := sortByKey Candle.timestamp <| (rows.filter fun row =>
    row.series = series ∧ row.timeframe = timeframe ∧ (∀ time ∈ fromTs, time ≤ row.candle.timestamp) ∧
      (∀ time ∈ toTs, row.candle.timestamp ≤ time)).map (·.candle)
  match limit with
  | none => found
  -- the newest so many, in ascending order again
  | some size => found.drop (found.length - size)

/-! ## What a batch adds -/

variable {series : Series} {timeframe : Timeframe} {candles : List Candle} {source : Source}
  {rows : List CandleRow}

variable (candle : Candle)

@[simp] lemma rowOf_series :
    (rowOf series timeframe source candle).series = series := rfl

@[simp] lemma rowOf_timeframe :
    (rowOf series timeframe source candle).timeframe = timeframe := rfl

@[simp] lemma rowOf_source :
    (rowOf series timeframe source candle).source = source := rfl

@[simp] lemma rowOf_volume :
    (rowOf series timeframe source candle).candle.volume = candle.volume := rfl

@[simp] lemma rowOf_timestamp :
    (rowOf series timeframe source candle).candle.timestamp =
    bucketStart timeframe.toSeconds candle.timestamp := rfl

lemma mem_offered {row : CandleRow} : row ∈ offered series timeframe candles source ↔
    ∃ candle ∈ candles, 0 < candle.volume ∧ rowOf series timeframe source candle = row := by
  simp [offered, and_assoc]

lemma rowOf_aligned {candle : Candle}
    (h : bucketStart timeframe.toSeconds candle.timestamp = candle.timestamp) :
    rowOf series timeframe source candle = ⟨series, timeframe, candle, source⟩ := by
  rw [rowOf, h]

lemma insertCandlesBatch_spec (series : Series) (timeframe : Timeframe) (candles : List Candle)
    (source : Source) (rows : List CandleRow) :
    ∃ added, (insertCandlesBatch series timeframe candles source rows).1 = rows ++ added ∧
      ∀ row ∈ added, row.key ∉ rows.map CandleRow.key ∧
        ∃ candle ∈ candles, 0 < candle.volume ∧ rowOf series timeframe source candle = row := by
  obtain ⟨added, heq, hadded⟩ :=
    insertAll_spec CandleRow.key (offered series timeframe candles source) rows
  exact ⟨added, heq, fun row hrow => ⟨(hadded row hrow).2, mem_offered.mp (hadded row hrow).1⟩⟩

lemma mem_keys_insertCandlesBatch {key : Series × Timeframe × ℤ} :
    key ∈ (insertCandlesBatch series timeframe candles source rows).1.map CandleRow.key ↔
      key ∈ rows.map CandleRow.key ∨ ∃ candle ∈ candles, 0 < candle.volume ∧
        (series, timeframe, bucketStart timeframe.toSeconds candle.timestamp) = key := by
  rw [show (insertCandlesBatch series timeframe candles source rows).1 =
    insertAll CandleRow.key (offered series timeframe candles source) rows from rfl, mem_keys_insertAll]
  refine or_congr_right ?_
  rw [List.mem_map]
  constructor
  · rintro ⟨row, hrow, rfl⟩
    obtain ⟨candle, hcandle, hvolume, rfl⟩ := mem_offered.mp hrow
    exact ⟨candle, hcandle, hvolume, rfl⟩
  · rintro ⟨candle, hcandle, hvolume, rfl⟩
    exact ⟨_, mem_offered.mpr ⟨candle, hcandle, hvolume, rfl⟩, rfl⟩

lemma nodup_insertCandlesBatch (h : (rows.map CandleRow.key).Nodup) :
    ((insertCandlesBatch series timeframe candles source rows).1.map CandleRow.key).Nodup :=
  nodup_insertAll h _

/-! ## What a series reads -/

variable {fromTs toTs : Option ℤ}

lemma mem_getCandles {candle : Candle} :
    candle ∈ getCandles series timeframe fromTs toTs none rows ↔
      ∃ row ∈ rows, row.series = series ∧ row.timeframe = timeframe ∧ row.candle = candle ∧
        (∀ time ∈ fromTs, time ≤ candle.timestamp) ∧ (∀ time ∈ toTs, candle.timestamp ≤ time) := by
  simp only [getCandles, Found.StableSort.mem_sortByKey, List.mem_map, List.mem_filter,
    decide_eq_true_eq]
  constructor
  · rintro ⟨row, ⟨hrow, hseries, htimeframe, hfrom, hto⟩, rfl⟩
    exact ⟨row, hrow, hseries, htimeframe, rfl, hfrom, hto⟩
  · rintro ⟨row, hrow, hseries, htimeframe, rfl, hfrom, hto⟩
    exact ⟨row, ⟨hrow, hseries, htimeframe, hfrom, hto⟩, rfl⟩

lemma nodup_times (series : Series) (timeframe : Timeframe) (h : (rows.map CandleRow.key).Nodup)
    (p : CandleRow → Bool)
    (hp : ∀ row, p row = true → row.series = series ∧ row.timeframe = timeframe) :
    (((rows.filter p).map (·.candle)).map Candle.timestamp).Nodup := by
  have hkeys : ((rows.filter p).map CandleRow.key).Nodup := h.sublist (List.filter_sublist.map _)
  rw [List.map_map]
  refine (List.nodup_map_iff_inj_on (hkeys.of_map _)).mpr ?_
  intro row hrow row' hrow' htime
  obtain ⟨hseries, htimeframe⟩ := hp row (List.mem_filter.mp hrow).2
  obtain ⟨hseries', htimeframe'⟩ := hp row' (List.mem_filter.mp hrow').2
  refine List.inj_on_of_nodup_map hkeys hrow hrow' ?_
  simp only [Function.comp_apply] at htime
  rw [CandleRow.key, CandleRow.key, hseries, hseries', htimeframe, htimeframe', htime]

lemma strict_getCandles (h : (rows.map CandleRow.key).Nodup) (series : Series) (timeframe : Timeframe)
    (fromTs toTs : Option ℤ) : (getCandles series timeframe fromTs toTs none rows).Pairwise
      (·.timestamp < ·.timestamp) := by
  refine Found.StableSort.strict_sortByKey _ (nodup_times series timeframe h _ ?_)
  intro row hrow
  obtain ⟨hseries, htimeframe, -, -⟩ := of_decide_eq_true hrow
  exact ⟨hseries, htimeframe⟩

end Dripline.Ohlcv

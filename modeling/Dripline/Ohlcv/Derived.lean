import Dripline.Ohlcv.Candles
import Dripline.Found.Trace

/-!
# Derived timeframes

The writers of `ohlcv_candles` in `ohlcvs/monitor.rs` and `ohlcvs/gaps.rs`, and the refresh that
derives the higher timeframes from the minutes of the last two days.

* `Step`, `step` — the writes, in any order and of any series.
* `derived_agrees_iff` — the derived candles agree at the end of exactly the runs that are careful.
-/

namespace Dripline.Ohlcv

open List

open Found.StableSort (sortByKey)
open Found.Trace (Throughout)

/-- Source: `monitor.rs` -/
def aggregatedTimeframes : List Timeframe := [.minute5, .minute15, .hour1, .hour4, .hour12, .day1]

/-- Source: `monitor.rs` -/
def persistChunk (series : Series) (points : List Candle) (rows : List CandleRow) :
    List CandleRow × List Candle :=
  if points = [] then (rows, [])
  else ((insertCandlesBatch series .minute1 (firstPerTimestamp points) .monitor rows).1,
    firstPerTimestamp points)

/-- Source: `monitor.rs`, the loop of `refresh_derived_timeframes_from_1m` -/
def deriveTimeframes (series : Series) (minuteCandles : List Candle) :
    List Timeframe → List CandleRow → List CandleRow × Except OhlcvError ℕ
  | [], rows => (rows, .ok 0)
  | timeframe :: rest, rows =>
    match aggregate minuteCandles .minute1 timeframe with
    | .error e => (rows, .error e)
    | .ok aggregated =>
      let inserted := insertCandlesBatch series timeframe aggregated .monitorAggregate rows
      let final := deriveTimeframes series minuteCandles rest inserted.1
      (final.1, final.2.map (inserted.2 + ·))

/-- The start of the window of a refresh, two days back. -/
def windowStart (now : ℤ) : ℤ := now - 2 * Timeframe.day1.toSeconds

/-- The minutes that a refresh reads. -/
def windowMinutes (series : Series) (now : ℤ) (rows : List CandleRow) : List Candle :=
  getCandles series .minute1 (some (windowStart now)) (some now) none rows

/-- Source: `monitor.rs`, `refresh_derived_timeframes_from_1m` -/
def refreshDerivedTimeframesFrom1m (series : Series) (now : ℤ) (rows : List CandleRow) :
    List CandleRow × Except OhlcvError ℕ :=
  if windowMinutes series now rows = [] then (rows, .ok 0)
  else deriveTimeframes series (windowMinutes series now rows) aggregatedTimeframes rows

/-! ## Runs -/

/-- A write to the table. -/
inductive Step
  | persist (series : Series) (points : List Candle)
  | fillGap (series : Series) (points : List Candle)
  | solanaTracker (mint : String) (points : List Candle)
  | backfill (series : Series) (timeframe : Timeframe) (points : List Candle)
  | refresh (series : Series) (now : ℤ)

/-- Source: `monitor.rs`, `persist_chunk`, `fetch_via_solana_tracker`, `backfill_timeframe`,
`refresh_derived_timeframes_from_1m`; `gaps.rs`, `fill_gap` -/
def step (rows : List CandleRow) : Step → List CandleRow
  | .persist series points => (persistChunk series points rows).1
  | .fillGap series points => (insertCandlesBatch series .minute1 points .gapFiller rows).1
  -- no pool is known here, so the token stands for its pool
  | .solanaTracker mint points =>
    (insertCandlesBatch ⟨mint, mint⟩ .minute1 points .solanatracker rows).1
  | .backfill series timeframe points => (insertCandlesBatch series timeframe points .backfill rows).1
  | .refresh series now => (refreshDerivedTimeframesFrom1m series now rows).1

/-- The table after a run, from the empty one. -/
def run (steps : List Step) : List CandleRow := steps.foldl step []

/-- The minutes stored for a bucket. -/
def minutesIn (series : Series) (timeframe : Timeframe) (start : ℤ) (rows : List CandleRow) :
    List Candle :=
  inBucket timeframe.toSeconds start (getCandles series .minute1 none none none rows)

/-- Each derived candle is the aggregate of the minutes now stored for its bucket. -/
def Agrees (series : Series) (rows : List CandleRow) : Prop :=
  ∀ row ∈ rows, row.series = series → row.source = .monitorAggregate →
    aggregate (minutesIn series row.timeframe row.candle.timestamp rows) .minute1 row.timeframe =
      .ok [row.candle]

/-- The window of a refresh has every stored minute. -/
def Covers (series : Series) (now : ℤ) (rows : List CandleRow) : Prop :=
  ∀ candle ∈ getCandles series .minute1 none none none rows,
    windowStart now ≤ candle.timestamp ∧ candle.timestamp ≤ now

/-- The candles that a step other than a refresh offers. -/
def Step.batch : Step → Option (Series × Timeframe × List Candle × Source)
  | .persist series points => some (series, .minute1, firstPerTimestamp points, .monitor)
  | .fillGap series points => some (series, .minute1, points, .gapFiller)
  | .solanaTracker mint points => some (⟨mint, mint⟩, .minute1, points, .solanatracker)
  | .backfill series timeframe points => some (series, timeframe, points, .backfill)
  | .refresh _ _ => none

/-- No new minute is of a bucket that is derived already. -/
def Undisturbed (series : Series) (rows : List CandleRow) (points : List Candle) : Prop :=
  ∀ candle ∈ points, 0 < candle.volume →
    (series, Timeframe.minute1, bucketStart Timeframe.minute1.toSeconds candle.timestamp) ∉
      rows.map CandleRow.key →
    ∀ row ∈ rows, row.series = series → row.source = .monitorAggregate →
      bucketStart row.timeframe.toSeconds
        (bucketStart Timeframe.minute1.toSeconds candle.timestamp) ≠ row.candle.timestamp

/-- A bucket that is not stored yet and has a minute in the window has no minute out of it. -/
def Whole (series : Series) (now : ℤ) (rows : List CandleRow) : Prop :=
  ∀ timeframe ∈ aggregatedTimeframes, ∀ minute ∈ windowMinutes series now rows,
    (series, timeframe, bucketStart timeframe.toSeconds minute.timestamp) ∉ rows.map CandleRow.key →
    ∀ candle ∈ minutesIn series timeframe (bucketStart timeframe.toSeconds minute.timestamp) rows,
      windowStart now ≤ candle.timestamp ∧ candle.timestamp ≤ now

/-- A step that neither adds a minute to a derived bucket nor derives a part of one. -/
def Careful (series : Series) (rows : List CandleRow) (s : Step) : Prop :=
  (∀ points source, s.batch = some (series, .minute1, points, source) →
    Undisturbed series rows points) ∧
    ∀ now, s = .refresh series now → Whole series now rows

/-! ## The minutes of a bucket -/

variable {series : Series} {timeframe : Timeframe} {start : ℤ} {rows added : List CandleRow}

/-- A row is a minute of the bucket. -/
def IsMinuteIn (series : Series) (timeframe : Timeframe) (start : ℤ) (row : CandleRow) : Prop :=
  row.series = series ∧ row.timeframe = .minute1 ∧
    bucketStart timeframe.toSeconds row.candle.timestamp = start

instance (series : Series) (timeframe : Timeframe) (start : ℤ) :
    DecidablePred (IsMinuteIn series timeframe start) :=
  fun _ => inferInstanceAs (Decidable (_ ∧ _ ∧ _))

/-- The rows of a bucket's minutes. -/
def minuteRows (series : Series) (timeframe : Timeframe) (start : ℤ) (rows : List CandleRow) :
    List CandleRow :=
  rows.filter fun row => IsMinuteIn series timeframe start row

variable {row : CandleRow}

lemma mem_minuteRows : row ∈ minuteRows series timeframe start rows ↔
    row ∈ rows ∧ IsMinuteIn series timeframe start row := by
  simp [minuteRows]

lemma inBucket_getCandles (fromTs toTs : Option ℤ) :
    inBucket timeframe.toSeconds start (getCandles series .minute1 fromTs toTs none rows) =
      sortByKey Candle.timestamp (((minuteRows series timeframe start rows).map (·.candle)).filter
        fun candle => (∀ time ∈ fromTs, time ≤ candle.timestamp) ∧
          (∀ time ∈ toTs, candle.timestamp ≤ time)) := by
  simp only [inBucket, getCandles, Found.StableSort.filter_sortByKey, minuteRows, filter_map,
    filter_filter]
  refine congrArg (fun found : List CandleRow => sortByKey Candle.timestamp (found.map (·.candle))) ?_
  refine filter_congr fun row _ => ?_
  rw [Bool.eq_iff_iff]
  simp only [Function.comp_apply, Bool.and_eq_true, decide_eq_true_eq]
  rw [IsMinuteIn]
  tauto

lemma minutesIn_eq : minutesIn series timeframe start rows =
    sortByKey Candle.timestamp ((minuteRows series timeframe start rows).map (·.candle)) := by
  rw [minutesIn, inBucket_getCandles]
  simp

variable {candle : Candle}

lemma mem_minutesIn : candle ∈ minutesIn series timeframe start rows ↔
    ∃ row ∈ minuteRows series timeframe start rows, row.candle = candle := by
  rw [minutesIn_eq, Found.StableSort.mem_sortByKey, mem_map]

lemma minutesIn_append (h : ∀ row ∈ added, ¬IsMinuteIn series timeframe start row) :
    minutesIn series timeframe start (rows ++ added) = minutesIn series timeframe start rows := by
  have hnone : minuteRows series timeframe start added = [] :=
    filter_eq_nil_iff.mpr fun row hrow => by simpa using h row hrow
  rw [minutesIn_eq, minutesIn_eq]
  simp only [minuteRows, filter_append] at hnone ⊢
  rw [hnone, append_nil]

variable {now : ℤ}

lemma inBucket_windowMinutes
    (h : ∀ candle ∈ minutesIn series timeframe start rows, windowStart now ≤ candle.timestamp ∧
      candle.timestamp ≤ now) :
    inBucket timeframe.toSeconds start (windowMinutes series now rows) =
      minutesIn series timeframe start rows := by
  rw [windowMinutes, inBucket_getCandles, minutesIn_eq, filter_eq_self.mpr]
  intro candle hcandle
  obtain ⟨row, hrow, rfl⟩ := mem_map.mp hcandle
  simpa using h row.candle (mem_minutesIn.mpr ⟨row, hrow, rfl⟩)

/-! ## Volumes -/

/-- The volume of the minutes stored for a bucket. -/
def volumeIn (series : Series) (timeframe : Timeframe) (start : ℤ) (rows : List CandleRow) : ℚ :=
  (((minuteRows series timeframe start rows).map (·.candle)).map (·.volume)).sum

lemma sum_minutesIn : ((minutesIn series timeframe start rows).map (·.volume)).sum =
    volumeIn series timeframe start rows := by
  rw [minutesIn_eq, ((Found.StableSort.sortByKey_perm _ _).map _).sum_eq, volumeIn]

lemma volumeIn_append : volumeIn series timeframe start (rows ++ added) =
    volumeIn series timeframe start rows + volumeIn series timeframe start added := by
  simp [volumeIn, minuteRows]

lemma volumeIn_nonneg (hpos : ∀ row ∈ rows, 0 < row.candle.volume) :
    0 ≤ volumeIn series timeframe start rows := by
  refine sum_nonneg ?_
  intro volume hvolume
  obtain ⟨candle, hcandle, rfl⟩ := mem_map.mp hvolume
  obtain ⟨row, hrow, rfl⟩ := mem_map.mp hcandle
  exact (hpos row (mem_minuteRows.mp hrow).1).le

lemma volumeIn_pos (hpos : ∀ row ∈ rows, 0 < row.candle.volume) (hrow : row ∈ rows)
    (hminute : IsMinuteIn series timeframe start row) :
    0 < volumeIn series timeframe start rows := by
  refine sum_pos _ ?_ ?_
  · intro volume hvolume
    obtain ⟨candle, hcandle, rfl⟩ := mem_map.mp hvolume
    obtain ⟨row', hrow', rfl⟩ := mem_map.mp hcandle
    exact hpos row' (mem_minuteRows.mp hrow').1
  · have hmem : row ∈ minuteRows series timeframe start rows := mem_minuteRows.mpr ⟨hrow, hminute⟩
    exact fun hnil => ne_nil_of_mem hmem (map_eq_nil_iff.mp (map_eq_nil_iff.mp hnil))

lemma sum_filter_lt {α : Type*} {f : α → ℚ} {l : List α} (hpos : ∀ a ∈ l, 0 < f a) {p : α → Bool}
    (hout : ∃ a ∈ l, p a = false) : ((l.filter p).map f).sum < (l.map f).sum := by
  obtain ⟨a, ha, hp⟩ := hout
  have hsplit : (l.map f).sum = ((l.filter p).map f).sum + ((l.filter (!p ·)).map f).sum := by
    rw [← sum_append, ← map_append]
    exact ((filter_append_perm p l).map f).sum_eq.symm
  have hrest : 0 < ((l.filter (!p ·)).map f).sum := by
    refine sum_pos _ ?_ ?_
    · intro x hx
      obtain ⟨b, hb, rfl⟩ := mem_map.mp hx
      exact hpos b (mem_of_mem_filter hb)
    · have hmem : a ∈ l.filter (!p ·) := mem_filter.mpr ⟨ha, by simp [hp]⟩
      exact fun hnil => ne_nil_of_mem hmem (map_eq_nil_iff.mp hnil)
  linarith

/-! ## One step -/

/-- What the table keeps: keys are unique, candles have trades and are on the grid, and what is
derived is of a higher timeframe. -/
structure Sound (rows : List CandleRow) : Prop where
  unique : (rows.map CandleRow.key).Nodup
  trades : ∀ row ∈ rows, 0 < row.candle.volume
  aligned : ∀ row ∈ rows, bucketStart row.timeframe.toSeconds row.candle.timestamp =
    row.candle.timestamp
  higher : ∀ row ∈ rows, row.source = .monitorAggregate →
    Timeframe.minute1.toSeconds < row.timeframe.toSeconds

lemma sound_nil : Sound [] := ⟨nodup_nil, by simp, by simp, by simp⟩

lemma minute1_lt_of_mem (h : timeframe ∈ aggregatedTimeframes) :
    Timeframe.minute1.toSeconds < timeframe.toSeconds := by
  revert timeframe
  decide

variable {points : List Candle} {source : Source} {s : Step}

variable (rows) in
lemma step_of_batch {series : Series} {timeframe : Timeframe}
    (h : s.batch = some (series, timeframe, points, source)) :
    source ≠ .monitorAggregate ∧
      step rows s = (insertCandlesBatch series timeframe points source rows).1 := by
  cases s with
  | persist series points =>
    cases h
    refine ⟨by decide, ?_⟩
    simp only [step, persistChunk]
    split
    · next hnil =>
      rw [hnil]
      rfl
    · rfl
  | fillGap series points | solanaTracker mint points | backfill series timeframe points =>
      cases h; exact ⟨by decide, rfl⟩
  | refresh series now => cases h

lemma of_mem_combined (hpos : ∀ point ∈ points, 0 < point.volume)
    (h : candle ∈ combined timeframe.toSeconds points) : 0 < candle.volume ∧
      bucketStart timeframe.toSeconds candle.timestamp = candle.timestamp ∧
      ∃ point ∈ points, bucketStart timeframe.toSeconds point.timestamp = candle.timestamp := by
  obtain ⟨hne, -, hvolume⟩ := of_aggregateBucket (mem_combined.mp h)
  have hin : ∀ point ∈ inBucket timeframe.toSeconds candle.timestamp points, point ∈ points ∧
      bucketStart timeframe.toSeconds point.timestamp = candle.timestamp := by
    intro point hpoint
    exact ⟨(mem_filter.mp hpoint).1, of_decide_eq_true (mem_filter.mp hpoint).2⟩
  obtain ⟨point, hpoint⟩ := exists_mem_of_ne_nil _ hne
  refine ⟨?_, ?_, point, hin point hpoint⟩
  · rw [hvolume]
    refine sum_pos _ ?_ (by simpa using hne)
    intro volume hmem
    obtain ⟨point, hpoint, rfl⟩ := mem_map.mp hmem
    exact hpos point (hin point hpoint).1
  · rw [← (hin point hpoint).2, bucketStart_bucketStart]

variable {minutes : List Candle}

lemma deriveTimeframes_spec (hstrict : minutes.Pairwise (·.timestamp < ·.timestamp))
    (hpos : ∀ minute ∈ minutes, 0 < minute.volume) {timeframes : List Timeframe}
    (htimeframes : ∀ timeframe ∈ timeframes, timeframe ∈ aggregatedTimeframes)
    (rows : List CandleRow) :
    ∃ added, (deriveTimeframes series minutes timeframes rows).1 = rows ++ added ∧
      (∀ row ∈ added, row.key ∉ rows.map CandleRow.key ∧ ∃ timeframe ∈ timeframes,
        ∃ candle ∈ combined timeframe.toSeconds minutes,
          row = ⟨series, timeframe, candle, .monitorAggregate⟩) ∧
      (∀ timeframe ∈ timeframes, ∀ candle ∈ combined timeframe.toSeconds minutes,
        (series, timeframe, candle.timestamp) ∈ (rows ++ added).map CandleRow.key) := by
  induction timeframes generalizing rows with
  | nil => exact ⟨[], by simp [deriveTimeframes], by simp, by simp⟩
  | cons timeframe timeframes ih =>
    have hmem : timeframe ∈ aggregatedTimeframes := htimeframes timeframe mem_cons_self
    have haggregate := aggregate_of_strict hstrict (minute1_lt_of_mem hmem)
    obtain ⟨first, hfirst, hadded⟩ := insertCandlesBatch_spec series timeframe
      (combined timeframe.toSeconds minutes) .monitorAggregate rows
    obtain ⟨rest, hrest, hrestAdded, hrestKeys⟩ :=
      ih (fun other hother => htimeframes other (mem_cons_of_mem _ hother)) (rows ++ first)
    have hafter : (deriveTimeframes series minutes (timeframe :: timeframes) rows).1 =
        rows ++ first ++ rest := by
      rw [← hrest, ← hfirst, deriveTimeframes, haggregate]
    refine ⟨first ++ rest, by rw [hafter, append_assoc], ?_, ?_⟩
    · intro row hrow
      rcases mem_append.mp hrow with hrow | hrow
      · obtain ⟨hfresh, candle, hcandle, -, rfl⟩ := hadded row hrow
        refine ⟨hfresh, timeframe, mem_cons_self, candle, hcandle, ?_⟩
        exact rowOf_aligned (of_mem_combined hpos hcandle).2.1
      · obtain ⟨hfresh, other, hother, candle, hcandle, rfl⟩ := hrestAdded row hrow
        refine ⟨fun hk => hfresh ?_, other, mem_cons_of_mem _ hother, candle, hcandle, rfl⟩
        rw [map_append]
        exact mem_append_left _ hk
    · intro other hother candle hcandle
      rw [← append_assoc]
      rcases mem_cons.mp hother with rfl | hother
      · obtain ⟨hvolume, haligned, -⟩ := of_mem_combined hpos hcandle
        rw [map_append, ← hfirst]
        refine mem_append_left _ (mem_keys_insertCandlesBatch.mpr (Or.inr ?_))
        exact ⟨candle, hcandle, hvolume, by rw [haligned]⟩
      · exact hrestKeys other hother candle hcandle

lemma nodup_deriveTimeframes (timeframes : List Timeframe) (h : (rows.map CandleRow.key).Nodup) :
    ((deriveTimeframes series minutes timeframes rows).1.map CandleRow.key).Nodup := by
  induction timeframes generalizing rows with
  | nil => exact h
  | cons timeframe timeframes ih =>
    rw [deriveTimeframes]
    split
    · exact h
    · exact ih (nodup_insertCandlesBatch h)

section

variable (hsound : Sound rows)
include hsound

lemma windowMinutes_pos : ∀ minute ∈ windowMinutes series now rows, 0 < minute.volume := by
  intro minute hminute
  obtain ⟨row, hrow, -, -, rfl, -⟩ := mem_getCandles.mp hminute
  exact hsound.trades row hrow

lemma refresh_spec (series : Series) (now : ℤ) :
    ∃ added, step rows (.refresh series now) = rows ++ added ∧
      (∀ row ∈ added, row.key ∉ rows.map CandleRow.key ∧ ∃ timeframe ∈ aggregatedTimeframes,
        ∃ candle ∈ combined timeframe.toSeconds (windowMinutes series now rows),
          row = ⟨series, timeframe, candle, .monitorAggregate⟩) ∧
      (∀ timeframe ∈ aggregatedTimeframes,
        ∀ candle ∈ combined timeframe.toSeconds (windowMinutes series now rows),
          (series, timeframe, candle.timestamp) ∈ (rows ++ added).map CandleRow.key) := by
  have hpos : ∀ minute ∈ windowMinutes series now rows, 0 < minute.volume := windowMinutes_pos hsound
  obtain ⟨added, heq, hadded, hkeys⟩ : ∃ added,
      (deriveTimeframes series (windowMinutes series now rows) aggregatedTimeframes rows).1 =
        rows ++ added ∧
        _ ∧ _ :=
    deriveTimeframes_spec (strict_getCandles hsound.unique series .minute1 _ _) hpos (fun _ h => h) rows
  by_cases hempty : windowMinutes series now rows = []
  · refine ⟨[], by simp [step, refreshDerivedTimeframesFrom1m, hempty], by simp, ?_⟩
    intro timeframe _ candle hcandle
    obtain ⟨-, -, point, hpoint, -⟩ := of_mem_combined hpos hcandle
    rw [hempty] at hpoint
    cases hpoint
  · refine ⟨added, ?_, hadded, hkeys⟩
    rw [step, refreshDerivedTimeframesFrom1m, if_neg hempty]
    exact heq

lemma step_spec (s : Step) : ∃ added, step rows s = rows ++ added ∧
    ∀ row ∈ added, row.key ∉ rows.map CandleRow.key ∧ 0 < row.candle.volume ∧
      bucketStart row.timeframe.toSeconds row.candle.timestamp = row.candle.timestamp ∧
      (row.source = .monitorAggregate → row.timeframe ∈ aggregatedTimeframes) := by
  cases hbatch : s.batch with
  | some batch =>
    obtain ⟨series, timeframe, points, source⟩ := batch
    obtain ⟨hsource, hstep⟩ := step_of_batch rows hbatch
    obtain ⟨added, heq, hadded⟩ := insertCandlesBatch_spec series timeframe points source rows
    refine ⟨added, by rw [hstep, heq], ?_⟩
    intro row hrow
    obtain ⟨hfresh, candle, -, hvolume, rfl⟩ := hadded row hrow
    exact ⟨hfresh, hvolume, by simp, fun h => absurd h hsource⟩
  | none =>
    cases s with
    | refresh series now =>
      obtain ⟨added, heq, hadded, -⟩ := refresh_spec hsound series now
      refine ⟨added, heq, ?_⟩
      intro row hrow
      obtain ⟨hfresh, timeframe, htimeframe, candle, hcandle, rfl⟩ := hadded row hrow
      obtain ⟨hvolume, haligned, -⟩ := of_mem_combined (windowMinutes_pos hsound) hcandle
      exact ⟨hfresh, hvolume, haligned, fun _ => htimeframe⟩
    | _ => cases hbatch

lemma nodup_step (s : Step) : ((step rows s).map CandleRow.key).Nodup := by
  cases hbatch : s.batch with
  | some batch =>
    obtain ⟨series, timeframe, points, source⟩ := batch
    rw [(step_of_batch rows hbatch).2]
    exact nodup_insertCandlesBatch hsound.unique
  | none =>
    cases s with
    | refresh series now =>
      rw [step, refreshDerivedTimeframesFrom1m]
      split
      · exact hsound.unique
      · exact nodup_deriveTimeframes _ hsound.unique
    | _ => cases hbatch

lemma Sound.step (s : Step) : Sound (step rows s) := by
  obtain ⟨added, heq, hadded⟩ := step_spec hsound s
  refine ⟨nodup_step hsound s, ?_, ?_, ?_⟩
  · rw [heq]
    intro row hrow
    rcases mem_append.mp hrow with hrow | hrow
    · exact hsound.trades row hrow
    · exact (hadded row hrow).2.1
  · rw [heq]
    intro row hrow
    rcases mem_append.mp hrow with hrow | hrow
    · exact hsound.aligned row hrow
    · exact (hadded row hrow).2.2.1
  · rw [heq]
    intro row hrow hsource
    rcases mem_append.mp hrow with hrow | hrow
    · exact hsound.higher row hrow hsource
    · exact minute1_lt_of_mem ((hadded row hrow).2.2.2 hsource)

/-! ## Agreement -/

lemma aggregate_minutesIn (hhigher : Timeframe.minute1.toSeconds < timeframe.toSeconds) :
    aggregate (minutesIn series timeframe start rows) .minute1 timeframe =
      .ok (aggregateBucket start (minutesIn series timeframe start rows)).toList :=
  aggregate_bucket (strict_getCandles hsound.unique series .minute1 none none) hhigher start

lemma aggregate_minutesIn_iff (hhigher : Timeframe.minute1.toSeconds < timeframe.toSeconds) :
    aggregate (minutesIn series timeframe start rows) .minute1 timeframe = .ok [candle] ↔
      aggregateBucket start (minutesIn series timeframe start rows) = some candle := by
  rw [aggregate_minutesIn hsound hhigher]
  cases aggregateBucket start (minutesIn series timeframe start rows) <;> simp

end

/-- **A stored candle is never replaced**: in every run the table only grows at its end, and its keys
are unique, its candles traded and on the grid, its derived ones of a higher timeframe. -/
theorem isPrefix_run (steps later : List Step) : Sound (steps.foldl Ohlcv.step []) ∧
    (steps.foldl Ohlcv.step []).IsPrefix ((steps ++ later).foldl Ohlcv.step []) := by
  have hsound : Sound (steps.foldl Ohlcv.step []) :=
    List.foldlRecOn steps _ sound_nil fun _ h s _ => h.step s
  refine ⟨hsound, ?_⟩
  rw [foldl_append]
  generalize steps.foldl Ohlcv.step [] = rows at hsound ⊢
  induction later generalizing rows with
  | nil => exact prefix_refl _
  | cons s later ih =>
    obtain ⟨added, hstep, -⟩ := step_spec hsound s
    exact (hstep ▸ prefix_append rows added).trans (ih _ (hsound.step s))

/-- Some derived candle has less than the volume of the minutes stored for its bucket. -/
def Behind (series : Series) (rows : List CandleRow) : Prop :=
  ∃ row ∈ rows, row.series = series ∧ row.source = .monitorAggregate ∧
    row.candle.volume < volumeIn series row.timeframe row.candle.timestamp rows

lemma Agrees.volume (h : Agrees series rows) (hsound : Sound rows) (hrow : row ∈ rows)
    (hseries : row.series = series) (hsource : row.source = .monitorAggregate) :
    row.candle.volume = volumeIn series row.timeframe row.candle.timestamp rows := by
  have hbucket := (aggregate_minutesIn_iff hsound (hsound.higher row hrow hsource)).mp
    (h row hrow hseries hsource)
  rw [(of_aggregateBucket hbucket).2.2, sum_minutesIn]

theorem Behind.disagrees (h : Behind series rows) (hsound : Sound rows) : ¬Agrees series rows := by
  intro hagrees
  obtain ⟨row, hrow, hseries, hsource, hlt⟩ := h
  exact hlt.ne (hagrees.volume hsound hrow hseries hsource)

lemma Behind.step (h : Behind series rows) (hsound : Sound rows) (s : Step) :
    Behind series (step rows s) := by
  obtain ⟨row, hrow, hseries, hsource, hlt⟩ := h
  obtain ⟨added, heq, hadded⟩ := step_spec hsound s
  refine ⟨row, by rw [heq]; exact mem_append_left _ hrow, hseries, hsource, ?_⟩
  rw [heq, volumeIn_append]
  exact lt_of_lt_of_le hlt (le_add_of_nonneg_right
    (volumeIn_nonneg fun row hrow => (hadded row hrow).2.1))

variable {series' : Series}

lemma agrees_batch (hagrees : Agrees series rows) {timeframe : Timeframe}
    (hbatch : s.batch = some (series', timeframe, points, source))
    (hcareful : Careful series rows s) : Agrees series (step rows s) := by
  obtain ⟨hother, hstep⟩ := step_of_batch rows hbatch
  obtain ⟨added, heq, hadded⟩ := insertCandlesBatch_spec series' timeframe points source rows
  rw [hstep, heq]
  intro row hrow hseries hsource
  rcases mem_append.mp hrow with hrow | hrow
  · rw [minutesIn_append]
    · exact hagrees row hrow hseries hsource
    · intro minute hminute hin
      obtain ⟨hfresh, candle, hcandle, hvolume, rfl⟩ := hadded minute hminute
      obtain ⟨rfl, rfl, hstart⟩ := hin
      exact hcareful.1 points source hbatch candle hcandle hvolume hfresh row hrow hseries hsource
        hstart
  · obtain ⟨-, candle, -, -, rfl⟩ := hadded row hrow
    exact absurd hsource hother

lemma agrees_refresh (hsound : Sound rows) (hagrees : Agrees series rows)
    (hcareful : Careful series rows (.refresh series' now)) :
    Agrees series (step rows (.refresh series' now)) := by
  obtain ⟨added, heq, hadded, -⟩ := refresh_spec hsound series' now
  rw [heq]
  have hsame : ∀ (timeframe : Timeframe) (start : ℤ),
      minutesIn series timeframe start (rows ++ added) = minutesIn series timeframe start rows := by
    intro timeframe start
    refine minutesIn_append ?_
    intro row hrow hminute
    obtain ⟨-, other, hother, candle, -, rfl⟩ := hadded row hrow
    obtain rfl : other = .minute1 := hminute.2.1
    exact absurd (minute1_lt_of_mem hother) (lt_irrefl _)
  intro row hrow hseries hsource
  rw [hsame]
  rcases mem_append.mp hrow with hrow | hrow
  · exact hagrees row hrow hseries hsource
  · obtain ⟨hfresh, timeframe, htimeframe, candle, hcandle, rfl⟩ := hadded row hrow
    obtain rfl : series' = series := hseries
    rw [aggregate_minutesIn_iff hsound (minute1_lt_of_mem htimeframe)]
    obtain ⟨-, -, minute, hminute, hstart⟩ := of_mem_combined (windowMinutes_pos hsound) hcandle
    have hwhole := hcareful.2 now rfl timeframe htimeframe minute hminute (by rw [hstart]; exact hfresh)
    rw [hstart] at hwhole
    rw [← inBucket_windowMinutes hwhole]
    exact mem_combined.mp hcandle

lemma Agrees.step (hagrees : Agrees series rows) (hsound : Sound rows) {s : Step}
    (hcareful : Careful series rows s) : Agrees series (step rows s) := by
  cases hbatch : s.batch with
  | some batch => exact agrees_batch hagrees hbatch hcareful
  | none =>
    cases s with
    | refresh series' now => exact agrees_refresh hsound hagrees hcareful
    | _ => cases hbatch

lemma behind_of_disturbed (hsound : Sound rows) (hagrees : Agrees series rows)
    (hbatch : s.batch = some (series, .minute1, points, source))
    (hdisturbed : ¬Undisturbed series rows points) : Behind series (step rows s) := by
  simp only [Undisturbed, not_forall, not_not] at hdisturbed
  obtain ⟨candle, hcandle, hvolume, hfresh, row, hrow, hseries, hsource, hstart⟩ := hdisturbed
  obtain ⟨added, heq, hadded⟩ := insertCandlesBatch_spec series .minute1 points source rows
  have hstep : step rows s = rows ++ added := (step_of_batch rows hbatch).2.trans heq
  -- the minute is in the table after the batch, and was not before
  have hkey : (series, Timeframe.minute1, bucketStart Timeframe.minute1.toSeconds candle.timestamp) ∈
      (rows ++ added).map CandleRow.key := by
    rw [← heq]
    exact mem_keys_insertCandlesBatch.mpr (Or.inr ⟨candle, hcandle, hvolume, rfl⟩)
  rw [map_append] at hkey
  obtain ⟨minute, hminute, hminuteKey⟩ :=
      mem_map.mp ((mem_append.mp hkey).resolve_left hfresh)
  have hin : IsMinuteIn series row.timeframe row.candle.timestamp minute := by
    simp only [CandleRow.key, Prod.mk.injEq] at hminuteKey
    exact ⟨hminuteKey.1, hminuteKey.2.1, by rw [hminuteKey.2.2, hstart]⟩
  have htrades : ∀ row ∈ added, 0 < row.candle.volume := by
    intro row hrow
    obtain ⟨-, candle, -, hvolume, rfl⟩ := hadded row hrow
    exact hvolume
  refine ⟨row, by rw [hstep]; exact mem_append_left _ hrow, hseries, hsource, ?_⟩
  rw [hstep, volumeIn_append, hagrees.volume hsound hrow hseries hsource]
  exact lt_add_of_pos_right _ (volumeIn_pos htrades hminute hin)

lemma sum_window_lt (hsound : Sound rows) (hcandle : candle ∈ minutesIn series timeframe start rows)
    (hout : ¬(windowStart now ≤ candle.timestamp ∧ candle.timestamp ≤ now)) :
    ((inBucket timeframe.toSeconds start (windowMinutes series now rows)).map (·.volume)).sum <
      volumeIn series timeframe start rows := by
  obtain ⟨row, hrow, rfl⟩ := mem_minutesIn.mp hcandle
  rw [windowMinutes, inBucket_getCandles, ((Found.StableSort.sortByKey_perm _ _).map _).sum_eq,
    volumeIn]
  refine sum_filter_lt ?_ ⟨row.candle, mem_map_of_mem hrow, by simpa using hout⟩
  intro candle hcandle
  obtain ⟨row, hrow, rfl⟩ := mem_map.mp hcandle
  exact hsound.trades row (mem_minuteRows.mp hrow).1

lemma behind_of_not_whole (hsound : Sound rows) (hpart : ¬Whole series now rows) :
    Behind series (step rows (.refresh series now)) := by
  simp only [Whole, not_forall] at hpart
  obtain ⟨timeframe, htimeframe, minute, hminute, hfresh, other, hother, hout⟩ := hpart
  obtain ⟨added, heq, hadded, hkeys⟩ := refresh_spec hsound series now
  have hne : inBucket timeframe.toSeconds (bucketStart timeframe.toSeconds minute.timestamp)
      (windowMinutes series now rows) ≠ [] :=
    ne_nil_of_mem (mem_filter.mpr ⟨hminute, by simp⟩)
  obtain ⟨candle, hcandle, hstamp, hvolume⟩ :=
    exists_aggregateBucket (bucketStart timeframe.toSeconds minute.timestamp) hne
  have hmem : candle ∈ combined timeframe.toSeconds (windowMinutes series now rows) :=
    mem_combined.mpr (by rwa [hstamp])
  have hkey := hkeys timeframe htimeframe candle hmem
  rw [hstamp, map_append] at hkey
  obtain ⟨row, hrow, hrowKey⟩ := mem_map.mp ((mem_append.mp hkey).resolve_left hfresh)
  obtain ⟨-, timeframe', -, candle', hcandle', rfl⟩ := hadded row hrow
  simp only [CandleRow.key, Prod.mk.injEq, true_and] at hrowKey
  obtain ⟨rfl, hstamp'⟩ := hrowKey
  -- one candle for the period, so it is the one of the part
  obtain rfl : candle = candle' := by
    have := mem_combined.mp hcandle'
    rw [hstamp', hcandle] at this
    exact Option.some.inj this
  refine ⟨_, by rw [heq]; exact mem_append_right _ hrow, rfl, rfl, ?_⟩
  simp only [heq, volumeIn_append, hstamp, hvolume]
  refine lt_of_lt_of_le (sum_window_lt hsound hother hout) (le_add_of_nonneg_right ?_)
  refine volumeIn_nonneg fun row hrow => ?_
  obtain ⟨-, timeframe, -, candle, hcandle, rfl⟩ := hadded row hrow
  exact (of_mem_combined (windowMinutes_pos hsound) hcandle).1

lemma behind_of_not_careful (hsound : Sound rows) (hagrees : Agrees series rows)
    (h : ¬Careful series rows s) : Behind series (step rows s) := by
  rw [Careful, not_and_or] at h
  rcases h with h | h
  · simp only [not_forall] at h
    obtain ⟨points, source, hbatch, hdisturbed⟩ := h
    exact behind_of_disturbed hsound hagrees hbatch hdisturbed
  · simp only [not_forall] at h
    obtain ⟨now, rfl, hpart⟩ := h
    exact behind_of_not_whole hsound hpart

lemma careful_refresh (hcovers : Covers series now rows) :
    Careful series rows (.refresh series now) := by
  refine ⟨fun points source h => (by cases h), ?_⟩
  rintro now' h
  cases h
  intro timeframe _ minute _ _ candle hcandle
  exact hcovers candle (mem_filter.mp hcandle).1

/-! ## Runs -/

lemma sound_run (steps : List Step) : Sound (run steps) :=
  List.foldlRecOn (motive := Sound) steps step sound_nil fun _ h s _ => h.step s

lemma agrees_run_iff (series : Series) (steps : List Step) :
    Agrees series (run steps) ↔ Throughout step (Careful series) [] steps :=
  Found.Trace.holds_iff_throughout Sound (Agrees series) (Behind series) sound_nil
    (fun _ h => by cases h)
    (fun _ hsound s => hsound.step s) (fun _ hsound hagrees _ hcareful => hagrees.step hsound hcareful)
    (fun _ hsound hagrees _ => behind_of_not_careful hsound hagrees)
    (fun _ hsound hbehind s => hbehind.step hsound s)
      (fun _ hsound hbehind => hbehind.disagrees hsound)

/-- **Derived candles agree with their minutes** after a run and a last refresh over all of them,
exactly when every step of the run is careful. -/
theorem derived_agrees_iff (series : Series) (steps : List Step) (now : ℤ)
    (hcovers : Covers series now (run steps)) :
    Agrees series (run (steps ++ [.refresh series now])) ↔
      Throughout step (Careful series) [] steps := by
  rw [agrees_run_iff, Found.Trace.throughout_append]
  exact ⟨And.left, fun h => ⟨h, careful_refresh hcovers, trivial⟩⟩

/-- A minute with one unit of volume. -/
def minuteAt (timestamp : ℤ) : Candle := ⟨timestamp, 1, 1, 1, 1, 1⟩

/-- Two minutes that are there before the refresh. -/
theorem derived_agrees_iff_two_minutes : Throughout step (Careful ⟨"mint", "pool"⟩) []
    [.persist ⟨"mint", "pool"⟩ [minuteAt 60, minuteAt 0], .refresh ⟨"mint", "pool"⟩ 120] := by
  refine (derived_agrees_iff _ _ 120 ?_).mp ?_
  · unfold Covers
    decide +kernel
  · unfold Agrees
    decide +kernel

/-- A minute, a refresh, and the next minute. -/
def lateMinute (series : Series) : List Step :=
  [.persist series [minuteAt 0], .refresh series 60, .persist series [minuteAt 60]]

/-- A late minute: the candle of five minutes keeps the first one alone. -/
theorem not_agrees_after_refresh : ¬∀ (series : Series) (steps : List Step) (now : ℤ),
    Covers series now (run steps) → Agrees series (run (steps ++ [.refresh series now])) := by
  intro h
  have hcovers : Covers ⟨"mint", "pool"⟩ 120 (run (lateMinute ⟨"mint", "pool"⟩)) := by
    unfold Covers
    decide +kernel
  have hagrees := h _ _ _ hcovers
  revert hagrees
  unfold Agrees
  decide +kernel

end Dripline.Ohlcv

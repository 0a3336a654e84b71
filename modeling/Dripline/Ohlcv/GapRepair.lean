import Dripline.Ohlcv.Derived
import Dripline.Ohlcv.Fetcher

/-!
# Gap repair

`ohlcvs/gaps.rs`, with the table `ohlcv_gaps` of `ohlcvs/database/gaps.rs`.

* `gaps_repaired_iff` — the repair of the reported gaps is complete exactly when each of them is
  fillable.
-/

namespace Dripline.Ohlcv

open List

open Found.Unique (insert)

/-- A row of `ohlcv_gaps`. -/
structure GapRow where
  series : Series
  timeframe : Timeframe
  startTimestamp : ℤ
  endTimestamp : ℤ
  filled : Bool

namespace GapRow

/-- The unique columns. -/
def key (row : GapRow) : Series × Timeframe × ℤ × ℤ :=
  (row.series, row.timeframe, row.startTimestamp, row.endTimestamp)

end GapRow

/-- The candles, and the gaps on record. -/
structure Db where
  candles : List CandleRow
  gaps : List GapRow

/-- Source: `database/gaps.rs`, `insert_gap`: `INSERT OR IGNORE` -/
def insertGap (series : Series) (timeframe : Timeframe) (gap : ℤ × ℤ) (gaps : List GapRow) :
    List GapRow :=
  insert GapRow.key ⟨series, timeframe, gap.1, gap.2, false⟩ gaps

/-- Source: `database/gaps.rs` -/
def markGapFilled (series : Series) (timeframe : Timeframe) (gap : ℤ × ℤ) (gaps : List GapRow) :
    List GapRow :=
  gaps.map fun row =>
    if row.key = (series, timeframe, gap.1, gap.2) then { row with filled := true } else row

namespace GapManager

/-- Where the window of a detection starts. Source: `gaps.rs`, `detect_gaps` -/
def lookbackStart (retentionDays now : ℤ) (timeframe : Timeframe) : ℤ :=
  max (now - max retentionDays 1 * 86400 - max timeframe.toSeconds 1 * 2) 0

/-- How many minutes a detection reads. Source: `gaps.rs`, `detect_gaps` -/
def readLimit (retentionDays : ℤ) : ℕ :=
  min ((max ((max retentionDays 1 * 86400).tdiv 60) 1).toNat + 512) 200000

/-- The minutes that a detection reads. Source: `gaps.rs`, `detect_gaps` -/
def minutesRead (retentionDays now : ℤ) (series : Series) (timeframe : Timeframe)
    (rows : List CandleRow) :
    List Candle :=
  getCandles series .minute1 (some (lookbackStart retentionDays now timeframe)) none
    (some (readLimit retentionDays)) rows

/-- The series whose gaps are reported. Source: `gaps.rs`, `detect_gaps` -/
def normalized (timeframe : Timeframe) (data : List Candle) : Except OhlcvError (List Candle) :=
  if timeframe = .minute1 then .ok data else aggregate data .minute1 timeframe

/-- Source: `gaps.rs` -/
def detectGaps (retentionDays now : ℤ) (series : Series) (timeframe : Timeframe) (db : Db) :
    Db × Except OhlcvError (List (ℤ × ℤ)) :=
  let data := minutesRead retentionDays now series timeframe db.candles
  if data = [] then (db, .ok [])
  else
    match normalized timeframe data with
    | .error e => (db, .error e)
    | .ok series' =>
      let gaps := Ohlcv.detectGaps series' timeframe
      ({ db with gaps :=
        gaps.foldl (fun gaps gap => insertGap series timeframe gap gaps) db.gaps }, .ok gaps)

/-- Source: `gaps.rs`, `fill_gap`; the data is of minutes whatever the timeframe of the gap -/
def fillGap (provider : Provider) (series : Series) (timeframe : Timeframe) (gap : ℤ × ℤ) (db : Db) :
    Db × Except OhlcvError ℕ :=
  match fetchHistorical provider series.poolAddress .minute1 gap.1 gap.2 with
  | .error e => (db, .error e)
  | .ok data1m =>
    if data1m = [] then (db, .ok 0)
    else
      let inserted := insertCandlesBatch series .minute1 data1m .gapFiller db.candles
      if 0 < inserted.2 then
        (⟨inserted.1, markGapFilled series timeframe gap db.gaps⟩, .ok inserted.2)
      else ({ db with candles := inserted.1 }, .ok inserted.2)

/-- Gaps filled one after another. -/
def fillGaps (provider : Provider) (series : Series) (timeframe : Timeframe) (gaps : List (ℤ × ℤ))
    (db : Db) :
    Db :=
  gaps.foldl (fun db gap => (fillGap provider series timeframe gap db).1) db

end GapManager

/-! ## What a complete repair is -/

/-- A candle of a gap: a minute of one of its periods. -/
def InGap (timeframe : Timeframe) (gap : ℤ × ℤ) (candle : Candle) : Prop :=
  gap.1 ≤ candle.timestamp ∧ candle.timestamp < gap.2 + timeframe.toSeconds

/-- Every candle with trades that the provider has of a gap is stored. -/
def AllStored (held : List Candle) (series : Series) (timeframe : Timeframe) (gap : ℤ × ℤ)
    (db : Db) : Prop :=
  ∀ candle ∈ held, 0 < candle.volume → InGap timeframe gap candle →
    (series, Timeframe.minute1, candle.timestamp) ∈ db.candles.map CandleRow.key

/-- A gap is on record as filled. -/
def Filled (series : Series) (timeframe : Timeframe) (gap : ℤ × ℤ) (db : Db) : Prop :=
  ∃ row ∈ db.gaps, row.key = (series, timeframe, gap.1, gap.2) ∧ row.filled = true

/-- A provider that has every candle of a gap: trades in each of its periods. -/
def HoldsMissing (held : List Candle) (timeframe : Timeframe) (gap : ℤ × ℤ) : Prop :=
  ∀ time, timeframe.toSeconds ∣ time → gap.1 ≤ time → time ≤ gap.2 →
    ∃ candle ∈ held, 0 < candle.volume ∧ time ≤ candle.timestamp ∧
      candle.timestamp < time + timeframe.toSeconds

/-- Complete repair of the gaps that are reported of a series: they are exactly its maximal missing
runs, every candle of them is stored in the end, and none is marked filled that lacks one. -/
structure Repaired (held : List Candle) (series : Series) (timeframe : Timeframe) (data : List Candle)
    (report : List (ℤ × ℤ)) (before after : Db) : Prop where
  exact : ExactGaps timeframe data report
  stored : ∀ gap ∈ report, AllStored held series timeframe gap after
  marked : ∀ gap ∈ report, Filled series timeframe gap after →
    Filled series timeframe gap before ∨ AllStored held series timeframe gap after

/-- What the fetch of a gap reaches: more than one candle, nothing traded behind the start of the
last one, and no candle with trades beyond what the pages hold. -/
structure Fillable (held : List Candle) (size : ℕ) (timeframe : Timeframe) (gap : ℤ × ℤ) : Prop where
  several : gap.1 < gap.2
  last : ∀ candle ∈ held, 0 < candle.volume → gap.2 < candle.timestamp →
    gap.2 + timeframe.toSeconds ≤ candle.timestamp
  pages : ∀ candle ∈ held, 0 < candle.volume → gap.1 ≤ candle.timestamp → candle.timestamp ≤ gap.2 →
    (held.filter fun other => candle.timestamp ≤ other.timestamp ∧ other.timestamp ≤ gap.2).length ≤
      maxAttempts * pageSize size

/-! ## What a detection reports -/

variable {series : Series} {timeframe : Timeframe} {rows : List CandleRow} {retentionDays now : ℤ}
  {time : ℤ}

lemma bucketStart_of_dvd {bucket : ℤ} (hbucket : bucket ≠ 0) (h : bucket ∣ time) :
    bucketStart bucket time = time := by
  obtain ⟨count, rfl⟩ := h
  rw [mul_comm, bucketStart_mul hbucket]

lemma dvd_bucketStart (bucket time : ℤ) : bucket ∣ bucketStart bucket time := dvd_mul_left _ _

lemma bucketStart_eq {start : ℤ} (htime : 0 ≤ time) (hgrid : timeframe.toSeconds ∣ start)
    (hle : start ≤ time) (hlt : time < start + timeframe.toSeconds) :
    bucketStart timeframe.toSeconds time = start := by
  obtain ⟨count, rfl⟩ := hgrid
  have hpos := timeframe.toSeconds_pos
  have hcount : time.tdiv timeframe.toSeconds = count := by
    rw [Int.tdiv_eq_ediv_of_nonneg htime]
    exact (Int.ediv_eq_iff_of_pos hpos).mpr ⟨by linarith, by linarith⟩
  rw [bucketStart, hcount, mul_comm]

variable {candle : Candle}

lemma mem_drop_of_le {found : List Candle} (hstrict : found.Pairwise (·.timestamp < ·.timestamp))
    {count : ℕ} {later : Candle} (hcandle : candle ∈ found.drop count) (hlater : later ∈ found)
    (hle : candle.timestamp ≤ later.timestamp) : later ∈ found.drop count := by
  rw [← take_append_drop count found] at hstrict hlater
  refine (mem_append.mp hlater).resolve_left fun htaken => ?_
  exact absurd hle ((pairwise_append.mp hstrict).2.2 later htaken candle hcandle).not_ge

lemma of_mem_minutesRead
    (h : candle ∈ GapManager.minutesRead retentionDays now series timeframe rows) :
    candle ∈ getCandles series .minute1 (some (GapManager.lookbackStart retentionDays now
      timeframe)) none none
      rows ∧ 0 ≤ candle.timestamp := by
  have hmem := mem_of_mem_drop h
  refine ⟨hmem, ?_⟩
  obtain ⟨row, -, -, -, rfl, hfrom, -⟩ := mem_getCandles.mp hmem
  exact (le_max_right _ _).trans (hfrom _ rfl)

lemma mem_minutesRead_of_le (hsound : Sound rows)
    (hcandle : candle ∈ GapManager.minutesRead retentionDays now series timeframe rows)
    {row : CandleRow} (hrow : row ∈ rows) (hseries : row.series = series)
    (hminute : row.timeframe = .minute1) (hle : candle.timestamp ≤ row.candle.timestamp) :
    row.candle ∈ GapManager.minutesRead retentionDays now series timeframe rows := by
  refine mem_drop_of_le (strict_getCandles hsound.unique series .minute1 _ _) hcandle ?_ hle
  obtain ⟨row', -, -, -, heq, hfrom, -⟩ := mem_getCandles.mp (of_mem_minutesRead hcandle).1
  refine mem_getCandles.mpr ⟨row, hrow, hseries, hminute, rfl, ?_, by simp⟩
  intro time htime
  exact (hfrom time htime).trans hle

variable (series timeframe retentionDays now) in
lemma normalized_spec (hsound : Sound rows) : ∃ data,
    GapManager.normalized timeframe (GapManager.minutesRead retentionDays now series timeframe rows) =
      .ok data ∧
    (∀ candle ∈ data, timeframe.toSeconds ∣ candle.timestamp) ∧
    ∀ time, time ∈ data.map (·.timestamp) ↔
      ∃ minute ∈ GapManager.minutesRead retentionDays now series timeframe rows,
        bucketStart timeframe.toSeconds minute.timestamp = time := by
  generalize hminutes : GapManager.minutesRead retentionDays now series timeframe rows = minutes
  have hstored : ∀ minute ∈ minutes, 0 < minute.volume ∧
      bucketStart Timeframe.minute1.toSeconds minute.timestamp = minute.timestamp := by
    rintro minute hminute
    rw [← hminutes] at hminute
    obtain ⟨row, hrow, -, htimeframe, rfl, -⟩ := mem_getCandles.mp (of_mem_minutesRead hminute).1
    exact ⟨hsound.trades row hrow, htimeframe ▸ hsound.aligned row hrow⟩
  by_cases hminute1 : timeframe = .minute1
  · subst hminute1
    refine ⟨minutes, if_pos rfl, ?_, ?_⟩
    · intro minute hminute
      rw [← (hstored minute hminute).2]
      exact dvd_bucketStart _ _
    · intro time
      rw [mem_map]
      refine exists_congr fun minute => and_congr_right fun hminute => ?_
      rw [(hstored minute hminute).2]
  · have hstrict : minutes.Pairwise (·.timestamp < ·.timestamp) := by
      rw [← hminutes]
      exact (strict_getCandles hsound.unique series .minute1 _ _).sublist (drop_sublist _ _)
    have hfiner : Timeframe.minute1.toSeconds < timeframe.toSeconds := by
      revert hminute1
      cases timeframe <;> decide
    have hpos : ∀ minute ∈ minutes, 0 < minute.volume :=
        fun minute hminute => (hstored minute hminute).1
    refine ⟨combined timeframe.toSeconds minutes, ?_, ?_, ?_⟩
    · rw [GapManager.normalized, if_neg hminute1, aggregate_of_strict hstrict hfiner]
    · intro candle hcandle
      rw [← (of_mem_combined hpos hcandle).2.1]
      exact dvd_bucketStart _ _
    · intro time
      rw [mem_map]
      constructor
      · rintro ⟨candle, hcandle, rfl⟩
        exact (of_mem_combined hpos hcandle).2.2
      · rintro ⟨minute, hminute, rfl⟩
        have hne : inBucket timeframe.toSeconds
            (bucketStart timeframe.toSeconds minute.timestamp) minutes ≠
            [] := ne_nil_of_mem (mem_filter.mpr ⟨hminute, by simp⟩)
        obtain ⟨candle, hcandle, hstamp, -⟩ := exists_aggregateBucket _ hne
        exact ⟨candle, mem_combined.mpr (by rwa [hstamp]), hstamp⟩

variable {data : List Candle}

lemma detectGaps_ok (gaps : List GapRow)
    (hdata : GapManager.normalized timeframe (GapManager.minutesRead retentionDays now series
      timeframe rows) = .ok data) :
    (GapManager.detectGaps retentionDays now series timeframe ⟨rows, gaps⟩).2 =
        .ok (detectGaps data timeframe) ∧
      (GapManager.detectGaps retentionDays now series timeframe ⟨rows, gaps⟩).1.candles = rows := by
  simp only [GapManager.detectGaps]
  split
  · next hnil =>
    rw [hnil] at hdata
    have hempty : data = [] := by
      by_cases hminute1 : timeframe = .minute1
      · rw [GapManager.normalized, if_pos hminute1] at hdata
        exact (Except.ok.inj hdata).symm
      · have hnot : ¬timeframe.toSeconds < Timeframe.minute1.toSeconds :=
          not_lt.mpr timeframe.sixty_le_toSeconds
        rw [GapManager.normalized, if_neg hminute1, aggregate, if_neg hnot, if_pos rfl] at hdata
        exact (Except.ok.inj hdata).symm
    rw [hempty]
    exact ⟨rfl, rfl⟩
  · rw [hdata]
    exact ⟨rfl, rfl⟩

variable {gap : ℤ × ℤ}

lemma open_of_reported (hsound : Sound rows)
    (htimes : ∀ time, time ∈ data.map (·.timestamp) ↔
      ∃ minute ∈ GapManager.minutesRead retentionDays now series timeframe rows,
      bucketStart timeframe.toSeconds minute.timestamp = time)
    (haligned : ∀ candle ∈ data, timeframe.toSeconds ∣ candle.timestamp)
    (hgap : gap ∈ detectGaps data timeframe) (hin : InGap timeframe gap candle) :
    (series, Timeframe.minute1, candle.timestamp) ∉ rows.map CandleRow.key := by
  intro hkey
  obtain ⟨row, hrow, hrowKey⟩ := mem_map.mp hkey
  simp only [CandleRow.key, Prod.mk.injEq] at hrowKey
  obtain ⟨hseries, hminute, hstamp⟩ := hrowKey
  have hrun := ((exact_detectGaps haligned).runs gap).mp hgap
  have hpos := timeframe.toSeconds_pos
  obtain ⟨first, hfirst, hfirstStart⟩ := (htimes _).mp hrun.before
  have hfirstNonneg := (of_mem_minutesRead hfirst).2
  -- the period before the gap is read, so what is above it is read too
  obtain ⟨start, hstartGrid, hstartLe, hstartLt⟩ := Found.Grid.exists_period hpos first.timestamp
  have hstart := bucketStart_eq hfirstNonneg hstartGrid hstartLe hstartLt
  obtain ⟨hinLow, hinHigh⟩ := hin
  have hread : row.candle ∈ GapManager.minutesRead retentionDays now series timeframe rows :=
    mem_minutesRead_of_le hsound hfirst hrow hseries hminute (by omega)
  obtain ⟨time, htimeGrid, htimeLe, htimeLt⟩ := Found.Grid.exists_period hpos row.candle.timestamp
  have hbucket := bucketStart_eq (by omega) htimeGrid htimeLe htimeLt
  have hmem : time ∈ data.map (·.timestamp) := (htimes time).mpr ⟨row.candle, hread, hbucket⟩
  have hgapFirst : timeframe.toSeconds ∣ gap.1 := by
    obtain ⟨candle, hcandle, heq⟩ := mem_map.mp hrun.before
    have := haligned candle hcandle
    rw [heq] at this
    exact dvd_sub_self_right.mp this
  have hgapLast : timeframe.toSeconds ∣ gap.2 + timeframe.toSeconds := by
    obtain ⟨candle, hcandle, heq⟩ := mem_map.mp hrun.after
    exact heq ▸ haligned candle hcandle
  refine hrun.absent time hmem ⟨?_, ?_⟩
  · by_contra hlt
    have := Found.Grid.add_le_of_lt htimeGrid hgapFirst (not_le.mp hlt)
    omega
  · have := Found.Grid.add_le_of_lt htimeGrid hgapLast (by omega)
    omega

/-! ## What the fills store -/

variable {provider : Provider} {held : List Candle} {size : ℕ} {db : Db}

/-- The candles that the fetch of a gap reaches. -/
def reached (held : List Candle) (size : ℕ) (gap : ℤ × ℤ) : List Candle :=
  if gap.1 < gap.2 then (inRange gap.1 gap.2 held).take (maxAttempts * pageSize size) else []

lemma of_mem_reached (h : candle ∈ reached held size gap) :
    candle ∈ held ∧ gap.1 < gap.2 ∧ gap.1 ≤ candle.timestamp ∧ candle.timestamp ≤ gap.2 := by
  rw [reached] at h
  split at h
  · next hseveral =>
    obtain ⟨hheld, hle, hge⟩ := mem_inRange.mp (mem_of_mem_take h)
    exact ⟨hheld, hseveral, hle, hge⟩
  · cases h

section

variable (hserves : Serves provider series.poolAddress held size)
include hserves

lemma fetch_reached (gap : ℤ × ℤ) : ∃ data,
    fetchHistorical provider series.poolAddress .minute1 gap.1 gap.2 = .ok data ∧
      ∀ candle, candle ∈ data ↔ candle ∈ reached held size gap := by
  rw [reached]
  split
  · next hseveral => exact fetchHistorical_spec hserves hseveral
  · next hone => exact ⟨[], if_pos (not_lt.mp hone), fun candle => Iff.rfl⟩

lemma mem_keys_fillGap (gap : ℤ × ℤ) :
    (series, Timeframe.minute1, time) ∈
        (GapManager.fillGap provider series timeframe gap db).1.candles.map CandleRow.key ↔
      (series, Timeframe.minute1, time) ∈ db.candles.map CandleRow.key ∨
        ∃ candle ∈ reached held size gap, 0 < candle.volume ∧ candle.timestamp = time := by
  obtain ⟨data, hfetch, hdata⟩ := fetch_reached hserves gap
  have hinserted : (GapManager.fillGap provider series timeframe gap db).1.candles =
      (insertCandlesBatch series .minute1 data .gapFiller db.candles).1 := by
    rw [GapManager.fillGap, hfetch]
    simp only
    split
    · next hnil =>
      rw [hnil]
      rfl
    · split <;> rfl
  rw [hinserted, mem_keys_insertCandlesBatch]
  refine or_congr_right ?_
  simp only [Prod.mk.injEq, true_and]
  refine exists_congr fun candle => ?_
  rw [hdata candle]
  refine and_congr_right fun hreached => ?_
  rw [bucketStart_of_dvd Timeframe.minute1.toSeconds_pos.ne'
    (hserves.aligned candle (of_mem_reached hreached).1)]

lemma mem_keys_fillGaps (order : List (ℤ × ℤ)) : (series, Timeframe.minute1, time) ∈
        (GapManager.fillGaps provider series timeframe order db).candles.map CandleRow.key ↔
      (series, Timeframe.minute1, time) ∈ db.candles.map CandleRow.key ∨
        ∃ gap ∈ order, ∃ candle ∈ reached held size gap, 0 < candle.volume ∧
          candle.timestamp = time := by
  induction order generalizing db with
  | nil => simp [GapManager.fillGaps]
  | cons gap order ih =>
    rw [GapManager.fillGaps, foldl_cons, ← GapManager.fillGaps, ih, mem_keys_fillGap hserves]
    simp only [mem_cons, exists_eq_or_imp, or_assoc]

/-! ## Complete repair -/

lemma mem_reached_iff (hseveral : gap.1 < gap.2) (hheld : candle ∈ held)
    (hge : gap.1 ≤ candle.timestamp) (hle : candle.timestamp ≤ gap.2) :
    candle ∈ reached held size gap ↔
      (held.filter fun other => candle.timestamp ≤ other.timestamp ∧ other.timestamp ≤ gap.2).length ≤
        maxAttempts * pageSize size := by
  rw [reached, if_pos hseveral, Found.Newest.mem_take_iff (strict_inRange hserves.distinct gap.1 gap.2)
    (mem_inRange.mpr ⟨hheld, hge, hle⟩), inRange, Found.Newest.filter_newestFirst,
    (Found.Newest.newestFirst_perm _).length_eq, filter_filter]
  refine iff_of_eq (congrArg (fun l : List Candle => l.length ≤ maxAttempts * pageSize size) ?_)
  refine filter_congr fun other _ => ?_
  rw [Bool.eq_iff_iff]
  simp only [Bool.and_eq_true, decide_eq_true_eq]
  exact ⟨fun h => ⟨h.1, h.2.2⟩, fun h => ⟨h.1, hge.trans h.1, h.2⟩⟩

lemma reaches_iff_fillable (hle : gap.1 ≤ gap.2) (hgrid : timeframe.toSeconds ∣ gap.1)
    (hholds : HoldsMissing held timeframe gap) :
    (∀ candle ∈ held, 0 < candle.volume → InGap timeframe gap candle → candle ∈ reached held size gap) ↔
      Fillable held size timeframe gap := by
  constructor
  · intro hreaches
    have hseveral : gap.1 < gap.2 := by
      obtain ⟨candle, hheld, hvolume, hlow, hhigh⟩ := hholds gap.1 hgrid le_rfl hle
      exact (of_mem_reached (hreaches candle hheld hvolume ⟨hlow, by omega⟩)).2.1
    refine ⟨hseveral, ?_, ?_⟩
    · intro candle hheld hvolume hlast
      by_contra hlt
      have := (of_mem_reached (hreaches candle hheld hvolume ⟨by omega, by omega⟩)).2.2.2
      omega
    · intro candle hheld hvolume hge hle'
      have hpos := timeframe.toSeconds_pos
      exact (mem_reached_iff hserves hseveral hheld hge hle').mp
        (hreaches candle hheld hvolume ⟨hge, by omega⟩)
  · intro hfillable candle hheld hvolume hin
    have hle' : candle.timestamp ≤ gap.2 := by
      by_contra hlast
      have := hfillable.last candle hheld hvolume (not_le.mp hlast)
      have := hin.2
      omega
    exact (mem_reached_iff hserves hfillable.several hheld hin.1 hle').mpr
      (hfillable.pages candle hheld hvolume hin.1 hle')

end

lemma allStored_iff (hsound : Sound rows) (hserves : Serves provider series.poolAddress held size)
    (htimes : ∀ time, time ∈ data.map (·.timestamp) ↔
      ∃ minute ∈ GapManager.minutesRead retentionDays now series timeframe rows,
      bucketStart timeframe.toSeconds minute.timestamp = time)
    (haligned : ∀ candle ∈ data, timeframe.toSeconds ∣ candle.timestamp) {order : List (ℤ × ℤ)}
    (horder : ∀ gap, gap ∈ order ↔ gap ∈ detectGaps data timeframe) (hcandles : db.candles = rows)
    (hgap : gap ∈ detectGaps data timeframe) :
    AllStored held series timeframe gap (GapManager.fillGaps provider series timeframe order db) ↔
      ∀ candle ∈ held, 0 < candle.volume → InGap timeframe gap candle →
        candle ∈ reached held size gap := by
  have hexact := exact_detectGaps haligned
  have hgrid : ∀ time ∈ data.map (·.timestamp), timeframe.toSeconds ∣ time := by
    intro time htime
    obtain ⟨candle, hcandle, rfl⟩ := mem_map.mp htime
    exact haligned candle hcandle
  rw [AllStored]
  refine forall_congr' fun candle => forall_congr' fun hheld => forall_congr' fun hvolume =>
    forall_congr' fun hin => ?_
  rw [mem_keys_fillGaps hserves, hcandles,
    or_iff_right (open_of_reported hsound htimes haligned hgap hin)]
  constructor
  · rintro ⟨gap', hgap', candle', hreached, -, hstamp⟩
    obtain ⟨hheld', -, hge, hle⟩ := of_mem_reached hreached
    obtain rfl : candle' = candle := inj_on_of_nodup_map hserves.distinct hheld' hheld hstamp
    -- the period of the candle is in both gaps, so they are one
    have hrun := (hexact.runs gap).mp hgap
    have hrun' := (hexact.runs gap').mp ((horder gap').mp hgap')
    obtain ⟨time, htimeGrid, htimeLe, htimeLt⟩ :=
      Found.Grid.exists_period timeframe.toSeconds_pos candle'.timestamp
    have hfirst : timeframe.toSeconds ∣ gap.1 := dvd_sub_self_right.mp (hgrid _ hrun.before)
    have hfirst' : timeframe.toSeconds ∣ gap'.1 := dvd_sub_self_right.mp (hgrid _ hrun'.before)
    have hlow : gap.1 ≤ time := by
      by_contra hlt
      have := Found.Grid.add_le_of_lt htimeGrid hfirst (not_le.mp hlt)
      have := hin.1
      omega
    have hlow' : gap'.1 ≤ time := by
      by_contra hlt
      have := Found.Grid.add_le_of_lt htimeGrid hfirst' (not_le.mp hlt)
      omega
    have hhigh : time ≤ gap.2 := by
      have := Found.Grid.add_le_of_lt htimeGrid (hgrid _ hrun.after) (by have := hin.2; omega)
      omega
    obtain ⟨h₁, h₂⟩ :=
        hrun.eq_of_mem hrun' hgrid timeframe.toSeconds_pos ⟨hlow, hhigh⟩ ⟨hlow', by omega⟩
    rwa [Prod.ext h₁ h₂]
  · intro hreached
    exact ⟨gap, (horder gap).mpr hgap, candle, hreached, hvolume, rfl⟩

/-- **Complete gap repair**, of any stored series, in any order of the fills: exactly when each
reported gap is fillable. -/
theorem gaps_repaired_iff (steps : List Step) (gaps : List GapRow) (series : Series)
    (timeframe : Timeframe)
    (retentionDays now : ℤ) {provider : Provider} {held : List Candle} {size : ℕ}
    (hserves : Serves provider series.poolAddress held size) {data : List Candle}
    {report : List (ℤ × ℤ)}
    (hdata : GapManager.normalized timeframe
      (GapManager.minutesRead retentionDays now series timeframe (run steps)) = .ok data)
    (hreport : (GapManager.detectGaps retentionDays now series timeframe ⟨run steps, gaps⟩).2 =
      .ok report)
    (hholds : ∀ gap ∈ report, HoldsMissing held timeframe gap) {order : List (ℤ × ℤ)}
    (horder : ∀ gap, gap ∈ order ↔ gap ∈ report) :
    Repaired held series timeframe data report
        (GapManager.detectGaps retentionDays now series timeframe ⟨run steps, gaps⟩).1
        (GapManager.fillGaps provider series timeframe order
          (GapManager.detectGaps retentionDays now series timeframe ⟨run steps, gaps⟩).1) ↔
      ∀ gap ∈ report, Fillable held size timeframe gap := by
  have hsound := sound_run steps
  obtain ⟨data', hdata', haligned, htimes⟩ := normalized_spec series timeframe retentionDays now hsound
  obtain rfl : data' = data := Except.ok.inj (hdata'.symm.trans hdata)
  obtain ⟨hok, hcandles⟩ := detectGaps_ok gaps hdata
  obtain rfl : detectGaps data' timeframe = report := Except.ok.inj (hok.symm.trans hreport)
  have hexact := exact_detectGaps haligned
  have heach : ∀ gap ∈ detectGaps data' timeframe, AllStored held series timeframe gap
      (GapManager.fillGaps provider series timeframe order
        (GapManager.detectGaps retentionDays now series timeframe ⟨run steps, gaps⟩).1) ↔
      Fillable held size timeframe gap := by
    intro gap hgap
    have hrun := (hexact.runs gap).mp hgap
    have hgrid : timeframe.toSeconds ∣ gap.1 := by
      obtain ⟨candle, hcandle, heq⟩ := mem_map.mp hrun.before
      have hdvd := haligned candle hcandle
      rw [heq] at hdvd
      exact dvd_sub_self_right.mp hdvd
    rw [allStored_iff hsound hserves htimes haligned horder hcandles hgap,
      reaches_iff_fillable hserves hrun.le hgrid (hholds gap hgap)]
  constructor
  · intro hrepaired gap hgap
    exact (heach gap hgap).mp (hrepaired.stored gap hgap)
  · intro hfillable
    exact ⟨hexact, fun gap hgap => (heach gap hgap).mpr (hfillable gap hgap),
      fun gap hgap _ => Or.inr ((heach gap hgap).mpr (hfillable gap hgap))⟩

/-- A provider with a book of minutes. -/
def providerOf (held : List Candle) (size : ℕ) : Provider := fun _ _ before limit =>
  match before with
  | some before => .ok (newestPage before (min size limit) held)
  | none => .ok ((Found.Newest.newestFirst Candle.timestamp held).take (min size limit))

lemma serves_providerOf {poolAddress : String} {held : List Candle} (size : ℕ)
    (hdistinct : (held.map Candle.timestamp).Nodup)
    (haligned : ∀ candle ∈ held, Timeframe.minute1.toSeconds ∣ candle.timestamp) :
    Serves (providerOf held size) poolAddress held size :=
  ⟨hdistinct, haligned, fun _ _ => ⟨_, rfl, List.Perm.refl _⟩⟩

lemma holdsMissing_two {held : List Candle} (first last : ℤ) (hnext : last ≤ first + 60)
    (hfirst : ∃ candle ∈ held, 0 < candle.volume ∧ candle.timestamp = first)
    (hlast : ∃ candle ∈ held, 0 < candle.volume ∧ candle.timestamp = last) (hgrid : (60 : ℤ) ∣ first) :
    HoldsMissing held .minute1 (first, last) := by
  intro time htime hge hle
  simp only [Timeframe.toSeconds] at *
  rcases eq_or_lt_of_le hge with rfl | hlt
  · obtain ⟨candle, hcandle, hvolume, rfl⟩ := hfirst
    exact ⟨candle, hcandle, hvolume, le_rfl, by omega⟩
  · have := Found.Grid.add_le_of_lt hgrid htime hlt
    obtain ⟨candle, hcandle, hvolume, rfl⟩ := hlast
    exact ⟨candle, hcandle, hvolume, by omega, by omega⟩

/-- Two missing minutes are repaired. -/
theorem gaps_repaired_iff_two_minutes :
    Repaired [minuteAt 60, minuteAt 120] ⟨"mint", "pool"⟩ .minute1 [minuteAt 0, minuteAt 180]
      [(60, 120)]
      (GapManager.detectGaps 7 240 ⟨"mint", "pool"⟩ .minute1
        ⟨run [.persist ⟨"mint", "pool"⟩ [minuteAt 180, minuteAt 0]], []⟩).1
      (GapManager.fillGaps (providerOf [minuteAt 60, minuteAt 120] 1000) ⟨"mint", "pool"⟩ .minute1
        [(60, 120)]
        (GapManager.detectGaps 7 240 ⟨"mint", "pool"⟩ .minute1
          ⟨run [.persist ⟨"mint", "pool"⟩ [minuteAt 180, minuteAt 0]], []⟩).1) := by
  refine (gaps_repaired_iff _ [] _ _ 7 240 (serves_providerOf 1000 (by decide +kernel)
    (by decide +kernel))
    ?_ ?_ ?_ fun _ => Iff.rfl).mpr ?_
  · decide +kernel
  · decide +kernel
  · intro gap hgap
    obtain rfl := mem_singleton.mp hgap
    exact holdsMissing_two 60 120 (by decide) ⟨minuteAt 60, by simp, by decide +kernel, rfl⟩
      ⟨minuteAt 120, by simp, by decide +kernel, rfl⟩ (by decide)
  · intro gap hgap
    obtain rfl := mem_singleton.mp hgap
    exact ⟨by decide, by decide +kernel, by decide +kernel⟩

/-- One missing minute: the fetch of its gap asks for nothing. -/
theorem not_gaps_repaired : ¬∀ (steps : List Step) (gaps : List GapRow) (series : Series)
    (timeframe : Timeframe) (retentionDays now : ℤ) (provider : Provider) (held : List Candle)
    (size : ℕ)
    (data : List Candle) (report order : List (ℤ × ℤ)), Serves provider series.poolAddress held size →
    GapManager.normalized timeframe (GapManager.minutesRead retentionDays now series timeframe
      (run steps)) =
      .ok data →
    (GapManager.detectGaps retentionDays now series timeframe ⟨run steps, gaps⟩).2 = .ok report →
    (∀ gap ∈ report, HoldsMissing held timeframe gap) → (∀ gap, gap ∈ order ↔ gap ∈ report) →
      Repaired held series timeframe data report
        (GapManager.detectGaps retentionDays now series timeframe ⟨run steps, gaps⟩).1
        (GapManager.fillGaps provider series timeframe order
          (GapManager.detectGaps retentionDays now series timeframe ⟨run steps, gaps⟩).1) := by
  intro h
  have hrepaired :=
      h [.persist ⟨"mint", "pool"⟩ [minuteAt 0, minuteAt 120]] [] ⟨"mint", "pool"⟩ .minute1 7 240
    (providerOf [minuteAt 60] 1000) [minuteAt 60] 1000 [minuteAt 0, minuteAt 120] [(60, 60)] [(60, 60)]
    (serves_providerOf 1000 (by decide +kernel) (by decide +kernel)) (by decide +kernel)
      (by decide +kernel)
    (by
      intro gap hgap
      obtain rfl := mem_singleton.mp hgap
      exact holdsMissing_two 60 60 (by decide) ⟨minuteAt 60, by simp, by decide +kernel, rfl⟩
        ⟨minuteAt 60, by simp, by decide +kernel, rfl⟩ (by decide))
    fun _ => Iff.rfl
  have hstored := hrepaired.stored (60, 60) (by simp) (minuteAt 60) (by simp) (by decide +kernel)
    ⟨by decide +kernel, by decide +kernel⟩
  revert hstored
  decide +kernel

end Dripline.Ohlcv

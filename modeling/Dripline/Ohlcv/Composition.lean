import Dripline.Ohlcv.Aggregator
import Dripline.Found.Coarsen
import Mathlib

/-!
# Aggregation in any order, and in stages

`ohlcvs/aggregator.rs`. The candles of a period are joined in the order of their times, so neither
the order of a batch nor a finer timeframe on the way changes a series.

* `aggregate_lawful` — so it is, in any order, and with any timeframe on the way.
-/

namespace Dripline.Ohlcv

open Found.StableSort (sortByKey)
open Found.Coarsen List

/-- A candle of the time of two neighbours. -/
def join (first last : Candle) : Candle where
  timestamp := first.timestamp
  openPrice := first.openPrice
  high := max first.high last.high
  low := min first.low last.low
  close := last.close
  volume := first.volume + last.volume

/-- A candle stamped with another time. -/
def stamp (timestamp : ℤ) (candle : Candle) : Candle := { candle with timestamp := timestamp }

lemma joins : Joins Candle.timestamp join stamp where
  assoc := fun a b c => by simp only [join, max_assoc, min_assoc, add_assoc]
  key_stamp := fun _ _ => rfl
  stamp_stamp := fun _ _ _ => rfl
  stamp_left := fun _ _ _ _ => rfl
  stamp_right := fun _ _ _ _ => rfl

/-- The coarser series of joined candles. -/
abbrev coarser (bucketSize : ℤ) (points : List Candle) : List Candle :=
  coarsen Candle.timestamp join stamp (bucketStart bucketSize) points

/-! ## Periods -/

lemma monotone_bucketStart (timeframe : Timeframe) :
    Monotone (bucketStart timeframe.toSeconds) := by
  intro time time' hle
  have hpos := timeframe.toSeconds_pos
  exact Int.mul_le_mul_of_nonneg_right (Int.tdiv_le_tdiv hpos hle) hpos.le

lemma tdiv_tdiv {finer : ℤ} (hfiner : 0 ≤ finer) (time count : ℤ) :
    (time.tdiv finer).tdiv count = time.tdiv (finer * count) := by
  have hnonneg : ∀ time : ℤ, 0 ≤ time →
      (time.tdiv finer).tdiv count = time.tdiv (finer * count) := by
    intro time htime
    rw [Int.tdiv_eq_ediv_of_nonneg htime, Int.tdiv_eq_ediv_of_nonneg htime,
      Int.tdiv_eq_ediv_of_nonneg (Int.ediv_nonneg htime hfiner), Int.ediv_ediv_of_nonneg hfiner]
  rcases le_total 0 time with htime | htime
  · exact hnonneg time htime
  · have hopposite := hnonneg (-time) (neg_nonneg.mpr htime)
    rw [Int.neg_tdiv, Int.neg_tdiv, Int.neg_tdiv] at hopposite
    exact neg_injective hopposite

variable {finer wider : Timeframe}

lemma bucketStart_wider (h : finer.toSeconds ∣ wider.toSeconds) (time : ℤ) :
    bucketStart wider.toSeconds (bucketStart finer.toSeconds time) =
      bucketStart wider.toSeconds time := by
  obtain ⟨count, hcount⟩ := h
  have hpos := finer.toSeconds_pos
  have hstart : (time.tdiv finer.toSeconds * finer.toSeconds).tdiv wider.toSeconds =
      time.tdiv wider.toSeconds := by
    rw [hcount, Int.mul_comm _ finer.toSeconds, Int.mul_tdiv_mul_of_pos _ _ hpos,
      tdiv_tdiv hpos.le]
  rw [bucketStart, bucketStart, hstart, bucketStart]

/-! ## Joined candles -/

lemma aggregateBucket_cons (timestamp : ℤ) (first : Candle) (points : List Candle) :
    aggregateBucket timestamp (first :: points) =
      some ((aggregateBucket timestamp points).elim (stamp timestamp first)
        fun last => stamp timestamp (join first last)) := by
  cases points with
  | nil => simp [aggregateBucket, stamp]
  | cons second points =>
    have hne := cons_ne_nil second points
    obtain ⟨high, hhigh⟩ := Option.isSome_iff_exists.mp
      (isSome_max?_of_ne_nil (l := (second :: points).map (·.high)) (by simp))
    obtain ⟨low, hlow⟩ := Option.isSome_iff_exists.mp
      (isSome_min?_of_ne_nil (l := (second :: points).map (·.low)) (by simp))
    have hlast := List.getLast?_eq_some_getLast hne
    have hhigher : ((first :: second :: points).map (·.high)).max? = some (max first.high high) := by
      rw [map_cons, List.max?_cons, hhigh]
      rfl
    have hlower : ((first :: second :: points).map (·.low)).min? = some (min first.low low) := by
      rw [map_cons, List.min?_cons, hlow]
      rfl
    rw [aggregateBucket, aggregateBucket, hhigher, hlower, hhigh, hlow, List.getLast?_cons_cons,
      hlast]
    rfl

/-! ## The coarser series -/

lemma strict_combined (bucketSize : ℤ) (points : List Candle) :
    (combined bucketSize points).Pairwise (·.timestamp < ·.timestamp) := by
  apply Found.StableSort.strict_sortByKey
  rw [List.Nodup, pairwise_map, pairwise_filterMap, buckets, pairwise_map]
  refine (nodup_dedup _).imp ?_
  intro start start' hne candle hcandle candle' hcandle'
  obtain ⟨-, hstart, -⟩ := of_aggregateBucket hcandle
  obtain ⟨-, hstart', -⟩ := of_aggregateBucket hcandle'
  rwa [hstart, hstart']

variable {series : List Candle}

lemma nodup_of_strict (h : series.Pairwise (·.timestamp < ·.timestamp)) :
    (series.map Candle.timestamp).Nodup :=
  pairwise_map.mpr (h.imp ne_of_lt)

lemma eq_of_strict {series' : List Candle} (h : series.Pairwise (·.timestamp < ·.timestamp))
    (h' : series'.Pairwise (·.timestamp < ·.timestamp))
    (hmem : ∀ candle, candle ∈ series ↔ candle ∈ series') : series = series' := by
  refine List.Perm.eq_of_pairwise ?_ h h' ((perm_ext_iff_of_nodup
    (List.Nodup.of_map _ (nodup_of_strict h)) (List.Nodup.of_map _ (nodup_of_strict h'))).mpr hmem)
  intro candle candle' _ _ hlt hlt'
  exact absurd hlt' hlt.not_gt

lemma combined_eq_coarsen (timeframe : Timeframe) {points : List Candle}
    (h : points.Pairwise (·.timestamp ≤ ·.timestamp)) :
    combined timeframe.toSeconds points = coarser timeframe.toSeconds points := by
  have hstrict : (coarser timeframe.toSeconds points).Pairwise (·.timestamp < ·.timestamp) :=
    pairwise_coarsen joins (monotone_bucketStart timeframe) h
  refine eq_of_strict (strict_combined _ _) hstrict fun candle => ?_
  have hfind := find?_coarsen joins (monotone_bucketStart timeframe)
    (aggregateBucket_nil candle.timestamp) (aggregateBucket_cons candle.timestamp) h
  rw [mem_combined, inBucket, ← hfind]
  constructor
  · exact mem_of_find?_eq_some
  · intro hcandle
    have hsome : ((coarser timeframe.toSeconds points).find?
        fun found => decide (found.timestamp = candle.timestamp)).isSome := by
      rw [List.find?_isSome]
      exact ⟨candle, hcandle, decide_eq_true rfl⟩
    obtain ⟨found, hfound⟩ := Option.isSome_iff_exists.mp hsome
    have hsame : found.timestamp = candle.timestamp := by simpa using List.find?_some hfound
    rw [hfound, inj_on_of_nodup_map (nodup_of_strict hstrict)
      (mem_of_find?_eq_some hfound) hcandle hsame]

/-! ## Aggregates of candles with distinct times -/

variable {data : List Candle}

lemma oneCandlePerTimestamp_of_nodup (h : (data.map Candle.timestamp).Nodup) :
    oneCandlePerTimestamp data = sortByKey Candle.timestamp data := by
  rw [oneCandlePerTimestamp, foldl_pushLatest (Found.StableSort.strict_sortByKey _ h) (by simp),
    nil_append]

lemma sortByKey_of_perm {data' : List Candle} (h : (data.map Candle.timestamp).Nodup)
    (hperm : data'.Perm data) :
    sortByKey Candle.timestamp data' = sortByKey Candle.timestamp data := by
  refine (Found.StableSort.sortBy_eq_of_perm _ hperm.symm ?_).symm
  intro candle hcandle candle' hcandle' hcmp
  exact inj_on_of_nodup_map h hcandle hcandle' (compare_eq_iff_eq.mp hcmp)

lemma toSeconds_inj {timeframe timeframe' : Timeframe}
    (h : timeframe.toSeconds = timeframe'.toSeconds) : timeframe = timeframe' := by
  cases timeframe <;> cases timeframe' <;> first | rfl | exact absurd h (by decide)

variable {fromTimeframe toTimeframe : Timeframe}

lemma aggregate_of_nodup (h : (data.map Candle.timestamp).Nodup)
    (hle : fromTimeframe.toSeconds ≤ toTimeframe.toSeconds) :
    aggregate data fromTimeframe toTimeframe = .ok (if fromTimeframe = toTimeframe then
      sortByKey Candle.timestamp data
    else coarser toTimeframe.toSeconds (sortByKey Candle.timestamp data)) := by
  rw [aggregate, if_neg hle.not_gt, oneCandlePerTimestamp_of_nodup h,
    combined_eq_coarsen _ (Found.StableSort.pairwise_sortByKey _ data)]
  by_cases hempty : data = []
  · rw [if_pos hempty, hempty, Found.StableSort.sortByKey_nil, coarser, coarsen_nil, ite_self]
  · rw [if_neg hempty]
    split <;> rfl

/-- A coarser series, of candles with distinct times. -/
structure CoarserSeries (data : List Candle) (fromTimeframe toTimeframe : Timeframe)
    (series : List Candle) : Prop where
  ascending : series.Pairwise (·.timestamp < ·.timestamp)
  aligned : fromTimeframe ≠ toTimeframe →
    ∀ candle ∈ series, toTimeframe.toSeconds ∣ candle.timestamp
  untouched : fromTimeframe = toTimeframe → series.Perm data
  volume : (series.map (·.volume)).sum = (data.map (·.volume)).sum

lemma series_of_nodup (h : (data.map Candle.timestamp).Nodup)
    (hseries : aggregate data fromTimeframe toTimeframe = .ok series)
    (hle : fromTimeframe.toSeconds ≤ toTimeframe.toSeconds) :
    CoarserSeries data fromTimeframe toTimeframe series := by
  rw [aggregate_of_nodup h hle] at hseries
  have hsorted := Found.StableSort.strict_sortByKey Candle.timestamp h
  have hperm := Found.StableSort.sortByKey_perm Candle.timestamp data
  split at hseries
  · next hsame =>
    cases hseries
    exact ⟨hsorted, fun hne => absurd hsame hne, fun _ => hperm, (hperm.map _).sum_eq⟩
  · next hne =>
    cases hseries
    refine ⟨?_, ?_, fun hsame => absurd hsame hne, ?_⟩
    · exact pairwise_coarsen joins (monotone_bucketStart toTimeframe) (hsorted.imp le_of_lt)
    · intro _ candle hcandle
      obtain ⟨point, -, hstart⟩ := exists_of_mem_coarsen joins hcandle
      rw [← hstart]
      exact Dvd.intro_left _ rfl
    · have hjoin : ∀ first last, (join first last).volume = first.volume + last.volume :=
        fun _ _ => rfl
      have hstamp : ∀ time candle, (stamp time candle).volume = candle.volume := fun _ _ => rfl
      exact (sum_coarsen hjoin hstamp _).trans (hperm.map _).sum_eq

lemma aggregate_aggregate (h : (data.map Candle.timestamp).Nodup)
    (hle : fromTimeframe.toSeconds ≤ finer.toSeconds) (hdvd : finer.toSeconds ∣ wider.toSeconds)
    (hseries : aggregate data fromTimeframe finer = .ok series) :
    aggregate series finer wider = aggregate data fromTimeframe wider := by
  have hlaw := series_of_nodup h hseries hle
  have hwider : finer.toSeconds ≤ wider.toSeconds := Int.le_of_dvd wider.toSeconds_pos hdvd
  have hself := Found.StableSort.sortByKey_eq_self _ (hlaw.ascending.imp le_of_lt)
  rw [aggregate_of_nodup h hle] at hseries
  rw [aggregate_of_nodup (nodup_of_strict hlaw.ascending) hwider,
    aggregate_of_nodup h (hle.trans hwider), hself]
  obtain rfl := Except.ok.inj hseries
  by_cases hfrom : fromTimeframe = finer
  · rw [if_pos hfrom, hfrom]
  · rw [if_neg hfrom]
    by_cases hsame : finer = wider
    · rw [if_pos hsame, hsame, if_neg (hsame ▸ hfrom)]
    · have hne : fromTimeframe ≠ wider := by
        rintro rfl
        exact hsame (toSeconds_inj (le_antisymm hwider hle))
      rw [if_neg hsame, if_neg hne]
      exact congrArg _ (coarsen_coarsen joins (bucketStart_wider hdvd) _)

/-- **Aggregation of candles with distinct times**: the order does not matter, coarser candles are
aligned and none of the volume is lost, and a finer timeframe on the way changes nothing. -/
theorem aggregate_lawful {data : List Candle} (hdata : (data.map Candle.timestamp).Nodup)
    (fromTimeframe toTimeframe : Timeframe) :
    (∀ data', data'.Perm data →
      aggregate data' fromTimeframe toTimeframe = aggregate data fromTimeframe toTimeframe) ∧
    ((∃ series, aggregate data fromTimeframe toTimeframe = .ok series) ↔
      fromTimeframe.toSeconds ≤ toTimeframe.toSeconds) ∧
    ∀ series, aggregate data fromTimeframe toTimeframe = .ok series →
      CoarserSeries data fromTimeframe toTimeframe series ∧
      ∀ wider, toTimeframe.toSeconds ∣ wider.toSeconds →
        aggregate series toTimeframe wider = aggregate data fromTimeframe wider := by
  have hok : (∃ series, aggregate data fromTimeframe toTimeframe = .ok series) ↔
      fromTimeframe.toSeconds ≤ toTimeframe.toSeconds := by
    constructor
    · rintro ⟨series, hseries⟩
      by_contra hgt
      rw [aggregate, if_pos (not_le.mp hgt)] at hseries
      cases hseries
    · intro hle
      exact ⟨_, aggregate_of_nodup hdata hle⟩
  refine ⟨?_, hok, ?_⟩
  · intro data' hperm
    by_cases hle : fromTimeframe.toSeconds ≤ toTimeframe.toSeconds
    · have hdata' : (data'.map Candle.timestamp).Nodup := (hperm.map _).nodup_iff.mpr hdata
      rw [aggregate_of_nodup hdata hle, aggregate_of_nodup hdata' hle, sortByKey_of_perm hdata hperm]
    · rw [aggregate, aggregate, if_pos (not_le.mp hle), if_pos (not_le.mp hle)]
  · intro series hseries
    have hle := hok.mp ⟨series, hseries⟩
    exact ⟨series_of_nodup hdata hseries hle,
      fun wider hdvd => aggregate_aggregate hdata hle hdvd hseries⟩

/-- A candle of thirty seconds past the epoch, of a volume. -/
def halfPast (timestamp : ℤ) (volume : ℚ) : Candle where
  timestamp
  openPrice := 1
  high := 1
  low := 1
  close := 1
  volume

theorem aggregate_lawful_pair :
    aggregate [halfPast 90 2, halfPast 30 1] .minute1 .minute5 =
      aggregate [halfPast 30 1, halfPast 90 2] .minute1 .minute5 := by
  have hnodup : ([halfPast 30 1, halfPast 90 2].map Candle.timestamp).Nodup := by decide
  exact (aggregate_lawful hnodup .minute1 .minute5).1 _ (List.Perm.swap _ _ _)

/-- Candles of the timeframe asked for are not aligned. -/
theorem not_aligned_same : ¬ ∀ (data : List Candle) (fromTimeframe toTimeframe : Timeframe)
    (series : List Candle), (data.map Candle.timestamp).Nodup →
      aggregate data fromTimeframe toTimeframe = .ok series →
        ∀ candle ∈ series, toTimeframe.toSeconds ∣ candle.timestamp := by
  intro h
  have hall := h [halfPast 30 1] .minute1 .minute1 [halfPast 30 1] (by decide) rfl
  exact absurd (hall _ mem_cons_self) (by decide)

end Dripline.Ohlcv

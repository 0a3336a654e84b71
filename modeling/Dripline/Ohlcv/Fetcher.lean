import Dripline.Ohlcv.Aggregator
import Dripline.Found.Newest

/-!
# Fetching history backwards

`ohlcvs/fetcher.rs`, over a provider that is not part of the program.
-/

namespace Dripline.Ohlcv

open Found.Newest List

/-- Source: `fetcher.rs` -/
def maxCandlesPerRequest : ℕ := 1000

/-- Source: `fetcher.rs`, `MAX_ATTEMPTS` of `fetch_historical` -/
def maxAttempts : ℕ := 500

/-- A provider of candles: a pool, the granularity, the time to read back from, and the number of
candles. -/
abbrev Provider := String → String → Option ℤ → ℕ → Except OhlcvError (List Candle)

/-- Source: `fetcher.rs` -/
def fetchImmediate (provider : Provider) (poolAddress : String) (timeframe : Timeframe)
    (beforeTimestamp : Option ℤ) (limit : ℕ) : Except OhlcvError (List Candle) :=
  provider poolAddress timeframe.toApiParam beforeTimestamp (min limit maxCandlesPerRequest)

/-- Source: `fetcher.rs`, the loop of `fetch_historical` -/
def fetchPages (provider : Provider) (poolAddress : String) (timeframe : Timeframe) (fromTs toTs : ℤ) :
    ℕ → Option ℤ → Option ℤ → List Candle → Except OhlcvError (List Candle)
  | 0, _, _, allData => .ok allData
  | attempts + 1, before, lastOldest, allData =>
    match fetchImmediate provider poolAddress timeframe before maxCandlesPerRequest with
    | .error e => .error e
    | .ok page =>
      let data := page.filter fun point => fromTs ≤ point.timestamp ∧ point.timestamp ≤ toTs
      -- an empty page and a page without candles of the range end the loop alike
      if data = [] then .ok allData
      else
        match (data.map (·.timestamp)).min? with
        | none => .error (.apiError "No timestamps in data")
        | some oldest =>
          if lastOldest.any (· ≤ oldest) then .ok allData
          else if oldest ≤ fromTs then .ok (allData ++ data)
          else if oldest - timeframe.toSeconds = toTs then .ok (allData ++ data)
          else
            fetchPages provider poolAddress timeframe fromTs toTs attempts
              (some (oldest - timeframe.toSeconds)) (some oldest) (allData ++ data)

/-- Source: `fetcher.rs` -/
def fetchHistorical (provider : Provider) (poolAddress : String) (timeframe : Timeframe)
    (fromTs toTs : ℤ) :
    Except OhlcvError (List Candle) :=
  if toTs ≤ fromTs then .ok []
  else (fetchPages provider poolAddress timeframe fromTs toTs maxAttempts (some toTs) none []).map
    firstPerTimestamp

/-! ## The provider -/

/-- The page of the newest candles at or before a time. -/
def newestPage (before : ℤ) (size : ℕ) (held : List Candle) : List Candle :=
  (newestFirst Candle.timestamp (held.filter fun candle => candle.timestamp ≤ before)).take size

/-- A provider that holds minutes, each once, and serves pages of at most `size` of the newest of
them at or before a time, in any order. -/
structure Serves (provider : Provider) (poolAddress : String) (held : List Candle) (size : ℕ) :
    Prop where
  distinct : (held.map Candle.timestamp).Nodup
  aligned : ∀ candle ∈ held, Timeframe.minute1.toSeconds ∣ candle.timestamp
  pages : ∀ before limit, ∃ page,
    provider poolAddress Timeframe.minute1.toApiParam (some before) limit = .ok page ∧
      page.Perm (newestPage before (min size limit) held)

/-- How many candles a page can have. -/
def pageSize (size : ℕ) : ℕ := min size maxCandlesPerRequest

/-- The candles of a range, the newest first. -/
def inRange (fromTs toTs : ℤ) (held : List Candle) : List Candle :=
  newestFirst Candle.timestamp (held.filter fun candle =>
    fromTs ≤ candle.timestamp ∧ candle.timestamp ≤ toTs)

variable {provider : Provider} {poolAddress : String} {held : List Candle} {size : ℕ} {fromTs toTs : ℤ}

lemma mem_inRange {candle : Candle} : candle ∈ inRange fromTs toTs held ↔
    candle ∈ held ∧ fromTs ≤ candle.timestamp ∧ candle.timestamp ≤ toTs := by
  simp [inRange]

lemma nodup_filter_times (h : (held.map Candle.timestamp).Nodup) (p : Candle → Bool) :
    ((held.filter p).map Candle.timestamp).Nodup :=
  h.sublist (filter_sublist.map _)

lemma strict_inRange (h : (held.map Candle.timestamp).Nodup) (fromTs toTs : ℤ) :
    (inRange fromTs toTs held).Pairwise fun a b => b.timestamp < a.timestamp :=
  strict_newestFirst (nodup_filter_times h _)

lemma newestPage_filter (h : (held.map Candle.timestamp).Nodup) {before : ℤ} (hbefore : before ≤ toTs)
    (count : ℕ) : ((newestPage before count held).filter fun candle =>
      fromTs ≤ candle.timestamp ∧ candle.timestamp ≤ toTs) =
        (inRange fromTs before held).take count := by
  have habove : ((newestPage before count held).filter fun candle =>
      fromTs ≤ candle.timestamp ∧ candle.timestamp ≤ toTs) =
      (newestPage before count held).filter fun candle => fromTs ≤ candle.timestamp := by
    refine filter_congr fun candle hcandle => ?_
    have hle : candle.timestamp ≤ before := by
      simpa using (mem_filter.mp (mem_newestFirst.mp (mem_of_mem_take hcandle))).2
    simp [hle.trans hbefore]
  have hpage := filter_take (strict_newestFirst (nodup_filter_times h
    fun candle => candle.timestamp ≤ before)) fromTs count
  rw [habove, newestPage, hpage, filter_newestFirst, filter_filter, inRange]
  simp

section

variable (hserves : Serves provider poolAddress held size)
include hserves

lemma inRange_drop {before oldest : ℤ} {count : ℕ}
    (hmem : ∃ candle ∈ (inRange fromTs before held).take count, candle.timestamp = oldest)
    (hle : ∀ candle ∈ (inRange fromTs before held).take count, oldest ≤ candle.timestamp) :
    (inRange fromTs before held).drop count =
      inRange fromTs (oldest - Timeframe.minute1.toSeconds) held := by
  rw [drop_eq_filter (strict_inRange hserves.distinct fromTs before) hmem hle, inRange,
    filter_newestFirst, filter_filter, inRange]
  refine congrArg _ (filter_congr fun candle hcandle => ?_)
  obtain ⟨candle', hcandle', rfl⟩ := hmem
  obtain ⟨hheld', -, hbefore⟩ := mem_inRange.mp (mem_of_mem_take hcandle')
  have hgrid := hserves.aligned candle hcandle
  have hgrid' := hserves.aligned candle' hheld'
  rw [Bool.eq_iff_iff]
  simp only [Bool.and_eq_true, decide_eq_true_eq]
  constructor
  · rintro ⟨hlt, hfrom, -⟩
    have := Found.Grid.add_le_of_lt hgrid hgrid' hlt
    exact ⟨hfrom, by omega⟩
  · rintro ⟨hfrom, hto⟩
    have := Timeframe.minute1.toSeconds_pos
    exact ⟨by omega, hfrom, by omega⟩

/-! ## The loop -/

lemma fetchPages_spec (attempts : ℕ) {before : ℤ} (hbefore : before ≤ toTs) {lastOldest : Option ℤ}
    (hlast : ∀ last ∈ lastOldest, before < last) (allData : List Candle) : ∃ data,
      fetchPages provider poolAddress .minute1 fromTs toTs attempts (some before) lastOldest allData =
        .ok data ∧
      data.Perm (allData ++ (inRange fromTs before held).take (attempts * pageSize size)) := by
  induction attempts generalizing before lastOldest allData with
  | zero => exact ⟨allData, rfl, by simp⟩
  | succ attempts ih =>
    obtain ⟨page, hpage, hperm⟩ := hserves.pages before maxCandlesPerRequest
    have hdata : (page.filter fun point => fromTs ≤ point.timestamp ∧ point.timestamp ≤ toTs).Perm
        ((inRange fromTs before held).take (pageSize size)) := by
      rw [← newestPage_filter hserves.distinct hbefore]
      exact hperm.filter _
    have hfetch : fetchImmediate provider poolAddress .minute1 (some before) maxCandlesPerRequest =
        .ok page := hpage
    have htake : (inRange fromTs before held).take ((attempts + 1) * pageSize size) =
        (inRange fromTs before held).take (pageSize size) ++
          ((inRange fromTs before held).drop (pageSize size)).take (attempts * pageSize size) := by
      rw [Nat.succ_mul, Nat.add_comm, take_add]
    rw [fetchPages, hfetch]
    simp only
    generalize page.filter (fun point => fromTs ≤ point.timestamp ∧ point.timestamp ≤ toTs) =
      data at hdata
    by_cases hnil : data = []
    · -- nothing of the range is left, or the pages are empty
      subst hnil
      have hempty := nil_perm.mp hdata
      refine ⟨allData, by simp, ?_⟩
      rcases take_eq_nil_iff.mp hempty with hsize | hrange
      · simp [hsize]
      · simp [hrange]
    · obtain ⟨oldest, holdest⟩ := Option.isSome_iff_exists.mp
        (isSome_min?_of_ne_nil (l := data.map (·.timestamp)) (by simpa using hnil))
      obtain ⟨hmem, hle⟩ := List.min?_eq_some_iff.mp holdest
      have hmem' : ∃ candle ∈ (inRange fromTs before held).take (pageSize size),
          candle.timestamp = oldest := by
        obtain ⟨candle, hcandle, heq⟩ := mem_map.mp hmem
        exact ⟨candle, hdata.mem_iff.mp hcandle, heq⟩
      have hle' : ∀ candle ∈ (inRange fromTs before held).take (pageSize size),
          oldest ≤ candle.timestamp :=
        fun candle hcandle => hle _ (mem_map_of_mem (hdata.mem_iff.mpr hcandle))
      have hdrop := inRange_drop hserves hmem' hle'
      have holdestBefore : oldest ≤ before ∧ fromTs ≤ oldest := by
        obtain ⟨candle, hcandle, rfl⟩ := hmem'
        obtain ⟨-, hfrom, hto⟩ := mem_inRange.mp (mem_of_mem_take hcandle)
        exact ⟨hto, hfrom⟩
      have hnotLast : lastOldest.any (· ≤ oldest) = false := by
        cases lastOldest with
        | none => rfl
        | some last =>
          have := hlast last rfl
          simp only [Option.any_some, decide_eq_false_iff_not]
          omega
      have hminute := Timeframe.minute1.toSeconds_pos
      rw [if_neg hnil, holdest]
      simp only [hnotLast, Bool.false_eq_true, if_false]
      rw [if_neg (show ¬oldest - Timeframe.minute1.toSeconds = toTs by omega), htake, hdrop]
      split
      · -- the oldest candle of the range is on the page
        next hfrom =>
          have hrest : inRange fromTs (oldest - Timeframe.minute1.toSeconds) held = [] := by
            refine eq_nil_iff_forall_not_mem.mpr fun candle hcandle => ?_
            obtain ⟨-, hge, hle⟩ := mem_inRange.mp hcandle
            omega
          refine ⟨_, rfl, ?_⟩
          rw [hrest, take_nil, append_nil]
          exact hdata.append_left allData
      · have hnext : ∀ last ∈ some oldest, oldest - Timeframe.minute1.toSeconds < last := by
          intro last hlast
          obtain rfl := Option.some.inj hlast
          omega
        obtain ⟨data', hok, hperm'⟩ :=
          ih (show oldest - Timeframe.minute1.toSeconds ≤ toTs by omega) hnext (allData ++ data)
        refine ⟨data', hok, hperm'.trans ?_⟩
        rw [← append_assoc]
        exact (hdata.append_left allData).append_right _

lemma fetchHistorical_spec (hrange : fromTs < toTs) :
    ∃ data, fetchHistorical provider poolAddress .minute1 fromTs toTs = .ok data ∧
      ∀ candle, candle ∈ data ↔
        candle ∈ (inRange fromTs toTs held).take (maxAttempts * pageSize size) := by
  have hnone : ∀ last ∈ (none : Option ℤ), toTs < last := by simp
  obtain ⟨data, hdata, hperm⟩ : ∃ data,
      fetchPages provider poolAddress .minute1 fromTs toTs maxAttempts (some toTs) none [] =
        .ok data ∧ _ :=
    fetchPages_spec hserves maxAttempts le_rfl hnone []
  rw [nil_append] at hperm
  refine ⟨firstPerTimestamp data, ?_, ?_⟩
  · rw [fetchHistorical, if_neg hrange.not_ge, hdata]
    rfl
  · intro candle
    have htimes : (data.map Candle.timestamp).Nodup := by
      refine ((hperm.map _).nodup_iff).mpr (pairwise_map.mpr ?_)
      exact ((strict_inRange hserves.distinct fromTs toTs).sublist (take_sublist _ _)).imp
        fun h => h.ne'
    rw [mem_firstPerTimestamp htimes, hperm.mem_iff]

end

end Dripline.Ohlcv

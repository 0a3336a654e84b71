import Mathlib.Data.Set.Finite.Lemmas
import Dripline.Found.Newest
import Dripline.Found.Segment
import Dripline.Found.Trace

/-!
# Prices without a gap

`pools/types.rs`, `pools/cache.rs`, `pools/database/operations.rs`. Times are in nanoseconds. Every
reading of the clocks is a parameter, and so is what else a price says.

* `continuous_iff` — exactly when no price comes late, and the rows have stamps to match.

A source without a file is in `pools/types.rs` or the file of its section, where a definition
without a comment is the one of its name.
-/

namespace Dripline.Pools.PriceGaps

open List

open Dripline.Found.Newest (newestFirst)
open Dripline.Found.Segment (lastSegment newest)
open Dripline.Found.Trace (Throughout)

variable {D : Type}

def maxPriceGapSeconds : ℤ := 60

/-- Nanoseconds in a second. -/
def second : ℕ := 10 ^ 9

/-- Source: `PriceResult`, with what it says besides -/
structure PriceResult (D : Type) where
  mint : String
  poolAddress : String
  timestamp : ℕ
  data : D
  deriving DecidableEq

/-- A reading of the system time, and one of the clock that the timestamps are from. -/
structure Clock where
  unix : ℕ
  instant : ℕ

/-- Source: `PriceHistory`, the oldest price first -/
structure PriceHistory (D : Type) where
  mint : String
  prices : List (PriceResult D)
  maxEntries : ℕ

/-! ## In memory -/

def approximateTimestamp (clock : Clock) (price : PriceResult D) : ℤ :=
  (clock.unix / second : ℕ) - ((clock.instant - price.timestamp) / second : ℕ)

/-- The test of two prices; the clocks are read for the later one first. -/
def gapBetween (clock : ℕ → Clock) (reading : ℕ) (earlier later : PriceResult D) : Bool :=
  maxPriceGapSeconds <
    approximateTimestamp (clock reading) later - approximateTimestamp (clock (reading + 1)) earlier

/-- The search, from some price back; the prices are given the newest first. -/
def findFrom (clock : ℕ → Clock) (reading : ℕ) : List (PriceResult D) → Option ℕ
  | current :: previous :: older =>
    if gapBetween clock reading previous current then some (older.length + 1)
    else findFrom clock (reading + 2) (previous :: older)
  | _ => none

namespace PriceHistory

def new (mint : String) (maxEntries : ℕ) : PriceHistory D := ⟨mint, [], maxEntries⟩

def findContinuousDataStartIndex (history : PriceHistory D) (clock : ℕ → Clock) (reading : ℕ) :
    Option ℕ :=
  findFrom clock reading history.prices.reverse

def detectGapBeforePrice (history : PriceHistory D) (clock : ℕ → Clock) (price : PriceResult D) :
    Option ℕ :=
  match history.prices.getLast? with
  | none => none
  | some latest =>
    if gapBetween clock 0 latest price then history.findContinuousDataStartIndex clock 2 else none

def removeDataBeforeGap (history : PriceHistory D) (gapIndex : ℕ) : PriceHistory D :=
  if history.prices.length ≤ gapIndex then history
  else { history with prices := history.prices.drop gapIndex }

def addPrice (history : PriceHistory D) (clock : ℕ → Clock) (price : PriceResult D) :
    PriceHistory D :=
  let history := match history.detectGapBeforePrice clock price with
    | some gapIndex => history.removeDataBeforeGap gapIndex
    | none => history
  let prices := if history.maxEntries ≤ history.prices.length then history.prices.tail
    else history.prices
  { history with prices := prices ++ [price] }

/-- The history then, and how many prices were removed. -/
def cleanupGappedData (history : PriceHistory D) (clock : ℕ → Clock) : PriceHistory D × ℕ :=
  let cleaned := match history.findContinuousDataStartIndex clock 0 with
    | some startIndex => history.removeDataBeforeGap startIndex
    | none => history
  (cleaned, history.prices.length - cleaned.prices.length)

end PriceHistory

/-! ## In the database, `pools/database/types.rs` -/

structure DbPriceResult (D : Type) where
  chainId : String
  mint : String
  poolAddress : String
  timestampUnix : ℤ
  data : D
  deriving DecidableEq

def approximateUnixTimestamp (clock : Clock) (timestamp : ℕ) : ℤ :=
  ((clock.unix - (clock.instant - timestamp)) / second : ℕ)

def fromPriceResult (chainId : String) (clock : Clock) (price : PriceResult D) : DbPriceResult D :=
  ⟨chainId, price.mint, price.poolAddress, approximateUnixTimestamp clock price.timestamp, price.data⟩

/-- `UNIQUE(chain_id, mint, pool_address, timestamp_unix)`. -/
def SameKey (row other : DbPriceResult D) : Prop :=
  row.chainId = other.chainId ∧ row.mint = other.mint ∧ row.poolAddress = other.poolAddress ∧
    row.timestampUnix = other.timestampUnix

instance decidableSameKey (row other : DbPriceResult D) : Decidable (SameKey row other) :=
  inferInstanceAs (Decidable (_ ∧ _ ∧ _ ∧ _))

/-- `INSERT OR REPLACE INTO price_history`. Source: `pools/database/writer.rs`,
`flush_write_buffer` -/
def insertOrReplace (table : List (DbPriceResult D)) (row : DbPriceResult D) :
    List (DbPriceResult D) :=
  (table.filter fun other => ¬SameKey other row) ++ [row]

/-- `chain_id = ? AND mint = ?`. -/
def OfToken (chainId mint : String) (row : DbPriceResult D) : Prop :=
  row.chainId = chainId ∧ row.mint = mint

instance decidableOfToken (chainId mint : String) (row : DbPriceResult D) :
    Decidable (OfToken chainId mint row) := inferInstanceAs (Decidable (_ ∧ _))

/-- Source: `pools/database/operations.rs`, `find_first_price_gap`, the loop -/
def firstGap : List ℤ → Option ℤ
  | currentTime :: prevTime :: older =>
    if maxPriceGapSeconds < currentTime - prevTime then some prevTime
    else firstGap (prevTime :: older)
  | _ => none

/-- The stamps of a token. -/
def stampsOf (chainId mint : String) (table : List (DbPriceResult D)) : List ℤ :=
  (table.filter (OfToken chainId mint ·)).map DbPriceResult.timestampUnix

/-- Source: `pools/database/operations.rs` -/
def findFirstPriceGap (chainId mint : String) (table : List (DbPriceResult D)) : Option ℤ :=
  firstGap (newestFirst id (stampsOf chainId mint table))

/-- Source: `pools/error.rs`, `Error::NotInitialized` -/
inductive Error
  | notInitialized

/-- How many rows were deleted, and the table then; there may be no connection. Source:
`pools/database/operations.rs`, `cleanup_gapped_data_for_token` -/
def cleanupGappedDataForToken (chainId mint : String)
    (connection : Option (List (DbPriceResult D))) : Except Error (ℕ × List (DbPriceResult D)) :=
  match connection with
  | none => .error .notInitialized
  | some table =>
    match findFirstPriceGap chainId mint table with
    | none => .ok (0, table)
    | some cutoff =>
      let kept := table.filter fun row =>
        ¬(OfToken chainId mint row ∧ row.timestampUnix ≤ cutoff)
      .ok (table.length - kept.length, kept)

/-! ## Runs -/

/-- A call, with the readings of the clocks that it makes. -/
inductive Op (D : Type)
  | addPrice (clock : ℕ → Clock) (price : PriceResult D)
  | cleanupGappedData (clock : ℕ → Clock)

/-- The history, and the prices it was given. -/
structure Run (D : Type) where
  history : PriceHistory D
  received : List (PriceResult D)

/-- What a call does. -/
def step (run : Run D) : Op D → Run D
  | .addPrice clock price => ⟨run.history.addPrice clock price, run.received ++ [price]⟩
  | .cleanupGappedData clock => ⟨(run.history.cleanupGappedData clock).1, run.received⟩

/-- A new history. -/
def start (mint : String) (maxEntries : ℕ) : Run D := ⟨.new mint maxEntries, []⟩

/-- The prices of some calls. -/
def received (ops : List (Op D)) : List (PriceResult D) :=
  ops.filterMap fun
    | .addPrice _ price => some price
    | .cleanupGappedData _ => none

/-- At most the longest gap apart. -/
def Near (earlier later : PriceResult D) : Prop :=
  later.timestamp ≤ earlier.timestamp + maxPriceGapSeconds.toNat * second

instance decidableNear (earlier later : PriceResult D) : Decidable (Near earlier later) :=
  inferInstanceAs (Decidable (_ ≤ _))

/-- The last of the prices without a gap, as many as there is room for. -/
def Exact (run : Run D) : Prop :=
  run.history.prices = newest run.history.maxEntries (lastSegment Near run.received)

/-- The rows of the prices, each written at its own time. -/
def rowsOf (chainId : String) (written : ℕ → Clock) (prices : List (PriceResult D)) :
    List (DbPriceResult D) :=
  prices.mapIdx fun index price => fromPriceResult chainId (written index) price

/-- The rows of the last prices without a gap. -/
def segmentRows (chainId : String) (written : ℕ → Clock) (prices : List (PriceResult D)) :
    List (DbPriceResult D) :=
  newest (lastSegment Near prices).length (rowsOf chainId written prices)

/-- A cleanup keeps these of the rows of a token, and no others. -/
def KeepsRows (chainId mint : String) (table rows : List (DbPriceResult D)) : Prop :=
  ∃ deleted kept, cleanupGappedDataForToken chainId mint (some table) = .ok (deleted, kept) ∧
    ∀ row ∈ table, OfToken chainId mint row → (row ∈ kept ↔ row ∈ rows)

/-- **Prices without a gap** are what is in memory after every call of a run, and what a cleanup
then leaves of the rows that were stored. -/
structure Continuous (chainId mint : String) (written : ℕ → Clock) (maxEntries : ℕ)
    (table : List (DbPriceResult D)) (ops : List (Op D)) : Prop where
  memory : Throughout step (fun run op => Exact (step run op)) (start mint maxEntries) ops
  rows : KeepsRows chainId mint ((rowsOf chainId written (received ops)).foldl insertOrReplace table)
    (segmentRows chainId written (received ops))

/-- No two of the prices that are near are read as more than the longest gap apart. -/
def Op.Steady (prices : List (PriceResult D)) : Op D → Prop
  | .addPrice clock _ | .cleanupGappedData clock =>
    ∀ earlier ∈ prices, ∀ later ∈ prices, Near earlier later →
      ∀ reading, gapBetween clock reading earlier later = false

/-- A price comes in time: there is room for prices, and it is near the last one unless there is
none or there is room for one only. -/
def InTime (run : Run D) : Op D → Prop
  | .addPrice _ price => run.history.maxEntries ≠ 0 ∧
      (run.history.maxEntries = 1 ∨ ∀ last ∈ run.received.getLast?, Near last price)
  | .cleanupGappedData _ => True

/-- The stamps of the rows match: each of these rows is the newest or has a newer one close by, and
the others are all far below. -/
structure StampsMatch (table rows : List (DbPriceResult D)) : Prop where
  close : ∀ row ∈ table, row ∈ rows →
    (∀ other ∈ table, other ∈ rows → other.timestampUnix ≤ row.timestampUnix) ∨
      ∃ next ∈ table, next ∈ rows ∧ row.timestampUnix < next.timestampUnix ∧
        next.timestampUnix ≤ row.timestampUnix + maxPriceGapSeconds
  far : ∀ old ∈ table, old ∉ rows → ∀ row ∈ table, row ∈ rows →
    old.timestampUnix + maxPriceGapSeconds < row.timestampUnix

/-! ## The history -/

section History

variable {prices : List (PriceResult D)} {clock : ℕ → Clock}

lemma findFrom_eq_none {l : List (PriceResult D)} (hmem : ∀ price ∈ l, price ∈ prices)
    (hsteady : ∀ earlier ∈ prices, ∀ later ∈ prices, Near earlier later →
      ∀ reading, gapBetween clock reading earlier later = false)
    (h : l.IsChain fun later earlier => Near earlier later) (reading : ℕ) :
    findFrom clock reading l = none := by
  induction l generalizing reading with
  | nil => rfl
  | cons current l ih =>
    cases l with
    | nil => rfl
    | cons previous older =>
      obtain ⟨hnear, hrest⟩ := isChain_cons_cons.mp h
      have hread := hsteady previous (hmem _ (by simp)) current (hmem _ (by simp)) hnear reading
      rw [findFrom, hread]
      exact ih (fun price hprice => hmem price (mem_cons_of_mem _ hprice)) hrest _

variable {history : PriceHistory D}

lemma findContinuousDataStartIndex_eq_none (hmem : ∀ price ∈ history.prices, price ∈ prices)
    (hsteady : ∀ earlier ∈ prices, ∀ later ∈ prices, Near earlier later →
      ∀ reading, gapBetween clock reading earlier later = false)
    (h : history.prices.IsChain Near) (reading : ℕ) :
    history.findContinuousDataStartIndex clock reading = none := by
  have hreverse : ∀ price ∈ history.prices.reverse, price ∈ prices :=
    fun price hprice => hmem price (mem_reverse.mp hprice)
  apply findFrom_eq_none hreverse
  · exact hsteady
  · rwa [isChain_reverse]

lemma detectGapBeforePrice_eq_none (hmem : ∀ price ∈ history.prices, price ∈ prices)
    (hsteady : ∀ earlier ∈ prices, ∀ later ∈ prices, Near earlier later →
      ∀ reading, gapBetween clock reading earlier later = false)
    (h : history.prices.IsChain Near) (price : PriceResult D) :
    history.detectGapBeforePrice clock price = none := by
  rw [PriceHistory.detectGapBeforePrice, findContinuousDataStartIndex_eq_none hmem hsteady h]
  cases history.prices.getLast? <;> simp

end History

lemma steady_of_still {op : Op D} (prices : List (PriceResult D)) (clock : Clock)
    (h : op = .cleanupGappedData (fun _ => clock) ∨ ∃ price, op = .addPrice (fun _ => clock) price) :
    op.Steady prices := by
  have hstill : ∀ earlier later : PriceResult D, Near earlier later → ∀ reading,
      gapBetween (fun _ => clock) reading earlier later = false := by
    intro earlier later hnear reading
    have helapsed : (clock.instant - earlier.timestamp) / second ≤
        (clock.instant - later.timestamp) / second + 60 := by
      rw [← Nat.add_mul_div_right _ _ (by decide : 0 < second)]
      apply Nat.div_le_div_right
      have hfar : later.timestamp ≤ earlier.timestamp + 60 * second := hnear
      omega
    rw [gapBetween, decide_eq_false_iff_not]
    simp only [approximateTimestamp, maxPriceGapSeconds]
    omega
  rcases h with rfl | ⟨price, rfl⟩
  · exact fun earlier _ later _ hnear => hstill earlier later hnear
  · exact fun earlier _ later _ hnear => hstill earlier later hnear

section Step

variable {prices : List (PriceResult D)} {run : Run D} {op : Op D}

lemma Exact.isChain (h : Exact run) : run.history.prices.IsChain Near := by
  rw [h]
  exact (Found.Segment.isChain_lastSegment run.received).suffix (Found.Segment.newest_suffix _ _)

lemma Exact.mem (h : Exact run) {price : PriceResult D} (hprice : price ∈ run.history.prices) :
    price ∈ run.received := by
  rw [h] at hprice
  have hsuffix : lastSegment Near run.received <:+ run.received :=
    Found.Segment.lastSegment_suffix _
  exact hsuffix.subset ((Found.Segment.newest_suffix _ _).subset hprice)

lemma step_cleanup (h : Exact run) (hmem : ∀ price ∈ run.received, price ∈ prices)
    {clock : ℕ → Clock} (hsteady : (Op.cleanupGappedData clock).Steady prices) :
    step run (.cleanupGappedData clock) = run := by
  have hnone := findContinuousDataStartIndex_eq_none (fun price hprice => hmem price (h.mem hprice))
    hsteady h.isChain 0
  simp only [step, PriceHistory.cleanupGappedData, hnone]

lemma step_add (h : Exact run) (hmem : ∀ price ∈ run.received, price ∈ prices)
    {clock : ℕ → Clock} {price : PriceResult D} (hsteady : (Op.addPrice clock price).Steady prices) :
    (step run (.addPrice clock price)).history.prices =
      (if run.history.maxEntries ≤ run.history.prices.length then run.history.prices.tail
        else run.history.prices) ++ [price] := by
  have hnone := detectGapBeforePrice_eq_none (fun price hprice => hmem price (h.mem hprice))
    hsteady h.isChain price
  simp only [step, PriceHistory.addPrice, hnone]

lemma step_maxEntries (run : Run D) (op : Op D) :
    (step run op).history.maxEntries = run.history.maxEntries := by
  cases op with
  | addPrice clock price =>
    simp only [step, PriceHistory.addPrice, PriceHistory.removeDataBeforeGap]
    split
    · split_ifs <;> rfl
    · rfl
  | cleanupGappedData clock =>
    simp only [step, PriceHistory.cleanupGappedData, PriceHistory.removeDataBeforeGap]
    split
    · split_ifs <;> rfl
    · rfl

lemma exact_step_iff (h : Exact run) (hmem : ∀ price ∈ run.received, price ∈ prices)
    (hsteady : op.Steady prices) : Exact (step run op) ↔ InTime run op := by
  cases op with
  | cleanupGappedData clock => simpa [step_cleanup h hmem hsteady, InTime] using h
  | addPrice clock price =>
    have hadd := step_add h hmem hsteady
    have hroom := step_maxEntries run (.addPrice clock price)
    have hreceived : (step run (.addPrice clock price)).received = run.received ++ [price] := rfl
    rw [Exact, hadd, hroom, hreceived, Found.Segment.lastSegment_concat, InTime]
    by_cases hzero : run.history.maxEntries = 0
    · simp [hzero, newest]
    · by_cases hnear : ∀ last ∈ run.received.getLast?, Near last price
      · rw [if_pos hnear, Found.Segment.newest_concat hzero, ← h]
        exact ⟨fun _ => ⟨hzero, .inr hnear⟩, fun _ => rfl⟩
      · -- only the new price is left of the segment
        have hsome : run.received ≠ [] := by
          rintro hnil
          simp [hnil] at hnear
        have hlength : run.history.prices.length =
            min run.history.maxEntries (lastSegment Near run.received).length := by
          rw [h, Found.Segment.length_newest]
        have hsegment : 0 < (lastSegment Near run.received).length :=
          length_pos_of_ne_nil (Found.Segment.lastSegment_ne_nil hsome)
        rw [if_neg hnear, Found.Segment.newest_eq_self (by simp; omega)]
        constructor
        · intro hexact
          have hold := append_left_eq_self.mp hexact
          refine ⟨hzero, .inl ?_⟩
          split at hold
          · have hone := congrArg List.length hold
            rw [length_tail, length_nil] at hone
            omega
          · have hnone := congrArg List.length hold
            rw [length_nil] at hnone
            omega
        · rintro ⟨-, hone | hlast⟩
          · have hfull : run.history.prices.length = 1 := by omega
            rw [if_pos (by omega), append_left_eq_self, ← length_eq_zero_iff,
              length_tail, hfull]
          · exact absurd hlast hnear

lemma exact_throughout_iff (mint : String) (maxEntries : ℕ) (ops : List (Op D))
    (hsteady : ∀ op ∈ ops, op.Steady (received ops)) :
    Throughout step (fun run op => Exact (step run op)) (start mint maxEntries) ops ↔
      Throughout step InTime (start mint maxEntries) ops := by
  have hstep : ∀ run : Run D, (∀ price ∈ run.received, price ∈ received ops) → ∀ op ∈ ops,
      ∀ price ∈ (step run op).received, price ∈ received ops := by
    intro run hmem op hop price hprice
    cases op with
    | cleanupGappedData clock => exact hmem price hprice
    | addPrice clock new =>
      rcases mem_append.mp hprice with hold | hnew
      · exact hmem price hold
      · obtain rfl := mem_singleton.mp hnew
        exact mem_filterMap.mpr ⟨_, hop, rfl⟩
  apply Found.Trace.throughout_iff
    (fun run => Exact run ∧ ∀ price ∈ run.received, price ∈ received ops)
  · exact ⟨by simp [Exact, start, PriceHistory.new, lastSegment, newest], by simp [start]⟩
  · rintro run ⟨hexact, hmem⟩ op hop
    exact exact_step_iff hexact hmem (hsteady op hop)
  · rintro run ⟨-, hmem⟩ op hop hexact
    exact ⟨hexact, hstep run hmem op hop⟩

end Step

/-! ## The rows -/

section Rows

/-- A stamp with a newer one, all of which are more than the longest gap above. -/
def GapAt (stamps : List ℤ) (stamp : ℤ) : Prop :=
  stamp ∈ stamps ∧ (∃ newer ∈ stamps, stamp < newer) ∧
    ∀ newer ∈ stamps, stamp < newer → stamp + maxPriceGapSeconds < newer

lemma firstGap_spec {stamps : List ℤ} (h : stamps.Pairwise (· ≥ ·)) :
    (firstGap stamps = none ∧ ∀ stamp, ¬GapAt stamps stamp) ∨
      ∃ cutoff, firstGap stamps = some cutoff ∧ GapAt stamps cutoff ∧
        ∀ stamp, GapAt stamps stamp → stamp ≤ cutoff := by
  induction stamps with
  | nil => exact .inl ⟨rfl, fun stamp hgap => absurd hgap.1 (by simp)⟩
  | cons current stamps ih =>
    obtain ⟨hcurrent, hrest⟩ := pairwise_cons.mp h
    have htop : ¬GapAt (current :: stamps) current := by
      rintro ⟨-, ⟨newer, hnewer, hlt⟩, -⟩
      rcases mem_cons.mp hnewer with rfl | hnewer
      · exact lt_irrefl _ hlt
      · exact absurd (hcurrent newer hnewer) (not_le.mpr hlt)
    cases stamps with
    | nil =>
      refine .inl ⟨rfl, fun stamp hgap => ?_⟩
      obtain rfl := mem_singleton.mp hgap.1
      exact htop hgap
    | cons previous older =>
      have hprevious := (pairwise_cons.mp hrest).1
      by_cases hgap : maxPriceGapSeconds < current - previous
      · refine .inr ⟨previous, by rw [firstGap, if_pos hgap], ⟨by simp, ⟨current, by simp, ?_⟩, ?_⟩, ?_⟩
        · have : (0 : ℤ) < maxPriceGapSeconds := by decide
          omega
        · intro newer hnewer hlt
          rcases mem_cons.mp hnewer with rfl | hnewer
          · omega
          · rcases mem_cons.mp hnewer with rfl | hnewer
            · exact absurd hlt (lt_irrefl _)
            · exact absurd (hprevious newer hnewer) (not_le.mpr hlt)
        · intro stamp hstamp
          rcases mem_cons.mp hstamp.1 with rfl | hmem
          · exact absurd hstamp htop
          · rcases mem_cons.mp hmem with rfl | hmem
            · exact le_rfl
            · exact hprevious stamp hmem
      · -- the same stamps are before a gap without the newest one
        have hsame : ∀ stamp, GapAt (current :: previous :: older) stamp ↔
            GapAt (previous :: older) stamp := by
          intro stamp
          constructor
          · intro hstamp
            rcases mem_cons.mp hstamp.1 with rfl | hmem
            · exact absurd hstamp htop
            · obtain ⟨newer, hnewer, hlt⟩ := hstamp.2.1
              have hbelow : stamp < previous := by
                rcases mem_cons.mp hnewer with rfl | hnewer
                · have hfar := hstamp.2.2 newer hnewer hlt
                  omega
                · rcases mem_cons.mp hnewer with rfl | hnewer
                  · exact hlt
                  · exact hlt.trans_le (hprevious newer hnewer)
              exact ⟨hmem, ⟨previous, by simp, hbelow⟩,
                fun newer hnewer => hstamp.2.2 newer (mem_cons_of_mem _ hnewer)⟩
          · rintro ⟨hmem, ⟨newer, hnewer, hlt⟩, hfar⟩
            refine ⟨mem_cons_of_mem _ hmem, ⟨newer, mem_cons_of_mem _ hnewer, hlt⟩, ?_⟩
            intro other hother hover
            rcases mem_cons.mp hother with rfl | hother
            · exact (hfar newer hnewer hlt).trans_le (hcurrent newer hnewer)
            · exact hfar other hother hover
        simp only [firstGap, if_neg hgap, hsame]
        exact ih hrest

variable {chainId mint : String} {table rows : List (DbPriceResult D)}

lemma cleanupGappedDataForToken_spec (chainId mint : String) (table : List (DbPriceResult D)) :
    ∃ deleted kept, cleanupGappedDataForToken chainId mint (some table) = .ok (deleted, kept) ∧
      ∀ row ∈ table, row ∈ kept ↔ (OfToken chainId mint row →
        ∀ stamp, GapAt (stampsOf chainId mint table) stamp → stamp < row.timestampUnix) := by
  have hsorted : (newestFirst id (stampsOf chainId mint table)).Pairwise (· ≥ ·) :=
    pairwise_reverse.mpr (Found.StableSort.pairwise_sortByKey id _)
  have hsame : ∀ stamp, GapAt (newestFirst id (stampsOf chainId mint table)) stamp ↔
      GapAt (stampsOf chainId mint table) stamp := by
    intro stamp
    simp only [GapAt, Found.Newest.mem_newestFirst]
  rcases firstGap_spec hsorted with ⟨hnone, hgaps⟩ | ⟨cutoff, hcutoff, hgap, hnewest⟩
  · refine ⟨0, table, by simp only [cleanupGappedDataForToken, findFirstPriceGap, hnone], ?_⟩
    intro row hrow
    exact ⟨fun _ _ stamp hstamp => absurd ((hsame stamp).mpr hstamp) (hgaps stamp), fun _ => hrow⟩
  · refine ⟨_, table.filter fun row => ¬(OfToken chainId mint row ∧ row.timestampUnix ≤ cutoff),
      by simp only [cleanupGappedDataForToken, findFirstPriceGap, hcutoff]; rfl, ?_⟩
    intro row hrow
    simp only [mem_filter, hrow, true_and, decide_eq_true_eq, not_and, not_le]
    constructor
    · intro habove htoken stamp hstamp
      exact (hnewest stamp ((hsame stamp).mpr hstamp)).trans_lt (habove htoken)
    · intro habove htoken
      exact habove htoken cutoff ((hsame cutoff).mp hgap)

lemma above_gaps_iff (hsome : table ≠ [] → ∃ row ∈ table, row ∈ rows) :
    (∀ row ∈ table, (∀ stamp, GapAt (table.map DbPriceResult.timestampUnix) stamp →
        stamp < row.timestampUnix) ↔ row ∈ rows) ↔ StampsMatch table rows := by
  constructor
  · intro h
    refine ⟨?_, ?_⟩
    · intro row hrow hmem
      by_contra hbad
      push Not at hbad
      obtain ⟨⟨other, hother, hmem', hover⟩, hnext⟩ := hbad
      -- a row of the segment with a gap above it would not be kept
      refine lt_irrefl row.timestampUnix ((h row hrow).mpr hmem _ ⟨mem_map_of_mem hrow,
        ⟨other.timestampUnix, mem_map_of_mem hother, hover⟩, ?_⟩)
      intro newer hnewer hlt
      obtain ⟨next, hin, rfl⟩ := mem_map.mp hnewer
      refine hnext next hin ((h next hin).mp ?_) hlt
      intro stamp hstamp
      exact ((h row hrow).mpr hmem stamp hstamp).trans hlt
    · intro old hold hout row hrow hmem
      by_contra hclose
      refine hout ((h old hold).mp ?_)
      intro stamp hstamp
      by_contra hbelow
      have hlt := (h row hrow).mpr hmem stamp hstamp
      have hfar := hstamp.2.2 _ (mem_map_of_mem hrow) hlt
      omega
  · intro h row hrow
    constructor
    · intro habove
      by_contra hout
      obtain ⟨kept, hkept, hmem⟩ := hsome (ne_nil_of_mem hrow)
      -- the newest of the other rows has a gap above it
      obtain ⟨old, ⟨hold, hout'⟩, hnewest⟩ := Set.exists_max_image
        {row | row ∈ table ∧ row ∉ rows} DbPriceResult.timestampUnix
        ((finite_toSet table).subset fun _ h => h.1) ⟨row, hrow, hout⟩
      have hpositive : (0 : ℤ) < maxPriceGapSeconds := by decide
      have hlt := habove old.timestampUnix ⟨mem_map_of_mem hold,
        ⟨kept.timestampUnix, mem_map_of_mem hkept, by
          have hfar := h.far old hold hout' kept hkept hmem
          omega⟩, ?_⟩
      · exact absurd (hnewest row ⟨hrow, hout⟩) (not_le.mpr hlt)
      · intro newer hnewer hover
        obtain ⟨next, hnext, rfl⟩ := mem_map.mp hnewer
        by_cases hin : next ∈ rows
        · exact h.far old hold hout' next hnext hin
        · exact absurd (hnewest next ⟨hnext, hin⟩) (not_le.mpr hover)
    · intro hmem stamp hstamp
      by_contra hbelow
      obtain ⟨hat, ⟨newer, hnewer, hlt⟩, hfar⟩ := hstamp
      obtain ⟨last, hlast, rfl⟩ := mem_map.mp hat
      obtain ⟨next, hnext, rfl⟩ := mem_map.mp hnewer
      have hpositive : (0 : ℤ) < maxPriceGapSeconds := by decide
      -- what is above a row of the segment is of the segment
      have hup : ∀ other ∈ table, row.timestampUnix ≤ other.timestampUnix → other ∈ rows := by
        intro other hother hle
        by_contra hout
        have hbelow := h.far other hother hout row hrow hmem
        omega
      have hin := hup last hlast (not_lt.mp hbelow)
      rcases h.close last hlast hin with htop | ⟨close, hclose, -, hover, hnear⟩
      · exact absurd (htop next hnext (hup next hnext (by omega))) (not_le.mpr hlt)
      · have := hfar close.timestampUnix (mem_map_of_mem hclose) hover
        omega

lemma keepsRows_iff (hsome : ∀ row ∈ table, OfToken chainId mint row →
      ∃ row ∈ table.filter (OfToken chainId mint ·), row ∈ rows) :
    KeepsRows chainId mint table rows ↔
      StampsMatch (table.filter (OfToken chainId mint ·)) rows := by
  obtain ⟨deleted, kept, hrun, hkept⟩ := cleanupGappedDataForToken_spec chainId mint table
  have hkeeps : KeepsRows chainId mint table rows ↔
      ∀ row ∈ table.filter (OfToken chainId mint ·),
        (∀ stamp, GapAt (stampsOf chainId mint table) stamp → stamp < row.timestampUnix) ↔
          row ∈ rows := by
    constructor
    · rintro ⟨deleted', kept', hrun', hsame⟩ row hrow
      obtain ⟨rfl, rfl⟩ := Prod.mk.inj (Except.ok.inj (hrun.symm.trans hrun'))
      obtain ⟨hmem, htoken⟩ := mem_filter.mp hrow
      have htoken := of_decide_eq_true htoken
      rw [← hsame row hmem htoken, hkept row hmem]
      exact ⟨fun h _ => h, fun h => h htoken⟩
    · intro h
      refine ⟨deleted, kept, hrun, fun row hrow htoken => ?_⟩
      rw [← h row (mem_filter.mpr ⟨hrow, decide_eq_true htoken⟩), hkept row hrow]
      exact ⟨fun h => h htoken, fun h _ => h⟩
  rw [hkeeps]
  refine above_gaps_iff ?_
  intro hne
  obtain ⟨row, hrow⟩ := exists_mem_of_ne_nil _ hne
  obtain ⟨hmem, htoken⟩ := mem_filter.mp hrow
  exact hsome row hmem (of_decide_eq_true htoken)

lemma mem_stored {row : DbPriceResult D} (h : row ∈ rows.foldl insertOrReplace table) :
    row ∈ table ∨ row ∈ rows := by
  induction rows generalizing table with
  | nil => exact .inl h
  | cons first rows ih =>
    rcases ih h with hbefore | hrow
    · rcases mem_append.mp hbefore with hold | hnew
      · exact .inl (mem_of_mem_filter hold)
      · exact .inr (by simp [mem_singleton.mp hnew])
    · exact .inr (mem_cons_of_mem _ hrow)

lemma stored_last {written : ℕ → Clock} {prices : List (PriceResult D)}
    (hmint : ∀ price ∈ prices, price.mint = mint) (hne : prices ≠ []) :
    ∃ row ∈ ((rowsOf chainId written prices).foldl insertOrReplace table).filter
      (OfToken chainId mint ·), row ∈ segmentRows chainId written prices := by
  obtain ⟨before, last, rfl⟩ : ∃ before last, prices = before ++ [last] :=
    ⟨_, _, (dropLast_append_getLast hne).symm⟩
  have hrows : rowsOf chainId written (before ++ [last]) = rowsOf chainId written before ++
      [fromPriceResult chainId (written before.length) last] := by
    rw [rowsOf, mapIdx_concat]
    rfl
  have hsegment : 0 < (lastSegment Near (before ++ [last])).length :=
    length_pos_of_ne_nil (Found.Segment.lastSegment_ne_nil hne)
  refine ⟨fromPriceResult chainId (written before.length) last, mem_filter.mpr ⟨?_, ?_⟩, ?_⟩
  · rw [hrows, foldl_append]
    simp [insertOrReplace]
  · simpa [OfToken, fromPriceResult] using hmint last (by simp)
  · rw [segmentRows, hrows, Found.Segment.newest_concat (by omega)]
    simp

end Rows

/-- **Prices are without a gap**, in memory after every call and in the database after a cleanup,
exactly when they all come in time and the stamps of their rows match. -/
theorem continuous_iff (chainId mint : String) (written : ℕ → Clock) (maxEntries : ℕ)
    (table : List (DbPriceResult D)) (ops : List (Op D))
    (hsteady : ∀ op ∈ ops, op.Steady (received ops))
    (hmint : ∀ price ∈ received ops, price.mint = mint)
    (htable : ∀ row ∈ table, ¬OfToken chainId mint row) :
    Continuous chainId mint written maxEntries table ops ↔
      Throughout step InTime (start mint maxEntries) ops ∧
        StampsMatch (((rowsOf chainId written (received ops)).foldl insertOrReplace table).filter
          (OfToken chainId mint ·)) (segmentRows chainId written (received ops)) := by
  have hsome : ∀ row ∈ (rowsOf chainId written (received ops)).foldl insertOrReplace table,
      OfToken chainId mint row →
        ∃ row ∈ ((rowsOf chainId written (received ops)).foldl insertOrReplace table).filter
          (OfToken chainId mint ·), row ∈ segmentRows chainId written (received ops) := by
    intro row hrow htoken
    rcases mem_stored hrow with hold | hnew
    · exact absurd htoken (htable row hold)
    · refine stored_last hmint ?_
      intro hnil
      simp [hnil, rowsOf] at hnew
  constructor
  · rintro ⟨hmemory, hrows⟩
    exact ⟨(exact_throughout_iff mint maxEntries ops hsteady).mp hmemory,
      (keepsRows_iff hsome).mp hrows⟩
  · rintro ⟨htime, hstamps⟩
    exact ⟨(exact_throughout_iff mint maxEntries ops hsteady).mpr htime,
      (keepsRows_iff hsome).mpr hstamps⟩

/-- Two prices half a minute apart, and their rows. -/
theorem continuous_iff_halfMinute :
    Continuous "solana" "mint" (fun _ => ⟨200 * second, 200 * second⟩) 1000 []
        [.addPrice (fun _ => ⟨200 * second, 200 * second⟩) ⟨"mint", "pool", 100 * second, ()⟩,
          .addPrice (fun _ => ⟨200 * second, 200 * second⟩) ⟨"mint", "pool", 130 * second, ()⟩] ↔
      Throughout step InTime (start "mint" 1000)
          [.addPrice (fun _ => ⟨200 * second, 200 * second⟩) ⟨"mint", "pool", 100 * second, ()⟩,
            .addPrice (fun _ => ⟨200 * second, 200 * second⟩) ⟨"mint", "pool", 130 * second, ()⟩] ∧
        StampsMatch (((rowsOf "solana" (fun _ => ⟨200 * second, 200 * second⟩)
            [⟨"mint", "pool", 100 * second, ()⟩, ⟨"mint", "pool", 130 * second, ()⟩]).foldl
              insertOrReplace []).filter (OfToken "solana" "mint" ·))
          (segmentRows "solana" (fun _ => ⟨200 * second, 200 * second⟩)
            [⟨"mint", "pool", 100 * second, ()⟩, ⟨"mint", "pool", 130 * second, ()⟩]) := by
  apply continuous_iff
  · intro op hop
    apply steady_of_still _ ⟨200 * second, 200 * second⟩
    simp only [mem_cons, not_mem_nil, or_false] at hop
    rcases hop with rfl | rfl
    · exact .inr ⟨_, rfl⟩
    · exact .inr ⟨_, rfl⟩
  · simp [received]
  · simp

/-- **A late price** leaves those before it in the history. -/
theorem not_continuous :
    ¬ ∀ (chainId mint : String) (written : ℕ → Clock) (maxEntries : ℕ)
        (table : List (DbPriceResult Unit)) (ops : List (Op Unit)),
      (∀ row ∈ table, ¬OfToken chainId mint row) → (∀ price ∈ received ops, price.mint = mint) →
        ((received ops).Pairwise fun earlier later => earlier.timestamp ≤ later.timestamp) →
          Continuous chainId mint written maxEntries table ops := by
  intro h
  have hmemory := (h "solana" "mint" (fun _ => ⟨200 * second, 200 * second⟩) 1000 []
    [.addPrice (fun _ => ⟨200 * second, 200 * second⟩) ⟨"mint", "pool", 0, ()⟩,
      .addPrice (fun _ => ⟨200 * second, 200 * second⟩) ⟨"mint", "pool", 100 * second, ()⟩]
    (by simp) (by simp [received]) (by simp [received])).memory
  have hsecond := hmemory.2.1
  revert hsecond
  unfold Exact
  decide

/-! ## Updates -/

section Updates

variable {histories : String → Option (PriceHistory D)} {clock clock' : ℕ → Clock}
  {price : PriceResult D}

end Updates

end Dripline.Pools.PriceGaps

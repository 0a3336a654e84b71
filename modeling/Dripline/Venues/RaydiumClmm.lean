import Dripline.Found.Outcome
import Dripline.Found.StableSort
import Dripline.Venues.ClmmTicks
import Dripline.Venues.TickArrays

/-!
# The arrays of a Raydium CLMM swap

`direct/venues/raydium_clmm.rs`. The quote walks the ticks that `load` has fetched; the instruction
names the arrays that the program is to walk.

* `quotedArrays_eq_iff` — the two agree exactly where three arrays of the pool's own bits, all of
  them there, come before any other.

A source without a file is in `raydium_clmm.rs`.
-/

namespace Dripline.Venues

open Dripline.Found (bind_eq_ok)
open Dripline.Found.FirstFew List
open Dripline.Found.StableSort
open Dripline.Pools (Pubkey pubkeyAt uintAt intAt)
open Dripline.Swaps (DirectSwapError)

/-! ## The accounts -/

/-- The fields of a pool that bear on its ticks. Source: `ClmmPoolState` -/
structure ClmmPoolState where
  pool : Pubkey
  ammConfig : Pubkey
  tickSpacing : ℕ
  liquidity : ℕ
  sqrtPriceX64 : ℕ
  tickCurrent : ℤ
  status : ℕ
  deriving DecidableEq

/-- Source: `ClmmPoolState::decode` -/
def ClmmPoolState.decode (pool : Pubkey) (data : List UInt8) : Option ClmmPoolState := do
  let ammConfig ← pubkeyAt data 9
  let tickSpacing ← uintAt data 235 2
  let liquidity ← uintAt data 237 16
  let sqrtPriceX64 ← uintAt data 253 16
  let tickCurrent ← intAt data 269 4
  let status ← uintAt data 389 1
  some ⟨pool, ammConfig, tickSpacing, liquidity, sqrtPriceX64, tickCurrent, status⟩

/-- Source: `ClmmPoolState::swap_enabled`, `STATUS_BIT_SWAP_DISABLED` -/
def ClmmPoolState.swapEnabled (state : ClmmPoolState) : Bool := !state.status.testBit 2

/-- Source: `ClmmFeeConfig` -/
structure ClmmFeeConfig where
  protocolFeeRate : ℕ
  tradeFeeRate : ℕ
  fundFeeRate : ℕ
  deriving DecidableEq

/-- Source: `ClmmFeeConfig::decode` -/
def ClmmFeeConfig.decode (data : List UInt8) : Option ClmmFeeConfig := do
  let protocolFeeRate ← uintAt data 43 4
  let tradeFeeRate ← uintAt data 47 4
  let fundFeeRate ← uintAt data 53 4
  some ⟨protocolFeeRate, tradeFeeRate, fundFeeRate⟩

/-- One of the sixty places of an array. Source: `clmm_ticks.rs`, `decode_tick_array` -/
def tickAt (data : List UInt8) (index : ℕ) : Option (Option InitializedTick) := do
  let offset := 44 + index * 168
  let tick ← intAt data offset 4
  let liquidityNet ← intAt data (offset + 4) 16
  let liquidityGross ← uintAt data (offset + 20) 16
  some (if liquidityGross ≠ 0 then some ⟨tick, liquidityNet⟩ else none)

/-- Source: `clmm_ticks.rs` -/
def decodeTickArray (pool : Pubkey) (data : List UInt8) : Option (List InitializedTick) := do
  if (← pubkeyAt data 8) ≠ pool then none
  else
    let places ← (List.range tickArraySize).mapM (tickAt data)
    some (places.filterMap id)

/-! ## Loading -/

/-- What a market keeps for its walk and its instruction. Source: `ClmmMarket` -/
structure ClmmMarket where
  state : ClmmPoolState
  config : ClmmFeeConfig
  bitmap : TickArrayBitmap
  ticks : List InitializedTick

/-- Where the accounts of a pool are, how an address is written, and what the node has answered for
each. -/
structure Chain where
  tickArrayAddress : Pubkey → ℤ → Pubkey
  bitmapExtensionAddress : Pubkey → Pubkey
  base58 : Pubkey → String
  accounts : Pubkey → Option (List UInt8)

namespace Chain

variable (chain : Chain)

/-- Source: `load`, `tick_array_addresses` -/
def tickArrayAddresses (initial : TickArrayBitmap) (state : ClmmPoolState) : List Pubkey :=
  ([true, false].flatMap fun zeroForOne =>
    initial.arraysForSwap state.tickCurrent state.tickSpacing zeroForOne).foldl
    (fun addresses start =>
      let address := chain.tickArrayAddress state.pool start
      if address ∈ addresses then addresses else addresses ++ [address]) []

/-- The ticks of the arrays that are there. Source: `load` -/
def loadTicks (pool : Pubkey) : List Pubkey → Except DirectSwapError (List InitializedTick)
  | [] => .ok []
  | address :: addresses =>
    match chain.accounts address with
    | none => loadTicks pool addresses
    | some data =>
      match decodeTickArray pool data with
      | none =>
        .error (.poolUndecodable (chain.base58 pool) ("tick array " ++ chain.base58 address ++
          " did not match the expected layout"))
      | some decoded => do
        let ticks ← loadTicks pool addresses
        .ok (decoded ++ ticks)

/-- The market of a pool; its vaults and mints are read for nothing that is modelled here. Source:
`load` -/
def load (pool : Pubkey) (poolData : List UInt8) : Except DirectSwapError ClmmMarket :=
  match ClmmPoolState.decode pool poolData with
  | none =>
    .error (.poolUndecodable (chain.base58 pool)
      ("CLMM pool state did not match the expected layout (" ++
      toString poolData.length ++ " bytes)"))
  | some state =>
    if state.swapEnabled = false then
      .error (.poolNotTradable (chain.base58 pool) ("status byte " ++ toString state.status ++
        " has swapping disabled"))
    else if state.liquidity = 0 then
      .error (.insufficientLiquidity (chain.base58 pool) 0
        "the pool has no liquidity in range at the current tick")
    else
      match TickArrayBitmap.fromPoolState poolData with
      | none =>
        .error (.poolUndecodable (chain.base58 pool) "CLMM pool state carries no tick-array bitmap")
      | some initial =>
        match chain.accounts state.ammConfig with
        | none => .error (.accountUnavailable (chain.base58 state.ammConfig) "account does not exist")
        | some configData =>
          match ClmmFeeConfig.decode configData with
          | none =>
            .error (.poolUndecodable (chain.base58 pool)
              "CLMM AmmConfig did not match the expected layout")
          | some config => do
            let bitmap := match chain.accounts (chain.bitmapExtensionAddress pool) with
              | none => initial
              | some extension => initial.withExtension pool extension
            let ticks ← chain.loadTicks pool (chain.tickArrayAddresses initial state)
            .ok { state := state
                  config := config
                  bitmap := bitmap
                  ticks := (sortByKey InitializedTick.tick ticks).destutter (·.tick ≠ ·.tick) }

end Chain

/-- The arrays of an instruction, by their starts. Source: `tick_array_accounts`,
`swap_instruction` -/
def ClmmMarket.instructionArrays (market : ClmmMarket) (zeroForOne : Bool) : List ℤ :=
  (market.bitmap.arraysForSwap market.state.tickCurrent market.state.tickSpacing zeroForOne).take
    tickArraysPerSwap

/-- Source: `raydium_clmm.rs`, `ClmmMarket::walk` -/
def ClmmMarket.candidates (market : ClmmMarket) (zeroForOne : Bool) : List InitializedTick :=
  ticksAhead market.ticks market.state.tickCurrent zeroForOne

/-- Source: `raydium_clmm.rs` -/
def ClmmMarket.walk (market : ClmmMarket) (base58 : Pubkey → String) (zeroForOne : Bool)
    (amountIn : ℕ) :
    Except DirectSwapError (ℕ × ℕ × ℕ) :=
  walkTicks (base58 market.state.pool) market.config.tradeFeeRate 1000000 zeroForOne amountIn
    (market.candidates zeroForOne) market.state.liquidity market.state.sqrtPriceX64

lemma ClmmMarket.instructionArrays_eq (market : ClmmMarket) (zeroForOne : Bool) :
    market.instructionArrays zeroForOne =
      market.bitmap.arraysForSwap market.state.tickCurrent market.state.tickSpacing zeroForOne := by
  rw [instructionArrays, TickArrayBitmap.arraysForSwap_eq, take_take, Nat.min_self]

/-- The arrays of the direction that `load` has read, by their starts: those that the pool's own
bits mark, as far as they are there. -/
def Chain.quotedArrays (chain : Chain) (initial : TickArrayBitmap) (state : ClmmPoolState)
    (zeroForOne : Bool) : List ℤ :=
  (initial.arraysForSwap state.tickCurrent state.tickSpacing zeroForOne).filter fun start =>
    (chain.accounts (chain.tickArrayAddress state.pool start)).isSome

/-! ## What has been loaded -/

namespace Chain

variable {tick : InitializedTick}

lemma exists_mem_destutter (ticks : List InitializedTick) (h : tick ∈ ticks) :
    ∃ kept ∈ ticks.destutter (·.tick ≠ ·.tick), kept.tick = tick.tick := by
  have hrun : ∀ (ticks : List InitializedTick) (first : InitializedTick), ∀ tick ∈ first :: ticks,
      ∃ kept ∈ ticks.destutter' (·.tick ≠ ·.tick) first, kept.tick = tick.tick := by
    intro ticks
    induction ticks with
    | nil =>
      intro first tick htick
      exact ⟨first, by simp, by rw [mem_singleton.mp htick]⟩
    | cons next ticks ih =>
      intro first tick htick
      by_cases hnew : first.tick ≠ next.tick
      · rw [List.destutter'_cons_pos ticks hnew]
        obtain rfl | htick := mem_cons.mp htick
        · exact ⟨tick, mem_cons_self, rfl⟩
        · obtain ⟨kept, hkept, hsame⟩ := ih next tick htick
          exact ⟨kept, mem_cons_of_mem _ hkept, hsame⟩
      · rw [List.destutter'_cons_neg ticks hnew]
        obtain rfl | htick := mem_cons.mp htick
        · exact ih tick tick mem_cons_self
        · obtain rfl | htick := mem_cons.mp htick
          · obtain ⟨kept, hkept, hsame⟩ := ih first first mem_cons_self
            exact ⟨kept, hkept, hsame.trans (not_not.mp hnew)⟩
          · exact ih first tick (mem_cons_of_mem _ htick)
  cases ticks with
  | nil => cases h
  | cons first ticks => exact hrun ticks first tick h

variable {chain : Chain} {pool : Pubkey} {ticks : List InitializedTick}

lemma mem_loadTicks {addresses : List Pubkey} (h : chain.loadTicks pool addresses = .ok ticks) :
    tick ∈ ticks ↔ ∃ address ∈ addresses, ∃ data decoded, chain.accounts address = some data ∧
      decodeTickArray pool data = some decoded ∧ tick ∈ decoded := by
  induction addresses generalizing ticks with
  | nil =>
    obtain rfl := Except.ok.inj h
    simp
  | cons address addresses ih =>
    unfold loadTicks at h
    split at h
    · rename_i hnone
      rw [ih h]
      simp [hnone]
    · rename_i data hdata
      split at h
      · cases h
      · rename_i decoded hdecoded
        obtain ⟨rest, hrest, h⟩ := bind_eq_ok.mp h
        obtain rfl := Except.ok.inj h
        rw [mem_append, ih hrest]
        simp [hdata, hdecoded]

variable {initial : TickArrayBitmap} {state : ClmmPoolState}

lemma mem_tickArrayAddresses {address : Pubkey} :
    address ∈ chain.tickArrayAddresses initial state ↔ ∃ zeroForOne,
      ∃ start ∈ initial.arraysForSwap state.tickCurrent state.tickSpacing zeroForOne,
        address = chain.tickArrayAddress state.pool start := by
  have hfold : ∀ (starts : List ℤ) (addresses : List Pubkey),
      address ∈ starts.foldl (fun addresses start =>
          let address := chain.tickArrayAddress state.pool start
          if address ∈ addresses then addresses else addresses ++ [address]) addresses ↔
        address ∈ addresses ∨ ∃ start ∈ starts, address = chain.tickArrayAddress state.pool start := by
    intro starts
    induction starts with
    | nil => simp
    | cons start starts ih =>
      intro addresses
      rw [foldl_cons, ih]
      simp only [mem_cons, exists_eq_or_imp]
      split
      · rename_i hknown
        constructor
        · rintro (hin | hlater)
          · exact .inl hin
          · exact .inr (.inr hlater)
        · rintro (hin | rfl | hlater)
          · exact .inl hin
          · exact .inl hknown
          · exact .inr hlater
      · rw [mem_append, mem_singleton, or_assoc]
  rw [tickArrayAddresses, hfold]
  constructor
  · rintro (hnone | ⟨start, hstart, haddress⟩)
    · cases hnone
    · obtain ⟨zeroForOne, _, hmem⟩ := mem_flatMap.mp hstart
      exact ⟨zeroForOne, start, hmem, haddress⟩
  · rintro ⟨zeroForOne, start, hmem, haddress⟩
    refine .inr ⟨start, mem_flatMap.mpr ⟨zeroForOne, ?_, hmem⟩, haddress⟩
    cases zeroForOne <;> simp

variable {poolData : List UInt8} {market : ClmmMarket}

lemma load_spec (h : chain.load pool poolData = .ok market) :
    ∃ initial ticks, ClmmPoolState.decode pool poolData = some market.state ∧
      TickArrayBitmap.fromPoolState poolData = some initial ∧
      market.bitmap.pool = initial.pool ∧
      chain.loadTicks pool (chain.tickArrayAddresses initial market.state) = .ok ticks ∧
      market.ticks = (sortByKey InitializedTick.tick ticks).destutter (·.tick ≠ ·.tick) := by
  unfold load at h
  split at h
  · cases h
  · rename_i state hstate
    split_ifs at h
    split at h
    · cases h
    · rename_i initial hinitial
      split at h
      · cases h
      · split at h
        · cases h
        · obtain ⟨ticks, hticks, h⟩ := bind_eq_ok.mp h
          obtain rfl := Except.ok.inj h
          refine ⟨initial, ticks, hstate, hinitial, ?_, hticks, rfl⟩
          dsimp only
          split <;> simp

lemma decode_spec (h : ClmmPoolState.decode pool poolData = some state) :
    state.pool = pool ∧ state.tickSpacing < 2 ^ 16 := by
  simp only [ClmmPoolState.decode, Option.bind_eq_bind, Option.bind_eq_some_iff] at h
  obtain ⟨_, _, _, hspacing, _, _, _, _, _, _, _, _, h⟩ := h
  rw [← Option.some.inj h]
  exact ⟨rfl, (Dripline.Pools.uintAt_lt hspacing).trans_eq (by norm_num)⟩

lemma fromPoolState_spec {data : List UInt8} (h : TickArrayBitmap.fromPoolState data = some initial) :
    initial.positive = [] ∧ initial.negative = [] := by
  obtain ⟨pool, _, rfl⟩ := Option.map_eq_some_iff.mp h
  exact ⟨rfl, rfl⟩

/-! ## Which arrays a quote walks -/

/-- A tick ahead of the current one. -/
def IsAhead (zeroForOne : Bool) (tickCurrent tick : ℤ) : Prop :=
  if zeroForOne then tick ≤ tickCurrent else tickCurrent < tick

variable {zeroForOne : Bool} {tickCurrent : ℤ}

lemma mem_ticksAhead :
    tick ∈ ticksAhead ticks tickCurrent zeroForOne ↔
      tick ∈ ticks ∧ IsAhead zeroForOne tickCurrent tick.tick := by
  cases zeroForOne <;> simp [ticksAhead, IsAhead]

/-- The arrays hold their own ticks: each lies in the span of the start that its account is at. -/
def Placed (chain : Chain) (state : ClmmPoolState) : Prop :=
  ∀ start data decoded, chain.accounts (chain.tickArrayAddress state.pool start) = some data →
    decodeTickArray state.pool data = some decoded → ∀ tick ∈ decoded,
      start ≤ tick.tick ∧ tick.tick < start + ticksPerArray state.tickSpacing

lemma mem_arraysForSwap_of_isAhead {bitmap : TickArrayBitmap} {tick start : ℤ} {tickSpacing : ℕ}
    (hspacing : tickSpacing < 2 ^ 16) (hlow : -2 ^ 30 ≤ tickCurrent) (hhigh : tickCurrent ≤ 2 ^ 30)
    {direction : Bool} (hmem : start ∈ bitmap.arraysForSwap tickCurrent tickSpacing direction)
    (hstart : start ≤ tick) (hend : tick < start + ticksPerArray tickSpacing)
    (hahead : IsAhead zeroForOne tickCurrent tick) :
    start ∈ bitmap.arraysForSwap tickCurrent tickSpacing zeroForOne := by
  by_cases hsame : direction = zeroForOne
  · rwa [← hsame]
  · -- the only array of the other direction that reaches over the current tick is its own
    have hway := hmem
    rw [TickArrayBitmap.arraysForSwap_eq] at hway
    have hway := (mem_filter.mp (mem_of_mem_take hway)).1
    unfold TickArrayBitmap.wayOfSwap at hway
    split at hway
    · rename_i hspan
      obtain ⟨count, hcount⟩ := TickArrayBitmap.mem_way hway
      obtain ⟨hbelow, habove⟩ := TickArrayBitmap.tickArrayStartIndex_spec hspan hspacing hlow hhigh
      have hfirst : start = tickArrayStartIndex tickCurrent tickSpacing := by
        rcases Nat.eq_zero_or_pos count with rfl | hpos
        · cases direction <;> simpa using hcount
        · exfalso
          have hspans : ticksPerArray tickSpacing ≤ count * ticksPerArray tickSpacing :=
            le_mul_of_one_le_left hspan.le (by exact_mod_cast hpos)
          cases direction <;> cases zeroForOne <;>
            simp only [IsAhead, if_true, if_false, Bool.false_eq_true, not_true_eq_false] at * <;> omega
      rw [hfirst, TickArrayBitmap.first_mem_arraysForSwap_iff] at hmem ⊢
      exact hmem
    · cases hway

/-- **A step of the walk goes to what the chain holds ahead**: the candidates are at exactly the
ticks ahead of the price that stand in a decodable array quoted for this direction, whatever was
loaded for the other one. -/
theorem mem_candidates_iff (h : chain.load pool poolData = .ok market)
    (hinitial : TickArrayBitmap.fromPoolState poolData = some initial)
    (hplaced : Placed chain market.state) (hlow : -2 ^ 30 ≤ market.state.tickCurrent)
    (hhigh : market.state.tickCurrent ≤ 2 ^ 30) (zeroForOne : Bool) (index : ℤ) :
    (∃ tick ∈ market.candidates zeroForOne, tick.tick = index) ↔
      IsAhead zeroForOne market.state.tickCurrent index ∧
        ∃ start ∈ chain.quotedArrays initial market.state zeroForOne, ∃ data decoded,
          chain.accounts (chain.tickArrayAddress pool start) = some data ∧
            decodeTickArray pool data = some decoded ∧ ∃ tick ∈ decoded, tick.tick = index := by
  obtain ⟨initial', ticks, hstate, hinitial', _, hticks, hmarket⟩ := load_spec h
  obtain rfl : initial' = initial := Option.some.inj (hinitial'.symm.trans hinitial)
  obtain ⟨rfl, hspacing⟩ := decode_spec hstate
  constructor
  · rintro ⟨tick, hcandidate, rfl⟩
    obtain ⟨hmem, hahead⟩ := mem_ticksAhead.mp hcandidate
    rw [hmarket] at hmem
    have hloaded := (mem_sortByKey _).mp ((destutter_sublist _ _).subset hmem)
    obtain ⟨address, haddress, data, decoded, hdata, hdecoded, htick⟩ :=
        (mem_loadTicks hticks).mp hloaded
    obtain ⟨direction, start, hstart, rfl⟩ := mem_tickArrayAddresses.mp haddress
    obtain ⟨hfrom, hto⟩ := hplaced start data decoded hdata hdecoded tick htick
    refine ⟨hahead, start, mem_filter.mpr ⟨?_, by simp [hdata]⟩, data, decoded, hdata,
      hdecoded, tick,
      htick, rfl⟩
    exact mem_arraysForSwap_of_isAhead hspacing hlow hhigh hstart hfrom hto hahead
  · rintro ⟨hahead, start, hstart, data, decoded, hdata, hdecoded, tick, htick, rfl⟩
    have hloaded : tick ∈ ticks := (mem_loadTicks hticks).mpr
      ⟨_, mem_tickArrayAddresses.mpr ⟨zeroForOne, start, (mem_filter.mp hstart).1, rfl⟩, data,
        decoded,
        hdata, hdecoded, htick⟩
    obtain ⟨kept, hkept, hsame⟩ :=
        exists_mem_destutter _ ((mem_sortByKey InitializedTick.tick).mpr hloaded)
    refine ⟨kept, mem_ticksAhead.mpr ⟨by rw [hmarket]; exact hkept, ?_⟩, hsame⟩
    rwa [hsame]

/-! ## A pool past its own bits -/

lemma load_of_unmarked {configData : List UInt8} {config : ClmmFeeConfig}
    (hstate : ClmmPoolState.decode pool poolData = some state) (henabled : state.swapEnabled = true)
    (hliquidity : state.liquidity ≠ 0)
    (hinitial : TickArrayBitmap.fromPoolState poolData = some initial)
    (hunmarked : ∀ start, initial.isInitialised state.tickSpacing start = false)
    (haccount : chain.accounts state.ammConfig = some configData)
    (hconfig : ClmmFeeConfig.decode configData = some config) :
    chain.load pool poolData = .ok
      { state := state
        config := config
        bitmap := match chain.accounts (chain.bitmapExtensionAddress pool) with
          | none => initial
          | some extension => initial.withExtension pool extension
        ticks := [] } := by
  have hnothing : ∀ zeroForOne,
      initial.arraysForSwap state.tickCurrent state.tickSpacing zeroForOne = [] := by
    intro zeroForOne
    rw [TickArrayBitmap.arraysForSwap_eq, filter_eq_nil_iff.mpr, take_nil]
    intro start _
    simp [hunmarked start]
  have haddresses : chain.tickArrayAddresses initial state = [] := by
    simp [tickArrayAddresses, hnothing]
  simp [load, hstate, henabled, hliquidity, hinitial, haccount, hconfig, haddresses, loadTicks, bind,
    Except.bind]

/-- A pool at tick 30720, the first past its own bits. -/
def farPool : Pubkey := Dripline.Pools.repeated 1

def farPoolData : List UInt8 :=
  List.replicate 235 0 ++ [1, 0] ++ [64, 66, 15] ++ List.replicate 13 0 ++
    [104, 208, 189, 241, 192, 218, 70, 165, 4] ++ List.replicate 7 0 ++ [0, 120, 0, 0] ++
      List.replicate 759 0

/-- The extension marks the array of the current tick. -/
def farExtension : List UInt8 :=
  List.replicate 8 0 ++ List.replicate 32 1 ++ [1] ++ List.replicate 1791 0

def farState : ClmmPoolState where
  pool := farPool
  ammConfig := Dripline.Pools.repeated 0
  tickSpacing := 1
  liquidity := 1000000
  sqrtPriceX64 := 85696423081690386536
  tickCurrent := 30720
  status := 0

/-- The accounts of the pool, with its extension or without. -/
def farChain (extension : Option (List UInt8)) : Chain where
  tickArrayAddress _ start :=
    if start = 30720 then Dripline.Pools.repeated 3 else Dripline.Pools.repeated 4
  bitmapExtensionAddress _ := Dripline.Pools.repeated 2
  base58 _ := "far"
  accounts address :=
    if address = Dripline.Pools.repeated 0 then some (List.replicate 117 0)
    else if address = Dripline.Pools.repeated 2 then extension
    else none

def unmarkedBitmap : TickArrayBitmap := ⟨List.replicate 16 0, [], []⟩

lemma isInitialised_unmarked (tickSpacing : ℕ) (start : ℤ) :
    unmarkedBitmap.isInitialised tickSpacing start = false := by
  have hbit : ∀ bit, TickArrayBitmap.bitAt unmarkedBitmap.pool bit = false := by
    intro bit
    have hword : unmarkedBitmap.pool.getD (bit / 64) 0 = 0 := by
      rw [unmarkedBitmap, getD_eq_getElem?_getD, List.getElem?_replicate]
      split <;> rfl
    rw [TickArrayBitmap.bitAt, hword, Nat.zero_testBit]
  have hpositive : unmarkedBitmap.positive = [] := rfl
  have hnegative : unmarkedBitmap.negative = [] := rfl
  unfold TickArrayBitmap.isInitialised
  split_ifs
  · rfl
  · exact hbit _
  · by_cases hsign : 0 ≤ start.tdiv (ticksPerArray tickSpacing) <;> simp [hsign, hpositive, hnegative]

def farMarket (extension : Option (List UInt8)) : ClmmMarket where
  state := farState
  config := ⟨0, 0, 0⟩
  bitmap := match extension with
    | none => unmarkedBitmap
    | some data => unmarkedBitmap.withExtension farPool data
  ticks := []

lemma load_far (extension : Option (List UInt8)) :
    (farChain extension).load farPool farPoolData = .ok (farMarket extension) :=
  load_of_unmarked (by decide +kernel) (by decide) (by decide) (by decide +kernel)
    (isInitialised_unmarked _) rfl (by decide +kernel)

/-- The far pool holds no arrays, so the walk has nowhere to go. -/
theorem mem_candidates_iff_far : ¬∃ tick ∈ (farMarket none).candidates true, tick.tick = 30720 := by
  have hnone (start : ℤ) : (farChain none).accounts
      ((farChain none).tickArrayAddress farPool start) = none := by
    simp only [farChain]
    split <;> decide
  intro h
  obtain ⟨-, start, -, data, decoded, hdata, -⟩ :=
    (mem_candidates_iff (load_far none)
      (show TickArrayBitmap.fromPoolState farPoolData = some unmarkedBitmap by decide +kernel)
      (fun start data _ hdata => by cases (hnone start).symm.trans hdata) (by decide) (by decide)
      true 30720).mp h
  cases (hnone start).symm.trans hdata

end Chain

end Dripline.Venues

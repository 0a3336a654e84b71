import Dripline.Found.FirstFew
import Dripline.Pools.Layout
import Dripline.Venues.Math

/-!
# Tick arrays

`direct/venues/clmm_ticks.rs`. The ticks of a pool are kept sixty to an account; a bitmap says which
of the accounts there are. The pool has the bits around zero, an extension has the rest.

A source without a file is in `clmm_ticks.rs`, where a definition without a comment is the one
of its name.
-/

namespace Dripline.Venues

open Dripline.Found.FirstFew
open Dripline.Pools (Pubkey pubkeyAt uintAt)

/-- What is left of a value in 32 bits with a sign. -/
def wrap32 (n : ℤ) : ℤ := n.bmod (2 ^ 32)

def tickArraySize : ℕ := 60

def poolBitmapBits : ℤ := 1024

def extensionBlocks : ℕ := 14

def extensionBlockBits : ℤ := 512

def tickArraysPerSwap : ℕ := 3

def ticksPerArray (tickSpacing : ℕ) : ℤ := tickArraySize * tickSpacing

def poolBitmapReach (tickSpacing : ℕ) : ℤ := ticksPerArray tickSpacing * (poolBitmapBits / 2)

def tickArrayStartIndex (tick : ℤ) (tickSpacing : ℕ) : ℤ :=
  let span := ticksPerArray tickSpacing
  let index := if tick < 0 ∧ tick.tmod span ≠ 0 then tick.tdiv span - 1 else tick.tdiv span
  wrap32 (index * span)

/-! ## The bitmap -/

/-- So many words of 64 bits. Source: `from_pool_state`, `with_extension` -/
def wordsAt (data : List UInt8) (count offset : ℕ) : Option (List ℕ) :=
  (List.range count).mapM fun index => uintAt data (offset + index * 8) 8

structure TickArrayBitmap where
  pool : List ℕ
  positive : List (List ℕ)
  negative : List (List ℕ)
  deriving DecidableEq

namespace TickArrayBitmap

def fromPoolState (data : List UInt8) : Option TickArrayBitmap :=
  (wordsAt data 16 904).map fun pool => ⟨pool, [], []⟩

/-- Blocks, up to the first that is not there. Source: `TickArrayBitmap::with_extension` -/
def blocksAt (data : List UInt8) : ℕ → ℕ → List (List ℕ)
  | 0, _ => []
  | count + 1, offset =>
    match wordsAt data 8 offset with
    | none => []
    | some words => words :: blocksAt data count (offset + 64)

def withExtension (bitmap : TickArrayBitmap) (poolId : Pubkey) (data : List UInt8) : TickArrayBitmap :=
  if pubkeyAt data 8 ≠ some poolId then bitmap
  else
    let positive := blocksAt data extensionBlocks 40
    if positive.length < extensionBlocks then { bitmap with positive := bitmap.positive ++ positive }
    else
      { bitmap with
        positive := bitmap.positive ++ positive
        negative := bitmap.negative ++ blocksAt data extensionBlocks (40 + extensionBlocks * 64) }

/-- One bit of a bitmap. -/
def bitAt (words : List ℕ) (bit : ℕ) : Bool := (words.getD (bit / 64) 0).testBit (bit % 64)

/-- An array that the bits of the pool stand for. Source: `TickArrayBitmap::is_initialised` -/
def inPool (tickSpacing : ℕ) (startIndex : ℤ) : Bool :=
  let arrayIndex := startIndex.tdiv (ticksPerArray tickSpacing)
  decide (-(poolBitmapBits / 2) ≤ arrayIndex ∧ arrayIndex < poolBitmapBits / 2)

def isInitialised (bitmap : TickArrayBitmap) (tickSpacing : ℕ) (startIndex : ℤ) : Bool :=
  if ticksPerArray tickSpacing = 0 then false
  else
    let arrayIndex := startIndex.tdiv (ticksPerArray tickSpacing)
    if inPool tickSpacing startIndex then bitAt bitmap.pool (arrayIndex + poolBitmapBits / 2).toNat
    else
      let (blocks, distance) :=
        if 0 ≤ arrayIndex then (bitmap.positive, arrayIndex - poolBitmapBits / 2)
        else (bitmap.negative, -arrayIndex - poolBitmapBits / 2 - 1)
      match blocks[(distance / extensionBlockBits).toNat]? with
      | none => false
      | some block => bitAt block (distance % extensionBlockBits).toNat

/-! ## The search -/

/-- An absolute value: the least number has none, and stays. Source: Rust's `i32::abs` -/
def abs32 (n : ℤ) : ℤ := if n = -2 ^ 31 then n else |n|

/-- Source: `arrays_for_swap`, `reach` -/
def searchReach (tickSpacing : ℕ) : ℤ :=
  wrap32 (poolBitmapReach tickSpacing +
    wrap32 (ticksPerArray tickSpacing * extensionBlockBits * extensionBlocks))

/-- The turns of the search. Source: `arrays_for_swap` -/
def findArrays (marked : ℤ → Bool) (zeroForOne : Bool) (reach : ℤ) (span : { n : ℤ // 0 < n })
    (found : List ℤ) (start : ℤ) : List ℤ :=
  if found.length < tickArraysPerSwap ∧ abs32 start ≤ reach then
    let found' := if marked start then found ++ [start] else found
    match _h : checkedStep zeroForOne span start with
    | none => found'
    | some next => findArrays marked zeroForOne reach span found' next
  else found
termination_by roomLeft zeroForOne start
decreasing_by exact roomLeft_lt span.2 _h

def arraysForSwap (bitmap : TickArrayBitmap) (tickCurrent : ℤ) (tickSpacing : ℕ) (zeroForOne : Bool) :
    List ℤ :=
  if h : 0 < ticksPerArray tickSpacing then
    findArrays (bitmap.isInitialised tickSpacing) zeroForOne (searchReach tickSpacing) ⟨_, h⟩ []
      (tickArrayStartIndex tickCurrent tickSpacing)
  else []

/-- The starts that a search goes over. -/
def way (zeroForOne : Bool) (reach : ℤ) (span : { n : ℤ // 0 < n }) (start : ℤ) : List ℤ :=
  if abs32 start ≤ reach then
    start :: match _h : checkedStep zeroForOne span start with
      | none => []
      | some next => way zeroForOne reach span next
  else []
termination_by roomLeft zeroForOne start
decreasing_by exact roomLeft_lt span.2 _h

/-- The starts of a swap. -/
def wayOfSwap (tickCurrent : ℤ) (tickSpacing : ℕ) (zeroForOne : Bool) : List ℤ :=
  if h : 0 < ticksPerArray tickSpacing then
    way zeroForOne (searchReach tickSpacing) ⟨_, h⟩ (tickArrayStartIndex tickCurrent tickSpacing)
  else []

variable {span : { n : ℤ // 0 < n }} {zeroForOne : Bool} {reach start : ℤ}

lemma way_of_none (hreach : abs32 start ≤ reach) (hnext : checkedStep zeroForOne span start = none) :
    way zeroForOne reach span start = [start] := by
  rw [way, if_pos hreach]
  split
  · rfl
  · rename_i next hsome
    simp [hnext] at hsome

lemma way_of_next {next : ℤ} (hreach : abs32 start ≤ reach)
    (hnext : checkedStep zeroForOne span start = some next) :
    way zeroForOne reach span start = start :: way zeroForOne reach span next := by
  rw [way, if_pos hreach]
  split
  · rename_i hnone
    simp [hnext] at hnone
  · rename_i next' hsome
    obtain rfl : next = next' := Option.some.inj (hnext.symm.trans hsome)
    rfl

lemma findArrays_eq (marked : ℤ → Bool) (zeroForOne : Bool) (reach : ℤ) (span : { n : ℤ // 0 < n })
    (found : List ℤ) (start : ℤ) :
    findArrays marked zeroForOne reach span found start =
      found ++ ((way zeroForOne reach span start).filter marked).take
        (tickArraysPerSwap - found.length) := by
  fun_induction findArrays marked zeroForOne reach span found start with
  | case1 found start hturn found' hnext =>
    obtain ⟨left, hleft⟩ := Nat.exists_eq_add_of_lt hturn.1
    have hroom : tickArraysPerSwap - found.length = left + 1 := by omega
    rw [way_of_none hturn.2 hnext, hroom]
    cases hmarked : marked start <;> simp [found', hmarked]
  | case2 found start hturn found' next hnext ih =>
    obtain ⟨left, hleft⟩ := Nat.exists_eq_add_of_lt hturn.1
    have hroom : tickArraysPerSwap - found.length = left + 1 := by omega
    have hroom' : tickArraysPerSwap - (found.length + 1) = left := by omega
    rw [ih, way_of_next hturn.2 hnext]
    cases hmarked : marked start <;> simp [found', hmarked, hroom, hroom']
  | case3 found start hturn =>
    rcases not_and_or.mp hturn with hfull | hfar
    · have hroom : tickArraysPerSwap - found.length = 0 := by omega
      rw [hroom, List.take_zero, List.append_nil]
    · rw [way, if_neg hfar]
      simp

lemma arraysForSwap_eq (bitmap : TickArrayBitmap) (tickCurrent : ℤ) (tickSpacing : ℕ)
    (zeroForOne : Bool) :
    bitmap.arraysForSwap tickCurrent tickSpacing zeroForOne =
      ((wayOfSwap tickCurrent tickSpacing zeroForOne).filter (bitmap.isInitialised tickSpacing)).take
        tickArraysPerSwap := by
  unfold arraysForSwap wayOfSwap
  split
  · rw [findArrays_eq]
    rfl
  · rfl

/-! ## The extension -/

@[simp] lemma withExtension_pool (bitmap : TickArrayBitmap) (poolId : Pubkey) (data : List UInt8) :
    (bitmap.withExtension poolId data).pool = bitmap.pool := by
  simp only [withExtension]
  split_ifs <;> rfl

lemma isInitialised_iff {initial bitmap : TickArrayBitmap} (hpositive : initial.positive = [])
    (hnegative : initial.negative = []) (hpool : bitmap.pool = initial.pool) (tickSpacing : ℕ)
    (start : ℤ) :
    initial.isInitialised tickSpacing start =
      (bitmap.isInitialised tickSpacing start && inPool tickSpacing start) := by
  unfold isInitialised
  cases hinPool : inPool tickSpacing start with
  | true => simp [hpool]
  | false =>
    simp only [Bool.and_false, Bool.false_eq_true, if_false]
    split_ifs <;> simp [hpositive, hnegative]

/-! ## Where the way leads -/

lemma mem_way {first : ℤ} (h : start ∈ way zeroForOne reach span first) :
    ∃ count : ℕ, start = if zeroForOne then first - count * span else first + count * span := by
  fun_induction way zeroForOne reach span first with
  | case1 first hreach ih =>
    obtain rfl | hrest := List.mem_cons.mp h
    · exact ⟨0, by cases zeroForOne <;> simp⟩
    · split at hrest
      · simp at hrest
      · rename_i next hnext
        obtain ⟨count, hcount⟩ := ih next hnext hrest
        simp only [checkedStep, Option.ite_none_right_eq_some, Option.some.injEq] at hnext
        refine ⟨count + 1, ?_⟩
        cases zeroForOne <;> simp only [if_true, if_false, Bool.false_eq_true] at hcount hnext ⊢ <;>
          push_cast <;> linarith [hnext.2]
  | case2 first hreach => simp at h

lemma first_mem_arraysForSwap_iff (bitmap : TickArrayBitmap) (tickCurrent : ℤ) (tickSpacing : ℕ)
    (zeroForOne : Bool) :
    tickArrayStartIndex tickCurrent tickSpacing ∈ bitmap.arraysForSwap tickCurrent tickSpacing
      zeroForOne ↔
      0 < ticksPerArray tickSpacing ∧
        abs32 (tickArrayStartIndex tickCurrent tickSpacing) ≤ searchReach tickSpacing ∧
          bitmap.isInitialised tickSpacing (tickArrayStartIndex tickCurrent tickSpacing) = true := by
  rw [arraysForSwap_eq]
  constructor
  · intro h
    obtain ⟨hway, hmarked⟩ := List.mem_filter.mp (List.mem_of_mem_take h)
    unfold wayOfSwap at hway
    split at hway
    · rename_i hspan
      rw [way] at hway
      split at hway
      · rename_i hreach
        exact ⟨hspan, hreach, hmarked⟩
      · simp at hway
    · simp at hway
  · rintro ⟨hspan, hreach, hmarked⟩
    rw [wayOfSwap, dif_pos hspan, way, if_pos hreach, List.filter_cons, if_pos hmarked]
    exact List.mem_cons_self

lemma tickArrayStartIndex_spec {tick : ℤ} {tickSpacing : ℕ} (hspan : 0 < ticksPerArray tickSpacing)
    (hspacing : tickSpacing < 2 ^ 16) (hlow : -2 ^ 30 ≤ tick) (hhigh : tick ≤ 2 ^ 30) :
    tickArrayStartIndex tick tickSpacing ≤ tick ∧
      tick < tickArrayStartIndex tick tickSpacing + ticksPerArray tickSpacing := by
  have hsmall : ticksPerArray tickSpacing < 2 ^ 22 := by
    unfold ticksPerArray tickArraySize
    omega
  have hdiv := Int.tdiv_mul_add_tmod tick (ticksPerArray tickSpacing)
  have hmod := Int.tmod_lt_of_pos tick hspan
  have hneg := Int.lt_tmod_of_pos tick hspan
  have hsign : 0 ≤ tick → 0 ≤ tick.tmod (ticksPerArray tickSpacing) := fun h => Int.tmod_nonneg _ h
  have hsign' : tick < 0 → tick.tmod (ticksPerArray tickSpacing) ≤ 0 := by
    intro h
    have hopposite := Int.tmod_nonneg (ticksPerArray tickSpacing) (show 0 ≤ -tick by omega)
    rw [Int.neg_tmod] at hopposite
    omega
  have hwrap : ∀ start : ℤ, -2 ^ 31 ≤ start → start < 2 ^ 31 → wrap32 start = start := by
    intro start hl hh
    exact Int.bmod_eq_of_le (by omega) (by omega)
  simp only [tickArrayStartIndex]
  split
  · rename_i hbelow
    have hexpand : (tick.tdiv (ticksPerArray tickSpacing) - 1) * ticksPerArray tickSpacing =
        tick.tdiv (ticksPerArray tickSpacing) * ticksPerArray tickSpacing -
          ticksPerArray tickSpacing := by
      ring
    have := hsign' hbelow.1
    rw [hexpand, hwrap _ (by omega) (by omega)]
    omega
  · rename_i hat
    rw [hwrap _ (by omega) (by omega)]
    omega

end TickArrayBitmap

end Dripline.Venues

import Dripline.Found.Unique
import Dripline.Trader.Copy.Exits

/-!
# What the target holds

`observe_target_inventory` in `trader/copy/database/claims.rs`. Two tables are written in one
transaction: the events that were seen, one for each task and signature, and the holding of each
task and mint.

* `observeAll_stable_iff` — when a delivery again returns what the first one has returned.

Amounts are of any ordered type with a sum, so that nothing rests on how a sum is rounded.
-/

namespace Dripline.Trader.Copy

open Dripline.Found

variable {F : Type} [Zero F] [Add F] [LinearOrder F]

/-! ## The tables -/

/-- A trade of a target, as a task sees it; a sell has a delta below zero.
Source: `database/schema.rs`, `copy_target_events` -/
structure TargetEvent (F : Type) where
  taskId : ℤ
  signature : String
  mint : String
  tokenDelta : F

/-- The primary key of `copy_target_events`. -/
def TargetEvent.key (event : TargetEvent F) : ℤ × String := (event.taskId, event.signature)

/-- Source: `database/schema.rs`, `copy_target_holdings` -/
structure TargetHolding (F : Type) where
  taskId : ℤ
  mint : String
  tokenAmount : F

/-- The two tables of the inventory. -/
structure TargetTables (F : Type) where
  events : List (TargetEvent F)
  holdings : List (TargetHolding F)

/-- The row of a task and a mint. -/
def TargetHolding.isOf (taskId : ℤ) (mint : String) (row : TargetHolding F) : Bool :=
  row.taskId == taskId && row.mint == mint

/-- The amount of a task and a mint, or nothing. Source: `claims.rs` -/
def targetHolding (taskId : ℤ) (mint : String) (holdings : List (TargetHolding F)) : F :=
  ((holdings.find? (TargetHolding.isOf taskId mint)).map (·.tokenAmount)).getD 0

/-- Source: `claims.rs` -/
def updateTargetHolding (isFinite : F → Bool) (taskId : ℤ) (mint : String) (delta : F)
    (holdings : List (TargetHolding F)) : List (TargetHolding F) :=
  if isFinite delta = false ∨ delta = 0 then holdings
  else
    (Unique.insert (fun row => (row.taskId, row.mint)) ⟨taskId, mint, 0⟩ holdings).map fun row =>
      if row.isOf taskId mint then { row with tokenAmount := max 0 (row.tokenAmount + delta) } else row

/-- The holding that was read, and the tables after. Source: `claims.rs`,
`observe_target_inventory` -/
def observeTargetInventory (isFinite : F → Bool) (event : TargetEvent F) (tables : TargetTables F) :
    F × TargetTables F :=
  let before := targetHolding event.taskId event.mint tables.holdings
  let inserted := decide (event.key ∉ tables.events.map TargetEvent.key)
  (before,
    { events := Unique.insert TargetEvent.key event tables.events
      holdings :=
        if inserted then updateTargetHolding isFinite event.taskId event.mint event.tokenDelta
          tables.holdings
        else tables.holdings })

/-- Deliveries one after another: what each of them returns, and the tables after the last. -/
def observeAll (isFinite : F → Bool) : List (TargetEvent F) → TargetTables F → List F × TargetTables F
  | [], tables => ([], tables)
  | event :: deliveries, tables =>
    let (before, after) := observeTargetInventory isFinite event tables
    let (returned, last) := observeAll isFinite deliveries after
    (before :: returned, last)

/-! ## The trades -/

/-- The distinct trades, each at its first delivery. -/
def distinct (deliveries : List (TargetEvent F)) : List (TargetEvent F) :=
  Unique.insertAll TargetEvent.key deliveries []

/-- One trade, on a holding that does not fall below zero. -/
def settled (isFinite : F → Bool) (holding delta : F) : F :=
  if isFinite delta = false ∨ delta = 0 then holding else max 0 (holding + delta)

/-- The running sum of the trades of one task in one mint. -/
def held (isFinite : F → Bool) (taskId : ℤ) (mint : String) (trades : List (TargetEvent F)) : F :=
  (trades.filter fun trade => trade.taskId = taskId ∧ trade.mint = mint).foldl
    (fun holding trade => settled isFinite holding trade.tokenDelta) 0

lemma held_append (isFinite : F → Bool) (taskId : ℤ) (mint : String) (trades : List (TargetEvent F))
    (trade : TargetEvent F) :
    held isFinite taskId mint (trades ++ [trade]) =
      if trade.taskId = taskId ∧ trade.mint = mint then
        settled isFinite (held isFinite taskId mint trades) trade.tokenDelta
      else held isFinite taskId mint trades := by
  unfold held
  split
  · rename_i hof
    rw [List.filter_append, List.filter_cons_of_pos (by simpa using hof), List.foldl_append]
    rfl
  · rename_i hof
    rw [List.filter_append, List.filter_cons_of_neg (by simpa using hof)]
    simp

/-! ## The tables of the trades -/

omit [Zero F] [Add F] [LinearOrder F] in
@[simp] lemma isOf_iff {taskId : ℤ} {mint : String} {row : TargetHolding F} :
    row.isOf taskId mint = true ↔ row.taskId = taskId ∧ row.mint = mint := by
  simp [TargetHolding.isOf]

omit [Add F] [LinearOrder F] in
lemma targetHolding_insert (taskId taskId' : ℤ) (mint mint' : String)
    (holdings : List (TargetHolding F)) :
    targetHolding taskId mint
        (Unique.insert (fun row => (row.taskId, row.mint)) ⟨taskId', mint', 0⟩ holdings) =
      targetHolding taskId mint holdings := by
  unfold Unique.insert
  split
  · rfl
  · unfold targetHolding
    rw [List.find?_append]
    cases holdings.find? (TargetHolding.isOf taskId mint) with
    | some row => rfl
    | none =>
      rw [List.find?_singleton]
      split <;> rfl

omit [Add F] [LinearOrder F] in
lemma find?_insert_isSome (taskId : ℤ) (mint : String) (holdings : List (TargetHolding F)) :
    ((Unique.insert (fun row => (row.taskId, row.mint)) ⟨taskId, mint, 0⟩ holdings).find?
      (TargetHolding.isOf taskId mint)).isSome = true := by
  rw [List.find?_isSome]
  unfold Unique.insert
  split
  · rename_i hthere
    obtain ⟨row, hrow, hkey⟩ := List.mem_map.mp hthere
    obtain ⟨htask, hmint⟩ := Prod.mk.inj hkey
    exact ⟨row, hrow, isOf_iff.mpr ⟨htask, hmint⟩⟩
  · exact ⟨_, List.mem_append_right _ List.mem_cons_self, isOf_iff.mpr ⟨rfl, rfl⟩⟩

lemma targetHolding_update (isFinite : F → Bool) (taskId taskId' : ℤ) (mint mint' : String)
    (delta : F) (holdings : List (TargetHolding F)) :
    targetHolding taskId mint (updateTargetHolding isFinite taskId' mint' delta holdings) =
      if taskId' = taskId ∧ mint' = mint then settled isFinite
        (targetHolding taskId mint holdings) delta
      else targetHolding taskId mint holdings := by
  by_cases hnone : isFinite delta = false ∨ delta = 0
  · simp [updateTargetHolding, settled, hnone]
  · have hfind : ∀ rows : List (TargetHolding F),
        (rows.map fun row => if row.isOf taskId' mint' then
          { row with tokenAmount := max 0 (row.tokenAmount + delta) } else row).find?
            (TargetHolding.isOf taskId mint) =
          (rows.find? (TargetHolding.isOf taskId mint)).map fun row => if row.isOf taskId' mint' then
            { row with tokenAmount := max 0 (row.tokenAmount + delta) } else row := by
      intro rows
      rw [List.find?_map]
      congr 2
      funext row
      simp only [Function.comp_apply]
      split <;> rfl
    rw [updateTargetHolding, if_neg hnone, targetHolding, hfind]
    by_cases hself : taskId' = taskId ∧ mint' = mint
    · obtain ⟨rfl, rfl⟩ := hself
      obtain ⟨row, hrow⟩ := Option.isSome_iff_exists.mp (find?_insert_isSome taskId' mint' holdings)
      have hamount := targetHolding_insert taskId' taskId' mint' mint' holdings
      rw [targetHolding, hrow] at hamount
      have hof : row.isOf taskId' mint' = true := List.find?_some hrow
      simp only [hrow, Option.map_some, Option.getD_some, hof, if_true, and_self, settled, if_neg hnone]
      rw [← hamount]
      rfl
    · rw [if_neg hself, ← targetHolding_insert taskId taskId' mint mint' holdings]
      cases hrow : (Unique.insert (fun row : TargetHolding F => (row.taskId, row.mint))
        ⟨taskId', mint', 0⟩
          holdings).find? (TargetHolding.isOf taskId mint) with
      | none => simp [targetHolding, hrow]
      | some row =>
        have hof : row.taskId = taskId ∧ row.mint = mint := isOf_iff.mp (List.find?_some hrow)
        have hother : row.isOf taskId' mint' = false := by
          rw [Bool.eq_false_iff, ne_eq, isOf_iff]
          rintro ⟨htask, hmint⟩
          exact hself ⟨htask.symm.trans hof.1, hmint.symm.trans hof.2⟩
        simp only [targetHolding, hrow, Option.map_some, hother, Bool.false_eq_true, if_false]

/-- The tables of distinct trades. -/
structure Records (isFinite : F → Bool) (trades : List (TargetEvent F)) (tables : TargetTables F) :
    Prop where
  events : tables.events = trades
  holdings : ∀ taskId mint, targetHolding taskId mint tables.holdings = held isFinite taskId mint trades

variable {trades : List (TargetEvent F)} {tables : TargetTables F}

lemma records_observe {isFinite : F → Bool} (h : Records isFinite trades tables)
    (event : TargetEvent F) :
    (observeTargetInventory isFinite event tables).1 = held isFinite event.taskId event.mint trades ∧
      Records isFinite (Unique.insert TargetEvent.key event trades)
        (observeTargetInventory isFinite event tables).2 := by
  refine ⟨h.holdings _ _, ?_, fun taskId mint => ?_⟩
  · simp only [observeTargetInventory, h.events]
  · simp only [observeTargetInventory, h.events]
    by_cases hseen : event.key ∈ trades.map TargetEvent.key
    · rw [Unique.insert_of_mem hseen]
      simp [hseen, h.holdings]
    · rw [Unique.insert_of_not_mem hseen, held_append]
      simp only [hseen, not_false_eq_true, decide_true, if_true, targetHolding_update, h.holdings]

lemma records_observeAll {isFinite : F → Bool} (deliveries : List (TargetEvent F))
    (h : Records isFinite trades tables) :
    Records isFinite (Unique.insertAll TargetEvent.key deliveries trades)
        (observeAll isFinite deliveries tables).2 ∧
      ∀ (n : ℕ) (event : TargetEvent F), deliveries[n]? = some event →
        (observeAll isFinite deliveries tables).1[n]? = some (held isFinite event.taskId event.mint
          (Unique.insertAll TargetEvent.key (deliveries.take n) trades)) := by
  induction deliveries generalizing trades tables with
  | nil => exact ⟨h, fun n event hevent => by simp at hevent⟩
  | cons first deliveries ih =>
    obtain ⟨hbefore, hrecords⟩ := records_observe h first
    obtain ⟨hlast, hreturned⟩ := ih hrecords
    refine ⟨hlast, fun n event hevent => ?_⟩
    cases n with
    | zero =>
      obtain rfl : first = event := by simpa using hevent
      simp [observeAll, hbefore]
    | succ n => exact hreturned n event (by simpa using hevent)

/-! ## Deliveries again -/

lemma records_nil (isFinite : F → Bool) : Records isFinite ([] : List (TargetEvent F)) ⟨[], []⟩ :=
  ⟨rfl, fun _ _ => rfl⟩

/-- What every delivery of a trade returns. -/
def Stable (isFinite : F → Bool) (deliveries : List (TargetEvent F)) : Prop :=
  ∀ (first again : ℕ) (event event' : TargetEvent F), deliveries[first]? = some event →
    deliveries[again]? = some event' → event.key = event'.key → event.mint = event'.mint →
      (observeAll isFinite deliveries ⟨[], []⟩).1[first]? =
        (observeAll isFinite deliveries ⟨[], []⟩).1[again]?

/-- **The inventory of a target.** After any deliveries the stored holding of a task and a mint is
the clamped sum of the distinct trades at their first deliveries, however often they are delivered.
And a delivery returns what an earlier one of its trade has returned exactly where the trades of its
mint that have been seen since, the trade itself among them, have left the holding as it was. -/
theorem observeAll_stable_iff (isFinite : F → Bool) (deliveries : List (TargetEvent F)) :
    (∀ taskId mint, targetHolding taskId mint (observeAll isFinite deliveries ⟨[], []⟩).2.holdings =
      held isFinite taskId mint (distinct deliveries)) ∧
    (Stable isFinite deliveries ↔
      ∀ (first again : ℕ) (event event' : TargetEvent F), deliveries[first]? = some event →
        deliveries[again]? = some event' → event.key = event'.key → event.mint = event'.mint →
          held isFinite event.taskId event.mint (distinct (deliveries.take first)) =
            held isFinite event.taskId event.mint (distinct (deliveries.take again))) := by
  obtain ⟨hlast, hreturned⟩ := records_observeAll deliveries (records_nil isFinite)
  refine ⟨hlast.holdings, forall_congr' fun first => forall_congr' fun again => forall_congr'
    fun event =>
    forall_congr' fun event' => forall_congr' fun hfirst => forall_congr' fun hagain =>
      forall_congr' fun hkey => forall_congr' fun hmint => ?_⟩
  obtain ⟨htask, -⟩ := Prod.mk.inj hkey
  rw [hreturned first event hfirst, hreturned again event' hagain, Option.some.injEq, ← htask, ← hmint]
  rfl

/-- A buy of a hundred tokens, a sell of thirty, and the sell delivered again: it is then a sell
from seventy, and the copy sells another part of what it holds. -/
theorem not_stable :
    ¬Stable (fun _ => true)
      [(⟨1, "buy", "mint", 100⟩ : TargetEvent ℚ), ⟨1, "sell", "mint", -30⟩, ⟨1, "sell", "mint", -30⟩] ∧
      proportionalExitPercentage 30 100 ≠ proportionalExitPercentage 30 70 := by
  constructor
  · intro hstable
    have hsame := hstable 1 2 ⟨1, "sell", "mint", -30⟩ ⟨1, "sell", "mint", -30⟩ rfl rfl rfl rfl
    exact absurd hsame (by decide +kernel)
  · decide +kernel

end Dripline.Trader.Copy

import Dripline.Wallets.Cursor

/-!
# A range that does not fit

* `not_followed` — the signatures between are left behind.
-/

namespace Dripline.Wallets

open Dripline.Found.Feed Dripline.Transactions List

namespace CatchUpState

lemma fetchPages_full {size : ℕ} {feed rest : List String} {mark : String} (hsize : 0 < size)
    (hnodup : feed.Nodup) (budget : ℕ) {fetched : ℕ} (hfetched : budget ≤ fetched)
    (state : CatchUpState) (newer : List String) (hlong : size * budget ≤ newer.length)
    (hfeed : feed = state.newestFirst ++ (newer ++ mark :: rest)) (hopen : state.complete = false)
    (hbounded : state.initialWindow = false) (hdurable : state.durableUntil = some mark)
    (hbefore : state.before = state.newestFirst.getLast?) :
    ∃ after, fetchPages size feed budget fetched state = (true, after) ∧ after.complete = false ∧
      after.newestSignature = state.newestSignature.or (if budget = 0 then none else newer.head?) := by
  induction budget generalizing fetched state newer with
  | zero => exact ⟨state, rfl, hopen, (Option.or_none).symm⟩
  | succ budget ih =>
    obtain ⟨fetched, rfl⟩ : ∃ n, fetched = n + 1 := ⟨fetched - 1, by omega⟩
    have hbehind : newerThan (some mark) (newer ++ mark :: rest) = newer := by
      rw [newerThan_grown]
      · simp [newerThan]
      · rw [hfeed] at hnodup
        exact fun hmem => (nodup_append.mp (nodup_append.mp hnodup).2.1).2.2 mark hmem mark
          mem_cons_self rfl
    have hpage : page size state.before state.durableUntil feed = newer.take size := by
      rw [hdurable, ← hbehind]
      exact page_of_parts (show feed = ([] ++ state.newestFirst) ++ _ from hfeed) hnodup
        (fun _ => rfl) hbefore (some mark)
    have hfull : (newer.take size).length = size := by
      rw [length_take]
      exact Nat.min_eq_left (Nat.le_trans (Nat.le_mul_of_pos_right size (Nat.succ_pos _)) hlong)
    have hsome : newer.take size ≠ [] := fun hnil => by
      rw [hnil] at hfull
      exact absurd hfull (Nat.ne_of_lt hsize)
    set next : CatchUpState :=
      { state with
        newestSignature := state.newestSignature.or (newer.take size).head?
        before := (newer.take size).getLast?
        newestFirst := state.newestFirst ++ newer.take size
        complete := false } with hnext
    have hingest : state.ingestPage (page size state.before state.durableUntil feed) size = next := by
      unfold ingestPage
      rw [hopen, hpage, hfull, hbounded]
      simp [hnext, hsome, hbounded]
    have hrest : size * budget ≤ (newer.drop size).length := by
      rw [Nat.mul_succ] at hlong
      rw [length_drop]
      omega
    have hfeed' : feed = next.newestFirst ++ (newer.drop size ++ mark :: rest) := by
      show feed = state.newestFirst ++ newer.take size ++ (newer.drop size ++ mark :: rest)
      rw [hfeed, append_assoc, ← append_assoc (newer.take size), take_append_drop]
    have hlast : next.before = next.newestFirst.getLast? :=
      (List.getLast?_append_of_ne_nil _ hsome).symm
    obtain ⟨after, hafter, hmore, hnewest⟩ := ih (show budget ≤ fetched by omega) next
      (newer.drop size) hrest hfeed' rfl hbounded hdurable hlast
    refine ⟨after, ?_, hmore, ?_⟩
    · show (if (state.ingestPage (page size state.before state.durableUntil feed) size).complete
        then _ else _) = _
      rw [hingest]
      exact hafter
    · -- the first page has the newest signature
      obtain ⟨newest, others, hnewer⟩ := exists_cons_of_ne_nil
        (show newer ≠ [] from fun hnil => hsome (by rw [hnil, take_nil]))
      have hhead : (newer.take size).head? = some newest := by
        obtain ⟨size, rfl⟩ : ∃ n, size = n + 1 := ⟨size - 1, by omega⟩
        rw [hnewer]
        rfl
      rw [hnewest, if_neg (Nat.succ_ne_zero _), hnewer]
      show (state.newestSignature.or (newer.take size).head?).or _ = _
      rw [hhead]
      cases state.newestSignature <;> rfl

end CatchUpState

namespace Watch

/-! ## A poll that does not fit -/

variable {address mark : String} {runtime : TargetRuntime} {answers : PollAnswers} {budget size : ℕ}

lemma cursor_overflow {watch : Watch} {newest : String} (backfill : Bool) {newer rest : List String}
    (hruntime : watch.runtimes address = some runtime) (hclosed : runtime.catchUp = none)
    (hother : isOwn runtime.target.sources = false) (hstreak : runtime.overflowStreak = 0)
    (hmark : watch.getCursor address = some mark) (hread : answers.cursorRead = true)
    (hwritten : answers.written = true)
    (hchain : watch.history.chain address = (newest :: newer) ++ mark :: rest)
    (hnodup : (watch.history.chain address).Nodup) (hsize : 0 < size) (hbudget : 0 < budget)
    (hfetched : budget ≤ answers.fetched) (hlong : size * budget ≤ (newest :: newer).length) :
    (watch.pollTarget size budget address backfill answers).cursors address = some (some newest) ∧
      (watch.pollTarget size budget address backfill answers).deliveries = watch.deliveries ∧
      (watch.pollTarget size budget address backfill answers).history = watch.history := by
  obtain ⟨after, hafter, hmore, hnewest⟩ := CatchUpState.fetchPages_full hsize hnodup budget hfetched
    (.new (some mark)) (newest :: newer) hlong hchain rfl rfl rfl rfl
  have hopened : watch.openRange address backfill answers runtime =
      ({ runtime with
          baselineOnly := !isOwn runtime.target.sources &&
            !(answers.rowRead && watch.hasCursorRow address)
          backfill := backfill }, .new (some mark)) := by
    unfold openRange
    rw [hclosed, hread, hmark]
    rfl
  have hadvanced : advanceCatchUp size budget (watch.history.chain address) answers.fetched
      (.new (some mark)) = (.more, after) := by
    have hopen : after.completed = none := by
      unfold CatchUpState.completed
      rw [hmore]
      rfl
    unfold advanceCatchUp
    rw [if_neg (by simp [CatchUpState.new]), hafter]
    dsimp only
    rw [hopen]
  have hfirst : after.newestSignature = some newest := by
    rw [hnewest, if_neg (Nat.ne_of_gt hbudget)]
    rfl
  unfold pollTarget
  rw [hruntime]
  dsimp only
  rw [hopened]
  dsimp only
  rw [hadvanced]
  dsimp only
  rw [hother]
  unfold handleOverflow
  dsimp only
  rw [hstreak, hfirst, hwritten]
  exact ⟨Function.update_self .., rfl, rfl⟩

lemma foldl_gained (size budget : ℕ) (signatures : List String) (watch : Watch)
    (hfresh : ∀ signature ∈ signatures, signature ∉ watch.history.chain address)
    (hnodup : signatures.Nodup) :
    ((signatures.map (WatchEvent.gained address)).foldl (step size budget) watch).history.chain
        address = signatures.reverse ++ watch.history.chain address ∧
      ((signatures.map (WatchEvent.gained address)).foldl (step size budget) watch).runtimes =
        watch.runtimes ∧
      ((signatures.map (WatchEvent.gained address)).foldl (step size budget) watch).cursors =
        watch.cursors ∧
      ((signatures.map (WatchEvent.gained address)).foldl (step size budget) watch).deliveries =
        watch.deliveries := by
  induction signatures generalizing watch with
  | nil => exact ⟨rfl, rfl, rfl, rfl⟩
  | cons signature signatures ih =>
    obtain ⟨hnew, hnodup⟩ := nodup_cons.mp hnodup
    have hchain : (watch.step size budget (.gained address signature)).history.chain address =
        signature :: watch.history.chain address := by
      rw [chain_gained, if_neg (hfresh signature mem_cons_self)]
    have hothers : ∀ other ∈ signatures,
        other ∉ (watch.step size budget (.gained address signature)).history.chain address := by
      intro other hother
      rw [hchain, mem_cons, not_or]
      exact ⟨fun heq => hnew (heq ▸ hother), hfresh other (mem_cons_of_mem _ hother)⟩
    obtain ⟨hchain', hrest⟩ := ih (watch.step size budget (.gained address signature)) hothers hnodup
    refine ⟨?_, hrest⟩
    rw [map_cons, foldl_cons, hchain', hchain, reverse_cons, append_assoc]
    rfl

lemma not_followed_of_burst {start : Watch} {last : String} {burst : List String}
    (hruntime : start.runtimes address = some runtime) (hclosed : runtime.catchUp = none)
    (hother : isOwn runtime.target.sources = false) (hstreak : runtime.overflowStreak = 0)
    (hmark : start.cursors address = some (some mark)) (hdeliveries : start.deliveries = [])
    (hread : answers.cursorRead = true) (hwritten : answers.written = true)
    (hchain : start.history.chain address = [mark]) (hnodup : (burst ++ [last]).Nodup)
    (hfresh : mark ∉ burst ++ [last]) (hsome : burst ≠ []) (hsize : 0 < size) (hbudget : 0 < budget)
    (hfetched : budget ≤ answers.fetched) (hlong : size * budget ≤ (burst ++ [last]).length) :
    ¬(((burst ++ [last]).map (WatchEvent.gained address) ++
      [WatchEvent.polled address false answers]).foldl (step size budget) start).Followed
        address mark := by
  have hnew : ∀ signature ∈ burst ++ [last], signature ∉ start.history.chain address := by
    intro signature hmem
    rw [hchain, mem_singleton]
    exact fun heq => hfresh (heq ▸ hmem)
  obtain ⟨hgrown, hruntimes, hcursors, hkept⟩ :=
    foldl_gained size budget (burst ++ [last]) start hnew hnodup
  rw [foldl_append, foldl_cons, foldl_nil]
  set grown := ((burst ++ [last]).map (WatchEvent.gained address)).foldl (step size budget) start
  have hparts : grown.history.chain address = (last :: burst.reverse) ++ mark :: [] := by
    rw [hgrown, hchain, reverse_append, reverse_singleton, singleton_append]
  have hnodup' : (grown.history.chain address).Nodup := by
    rw [hgrown, hchain]
    refine nodup_append.mpr ⟨nodup_reverse.mpr hnodup, nodup_singleton _, ?_⟩
    rintro signature hmem _ hmark rfl
    exact hfresh (mem_singleton.mp hmark ▸ mem_reverse.mp hmem)
  have hlong' : size * budget ≤ (last :: burst.reverse).length := by simpa using hlong
  obtain ⟨hcursor, hnothing, hsame⟩ := cursor_overflow false
    (show grown.runtimes address = some runtime from hruntimes ▸ hruntime) hclosed hother hstreak
      (by simp [getCursor, hcursors, hmark]) hread hwritten
    hparts hnodup' hsize hbudget hfetched hlong'
  rintro ⟨next, hnext, -, hsettled⟩
  have hlast : next = last := by
    have := hnext.symm.trans hcursor
    simpa using this
  obtain ⟨signature, hsignature⟩ := exists_mem_of_ne_nil burst hsome
  have hafter : (step size budget grown (.polled address false answers)).history.chain address =
      (last :: burst.reverse) ++ mark :: [] := (congrArg (·.chain address) hsame).trans hparts
  have hmember : signature ∈ last :: burst.reverse :=
    mem_cons_of_mem _ (mem_reverse.mpr hsignature)
  have hskipped := hsettled signature ?_ ?_
  · unfold Settled at hskipped
    rw [show (step size budget grown (.polled address false answers)).deliveries = [] from
      hnothing.trans (hkept.trans hdeliveries)] at hskipped
    cases hskipped
  · unfold Newer
    rw [hafter, newerThan_grown]
    · exact mem_append_left _ hmember
    · exact fun hmem => hfresh (by simpa [or_comm] using hmem)
  · rw [hafter, hlast]
    simp [Newer, newerThan]

end Watch

/-- A signature of a burst. -/
def burstSignature (n : ℕ) : String := String.ofList (List.replicate (n + 1) 'x')

/-- A target gets its baseline. -/
def observed : List WatchEvent :=
  [.stored ⟨some 1, "target", [.alert 1], true⟩, .reloaded true true, .gained "target" "old",
    .polled "target" true ⟨true, true, 1, [], none, true⟩]

/-- Then come as many signatures as fit into the pages of a poll. -/
def burstRun : List WatchEvent :=
  observed ++ (((List.range 499).map burstSignature ++ [burstSignature 499]).map
    (WatchEvent.gained "target") ++ [.polled "target" false ⟨true, true, maxPages, [], none, true⟩])

/-- **Signatures are left behind**: the cursor of a target has moved over a burst, of which nothing
was delivered. -/
theorem not_followed :
    (observed.foldl (Watch.step pageSize maxPages) (.opened "wallet")).cursors "target" =
        some (some "old") ∧
      ¬(burstRun.foldl (Watch.step pageSize maxPages) (.opened "wallet")).Followed "target" "old" := by
  have hburst : (List.range 499).map burstSignature ++ [burstSignature 499] =
      (List.range 500).map burstSignature := by
    conv_rhs => rw [range_succ, map_append, map_singleton]
  have hnodup : ((List.range 500).map burstSignature).Nodup := by
    refine List.Nodup.map (fun n m heq => ?_) nodup_range
    have hlength := congrArg List.length (String.ofList_injective heq)
    simpa using hlength
  have hfresh : "old" ∉ (List.range 500).map burstSignature := by
    rw [mem_map]
    rintro ⟨n, -, heq⟩
    have hlist := congrArg String.toList heq
    simp [burstSignature, replicate_succ] at hlist
  have hsome : (List.range 499).map burstSignature ≠ [] := by
    rw [ne_eq, map_eq_nil_iff, range_eq_nil]
    decide
  have hlong : pageSize * maxPages ≤
      ((List.range 499).map burstSignature ++ [burstSignature 499]).length := by
    rw [length_append, length_map, length_range, length_singleton]
    decide
  rw [← hburst] at hnodup hfresh
  refine ⟨by decide +kernel, ?_⟩
  unfold burstRun
  generalize (List.range 499).map burstSignature = burst at *
  generalize burstSignature 499 = last at *
  rw [foldl_append]
  exact Watch.not_followed_of_burst
    (show (observed.foldl (Watch.step pageSize maxPages) (.opened "wallet")).runtimes "target" =
      some ⟨⟨some 1, "target", [.alert 1], true⟩, none, false, 0, true⟩ by decide +kernel)
    rfl rfl rfl (by decide +kernel) (by decide +kernel) rfl rfl (by decide +kernel) hnodup
    hfresh hsome (by decide) (by decide) (Nat.le_refl _) hlong

end Dripline.Wallets

import Dripline.Wallets.Deliveries

/-!
# Does the cursor of a watched wallet leave a signature behind?

* `followed_of_careful` — so it is in every state of a run; `not_followed` — else not.
-/

namespace Dripline.Wallets.Watch

open Dripline.Found.Feed Dripline.Found.Trace Dripline.Transactions List Function

/-! ## What holds -/

section statement

variable (watch : Watch) (size : ℕ) (address : String)

/-- An open range: its newest signature is on chain, and with a cursor it is no baseline and has no
gap. -/
structure Ranges (runtime : TargetRuntime) (state : CatchUpState) : Prop where
  onChain : ∀ newest ∈ state.newestSignature, newest ∈ watch.history.chain address
  reads : ∀ mark, watch.cursors address = some (some mark) →
    runtime.baselineOnly = false ∧ state.Reads size (watch.history.chain address) mark

/-- The chain has a signature once, the cursor is on it, an open range has no gap; and the cursor is
no orphan. -/
structure Tracked : Prop where
  nodup : (watch.history.chain address).Nodup
  onChain : ∀ mark, watch.cursors address = some (some mark) → mark ∈ watch.history.chain address
  listed : watch.cursors address ≠ none ∨ watch.runtimes address ≠ none → watch.Listed address
  ranges : ∀ runtime state, watch.runtimes address = some runtime → runtime.catchUp = some state →
    watch.Ranges size address runtime state

/-- **Followed**: the cursor is at an earlier one, or newer, and each signature that is newer than
the earlier cursor and not newer than the present one is settled. -/
def Followed (mark : String) : Prop :=
  ∃ last, watch.cursors address = some (some last) ∧
    (last = mark ∨ Newer (watch.history.chain address) last mark) ∧
      ∀ signature, Newer (watch.history.chain address) signature mark →
        ¬Newer (watch.history.chain address) signature last → watch.Settled address signature

/-- A poll that opens a range reads the cursor, and whether there is a row; and one of another's
wallet does not run out of pages. -/
structure CarefulPoll (budget : ℕ) (backfill : Bool) (answers : PollAnswers)
    (runtime : TargetRuntime) : Prop where
  read : runtime.catchUp = none → answers.cursorRead = true ∧
    (isOwn runtime.target.sources = false → answers.rowRead = true)
  fits : isOwn runtime.target.sources = false →
    (advanceCatchUp size budget (watch.history.chain address) answers.fetched
      (watch.openRange address backfill answers runtime).2).1 ≠ .more

/-- **Careful**: the wallet stays a target, and its polls are careful. -/
def Careful (budget : ℕ) : WatchEvent → Prop
  | .removed other => other ≠ address
  | .polled other backfill answers => other = address → ∀ runtime,
      watch.runtimes address = some runtime →
        watch.CarefulPoll size address budget backfill answers runtime
  | _ => True

end statement

variable {watch : Watch} {size : ℕ} {address : String}

/-! ## What leaves the cursor alone -/

/-- The cursor stays, the range stays or is dropped, and what was delivered stays so. -/
structure Keeps (watch after : Watch) (address : String) : Prop where
  chain : after.history.chain address = watch.history.chain address
  cursor : after.cursors address = watch.cursors address
  runtime : ∀ runtime state, after.runtimes address = some runtime → runtime.catchUp = some state →
    watch.runtimes address = some runtime
  listed : watch.Listed address → after.Listed address
  runs : after.runtimes address ≠ none → watch.runtimes address ≠ none ∨ after.Listed address
  delivered : ∀ delivery ∈ watch.deliveries, delivery ∈ after.deliveries

lemma Keeps.refl (watch : Watch) (address : String) : watch.Keeps watch address :=
  ⟨rfl, rfl, fun _ _ h _ => h, id, Or.inl, fun _ h => h⟩

variable {after : Watch}

lemma Keeps.trans {middle : Watch} (h : watch.Keeps middle address)
    (h' : middle.Keeps after address) : watch.Keeps after address where
  chain := h'.chain.trans h.chain
  cursor := h'.cursor.trans h.cursor
  runtime := fun runtime state hruntime hstate =>
    h.runtime runtime state (h'.runtime runtime state hruntime hstate) hstate
  listed := fun hlisted => h'.listed (h.listed hlisted)
  runs := fun hruns => (h'.runs hruns).elim (fun hmiddle => (h.runs hmiddle).imp_right h'.listed) Or.inr
  delivered := fun delivery hmem => h'.delivered delivery (h.delivered delivery hmem)

lemma Serves.keeps (h : watch.Serves after) (address : String) :
    watch.Keeps after address where
  chain := congrFun h.history.chain address
  cursor := congrFun h.cursors address
  runtime := fun runtime state hruntime _ => h.runtimes ▸ hruntime
  listed := fun hlisted => by
    unfold Listed
    rw [h.history.wallet, h.targets]
    exact hlisted
  runs := fun hruns => Or.inl (h.runtimes ▸ hruns)
  delivered := fun _ hmem => h.delivered hmem

lemma keeps_restarted : watch.Keeps watch.restarted address :=
  ⟨rfl, rfl, (fun _ _ h => by cases h), id, fun h => absurd rfl h, fun _ h => h⟩

section others

variable {other : String} (hother : other ≠ address)
include hother

lemma keeps_setRuntime (runtime : TargetRuntime) :
    watch.Keeps (watch.setRuntime other runtime) address := by
  have hsame : (watch.setRuntime other runtime).runtimes address = watch.runtimes address :=
    update_of_ne hother.symm ..
  exact ⟨rfl, rfl, fun _ _ h _ => hsame ▸ h, id, fun h => Or.inl (hsame ▸ h), fun _ h => h⟩

lemma keeps_cursor (cursor : Option (Option String)) :
    watch.Keeps { watch with cursors := Function.update watch.cursors other cursor } address :=
  ⟨rfl, update_of_ne hother.symm .., fun _ _ h _ => h, id, Or.inl, fun _ h => h⟩

lemma keeps_handleOverflow (written : Bool) (runtime : TargetRuntime) (state : CatchUpState) :
    watch.Keeps (watch.handleOverflow other written runtime state) address := by
  have hdropped : watch.Keeps (watch.setRuntime other
      { runtime with catchUp := none, overflowStreak := runtime.overflowStreak + 1 }) address :=
    keeps_setRuntime hother _
  unfold handleOverflow
  dsimp only
  split
  · split
    · split
      case isTrue hwritten =>
        refine hdropped.trans ⟨rfl, rfl, fun _ _ h _ => h, ?_, Or.inl, fun _ h => h⟩
        refine Or.imp_right fun hmem => ?_
        -- a target that is disabled keeps its address
        have hsame : ∀ (targets : List WatchTarget) (id : ℤ), (targets.map fun target =>
            if target.id = some id then { target with enabled := false } else target).map
              (·.address) = targets.map (·.address) := by
          intro targets id
          rw [map_map]
          refine map_congr_left fun target _ => ?_
          show (if target.id = some id then { target with enabled := false } else target).address =
            target.address
          split <;> rfl
        exact (hsame _ _).symm ▸ hmem
      case isFalse => exact hdropped
    · exact hdropped
  · split
    · split
      · exact hdropped.trans (keeps_cursor hother _)
      · exact hdropped
    · exact hdropped

lemma keeps_establishBaseline (written : Bool) (runtime : TargetRuntime)
    (range : CompletedCatchUp) :
    watch.Keeps (watch.establishBaseline other written runtime range) address := by
  unfold establishBaseline
  split
  · refine Keeps.trans ?_ (keeps_setRuntime hother _)
    split
    · exact keeps_cursor hother _
    · exact keeps_cursor hother _
  · exact Keeps.refl watch address

lemma keeps_closeRange (written : Bool) (runtime : TargetRuntime) (newest : Option String) :
    watch.Keeps (watch.closeRange other written runtime newest) address := by
  unfold closeRange
  dsimp only
  split
  · split
    · exact (keeps_setRuntime hother _).trans (keeps_cursor hother _)
    · exact Keeps.refl watch address
  · exact keeps_setRuntime hother _

lemma keeps_pollTarget (budget : ℕ) (backfill : Bool) (answers : PollAnswers) :
    watch.Keeps (watch.pollTarget size budget other backfill answers) address := by
  unfold pollTarget
  split
  case h_1 => exact Keeps.refl watch address
  case h_2 runtime hruntime =>
    dsimp only
    split
    case h_1 => exact keeps_setRuntime hother _
    case h_2 =>
      split
      · exact keeps_setRuntime hother _
      · exact (keeps_setRuntime hother _).trans (keeps_handleOverflow hother _ _ _)
    case h_3 range hadvanced =>
      split
      case isTrue =>
        exact (keeps_setRuntime hother _).trans (keeps_establishBaseline hother _ _ _)
      case isFalse =>
        split
        case h_1 stopped heq =>
          exact ((keeps_setRuntime hother _).trans
            ((serves_of_replay heq).keeps address)).trans keeps_restarted
        case h_2 replayed heq =>
          exact (keeps_setRuntime hother _).trans ((serves_of_replay heq).keeps address)
        case h_3 replayed heq =>
          exact ((keeps_setRuntime hother _).trans
            ((serves_of_replay heq).keeps address)).trans (keeps_closeRange hother _ _ _)

end others

/-! ## What keeps the range without a gap -/

lemma Tracked.keep (h : watch.Tracked size address) (hkeeps : watch.Keeps after address) :
    after.Tracked size address where
  nodup := hkeeps.chain.symm ▸ h.nodup
  onChain := by
    rw [hkeeps.chain, hkeeps.cursor]
    exact h.onChain
  listed := by
    rw [hkeeps.cursor]
    rintro (hcursor | hruns)
    · exact hkeeps.listed (h.listed (Or.inl hcursor))
    · exact (hkeeps.runs hruns).elim (fun hbefore => hkeeps.listed (h.listed (Or.inr hbefore))) id
  ranges := by
    intro runtime state hruntime hstate
    obtain ⟨honChain, hreads⟩ :=
      h.ranges runtime state (hkeeps.runtime runtime state hruntime hstate) hstate
    exact ⟨hkeeps.chain.symm ▸ honChain, by rw [hkeeps.cursor, hkeeps.chain]; exact hreads⟩

variable {runtime : TargetRuntime}

lemma Tracked.setRuntime (h : watch.Tracked size address) (hlisted : watch.Listed address)
    (hranges : ∀ state, runtime.catchUp = some state → watch.Ranges size address runtime state) :
    (watch.setRuntime address runtime).Tracked size address where
  nodup := h.nodup
  onChain := h.onChain
  listed := fun _ => hlisted
  ranges := by
    intro other state hruntime hstate
    have hself : (watch.setRuntime address runtime).runtimes address = some runtime :=
      update_self ..
    rw [hself] at hruntime
    cases hruntime
    exact ⟨(hranges state hstate).onChain, (hranges state hstate).reads⟩

lemma Tracked.close {cursor : Option (Option String)} (h : watch.Tracked size address)
    (hlisted : watch.Listed address) (hdropped : runtime.catchUp = none)
    (hcursor : ∀ mark, cursor = some (some mark) → mark ∈ watch.history.chain address) :
    Tracked { watch with
      cursors := Function.update watch.cursors address cursor
      runtimes := Function.update watch.runtimes address (some runtime) } size address where
  nodup := h.nodup
  onChain := by
    intro mark hmark
    have hself : Function.update watch.cursors address cursor address = cursor :=
      update_self ..
    exact hcursor mark (hself.symm.trans hmark)
  listed := fun _ => hlisted
  ranges := by
    intro other state hother hstate
    have hself : Function.update watch.runtimes address (some runtime) address = some runtime :=
      update_self ..
    cases hself.symm.trans hother
    rw [hdropped] at hstate
    cases hstate

variable {answers : PollAnswers} {backfill : Bool}

lemma Tracked.openRange (h : watch.Tracked size address)
    (hruntime : watch.runtimes address = some runtime)
    (hread : runtime.catchUp = none → answers.cursorRead = true ∧
      (isOwn runtime.target.sources = false → answers.rowRead = true)) :
    watch.Ranges size address (watch.openRange address backfill answers runtime).1
      (watch.openRange address backfill answers runtime).2 := by
  unfold Watch.openRange
  split
  case h_1 state hstate =>
    have hranges := h.ranges runtime state hruntime hstate
    exact ⟨hranges.onChain, hranges.reads⟩
  case h_2 hnone =>
    obtain ⟨hcursor, hrow⟩ := hread hnone
    refine ⟨(fun newest hnewest => by cases hnewest), fun mark hmark => ⟨?_, ?_⟩⟩
    · show (!isOwn runtime.target.sources && !(answers.rowRead && watch.hasCursorRow address)) = false
      have hhas : watch.hasCursorRow address = true := by simp [hasCursorRow, hmark]
      cases hown : isOwn runtime.target.sources with
      | true => rfl
      | false => simp [hrow hown, hhas]
    · have hget : (if answers.cursorRead = true then watch.getCursor address else none) =
          some mark := by simp [hcursor, getCursor, hmark]
      rw [hget]
      exact CatchUpState.reads_new size _ mark

lemma Ranges.advance {state : CatchUpState} (budget fetched : ℕ)
    (hnodup : (watch.history.chain address).Nodup) (h : watch.Ranges size address runtime state) :
    watch.Ranges size address
      { runtime with
        catchUp := some (advanceCatchUp size budget (watch.history.chain address) fetched state).2 }
      (advanceCatchUp size budget (watch.history.chain address) fetched state).2 where
  onChain := CatchUpState.newest_mem_advance budget fetched h.onChain
  reads := fun mark hmark =>
    ⟨(h.reads mark hmark).1, (h.reads mark hmark).2.advance hnodup budget fetched⟩

/-! ## What moves the cursor -/

/-- The cursor stays, or moves to a newer signature, all signatures that are newer than it was and
not newer than it is being settled. -/
structure Moves (watch after : Watch) (address : String) : Prop where
  chain : after.history.chain address = watch.history.chain address
  delivered : ∀ delivery ∈ watch.deliveries, delivery ∈ after.deliveries
  moves : ∀ mark, watch.cursors address = some (some mark) →
    ∃ last, after.cursors address = some (some last) ∧ (last = mark ∨
      Newer (watch.history.chain address) last mark ∧
        ∀ signature, Newer (watch.history.chain address) signature mark →
          ¬Newer (watch.history.chain address) signature last → after.Settled address signature)

lemma Keeps.moves (h : watch.Keeps after address) : watch.Moves after address :=
  ⟨h.chain, h.delivered, fun mark hmark => ⟨mark, h.cursor.trans hmark, Or.inl rfl⟩⟩

variable {budget : ℕ}

lemma pollTarget_spec (h : watch.Tracked size address)
    (hcareful : ∀ runtime, watch.runtimes address = some runtime →
      watch.CarefulPoll size address budget backfill answers runtime) :
    (watch.pollTarget size budget address backfill answers).Tracked size address ∧
      watch.Moves (watch.pollTarget size budget address backfill answers) address := by
  unfold pollTarget
  split
  case h_1 => exact ⟨h, (Keeps.refl watch address).moves⟩
  case h_2 runtime hruntime =>
    have hpoll := hcareful runtime hruntime
    have hlisted : watch.Listed address := h.listed (Or.inr (by simp [hruntime]))
    have hopened : watch.Ranges size address (watch.openRange address backfill answers runtime).1
        (watch.openRange address backfill answers runtime).2 := h.openRange hruntime hpoll.read
    have hranges := hopened.advance budget answers.fetched h.nodup
    have hown : (watch.openRange address backfill answers runtime).1.target = runtime.target := by
      unfold Watch.openRange
      split <;> rfl
    dsimp only
    set opened := watch.openRange address backfill answers runtime with hopenedDef
    set advanced :=
      advanceCatchUp size budget (watch.history.chain address) answers.fetched opened.2
    have hput (streak : ℕ) : (watch.setRuntime address { opened.1 with
        catchUp := some advanced.2, overflowStreak := streak }).Tracked size address :=
      h.setRuntime hlisted fun state hstate => by
      cases hstate
      exact ⟨hranges.onChain, hranges.reads⟩
    have hpolled := hput opened.1.overflowStreak
    have hstays (runtime : TargetRuntime) : watch.Moves (watch.setRuntime address runtime) address :=
      ⟨rfl, fun _ h => h, fun mark hmark => ⟨mark, hmark, Or.inl rfl⟩⟩
    split
    case h_1 => exact ⟨hpolled, hstays _⟩
    case h_2 hmore =>
      split
      case isTrue => exact ⟨hpolled, hstays _⟩
      case isFalse hother =>
        refine absurd hmore (hpoll.fits ?_)
        rw [← hown]
        exact Bool.eq_false_iff.mpr hother
    case h_3 range hrange =>
      obtain ⟨hcomplete, hsignatures, hnewest⟩ :=
        CatchUpState.completed_eq (CatchUpState.complete_of_completed hrange)
      have honChain : ∀ newest, range.newestSignature = some newest →
          newest ∈ watch.history.chain address := fun newest h =>
        hranges.onChain newest (hnewest ▸ h)
      split
      case isTrue hbaseline =>
        -- a baseline is established only while there is no cursor
        have hnone : ∀ mark, watch.cursors address ≠ some (some mark) := fun mark hmark => by
          simpa [hbaseline] using (hopened.reads mark hmark).1
        unfold establishBaseline
        split
        case isFalse => exact ⟨hpolled, hstays _⟩
        case isTrue =>
          refine ⟨?_, ⟨?_, ?_, fun mark hmark => absurd hmark (hnone mark)⟩⟩
          · cases hfirst : range.newestSignature with
            | none =>
              refine hpolled.close hlisted rfl fun mark hmark => ?_
              have hjoin : (watch.cursors address).getD none = some mark :=
                Option.some.inj hmark
              cases hrow : watch.cursors address with
              | none => simp [hrow] at hjoin
              | some cursor =>
                rw [hrow] at hjoin
                exact absurd (hrow.trans (congrArg some hjoin)) (hnone mark)
            | some newest =>
              refine hpolled.close hlisted rfl fun mark hmark => ?_
              cases hmark
              exact honChain _ hfirst
          · cases range.newestSignature <;> rfl
          · cases range.newestSignature <;> exact fun _ h => h
      case isFalse =>
        have hstart := hput 0
        split
        case h_1 stopped heq =>
          have hkeeps := ((serves_of_replay heq).keeps address).trans keeps_restarted
          exact ⟨hstart.keep hkeeps, hkeeps.chain, hkeeps.delivered, hkeeps.moves.moves⟩
        case h_2 replayed heq =>
          have hkeeps := (serves_of_replay heq).keeps address
          exact ⟨hstart.keep hkeeps, hkeeps.chain, hkeeps.delivered, hkeeps.moves.moves⟩
        case h_3 replayed heq =>
          have hserves := serves_of_replay heq
          have hkeeps := hserves.keeps address
          have hreplayed := hstart.keep hkeeps
          have hlisted' : replayed.Listed address := hkeeps.listed hlisted
          unfold closeRange
          dsimp only
          split
          case h_1 _ newest hfirst =>
            split
            case isFalse => exact ⟨hreplayed, hkeeps.chain, hkeeps.delivered,
              hkeeps.moves.moves⟩
            case isTrue =>
              refine ⟨hreplayed.close hlisted' rfl fun mark hmark => ?_,
                hkeeps.chain, hkeeps.delivered, fun mark hmark => ?_⟩
              · cases hmark
                exact hkeeps.chain.symm ▸ honChain newest hfirst
              · obtain ⟨hnewer, hall⟩ :=
                    (hranges.reads mark hmark).2.covers h.nodup hcomplete
                  (hnewest ▸ hfirst)
                refine ⟨newest, update_self .., Or.inr ⟨hnewer, ?_⟩⟩
                intro signature hsignature hold
                have hmem : signature ∈ range.signatures := by
                  rw [hsignatures]
                  exact mem_reverse.mpr (hall signature hsignature hold)
                have hsettled := settled_of_replay range.signatures answers.replies _
                  (congrArg Prod.fst heq) signature hmem
                rw [heq] at hsettled
                exact hsettled
          case h_2 =>
            refine ⟨hreplayed.setRuntime hlisted' fun state hstate => (by cases hstate),
              hkeeps.chain, hkeeps.delivered, hkeeps.moves.moves⟩

/-! ## Other events -/

lemma register_fold {runtimes : String → Option TargetRuntime} (targets : List WatchTarget)
    (h : targets.foldl register runtimes address = some runtime) :
    runtimes address = some runtime ∨
      runtime.catchUp = none ∧ address ∈ targets.map (·.address) := by
  induction targets generalizing runtimes with
  | nil => exact Or.inl h
  | cons target targets ih =>
    rcases ih h with hfirst | ⟨hnone, hmem⟩
    · by_cases haddress : address = target.address
      · have hself : register runtimes target address = some ⟨target, none, false, 0, false⟩ := by
          rw [haddress]
          exact update_self ..
        cases hself.symm.trans hfirst
        exact Or.inr ⟨rfl, by simp [haddress]⟩
      · have hother : register runtimes target address = runtimes address :=
          update_of_ne haddress ..
        exact Or.inl (hother.symm.trans hfirst)
    · exact Or.inr ⟨hnone, mem_cons_of_mem _ hmem⟩

lemma keeps_reloadTargets (h : watch.Tracked size address) (purged listed : Bool) :
    watch.Keeps (watch.reloadTargets purged listed) address := by
  set start := if purged then watch.purgeOrphanCursors else watch with hstart
  have hkeeps : watch.Keeps start address := by
    rw [hstart]
    split
    case isTrue =>
      refine ⟨rfl, ?_, fun _ _ h _ => h, id, Or.inl, fun _ h => h⟩
      show (if watch.Listed address then watch.cursors address else none) = _
      split
      case isTrue => rfl
      case isFalse hnot =>
        by_contra hcursor
        exact hnot (h.listed (Or.inl fun hnone => hcursor hnone.symm))
    case isFalse => exact Keeps.refl watch address
  have hloaded {runtime : TargetRuntime}
      (hruntime : (start.reloadTargets false listed).runtimes address = some runtime) :
      runtime.catchUp = none ∧ start.Listed address := by
    rcases register_fold _ hruntime with hnone | ⟨hdropped, hmem⟩
    · cases hnone
    · refine ⟨hdropped, ?_⟩
      rcases mem_cons.mp hmem with hown | hmem
      · exact Or.inl hown
      · obtain ⟨target, htarget, haddress⟩ := mem_map.mp hmem
        refine Or.inr (mem_map.mpr ⟨target, ?_, haddress⟩)
        split at htarget
        · exact mem_of_mem_filter htarget
        · cases htarget
  refine hkeeps.trans (show start.Keeps (start.reloadTargets false listed) address from
    ⟨rfl, rfl, fun runtime state hruntime hstate => ?_, id, fun hruns => Or.inr ?_, fun _ h => h⟩)
  · cases (hloaded hruntime).1.symm.trans hstate
  · obtain ⟨runtime, hruntime⟩ := Option.ne_none_iff_exists'.mp hruns
    exact (hloaded hruntime).2

lemma listed_gained (budget : ℕ) (other signature : String) :
    (watch.step size budget (.gained other signature)).Listed address ↔ watch.Listed address := by
  have hwallet : (watch.step size budget (.gained other signature)).history.wallet =
      watch.history.wallet := by
    show (if signature ∈ watch.history.chain other then watch.history else _).wallet = _
    split <;> rfl
  unfold Listed
  rw [hwallet]
  exact Iff.rfl

variable {event : WatchEvent}

lemma keeps_step (h : watch.Tracked size address)
    (hcareful : watch.Careful size address budget event)
    (hgained : ∀ signature, event ≠ .gained address signature)
    (hpolled : ∀ backfill answers, event ≠ .polled address backfill answers) :
    watch.Keeps (watch.step size budget event) address := by
  have hrows {after : History} (hgrows : watch.history.Grows after Anything) :
      watch.Keeps { watch with history := after } address := (serves_history hgrows).keeps address
  cases event with
  | gained other signature =>
    have hother : other ≠ address := fun heq => hgained signature (by rw [heq])
    refine ⟨?_, rfl, fun _ _ h _ => h, (listed_gained budget other signature).mpr, Or.inl,
      fun _ h => h⟩
    show (if signature ∈ watch.history.chain other then watch.history else _).chain address = _
    split
    · rfl
    · exact update_of_ne hother.symm ..
  | forgotten other signature =>
    exact hrows ⟨rfl, rfl, fun _ h => h, fun _ h => h, fun _ _ h => Or.inl h, [],
      (append_nil _).symm, by simp⟩
  | noted other signature stored =>
    refine hrows (History.Grows.trans ?_ (History.deed_grows fun _ => Or.inr trivial))
    cases stored with
    | none => exact History.Grows.refl _
    | some now => exact History.grows_addKnownSignature now (Or.inr trivial)
  | bootstrapped answers =>
    exact hrows ((History.marks_bootstrap answers).grows.mono fun _ _ _ => trivial)
  | restarted => exact keeps_restarted
  | reloaded purged listed => exact keeps_reloadTargets h purged listed
  | stored target =>
    refine ⟨rfl, rfl, fun _ _ h _ => h, Or.imp_right fun hmem => ?_, Or.inl, fun _ h => h⟩
    obtain ⟨old, hold, haddress⟩ := mem_map.mp hmem
    by_cases hsame : old.address = target.address
    · exact mem_map.mpr ⟨target, mem_append_right _ mem_cons_self,
        hsame.symm.trans haddress⟩
    · exact mem_map.mpr ⟨old, mem_append_left _ (mem_filter.mpr
        ⟨hold, decide_eq_true hsame⟩), haddress⟩
  | removed other =>
    refine ⟨rfl, update_of_ne hcareful.symm .., fun _ _ h _ => h,
      Or.imp_right fun hmem => ?_, Or.inl, fun _ h => h⟩
    obtain ⟨old, hold, haddress⟩ := mem_map.mp hmem
    have hne : old.address ≠ other := fun heq => hcareful (heq.symm.trans haddress)
    exact mem_map.mpr ⟨old, mem_filter.mpr ⟨hold, decide_eq_true hne⟩, haddress⟩
  | notified other signature reply =>
    unfold step
    dsimp only
    split
    · exact (serves_deliver signature reply).keeps address
    · exact Keeps.refl watch address
  | interrupted other signature reply done =>
    unfold step
    dsimp only
    split
    · exact ((serves_interrupt signature reply done).keeps address).trans keeps_restarted
    · exact Keeps.refl watch address
  | polled other backfill answers =>
    exact keeps_pollTarget (fun heq => hpolled backfill answers (by rw [heq])) budget backfill answers

/-! ## Runs -/

variable {mark : String}

lemma Followed.moves (h : watch.Followed address mark) (hmoves : watch.Moves after address) :
    after.Followed address mark := by
  obtain ⟨last, hlast, hnewer, hsettled⟩ := h
  obtain ⟨next, hnext, hmoved⟩ := hmoves.moves last hlast
  refine ⟨next, hnext, ?_, fun signature hsignature hold => ?_⟩
  · rw [hmoves.chain]
    rcases hmoved with rfl | ⟨hnext, -⟩
    · exact hnewer
    · rcases hnewer with rfl | hnewer
      · exact Or.inr hnext
      · exact Or.inr (hnext.trans hnewer)
  · rw [hmoves.chain] at hsignature hold
    have hbefore (hnot : ¬Newer (watch.history.chain address) signature last) :
        after.Settled address signature :=
      hmoves.delivered _ (hsettled signature hsignature hnot)
    rcases hmoved with rfl | ⟨-, hall⟩
    · exact hbefore hold
    · by_cases hlater : Newer (watch.history.chain address) signature last
      · exact hall signature hlater hold
      · exact hbefore hlater

lemma chain_gained (budget : ℕ) (signature : String) :
    (watch.step size budget (.gained address signature)).history.chain address =
      if signature ∈ watch.history.chain address then watch.history.chain address
      else signature :: watch.history.chain address := by
  show (if signature ∈ watch.history.chain address then watch.history else _).chain address = _
  split
  · rfl
  · exact update_self ..

lemma tracked_gained (budget : ℕ) (signature : String) (h : watch.Tracked size address) :
    (watch.step size budget (.gained address signature)).Tracked size address ∧
      ∀ mark ∈ watch.history.chain address, watch.Followed address mark →
        (watch.step size budget (.gained address signature)).Followed address mark := by
  have hchain : (watch.step size budget (.gained address signature)).history.chain address =
      if signature ∈ watch.history.chain address then watch.history.chain address
      else signature :: watch.history.chain address := chain_gained budget signature
  set after := watch.step size budget (.gained address signature)
  have hlisted : after.Listed address ↔ watch.Listed address := listed_gained budget address signature
  by_cases hthere : signature ∈ watch.history.chain address
  · rw [if_pos hthere] at hchain
    have hkeeps : watch.Keeps after address :=
      ⟨hchain, rfl, fun _ _ h _ => h, hlisted.mpr, Or.inl, fun _ h => h⟩
    exact ⟨h.keep hkeeps, fun mark _ hfollowed => hfollowed.moves hkeeps.moves⟩
  · rw [if_neg hthere] at hchain
    have hne : ∀ mark ∈ watch.history.chain address, signature ≠ mark := fun mark hmark heq =>
      hthere (heq ▸ hmark)
    refine ⟨⟨?_, fun mark hmark => ?_, fun h' => hlisted.mpr (h.listed h'),
      fun runtime state hruntime hstate => ?_⟩, fun mark hmark hfollowed => ?_⟩
    · exact hchain.symm ▸ nodup_cons.mpr ⟨hthere, h.nodup⟩
    · exact hchain.symm ▸ mem_cons_of_mem _ (h.onChain mark hmark)
    · obtain ⟨honChain, hreads⟩ := h.ranges runtime state hruntime hstate
      refine ⟨fun newest hnewest => ?_, fun mark hmark => ⟨(hreads mark hmark).1, ?_⟩⟩
      · exact hchain.symm ▸ mem_cons_of_mem _ (honChain newest hnewest)
      · exact hchain.symm ▸ (hreads mark hmark).2.grow (hne mark (h.onChain mark hmark))
    · obtain ⟨last, hlast, hnewer, hsettled⟩ := hfollowed
      have hfresh := hne last (h.onChain last hlast)
      refine ⟨last, hlast, ?_⟩
      rw [hchain]
      refine ⟨hnewer.imp_right fun hnewer => (newer_cons (hne mark hmark)).mpr (Or.inr hnewer),
        fun other hother hold => ?_⟩
      rw [newer_cons hfresh, not_or] at hold
      rcases (newer_cons (hne mark hmark)).mp hother with rfl | hother
      · exact absurd rfl hold.1
      · exact hsettled other hother hold.2

/-- What holds of a wallet: its range, and its cursor since an earlier one. -/
structure Ongoing (watch : Watch) (size : ℕ) (address mark : String) : Prop
    extends watch.Tracked size address where
  there : mark ∈ watch.history.chain address
  followed : watch.Followed address mark

lemma tracked_step (h : watch.Tracked size address)
    (hcareful : watch.Careful size address budget event) :
    (watch.step size budget event).Tracked size address ∧
      ∀ mark, watch.Ongoing size address mark →
        (watch.step size budget event).Ongoing size address mark := by
  have hmoved (htracked : (watch.step size budget event).Tracked size address)
      (hmoves : watch.Moves (watch.step size budget event) address) :
      (watch.step size budget event).Tracked size address ∧
        ∀ mark, watch.Ongoing size address mark →
          (watch.step size budget event).Ongoing size address mark :=
    ⟨htracked, fun mark hongoing => ⟨htracked, hmoves.chain.symm ▸ hongoing.there,
      hongoing.followed.moves hmoves⟩⟩
  by_cases hgained : ∃ signature, event = .gained address signature
  · obtain ⟨signature, rfl⟩ := hgained
    obtain ⟨htracked, hfollowed⟩ := tracked_gained budget signature h
    refine ⟨htracked, fun mark hongoing => ⟨htracked, ?_,
      hfollowed mark hongoing.there hongoing.followed⟩⟩
    rw [chain_gained]
    split
    · exact hongoing.there
    · exact mem_cons_of_mem _ hongoing.there
  by_cases hpolled : ∃ backfill answers, event = .polled address backfill answers
  · obtain ⟨backfill, answers, rfl⟩ := hpolled
    obtain ⟨htracked, hmoves⟩ := pollTarget_spec h (hcareful rfl)
    exact hmoved htracked hmoves
  · have hkeeps : watch.Keeps (watch.step size budget event) address :=
      keeps_step h hcareful (fun signature heq => hgained ⟨signature, heq⟩)
        fun backfill answers heq => hpolled ⟨backfill, answers, heq⟩
    exact hmoved (h.keep hkeeps) hkeeps.moves

lemma tracked_opened (wallet : String) : (opened wallet).Tracked size address where
  nodup := nodup_nil
  onChain := fun _ h => by cases h
  listed := fun h => absurd h (by simp [opened])
  ranges := fun _ _ h => by cases h

lemma Tracked.ongoing (h : watch.Tracked size address)
    (hmark : watch.cursors address = some (some mark)) : watch.Ongoing size address mark :=
  ⟨h, h.onChain mark hmark, mark, hmark, Or.inl rfl, fun _ hnewer hold => absurd hnewer hold⟩

/-- **The cursor leaves nothing behind**: from any state of a careful run in which a wallet has a
cursor, to any later one, each signature that is newer than the first cursor and not newer than the
present one is settled. -/
theorem followed_of_careful (size budget : ℕ) (wallet address : String)
    (before after : List WatchEvent) {mark : String}
    (h : Throughout (step size budget) (fun watch => watch.Careful size address budget)
      (opened wallet) (before ++ after))
    (hmark : (before.foldl (step size budget) (opened wallet)).cursors address = some (some mark)) :
    ((before ++ after).foldl (step size budget) (opened wallet)).Followed address mark := by
  obtain ⟨hbefore, hafter⟩ := throughout_append.mp h
  have htracked := hbefore.final (fun watch : Watch => watch.Tracked size address)
    (tracked_opened wallet) fun _ htracked _ _ hcareful => (tracked_step htracked hcareful).1
  rw [foldl_append]
  exact (hafter.final (fun watch : Watch => watch.Ongoing size address mark) (htracked.ongoing hmark)
    fun _ hongoing _ _ hcareful => (tracked_step hongoing.toTracked hcareful).2 mark hongoing).followed

/-! ## A run that is careful -/

/-- A poll that gets all it asks for, with these replies. -/
def wholePoll (replies : List Reply) : PollAnswers := ⟨true, true, 1, replies, none, true⟩

/-- The first signature of the own wallet becomes the cursor. -/
def firstPolled : List WatchEvent :=
  [.reloaded true true, .gained "wallet" "first", .polled "wallet" true (wholePoll [activityReply])]

/-- The second comes late, the third with it. -/
def latePolled : List WatchEvent :=
  [.gained "wallet" "second", .polled "wallet" false (wholePoll [lateReply]),
    .gained "wallet" "third", .polled "wallet" false (wholePoll [activityReply]),
    .polled "wallet" false (wholePoll [activityReply])]

theorem followed_of_careful_latePolled :
    ((firstPolled ++ latePolled).foldl (step pageSize maxPages) (opened "wallet")).Followed
      "wallet" "first" := by
  have hown {watch : Watch} {backfill : Bool} {replies : List Reply}
      (h : (watch.runtimes "wallet").all (isOwn ·.target.sources) = true) :
      watch.Careful pageSize "wallet" maxPages (.polled "wallet" backfill (wholePoll replies)) := by
    refine fun _ runtime hruntime => ⟨fun _ => ⟨rfl, fun _ => rfl⟩, fun hother => ?_⟩
    rw [hruntime, Option.all_some, hother] at h
    cases h
  exact followed_of_careful pageSize maxPages "wallet" "wallet" firstPolled latePolled
    ⟨trivial, trivial, hown (by decide +kernel), trivial, hown (by decide +kernel), trivial,
      hown (by decide +kernel), hown (by decide +kernel), trivial⟩ (by decide +kernel)

end Dripline.Wallets.Watch

import Dripline.Found.Feed

/-!
# Catching up with a watched wallet

`wallets/watch/poller.rs`: the signatures behind the durable cursor, page by page, over several
ticks.

A source without a file is in `wallets/watch/poller.rs`.
-/

namespace Dripline.Wallets

open Dripline.Found.Feed List

/-- Signatures of a page. Source: `PAGE_SIZE` -/
def pageSize : ℕ := 100

/-- Pages of one target in one tick. Source: `MAX_PAGES` -/
def maxPages : ℕ := 5

/-- A range that was read, oldest first. Source: `CompletedCatchUp` -/
structure CompletedCatchUp where
  signatures : List String
  newestSignature : Option String

/-- Source: `CatchUpState` -/
structure CatchUpState where
  durableUntil : Option String
  initialWindow : Bool
  before : Option String
  newestSignature : Option String
  newestFirst : List String
  complete : Bool
  deriving DecidableEq

namespace CatchUpState

/-- Source: `new` -/
def new (durableUntil : Option String) : CatchUpState :=
  ⟨durableUntil, durableUntil.isNone, none, none, [], false⟩

/-- Source: `ingest_page` -/
def ingestPage (state : CatchUpState) (page : List String) (size : ℕ) : CatchUpState :=
  if state.complete then state
  else if page.isEmpty then { state with complete := true }
  else
    { state with
      newestSignature := state.newestSignature.or page.head?
      before := page.getLast?
      newestFirst := state.newestFirst ++ page
      complete := state.initialWindow || decide (page.length < size) }

/-- Source: `completed` -/
def completed (state : CatchUpState) : Option CompletedCatchUp :=
  if state.complete then some ⟨state.newestFirst.reverse, state.newestSignature⟩ else none

end CatchUpState

/-- The pages of a tick; so many are fetched before one fails. False when one has failed. Source:
`advance_catch_up` -/
def fetchPages (size : ℕ) (feed : List String) :
    (budget fetched : ℕ) → CatchUpState → Bool × CatchUpState
  | 0, _, state => (true, state)
  | _ + 1, 0, state => (false, state)
  | budget + 1, fetched + 1, state =>
    let ingested := state.ingestPage (page size state.before state.durableUntil feed) size
    if ingested.complete then (true, ingested) else fetchPages size feed budget fetched ingested

/-- A page has failed, the range needs more of them, or it is complete. -/
inductive Advanced
  | failed
  | more
  | completed (range : CompletedCatchUp)

/-- One tick. Source: `advance_catch_up` -/
def advanceCatchUp (size budget : ℕ) (feed : List String) (fetched : ℕ) (state : CatchUpState) :
    Advanced × CatchUpState :=
  let (fetched, state) :=
    if state.complete then (true, state) else fetchPages size feed budget fetched state
  match fetched, state.completed with
  | false, _ => (.failed, state)
  | true, none => (.more, state)
  | true, some range => (.completed range, state)

namespace CatchUpState

variable {state : CatchUpState} {size : ℕ} {feed : List String} {mark : String}

/-! ## What a range has read -/

/-- A range that ends at a cursor: in front of what it has not read there is what it has, and in
front of that what came since; it is complete once nothing is left down to the cursor. -/
structure Reads (state : CatchUpState) (size : ℕ) (feed : List String) (mark : String) : Prop where
  durable : state.durableUntil = some mark
  bounded : state.initialWindow = false
  before : state.before = state.newestFirst.getLast?
  newest : state.newestSignature = state.newestFirst.head?
  sized : size = 0 → state.newestFirst = []
  parts : ∃ fresh rest, feed = (fresh ++ state.newestFirst) ++ rest ∧
    (state.newestFirst = [] → fresh = []) ∧ mark ∉ fresh ++ state.newestFirst ∧
      (state.complete = true → state.newestFirst ≠ [] → newerThan (some mark) rest = [])

lemma reads_new (size : ℕ) (feed : List String) (mark : String) :
    (new (some mark)).Reads size feed mark where
  durable := rfl
  bounded := rfl
  before := rfl
  newest := rfl
  sized := fun _ => rfl
  parts := ⟨[], feed, rfl, fun _ => rfl, by simp [new], fun h => by cases h⟩

lemma page_of_parts {fresh rest : List String} (hfeed : feed = (fresh ++ state.newestFirst) ++ rest)
    (hnodup : feed.Nodup) (hfresh : state.newestFirst = [] → fresh = [])
    (hbefore : state.before = state.newestFirst.getLast?) (last : Option String) :
    page size state.before last feed = (newerThan last rest).take size := by
  unfold page
  rw [hbefore]
  cases hlast : state.newestFirst.getLast? with
  | none =>
    have hnone := List.getLast?_eq_none_iff.mp hlast
    rw [hfeed, hnone, hfresh hnone]
    rfl
  | some behind =>
    rw [hfeed] at hnodup ⊢
    rw [olderThan_append hnodup]
    rw [List.getLast?_append, hlast]
    rfl

lemma Reads.ingest (h : state.Reads size feed mark) (hnodup : feed.Nodup)
    (hopen : state.complete = false) :
    (state.ingestPage (page size state.before state.durableUntil feed) size).Reads size feed mark := by
  obtain ⟨fresh, rest, hfeed, hfresh, hmark, -⟩ := h.parts
  have hpage : page size state.before state.durableUntil feed =
      (newerThan state.durableUntil rest).take size :=
    page_of_parts hfeed hnodup hfresh h.before state.durableUntil
  rw [h.durable] at hpage ⊢
  unfold ingestPage
  rw [hpage, hopen]
  set front := newerThan (some mark) rest with hfront
  set behind := rest.dropWhile (· ≠ mark) with hbehind
  have hrest : front ++ behind = rest := takeWhile_append_dropWhile
  simp only [Bool.false_eq_true, if_false]
  split
  case isTrue hempty =>
    -- an empty page: nothing is left, or pages are empty
    refine ⟨h.durable, h.bounded, h.before, h.newest, h.sized, fresh, rest, hfeed, hfresh, hmark,
      fun _ hsome => ?_⟩
    rcases take_eq_nil_iff.mp (isEmpty_iff.mp hempty) with hsize | hnil
    · exact absurd (h.sized hsize) hsome
    · exact hnil
  case isFalse hsome =>
    have hpage : front.take size ≠ [] := fun hnil => hsome (by rw [hnil]; rfl)
    have hin : mark ∉ front.take size := fun hmem => by
      simpa using mem_takeWhile_imp (mem_of_mem_take hmem)
    refine ⟨h.durable, h.bounded, ?_, ?_, fun hsize => ?_, fresh, front.drop size ++ behind,
      ?_, fun hnil => ?_, ?_, fun hcomplete _ => ?_⟩
    · exact (List.getLast?_append_of_ne_nil _ hpage).symm
    · show state.newestSignature.or _ = (state.newestFirst ++ _).head?
      rw [h.newest, List.head?_append]
    · exact absurd (by rw [hsize]; rfl) hpage
    · show feed = fresh ++ (state.newestFirst ++ front.take size) ++ (front.drop size ++ behind)
      rw [hfeed, ← hrest]
      conv_lhs => rw [← take_append_drop size front]
      simp only [append_assoc]
    · exact absurd (append_eq_nil_iff.mp hnil).2 hpage
    · show mark ∉ fresh ++ (state.newestFirst ++ front.take size)
      rw [← append_assoc]
      exact fun hmem => (mem_append.mp hmem).elim hmark hin
    · -- a page that is not full has all there is in front of the cursor
      have hshort : (front.take size).length < size := by
        simpa [h.bounded] using hcomplete
      have hall : front.drop size = [] := by
        rw [length_take] at hshort
        exact drop_eq_nil_of_le (by omega)
      rw [hall, nil_append, hbehind]
      show (rest.dropWhile (· ≠ mark)).takeWhile (· ≠ mark) = []
      cases hcut : rest.dropWhile (· ≠ mark) with
      | nil => rfl
      | cons first others =>
        have hhead : ¬decide (first ≠ mark) = true := by
          have hfirst := head_dropWhile_not (fun entry => decide (entry ≠ mark))
            (show rest.dropWhile (· ≠ mark) ≠ [] by rw [hcut]; simp)
          simp only [hcut, head_cons] at hfirst
          simp [hfirst]
        rw [takeWhile_cons, if_neg hhead]

lemma Reads.fetch (hnodup : feed.Nodup) (budget fetched : ℕ) (state : CatchUpState)
    (h : state.Reads size feed mark) (hopen : state.complete = false) :
    (fetchPages size feed budget fetched state).2.Reads size feed mark := by
  induction budget generalizing fetched state with
  | zero => exact h
  | succ budget ih =>
    cases fetched with
    | zero => exact h
    | succ fetched =>
      have hnext := h.ingest hnodup hopen
      unfold fetchPages
      dsimp only
      split
      case isTrue hcomplete => exact hnext
      case isFalse hmore => exact ih fetched _ hnext (Bool.eq_false_iff.mpr hmore)

lemma advanceCatchUp_snd (size budget : ℕ) (feed : List String) (fetched : ℕ)
    (state : CatchUpState) : (advanceCatchUp size budget feed fetched state).2 =
      if state.complete then state else (fetchPages size feed budget fetched state).2 := by
  unfold advanceCatchUp
  dsimp only
  split <;> split <;> rfl

lemma Reads.advance (h : state.Reads size feed mark) (hnodup : feed.Nodup) (budget fetched : ℕ) :
    (advanceCatchUp size budget feed fetched state).2.Reads size feed mark := by
  rw [advanceCatchUp_snd]
  split
  case isTrue hcomplete => exact h
  case isFalse hopen => exact Reads.fetch hnodup budget fetched state h (Bool.eq_false_iff.mpr hopen)

lemma complete_of_completed {budget fetched : ℕ} {range : CompletedCatchUp}
    (h : (advanceCatchUp size budget feed fetched state).1 = .completed range) :
    (advanceCatchUp size budget feed fetched state).2.completed = some range := by
  unfold advanceCatchUp at h ⊢
  dsimp only at h ⊢
  split at h
  case h_1 => cases h
  case h_2 => cases h
  case h_3 heq _ hrange => rw [hrange, Advanced.completed.inj h]

lemma completed_eq {range : CompletedCatchUp} (h : state.completed = some range) :
    state.complete = true ∧ range.signatures = state.newestFirst.reverse ∧
      range.newestSignature = state.newestSignature := by
  unfold completed at h
  split at h
  case isTrue hcomplete =>
    cases h
    exact ⟨hcomplete, rfl, rfl⟩
  case isFalse => cases h

lemma newest_mem_advance (budget fetched : ℕ) {feed : List String} {state : CatchUpState}
    (h : ∀ newest ∈ state.newestSignature, newest ∈ feed) :
    ∀ newest ∈ (advanceCatchUp size budget feed fetched state).2.newestSignature, newest ∈ feed := by
  have hfetch : ∀ (budget fetched : ℕ) (state : CatchUpState),
      (∀ newest ∈ state.newestSignature, newest ∈ feed) →
        ∀ newest ∈ (fetchPages size feed budget fetched state).2.newestSignature, newest ∈ feed := by
    intro budget
    induction budget with
    | zero => exact fun _ _ h => h
    | succ budget ih =>
      intro fetched state h
      cases fetched with
      | zero => exact h
      | succ fetched =>
        have hnext : ∀ newest ∈ (state.ingestPage
            (page size state.before state.durableUntil feed) size).newestSignature,
            newest ∈ feed := by
          unfold ingestPage
          split
          · exact h
          split
          · exact h
          · intro newest hnewest
            rcases Option.or_eq_some_iff.mp hnewest with hold | ⟨-, hfirst⟩
            · exact h newest hold
            · exact mem_of_mem_page (mem_of_mem_head? hfirst)
        unfold fetchPages
        dsimp only
        split
        · exact hnext
        · exact ih fetched _ hnext
  rw [advanceCatchUp_snd]
  split
  · exact h
  · exact hfetch budget fetched state h

lemma Reads.grow (h : state.Reads size feed mark) {signature : String}
    (hne : signature ≠ mark) : state.Reads size (signature :: feed) mark := by
  obtain ⟨fresh, rest, hfeed, hfresh, hmark, hcomplete⟩ := h.parts
  by_cases hnil : state.newestFirst = []
  · exact ⟨h.durable, h.bounded, h.before, h.newest, h.sized, [], signature :: feed,
      by simp [hnil], fun _ => rfl, by simp [hnil], fun _ hsome => absurd hnil hsome⟩
  · exact ⟨h.durable, h.bounded, h.before, h.newest, h.sized, signature :: fresh, rest,
      by simp [hfeed], fun hnil' => absurd hnil' hnil, by simpa [hne.symm] using hmark, hcomplete⟩

lemma Reads.covers (h : state.Reads size feed mark) (hnodup : feed.Nodup)
    (hcomplete : state.complete = true) {newest : String}
    (hnewest : state.newestSignature = some newest) :
    Newer feed newest mark ∧ ∀ signature, Newer feed signature mark →
      ¬Newer feed signature newest → signature ∈ state.newestFirst := by
  obtain ⟨fresh, rest, hfeed, hfresh, hmark, hlast⟩ := h.parts
  rw [h.newest] at hnewest
  obtain ⟨others, hothers⟩ := List.head?_eq_some_iff.mp hnewest
  have hread : newerThan (some mark) feed = fresh ++ state.newestFirst := by
    rw [hfeed, newerThan_grown hmark, hlast hcomplete (by simp [hothers]), append_nil]
  unfold Newer
  rw [hread]
  refine ⟨by simp [hothers], fun signature hmem hold => ?_⟩
  rcases mem_append.mp hmem with hfresh' | hmem
  · -- what came since is newer than the newest one
    refine absurd ?_ hold
    have hnew : newest ∉ fresh := by
      rw [hfeed, hothers] at hnodup
      exact fun hin => (nodup_append.mp (nodup_append.mp hnodup).1).2.2 newest hin newest
        (by simp) rfl
    rw [hfeed, append_assoc, newerThan_grown hnew]
    exact mem_append_left _ hfresh'
  · exact hmem

end CatchUpState

end Dripline.Wallets

import Dripline.Transactions.Coverage

/-!
# Where the own wallet's history gets a gap

A signature is lost when it is not recorded and something above it is made known once the full
history was marked.

* `covered_of_careful` — then every signature is covered, in every state of a run; `not_covered` —
  else not.
-/

namespace Dripline.Transactions

open Dripline.Found.Feed Dripline.Found.Trace Dripline.Wallets List

/-! ## The condition -/

section condition

variable (history : History)

/-- An attempt that returns has stored the processed row, and one that stores it has stored the raw
one, or they were there. -/
structure Completion.Stores (completion : Completion) : Prop where
  raw : completion.processedStored = true → completion.rawStored = true ∨
    (history.wallet, completion.signature) ∈ history.rawTransactions
  processed : completion.returned = true → completion.processedStored = true ∨
    history.Processed history.wallet completion.signature

/-- The attempts that come back are of signatures that are still to be attempted. -/
def Attempted (signatures : List String) : List Completion → List Completion → Prop
  | _, [] => True
  | done, completion :: completions =>
    isOpen signatures done completion.signature = true ∧
      Attempted signatures (done ++ [completion]) completions

namespace History

/-- A signature is not recorded, and no attempt stores its processed row. -/
def LeftOver (completions : List Completion) (signature : String) : Prop :=
  ¬history.Recorded history.wallet signature ∧
    ∀ completion ∈ completions, completion.signature = signature → completion.processedStored = false

/-- The bootstrap leaves nothing behind: what is left over is above all that it records. -/
structure InOrder (answers : BootstrapAnswers) : Prop where
  recorded : ∀ signature ∈ history.chain history.wallet,
    history.LeftOver answers.completions signature → ∀ completion ∈ answers.completions,
      completion.processedStored = true →
        Newer (history.chain history.wallet) signature completion.signature
  before : ¬history.Completed → ∀ signature ∈ history.chain history.wallet,
    history.LeftOver answers.completions signature →
      (∀ mark, history.Checkpoint history.wallet mark →
          Newer (history.chain history.wallet) signature mark) ∧
        ((∃ mark, history.Known history.wallet mark) ∨
          (history.chain history.wallet).length ≤ rpcBatchSize ∨
            ∃ completion ∈ answers.completions,
              completion.returned = true ∧ completion.marked = true)

/-- The funnel records a transaction that it commits, and has its raw row. -/
structure Records (signature : String) (isOwn : Bool) (answers : FunnelAnswers) : Prop where
  own : isOwn = true
  decoded : answers.decoded ≠ .failed ∧ answers.decoded ≠ .transaction true false
  raw : answers.cached = true ∨ (history.wallet, signature) ∈ history.rawTransactions

/-- **Careful**: what a step has to look out for, once the full history was marked.
* A signature that the chain gains: something is known, or the chain is less than one page.
* A new main wallet: its history is kept already.
* A signature of the main wallet that is streamed: it is recorded, as the oldest that was not.
* A bootstrap: attempts that return have stored their rows, and what is left over is above them. -/
def Careful : HistoryEvent → Prop
  | .gained walletAddress _ => walletAddress = history.wallet → history.Completed →
      (∃ mark, history.Known history.wallet mark) ∨
        (history.chain history.wallet).length < rpcBatchSize
  | .switched walletAddress => history.Kept walletAddress
  | .streamed walletAddress signature isOwn _ answers _ _ => walletAddress = history.wallet →
      ¬history.Processed history.wallet signature →
        history.Records signature isOwn answers ∧
          (history.Completed → ∀ other ∈ history.chain history.wallet, other ≠ signature →
            ¬history.Recorded history.wallet other →
              Newer (history.chain history.wallet) other signature)
  | .bootstrapped answers =>
    Attempted (history.prepare answers).2.1 [] answers.completions ∧
      (∀ completion ∈ answers.completions, completion.Stores history) ∧
        (history.Completed ∨ answers.finished = true ∧ answers.marked = true →
          history.InOrder answers)
  | .restarted => True
  | .forgotten _ _ => True

end History

end condition

namespace History

variable {history : History}

/-! ## One write -/

section write

variable {walletAddress signature : String} {now : ℕ}

/-- What has to be there before a write. -/
def Allowed (history : History) (walletAddress signature : String) : Deed → Prop
  | .cached => True
  | .recorded => (walletAddress, signature) ∈ history.rawTransactions
  | .committed => history.Processed walletAddress signature
  | .remembered => history.Processed walletAddress signature
  | .published => True

variable {deed : Deed}

lemma deed_grows {fresh : String → String → Prop}
    (hfresh : deed = .recorded ∨ deed = .committed →
      history.Processed walletAddress signature ∨ fresh walletAddress signature) :
    history.Grows (history.deed walletAddress signature now deed) fresh := by
  cases deed with
  | cached =>
    exact ⟨rfl, rfl, fun _ h => mem_append_left _ h, fun _ h => h, fun _ _ h => Or.inl h, [],
      (append_nil _).symm, by simp⟩
  | recorded =>
    refine ⟨rfl, rfl, fun _ h => h, fun _ h => mem_append_left _ h, fun w s h => ?_, [],
      (append_nil _).symm, by simp⟩
    rcases mem_append.mp h with hold | hnew
    · exact Or.inl hold
    · obtain ⟨rfl, rfl⟩ := Prod.mk.inj (mem_singleton.mp hnew)
      exact hfresh (Or.inl rfl)
  | committed => exact grows_addKnownSignature now (hfresh (Or.inr rfl))
  | remembered =>
    exact ⟨rfl, rfl, fun _ h => h, fun _ h => h, fun _ _ h => Or.inl h, [],
      (append_nil _).symm, by simp⟩
  | published => exact Grows.refl fresh

lemma deed_honest {wallet : String} (h : history.Honest wallet)
    (hallowed : walletAddress = wallet → history.Allowed walletAddress signature deed) :
    (history.deed walletAddress signature now deed).Honest wallet := by
  cases deed with
  | cached =>
    exact ⟨fun s hprocessed => mem_append_left _ (h.raw s hprocessed), h.known, h.remembered⟩
  | recorded =>
    refine ⟨fun s hprocessed => ?_, fun s hknown => mem_append_left _ (h.known s hknown),
      fun s hmem => mem_append_left _ (h.remembered s hmem)⟩
    rcases mem_append.mp hprocessed with hold | hnew
    · exact h.raw s hold
    · obtain ⟨rfl, rfl⟩ := Prod.mk.inj (mem_singleton.mp hnew)
      exact hallowed rfl
  | committed =>
    obtain ⟨hraw, hrows, hglobal, -⟩ :=
      history.addKnownSignature_tables walletAddress signature now
    have hprocessed (s : String) :
        (history.addKnownSignature walletAddress signature now).Processed wallet s ↔
          history.Processed wallet s := by
      unfold Processed
      rw [hrows]
    refine ⟨fun s hs => ?_, fun s hknown => ?_, fun s hmem => ?_⟩
    · exact hraw.symm ▸ h.raw s ((hprocessed s).mp hs)
    · refine (hprocessed s).mpr ((known_addKnownSignature.mp hknown).elim (h.known s) ?_)
      rintro ⟨rfl, rfl⟩
      exact hallowed rfl
    · exact (hprocessed s).mpr (h.remembered s (hglobal ▸ hmem))
  | remembered =>
    refine ⟨h.raw, h.known, fun s hmem => ?_⟩
    rcases mem_append.mp hmem with hold | hnew
    · exact h.remembered s hold
    · obtain ⟨rfl, rfl⟩ := Prod.mk.inj (mem_singleton.mp hnew)
      exact hallowed rfl
  | published => exact h

lemma deed_completed (deed : Deed) :
    (history.deed walletAddress signature now deed).Completed → history.Completed := by
  have hstate : (history.deed walletAddress signature now deed).bootstrapState =
      history.bootstrapState := by
    cases deed with
    | committed => exact (history.addKnownSignature_tables walletAddress signature now).2.2.2
    | _ => rfl
  unfold Completed getBootstrapState
  rw [hstate]
  exact id

end write

/-! ## A bootstrap -/

section bootstrap

/-- The signatures that attempts record. -/
def Fresh (wallet : String) (completions : List Completion) (walletAddress signature : String) :
    Prop :=
  walletAddress = wallet ∧ ∃ completion ∈ completions,
    completion.signature = signature ∧ completion.processedStored = true

variable {completion : Completion} {after : History}

lemma stores_grow {fresh : String → String → Prop} (h : completion.Stores history)
    (hgrows : history.Grows after fresh) : completion.Stores after := by
  refine ⟨fun hstored => (h.raw hstored).imp_right fun hraw => ?_,
    fun hreturned => (h.processed hreturned).imp_right fun hprocessed => ?_⟩
  · rw [hgrows.wallet]
    exact hgrows.raw _ hraw
  · rw [hgrows.wallet]
    exact hgrows.processed _ hprocessed

/-- What an operation on the main wallet does: rows are added, what is known stays recorded, and the
full history is not marked. -/
structure Tends (history after : History) (fresh : String → String → Prop) : Prop where
  grows : history.Grows after fresh
  honest : history.Honest history.wallet → after.Honest after.wallet
  completed : after.Completed → history.Completed

lemma Tends.refl (fresh : String → String → Prop) : history.Tends history fresh :=
  ⟨Grows.refl fresh, id, id⟩

lemma Tends.trans {middle : History} {fresh : String → String → Prop}
    (h : history.Tends middle fresh) (h' : middle.Tends after fresh) : history.Tends after fresh :=
  ⟨h.grows.trans h'.grows, fun hhonest => h'.honest (h.honest hhonest),
    fun hdone => h.completed (h'.completed hdone)⟩

/-- A write about a signature of the main wallet, that may be refused. -/
def write (history : History) (written : Bool) (completion : Completion) (deed : Deed) : History :=
  history.writing written fun history =>
    history.deed history.wallet completion.signature completion.now deed

lemma tends_write {fresh : String → String → Prop} (written : Bool) (deed : Deed)
    (hrecorded : written = true → deed = .recorded → fresh history.wallet completion.signature)
    (hallowed : written = true → history.Allowed history.wallet completion.signature deed) :
    history.Tends (history.write written completion deed) fresh := by
  cases written with
  | false => exact Tends.refl fresh
  | true =>
    have hgrows : history.Grows (history.write true completion deed) fresh := by
      refine deed_grows fun hdeed => ?_
      rcases hdeed with rfl | rfl
      · exact Or.inr (hrecorded rfl rfl)
      · exact Or.inl (hallowed rfl)
    refine ⟨hgrows, fun hhonest => ?_, deed_completed deed⟩
    rw [hgrows.wallet]
    exact deed_honest hhonest fun _ => hallowed rfl

lemma raw_write
    (h : completion.rawStored = true ∨
      (history.wallet, completion.signature) ∈ history.rawTransactions) :
    (history.wallet, completion.signature) ∈
      (history.write completion.rawStored completion .cached).rawTransactions := by
  unfold write writing
  split
  case isTrue hwritten => exact mem_append_right _ mem_cons_self
  case isFalse hnot => exact h.resolve_left hnot

lemma processed_write
    (h : completion.processedStored = true ∨ history.Processed history.wallet completion.signature) :
    (history.write completion.processedStored completion .recorded).Processed history.wallet
      completion.signature := by
  unfold write writing
  split
  case isTrue hwritten => exact mem_append_right _ mem_cons_self
  case isFalse hnot => exact h.resolve_left hnot

variable {completions : List Completion}

lemma complete_spec (hmem : completion ∈ completions) (hstores : completion.Stores history) :
    history.Tends (history.complete completion) (Fresh history.wallet completions) ∧
      (completion.processedStored = true →
        (history.complete completion).Processed history.wallet completion.signature) ∧
      (completion.returned = true → completion.marked = true →
        (history.complete completion).Known history.wallet completion.signature) := by
  let fresh := Fresh history.wallet completions
  let raw := history.write completion.rawStored completion .cached
  let stored := raw.write completion.processedStored completion .recorded
  let known := stored.write completion.marked completion .committed
  have hcomplete : history.complete completion =
      if completion.returned then known.write true completion .remembered else stored := rfl
  have hraw : history.Tends raw fresh :=
    tends_write _ .cached (fun _ h => by cases h) fun _ => trivial
  have hstored : raw.Tends stored fresh := by
    refine tends_write _ .recorded (fun hwritten _ => ⟨hraw.grows.wallet, completion, hmem, rfl,
      hwritten⟩) fun hwritten => ?_
    rw [hraw.grows.wallet]
    exact raw_write (hstores.raw hwritten)
  have hboth := hraw.trans hstored
  have hprocessed : completion.processedStored = true ∨
      history.Processed history.wallet completion.signature →
        stored.Processed history.wallet completion.signature := by
    rw [← hraw.grows.wallet]
    exact fun h => processed_write (h.imp_right (hraw.grows.processed _))
  rw [hcomplete]
  split
  case isFalse hnot => exact ⟨hboth, fun hwritten => hprocessed (Or.inl hwritten),
    fun h => absurd h hnot⟩
  case isTrue hreturned =>
    have hrow := hprocessed (hstores.processed hreturned)
    have hknown : stored.Tends known fresh := by
      refine tends_write _ .committed (fun _ h => by cases h) fun _ => ?_
      rw [hboth.grows.wallet]
      exact hrow
    have hremembered : known.Tends (known.write true completion .remembered) fresh := by
      refine tends_write true .remembered (fun _ h => by cases h) fun _ => ?_
      rw [(hboth.trans hknown).grows.wallet]
      exact hknown.grows.processed _ hrow
    refine ⟨(hboth.trans hknown).trans hremembered,
      fun _ => hremembered.grows.processed _ (hknown.grows.processed _ hrow), fun _ hmarked => ?_⟩
    refine hremembered.grows.knows ?_
    show (stored.writing completion.marked _).Known history.wallet completion.signature
    rw [hmarked, ← hboth.grows.wallet]
    exact known_addKnownSignature.mpr (Or.inr ⟨rfl, rfl⟩)

variable {signatures : List String}

lemma process_spec (completions : List Completion) (done : List Completion) (history : History)
    (wallet : String) (all : List Completion) (hwallet : history.wallet = wallet)
    (hall : ∀ completion ∈ completions, completion ∈ all)
    (hopen : Attempted signatures done completions)
    (hstores : ∀ completion ∈ completions, completion.Stores history) :
    history.Tends (process signatures completions done history).2 (Fresh wallet all) ∧
      ∀ completion ∈ completions,
        (completion.processedStored = true →
          (process signatures completions done history).2.Processed wallet completion.signature) ∧
        (completion.returned = true → completion.marked = true →
          (process signatures completions done history).2.Known wallet completion.signature) := by
  subst hwallet
  induction completions generalizing done history with
  | nil => exact ⟨Tends.refl _, by simp⟩
  | cons completion completions ih =>
    obtain ⟨hfirst, hrest⟩ := hopen
    obtain ⟨htends, hprocessed, hknown⟩ := complete_spec (hall completion mem_cons_self)
      (hstores completion mem_cons_self)
    have hstep : process signatures (completion :: completions) done history =
        process signatures completions (done ++ [completion]) (history.complete completion) :=
      if_pos hfirst
    rw [hstep]
    obtain ⟨htends', hthere⟩ := ih (done ++ [completion]) (history.complete completion)
      (fun other hother => hall other (mem_cons_of_mem _ hother)) hrest
      (fun other hother => stores_grow (hstores other (mem_cons_of_mem _ hother)) htends.grows)
    rw [htends.grows.wallet] at htends' hthere
    refine ⟨htends.trans htends', fun other hother => ?_⟩
    rcases mem_cons.mp hother with rfl | hother
    · exact ⟨fun h => htends'.grows.processed _ (hprocessed h),
        fun h h' => htends'.grows.knows (hknown h h')⟩
    · exact hthere other hother

lemma finish_spec {fresh : String → String → Prop} (mode : BootstrapMode) (reachedChainEnd : Bool)
    (before : Option String) (answers : BootstrapAnswers) :
    history.Grows (history.finish mode reachedChainEnd before answers) fresh ∧
      (history.Honest history.wallet →
        (history.finish mode reachedChainEnd before answers).Honest history.wallet) ∧
      ((history.finish mode reachedChainEnd before answers).Completed →
        history.Completed ∨ answers.marked = true) := by
  have hrows (state : Option BootstrapState) :
      history.Grows { history with bootstrapState := state } fresh :=
    ⟨rfl, rfl, fun _ h => h, fun _ h => h, fun _ _ h => Or.inl h, [], (append_nil _).symm,
      by simp⟩
  have hkept (state : Option BootstrapState) (h : history.Honest history.wallet) :
      { history with bootstrapState := state }.Honest history.wallet :=
    ⟨h.raw, h.known, h.remembered⟩
  unfold finish writing
  split
  case h_1 => exact ⟨Grows.refl _, id, Or.inl⟩
  case h_2 =>
    split
    case isTrue hend =>
      split
      case isTrue hmarked =>
        split <;> exact ⟨hrows _, hkept _, fun _ => Or.inr hmarked⟩
      case isFalse hnot => exact ⟨Grows.refl _, id, Or.inl⟩
    case isFalse hmore =>
      split
      · exact ⟨hrows _, hkept _, Or.inl⟩
      · exact ⟨Grows.refl _, id, Or.inl⟩

variable {answers : BootstrapAnswers}

lemma prepare_empty
    (h : ∀ signatures reachedChainEnd before,
      (history.prepare answers).1 ≠ .ok signatures reachedChainEnd before) :
    (history.prepare answers).2.1 = [] := by
  revert h
  unfold prepare
  dsimp only
  split
  · exact fun h => absurd rfl (h _ _ _)
  · exact fun _ => rfl

lemma attempted_nil (h : Attempted [] [] completions) : completions = [] := by
  cases completions with
  | nil => rfl
  | cons completion completions => exact absurd h.1 (by simp [isOpen])

lemma mem_of_attempted {done : List Completion} (h : Attempted signatures done completions) :
    ∀ completion ∈ completions, completion.signature ∈ signatures := by
  induction completions generalizing done with
  | nil => simp
  | cons completion completions ih =>
    intro other hother
    rcases mem_cons.mp hother with rfl | hother
    · have hopen := h.1
      unfold isOpen at hopen
      rw [Bool.and_assoc] at hopen
      simpa using ((Bool.and_eq_true _ _).mp hopen).1
    · exact ih h.2 other hother

lemma bootstrap_spec (h : history.Honest history.wallet)
    (hopen : Attempted (history.prepare answers).2.1 [] answers.completions)
    (hstores : ∀ completion ∈ answers.completions, completion.Stores history) :
    history.Grows (history.bootstrap answers).2 (Fresh history.wallet answers.completions) ∧
      (history.bootstrap answers).2.Honest history.wallet ∧
      ((history.bootstrap answers).2.Completed →
        history.Completed ∨ answers.finished = true ∧ answers.marked = true) ∧
      ∀ completion ∈ answers.completions,
        (completion.processedStored = true →
          (history.bootstrap answers).2.Processed history.wallet completion.signature) ∧
        (completion.returned = true → completion.marked = true →
          (history.bootstrap answers).2.Known history.wallet completion.signature) := by
  obtain ⟨hgrows, hhonest, hcompleted⟩ := prepare_spec answers h
  have hnothing (hnone : ∀ signatures reachedChainEnd before,
      (history.prepare answers).1 ≠ .ok signatures reachedChainEnd before) :
      answers.completions = [] := by
    rw [prepare_empty hnone] at hopen
    exact attempted_nil hopen
  unfold bootstrap
  dsimp only
  split
  case h_1 _ prepared heq =>
    rw [heq] at hgrows hhonest hcompleted
    rw [hnothing (by rw [heq]; simp)]
    exact ⟨hgrows.mono fun _ _ h => h.elim, hhonest, fun h => Or.inl (hcompleted h), by simp⟩
  case h_2 detail _ prepared heq =>
    rw [heq] at hgrows hhonest hcompleted
    rw [hnothing (by rw [heq]; simp)]
    exact ⟨hgrows.mono fun _ _ h => h.elim, hhonest, fun h => Or.inl (hcompleted h), by simp⟩
  case h_3 reachedChainEnd before signaturesToProcess prepared heq =>
    rw [heq] at hgrows hhonest hcompleted hopen
    obtain ⟨htends, hthere⟩ := process_spec answers.completions [] prepared history.wallet
      answers.completions hgrows.wallet (fun _ h => h) hopen
      fun completion hmem => stores_grow (hstores completion hmem) hgrows
    have hgrows' := (hgrows.mono fun _ _ h => h.elim).trans htends.grows
    have hhonest' := htends.honest (hgrows.wallet.symm ▸ hhonest)
    rw [hgrows'.wallet] at hhonest'
    split
    case isTrue hstopped =>
      exact ⟨hgrows', hhonest', fun h => Or.inl (hcompleted (htends.completed h)), hthere⟩
    case isFalse hdone =>
      obtain ⟨hfinish, hhonest'', hmarked⟩ := @finish_spec
        (process signaturesToProcess answers.completions [] prepared).2
        (Fresh history.wallet answers.completions)
        ((history.reconciled answers).bootstrapMode answers).1 reachedChainEnd before answers
      rw [hgrows'.wallet] at hhonest''
      refine ⟨hgrows'.trans hfinish, hhonest'' hhonest', fun h => ?_, fun completion hmem => ?_⟩
      · rcases hmarked h with hbefore | hnow
        · exact Or.inl (hcompleted (htends.completed hbefore))
        · refine Or.inr ⟨?_, hnow⟩
          simpa using (not_or.mp (mt (Bool.or_eq_true _ _).mpr hdone)).2
      · obtain ⟨hprocessed, hknown⟩ := hthere completion hmem
        exact ⟨fun h => hfinish.processed _ (hprocessed h),
          fun h h' => hfinish.knows (hknown h h')⟩

end bootstrap

/-! ## A signature that is streamed -/

section stream

/-- Deeds in order: a reply is cached before the analysis is recorded, and the signature made known
after it. -/
def inOrder : (raw processed : Bool) → List Deed → Bool
  | _, _, [] => true
  | _, processed, .cached :: deeds => inOrder true processed deeds
  | raw, _, .recorded :: deeds => raw && inOrder raw true deeds
  | raw, processed, .committed :: deeds => processed && inOrder raw processed deeds
  | raw, processed, .remembered :: deeds => processed && inOrder raw processed deeds
  | raw, processed, .published :: deeds => inOrder raw processed deeds

variable {processed raw : Bool}

lemma inOrder_take {deeds : List Deed} (done : ℕ) (h : inOrder raw processed deeds = true) :
    inOrder raw processed (deeds.take done) = true := by
  induction deeds generalizing raw processed done with
  | nil => rwa [take_nil]
  | cons deed deeds ih =>
    cases done with
    | zero => rfl
    | succ done =>
      rw [take_succ_cons]
      cases deed with
      | cached | published => exact ih done h
      | _ =>
        obtain ⟨hthere, hrest⟩ := (Bool.and_eq_true _ _).mp h
        exact (Bool.and_eq_true _ _).mpr ⟨hthere, ih done hrest⟩

lemma inOrder_recorded (deeds : List Deed) : inOrder true true deeds = true := by
  induction deeds with
  | nil => rfl
  | cons deed deeds ih => cases deed <;> exact ih

variable {answers : FunnelAnswers}

lemma inOrder_processUnseen
    (hdecoded : answers.decoded ≠ .failed ∧ answers.decoded ≠ .transaction true false)
    (hraw : answers.cached = true ∨ raw = true) :
    inOrder raw processed (processUnseen true answers).2 = true := by
  obtain ⟨cached, decoded, recorded, committed⟩ := answers
  obtain ⟨hfailed, hunclassified⟩ := hdecoded
  cases decoded with
  | notIndexed => cases cached <;> rfl
  | failed => exact absurd rfl hfailed
  | transaction success classified =>
    cases success <;> cases classified <;> cases recorded <;> cases committed <;>
      revert hfailed hunclassified hraw <;> cases cached <;> cases raw <;> decide +revert

/-- The deeds, one after another. -/
def deeds (history : History) (walletAddress signature : String) (now : ℕ) (deeds : List Deed) :
    History :=
  deeds.foldl (fun history deed => history.deed walletAddress signature now deed) history

variable {walletAddress signature : String} {now : ℕ}

lemma deeds_spec {fresh : String → String → Prop} (deeds : List Deed) (raw processed : Bool)
    (history : History)
    (hfresh : history.Processed walletAddress signature ∨ fresh walletAddress signature)
    (hraw : walletAddress = history.wallet → raw = true →
      (walletAddress, signature) ∈ history.rawTransactions)
    (hprocessed : walletAddress = history.wallet → processed = true →
      history.Processed walletAddress signature)
    (horder : walletAddress = history.wallet → inOrder raw processed deeds = true) :
    history.Tends (history.deeds walletAddress signature now deeds) fresh := by
  induction deeds generalizing raw processed history with
  | nil => exact Tends.refl _
  | cons deed deeds ih =>
    have hallowed : walletAddress = history.wallet →
        history.Allowed walletAddress signature deed := by
      intro hmain
      have hfirst := horder hmain
      cases deed with
      | cached => trivial
      | recorded => exact hraw hmain ((Bool.and_eq_true _ _).mp hfirst).1
      | committed | remembered => exact hprocessed hmain ((Bool.and_eq_true _ _).mp hfirst).1
      | published => trivial
    have hgrows : history.Grows (history.deed walletAddress signature now deed) fresh :=
      deed_grows fun _ => hfresh
    have hone : history.Tends (history.deed walletAddress signature now deed) fresh :=
      ⟨hgrows, fun h => hgrows.wallet.symm ▸ deed_honest h hallowed, deed_completed deed⟩
    have hfresh' := hfresh.imp_left (hgrows.processed (walletAddress, signature))
    have hraw' : walletAddress = (history.deed walletAddress signature now deed).wallet →
        raw = true → (walletAddress, signature) ∈
          (history.deed walletAddress signature now deed).rawTransactions := fun hmain h =>
      hgrows.raw _ (hraw (hmain.trans hgrows.wallet) h)
    have hprocessed' : walletAddress = (history.deed walletAddress signature now deed).wallet →
        processed = true →
          (history.deed walletAddress signature now deed).Processed walletAddress signature :=
      fun hmain h => hgrows.processed _ (hprocessed (hmain.trans hgrows.wallet) h)
    have horder' := fun hmain : walletAddress =
        (history.deed walletAddress signature now deed).wallet => horder (hmain.trans hgrows.wallet)
    refine hone.trans ?_
    cases deed with
    | cached =>
      exact ih true processed _ hfresh' (fun _ _ => mem_append_right _ mem_cons_self)
        hprocessed' horder'
    | recorded =>
      exact ih raw true _ hfresh' hraw' (fun _ _ => mem_append_right _ mem_cons_self)
        fun hmain => ((Bool.and_eq_true _ _).mp (horder' hmain)).2
    | committed | remembered =>
      exact ih raw processed _ hfresh' hraw' hprocessed'
        fun hmain => ((Bool.and_eq_true _ _).mp (horder' hmain)).2
    | published => exact ih raw processed _ hfresh' hraw' hprocessed' horder'

lemma stream_spec {isOwn knownRead : Bool} {done : ℕ} (h : history.Honest history.wallet)
    (hrecords : walletAddress = history.wallet → ¬history.Processed history.wallet signature →
      history.Records signature isOwn answers) :
    history.Tends (history.stream walletAddress signature isOwn knownRead answers done now)
      (fun w s => w = walletAddress ∧ s = signature ∧ s ∈ history.chain w ∧
        ¬history.Processed w s) := by
  unfold stream
  split
  case isFalse hnot => exact Tends.refl _
  case isTrue hchain =>
    dsimp only
    generalize (if history.globalKnownSignatures.contains (walletAddress, signature) = true then
      some true else if knownRead = true then some (history.isSignatureKnown walletAddress signature)
      else none) = seen
    by_cases hprocessed : history.Processed walletAddress signature
    · refine deeds_spec _ true true history (Or.inl hprocessed) (fun hmain _ => ?_)
        (fun _ _ => hprocessed) fun _ => inOrder_recorded _
      exact hmain ▸ h.raw signature (hmain ▸ hprocessed)
    · refine deeds_spec _ (decide ((walletAddress, signature) ∈ history.rawTransactions)) false
        history (Or.inr ⟨rfl, rfl, hchain, hprocessed⟩) (fun _ hraw => of_decide_eq_true hraw)
        (fun _ h => by cases h) fun hmain => inOrder_take done ?_
      obtain ⟨hown, hdecoded, hraw⟩ := hrecords hmain (hmain ▸ hprocessed)
      unfold processSignature
      split
      · rfl
      · rfl
      · rw [hown]
        exact inOrder_processUnseen hdecoded
          (hraw.imp_right fun hrow => decide_eq_true (hmain ▸ hrow))

end stream

/-! ## Runs -/

section runs

lemma sound_gained {walletAddress signature : String} (h : history.Sound)
    (hcareful : history.Careful (.gained walletAddress signature)) :
    (history.step (.gained walletAddress signature)).Sound := by
  show History.Sound (if signature ∈ history.chain walletAddress then history else _)
  split
  case isTrue hthere => exact h
  case isFalse hnew =>
    set after := Function.update history.chain walletAddress
      (signature :: history.chain walletAddress) with hafter
    have hself : after walletAddress = signature :: history.chain walletAddress :=
      Function.update_self ..
    have hother : ∀ wallet, wallet ≠ walletAddress → after wallet = history.chain wallet :=
      fun wallet hne => Function.update_of_ne hne ..
    refine ⟨fun wallet => ?_, fun wallet other hrow => ?_,
      ⟨h.kept.raw, h.kept.known, h.kept.remembered⟩, fun hdone other hmem hnot => ?_⟩
    · show (after wallet).Nodup
      rcases eq_or_ne wallet walletAddress with rfl | hne
      · exact hself.symm ▸ nodup_cons.mpr ⟨hnew, h.nodup wallet⟩
      · exact (hother wallet hne).symm ▸ h.nodup wallet
    · show other ∈ after wallet
      rcases eq_or_ne wallet walletAddress with rfl | hne
      · exact hself.symm ▸ mem_cons_of_mem _ (h.onChain wallet other hrow)
      · exact (hother wallet hne).symm ▸ h.onChain wallet other hrow
    · -- the new signature is above all that is known
      show History.Above { history with chain := after } history.wallet other
      rcases eq_or_ne history.wallet walletAddress with hmain | hne
      · have hchain : after history.wallet = signature :: history.chain history.wallet := by
          rw [hmain, hself]
        have hmem : other ∈ after history.wallet := hmem
        refine ⟨fun mark hmark => ?_, ?_⟩
        · have hfresh : signature ≠ mark := fun heq =>
            hnew (heq ▸ hmain ▸ h.onChain history.wallet mark hmark.known_or_processed)
          show Newer (after history.wallet) other mark
          rw [hchain] at hmem ⊢
          refine (newer_cons hfresh).mpr ((mem_cons.mp hmem).imp_right fun hold => ?_)
          exact (h.kept.above hdone other hold hnot).newer mark hmark
        · refine (hcareful hmain.symm hdone).imp_right fun hlength => ?_
          show (after history.wallet).length ≤ rpcBatchSize
          rw [hchain]
          exact hlength
      · have hchain : after history.wallet = history.chain history.wallet := hother _ hne
        have hmem : other ∈ after history.wallet := hmem
        rw [hchain] at hmem
        obtain ⟨hnewer, hsome⟩ := h.kept.above hdone other hmem hnot
        refine ⟨fun mark hmark => ?_, ?_⟩
        · show Newer (after history.wallet) other mark
          exact hchain.symm ▸ hnewer mark hmark
        · show _ ∨ (after history.wallet).length ≤ rpcBatchSize
          exact hchain.symm ▸ hsome

lemma sound_forget {remembered : List (String × String)} (h : history.Sound)
    (hfewer : ∀ key ∈ remembered, key ∈ history.globalKnownSignatures) :
    History.Sound { history with globalKnownSignatures := remembered } := by
  refine ⟨h.nodup, h.onChain, ⟨h.kept.raw, h.kept.known,
    fun signature hmem => h.kept.remembered signature (hfewer _ hmem)⟩,
    fun hdone signature hsignature hnot => ?_⟩
  obtain ⟨hnewer, hsome⟩ := h.kept.above hdone signature hsignature hnot
  exact ⟨hnewer, hsome⟩

lemma Sound.grow {after : History} {fresh : String → String → Prop} (h : history.Sound)
    (hgrows : history.Grows after fresh)
    (hfresh : ∀ walletAddress signature, fresh walletAddress signature →
      signature ∈ history.chain walletAddress)
    (hkept : after.Kept history.wallet) : after.Sound where
  nodup := hgrows.chain.symm ▸ h.nodup
  onChain := hgrows.onChain h.onChain hfresh
  kept := hgrows.wallet.symm ▸ hkept

lemma sound_step (h : history.Sound) (event : HistoryEvent) (hcareful : history.Careful event) :
    (history.step event).Sound := by
  cases event with
  | gained walletAddress signature => exact sound_gained h hcareful
  | restarted => exact sound_forget h (by simp)
  | forgotten walletAddress signature =>
    exact sound_forget h fun key hkey => (mem_filter.mp hkey).1
  | switched walletAddress =>
    obtain ⟨hhonest, habove⟩ := hcareful
    refine ⟨h.nodup, h.onChain, ⟨hhonest.raw, hhonest.known, hhonest.remembered⟩,
      fun hdone signature hsignature hnot => ?_⟩
    obtain ⟨hnewer, hsome⟩ := habove hdone signature hsignature hnot
    exact ⟨hnewer, hsome⟩
  | streamed walletAddress signature isOwn knownRead answers done now =>
    have htends : history.Tends (history.step
        (.streamed walletAddress signature isOwn knownRead answers done now)) _ :=
      stream_spec h.kept.toHonest fun hmain hnot => (hcareful hmain hnot).1
    have hhonest := htends.honest h.kept.toHonest
    rw [htends.grows.wallet] at hhonest
    refine h.grow htends.grows (fun w s hfresh => hfresh.2.2.1) (h.kept.grow htends.grows hhonest
      (fun hdone hbefore => absurd (htends.completed hdone) hbefore) ?_)
    rintro hdone other hother hnot mark ⟨hmain, rfl, -, hprocessed⟩ hmark
    exact (hcareful hmain.symm hprocessed).2 (htends.completed hdone) other hother
      (fun heq => hnot (heq ▸ hmark)) fun hrecorded => hnot (htends.grows.recorded hrecorded)
  | bootstrapped answers =>
    obtain ⟨hopen, hstores, hinOrder⟩ := hcareful
    obtain ⟨hgrows, hhonest, hcompleted, hthere⟩ := bootstrap_spec h.kept.toHonest hopen hstores
    have hleft : ∀ signature, ¬(history.bootstrap answers).2.Recorded history.wallet signature →
        history.LeftOver answers.completions signature := by
      refine fun signature hnot => ⟨fun hrecorded => hnot (hgrows.recorded hrecorded), ?_⟩
      rintro completion hmem rfl
      refine Bool.eq_false_iff.mpr fun hstored => hnot ?_
      have hprocessed := (hthere completion hmem).1 hstored
      exact ⟨hhonest.raw _ hprocessed, hprocessed⟩
    refine h.grow hgrows ?_ (h.kept.grow hgrows hhonest ?_ ?_)
    · rintro walletAddress signature ⟨rfl, completion, hmem, rfl, -⟩
      exact prepare_onChain answers _ (mem_of_attempted hopen completion hmem)
    · intro hdone hbefore signature hsignature hnot
      obtain ⟨hnewer, hsome⟩ := (hinOrder (hcompleted hdone)).before hbefore signature hsignature
        (hleft signature hnot)
      refine ⟨hnewer, ?_⟩
      rcases hsome with ⟨mark, hmark⟩ | hshort | ⟨completion, hmem, hreturned, hmarked⟩
      · exact Or.inl ⟨mark, hgrows.knows hmark⟩
      · exact Or.inr hshort
      · exact Or.inl ⟨_, (hthere completion hmem).2 hreturned hmarked⟩
    · rintro hdone signature hsignature hnot mark ⟨-, completion, hmem, rfl, hstored⟩ -
      exact (hinOrder (hcompleted hdone)).recorded signature hsignature (hleft signature hnot)
        completion hmem hstored

lemma sound_opened (walletAddress : String) : (opened walletAddress).Sound where
  nodup := fun _ => nodup_nil
  onChain := by simp [opened, Known, Processed]
  kept := ⟨⟨by simp [opened, Processed], by simp [opened, Known], by simp [opened]⟩,
    fun h => by cases h⟩

end runs

end History

/-! ## A run that is careful, and one that is not -/

/-- A bootstrap that gets all it asks for, with these attempts. -/
def wholeBootstrap (completions : List Completion) : BootstrapAnswers :=
  ⟨some 0, true, true, 0, [.fetched true], fun _ => true, completions, true, true, true⟩

/-- An attempt that goes well. -/
def attempt (signature : String) (now : ℕ) : Completion := ⟨signature, true, true, true, true, now⟩

/-- A transaction that the funnel records. -/
def classifiedAnswers : FunnelAnswers := ⟨true, .transaction true true, true, true⟩

/-- The first signature comes with a bootstrap, the second is streamed. -/
def streamedRun : List HistoryEvent :=
  [.gained "wallet" "first", .bootstrapped (wholeBootstrap [attempt "first" 1]),
    .gained "wallet" "second", .streamed "wallet" "second" true true classifiedAnswers 5 2]

/-- The bootstrap that comes after a signature was streamed while an older one was not. -/
def lateBootstrap : BootstrapAnswers := wholeBootstrap []

/-- Two signatures come after the full history was marked; only the newer one is streamed. -/
def missedRun : List HistoryEvent :=
  [.gained "wallet" "first", .bootstrapped (wholeBootstrap [attempt "first" 1]),
    .gained "wallet" "second", .gained "wallet" "third",
    .streamed "wallet" "third" true true classifiedAnswers 5 2]

end Dripline.Transactions

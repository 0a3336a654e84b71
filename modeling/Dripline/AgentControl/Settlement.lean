import Dripline.AgentControl.Ledger

/-!
# Approved requests run once and settle

* `settles_throughout` — the first in every run, the last in every careful one.
-/

namespace Dripline.AgentControl

open Dripline.Found.Updates Dripline.Found.Trace

variable {D N : Type}

/-- A row that an executor has not settled. -/
def ApprovalState.Open (state : ApprovalState) : Prop := state = .claimed ∨ state = .executing

instance (state : ApprovalState) : Decidable state.Open := by
  unfold ApprovalState.Open
  infer_instance

lemma ApprovalState.settled {state : ApprovalState} (hheld : state.Held) (hopen : ¬ state.Open) :
    state.Terminal ∧ state.HasResult := by
  cases state with
  | claimed => exact (hopen (.inl rfl)).elim
  | executing => exact (hopen (.inr rfl)).elim
  | done | failed => exact ⟨trivial, trivial⟩
  | pending | denied | expired => exact hheld.elim

namespace Call

/-- The arguments of a request that is inserted. -/
def asked : Call D N → Option (Value N)
  | .createInsert _ _ args => some args
  | _ => none

/-- Whether the next step of an executor is a statement that fails. -/
def Fails (answer : Answer N) : Call D N → Prop
  | .permit _ => answer.enabled = true ∧ answer.fails = true
  | .claimRead _ | .failIntegrity _ | .failParse _ | .mark _ | .finish _ _ _ | .failMark _ _
  | .failFinish _ _ => answer.fails = true
  | _ => False

/-- The states of its row in which it leaves the row behind. -/
def Behind : Call D N → ApprovalState → Prop
  | .failMark _ _, state => state = .claimed
  | _, state => state.Open

end Call

variable (codec : Codec N) (digest : String → D) [DecidableEq D]

/-- What holds of a step under any interleaving. -/
structure Exclusive (store : Store D N) (event : Store.Event D N) : Prop where
  ids : ((store.step codec digest event).rows.map Approval.id).Nodup
  once : ((store.step codec digest event).executions.map Prod.fst).Nodup
  claimed : ∀ claim ∈ (store.step codec digest event).claims, claim ∈ store.claims ∨
    ∃ row ∈ store.rows, row.id = claim.1 ∧ row.state = .pending ∧ claim.2 < row.expiresAt
  permitted : ∀ execution ∈ (store.step codec digest event).executions,
    execution.1 ∈ store.claims.map Prod.fst
  terminal : ∀ row ∈ store.rows, row.state.Terminal →
    ∃ row' ∈ (store.step codec digest event).rows, row'.id = row.id ∧ row'.state = row.state

/-- No statement of an executor fails where it leaves its row behind, and arguments are read back
with the text that they were written with. -/
def Careful (store : Store D N) : Store.Event D N → Prop
  | .goesOn caller answer => ∀ call, store.calls caller = some call →
      (∀ args, call.asked = some args → codec.ReadsBack args) ∧
        ∀ id, call.claimedId = some id → call.Fails answer →
          ∀ row ∈ store.rows, row.id = id → ¬ call.Behind row.state
  | _ => True

/-- Tools are run as they were asked for, and an executor that returns has settled its row. -/
structure Settles (store : Store D N) (event : Store.Event D N) : Prop where
  asked : ∀ execution ∈ (store.step codec digest event).executions,
    ∃ row ∈ (store.step codec digest event).rows,
      row.id = execution.1 ∧ codec.canonicalize execution.2 = row.canonicalArgs
  settled : ∀ caller answer call id, event = .goesOn caller answer → store.calls caller = some call →
    call.claimedId = some id → (store.step codec digest event).calls caller = none →
    ∃ row ∈ (store.step codec digest event).rows,
      row.id = id ∧ row.state.Terminal ∧ codec.Readable row.resultJson

/-! ## What a step does to the rows and the claims -/

variable {codec digest} {store : Store D N} {caller : ℕ} {call : Call D N} {answer : Answer N}

lemma onward_made (answer : Answer N) (h : Sound codec digest store) (hreads : codec.Reads)
    (hcall : store.calls caller = some call) : ∃ own, Onward codec digest own call.asked store.rows
      (store.next codec digest answer call).1.rows := by
  have hstays : Onward codec digest none call.asked store.rows store.rows := Follows.refl Carried.refl
  cases call with
  | createInsert clientId tool args =>
    refine ⟨none, ?_⟩
    rw [Store.next, Store.insert]
    split
    · exact hstays
    · rename_i hinserts
      split
      · exact hstays
      · have hnone : answer.fails = false ∧ ∀ row ∈ store.rows, ¬ row.id = answer.uuid := by
          simpa using hinserts
        refine follows_append Carried.refl ⟨rfl, rfl, args, rfl, rfl⟩ fun hmem => ?_
        obtain ⟨row, hrow, hkey⟩ := List.mem_map.mp hmem
        exact hnone.2 row hrow hkey
  | claim id =>
    refine ⟨none, ?_⟩
    rw [Store.next, Store.claimUpdate]
    split
    · exact follows_run Carried.refl (fun h => h.id) (respects_claimPending id answer.now)
    · exact hstays
  | mark claimed =>
    refine ⟨some claimed.id, ?_⟩
    rw [Store.next, Store.markNext]
    split
    · exact follows_run Carried.refl (fun h => h.id) (respects_markExecuting claimed.id)
    · exact Follows.refl Carried.refl
  | beginTool claimed =>
    refine ⟨none, ?_⟩
    rw [Store.next, Store.beginNext]
    split <;> exact hstays
  | failIntegrity id => exact absurd rfl ((h.fits caller _ hcall).intact id)
  | createRead clientId tool digest | viewRead id clientId | claimRead id | permit claimed
  | running claimed => exact ⟨none, hstays⟩
  | lazyExpire id => exact ⟨none, onward_run (respects_expire id) answer.fails⟩
  | deny id => exact ⟨none, onward_run (respects_denyPending id) answer.fails⟩
  | failParse id =>
    exact ⟨none, onward_run (respects_failClaimed id ⟨_, rfl,
      hreads.failures _ (by simp)⟩) answer.fails⟩
  | finish id ok result =>
    exact ⟨none, onward_run (respects_finishExecuting id ok (hreads.sanitizeValue result))
      answer.fails⟩
  | failMark id refusal => exact ⟨some id, onward_run (respects_markExecuting id) answer.fails⟩
  | failFinish id refusal =>
    exact ⟨none,
      onward_run (respects_finishExecuting id false (hreads.sanitizeValue refusal.result))
        answer.fails⟩
  | sweep | recoverExpired => exact ⟨none, onward_run (respects_expireOverdue answer.now) answer.fails⟩
  | recoverFailed => exact ⟨none, onward_run (respects_failInterrupted hreads) answer.fails⟩

lemma claims_made {claim : String × ℤ}
    (h : claim ∈ (store.next codec digest answer call).1.claims) : claim ∈ store.claims ∨
      ∃ row ∈ store.rows, row.id = claim.1 ∧ row.state = .pending ∧ claim.2 < row.expiresAt := by
  cases call with
  | claim id =>
    rw [Store.next, Store.claimUpdate] at h
    split at h
    · rename_i haffects
      obtain hold | hlast := List.mem_append.mp h
      · exact .inl hold
      · obtain rfl := List.mem_singleton.mp hlast
        obtain ⟨row, hrow, hguard⟩ := List.any_eq_true.mp haffects.2
        obtain ⟨⟨hkey, hpending⟩, hexpires⟩ :
            (row.id = id ∧ row.state = .pending) ∧ answer.now < row.expiresAt := by
          simpa [claimPending] using hguard
        exact .inr ⟨row, hrow, hkey, hpending, hexpires⟩
    · exact .inl h
  | createInsert clientId tool args =>
    refine .inl ?_
    rw [Store.next, Store.insert] at h
    split at h
    · exact h
    · split at h <;> exact h
  | mark claimed =>
    refine .inl ?_
    rw [Store.next, Store.markNext] at h
    split at h <;> exact h
  | beginTool claimed =>
    refine .inl ?_
    rw [Store.next, Store.beginNext] at h
    split at h <;> exact h
  | _ => exact .inl (by simpa [Store.next] using h)

lemma mem_claims_made {id : String} (h : id ∈ store.claims.map Prod.fst) :
    id ∈ (store.next codec digest answer call).1.claims.map Prod.fst := by
  cases call with
  | claim id =>
    rw [Store.next, Store.claimUpdate]
    split
    · simp [h]
    · exact h
  | createInsert clientId tool args =>
    rw [Store.next, Store.insert]
    split
    · exact h
    · split <;> exact h
  | mark claimed =>
    rw [Store.next, Store.markNext]
    split <;> exact h
  | beginTool claimed =>
    rw [Store.next, Store.beginNext]
    split <;> exact h
  | _ => simpa [Store.next] using h

lemma executions_made (h : Sound codec digest store) (hcall : store.calls caller = some call)
    {execution : String × Value N}
    (hexecution : execution ∈ (store.next codec digest answer call).1.executions) :
    execution.1 ∈ store.claims.map Prod.fst := by
  have hold : ∀ {execution}, execution ∈ store.executions → execution.1 ∈ store.claims.map Prod.fst :=
    fun hexecution => (h.ledger.permitted _ hexecution).1
  cases call with
  | beginTool claimed =>
    rw [Store.next, Store.beginNext] at hexecution
    split at hexecution
    · obtain hbefore | hlast := List.mem_append.mp hexecution
      · exact hold hbefore
      · obtain rfl := List.mem_singleton.mp hlast
        exact (h.fits caller _ hcall).claimed claimed.id rfl
    · exact hold hexecution
  | createInsert clientId tool args =>
    rw [Store.next, Store.insert] at hexecution
    split at hexecution
    · exact hold hexecution
    · split at hexecution <;> exact hold hexecution
  | claim id =>
    rw [Store.next, Store.claimUpdate] at hexecution
    split at hexecution <;> exact hold hexecution
  | mark claimed =>
    rw [Store.next, Store.markNext] at hexecution
    split at hexecution <;> exact hold hexecution
  | _ => exact hold (by simpa [Store.next] using hexecution)

/-! ## What an executor leaves -/

omit [DecidableEq D] in
lemma closed_run {update : Update (Approval D)} {id : String}
    (hrows : ∀ row ∈ store.rows, row.id = id → row.state.Open → update.guard row = true)
    (hchange : ∀ row, ¬ (update.change row).state.Open) :
    ∀ row ∈ (store.run update false).rows, row.id = id → ¬ row.state.Open := by
  intro row hrow hid
  obtain ⟨before, hbefore, rfl⟩ := Update.mem_run.mp hrow
  by_cases hguard : update.guard before = true
  · rw [if_pos hguard]
    exact hchange before
  · rw [if_neg hguard] at hid ⊢
    exact fun hopen => hguard (hrows before hbefore hid hopen)

/-- What holds in a careful run: rows are read back, and a refused row is not claimed any more. -/
structure Settling (codec : Codec N) (store : Store D N) : Prop where
  readsBack : ∀ row ∈ store.rows, ∀ read, codec.parse row.canonicalArgs = some read →
    codec.canonicalize read = row.canonicalArgs
  refused : ∀ caller id refusal, store.calls caller = some (.failFinish id refusal) →
    ∀ row ∈ store.rows, row.id = id → row.state ≠ .claimed

lemma closed_made (h : Sound codec digest store) (hsettling : Settling codec store)
    (hcareful : Careful codec store (.goesOn caller answer)) (hcall : store.calls caller = some call)
    {id : String} (hid : call.claimedId = some id)
    (hreturns : (store.next codec digest answer call).2 = none) :
    ∀ row ∈ (store.next codec digest answer call).1.rows, row.id = id → ¬ row.state.Open := by
  have hfits := h.fits caller call hcall
  have hbehind := (hcareful call hcall).2 id hid
  have hunmarked : call.unmarkedId = some id → ∀ row ∈ store.rows, row.id = id → row.state.Open →
      row.state = .claimed := fun heq row hrow hkey hopen =>
    hopen.resolve_right (hfits.unmarked id heq row hrow hkey)
  have hmarked : call.markedId = some id → ∀ row ∈ store.rows, row.id = id → row.state.Open →
      row.state = .executing := fun heq row hrow hkey hopen =>
    hopen.resolve_left (hfits.marked id heq row hrow hkey)
  cases call with
  | claimRead id =>
    obtain rfl := Option.some.inj hid
    obtain ⟨row, hrow, hkey, _⟩ := h.ledger.row_of_claimed (hfits.claimed id rfl)
    rw [Store.next, Store.readClaimed] at hreturns
    split at hreturns
    · rename_i hfails
      exact hbehind hfails
    · split at hreturns
      · rename_i hnone
        exact absurd hkey (by simpa using List.find?_eq_none.mp hnone row hrow)
      · split at hreturns
        · simp at hreturns
        · split at hreturns <;> simp at hreturns
  | failIntegrity id => exact absurd rfl (hfits.intact id)
  | failParse id =>
    obtain rfl := Option.some.inj hid
    rw [Store.next]
    cases hfails : answer.fails with
    | true => exact hbehind hfails
    | false =>
      refine closed_run (fun row hrow hkey hopen => ?_) fun _ => by
        simp [failClaimed, ApprovalState.Open]
      simp [failClaimed, hkey, hunmarked rfl row hrow hkey hopen]
  | permit claimed =>
    rw [Store.next, Store.permitNext] at hreturns
    split at hreturns
    · simp at hreturns
    · rename_i henabled
      split at hreturns
      · rename_i hfails
        exact hbehind ⟨by simpa using henabled, hfails⟩
      · split at hreturns <;> simp at hreturns
  | mark claimed =>
    obtain rfl := Option.some.inj hid
    rw [Store.next, Store.markNext] at hreturns ⊢
    split at hreturns
    · simp at hreturns
    · rename_i hnot
      rw [if_neg hnot]
      cases hfails : answer.fails with
      | true => exact hbehind hfails
      | false =>
        have hnone : ∀ row ∈ store.rows, row.id = claimed.id → ¬ row.state = .claimed := by
          simpa [hfails, Update.affects, markExecuting] using hnot
        exact fun row hrow hkey hopen =>
          hnone row hrow hkey (hunmarked rfl row hrow hkey hopen)
  | beginTool claimed =>
    rw [Store.next, Store.beginNext] at hreturns
    split at hreturns <;> simp at hreturns
  | running claimed | failMark id refusal => simp [Store.next] at hreturns
  | finish id ok result =>
    obtain rfl := Option.some.inj hid
    rw [Store.next]
    cases hfails : answer.fails with
    | true => exact hbehind hfails
    | false =>
      refine closed_run (fun row hrow hkey hopen => ?_) fun _ => by
        cases ok <;> simp [finishExecuting, ApprovalState.Open]
      simp [finishExecuting, hkey, hmarked rfl row hrow hkey hopen]
  | failFinish id refusal =>
    obtain rfl := Option.some.inj hid
    rw [Store.next]
    cases hfails : answer.fails with
    | true => exact hbehind hfails
    | false =>
      refine closed_run (fun row hrow hkey hopen => ?_) fun _ => by
        simp [finishExecuting, ApprovalState.Open]
      have hexecuting :=
          hopen.resolve_left (hsettling.refused caller id refusal hcall row hrow hkey)
      simp [finishExecuting, hkey, hexecuting]
  | _ => simp [Call.claimedId] at hid

lemma failMark_of_made {id : String} {refusal : Refusal}
    (h : (store.next codec digest answer call).2 = some (.failFinish id refusal)) :
    call = .failMark id refusal := by
  cases call with
  | failMark id' refusal' =>
    obtain ⟨⟩ := h
    rfl
  | createInsert clientId tool args =>
    rw [Store.next, Store.insert] at h
    split at h
    · simp at h
    · split at h <;> simp at h
  | createRead clientId tool digest | viewRead id clientId =>
    obtain ⟨_, hfound⟩ := Option.ite_none_left_eq_some.mp h
    simpa [Call.claimedId] using claimedId_handle hfound
  | claim id =>
    rw [Store.next, Store.claimUpdate] at h
    split at h <;> simp at h
  | claimRead id =>
    rw [Store.next, Store.readClaimed] at h
    split at h
    · simp at h
    · split at h
      · simp at h
      · split at h
        · simp at h
        · split at h <;> simp at h
  | permit claimed =>
    obtain ⟨_, heq⟩ | heq := permitNext_eq h <;> simp at heq
  | mark claimed =>
    rw [Store.next, Store.markNext] at h
    split at h <;> simp at h
  | beginTool claimed =>
    rw [Store.next, Store.beginNext] at h
    split at h <;> simp at h
  | recoverFailed =>
    obtain ⟨_, heq⟩ := Option.ite_none_left_eq_some.mp h
    simp at heq
  | _ => simp [Store.next] at h

omit [DecidableEq D] in
lemma refused_made {id : String} {refusal : Refusal}
    (hcareful : Careful codec store (.goesOn caller answer))
    (hcall : store.calls caller = some (.failMark id refusal)) :
    ∀ row ∈ (store.run (markExecuting id) answer.fails).rows, row.id = id → row.state ≠ .claimed := by
  cases hfails : answer.fails with
  | true => exact (hcareful _ hcall).2 id rfl hfails
  | false =>
    intro row hrow hkey hclaimed
    obtain ⟨before, hbefore, rfl⟩ := Update.mem_run.mp hrow
    by_cases hguard : (markExecuting id).guard before = true
    · rw [if_pos hguard] at hclaimed
      simp [markExecuting] at hclaimed
    · rw [if_neg hguard] at hkey hclaimed
      exact hguard (by simp [markExecuting, hkey, hclaimed])

lemma settling_step (hreads : codec.Reads) (h : Sound codec digest store)
    (hsettling : Settling codec store) {event : Store.Event D N}
    (hcareful : Careful codec store event) : Settling codec (store.step codec digest event) := by
  cases event with
  | begins caller call =>
    rw [Store.step]
    split
    · rename_i hbegins
      refine ⟨hsettling.readsBack, fun other id refusal hother => ?_⟩
      refine hsettling.refused other id refusal ?_
      by_cases heq : other = caller
      · subst heq
        obtain rfl : call = .failFinish id refusal := by simpa using hother
        exact hbegins.2.elim
      · simpa [heq] using hother
    · exact hsettling
  | goesOn caller answer =>
    rw [Store.step, Store.goesOn]
    split
    · exact hsettling
    · rename_i call hcall
      obtain ⟨own, hrows⟩ := onward_made answer h hreads hcall
      refine ⟨fun row hrow read hread => ?_, fun other id refusal hother => ?_⟩
      · obtain ⟨before, hbefore, hcarried⟩ | hnew := hrows.backward row hrow
        · rw [hcarried.canonicalArgs] at hread ⊢
          exact hsettling.readsBack before hbefore read hread
        · obtain ⟨args, hasked, hcanonical⟩ := hnew.canonical
          rw [hcanonical] at hread ⊢
          exact (hcareful call hcall).1 args hasked read hread
      · by_cases heq : other = caller
        · subst heq
          obtain rfl := failMark_of_made (by simpa using hother)
          exact refused_made hcareful hcall
        · have hstore : store.calls other = some (.failFinish id refusal) := by
            simpa [heq] using hother
          exact hrows.not_claimed h.ledger ((h.fits other _ hstore).claimed id rfl)
            (hsettling.refused other id refusal hstore)
  | dropped caller =>
    refine ⟨hsettling.readsBack, fun other id refusal hother => ?_⟩
    refine hsettling.refused other id refusal ?_
    by_cases heq : other = caller
    · simp [Store.step, heq] at hother
    · simpa [Store.step, heq] using hother
  | crashed =>
    exact ⟨hsettling.readsBack, fun other id refusal hother => by simp [Store.step] at hother⟩

/-! ## Runs -/

omit [DecidableEq D] in
lemma sound_empty : Sound codec digest (Store.empty : Store D N) := by
  constructor
  · constructor <;> simp [Store.empty]
  · simp [Store.empty]
  · simp [Store.empty]

omit [DecidableEq D] in
lemma settling_empty : Settling codec (Store.empty : Store D N) := by
  constructor <;> simp [Store.empty]

lemma step_cases (codec : Codec N) (digest : String → D) (store : Store D N)
    (event : Store.Event D N) :
    (∃ caller answer call, event = .goesOn caller answer ∧ store.calls caller = some call ∧
      store.step codec digest event = { (store.next codec digest answer call).1 with
        calls := Function.update store.calls caller (store.next codec digest answer call).2 }) ∨
    ((store.step codec digest event).rows = store.rows ∧
      (store.step codec digest event).claims = store.claims ∧
        (store.step codec digest event).executions = store.executions) := by
  cases event with
  | begins caller call =>
    rw [Store.step]
    split <;> exact .inr ⟨rfl, rfl, rfl⟩
  | goesOn caller answer =>
    cases hcall : store.calls caller with
    | none => exact .inr (by simp [Store.step, Store.goesOn, hcall])
    | some call =>
      exact .inl ⟨caller, answer, call, rfl, hcall, by simp [Store.step, Store.goesOn, hcall]⟩
  | dropped caller | crashed => exact .inr ⟨rfl, rfl, rfl⟩

lemma exclusive_of_sound (h : Sound codec digest store) (hreads : codec.Reads)
    (event : Store.Event D N) : Exclusive codec digest store event := by
  have hafter := (sound_step hreads event h).ledger
  refine ⟨hafter.nodup, hafter.executed, ?_, ?_, ?_⟩ <;>
    obtain ⟨caller, answer, call, -, hcall, hstep⟩ | ⟨hrows, hclaims, hexecutions⟩ :=
      step_cases codec digest store event
  · rw [hstep]
    exact fun claim hclaim => claims_made hclaim
  · rw [hclaims]
    exact fun claim hclaim => .inl hclaim
  · rw [hstep]
    exact fun execution hexecution => executions_made h hcall hexecution
  · rw [hexecutions]
    exact fun execution hexecution => (h.ledger.permitted execution hexecution).1
  · obtain ⟨own, honward⟩ := onward_made answer h hreads hcall
    rw [hstep]
    intro row hrow hterminal
    obtain ⟨row', hrow', hcarried⟩ := honward.forward row hrow
    exact ⟨row', hrow', hcarried.id, hcarried.moves.terminal hterminal⟩
  · rw [hrows]
    exact fun row hrow _ => ⟨row, hrow, rfl, rfl⟩

lemma settles_of_careful (hreads : codec.Reads) (h : Sound codec digest store)
    (hsettling : Settling codec store) {event : Store.Event D N}
    (hcareful : Careful codec store event) : Settles codec digest store event := by
  have hafter := (sound_step hreads event h).ledger
  have hsettled := settling_step hreads h hsettling hcareful
  refine ⟨fun execution hexecution => ?_, ?_⟩
  · obtain ⟨_, row, hrow, hkey, hparse⟩ := hafter.permitted execution hexecution
    exact ⟨row, hrow, hkey, hsettled.readsBack row hrow _ hparse⟩
  · rintro caller answer call id rfl hcall hid hreturns
    have hstep : store.step codec digest (.goesOn caller answer) =
        { (store.next codec digest answer call).1 with
          calls := Function.update store.calls caller (store.next codec digest answer call).2 } := by
      simp [Store.step, Store.goesOn, hcall]
    have hclaim : id ∈ (store.step codec digest (.goesOn caller answer)).claims.map Prod.fst := by
      rw [hstep]
      exact mem_claims_made ((h.fits caller call hcall).claimed id hid)
    obtain ⟨row, hrow, hkey, hheld⟩ := hafter.row_of_claimed hclaim
    have hclosed : ¬ row.state.Open := by
      rw [hstep] at hrow hreturns
      exact closed_made h hsettling hcareful hcall hid (by simpa using hreturns) row hrow hkey
    obtain ⟨hterminal, hresult⟩ := ApprovalState.settled hheld hclosed
    exact ⟨row, hrow, hkey, hterminal, hafter.readable row hrow hresult⟩

/-- **Approved requests run once and settle.** Under any interleaving of calls, failed statements,
dropped calls and crashes, a tool is run at most once for a row, which was claimed while it was
pending and not overdue, and a settled row stays; and in a run in which no statement of an executor
fails where it leaves its row behind, it is run as it was asked for, and an executor that returns
has settled its row with a result that can be read. -/
theorem settles_throughout (hreads : codec.Reads) (events : List (Store.Event D N)) :
    Throughout (Store.step codec digest) (Exclusive codec digest) Store.empty events ∧
      (Throughout (Store.step codec digest) (Careful codec) Store.empty events →
        Throughout (Store.step codec digest) (Settles codec digest) Store.empty events) := by
  refine ⟨?_, fun hcareful => ?_⟩
  · exact throughout_of_inv (Sound codec digest) sound_empty fun store h event _ =>
      ⟨exclusive_of_sound h hreads event, sound_step hreads event h⟩
  · exact hcareful.keep (fun store => Sound codec digest store ∧ Settling codec store)
      ⟨sound_empty, settling_empty⟩ fun store h event _ hevent =>
        ⟨settles_of_careful hreads h.1 h.2 hevent, sound_step hreads event h.1,
          settling_step hreads h.1 h.2 hevent⟩

/-- **A refused request is never run.** A row that is denied, or expired, at some point of any
interleaving is still there after all that follows, and still refused; neither then nor before was
it claimed or run. -/
theorem not_executed_of_refused (hreads : codec.Reads) (events later : List (Store.Event D N)) :
    let after := later.foldl (Store.step codec digest) (events.foldl (Store.step codec digest) .empty)
    ∀ row ∈ (events.foldl (Store.step codec digest) Store.empty).rows,
      row.state = .denied ∨ row.state = .expired →
        (∃ row' ∈ after.rows, row'.id = row.id ∧ row'.state = row.state) ∧
          row.id ∉ after.claims.map Prod.fst ∧ row.id ∉ after.executions.map Prod.fst := by
  intro after row hrow hrefused
  have hterminal : row.state.Terminal ∧ ¬row.state.Held := by
    obtain h | h := hrefused <;> rw [h] <;> exact ⟨trivial, fun h => h⟩
  have hsound : Sound codec digest (events.foldl (Store.step codec digest) .empty) :=
    List.foldlRecOn events _ sound_empty fun _ h event _ => sound_step hreads event h
  obtain ⟨hafter, row', hrow', hid, hstate⟩ : Sound codec digest after ∧
      ∃ row' ∈ after.rows, row'.id = row.id ∧ row'.state = row.state := by
    refine List.foldlRecOn (motive := fun store => Sound codec digest store ∧
      ∃ row' ∈ store.rows, row'.id = row.id ∧ row'.state = row.state) later _
      ⟨hsound, row, hrow, rfl, rfl⟩ ?_
    rintro store ⟨h, before, hbefore, hid, hstate⟩ event -
    obtain ⟨row', hrow', hid', hstate'⟩ := (exclusive_of_sound h hreads event).terminal before
      hbefore (hstate ▸ hterminal.1)
    exact ⟨sound_step hreads event h, row', hrow', hid'.trans hid, hstate'.trans hstate⟩
  -- what was claimed is held, and what was run was claimed
  have hunclaimed : row.id ∉ after.claims.map Prod.fst := fun hclaimed =>
    hterminal.2 (hstate ▸ hafter.ledger.held hrow' (hid ▸ hclaimed))
  refine ⟨⟨row', hrow', hid, hstate⟩, hunclaimed, fun hexecuted => hunclaimed ?_⟩
  obtain ⟨execution, hexecution, hid⟩ := List.mem_map.mp hexecuted
  exact hid ▸ (hafter.ledger.permitted execution hexecution).1

mutual

/-- A compact text of a value; every number is zero. -/
def plainText : Value Unit → String
  | .null => "null"
  | .bool value => if value then "true" else "false"
  | .number _ => "0"
  | .string value => "\"" ++ value ++ "\""
  | .array items => "[" ++ ",".intercalate (plainItems items) ++ "]"
  | .object members => "\x7b" ++ ",".intercalate (plainMembers members) ++ "\x7d"

/-- `plainText` of each item. -/
def plainItems : List (Value Unit) → List String
  | [] => []
  | item :: items => plainText item :: plainItems items

/-- `plainText` of each member. -/
def plainMembers : List (String × Value Unit) → List String
  | [] => []
  | (key, value) :: members => ("\"" ++ key ++ "\":" ++ plainText value) :: plainMembers members

end

/-- A library that reads the empty object, and nothing else as it is. -/
def plainCodec : Codec Unit where
  text := plainText
  parse text := if text = "\x7b\x7d" then some (.object []) else some .null

/-- A statement that succeeds, or not, for a request that may run and succeeds. -/
def plainAnswer (fails : Bool) : Answer Unit :=
  { now := 0, fails := fails, uuid := "r", enabled := true, refusal := none, runtime := true,
    success := true, result := .object [] }

/-- A request is inserted, read, claimed and read, and its checks meet a database. -/
def claimedRun (fails : Bool) : List (Store.Event String Unit) :=
  [.begins 0 (.createInsert "agent" "tool" (.object [])), .goesOn 0 (plainAnswer false),
    .goesOn 0 (plainAnswer false), .begins 1 (.claim "r"), .goesOn 1 (plainAnswer false),
    .goesOn 1 (plainAnswer false), .goesOn 1 (plainAnswer fails)]

lemma reads_plainCodec : plainCodec.Reads := by
  have hsome : ∀ text, (plainCodec.parse text).isSome := fun text => by
    simp only [plainCodec]
    split <;> rfl
  exact ⟨fun _ _ => hsome _, fun _ _ => hsome _⟩

omit [DecidableEq D] in
lemma careful_of_asked {store : Store D N} {caller : ℕ} {answer : Answer N}
    (hfails : answer.fails = false)
    (hasked : ((store.calls caller).bind Call.asked).isNone = true) :
    Careful codec store (.goesOn caller answer) := by
  intro call hcall
  refine ⟨fun args hargs => ?_, fun id _ hfailing => ?_⟩
  · simp [hcall, hargs] at hasked
  · cases call <;> simp_all [Call.Fails]

/-- A request is approved, run and settled. -/
theorem settles_throughout_approved :
    Throughout (Store.step plainCodec id) (Settles plainCodec id) Store.empty
      (claimedRun false ++ List.replicate 4 (Store.Event.goesOn 1 (plainAnswer false))) ∧
    ((claimedRun false ++ List.replicate 4 (Store.Event.goesOn 1 (plainAnswer false))).foldl
      (Store.step plainCodec id) Store.empty).rows.map Approval.state = [.done] := by
  refine ⟨(settles_throughout reads_plainCodec _).2
    ⟨trivial, ?_, careful_of_asked rfl rfl, trivial, careful_of_asked rfl rfl,
      careful_of_asked rfl (by decide +kernel), careful_of_asked rfl (by decide +kernel),
      careful_of_asked rfl (by decide +kernel), careful_of_asked rfl (by decide +kernel),
      careful_of_asked rfl (by decide +kernel), careful_of_asked rfl (by decide +kernel), trivial⟩,
    by decide +kernel⟩
  rintro _ ⟨⟩
  refine ⟨?_, by simp [Call.claimedId]⟩
  rintro _ ⟨⟩ read hread
  have htext : plainCodec.canonicalize (.object []) = "\x7b\x7d" := by decide +kernel
  rw [htext] at hread ⊢
  obtain rfl : Value.object [] = read := by simpa [plainCodec] using hread
  exact htext

/-- A request is denied, and then claimed. -/
theorem not_executed_of_refused_denied :
    let denied := (claimedRun false).take 3 ++ [.begins 1 (.deny "r"), .goesOn 1 (plainAnswer false)]
    let store := denied.foldl (Store.step plainCodec id) .empty
    store.rows.map Approval.state = [.denied] ∧ ∀ row ∈ store.rows,
      row.id ∉ (((claimedRun false).drop 3).foldl (Store.step plainCodec id) store).executions.map
        Prod.fst := by
  intro denied store
  have hdenied : ∀ row ∈ store.rows, row.state = .denied := by decide +kernel
  exact ⟨by decide +kernel, fun row hrow =>
    (not_executed_of_refused reads_plainCodec denied _ row hrow (.inl (hdenied row hrow))).2.2⟩

/-- A database error after the claim leaves the row claimed. -/
theorem not_settles_throughout : ¬ Throughout (Store.step plainCodec id)
    (fun store event => Exclusive plainCodec id store event ∧ Settles plainCodec id store event)
    Store.empty (claimedRun true) := by
  intro h
  have hcall : (((claimedRun true).dropLast.foldl (Store.step plainCodec id) Store.empty).calls 1).bind
      Call.claimedId = some "r" := by decide +kernel
  obtain ⟨call, hcall, hid⟩ := Option.bind_eq_some_iff.mp hcall
  have hreturns : (((claimedRun true).foldl (Store.step plainCodec id) Store.empty).calls 1).isNone =
      true := by decide +kernel
  obtain ⟨row, hrow, _, hterminal, _⟩ := h.2.2.2.2.2.2.1.2.settled 1 (plainAnswer true) call "r" rfl
    hcall hid (Option.isNone_iff_eq_none.mp hreturns)
  have hclaimed : row.state = .claimed := by
    have hall : ∀ row ∈ ((claimedRun true).foldl (Store.step plainCodec id) Store.empty).rows,
        row.state = .claimed := by decide +kernel
    exact hall row hrow
  rw [hclaimed] at hterminal
  exact hterminal

end Dripline.AgentControl

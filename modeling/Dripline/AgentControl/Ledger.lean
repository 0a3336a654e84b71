import Dripline.AgentControl.Approvals
import Dripline.Found.Trace

/-!
# The ledger of approvals

What holds of the rows, the claims and the calls under any interleaving.
-/

namespace Dripline.AgentControl

open Dripline.Found.Updates Dripline.Found.Trace List

variable {D N : Type}

/-! ## How a row moves -/

/-- The moves of the state of a row. -/
inductive Moves : ApprovalState → ApprovalState → Prop
  | stays (state : ApprovalState) : Moves state state
  | claimed : Moves .pending .claimed
  | denied : Moves .pending .denied
  | expired : Moves .pending .expired
  | executing : Moves .claimed .executing
  | claimFailed : Moves .claimed .failed
  | done : Moves .executing .done
  | failed : Moves .executing .failed

/-- The states of a row that was claimed. -/
def ApprovalState.Held : ApprovalState → Prop
  | .claimed | .executing | .done | .failed => True
  | .pending | .denied | .expired => False

variable {state' state : ApprovalState}

lemma Moves.terminal (h : Moves state state') (hterminal : state.Terminal) : state' = state := by
  cases h <;> first | rfl | exact hterminal.elim

lemma Moves.held {state state' : ApprovalState} (h : Moves state state') (hheld : state.Held) :
    state'.Held := by
  cases h <;> first | exact hheld | trivial

lemma Moves.not_claimed (h : Moves state state') (hheld : state.Held) (hnot : state ≠ .claimed) :
    state' ≠ .claimed := by
  rintro rfl
  cases h with
  | stays => exact hnot rfl
  | claimed => exact hheld

section carried

variable (codec : Codec N) (own : Option String)

/-- What is left of a row by a statement of the executor of a row, or of none. -/
structure Carried (row row' : Approval D) : Prop where
  id : row'.id = row.id
  canonicalArgs : row'.canonicalArgs = row.canonicalArgs
  argsDigest : row'.argsDigest = row.argsDigest
  expiresAt : row'.expiresAt = row.expiresAt
  moves : Moves row.state row'.state
  executing : row'.state = .executing → row.state = .executing ∨ own = some row.id
  readable : (row.state.HasResult → codec.Readable row.resultJson) →
    row'.state.HasResult → codec.Readable row'.resultJson

variable {codec own}

lemma Carried.refl (row : Approval D) : Carried codec own row row :=
  ⟨rfl, rfl, rfl, rfl, .stays _, fun h => .inl h, fun h => h⟩

variable {state : ApprovalState} {row : Approval D}

lemma carried_of_moves (h : Moves row.state state) (hnone : ¬ state.HasResult)
    (hown : state = .executing → own = some row.id) :
    Carried codec own row { row with state := state } :=
  ⟨rfl, rfl, rfl, rfl, h, fun heq => .inr (hown heq), fun _ hresult => (hnone hresult).elim⟩

variable {result : String}

lemma carried_of_result (h : Moves row.state state) (hstate : state ≠ .executing)
    (hreadable : codec.Readable (some result)) :
    Carried codec own row { row with state := state, resultJson := some result } :=
  ⟨rfl, rfl, rfl, rfl, h, fun heq => (hstate heq).elim, fun _ _ => hreadable⟩

variable (id : String) (now : ℤ)

lemma respects_expire : (expire (D := D) id).Respects (Carried codec own) := by
  intro row hguard
  have hrow : row.id = id ∧ row.state = .pending := by simpa [expire] using hguard
  exact carried_of_moves (hrow.2 ▸ .expired) (fun h => h) (by simp)

lemma respects_denyPending : (denyPending (D := D) id).Respects (Carried codec own) := by
  intro row hguard
  have hrow : row.id = id ∧ row.state = .pending := by simpa [denyPending] using hguard
  exact carried_of_moves (hrow.2 ▸ .denied) (fun h => h) (by simp)

lemma respects_claimPending : (claimPending (D := D) id now).Respects (Carried codec own) := by
  intro row hguard
  have hrow : (row.id = id ∧ row.state = .pending) ∧ now < row.expiresAt := by
    simpa [claimPending] using hguard
  exact carried_of_moves (hrow.1.2 ▸ .claimed) (fun h => h) (by simp)

lemma respects_failClaimed (hresult : codec.Readable (some result)) :
    (failClaimed (D := D) id result).Respects (Carried codec own) := by
  intro row hguard
  have hrow : row.id = id ∧ row.state = .claimed := by simpa [failClaimed] using hguard
  exact carried_of_result (hrow.2 ▸ .claimFailed) (by simp) hresult

lemma respects_markExecuting : (markExecuting (D := D) id).Respects (Carried codec (some id)) := by
  intro row hguard
  have hrow : row.id = id ∧ row.state = .claimed := by simpa [markExecuting] using hguard
  exact carried_of_moves (hrow.2 ▸ .executing) (fun h => h) (fun _ => by rw [hrow.1])

lemma respects_finishExecuting (ok : Bool) (hresult : codec.Readable (some result)) :
    (finishExecuting (D := D) id ok result).Respects (Carried codec own) := by
  intro row hguard
  have hrow : row.id = id ∧ row.state = .executing := by simpa [finishExecuting] using hguard
  cases ok with
  | true => exact carried_of_result (hrow.2 ▸ .done) (by simp) hresult
  | false => exact carried_of_result (hrow.2 ▸ .failed) (by simp) hresult

lemma respects_expireOverdue : (expireOverdue (D := D) now).Respects (Carried codec own) := by
  intro row hguard
  have hrow : row.state = .pending ∧ row.expiresAt ≤ now := by simpa [expireOverdue] using hguard
  exact carried_of_moves (hrow.1 ▸ .expired) (fun h => h) (by simp)

lemma respects_failInterrupted (hreads : codec.Reads) :
    (failInterrupted (D := D)).Respects (Carried codec own) := by
  intro row hguard
  have hrow : row.state = .claimed ∨ row.state = .executing := by simpa [failInterrupted] using hguard
  refine carried_of_result ?_ (by simp) ⟨_, rfl, hreads.failures _ (by simp)⟩
  obtain h | h := hrow
  · exact h ▸ .claimFailed
  · exact h ▸ .failed

end carried

/-! ## What holds of the rows and the calls -/

/-- The row of an executor that has marked it. -/
def Call.markedId : Call D N → Option String
  | .beginTool claimed | .running claimed => some claimed.id
  | .finish id _ _ => some id
  | _ => none

section sound

variable (codec : Codec N) (digest : String → D)

/-- A row as it is inserted for the arguments asked with. -/
structure New (asked : Option (Value N)) (row : Approval D) : Prop where
  pending : row.state = .pending
  intact : row.argsDigest = digest row.canonicalArgs
  canonical : ∃ args, asked = some args ∧ row.canonicalArgs = codec.canonicalize args

/-- The rows are carried on by the executor of a row, or by none, and new ones are inserted. -/
def Onward (own : Option String) (asked : Option (Value N)) (rows after : List (Approval D)) : Prop :=
  Follows Approval.id (Carried codec own) (New codec digest asked) rows after

/-- What holds of the rows, the claims and the executions. -/
structure Ledger (store : Store D N) : Prop where
  nodup : (store.rows.map Approval.id).Nodup
  intact : ∀ row ∈ store.rows, row.argsDigest = digest row.canonicalArgs
  readable : ∀ row ∈ store.rows, row.state.HasResult → codec.Readable row.resultJson
  once : (store.claims.map Prod.fst).Nodup
  claimed : ∀ claim ∈ store.claims, ∃ row ∈ store.rows,
    row.id = claim.1 ∧ claim.2 < row.expiresAt ∧ row.state.Held
  executed : (store.executions.map Prod.fst).Nodup
  permitted : ∀ execution ∈ store.executions, execution.1 ∈ store.claims.map Prod.fst ∧
    ∃ row ∈ store.rows, row.id = execution.1 ∧ codec.parse row.canonicalArgs = some execution.2

/-- What holds of a call on the way. -/
structure Fits (store : Store D N) (call : Call D N) : Prop where
  claimed : ∀ id, call.claimedId = some id → id ∈ store.claims.map Prod.fst
  unexecuted : ∀ id, call.unexecutedId = some id → id ∉ store.executions.map Prod.fst
  unmarked : ∀ id, call.unmarkedId = some id → ∀ row ∈ store.rows, row.id = id →
    row.state ≠ .executing
  marked : ∀ id, call.markedId = some id → ∀ row ∈ store.rows, row.id = id → row.state ≠ .claimed
  payload : ∀ claimed, call.payload = some claimed → ∃ row ∈ store.rows,
    row.id = claimed.id ∧ codec.parse row.canonicalArgs = some claimed.canonicalArgs
  intact : ∀ id, call ≠ .failIntegrity id

/-- What holds under any interleaving: each row has one executor at most. -/
structure Sound (store : Store D N) : Prop where
  ledger : Ledger codec digest store
  fits : ∀ caller call, store.calls caller = some call → Fits codec store call
  apart : ∀ caller caller' call call' id, store.calls caller = some call →
    store.calls caller' = some call' → call.claimedId = some id → call'.claimedId = some id →
    caller = caller'

variable {codec digest} {store : Store D N} {own : Option String} {asked : Option (Value N)}
  {rows : List (Approval D)}

variable {call : Call D N} {id : String}

lemma Call.claimedId_of_unmarkedId (h : call.unmarkedId = some id) : call.claimedId = some id := by
  cases call <;> simp_all [Call.unmarkedId, Call.claimedId]

lemma Call.claimedId_of_markedId (h : call.markedId = some id) : call.claimedId = some id := by
  cases call <;> simp_all [Call.markedId, Call.claimedId]

lemma Call.claimedId_of_unexecutedId (h : call.unexecutedId = some id) :
    call.claimedId = some id := by
  cases call <;> simp_all [Call.unexecutedId, Call.claimedId]

lemma Ledger.row_of_claimed (h : Ledger codec digest store) (hid : id ∈ store.claims.map Prod.fst) :
    ∃ row ∈ store.rows, row.id = id ∧ row.state.Held := by
  obtain ⟨claim, hclaim, rfl⟩ := mem_map.mp hid
  obtain ⟨row, hrow, hkey, _, hheld⟩ := h.claimed claim hclaim
  exact ⟨row, hrow, hkey, hheld⟩

lemma Ledger.held (h : Ledger codec digest store) {row : Approval D} (hrow : row ∈ store.rows)
    (hid : row.id ∈ store.claims.map Prod.fst) : row.state.Held := by
  obtain ⟨held, hmem, hkey, hheld⟩ := h.row_of_claimed hid
  rwa [eq_of_key h.nodup hrow hmem hkey.symm]

lemma Ledger.onward (h : Ledger codec digest store)
    (hrows : Onward codec digest own asked store.rows rows) :
    Ledger codec digest { store with rows := rows } where
  nodup := hrows.keys h.nodup
  intact row hrow := by
    obtain ⟨before, hbefore, hcarried⟩ | hnew := hrows.backward row hrow
    · rw [hcarried.argsDigest, hcarried.canonicalArgs]
      exact h.intact before hbefore
    · exact hnew.intact
  readable row hrow := by
    obtain ⟨before, hbefore, hcarried⟩ | hnew := hrows.backward row hrow
    · exact hcarried.readable (h.readable before hbefore)
    · rw [hnew.pending]
      exact fun hresult => hresult.elim
  once := h.once
  claimed claim hclaim := by
    obtain ⟨before, hbefore, hkey, hexpires, hheld⟩ := h.claimed claim hclaim
    obtain ⟨row, hrow, hcarried⟩ := hrows.forward before hbefore
    exact ⟨row, hrow, hcarried.id.trans hkey, hcarried.expiresAt ▸ hexpires, hcarried.moves.held hheld⟩
  executed := h.executed
  permitted execution hexecution := by
    obtain ⟨hclaimed, before, hbefore, hkey, hparse⟩ := h.permitted execution hexecution
    obtain ⟨row, hrow, hcarried⟩ := hrows.forward before hbefore
    exact ⟨hclaimed, row, hrow, hcarried.id.trans hkey, hcarried.canonicalArgs ▸ hparse⟩

lemma Onward.not_claimed (hrows : Onward codec digest own asked store.rows rows)
    (h : Ledger codec digest store) (hid : id ∈ store.claims.map Prod.fst)
    (hnot : ∀ row ∈ store.rows, row.id = id → row.state ≠ .claimed) :
    ∀ row ∈ rows, row.id = id → row.state ≠ .claimed := by
  rintro row hrow rfl
  obtain ⟨before, hbefore, hcarried⟩ | hnew := hrows.backward row hrow
  · have hheld := h.held hbefore (hcarried.id ▸ hid)
    exact hcarried.moves.not_claimed hheld (hnot before hbefore hcarried.id.symm)
  · simp [hnew.pending]

lemma Fits.onward (hfits : Fits codec store call) (h : Ledger codec digest store)
    (hrows : Onward codec digest own asked store.rows rows)
    (hown : ∀ id, own = some id → call.unmarkedId ≠ some id) :
    Fits codec { store with rows := rows } call where
  claimed := hfits.claimed
  unexecuted := hfits.unexecuted
  unmarked id hid row hrow hkey hexecuting := by
    obtain ⟨before, hbefore, hcarried⟩ | hnew := hrows.backward row hrow
    · obtain hwas | hmarked := hcarried.executing hexecuting
      · exact hfits.unmarked id hid before hbefore (hcarried.id.symm.trans hkey) hwas
      · exact hown _ hmarked (hcarried.id ▸ hkey ▸ hid)
    · simp [hnew.pending] at hexecuting
  marked id hid :=
    hrows.not_claimed h (hfits.claimed id (Call.claimedId_of_markedId hid)) (hfits.marked id hid)
  payload claimed hclaimed := by
    obtain ⟨before, hbefore, hkey, hparse⟩ := hfits.payload claimed hclaimed
    obtain ⟨row, hrow, hcarried⟩ := hrows.forward before hbefore
    exact ⟨row, hrow, hcarried.id.trans hkey, hcarried.canonicalArgs ▸ hparse⟩
  intact := hfits.intact

lemma fits_of_claimedId_none (h : call.claimedId = none) : Fits codec store call := by
  constructor <;> cases call <;>
    simp_all [Call.claimedId, Call.unexecutedId, Call.unmarkedId, Call.markedId, Call.payload]

variable {call' : Call D N}

lemma Fits.next (h : Fits codec store call)
    (hclaimed : ∀ id, call'.claimedId = some id → call.claimedId = some id)
    (hunexecuted : ∀ id, call'.unexecutedId = some id → call.unexecutedId = some id)
    (hunmarked : ∀ id, call'.unmarkedId = some id → call.unmarkedId = some id)
    (hmarked : ∀ id, call'.markedId = some id → call.markedId = some id)
    (hpayload : ∀ claimed, call'.payload = some claimed → call.payload = some claimed)
    (hintact : ∀ id, call' ≠ .failIntegrity id) : Fits codec store call' :=
  ⟨fun id hid => h.claimed id (hclaimed id hid), fun id hid => h.unexecuted id (hunexecuted id hid),
    fun id hid => h.unmarked id (hunmarked id hid), fun id hid => h.marked id (hmarked id hid),
    fun claimed hid => h.payload claimed (hpayload claimed hid), hintact⟩

/-! ## Steps -/

variable {caller : ℕ} {call : Call D N} {next : Option (Call D N)}

lemma Sound.goesOn (h : Sound codec digest store) (hcall : store.calls caller = some call)
    (store' : Store D N) (hledger : Ledger codec digest store')
    (hothers : ∀ other call', other ≠ caller → store.calls other = some call' → Fits codec store' call')
    (hself : ∀ call', next = some call' → Fits codec store' call')
    (hid : ∀ call' id, next = some call' → call'.claimedId = some id →
      call.claimedId = some id ∨ id ∉ store.claims.map Prod.fst) :
    Sound codec digest { store' with calls := Function.update store.calls caller next } := by
  have hcalls : ∀ other call', Function.update store.calls caller next other = some call' →
      (other = caller ∧ next = some call') ∨ (other ≠ caller ∧ store.calls other = some call') := by
    intro other call' hother
    by_cases heq : other = caller
    · subst heq
      exact .inl ⟨rfl, by simpa using hother⟩
    · exact .inr ⟨heq, by simpa [heq] using hother⟩
  have hapart : ∀ other call' call'' id, other ≠ caller → next = some call' →
      store.calls other = some call'' → call'.claimedId = some id → call''.claimedId ≠ some id := by
    intro other call' call'' id hother hnext hstore hclaimed hclaimed'
    obtain hown | hnew := hid call' id hnext hclaimed
    · exact hother (h.apart _ _ _ _ id hstore hcall hclaimed' hown)
    · exact hnew ((h.fits other call'' hstore).claimed id hclaimed')
  refine ⟨⟨hledger.nodup, hledger.intact, hledger.readable, hledger.once, hledger.claimed,
    hledger.executed, hledger.permitted⟩, fun other call' hother => ?_, ?_⟩
  · have hfits : Fits codec store' call' := by
      obtain ⟨rfl, hnext⟩ | ⟨hne, hstore⟩ := hcalls other call' hother
      · exact hself call' hnext
      · exact hothers other call' hne hstore
    exact ⟨hfits.claimed, hfits.unexecuted, hfits.unmarked, hfits.marked, hfits.payload, hfits.intact⟩
  · intro first second call₁ call₂ id hfirst hsecond hid₁ hid₂
    obtain ⟨rfl, hnext₁⟩ | ⟨hne₁, hstore₁⟩ := hcalls first call₁ hfirst
    · obtain ⟨rfl, _⟩ | ⟨hne₂, hstore₂⟩ := hcalls second call₂ hsecond
      · rfl
      · exact (hapart second call₁ call₂ id hne₂ hnext₁ hstore₂ hid₁ hid₂).elim
    · obtain ⟨rfl, hnext₂⟩ | ⟨_, hstore₂⟩ := hcalls second call₂ hsecond
      · exact (hapart first call₂ call₁ id hne₁ hnext₂ hstore₁ hid₂ hid₁).elim
      · exact h.apart first second call₁ call₂ id hstore₁ hstore₂ hid₁ hid₂

lemma Sound.onward (h : Sound codec digest store) (hcall : store.calls caller = some call)
    (hrows : Onward codec digest own asked store.rows rows)
    (hown : ∀ id, own = some id → call.claimedId = some id)
    (hself : ∀ call', next = some call' → Fits codec { store with rows := rows } call')
    (hid : ∀ call' id, next = some call' → call'.claimedId = some id → call.claimedId = some id) :
    Sound codec digest
      { store with rows := rows, calls := Function.update store.calls caller next } := by
  refine h.goesOn hcall { store with rows := rows } (h.ledger.onward hrows)
    (fun other call' hne hstore => ?_) hself fun call' id hnext hclaimed =>
      .inl (hid call' id hnext hclaimed)
  refine (h.fits other call' hstore).onward h.ledger hrows fun id hown' hunmarked => hne ?_
  exact h.apart _ _ _ _ id hstore hcall (Call.claimedId_of_unmarkedId hunmarked) (hown id hown')

variable {update : Update (Approval D)}

lemma onward_run (hrespects : update.Respects (Carried codec own)) (fails : Bool) :
    Onward codec digest own asked store.rows (store.run update fails).rows := by
  cases fails with
  | true => exact Follows.refl Carried.refl
  | false => exact follows_run Carried.refl (fun h => h.id) hrespects

lemma onward_append {args : Value N} {row : Approval D} (hnew : New codec digest (some args) row)
    (hkey : row.id ∉ store.rows.map Approval.id) :
    Onward codec digest none (some args) store.rows (store.rows ++ [row]) :=
  follows_append Carried.refl hnew hkey

lemma Sound.run (h : Sound codec digest store) (hcall : store.calls caller = some call)
    (hrespects : update.Respects (Carried codec own))
    (hown : ∀ id, own = some id → call.claimedId = some id) (fails : Bool)
    (hself : ∀ call', next = some call' → Fits codec (store.run update fails) call')
    (hid : ∀ call' id, next = some call' → call'.claimedId = some id → call.claimedId = some id) :
    Sound codec digest
      { store.run update fails with calls := Function.update store.calls caller next } := by
  have hrun : store.run update fails = { store with rows := (store.run update fails).rows } := by
    cases fails <;> rfl
  rw [hrun] at hself ⊢
  have hrows : Onward codec digest own none store.rows (store.run update fails).rows :=
    onward_run hrespects fails
  exact h.onward hcall hrows hown hself hid

lemma Sound.run_none (h : Sound codec digest store) (hcall : store.calls caller = some call)
    (hrespects : update.Respects (Carried codec none)) (fails : Bool) :
    Sound codec digest
      { store.run update fails with calls := Function.update store.calls caller none } :=
  h.run hcall hrespects (by simp) fails (by simp) (by simp)

lemma Sound.stays (h : Sound codec digest store) (hcall : store.calls caller = some call)
    (hself : ∀ call', next = some call' → Fits codec store call')
    (hid : ∀ call' id, next = some call' → call'.claimedId = some id → call.claimedId = some id) :
    Sound codec digest { store with calls := Function.update store.calls caller next } := by
  have hrows : Onward codec digest none none store.rows store.rows := Follows.refl Carried.refl
  exact h.onward hcall hrows (by simp) hself hid

lemma Sound.idle (h : Sound codec digest store) (hcall : store.calls caller = some call)
    (hidle : ∀ call', next = some call' → call'.claimedId = none) :
    Sound codec digest { store with calls := Function.update store.calls caller next } :=
  h.stays hcall (fun call' hnext => fits_of_claimedId_none (hidle call' hnext)) fun call' id hnext
    hid => by
    simp [hidle call' hnext] at hid

variable {answer : Answer N}

lemma claimedId_handle {found : Option (Approval D)} (h : Store.handle answer found = some call') :
    call'.claimedId = none := by
  cases found with
  | none => simp [Store.handle] at h
  | some row =>
    rw [Store.handle] at h
    split at h
    · obtain rfl := Option.some.inj h
      rfl
    · simp at h

@[simp] lemma claims_run (update : Update (Approval D)) (fails : Bool) :
    (store.run update fails).claims = store.claims := by
  cases fails <;> rfl

@[simp] lemma executions_run (update : Update (Approval D)) (fails : Bool) :
    (store.run update fails).executions = store.executions := by
  cases fails <;> rfl

lemma Sound.fewer (h : Sound codec digest store) {calls : ℕ → Option (Call D N)}
    (hcalls : ∀ caller call, calls caller = some call → store.calls caller = some call) :
    Sound codec digest { store with calls := calls } := by
  refine ⟨⟨h.ledger.nodup, h.ledger.intact, h.ledger.readable, h.ledger.once, h.ledger.claimed,
    h.ledger.executed, h.ledger.permitted⟩, fun caller call hcall => ?_,
    fun first second call₁ call₂ id hfirst hsecond =>
      h.apart first second call₁ call₂ id (hcalls first call₁ hfirst) (hcalls second call₂ hsecond)⟩
  have hfits := h.fits caller call (hcalls caller call hcall)
  exact ⟨hfits.claimed, hfits.unexecuted, hfits.unmarked, hfits.marked, hfits.payload, hfits.intact⟩

lemma claimedId_of_isEntry (h : call.IsEntry) : call.claimedId = none := by
  cases call <;> first | rfl | exact h.elim

variable {claimed : ClaimedApproval N}

lemma permitNext_eq (h : Store.permitNext answer claimed = some call') :
    (∃ refusal, call' = .failMark claimed.id refusal) ∨ call' = .mark claimed := by
  rw [Store.permitNext] at h
  split at h
  · exact .inl ⟨_, (Option.some.inj h).symm⟩
  · split at h
    · simp at h
    · split at h
      · exact .inl ⟨_, (Option.some.inj h).symm⟩
      · exact .inr (Option.some.inj h).symm

lemma Sound.claimUpdate (h : Sound codec digest store)
    (hcall : store.calls caller = some (.claim id)) :
    Sound codec digest { (store.claimUpdate answer id).1 with
      calls := Function.update store.calls caller (store.claimUpdate answer id).2 } := by
  rw [Store.claimUpdate]
  split
  · rename_i haffects
    obtain ⟨row, hrow, hguard⟩ := any_eq_true.mp haffects.2
    obtain ⟨⟨rfl, hpending⟩, hexpires⟩ :
        (row.id = id ∧ row.state = .pending) ∧ answer.now < row.expiresAt := by
      simpa [claimPending] using hguard
    have hnew : row.id ∉ store.claims.map Prod.fst := fun hmem => by
      have hheld := h.ledger.held hrow hmem
      rw [hpending] at hheld
      exact hheld
    have hrows : Onward codec digest none none store.rows
        ((claimPending row.id answer.now).run store.rows) :=
      follows_run Carried.refl (fun h => h.id) (respects_claimPending row.id answer.now)
    have hmoved := Update.change_mem_run hrow hguard
    have hledger := h.ledger.onward hrows
    refine h.goesOn hcall { store with
      rows := (claimPending row.id answer.now).run store.rows
      claims := store.claims ++ [(row.id, answer.now)] } ⟨hledger.nodup, hledger.intact,
        hledger.readable, ?_, fun claim hclaim => ?_, hledger.executed, fun execution hexecution => ?_⟩
      (fun other call' hne hstore => ?_) ?_ ?_
    · rw [map_append]
      exact nodup_append.mpr ⟨h.ledger.once, by simp, by
        rintro key hkey _ hlast rfl
        exact hnew (by simpa [mem_singleton.mp hlast] using hkey)⟩
    · obtain hold | hlast := mem_append.mp hclaim
      · exact hledger.claimed claim hold
      · obtain rfl := mem_singleton.mp hlast
        exact ⟨_, hmoved, rfl, hexpires, trivial⟩
    · obtain ⟨hclaimed, hpermitted⟩ := hledger.permitted execution hexecution
      exact ⟨by simp [hclaimed], hpermitted⟩
    · have hfits := (h.fits other call' hstore).onward h.ledger hrows (by simp)
      exact ⟨fun id hid => by simp [hfits.claimed id hid], hfits.unexecuted, hfits.unmarked,
        hfits.marked, hfits.payload, hfits.intact⟩
    · rintro _ ⟨⟩
      refine ⟨fun id hid => ?_, fun id hid hexecuted => ?_, fun id hid after hafter hkey => ?_,
        by simp [Call.markedId], by simp [Call.payload], by simp⟩
      · obtain rfl := Option.some.inj hid
        simp
      · obtain rfl := Option.some.inj hid
        obtain ⟨execution, hexecution, heq⟩ := mem_map.mp hexecuted
        exact hnew (heq ▸ (h.ledger.permitted execution hexecution).1)
      · obtain rfl := Option.some.inj hid
        rw [eq_of_key hledger.nodup hafter hmoved hkey]
        simp [claimPending]
    · rintro _ id ⟨⟩ hid
      obtain rfl := Option.some.inj hid
      exact .inr hnew
  · exact h.idle hcall (by simp)

lemma Sound.markNext (h : Sound codec digest store)
    (hcall : store.calls caller = some (.mark claimed)) :
    Sound codec digest { (store.markNext answer claimed).1 with
      calls := Function.update store.calls caller (store.markNext answer claimed).2 } := by
  have hfits := h.fits caller _ hcall
  rw [Store.markNext]
  split
  · rename_i haffects
    obtain ⟨row, hrow, hguard⟩ := any_eq_true.mp haffects.2
    have hkey : row.id = claimed.id ∧ row.state = .claimed := by simpa [markExecuting] using hguard
    have hrows : Onward codec digest (some claimed.id) none store.rows
        ((markExecuting claimed.id).run store.rows) :=
      follows_run Carried.refl (fun h => h.id) (respects_markExecuting claimed.id)
    have hledger := h.ledger.onward hrows
    refine h.onward hcall hrows (by simp [Call.claimedId]) ?_ ?_
    · rintro _ ⟨⟩
      refine ⟨hfits.claimed, hfits.unexecuted, by simp [Call.unmarkedId],
        fun id hid row' hrow' hkey' => ?_,
        fun claimed' hclaimed => ?_, by simp⟩
      · obtain rfl := Option.some.inj hid
        rw [eq_of_key hledger.nodup hrow' (Update.change_mem_run hrow hguard) (hkey'.trans hkey.1.symm)]
        simp [markExecuting]
      · obtain ⟨before, hbefore, hid, hparse⟩ := hfits.payload claimed' hclaimed
        obtain ⟨after, hafter, hcarried⟩ := hrows.forward before hbefore
        exact ⟨after, hafter, hcarried.id.trans hid, hcarried.canonicalArgs ▸ hparse⟩
    · rintro _ id ⟨⟩ hid
      exact hid
  · exact h.idle hcall (by simp)

lemma Sound.beginNext (h : Sound codec digest store)
    (hcall : store.calls caller = some (.beginTool claimed)) :
    Sound codec digest { (store.beginNext answer claimed).1 with
      calls := Function.update store.calls caller (store.beginNext answer claimed).2 } := by
  have hfits := h.fits caller _ hcall
  have hnew := hfits.unexecuted claimed.id rfl
  rw [Store.beginNext]
  split
  · refine h.goesOn hcall { store with
      executions := store.executions ++ [(claimed.id, claimed.canonicalArgs)] }
      ⟨h.ledger.nodup, h.ledger.intact, h.ledger.readable, h.ledger.once, h.ledger.claimed, ?_,
        fun execution hexecution => ?_⟩ (fun other call' hne hstore => ?_) ?_ ?_
    · rw [map_append]
      exact nodup_append.mpr ⟨h.ledger.executed, by simp, by
        rintro key hkey _ hlast rfl
        exact hnew (by simpa [mem_singleton.mp hlast] using hkey)⟩
    · obtain hold | hlast := mem_append.mp hexecution
      · exact h.ledger.permitted execution hold
      · obtain rfl := mem_singleton.mp hlast
        exact ⟨hfits.claimed claimed.id rfl, hfits.payload claimed rfl⟩
    · have hother := h.fits other call' hstore
      refine ⟨hother.claimed, fun id hid hexecuted => ?_, hother.unmarked, hother.marked,
        hother.payload, hother.intact⟩
      rw [map_append] at hexecuted
      obtain hold | hlast := mem_append.mp hexecuted
      · exact hother.unexecuted id hid hold
      · obtain rfl := mem_singleton.mp hlast
        exact hne (h.apart _ _ _ _ claimed.id hstore hcall (Call.claimedId_of_unexecutedId hid) rfl)
    · rintro _ ⟨⟩
      exact ⟨hfits.claimed, by simp [Call.unexecutedId], by simp [Call.unmarkedId], hfits.marked,
        hfits.payload, by simp⟩
    · rintro _ id ⟨⟩ hid
      exact .inl hid
  · refine h.stays hcall ?_ ?_
    · rintro _ ⟨⟩
      exact hfits.next (fun _ h => h) (by simp [Call.unexecutedId]) (by simp [Call.unmarkedId])
        (by simp [Call.markedId]) (by simp [Call.payload]) (by simp)
    · rintro _ id ⟨⟩ hid
      exact hid

section decidable

variable [DecidableEq D]

lemma Sound.insert (h : Sound codec digest store) {answer : Answer N} {clientId tool : String}
    {args : Value N} (hcall : store.calls caller = some (.createInsert clientId tool args)) :
    Sound codec digest { (store.insert codec digest answer clientId tool args).1 with
      calls := Function.update store.calls caller
        (store.insert codec digest answer clientId tool args).2 } := by
  rw [Store.insert]
  split
  · exact h.idle hcall (by simp)
  · rename_i hinserts
    split
    · refine h.idle hcall ?_
      rintro _ ⟨⟩
      rfl
    · refine h.onward hcall (onward_append ⟨rfl, rfl, args, rfl, rfl⟩ fun hmem => ?_) (by simp) ?_ ?_
      · obtain ⟨row, hrow, hkey⟩ := mem_map.mp hmem
        have hnone : answer.fails = false ∧ ∀ row ∈ store.rows, ¬ row.id = answer.uuid := by
          simpa using hinserts
        exact hnone.2 row hrow hkey
      · rintro _ ⟨⟩
        exact fits_of_claimedId_none rfl
      · rintro _ id ⟨⟩ hid
        exact hid

lemma Sound.readClaimed (h : Sound codec digest store) {answer : Answer N} {id : String}
    (hcall : store.calls caller = some (.claimRead id)) :
    Sound codec digest { store with
      calls := Function.update store.calls caller (store.readClaimed codec digest answer id) } := by
  have hfits := h.fits caller _ hcall
  have hidle : Sound codec digest { store with calls := Function.update store.calls caller none } :=
    h.idle hcall (by simp)
  rw [Store.readClaimed]
  split
  · exact hidle
  · cases hrow : store.row id with
    | none => exact hidle
    | some row =>
      have hmem : row ∈ store.rows := mem_of_find?_eq_some hrow
      have hkey : row.id = id := by simpa using List.find?_some hrow
      dsimp only
      rw [if_neg (fun hne => hne (h.ledger.intact row hmem).symm)]
      cases hparse : codec.parse row.canonicalArgs with
      | none =>
        refine h.stays hcall ?_ ?_
        · rintro _ ⟨⟩
          exact hfits.next (fun _ h => h) (by simp [Call.unexecutedId]) (fun _ h => h)
            (by simp [Call.markedId]) (by simp [Call.payload]) (by simp)
        · rintro _ id ⟨⟩ hid
          exact hid
      | some args =>
        refine h.stays hcall ?_ ?_
        · rintro _ ⟨⟩
          refine ⟨hfits.claimed, hfits.unexecuted, hfits.unmarked, by simp [Call.markedId],
            fun claimed hclaimed => ?_, by simp⟩
          obtain rfl := Option.some.inj hclaimed
          exact ⟨row, hmem, hkey, hparse⟩
        · rintro _ id ⟨⟩ hid
          exact hid

lemma Sound.made (h : Sound codec digest store) (hreads : codec.Reads) (answer : Answer N)
    (hcall : store.calls caller = some call) :
    Sound codec digest { (store.next codec digest answer call).1 with
      calls := Function.update store.calls caller (store.next codec digest answer call).2 } := by
  have hfits := h.fits caller call hcall
  cases call with
  | createInsert clientId tool args => exact h.insert hcall
  | createRead clientId tool digest | viewRead id clientId =>
    refine h.idle hcall fun call' hnext => ?_
    obtain ⟨_, hfound⟩ := Option.ite_none_left_eq_some.mp hnext
    exact claimedId_handle hfound
  | lazyExpire id => exact h.run_none hcall (respects_expire id) answer.fails
  | deny id => exact h.run_none hcall (respects_denyPending id) answer.fails
  | claim id => exact h.claimUpdate hcall
  | claimRead id => exact h.readClaimed hcall
  | failIntegrity id => exact absurd rfl (hfits.intact id)
  | failParse id =>
    exact h.run_none hcall (respects_failClaimed id ⟨_, rfl, hreads.failures _ (by simp)⟩)
      answer.fails
  | permit claimed =>
    refine h.stays hcall (fun call' hnext => ?_) fun call' id hnext hid => ?_
    · obtain ⟨refusal, rfl⟩ | rfl := permitNext_eq hnext
      · exact hfits.next (fun _ h => h) (by simp [Call.unexecutedId]) (by simp [Call.unmarkedId])
          (by simp [Call.markedId]) (by simp [Call.payload]) (by simp)
      · exact hfits.next (fun _ h => h) (fun _ h => h) (fun _ h => h) (by simp [Call.markedId])
          (fun _ h => h) (by simp)
    · obtain ⟨refusal, rfl⟩ | rfl := permitNext_eq hnext <;> exact hid
  | mark claimed => exact h.markNext hcall
  | beginTool claimed => exact h.beginNext hcall
  | running claimed =>
    refine h.stays hcall ?_ ?_
    · rintro _ ⟨⟩
      exact hfits.next (fun _ h => h) (by simp [Call.unexecutedId]) (by simp [Call.unmarkedId])
        (fun _ h => h) (by simp [Call.payload]) (by simp)
    · rintro _ id ⟨⟩ hid
      exact hid
  | finish id ok result =>
    exact h.run_none hcall (respects_finishExecuting id ok (hreads.sanitizeValue result)) answer.fails
  | failMark id refusal =>
    refine h.run hcall (respects_markExecuting id) (by simp [Call.claimedId]) answer.fails ?_ ?_
    · rintro _ ⟨⟩
      refine ⟨fun id hid => ?_, by simp [Call.unexecutedId], by simp [Call.unmarkedId],
        by simp [Call.markedId], by simp [Call.payload], by simp⟩
      rw [claims_run]
      exact hfits.claimed id hid
    · rintro _ id ⟨⟩ hid
      exact hid
  | failFinish id refusal =>
    exact h.run_none hcall (respects_finishExecuting id false (hreads.sanitizeValue refusal.result))
      answer.fails
  | sweep | recoverExpired => exact h.run_none hcall (respects_expireOverdue answer.now) answer.fails
  | recoverFailed =>
    have hrespects : failInterrupted.Respects (Carried (D := D) codec none) :=
      respects_failInterrupted hreads
    refine h.run hcall hrespects (by simp) answer.fails
      (fun call' hnext => ?_) fun call' id hnext hid => ?_
    · obtain ⟨_, ⟨⟩⟩ := Option.ite_none_left_eq_some.mp hnext
      exact fits_of_claimedId_none rfl
    · obtain ⟨_, ⟨⟩⟩ := Option.ite_none_left_eq_some.mp hnext
      exact hid

lemma sound_step (hreads : codec.Reads) (event : Store.Event D N) (h : Sound codec digest store) :
    Sound codec digest (store.step codec digest event) := by
  cases event with
  | begins caller call =>
    rw [Store.step]
    split
    · rename_i hbegins
      have hnone : call.claimedId = none := claimedId_of_isEntry hbegins.2
      have hcalls : ∀ other call' id, Function.update store.calls caller (some call) other =
          some call' →
          call'.claimedId = some id → store.calls other = some call' := by
        intro other call' id hother hid
        by_cases heq : other = caller
        · subst heq
          obtain rfl : call = call' := by simpa using hother
          simp [hnone] at hid
        · simpa [heq] using hother
      refine ⟨⟨h.ledger.nodup, h.ledger.intact, h.ledger.readable, h.ledger.once, h.ledger.claimed,
        h.ledger.executed, h.ledger.permitted⟩, fun other call' hother => ?_,
        fun first second call₁ call₂ id hfirst hsecond hid₁ hid₂ =>
          h.apart first second call₁ call₂ id (hcalls first call₁ id hfirst hid₁)
            (hcalls second call₂ id hsecond hid₂) hid₁ hid₂⟩
      cases hid : call'.claimedId with
      | none => exact fits_of_claimedId_none hid
      | some id =>
        have hfits := h.fits other call' (hcalls other call' id hother hid)
        exact ⟨hfits.claimed, hfits.unexecuted, hfits.unmarked, hfits.marked, hfits.payload,
          hfits.intact⟩
    · exact h
  | goesOn caller answer =>
    rw [Store.step, Store.goesOn]
    split
    · exact h
    · rename_i call hcall
      exact h.made hreads answer hcall
  | dropped caller =>
    exact h.fewer fun other call' hother => by
      by_cases heq : other = caller
      · simp [heq] at hother
      · simpa [heq] using hother
  | crashed => exact h.fewer fun other call' hother => by simp at hother

end decidable

end sound

end Dripline.AgentControl

import Mathlib
import Dripline.Found.Trace
import Dripline.Found.Updates

/-!
# The main wallet

`wallets/database/wallet_queries.rs`, `wallets/manager/crud.rs`. The table holds the wallets of one
chain, to which every statement is limited; statements do not fail, and a transaction is one step.

* `consistent_iff` — exactly the runs of careful operations stay consistent.

A source without a file is in `wallet_queries.rs`, where a definition without a comment is the one
of its name.
-/

namespace Dripline.Wallets.MainWallet

open Dripline.Found.Trace (Throughout)
open Dripline.Found.Updates List

/-- Source: `wallets/types.rs`, `WalletRole` -/
inductive Role
  | main
  | secondary
  | archive
  deriving DecidableEq

/-- Source: `wallets/types.rs` -/
structure Wallet where
  id : ℤ
  name : String
  notes : Option String
  role : Role
  isActive : Bool
  deriving DecidableEq

/-- Source: `wallets/error.rs` -/
inductive Error
  | walletNotFound (address : String)
  | invalidWalletState (id : ℤ) (detail : String)

/-- The error for an id that no wallet has. -/
def notFound (id : ℤ) : Error := .walletNotFound s!"id={id}"

/-! ## The database -/

section Database

variable (wallets : List Wallet) (id : ℤ)

def getWallet : Option Wallet := wallets.find? (·.id = id)

def getMainWallet : Option Wallet := wallets.find? fun wallet => wallet.role = .main && wallet.isActive

/-- `UPDATE wallets SET role = 'secondary' WHERE role = 'main'`. -/
def unsetMain : Update Wallet where
  guard := (·.role = .main)
  change := fun wallet => { wallet with role := .secondary }

/-- `UPDATE wallets SET role = 'main' WHERE id = ? AND is_active = 1`. -/
def promote : Update Wallet where
  guard := fun wallet => wallet.id = id && wallet.isActive
  change := fun wallet => { wallet with role := .main }

def setMainWallet : Except Error (List Wallet) :=
  if (promote id).affects (unsetMain.run wallets) then
    .ok ((promote id).run (unsetMain.run wallets))
  else .error (notFound id)

/-- `UPDATE wallets SET ... WHERE id = ?`, of the columns that are given. -/
def assign (name notes : Option String) (role : Option Role) : Update Wallet where
  guard := (·.id = id)
  change := fun wallet =>
    { wallet with
      name := name.getD wallet.name
      notes := notes <|> wallet.notes
      role := role.getD wallet.role }

def updateWallet (name notes : Option String) (role : Option Role) : List Wallet :=
  if name = none ∧ notes = none ∧ role = none then wallets
  else (assign id name notes role).run (if role = some .main then unsetMain.run wallets else wallets)

/-- Source: `wallet_queries.rs`, the check of `archive_wallet` and `delete_wallet` -/
def isMain : Bool := (getWallet wallets id).any (·.role = .main)

/-- `UPDATE wallets SET is_active = ?, role = ? WHERE id = ?`. -/
def activate (active : Bool) (role : Role) : Update Wallet where
  guard := (·.id = id)
  change := fun wallet => { wallet with isActive := active, role := role }

def archiveWallet : Except Error (List Wallet) :=
  if isMain wallets id then
    .error (.invalidWalletState id "cannot archive the main wallet; set another wallet as main first")
  else .ok ((activate id false .archive).run wallets)

def restoreWallet : Except Error (List Wallet) :=
  match getWallet wallets id with
  | none => .error (notFound id)
  | some wallet =>
    if wallet.isActive then .error (.invalidWalletState id "wallet is not archived")
    else .ok ((activate id true .secondary).run wallets)

def deleteWallet : Except Error (List Wallet) :=
  if isMain wallets id then
    .error (.invalidWalletState id "cannot delete the main wallet; set another wallet as main first")
  else .ok (wallets.filter (·.id ≠ id))

end Database

/-! ## The manager -/

/-- Source: `wallet_queries.rs`, the table; `manager/cache.rs`, `MAIN_WALLET_CACHE` -/
structure State where
  wallets : List Wallet
  cache : Option Wallet

/-- Source: `manager/crud.rs`, the operations on a wallet -/
inductive Operation
  | update (id : ℤ) (name notes : Option String) (role : Option Role)
  | setMain (id : ℤ)
  | archive (id : ℤ)
  | restore (id : ℤ)
  | delete (id : ℤ)

/-- The cached wallet is read again. Source: `manager/cache.rs`, `refresh_main_wallet_cache` -/
def refresh (wallets : List Wallet) : State := ⟨wallets, getMainWallet wallets⟩

/-- An operation that is there for wallets that are; the cache is left. Source: `manager/crud.rs`,
`archive_wallet`, `restore_wallet`, `delete_wallet` -/
def checked (state : State) (id : ℤ) (operation : List Wallet → ℤ → Except Error (List Wallet)) :
    State × Except Error Unit :=
  match getWallet state.wallets id with
  | none => (state, .error (notFound id))
  | some _ =>
    match operation state.wallets id with
    | .error error => (state, .error error)
    | .ok wallets => ({ state with wallets := wallets }, .ok ())

/-- What an operation answers that ends with reading its wallet. -/
def answer (state : State) (id : ℤ) : State × Except Error Unit :=
  (state, if (getWallet state.wallets id).isSome then .ok () else .error (notFound id))

/-- One operation. Source: `manager/crud.rs`, `update_wallet`, `set_main_wallet`, `archive_wallet`,
`restore_wallet`, `delete_wallet` -/
def perform (state : State) : Operation → State × Except Error Unit
  | .update id name notes role =>
    let wallets := updateWallet state.wallets id name notes role
    answer (if role = some .main then refresh wallets else { state with wallets := wallets }) id
  | .setMain id =>
    match setMainWallet state.wallets id with
    | .error error => (state, .error error)
    | .ok wallets =>
      -- the wallet is read before the cache is refreshed
      if (getWallet wallets id).isSome then (refresh wallets, .ok ())
      else ({ state with wallets := wallets }, .error (notFound id))
  | .archive id => checked state id archiveWallet
  | .restore id => checked state id restoreWallet
  | .delete id => checked state id deleteWallet

/-- The state after an operation. -/
def step (state : State) (operation : Operation) : State := (perform state operation).1

/-- What the wallets are: their roles, and whether they are active. -/
def standing (state : State) : List (ℤ × Role × Bool) :=
  state.wallets.map fun wallet => (wallet.id, wallet.role, wallet.isActive)

/-- **Consistent**: one wallet is main, it is active and cached, and the wallets that are not active
are those in the archive. -/
structure Consistent (state : State) : Prop where
  keys : (state.wallets.map Wallet.id).Nodup
  main : ∃ wallet ∈ state.wallets, wallet.role = .main ∧ wallet.isActive = true ∧
    state.cache.map Wallet.id = some wallet.id ∧
    ∀ other ∈ state.wallets, other.role = .main → other = wallet
  archived : ∀ wallet ∈ state.wallets, wallet.role = .archive ↔ wallet.isActive = false

/-- **An operation upholds** the main wallet: the state after it is consistent, and an error leaves
the roles of the wallets, and whether they are active, as they were. -/
def Upholds (state : State) (operation : Operation) : Prop :=
  Consistent (step state operation) ∧
    ∀ error, (perform state operation).2 = .error error →
      standing (step state operation) = standing state

/-- A careful operation: only an active wallet is made main by an update, and another role is
written to a wallet that has it only. -/
def Careful (state : State) : Operation → Prop
  | .update id _ _ (some .main) => ∃ wallet ∈ state.wallets, wallet.id = id ∧ wallet.isActive = true
  | .update id _ _ (some role) => ∀ wallet ∈ state.wallets, wallet.id = id → wallet.role = role
  | _ => True

/-! ## What an operation keeps -/

section Run

variable {state : State} {id : ℤ} {wallet : Wallet}

lemma Consistent.eq_of_id (h : Consistent state) {other : Wallet} (hwallet : wallet ∈ state.wallets)
    (hother : other ∈ state.wallets) (hid : wallet.id = other.id) : wallet = other :=
  eq_of_key h.keys hwallet hother hid

variable {wallets : List Wallet}

lemma getWallet_eq_some (h : getWallet wallets id = some wallet) :
    wallet ∈ wallets ∧ wallet.id = id := by
  unfold getWallet at h
  exact ⟨mem_of_find?_eq_some h, by simpa using List.find?_some h⟩

lemma getWallet_eq_none : getWallet wallets id = none ↔ ∀ wallet ∈ wallets, wallet.id ≠ id := by
  simp [getWallet, List.find?_eq_none]

lemma Consistent.map (h : Consistent state) (change : Wallet → Wallet)
    (hid : ∀ wallet ∈ state.wallets, (change wallet).id = wallet.id)
    (hmain : ∀ wallet ∈ state.wallets, (change wallet).role = .main ↔ wallet.role = .main)
    (hactive : ∀ wallet ∈ state.wallets, wallet.role = .main → (change wallet).isActive = true)
    (harchived : ∀ wallet ∈ state.wallets,
      (change wallet).role = .archive ↔ (change wallet).isActive = false) :
    Consistent { state with wallets := state.wallets.map change } where
  keys := by
    rw [map_map]
    exact (map_congr_left hid).symm ▸ h.keys
  main := by
    obtain ⟨wallet, hwallet, hrole, -, hcache, honly⟩ := h.main
    refine ⟨change wallet, mem_map_of_mem hwallet, (hmain wallet hwallet).mpr hrole,
      hactive wallet hwallet hrole, hcache.trans (congrArg some (hid wallet hwallet).symm), ?_⟩
    intro other hother hother'
    obtain ⟨before, hbefore, rfl⟩ := mem_map.mp hother
    rw [honly before hbefore ((hmain before hbefore).mp hother')]
  archived := by
    intro wallet hwallet
    obtain ⟨before, hbefore, rfl⟩ := mem_map.mp hwallet
    exact harchived before hbefore

lemma Consistent.promoted (h : Consistent state) (hwallet : wallet ∈ state.wallets)
    (hactive : wallet.isActive = true) (change : Wallet → Wallet)
    (hid : ∀ other ∈ state.wallets, (change other).id = other.id)
    (hsame : ∀ other ∈ state.wallets, (change other).isActive = other.isActive)
    (hrole : ∀ other ∈ state.wallets, (change other).role = if other.id =
      wallet.id then .main else if other.role = .main then .secondary else other.role) :
    Consistent (refresh (state.wallets.map change)) := by
  have hmain : (change wallet).role = .main := by rw [hrole wallet hwallet, if_pos rfl]
  have hactive' : (change wallet).isActive = true := (hsame wallet hwallet).trans hactive
  -- nobody else is main
  have honly : ∀ other ∈ state.wallets.map change, other.role = .main → other = change wallet := by
    intro other hother hother'
    obtain ⟨before, hbefore, rfl⟩ := mem_map.mp hother
    rw [hrole before hbefore] at hother'
    split_ifs at hother' with hsameId hwasMain
    · rw [h.eq_of_id hbefore hwallet hsameId]
    · exact absurd hother' hwasMain
  have hcached : getMainWallet (state.wallets.map change) = some (change wallet) := by
    cases hfound : getMainWallet (state.wallets.map change) with
    | none =>
      have hnone := List.find?_eq_none.mp hfound _ (mem_map_of_mem hwallet)
      simp [hmain, hactive'] at hnone
    | some other =>
      have hother := List.find?_some hfound
      rw [Bool.and_eq_true, decide_eq_true_eq] at hother
      rw [honly other (mem_of_find?_eq_some hfound) hother.1]
  constructor
  case keys =>
    show ((state.wallets.map change).map Wallet.id).Nodup
    rw [map_map]
    exact (map_congr_left hid).symm ▸ h.keys
  case main =>
    exact ⟨change wallet, mem_map_of_mem hwallet, hmain, hactive',
      congrArg (Option.map Wallet.id) hcached, honly⟩
  case archived =>
    intro other hother
    obtain ⟨before, hbefore, rfl⟩ := mem_map.mp hother
    rw [hrole before hbefore, hsame before hbefore]
    split_ifs with hsameId hwasMain
    · rw [h.eq_of_id hbefore hwallet hsameId, hactive]
      simp
    · -- the wallet that was main is active
      obtain ⟨main, -, -, hmainActive, -, hmainOnly⟩ := h.main
      rw [hmainOnly before hbefore hwasMain, hmainActive]
      simp
    · exact h.archived before hbefore

lemma Consistent.active_of_main (h : Consistent state) (hwallet : wallet ∈ state.wallets)
    (hrole : wallet.role = .main) : wallet.isActive = true := by
  obtain ⟨main, -, -, hactive, -, honly⟩ := h.main
  rw [honly wallet hwallet hrole]
  exact hactive

/-! ## The operations -/

/-- A wallet that is no longer main. -/
def unset (wallet : Wallet) : Wallet :=
  if wallet.role = .main then { wallet with role := .secondary } else wallet

lemma unset_spec (wallet : Wallet) :
    (unset wallet).id = wallet.id ∧ (unset wallet).isActive = wallet.isActive ∧
      (unset wallet).role = if wallet.role = .main then .secondary else wallet.role := by
  unfold unset
  split_ifs
  · exact ⟨rfl, rfl, rfl⟩
  · exact ⟨rfl, rfl, rfl⟩

lemma run_unsetMain (wallets : List Wallet) : unsetMain.run wallets = wallets.map unset := by
  apply map_congr_left
  intro wallet _
  by_cases hmain : wallet.role = .main
  · simp [unsetMain, unset, hmain]
  · simp [unsetMain, unset, hmain]

lemma Consistent.promoted_run (h : Consistent state) (hwallet : wallet ∈ state.wallets)
    (hactive : wallet.isActive = true) (update : Update Wallet)
    (hguard : ∀ row, update.guard row = true → row.id = wallet.id)
    (hguarded : ∀ row, row.id = wallet.id → row.isActive = true → update.guard row = true)
    (hid : ∀ row, (update.change row).id = row.id)
    (hsame : ∀ row, (update.change row).isActive = row.isActive)
    (hrole : ∀ row, (update.change row).role = .main) :
    Consistent (refresh (update.run (unsetMain.run state.wallets))) := by
  rw [run_unsetMain, Update.run, map_map]
  refine h.promoted hwallet hactive _ ?_ ?_ ?_
  · intro row _
    rw [Function.comp_apply, ← (unset_spec row).1]
    split_ifs
    · exact hid _
    · rfl
  · intro row _
    rw [Function.comp_apply, ← (unset_spec row).2.1]
    split_ifs
    · exact hsame _
    · rfl
  · intro row hrow
    rw [Function.comp_apply]
    by_cases hsameId : row.id = wallet.id
    · have hrowActive : row.isActive = true := by
        rw [h.eq_of_id hrow hwallet hsameId]
        exact hactive
      rw [if_pos hsameId, if_pos, hrole]
      exact hguarded _ ((unset_spec row).1.trans hsameId) ((unset_spec row).2.1.trans hrowActive)
    · rw [if_neg hsameId, if_neg, (unset_spec row).2.2]
      intro hguard'
      exact hsameId ((unset_spec row).1.symm.trans (hguard _ hguard'))

/-! ## The operations -/

lemma affects_promote :
    (promote id).affects (unsetMain.run wallets) = true ↔
      ∃ wallet ∈ wallets, wallet.id = id ∧ wallet.isActive = true := by
  unfold Update.affects
  rw [any_eq_true]
  constructor
  · rintro ⟨after, hafter, hguard⟩
    obtain ⟨wallet, hwallet, rfl⟩ := Update.mem_run.mp hafter
    rw [promote, Bool.and_eq_true, decide_eq_true_eq] at hguard
    refine ⟨wallet, hwallet, ?_⟩
    split_ifs at hguard
    · exact hguard
    · exact hguard
  · rintro ⟨wallet, hwallet, hid, hactive⟩
    refine ⟨_, Update.mem_run.mpr ⟨wallet, hwallet, rfl⟩, ?_⟩
    rw [promote, Bool.and_eq_true, decide_eq_true_eq]
    split_ifs
    · exact ⟨hid, hactive⟩
    · exact ⟨hid, hactive⟩

lemma Consistent.setMain (h : Consistent state) (id : ℤ) : Upholds state (.setMain id) := by
  by_cases haffects : (promote id).affects (unsetMain.run state.wallets) = true
  · obtain ⟨wallet, hwallet, rfl, hactive⟩ := affects_promote.mp haffects
    have hconsistent := h.promoted_run hwallet hactive (promote wallet.id)
      (fun row hguard => by
        simp only [promote, Bool.and_eq_true, decide_eq_true_eq] at hguard
        exact hguard.1)
      (fun row hrow hrowActive => by simp [promote, hrow, hrowActive])
      (fun _ => rfl) (fun _ => rfl) (fun _ => rfl)
    have hfound : (getWallet ((promote wallet.id).run (unsetMain.run state.wallets))
        wallet.id).isSome = true := by
      apply Option.isSome_iff_ne_none.mpr
      intro hnone
      obtain ⟨row, hrow, hguard⟩ := any_eq_true.mp haffects
      rw [promote, Bool.and_eq_true, decide_eq_true_eq] at hguard
      exact getWallet_eq_none.mp hnone _ (Update.change_mem_run hrow (by simp [promote, hguard]))
        hguard.1
    have hperform : perform state (.setMain wallet.id) =
        (refresh ((promote wallet.id).run (unsetMain.run state.wallets)), .ok ()) := by
      simp only [perform, setMainWallet, if_pos haffects, if_pos hfound]
    refine ⟨?_, ?_⟩
    · rw [step, hperform]
      exact hconsistent
    · intro error herror
      rw [hperform] at herror
      cases herror
  · have hperform : perform state (.setMain id) = (state, .error (notFound id)) := by
      simp only [perform, setMainWallet, if_neg haffects]
    refine ⟨?_, fun _ _ => ?_⟩
    · rw [step, hperform]
      exact h
    · rw [step, hperform]

variable {operation : Operation}

section

variable (h : Consistent state)
include h

lemma upholds_checked {perform' : List Wallet → ℤ → Except Error (List Wallet)}
    (hperform : perform state operation = checked state id perform')
    (hkeeps : ∀ wallets, perform' state.wallets id = .ok wallets →
      Consistent { state with wallets := wallets }) :
    Upholds state operation := by
  unfold Upholds step
  rw [hperform]
  unfold checked
  cases hwallet : getWallet state.wallets id with
  | none => exact ⟨h, fun _ _ => rfl⟩
  | some wallet =>
    dsimp only
    cases hresult : perform' state.wallets id with
    | error error => exact ⟨h, fun _ _ => rfl⟩
    | ok wallets => exact ⟨hkeeps wallets hresult, fun error herror => by cases herror⟩

lemma Consistent.not_main (hnot : ¬isMain state.wallets id = true)
    (hwallet : wallet ∈ state.wallets) (hid : wallet.id = id) : wallet.role ≠ .main := by
  intro hrole
  apply hnot
  unfold isMain
  cases hfound : getWallet state.wallets id with
  | none => exact absurd hid (getWallet_eq_none.mp hfound wallet hwallet)
  | some found =>
    obtain ⟨hmem, hfoundId⟩ := getWallet_eq_some hfound
    rw [h.eq_of_id hmem hwallet (hfoundId.trans hid.symm)]
    simpa using hrole

lemma Consistent.activate {active : Bool} {role : Role} (hrole : role ≠ .main)
    (harchive : role = .archive ↔ active = false)
    (hnot : ∀ wallet ∈ state.wallets, wallet.id = id → wallet.role ≠ .main) :
    Consistent { state with wallets := (activate id active role).run state.wallets } := by
  refine h.map _ ?_ ?_ ?_ ?_
  · intro wallet _
    split_ifs
    · rfl
    · rfl
  · intro wallet hwallet
    split_ifs with hguard
    · have hid : wallet.id = id := by simpa [MainWallet.activate] using hguard
      exact ⟨fun hmain => absurd hmain hrole, fun hmain => absurd hmain (hnot wallet hwallet hid)⟩
    · rfl
  · intro wallet hwallet hmain
    split_ifs with hguard
    · have hid : wallet.id = id := by simpa [MainWallet.activate] using hguard
      exact absurd hmain (hnot wallet hwallet hid)
    · exact h.active_of_main hwallet hmain
  · intro wallet hwallet
    split_ifs
    · exact harchive
    · exact h.archived wallet hwallet

lemma Consistent.archive (id : ℤ) : Upholds state (.archive id) := by
  refine upholds_checked h rfl ?_
  intro wallets hresult
  unfold archiveWallet at hresult
  split_ifs at hresult with hmain
  obtain rfl := Except.ok.inj hresult
  exact h.activate (by decide) (by decide) fun wallet hwallet => h.not_main hmain hwallet

lemma Consistent.restore (id : ℤ) : Upholds state (.restore id) := by
  refine upholds_checked h rfl ?_
  intro wallets hresult
  unfold restoreWallet at hresult
  cases hfound : getWallet state.wallets id with
  | none =>
    rw [hfound] at hresult
    cases hresult
  | some found =>
    rw [hfound] at hresult
    dsimp only at hresult
    split_ifs at hresult with hactive
    obtain rfl := Except.ok.inj hresult
    obtain ⟨hmem, hid⟩ := getWallet_eq_some hfound
    refine h.activate (by decide) (by decide) ?_
    intro wallet hwallet hwalletId hrole
    rw [h.eq_of_id hmem hwallet (hid.trans hwalletId.symm)] at hactive
    exact hactive (h.active_of_main hwallet hrole)

lemma Consistent.delete (id : ℤ) : Upholds state (.delete id) := by
  refine upholds_checked h rfl ?_
  intro wallets hresult
  unfold deleteWallet at hresult
  split_ifs at hresult with hmain
  obtain rfl := Except.ok.inj hresult
  constructor
  case keys => exact h.keys.sublist (filter_sublist.map _)
  case main =>
    obtain ⟨wallet, hwallet, hrole, hactive, hcache, honly⟩ := h.main
    refine ⟨wallet, mem_filter.mpr ⟨hwallet, ?_⟩, hrole, hactive, hcache, ?_⟩
    · apply decide_eq_true
      exact fun hid => h.not_main hmain hwallet hid hrole
    · exact fun other hother => honly other (mem_of_mem_filter hother)
  case archived => exact fun wallet hwallet => h.archived wallet (mem_of_mem_filter hwallet)

end

/-! ## Updates -/

lemma updateWallet_some (wallets : List Wallet) (id : ℤ) (name notes : Option String) (role : Role) :
    updateWallet wallets id name notes (some role) = (assign id name notes (some role)).run
      (if role = .main then unsetMain.run wallets else wallets) := by
  unfold updateWallet
  rw [if_neg]
  · simp only [Option.some.injEq]
  · rintro ⟨-, -, ⟨⟩⟩

variable {notes name : Option String}

lemma Consistent.update_main (h : Consistent state)
    (hcareful : Careful state (.update id name notes (some .main))) :
    Upholds state (.update id name notes (some .main)) := by
  obtain ⟨wallet, hwallet, rfl, hactive⟩ := hcareful
  have hconsistent := h.promoted_run hwallet hactive (assign wallet.id name notes (some .main))
    (fun row hguard => by simpa [assign] using hguard)
    (fun row hrow _ => by simpa [assign] using hrow) (fun _ => rfl) (fun _ => rfl) (fun _ => rfl)
  have hfound : (getWallet ((assign wallet.id name notes (some .main)).run
      (unsetMain.run state.wallets)) wallet.id).isSome = true := by
    apply Option.isSome_iff_ne_none.mpr
    intro hnone
    have hunset : unset wallet ∈ unsetMain.run state.wallets := by
      rw [run_unsetMain]
      exact mem_map_of_mem hwallet
    exact getWallet_eq_none.mp hnone _ (Update.change_mem_run hunset
      (by simpa [assign] using (unset_spec wallet).1)) (unset_spec wallet).1
  have hperform : perform state (.update wallet.id name notes (some .main)) =
      (refresh ((assign wallet.id name notes (some .main)).run (unsetMain.run state.wallets)),
        .ok ()) := by
    simp only [perform, updateWallet_some, if_true, answer]
    rw [if_pos]
    exact hfound
  refine ⟨?_, ?_⟩
  · rw [step, hperform]
    exact hconsistent
  · intro error herror
    rw [hperform] at herror
    cases herror

lemma Consistent.update_same (h : Consistent state) {role : Option Role} (hmain : role ≠ some .main)
    (hsame : ∀ wallet ∈ state.wallets, wallet.id = id → role.getD wallet.role = wallet.role) :
    Upholds state (.update id name notes role) := by
  have hstep : step state (.update id name notes role) =
      { state with wallets := updateWallet state.wallets id name notes role } := by
    simp only [step, perform, answer, if_neg hmain]
  -- a row keeps its id, its role and whether it is active
  obtain ⟨change, hchange, hkeeps⟩ : ∃ change : Wallet → Wallet,
      updateWallet state.wallets id name notes role = state.wallets.map change ∧
      ∀ wallet ∈ state.wallets, (change wallet).id = wallet.id ∧ (change wallet).role = wallet.role ∧
        (change wallet).isActive = wallet.isActive := by
    unfold updateWallet
    split_ifs
    · exact ⟨_, (map_id _).symm, fun _ _ => ⟨rfl, rfl, rfl⟩⟩
    · refine ⟨_, rfl, fun wallet hwallet => ?_⟩
      split_ifs with hguard
      · exact ⟨rfl, hsame wallet hwallet (by simpa [assign] using hguard), rfl⟩
      · exact ⟨rfl, rfl, rfl⟩
  rw [hchange] at hstep
  unfold Upholds
  rw [hstep]
  refine ⟨h.map change (fun wallet hwallet => (hkeeps wallet hwallet).1) ?_ ?_ ?_, fun _ _ => ?_⟩
  · intro wallet hwallet
    rw [(hkeeps wallet hwallet).2.1]
  · intro wallet hwallet hrole
    rw [(hkeeps wallet hwallet).2.2]
    exact h.active_of_main hwallet hrole
  · intro wallet hwallet
    rw [(hkeeps wallet hwallet).2.1, (hkeeps wallet hwallet).2.2]
    exact h.archived wallet hwallet
  · unfold standing
    rw [map_map]
    apply map_congr_left
    intro wallet hwallet
    obtain ⟨hid, hrole, hactive⟩ := hkeeps wallet hwallet
    rw [Function.comp_apply, hid, hrole, hactive]

lemma Consistent.upholds (h : Consistent state) (hcareful : Careful state operation) :
    Upholds state operation := by
  cases operation with
  | update id name notes role =>
    rcases role with _ | _ | _ | _
    · exact h.update_same (by rintro ⟨⟩) fun _ _ _ => rfl
    · exact h.update_main hcareful
    · exact h.update_same (by rintro ⟨⟩) fun wallet hwallet hid => (hcareful wallet hwallet hid).symm
    · exact h.update_same (by rintro ⟨⟩) fun wallet hwallet hid => (hcareful wallet hwallet hid).symm
  | setMain id => exact h.setMain id
  | archive id => exact h.archive id
  | restore id => exact h.restore id
  | delete id => exact h.delete id

lemma Consistent.careful (h : Consistent state) (hupholds : Consistent (step state operation)) :
    Careful state operation := by
  have hstep : ∀ {id name notes role}, role ≠ Role.main →
      (step state (.update id name notes (some role))).wallets =
        (assign id name notes (some role)).run state.wallets := by
    intro id name notes role hrole
    simp only [step, perform, answer, updateWallet_some, Option.some.injEq, if_neg hrole]
  cases operation with
  | update id name notes role =>
    rcases role with _ | _ | _ | _
    · trivial
    · -- the wallet that is main now has the id, and is active
      obtain ⟨main, hmain, hrole, hactive, -, -⟩ := hupholds.main
      have hstep : (step state (.update id name notes (some .main))).wallets =
          (assign id name notes (some .main)).run (state.wallets.map unset) := by
        simp only [step, perform, answer, updateWallet_some, if_true, refresh, run_unsetMain]
      rw [hstep] at hmain
      obtain ⟨row', hrow', rfl⟩ := Update.mem_run.mp hmain
      obtain ⟨row, hrow, rfl⟩ := mem_map.mp hrow'
      obtain ⟨hid, hsame, hunset⟩ := unset_spec row
      by_cases hguard : (assign id name notes (some .main)).guard (unset row) = true
      · rw [if_pos hguard] at hactive
        refine ⟨row, hrow, ?_, hsame.symm.trans hactive⟩
        rw [← hid]
        simpa [assign] using hguard
      · rw [if_neg hguard, hunset] at hrole
        split_ifs at hrole with hwas
        exact absurd hrole hwas
    · intro wallet hwallet hid
      have hafter := hupholds.archived ((assign id name notes (some .secondary)).change wallet) (by
        rw [hstep (by decide)]
        exact Update.change_mem_run hwallet (by simpa [assign] using hid))
      cases hrole : wallet.role with
      | secondary => rfl
      | archive =>
        exact absurd (hafter.mpr ((h.archived wallet hwallet).mp hrole)) (by rintro ⟨⟩)
      | main =>
        -- nobody is main after it
        obtain ⟨main, hmain, hmainRole, -, -, -⟩ := hupholds.main
        rw [hstep (by decide)] at hmain
        obtain ⟨row, hrow, rfl⟩ := Update.mem_run.mp hmain
        split_ifs at hmainRole with hguard
        · cases hmainRole
        · obtain ⟨first, -, -, -, -, honly⟩ := h.main
          rw [honly row hrow hmainRole, ← honly wallet hwallet hrole] at hguard
          exact absurd (by simpa [assign] using hid) hguard
    · intro wallet hwallet hid
      have hafter := hupholds.archived ((assign id name notes (some .archive)).change wallet) (by
        rw [hstep (by decide)]
        exact Update.change_mem_run hwallet (by simpa [assign] using hid))
      exact (h.archived wallet hwallet).mpr (hafter.mp rfl)
  | setMain id => trivial
  | archive id => trivial
  | restore id => trivial
  | delete id => trivial

/-- **One main wallet**, after every operation and whatever fails, in exactly the runs in which an
update makes only an active wallet main, and writes no other role to a wallet that has another. -/
theorem consistent_iff (operations : List Operation) (h : Consistent state) :
    Throughout step Upholds state operations ↔ Throughout step Careful state operations :=
  Dripline.Found.Trace.throughout_iff Consistent h
    (fun _ hstate _ _ => ⟨fun hupholds => hstate.careful hupholds.1, hstate.upholds⟩)
    fun _ _ _ _ hupholds => hupholds.1

end Run

/-- A main wallet and another one. -/
def pair : State where
  wallets := [⟨1, "main", none, .main, true⟩, ⟨2, "other", none, .secondary, true⟩]
  cache := some ⟨1, "main", none, .main, true⟩

lemma consistent_pair : Consistent pair where
  keys := by decide
  main := ⟨_, mem_cons_self, rfl, rfl, rfl, by decide⟩
  archived := by decide

/-- With a main wallet and another one, making the other one main by an update and archiving the
first upholds the main wallet. -/
theorem consistent_iff_pair :
    Throughout step Upholds pair [.update 2 none none (some .main), .archive 1] :=
  (consistent_iff [.update 2 none none (some .main), .archive 1] consistent_pair).mpr
    ⟨⟨_, mem_cons_of_mem _ mem_cons_self, rfl, rfl⟩, trivial, trivial⟩

/-- An update of a missing wallet to main fails, and no wallet is main after it; the main wallet can
be put in the archive, and stays active there. -/
theorem not_upholds :
    ¬Upholds pair (.update 3 none none (some .main)) ∧
      ¬Upholds pair (.update 1 none none (some .archive)) := by
  constructor
  · rintro ⟨h, -⟩
    obtain ⟨wallet, hwallet, hrole, -⟩ := h.main
    revert wallet
    decide
  · rintro ⟨h, -⟩
    exact absurd ((h.archived _ mem_cons_self).mp rfl) (by decide)

end Dripline.Wallets.MainWallet

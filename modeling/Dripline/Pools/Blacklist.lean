import Dripline.Pools.Analyzer
import Dripline.Found.Trace

/-!
# The blacklist of pools

`chains/solana/pools/{analyzer, calculator}.rs`, the loops; `pools/database/blacklist.rs`.

* `blacklists_permanently` — a run of careful events blacklists for nothing else.
-/

namespace Dripline.Pools

open Dripline.Found.Trace

/-! ## The monitor -/

/-- Source: `pools/database/blacklist.rs`, `add_pool_to_blacklist`, without the program and the
times -/
structure BlacklistEntry where
  poolId : Pubkey
  reason : String
  tokenMint : Pubkey
  deriving DecidableEq

/-- The descriptors that were stored, and the blacklist. -/
structure Monitor where
  analyzed : List PoolDescriptor
  blacklisted : List BlacklistEntry

/-- An analysis, with the answers of the RPC; or a calculation, with the mints whose decimals are
cached. Either meets a pools database that is there or not. -/
inductive Event
  | analyzes (message : AnalyzePool) (database : Bool) (owner pool : RpcAnswer)
  | calculates (descriptor : PoolDescriptor) (database : Bool) (bundle : PoolAccountBundle)
      (warm : Pubkey → Bool)

/-- The pool of an event. -/
def Event.poolId : Event → Pubkey
  | .analyzes message _ _ _ => message.poolId
  | .calculates descriptor _ _ _ => descriptor.poolId

/-- The decimals of a mint, where they are cached. -/
def cachedDecimals (decimals : Pubkey → ℕ) (warm : Pubkey → Bool) (mint : Pubkey) : Option ℕ :=
  if warm mint then some (decimals mint) else none

namespace Monitor

variable (monitor : Monitor)

/-- Nothing is analyzed. -/
def empty : Monitor := ⟨[], []⟩

/-- Source: `pools/database/blacklist.rs` -/
def isPoolBlacklisted (poolId : Pubkey) : Bool :=
  monitor.blacklisted.any fun entry => entry.poolId = poolId

/-- Source: `pools/database/global.rs`, `blacklist.rs`, `add_pool_to_blacklist` -/
def addPoolToBlacklist (database : Bool) (entry : BlacklistEntry) : Monitor :=
  if database = true ∧ monitor.isPoolBlacklisted entry.poolId = false then
    { monitor with blacklisted := monitor.blacklisted ++ [entry] }
  else monitor

/-- The descriptor is stored, or the pool is blacklisted. Source: `analyzer.rs`,
`start_analyzer_task` -/
def analyzes (message : AnalyzePool) (database : Bool) (owner pool : RpcAnswer) : Monitor :=
  if database = true ∧ monitor.isPoolBlacklisted message.poolId = true then monitor
  else
    match message.analyzePool owner pool with
    | some descriptor => { monitor with analyzed := monitor.analyzed ++ [descriptor] }
    | none =>
      monitor.addPoolToBlacklist database
        { poolId := message.poolId
          reason := "analysis_failed"
          tokenMint := if isSolMint message.baseMint then message.quoteMint else message.baseMint }

variable {K : Type} [Field K] [LinearOrder K] (powf : K → K → K) (decimals : Pubkey → ℕ)

/-- A pool without a price is blacklisted. Source: `calculator.rs`, `start_calculator_task` -/
def calculates (descriptor : PoolDescriptor) (database : Bool) (bundle : PoolAccountBundle)
    (warm : Pubkey → Bool) : Monitor :=
  match descriptor.calculatePoolPrice powf (cachedDecimals decimals warm) bundle with
  | .ok _ => monitor
  | .error _ =>
    monitor.addPoolToBlacklist database
      { poolId := descriptor.poolId
        reason := "decoder_failed"
        tokenMint := descriptor.targetMint }

/-- Only pools that were analyzed are calculated. -/
def step : Event → Monitor
  | .analyzes message database owner pool => monitor.analyzes message database owner pool
  | .calculates descriptor database bundle warm =>
    if descriptor ∈ monitor.analyzed then
      monitor.calculates powf decimals descriptor database bundle warm
    else monitor

end Monitor

/-! ## What the data shows -/

namespace PoolDescriptor

variable (descriptor : PoolDescriptor)

/-- The kind of a stored pool. -/
def kind : ProgramKind := ProgramKind.fromProtocolId descriptor.programKind

/-- All the accounts of a pool are there: those of its descriptor, and the vaults that its own
account names. -/
def Loaded (bundle : PoolAccountBundle) : Prop :=
  bundle.isComplete descriptor.reserveAccounts = true ∧
    ∃ account, bundle.accounts.get descriptor.poolId = some account ∧
      ∀ vaults, descriptor.kind.vaults account.data = some vaults →
        ∀ vault ∈ vaults, (bundle.accounts.get vault).isSome

end PoolDescriptor

/-- The kinds that are not analyzed without their account. -/
def ProgramKind.NeedsAccount (kind : ProgramKind) : Prop :=
  kind = .raydiumCpmm ∨ kind = .meteoraDlmm ∨ kind = .fluxbeamAmm

variable {K : Type} [Field K] [LinearOrder K] (powf : K → K → K) (decimals : Pubkey → ℕ)

/-- The data of the pool's own accounts, all of them loaded, shows that it cannot be priced: its
program is not supported, or names no vaults; or its decoder makes no price of it, with all the
decimals at hand. -/
def Shows : Event → Prop
  | .analyzes message _ owner pool => ∃ program, message.actualProgramId owner = some program ∧
      (ProgramKind.fromProgramId program = .unknown ∨
        ∃ account, pool = .found account ∧
          (ProgramKind.fromProgramId program).vaults account.data = none)
  | .calculates descriptor _ bundle _ => descriptor.Loaded bundle ∧
      descriptor.kind.decodePool powf (getCachedDecimals fun mint => some (decimals mint))
        bundle.accounts
        descriptor.targetMint solMint = none

/-- A pool is added to the blacklist only for what its data shows. -/
def Permanent (monitor : Monitor) (event : Event) : Prop :=
  ∀ entry ∈ (monitor.step powf decimals event).blacklisted,
    entry ∈ monitor.blacklisted ∨ entry.poolId = event.poolId ∧ Shows powf decimals event

/-- The accounts that an analysis asks for are returned; all the accounts of a pool that is
calculated are there, and the decimals that its decoder looks up are cached. -/
def Careful (_ : Monitor) : Event → Prop
  | .analyzes message _ owner pool =>
    (message.programId = systemProgramId → ∃ account, owner = .found account) ∧
      ∀ program, message.actualProgramId owner = some program →
        (ProgramKind.fromProgramId program).NeedsAccount → ∃ account, pool = .found account
  | .calculates descriptor _ bundle warm => descriptor.Loaded bundle ∧
      ∀ mint ∈ descriptor.kind.mints bundle.accounts descriptor.targetMint solMint,
        isSolMint mint = true ∨ warm mint = true

/-! ## Analysis -/

section analysis

variable {message : AnalyzePool} {owner pool : RpcAnswer}

lemma actualProgramId_isSome_iff : (message.actualProgramId owner).isSome = true ↔
    (message.programId = systemProgramId → ∃ account, owner = .found account) := by
  rw [AnalyzePool.actualProgramId]
  split
  · rename_i hdefault
    cases owner <;> simp [RpcAnswer.account, hdefault]
  · rename_i hgiven
    simp [hgiven]

lemma extractReserveAccounts_eq_none {kind : ProgramKind} :
    message.extractReserveAccounts pool kind = none ↔
      kind = .unknown ∨
        kind.NeedsAccount ∧ ∀ account, pool = .found account → kind.vaults account.data = none := by
  have hrequired : ∀ kind, message.requiredAccounts pool kind = none ↔
      ∀ account, pool = .found account → kind.vaults account.data = none := by
    intro kind
    cases pool <;> simp [AnalyzePool.requiredAccounts, RpcAnswer.account]
  cases kind <;> simp [AnalyzePool.extractReserveAccounts, ProgramKind.NeedsAccount, hrequired]

lemma analyzePool_eq_none : message.analyzePool owner pool = none ↔
    ∀ program, message.actualProgramId owner = some program →
      message.extractReserveAccounts pool (ProgramKind.fromProgramId program) = none := by
  cases hprogram : message.actualProgramId owner with
  | none => simp [AnalyzePool.analyzePool, hprogram]
  | some program =>
    by_cases hunknown : ProgramKind.fromProgramId program = .unknown
    · simp [AnalyzePool.analyzePool, hprogram, hunknown, AnalyzePool.extractReserveAccounts]
    · cases hextracted : message.extractReserveAccounts pool (ProgramKind.fromProgramId program) <;>
        simp [AnalyzePool.analyzePool, hprogram, hunknown, hextracted]

lemma shows_analyzes_iff (h : message.analyzePool owner pool = none) (monitor : Monitor)
    (database : Bool) :
    Shows powf decimals (.analyzes message database owner pool) ↔
      Careful monitor (.analyzes message database owner pool) := by
  rw [analyzePool_eq_none] at h
  constructor
  · rintro ⟨program, hprogram, hshows⟩
    have hsome : (message.actualProgramId owner).isSome = true := by simp [hprogram]
    refine ⟨actualProgramId_isSome_iff.mp hsome, fun program' hprogram' hneeds => ?_⟩
    obtain rfl : program = program' := Option.some.inj (hprogram.symm.trans hprogram')
    obtain hunknown | ⟨account, hfound, _⟩ := hshows
    · rw [hunknown] at hneeds
      exact absurd hneeds (by simp [ProgramKind.NeedsAccount])
    · exact ⟨account, hfound⟩
  · rintro ⟨howner, hpool⟩
    obtain ⟨program, hprogram⟩ := Option.isSome_iff_exists.mp (actualProgramId_isSome_iff.mpr howner)
    refine ⟨program, hprogram, ?_⟩
    obtain hunknown | ⟨hneeds, hnone⟩ := extractReserveAccounts_eq_none.mp (h program hprogram)
    · exact .inl hunknown
    · obtain ⟨account, hfound⟩ := hpool program hprogram hneeds
      exact .inr ⟨account, hfound, hnone account hfound⟩

lemma careful_of_analyzePool {descriptor : PoolDescriptor}
    (h : message.analyzePool owner pool = some descriptor) (monitor : Monitor) (database : Bool) :
    Careful monitor (.analyzes message database owner pool) := by
  have hsome : ¬ message.analyzePool owner pool = none := by simp [h]
  rw [analyzePool_eq_none] at hsome
  push Not at hsome
  obtain ⟨program, hprogram, hextracted⟩ := hsome
  refine ⟨actualProgramId_isSome_iff.mp (by simp [hprogram]), fun program' hprogram' hneeds => ?_⟩
  obtain rfl : program = program' := Option.some.inj (hprogram.symm.trans hprogram')
  by_contra hnot
  push Not at hnot
  exact hextracted (extractReserveAccounts_eq_none.mpr
    (.inr ⟨hneeds, fun account hfound => absurd hfound (hnot account)⟩))

end analysis

/-! ## Runs -/

variable {powf decimals} {monitor : Monitor}

lemma mem_addPoolToBlacklist {database : Bool} {entry added : BlacklistEntry}
    (h : entry ∈ (monitor.addPoolToBlacklist database added).blacklisted) :
    entry ∈ monitor.blacklisted ∨ entry = added := by
  rw [Monitor.addPoolToBlacklist] at h
  split at h
  · exact (List.mem_append.mp h).imp_right List.mem_singleton.mp
  · exact .inl h

lemma permanent_analyzes_iff (message : AnalyzePool) (owner pool : RpcAnswer)
    (hnew : monitor.isPoolBlacklisted message.poolId = false) :
    Permanent powf decimals monitor (.analyzes message true owner pool) ↔
      Careful monitor (.analyzes message true owner pool) := by
  cases hanalyzed : message.analyzePool owner pool with
  | some descriptor =>
    refine iff_of_true (fun entry hentry => .inl ?_) (careful_of_analyzePool hanalyzed monitor true)
    simpa [Monitor.step, Monitor.analyzes, hnew, hanalyzed] using hentry
  | none =>
    rw [← shows_analyzes_iff powf decimals hanalyzed]
    refine ⟨fun h => ?_, fun h entry hentry => ?_⟩
    · have hadded : (monitor.step powf decimals (.analyzes message true owner pool)).blacklisted =
          monitor.blacklisted ++ [⟨message.poolId, "analysis_failed",
            if isSolMint message.baseMint then message.quoteMint else message.baseMint⟩] := by
        simp [Monitor.step, Monitor.analyzes, Monitor.addPoolToBlacklist, hnew, hanalyzed]
      obtain hold | ⟨_, hshows⟩ := h _ (hadded ▸ List.mem_append_right _ (List.mem_singleton_self _))
      · have hlisted : monitor.isPoolBlacklisted message.poolId = true :=
          List.any_eq_true.mpr ⟨_, hold, by simp⟩
        simp [hnew] at hlisted
      · exact hshows
    · simp only [Monitor.step, Monitor.analyzes, hnew, hanalyzed] at hentry
      obtain hold | rfl := mem_addPoolToBlacklist (by simpa using hentry)
      · exact .inl hold
      · exact .inr ⟨rfl, h⟩

lemma decodePool_warm {kind : ProgramKind} {accounts : Accounts} {baseMint : Pubkey}
    {warm : Pubkey → Bool}
    (h : ∀ mint ∈ kind.mints accounts baseMint solMint, isSolMint mint = true ∨ warm mint = true) :
    kind.decodePool powf (getCachedDecimals (cachedDecimals decimals warm)) accounts baseMint solMint =
      kind.decodePool powf (getCachedDecimals fun mint => some (decimals mint)) accounts baseMint
        solMint := by
  refine ProgramKind.dependsOn_decodePool powf kind fun mint hmint => ?_
  obtain hsol | hwarm := h mint hmint
  · simp [getCachedDecimals, hsol]
  · simp [getCachedDecimals, cachedDecimals, hwarm]

lemma permanent_of_careful {event : Event} (h : Careful monitor event) :
    Permanent powf decimals monitor event := by
  intro entry hentry
  cases event with
  | analyzes message database owner pool =>
    simp only [Monitor.step, Monitor.analyzes] at hentry
    split at hentry
    · exact .inl hentry
    · split at hentry
      · exact .inl hentry
      · rename_i hnone
        obtain hold | rfl := mem_addPoolToBlacklist hentry
        · exact .inl hold
        · exact .inr ⟨rfl, (shows_analyzes_iff powf decimals hnone monitor database).mpr h⟩
  | calculates descriptor database bundle warm =>
    obtain ⟨hloaded, hwarm⟩ := h
    simp only [Monitor.step, Monitor.calculates] at hentry
    split at hentry
    · split at hentry
      · exact .inl hentry
      · rename_i error herror
        obtain hold | rfl := mem_addPoolToBlacklist hentry
        · exact .inl hold
        · refine .inr ⟨rfl, hloaded, ?_⟩
          rw [← decodePool_warm hwarm]
          by_contra hsome
          obtain ⟨price, hprice⟩ := Option.ne_none_iff_exists'.mp hsome
          rw [PoolDescriptor.kind] at hprice
          simp [PoolDescriptor.calculatePoolPrice, hloaded.1, hprice] at herror
    · exact .inl hentry

/-- **Blacklisting follows only from what the data shows**, in every run of careful events; and an
analysis of a pool that is not on the blacklist keeps to it exactly when it is careful. -/
theorem blacklists_permanently (events : List Event) :
    (∀ (monitor : Monitor) (message : AnalyzePool) (owner pool : RpcAnswer),
      monitor.isPoolBlacklisted message.poolId = false →
        (Permanent powf decimals monitor (.analyzes message true owner pool) ↔
          Careful monitor (.analyzes message true owner pool))) ∧
    (Throughout (fun monitor => monitor.step powf decimals) Careful Monitor.empty events →
      Throughout (fun monitor => monitor.step powf decimals) (Permanent powf decimals) Monitor.empty
        events) :=
  ⟨fun _ message owner pool hnew => permanent_analyzes_iff message owner pool hnew,
    fun h => h.imp fun _ _ _ hcareful => permanent_of_careful hcareful⟩

/-! ## Runs on fixed answers -/

/-- Discovery knows no program of the pool of a token and SOL. -/
def discovered : AnalyzePool := ⟨repeated 2, systemProgramId, repeated 1, solMint⟩

/-- A bonding curve with a virtual token and a virtual lamport, or with none. -/
def curveData (reserves : UInt8) : List UInt8 :=
  PumpFunLegacy.bondingCurveDiscriminator ++ [reserves, 0, 0, 0, 0, 0, 0, 0, reserves, 0, 0, 0, 0,
    0, 0, 0] ++
    List.replicate 24 0

/-- The curve, as the RPC returns it. -/
def curve (reserves : UInt8) : Account := ⟨PumpFunLegacy.programId, curveData reserves⟩

/-- The descriptor of the curve. -/
def curveDescriptor : PoolDescriptor :=
  ⟨repeated 2, ProgramKind.pumpFunLegacy.protocolId, repeated 1, solMint, [repeated 2]⟩

/-- The bundle of the curve. -/
def curveBundle (reserves : UInt8) : PoolAccountBundle :=
  ⟨[(repeated 2, ⟨repeated 2, PumpFunLegacy.programId, curveData reserves, 0, 0⟩)], 0, 0⟩

/-- The curve is analyzed and calculated. -/
def curveRun (reserves : UInt8) (warm : Bool) : List Event :=
  [.analyzes discovered true (.found (curve reserves)) .missing,
    .calculates curveDescriptor true (curveBundle reserves) fun _ => warm]

/-- A drained curve is blacklisted, for what it shows. -/
theorem blacklists_permanently_drained :
    Throughout (fun monitor => monitor.step (fun x _ => (x : ℚ)) fun _ => 6)
      (Permanent (fun x _ => (x : ℚ)) fun _ => 6) Monitor.empty (curveRun 0 true) ∧
    ((curveRun 0 true).foldl (fun monitor => monitor.step (fun x _ => (x : ℚ)) fun _ => 6)
      Monitor.empty).isPoolBlacklisted (repeated 2) = true := by
  have hkind : ∀ program, discovered.actualProgramId (.found (curve 0)) = some program →
      ¬ (ProgramKind.fromProgramId program).NeedsAccount := by
    intro program hprogram
    obtain rfl : PumpFunLegacy.programId = program := by
      simpa [AnalyzePool.actualProgramId, discovered, RpcAnswer.account, curve] using hprogram
    have hlegacy : ProgramKind.fromProgramId PumpFunLegacy.programId = .pumpFunLegacy := by
      decide +kernel
    simp [hlegacy, ProgramKind.NeedsAccount]
  have hloaded : curveDescriptor.Loaded (curveBundle 0) := by
    refine ⟨by decide +kernel, ⟨repeated 2, PumpFunLegacy.programId, curveData 0, 0,
      0⟩, by decide +kernel, ?_⟩
    intro vaults hvaults vault hvault
    have hnone : (curveDescriptor.kind.vaults (curveData 0)) = some [] := by decide +kernel
    obtain rfl : [] = vaults := Option.some.inj (hnone.symm.trans hvaults)
    simp at hvault
  exact ⟨(blacklists_permanently _).2
    ⟨⟨fun _ => ⟨_, rfl⟩, fun program hprogram hneeds => (hkind program hprogram hneeds).elim⟩,
      ⟨hloaded, fun _ _ => .inr rfl⟩, trivial⟩, by decide +kernel⟩

/-- **Blacklisting follows from a failed call and from a cold cache**: a pool is blacklisted as its
account could not be fetched, and a bonding curve with reserves as the decimals of its token were
not cached yet. -/
theorem not_blacklists_permanently :
    (¬ Throughout (fun monitor => monitor.step (fun x _ => (x : ℚ)) fun _ => 6)
      (Permanent (fun x _ => (x : ℚ)) fun _ => 6) Monitor.empty
        [.analyzes discovered true .failed .failed]) ∧
    ¬ Throughout (fun monitor => monitor.step (fun x _ => (x : ℚ)) fun _ => 6)
      (Permanent (fun x _ => (x : ℚ)) fun _ => 6) Monitor.empty (curveRun 1 false) := by
  constructor
  · rintro ⟨h, -⟩
    obtain hold | ⟨-, program, hprogram, -⟩ :=
        h ⟨repeated 2, "analysis_failed", repeated 1⟩ (by decide +kernel)
    · simp [Monitor.empty] at hold
    · simp [AnalyzePool.actualProgramId, discovered, RpcAnswer.account] at hprogram
  · rintro ⟨-, h, -⟩
    obtain hold | ⟨-, -, hnone⟩ := h ⟨repeated 2, "decoder_failed", repeated 1⟩ (by decide +kernel)
    · revert hold
      decide +kernel
    · have hsome : (curveDescriptor.kind.decodePool (fun x _ => (x : ℚ))
          (getCachedDecimals fun _ => some 6)
          (curveBundle 1).accounts curveDescriptor.targetMint solMint).isSome = true := by
            decide +kernel
      simp [hnone] at hsome

end Dripline.Pools

import Dripline.Configuration.Sections

/-!
# The migration of the legacy sections

`config/migrate.rs`: `[ai]` and `[agents]` fill `[llm]`, `[llm_analysis]`, `[assistant]` and
`[agent_control]`, setting by setting. How a section that is no table is read is the library's
business, and a parameter here.

A source without a file is in `migrate.rs`.
-/

namespace Dripline.Configuration

open Option

/-- Source: `config/error.rs`, `Error`, less the wallet's address -/
inductive Error
  | configuration (message : String)
  | io (message : String)
  | notLoaded
  | parseFailed (detail : String)
  | writeFailed (detail : String)
  deriving DecidableEq

/-- What the library reads and writes of a document, and of what is not a table in it. -/
structure Toml (Rest : Type) where
  /-- The sections of a document where one of them is not a table. -/
  positional : Table → Except String Settings
  /-- `[ai]` that is not a table. -/
  positionalAi : Value → Except String Settings
  /-- `[agents]` that is not a table. -/
  positionalAgents : Value → Except String (Option Bool)
  /-- The tabs and the rest. -/
  others : Table → Except String (List TabConfig × Rest)
  /-- The tabs and the rest, as they are written. -/
  writeOthers : List TabConfig → Rest → Option Table
  /-- What is said of a value that cannot be read. -/
  complaint : Value → String

variable {Rest : Type} (toml : Toml Rest)

namespace Toml

/-- `[ai]`, as `LegacyAi`. Source: `value.try_into()` -/
def readAi : Value → Except String Settings
  | .table entries =>
    match readEntries Kind.tryInto fun leaf => leaf.aiKey.bind fun key => entries.lookup key with
    | some settings => .ok settings
    | none => .error (toml.complaint (.table entries))
  | value => toml.positionalAi value

/-- `[agents]`, as `LegacyAgents`. Source: `value.try_into()` -/
def readAgents : Value → Except String (Option Bool)
  | .table entries =>
    match entries.lookup "enabled" with
    | none => .ok none
    | some value =>
      match value.asBool with
      | some enabled => .ok (some enabled)
      | none => .error (toml.complaint value)
  | value => toml.positionalAgents value

end Toml

/-! ## Providers -/

/-- Source: `migrate.rs`, the path of a leaf in `migrate_provider_leaves` -/
def legacyProviderPath (name : ProviderName) (field : ProviderField) : List String :=
  ["ai", "providers", name.key, field.key name]

/-- The value, or the error where there is none. -/
def okOr {α : Type} (value : Option α) (error : Error) : Except Error α :=
  match value with
  | some value => .ok value
  | none => .error error

lemma okOr_eq_ok {α : Type} {value : Option α} {error : Error} {found : α} :
    okOr value error = .ok found ↔ value = some found := by
  cases value <;> simp [okOr]

/-- A leaf of a provider, out of its legacy value. Source: `migrate_provider_leaves`: the
conversions and their errors -/
def takeProviderLeaf (name : ProviderName) :
    (field : ProviderField) → Value → Except Error (Leaf.provider name field).Carrier
  | .enabled, legacy => okOr legacy.asBool (.parseFailed
      ("legacy [ai.providers." ++ name.key ++ "].enabled must be a boolean"))
  | .credential, legacy => okOr legacy.asStr (.parseFailed
      ("legacy [ai.providers." ++ name.key ++ "]." ++ ProviderField.key name .credential ++
        " must be a string"))
  | .model, legacy => okOr legacy.asStr (.parseFailed
      ("legacy [ai.providers." ++ name.key ++ "].model must be a string"))
  | .rateLimitPerMinute, legacy => do
    let raw ← okOr legacy.asInteger (.parseFailed
      ("legacy [ai.providers." ++ name.key ++ "].rate_limit_per_minute must be an integer"))
    okOr (Kind.tryFrom 32 raw) (.parseFailed
      ("legacy [ai.providers." ++ name.key ++ "].rate_limit_per_minute is out of range for u32"))

/-- Source: `migrate.rs`, one leaf of `migrate_provider_leaves` -/
def migrateProviderLeaf (root : Table) (name : ProviderName) (config : Config Rest)
    (field : ProviderField) : Except Error (Config Rest) :=
  match nestedLeaf root (legacyProviderPath name field) with
  | some legacy =>
    if (nestedLeaf root (Leaf.provider name field).path).isNone then do
      let value ← takeProviderLeaf name field legacy
      pure (config.set (.provider name field) value)
    else pure config
  | none => pure config

/-- Source: `migrate_provider_leaves` -/
def migrateProviderLeaves (root : Table) (config : Config Rest) (name : ProviderName) :
    Except Error (Config Rest) :=
  ProviderField.all.foldlM (migrateProviderLeaf root name) config

/-! ## Sections -/

/-- A field that the legacy section carried fills one that the file left unset. Source:
`fill_analysis!`, `fill_assistant!`, `fill_agent!`, and the fields of `llm` -/
def fill (root : Table) (legacy : Settings) (sectionName field : String) (leaf : Leaf)
    (config : Config Rest) : Config Rest :=
  match legacy leaf with
  | some value => if hasKey root sectionName field then config else config.set leaf value
  | none => config

/-- Source: `fill_analysis!` -/
def fillAnalysis (root : Table) (legacy : Settings) (config : Config Rest)
    (field : AnalysisField) : Config Rest :=
  fill root legacy "llm_analysis" field.key (.analysis field) config

/-- Source: `fill_assistant!` -/
def fillAssistant (root : Table) (legacy : Settings) (config : Config Rest)
    (field : AssistantField) : Config Rest :=
  fill root legacy "assistant" field.key (.assistant field) config

/-- Source: `fill_agent!` -/
def fillAgent (root : Table) (legacy : Settings) (config : Config Rest)
    (category : ToolCategory) : Config Rest :=
  fill root legacy "agent_control" category.key (.permission category) config

/-- Source: `migrate_legacy_sections`: `[ai]` -/
def migrateAi (root : Table) (value : Value) (config : Config Rest) :
    Except Error (Config Rest) := do
  let legacy ← (toml.readAi value).mapError fun e =>
    .parseFailed ("legacy [ai] section is malformed: " ++ e)
  let config := fill root legacy "llm" "enabled" .llmEnabled config
  let config := fill root legacy "llm" "default_provider" .defaultProvider config
  let config ← ProviderName.all.foldlM (migrateProviderLeaves root) config
  let config := AnalysisField.all.foldl (fillAnalysis root legacy) config
  let config := AssistantField.all.foldl (fillAssistant root legacy) config
  pure (ToolCategory.all.foldl (fillAgent root legacy) config)

/-- Source: `migrate_legacy_sections`: `[agents]` -/
def migrateAgents (root : Table) (value : Value) (config : Config Rest) :
    Except Error (Config Rest) := do
  let legacy ← (toml.readAgents value).mapError fun e =>
    .parseFailed ("legacy [agents] section is malformed: " ++ e)
  match legacy with
  | some enabled =>
    pure (if hasKey root "agent_control" "enabled" then config
      else config.set .agentEnabled enabled)
  | none => pure config

/-- A section is migrated if it is there. -/
def migrateSection (migrate : Value → Config Rest → Except Error (Config Rest))
    (legacy : Option Value) (config : Config Rest) : Except Error (Config Rest) :=
  match legacy with
  | some value => migrate value config
  | none => pure config

/-- Source: `migrate_legacy_sections`, of a document that parses -/
def migrateLegacySections (root : Table) (config : Config Rest) :
    Except Error (Config Rest × Bool) :=
  if (root.lookup "ai").isNone && (root.lookup "agents").isNone then .ok (config, false)
  else do
    let config ← migrateSection (migrateAi toml root) (root.lookup "ai") config
    let config ← migrateSection (migrateAgents toml root) (root.lookup "agents") config
    pure (config, true)

/-! ## What the legacy sections set -/

/-- What the legacy sections of a document set: fields of `[ai]`, leaves of its providers, and the
field of `[agents]`. -/
def legacySettings (root : Table) : Settings
  | .provider name field => (nestedLeaf root (legacyProviderPath name field)).bind
      (Leaf.provider name field).kind.read
  | .agentEnabled => (root.lookup "agents").bind fun value => (toml.readAgents value).toOption.join
  | leaf => (root.lookup "ai").bind fun value => (toml.readAi value).toOption.bind (· leaf)

/-! ## Filling -/

/-- Settings of a list are filled from a source where the file has none of its own, and nothing else
changes. -/
structure Fills (root : Table) (source : Settings) (leaves : List Leaf)
    (config config' : Config Rest) : Prop where
  tabs : config'.tabs = config.tabs
  rest : config'.rest = config.rest
  leaf : ∀ leaf, config'.leaf leaf =
    if leaf ∈ leaves ∧ (nestedLeaf root leaf.path).isNone then
      (source leaf).getD (config.leaf leaf) else config.leaf leaf

namespace Fills

variable {root : Table} {source : Settings} {leaves leaves' : List Leaf}
  {config config' config'' : Config Rest}

lemma refl (root : Table) (source : Settings) (config : Config Rest) :
    Fills root source [] config config :=
  ⟨rfl, rfl, fun _ => by simp⟩

lemma trans (h : Fills root source leaves config config')
    (h' : Fills root source leaves' config' config'') :
    Fills root source (leaves ++ leaves') config config'' := by
  refine ⟨h'.tabs.trans h.tabs, h'.rest.trans h.rest, fun leaf => ?_⟩
  rw [h'.leaf, h.leaf]
  by_cases hnone : (nestedLeaf root leaf.path).isNone
  · by_cases hleft : leaf ∈ leaves <;> by_cases hright : leaf ∈ leaves' <;>
      cases source leaf <;> simp [hnone, hleft, hright]
  · simp [hnone]

lemma of_none (h : ∀ leaf ∈ leaves, source leaf = none) (config : Config Rest) :
    Fills root source leaves config config := by
  refine ⟨rfl, rfl, fun leaf => ?_⟩
  split
  · next hmem => rw [h leaf hmem.1, getD_none]
  · rfl

variable {leaf : Leaf}

lemma set (hnone : (nestedLeaf root leaf.path).isNone) {value : leaf.Carrier}
    (hsource : source leaf = some value) (config : Config Rest) :
    Fills root source [leaf] config (config.set leaf value) := by
  refine ⟨rfl, rfl, fun other => ?_⟩
  by_cases hsame : other = leaf
  · subst hsame
    simp [hnone, hsource]
  · rw [config.leaf_set_of_ne hsame]
    simp [hsame]

lemma kept (hsome : (nestedLeaf root leaf.path).isNone = false) (config : Config Rest) :
    Fills root source [leaf] config config := by
  refine ⟨rfl, rfl, fun other => ?_⟩
  split
  · next hmem =>
    obtain rfl := List.mem_singleton.mp hmem.1
    rw [hsome] at hmem
    exact absurd hmem.2 Bool.false_ne_true
  · rfl

lemma foldl {ι : Type} {step : Config Rest → ι → Config Rest} {of : ι → List Leaf}
    (hstep : ∀ config i, Fills root source (of i) config (step config i)) (all : List ι)
    (config : Config Rest) : Fills root source (all.flatMap of) config (all.foldl step config) := by
  induction all generalizing config with
  | nil => exact refl root source config
  | cons i all ih => exact (hstep config i).trans (ih _)

lemma foldlM {ι : Type} {step : Config Rest → ι → Except Error (Config Rest)} {of : ι → List Leaf}
    (hstep : ∀ config config' i, step config i = .ok config' →
      Fills root source (of i) config config') {all : List ι}
    (h : all.foldlM step config = .ok config') :
    Fills root source (all.flatMap of) config config' := by
  induction all generalizing config with
  | nil =>
    obtain rfl := Except.ok.inj h
    exact refl root source _
  | cons i all ih =>
    rw [List.foldlM_cons] at h
    cases hfirst : step config i with
    | error e =>
      rw [hfirst] at h
      cases h
    | ok next =>
      rw [hfirst] at h
      exact (hstep config next i hfirst).trans (ih h)

lemma all (h : Fills root source leaves config config') (hall : ∀ leaf, leaf ∈ leaves) :
    Fills root source Leaf.all config config' := by
  refine ⟨h.tabs, h.rest, fun leaf => ?_⟩
  rw [h.leaf]
  simp [hall leaf, leaf.mem_all]

end Fills

/-! ## What the migration fills -/

variable {toml} {root : Table} {config config' : Config Rest}

lemma fills_fill {source legacy : Settings} {sectionName field : String} {leaf : Leaf}
    (hpath : leaf.path = [sectionName, field]) (hsource : source leaf = legacy leaf)
    (config : Config Rest) :
    Fills root source [leaf] config (fill root legacy sectionName field leaf config) := by
  unfold fill
  rw [hasKey_eq, ← hpath]
  cases hlegacy : legacy leaf with
  | none =>
    refine Fills.of_none ?_ config
    intro other hother
    rw [List.mem_singleton.mp hother, hsource, hlegacy]
  | some value =>
    cases hkey : nestedLeaf root leaf.path with
    | none => exact Fills.set (by rw [hkey]; rfl) (hsource.trans hlegacy) config
    | some own => exact Fills.kept (by rw [hkey]; rfl) config

variable {name : ProviderName} {field : ProviderField}

lemma read_of_takeProviderLeaf {legacy : Value} {value : (Leaf.provider name field).Carrier}
    (h : takeProviderLeaf name field legacy = .ok value) :
    (Leaf.provider name field).kind.read legacy = some value := by
  cases field with
  | enabled | credential | model => exact okOr_eq_ok.mp h
  | rateLimitPerMinute =>
    simp only [takeProviderLeaf] at h
    cases hraw : legacy.asInteger with
    | none =>
      rw [hraw] at h
      cases h
    | some raw =>
      rw [hraw] at h
      exact (congrArg (Option.bind · (Kind.tryFrom 32)) hraw).trans (okOr_eq_ok.mp h)

lemma fills_migrateProviderLeaf (h : migrateProviderLeaf root name config field = .ok config') :
    Fills root (legacySettings toml root) [.provider name field] config config' := by
  unfold migrateProviderLeaf at h
  split at h
  · next legacy hlegacy =>
    split at h
    · next hnone =>
      cases htake : takeProviderLeaf name field legacy with
      | error e =>
        rw [htake] at h
        cases h
      | ok value =>
        rw [htake] at h
        cases h
        refine Fills.set hnone ?_ config
        rw [legacySettings, hlegacy]
        exact read_of_takeProviderLeaf htake
    · next hsome =>
      cases h
      exact Fills.kept (eq_false_of_ne_true hsome) config
  · next hlegacy =>
    cases h
    refine Fills.of_none ?_ config
    intro other hother
    rw [List.mem_singleton.mp hother, legacySettings, hlegacy]
    rfl

lemma fills_migrateProviderLeaves (h : migrateProviderLeaves root config name = .ok config') :
    Fills root (legacySettings toml root)
      (ProviderField.all.flatMap fun field => [.provider name field]) config config' := by
  refine Fills.foldlM ?_ h
  intro config config' field hfield
  exact fills_migrateProviderLeaf hfield

/-- The settings out of `[ai]`. -/
def aiLeaves : List Leaf :=
  [.llmEnabled] ++ [.defaultProvider] ++
    (ProviderName.all.flatMap fun name =>
      ProviderField.all.flatMap fun field => [.provider name field]) ++
    (AnalysisField.all.flatMap fun field => [.analysis field]) ++
    (AssistantField.all.flatMap fun field => [.assistant field]) ++
    ToolCategory.all.flatMap fun category => [.permission category]

lemma mem_leaves (leaf : Leaf) : leaf ∈ aiLeaves ++ [.agentEnabled] := by
  cases leaf <;> simp [aiLeaves, ProviderName.mem_all, ProviderField.mem_all, AnalysisField.mem_all,
    AssistantField.mem_all, ToolCategory.mem_all]

variable {value : Value}

lemma fills_migrateAi (hvalue : root.lookup "ai" = some value)
    (h : migrateAi toml root value config = .ok config') :
    Fills root (legacySettings toml root) aiLeaves config config' := by
  unfold migrateAi at h
  cases hread : toml.readAi value with
  | error e =>
    rw [hread] at h
    cases h
  | ok legacy =>
    rw [hread] at h
    have hsource : ∀ leaf : Leaf, leaf.aiKey.isSome → legacySettings toml root leaf = legacy leaf := by
      intro leaf hleaf
      cases leaf <;> first
        | exact absurd hleaf Bool.false_ne_true
        | simp [legacySettings, hvalue, hread, Except.toOption]
    have hfill : ∀ (sectionName field : String) (leaf : Leaf) (config : Config Rest),
        leaf.aiKey.isSome → leaf.path = [sectionName, field] →
          Fills root (legacySettings toml root) [leaf] config
            (fill root legacy sectionName field leaf config) := by
      intro sectionName field leaf config hleaf hpath
      exact fills_fill hpath (hsource leaf hleaf) config
    cases hproviders : ProviderName.all.foldlM (migrateProviderLeaves root)
        (fill root legacy "llm" "default_provider" .defaultProvider
          (fill root legacy "llm" "enabled" .llmEnabled config)) with
    | error e =>
      simp only [Except.mapError, bind, Except.bind, hproviders] at h
      cases h
    | ok filled =>
      simp only [Except.mapError, bind, Except.bind, hproviders] at h
      obtain rfl := Except.ok.inj h
      have hllm := (hfill "llm" "enabled" .llmEnabled config rfl rfl).trans
        (hfill "llm" "default_provider" .defaultProvider _ rfl rfl)
      have hname : ∀ (config config' : Config Rest) (name : ProviderName),
          migrateProviderLeaves root config name = .ok config' →
            Fills root (legacySettings toml root)
              (ProviderField.all.flatMap fun field => [.provider name field]) config config' :=
        fun _ _ _ => fills_migrateProviderLeaves
      have hnames := Fills.foldlM hname hproviders
      have hanalysis : ∀ config, Fills root (legacySettings toml root) _ config
          (AnalysisField.all.foldl (fillAnalysis root legacy) config) :=
        Fills.foldl (fun config field => hfill _ _ (.analysis field) config rfl rfl) _
      have hassistant : ∀ config, Fills root (legacySettings toml root) _ config
          (AssistantField.all.foldl (fillAssistant root legacy) config) :=
        Fills.foldl (fun config field => hfill _ _ (.assistant field) config rfl rfl) _
      have hagent : ∀ config, Fills root (legacySettings toml root) _ config
          (ToolCategory.all.foldl (fillAgent root legacy) config) :=
        Fills.foldl (fun config category => hfill _ _ (.permission category) config rfl rfl) _
      exact ((((hllm.trans hnames).trans (hanalysis _)).trans (hassistant _)).trans (hagent _))

lemma fills_migrateAgents (hvalue : root.lookup "agents" = some value)
    (h : migrateAgents toml root value config = .ok config') :
    Fills root (legacySettings toml root) [.agentEnabled] config config' := by
  unfold migrateAgents at h
  cases hread : toml.readAgents value with
  | error e =>
    rw [hread] at h
    cases h
  | ok legacy =>
    have hsource : legacySettings toml root .agentEnabled = legacy := by
      change (root.lookup "agents").bind _ = legacy
      rw [hvalue]
      change (toml.readAgents value).toOption.join = legacy
      rw [hread]
      rfl
    rw [hread] at h
    cases legacy with
    | none =>
      cases h
      refine Fills.of_none ?_ config
      intro other hother
      rw [List.mem_singleton.mp hother]
      exact hsource
    | some enabled =>
      obtain rfl := Except.ok.inj h
      rw [hasKey_eq]
      cases hkey : nestedLeaf root ["agent_control", "enabled"] with
      | none => exact Fills.set (isNone_iff_eq_none.mpr hkey) hsource config
      | some own =>
        refine Fills.kept ?_ config
        rw [Leaf.path, hkey]
        rfl

lemma fills_migrateSection {source : Settings} {leaves : List Leaf} {legacy : Option Value}
    {migrate : Value → Config Rest → Except Error (Config Rest)}
    (hsome : ∀ value config', legacy = some value → migrate value config = .ok config' →
      Fills root source leaves config config')
    (hnone : legacy = none → ∀ leaf ∈ leaves, source leaf = none)
    (h : migrateSection migrate legacy config = .ok config') :
    Fills root source leaves config config' := by
  cases legacy with
  | none =>
    cases h
    exact Fills.of_none (hnone rfl) config
  | some value => exact hsome value config' rfl h

lemma legacySettings_of_ai (hai : root.lookup "ai" = none) {leaf : Leaf} (hleaf : leaf ∈ aiLeaves) :
    legacySettings toml root leaf = none := by
  cases leaf with
  | agentEnabled => simp [aiLeaves] at hleaf
  | provider name field => simp [legacySettings, legacyProviderPath, nestedLeaf, hai]
  | _ => simp [legacySettings, hai]

lemma legacySettings_of_agents (hagents : root.lookup "agents" = none) :
    legacySettings toml root .agentEnabled = none := by
  rw [legacySettings, hagents]
  rfl

lemma migrateLegacySections_spec {changed : Bool}
    (h : migrateLegacySections toml root config = .ok (config', changed)) :
    changed = ((root.lookup "ai").isSome || (root.lookup "agents").isSome) ∧
      Fills root (legacySettings toml root) Leaf.all config config' := by
  have hnoAi : root.lookup "ai" = none → ∀ leaf ∈ aiLeaves, legacySettings toml root leaf = none :=
    fun hai leaf hleaf => legacySettings_of_ai hai hleaf
  have hnoAgents : root.lookup "agents" = none →
      ∀ leaf ∈ [Leaf.agentEnabled], legacySettings toml root leaf = none := by
    intro hagents leaf hleaf
    rw [List.mem_singleton.mp hleaf]
    exact legacySettings_of_agents hagents
  unfold migrateLegacySections at h
  split at h
  · next hneither =>
    cases h
    rw [Bool.and_eq_true, isNone_iff_eq_none, isNone_iff_eq_none] at hneither
    obtain ⟨hai, hagents⟩ := hneither
    refine ⟨by rw [hai, hagents]; rfl, ?_⟩
    exact ((Fills.of_none (hnoAi hai) config).trans
      (Fills.of_none (hnoAgents hagents) config)).all mem_leaves
  · next heither =>
    cases hfirst : migrateSection (migrateAi toml root) (root.lookup "ai") config with
    | error e =>
      rw [hfirst] at h
      cases h
    | ok filled =>
      rw [hfirst] at h
      cases hsecond : migrateSection (migrateAgents toml root) (root.lookup "agents") filled with
      | error e =>
        simp only [bind, Except.bind, hsecond] at h
        cases h
      | ok final =>
        simp only [bind, Except.bind, hsecond] at h
        obtain ⟨rfl, rfl⟩ := Prod.mk.inj (Except.ok.inj h)
        refine ⟨?_, ?_⟩
        · rw [Bool.and_eq_true, not_and_or] at heither
          rcases heither with hai | hagents
          · simp [isSome_iff_ne_none, isNone_iff_eq_none.not.mp hai]
          · simp [isSome_iff_ne_none, isNone_iff_eq_none.not.mp hagents]
        · have hai := fills_migrateSection (fun _ _ => fills_migrateAi) hnoAi hfirst
          have hagents :=
            fills_migrateSection (fun _ _ => fills_migrateAgents) hnoAgents hsecond
          exact (hai.trans hagents).all mem_leaves

end Dripline.Configuration

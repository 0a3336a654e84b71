import Dripline.Configuration.Tabs

/-!
# Sections and settings

`config/schemas/llm.rs`, `llm_analysis.rs`, `assistant.rs`, `agent_control.rs`: the sections that the
migration fills, and what a document writes in them. A document is what its text parses to.

* `Value`, `Table`, `nestedLeaf`, `hasKey` — documents, and what is written under a path.
* `Kind` — what a setting is read as, and written as.
* `Leaf` — a setting that the migration fills: where it stands, its kind, and its default.
* `Settings`, `readEntries` — what a document sets.
* `Config` — the configuration: those settings, the tabs, and the rest.
-/

namespace Dripline.Configuration

/-! ## Documents -/

/-- A TOML value. -/
inductive Value
  | string (text : String)
  | integer (number : ℤ)
  | float (bits : BitVec 64)
  | boolean (flag : Bool)
  | datetime (text : String)
  | array (items : List Value)
  | table (entries : List (String × Value))

/-- The entries of a table. -/
abbrev Table := List (String × Value)

namespace Value

/-- The entries of a table, and of nothing else. -/
def asTable : Value → Option Table
  | table entries => some entries
  | _ => none

@[simp] lemma asTable_table (entries : Table) : (table entries).asTable = some entries := rfl

/-- A boolean, and nothing else. -/
def asBool : Value → Option Bool
  | boolean flag => some flag
  | _ => none

/-- A string, and nothing else. -/
def asStr : Value → Option String
  | string text => some text
  | _ => none

/-- An integer, and nothing else. -/
def asInteger : Value → Option ℤ
  | integer number => some number
  | _ => none

end Value

variable (root : Table)

/-- Was `[<section>] <field>` explicitly written in the file?
Source: `migrate.rs` -/
def hasKey (sectionName field : String) : Bool :=
  (((root.lookup sectionName).bind Value.asTable).map fun entries =>
    (entries.lookup field).isSome).getD false

/-- What the file carries under a path; nothing when a segment is absent or not a table.
Source: `migrate.rs` -/
def nestedLeaf : List String → Option Value
  | [] => none
  | first :: rest => do
    let current ← root.lookup first
    rest.foldlM (fun current segment => do (← current.asTable).lookup segment) current

@[simp] lemma nestedLeaf_singleton (key : String) : nestedLeaf root [key] = root.lookup key := by
  simp [nestedLeaf]

@[simp] lemma nestedLeaf_cons_cons (first second : String) (rest : List String) :
    nestedLeaf root (first :: second :: rest) = (root.lookup first).bind fun current =>
      current.asTable.bind fun entries => nestedLeaf entries (second :: rest) := by
  simp [nestedLeaf, Option.bind_assoc]

lemma hasKey_eq (sectionName field : String) :
    hasKey root sectionName field = (nestedLeaf root [sectionName, field]).isSome := by
  rw [nestedLeaf_cons_cons, hasKey]
  cases root.lookup sectionName with
  | none => rfl
  | some current =>
    cases hentries : current.asTable with
    | none | some entries => simp [hentries]

lemma lookup_map {ι α : Type} {key : ι → String} {all : List ι} (hnodup : (all.map key).Nodup)
    (value : ι → α) {i : ι} (hi : i ∈ all) :
    (all.map fun i => (key i, value i)).lookup (key i) = some (value i) := by
  induction all with
  | nil => cases hi
  | cons first all ih =>
    rw [List.map_cons, List.nodup_cons] at hnodup
    rw [List.map_cons]
    rcases List.mem_cons.mp hi with rfl | hrest
    · simp
    · have hne : (key i == key first) = false := by
        rw [beq_eq_false_iff_ne]
        intro heq
        exact hnodup.1 (heq ▸ List.mem_map_of_mem hrest)
      rw [List.lookup_cons, hne]
      exact ih hnodup.2 hrest

/-! ## Kinds of settings -/

/-- What a setting is read as: a `bool`, a `String`, or an unsigned integer. -/
inductive Kind
  | flag
  | text
  | unsigned (bits : ℕ)

namespace Kind

/-- The values of a kind. -/
abbrev Carrier : Kind → Type
  | flag => Bool
  | text => String
  | unsigned bits => BitVec bits

/-- An integer that is in range. -/
def tryFrom (bits : ℕ) (number : ℤ) : Option (BitVec bits) :=
  if 0 ≤ number ∧ number.toNat < 2 ^ bits then some (BitVec.ofNat bits number.toNat) else none

/-- A value of the kind, read from a document. -/
def read : (kind : Kind) → Value → Option kind.Carrier
  | flag, value => value.asBool
  | text, value => value.asStr
  | unsigned bits, value => value.asInteger.bind (tryFrom bits)

/-- A value of the kind, read from a value that was parsed: a date is a string there. -/
def tryInto : (kind : Kind) → Value → Option kind.Carrier
  | text, .datetime written => some written
  | kind, value => kind.read value

/-- A value of the kind, as it is written. -/
def write : (kind : Kind) → kind.Carrier → Value
  | flag, value => .boolean value
  | text, value => .string value
  | unsigned _, value => .integer value.toNat

/-- Integers of a document are signed, of 64 bits. -/
def writable : (kind : Kind) → kind.Carrier → Bool
  | unsigned _, value => value.toNat < 2 ^ 63
  | _, _ => true

@[simp] lemma read_write (kind : Kind) (value : kind.Carrier) :
    kind.read (kind.write value) = some value := by
  cases kind with
  | flag => rfl
  | text => rfl
  | unsigned bits =>
    change tryFrom bits (value.toNat : ℤ) = some value
    simp [tryFrom, value.isLt]

end Kind

/-! ## The settings -/

/-- Source: `llm.rs`, `LlmProvidersConfig`; `migrate.rs`, `API_KEYED_PROVIDERS` and `ollama` -/
inductive ProviderName
  | openai
  | anthropic
  | groq
  | deepseek
  | gemini
  | together
  | openrouter
  | mistral
  | ollama
  deriving DecidableEq

namespace ProviderName

/-- Every provider, in the order of the migration. -/
def all : List ProviderName :=
  [openai, anthropic, groq, deepseek, gemini, together, openrouter, mistral, ollama]

/-- The key of a provider, in both sections. -/
def key : ProviderName → String
  | openai => "openai"
  | anthropic => "anthropic"
  | groq => "groq"
  | deepseek => "deepseek"
  | gemini => "gemini"
  | together => "together"
  | openrouter => "openrouter"
  | mistral => "mistral"
  | ollama => "ollama"

lemma mem_all (name : ProviderName) : name ∈ all := by cases name <;> simp [all]

lemma nodup_keys : (all.map key).Nodup := by simp [all, key]

end ProviderName

/-- The settings of a provider; `credential` is the key of a provider that asks for one, and the
address of `ollama`. Source: `llm.rs`, `LlmProviderConfig`, `OllamaConfig` -/
inductive ProviderField
  | enabled
  | credential
  | model
  | rateLimitPerMinute
  deriving DecidableEq

namespace ProviderField

/-- Every setting of a provider, in the order of the migration. -/
def all : List ProviderField := [enabled, credential, model, rateLimitPerMinute]

/-- The key of a provider's setting, in both sections. -/
def key (name : ProviderName) : ProviderField → String
  | enabled => "enabled"
  | credential => if name = .ollama then "base_url" else "api_key"
  | model => "model"
  | rateLimitPerMinute => "rate_limit_per_minute"

lemma mem_all (field : ProviderField) : field ∈ all := by cases field <;> simp [all]

lemma nodup_keys (name : ProviderName) : (all.map (key name)).Nodup := by
  cases name <;> simp [all, key]

end ProviderField

/-- Source: `llm_analysis.rs`, `LlmAnalysisConfig` -/
inductive AnalysisField
  | filteringEnabled
  | minConfidence
  | fallbackPass
  | useCache
  | entryAnalysisEnabled
  | exitAnalysisEnabled
  | trailingStopEnabled
  | tradingBypassCache
  | autoBlacklistEnabled
  | autoBlacklistMinConfidence
  | backgroundCheckEnabled
  | backgroundCheckIntervalSeconds
  | backgroundBatchSize
  | maxEvaluationsPerMinute
  | cacheTtlSeconds
  deriving DecidableEq

namespace AnalysisField

/-- Every setting of the section, in the order of the migration. -/
def all : List AnalysisField :=
  [filteringEnabled, minConfidence, fallbackPass, useCache, entryAnalysisEnabled,
    exitAnalysisEnabled, trailingStopEnabled, tradingBypassCache, autoBlacklistEnabled,
    autoBlacklistMinConfidence, backgroundCheckEnabled, backgroundCheckIntervalSeconds,
    backgroundBatchSize, maxEvaluationsPerMinute, cacheTtlSeconds]

/-- The key in `[llm_analysis]`. Source: `migrate.rs`, the fields of `fill_analysis!` -/
def key : AnalysisField → String
  | filteringEnabled => "filtering_enabled"
  | minConfidence => "min_confidence"
  | fallbackPass => "fallback_pass"
  | useCache => "use_cache"
  | entryAnalysisEnabled => "entry_analysis_enabled"
  | exitAnalysisEnabled => "exit_analysis_enabled"
  | trailingStopEnabled => "trailing_stop_enabled"
  | tradingBypassCache => "trading_bypass_cache"
  | autoBlacklistEnabled => "auto_blacklist_enabled"
  | autoBlacklistMinConfidence => "auto_blacklist_min_confidence"
  | backgroundCheckEnabled => "background_check_enabled"
  | backgroundCheckIntervalSeconds => "background_check_interval_seconds"
  | backgroundBatchSize => "background_batch_size"
  | maxEvaluationsPerMinute => "max_evaluations_per_minute"
  | cacheTtlSeconds => "cache_ttl_seconds"

/-- The key in `[ai]`. Source: `migrate.rs`, `LegacyAi` and the options of `fill_analysis!` -/
def legacyKey : AnalysisField → String
  | minConfidence => "filtering_min_confidence"
  | fallbackPass => "filtering_fallback_pass"
  | useCache => "filtering_use_cache"
  | trailingStopEnabled => "ai_trailing_stop_enabled"
  | field => field.key

/-- Source: `llm_analysis.rs`, the types of the fields -/
def kind : AnalysisField → Kind
  | minConfidence | autoBlacklistMinConfidence => .unsigned 8
  | backgroundBatchSize | maxEvaluationsPerMinute => .unsigned 32
  | backgroundCheckIntervalSeconds | cacheTtlSeconds => .unsigned 64
  | _ => .flag

/-- Source: `llm_analysis.rs`, the defaults of the fields -/
def default : (field : AnalysisField) → field.kind.Carrier
  | filteringEnabled => false
  | minConfidence => 70#8
  | fallbackPass => false
  | useCache => true
  | entryAnalysisEnabled => false
  | exitAnalysisEnabled => false
  | trailingStopEnabled => false
  | tradingBypassCache => true
  | autoBlacklistEnabled => false
  | autoBlacklistMinConfidence => 90#8
  | backgroundCheckEnabled => false
  | backgroundCheckIntervalSeconds => 300#64
  | backgroundBatchSize => 5#32
  | maxEvaluationsPerMinute => 10#32
  | cacheTtlSeconds => 300#64

lemma mem_all (field : AnalysisField) : field ∈ all := by cases field <;> simp [all]

lemma nodup_keys : (all.map key).Nodup := by simp [all, key]

end AnalysisField

/-- Source: `assistant.rs`, `AssistantConfig` -/
inductive AssistantField
  | enabled
  | maxSessionMessages
  | autoSummarize
  | eventTriggersEnabled
  | scheduledTasksEnabled
  | checkIntervalSeconds
  | maxConcurrent
  | defaultTimeoutSeconds
  deriving DecidableEq

namespace AssistantField

/-- Every setting of the section, in the order of the migration. -/
def all : List AssistantField :=
  [enabled, maxSessionMessages, autoSummarize, eventTriggersEnabled, scheduledTasksEnabled,
    checkIntervalSeconds, maxConcurrent, defaultTimeoutSeconds]

/-- The key in `[assistant]`. Source: `migrate.rs`, the fields of `fill_assistant!` -/
def key : AssistantField → String
  | enabled => "enabled"
  | maxSessionMessages => "max_session_messages"
  | autoSummarize => "auto_summarize"
  | eventTriggersEnabled => "event_triggers_enabled"
  | scheduledTasksEnabled => "scheduled_tasks_enabled"
  | checkIntervalSeconds => "check_interval_seconds"
  | maxConcurrent => "max_concurrent"
  | defaultTimeoutSeconds => "default_timeout_seconds"

/-- The key in `[ai]`. Source: `migrate.rs`, `LegacyAi` and the options of `fill_assistant!` -/
def legacyKey : AssistantField → String
  | enabled => "chat_enabled"
  | maxSessionMessages => "chat_max_session_messages"
  | autoSummarize => "chat_auto_summarize"
  | eventTriggersEnabled => "event_triggers_enabled"
  | scheduledTasksEnabled => "scheduled_tasks_enabled"
  | checkIntervalSeconds => "scheduled_tasks_check_interval_seconds"
  | maxConcurrent => "scheduled_tasks_max_concurrent"
  | defaultTimeoutSeconds => "scheduled_tasks_default_timeout_seconds"

/-- Source: `assistant.rs`, the types of the fields -/
def kind : AssistantField → Kind
  | maxSessionMessages | maxConcurrent => .unsigned 32
  | checkIntervalSeconds | defaultTimeoutSeconds => .unsigned 64
  | _ => .flag

/-- Source: `assistant.rs`, the defaults of the fields -/
def default : (field : AssistantField) → field.kind.Carrier
  | enabled => false
  | maxSessionMessages => 100#32
  | autoSummarize => true
  | eventTriggersEnabled => false
  | scheduledTasksEnabled => false
  | checkIntervalSeconds => 30#64
  | maxConcurrent => 1#32
  | defaultTimeoutSeconds => 120#64

lemma mem_all (field : AssistantField) : field ∈ all := by cases field <;> simp [all]

lemma nodup_keys : (all.map key).Nodup := by simp [all, key]

end AssistantField

/-- The categories of tools. Source: `agent_control.rs`, `AgentControlConfig` -/
inductive ToolCategory
  | analysis
  | portfolio
  | trading
  | config
  | system
  deriving DecidableEq

namespace ToolCategory

/-- Every category, in the order of the migration. -/
def all : List ToolCategory := [analysis, portfolio, trading, config, system]

/-- The key in `[agent_control]`. Source: `migrate.rs`, the fields of `fill_agent!` -/
def key : ToolCategory → String
  | analysis => "analysis"
  | portfolio => "portfolio"
  | trading => "trading"
  | config => "config"
  | system => "system"

/-- The key in `[ai]`. Source: `migrate.rs`, `LegacyAi` and the options of `fill_agent!` -/
def legacyKey : ToolCategory → String
  | analysis => "tool_permissions_analysis"
  | portfolio => "tool_permissions_portfolio"
  | trading => "tool_permissions_trading"
  | config => "tool_permissions_config"
  | system => "tool_permissions_system"

lemma mem_all (category : ToolCategory) : category ∈ all := by cases category <;> simp [all]

lemma nodup_keys : (all.map key).Nodup := by simp [all, key]

end ToolCategory

/-- A setting that the migration fills. -/
inductive Leaf
  | llmEnabled
  | defaultProvider
  | provider (name : ProviderName) (field : ProviderField)
  | analysis (field : AnalysisField)
  | assistant (field : AssistantField)
  | agentEnabled
  | permission (category : ToolCategory)
  deriving DecidableEq

namespace Leaf

/-- Every setting that the migration fills. -/
def all : List Leaf :=
  [llmEnabled, defaultProvider] ++
    (ProviderName.all.flatMap fun name => ProviderField.all.map (provider name)) ++
    AnalysisField.all.map analysis ++ AssistantField.all.map assistant ++
    ToolCategory.all.map permission ++ [agentEnabled]

lemma mem_all (leaf : Leaf) : leaf ∈ all := by
  cases leaf <;> simp [all, ProviderName.mem_all, ProviderField.mem_all, AnalysisField.mem_all,
    AssistantField.mem_all, ToolCategory.mem_all]

/-- Where a setting stands. -/
def path : Leaf → List String
  | llmEnabled => ["llm", "enabled"]
  | defaultProvider => ["llm", "default_provider"]
  | provider name field => ["llm", "providers", name.key, field.key name]
  | analysis field => ["llm_analysis", field.key]
  | assistant field => ["assistant", field.key]
  | agentEnabled => ["agent_control", "enabled"]
  | permission category => ["agent_control", category.key]

/-- Its key in `[ai]`, of the settings that are fields there.
Source: `migrate.rs`, `LegacyAi` -/
def aiKey : Leaf → Option String
  | llmEnabled => some "enabled"
  | defaultProvider => some "default_provider"
  | analysis field => some field.legacyKey
  | assistant field => some field.legacyKey
  | permission category => some category.legacyKey
  | provider _ _ | agentEnabled => none

/-- What a setting is read as. -/
def kind : Leaf → Kind
  | llmEnabled => .flag
  | defaultProvider => .text
  | provider _ .enabled => .flag
  | provider _ .credential => .text
  | provider _ .model => .text
  | provider _ .rateLimitPerMinute => .unsigned 32
  | analysis field => field.kind
  | assistant field => field.kind
  | agentEnabled => .flag
  | permission _ => .text

/-- The values of a setting. -/
abbrev Carrier (leaf : Leaf) : Type := leaf.kind.Carrier

/-- Its default.
Source: `llm.rs`, `llm_analysis.rs`, `assistant.rs`, `agent_control.rs`, the defaults of the fields -/
def default : (leaf : Leaf) → leaf.Carrier
  | llmEnabled => false
  | defaultProvider => "openai"
  | provider _ .enabled => false
  | provider .ollama .credential => "http://localhost:11434"
  | provider _ .credential => ""
  | provider .ollama .model => "llama3.2"
  | provider _ .model => ""
  | provider .ollama .rateLimitPerMinute => 120#32
  | provider _ .rateLimitPerMinute => 60#32
  | analysis field => field.default
  | assistant field => field.default
  | agentEnabled => true
  | permission _ => "allow"

end Leaf

/-! ## What is set -/

/-- The settings that a document sets. -/
abbrev Settings := (leaf : Leaf) → Option leaf.Carrier

/-- The settings out of what is written for them; nothing of it may be of another kind. -/
def readEntries (read : (kind : Kind) → Value → Option kind.Carrier)
    (written : Leaf → Option Value) : Option Settings :=
  if Leaf.all.all fun leaf => (written leaf).all fun value => (read leaf.kind value).isSome then
    some fun leaf => (written leaf).bind (read leaf.kind)
  else none

lemma of_readEntries {read : (kind : Kind) → Value → Option kind.Carrier}
    {written : Leaf → Option Value} {settings : Settings}
    (h : readEntries read written = some settings) (leaf : Leaf) :
    settings leaf = (written leaf).bind (read leaf.kind) ∧
      (settings leaf).isSome = (written leaf).isSome := by
  unfold readEntries at h
  split at h
  · next hall =>
    obtain rfl := Option.some.inj h
    refine ⟨rfl, ?_⟩
    have hleaf := List.all_eq_true.mp hall leaf leaf.mem_all
    cases hwritten : written leaf with
    | none => simp [hwritten]
    | some value => simpa [hwritten] using hleaf
  · cases h

/-- The configuration: the settings that the migration fills, the tabs of the navigation, and the
rest. Source: `schemas/mod.rs` -/
structure Config (Rest : Type) where
  leaf : (leaf : Leaf) → leaf.Carrier
  tabs : List TabConfig
  rest : Rest

namespace Config

variable {Rest : Type} (config : Config Rest)

/-- One setting is written. -/
def set (leaf : Leaf) (value : leaf.Carrier) : Config Rest :=
  { config with leaf := Function.update config.leaf leaf value }

@[simp] lemma tabs_set (leaf : Leaf) (value : leaf.Carrier) :
    (config.set leaf value).tabs = config.tabs := rfl

@[simp] lemma rest_set (leaf : Leaf) (value : leaf.Carrier) :
    (config.set leaf value).rest = config.rest := rfl

@[simp] lemma leaf_set_self (leaf : Leaf) (value : leaf.Carrier) :
    (config.set leaf value).leaf leaf = value := Function.update_self _ _ _

lemma leaf_set_of_ne {leaf other : Leaf} (h : other ≠ leaf) (value : leaf.Carrier) :
    (config.set leaf value).leaf other = config.leaf other :=
  Function.update_of_ne h _ _

end Config

end Dripline.Configuration

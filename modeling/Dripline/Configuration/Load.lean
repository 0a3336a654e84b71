import Dripline.Configuration.Migrate

/-!
# Loading and reloading

`config/utils.rs`. Both paths read the file, migrate it, bring the tabs up, and write it back if
there was something to migrate, before the configuration is active.

* `migrated_iff` — what becomes active is migrated exactly when the file is careful.
* `foldl_run_loaded` — further runs change nothing.

A source without a file is in `utils.rs`.
-/

namespace Dripline.Configuration

open List

variable {Rest : Type}

/-! ## Reading and writing -/

/-- The sections that hold the settings. -/
def sectionPaths : List (List String) :=
  ["llm"] :: ["llm", "providers"] ::
    ProviderName.all.map (fun name => ["llm", "providers", name.key]) ++
    [["llm_analysis"], ["assistant"], ["agent_control"]]

/-- Each of the sections is a table, or not there. -/
def tabular (root : Table) : Bool :=
  sectionPaths.all fun path => (nestedLeaf root path).all fun value => value.asTable.isSome

namespace Toml

variable (toml : Toml Rest)

/-- What a document sets. -/
def sections (root : Table) : Except String Settings :=
  if tabular root then
    match readEntries Kind.read fun leaf => nestedLeaf root leaf.path with
    | some explicit => .ok explicit
    | none => .error (toml.complaint (.table root))
  else toml.positional root

/-- What is not set has its default. Source: `toml::from_str::<Config>`; `macros.rs`,
`#[serde(default)]` -/
def fromStr (root : Table) : Except String (Config Rest) := do
  let explicit ← toml.sections root
  let others ← toml.others root
  pure { leaf := fun leaf => (explicit leaf).getD leaf.default, tabs := others.1, rest := others.2 }

end Toml

/-- A setting, as it is written. -/
def writeLeaf (config : Config Rest) (leaf : Leaf) : Value := leaf.kind.write (config.leaf leaf)

/-- The settings of a provider, as they are written. -/
def writeProvider (config : Config Rest) (name : ProviderName) : Value :=
  .table (ProviderField.all.map fun field =>
    (field.key name, writeLeaf config (.provider name field)))

/-- The sections, as they are written. -/
def writeSections (config : Config Rest) : Table :=
  [("llm", .table
      [("enabled", writeLeaf config .llmEnabled),
        ("default_provider", writeLeaf config .defaultProvider),
        ("providers", .table (ProviderName.all.map fun name =>
          (name.key, writeProvider config name)))]),
    ("llm_analysis", .table (AnalysisField.all.map fun field =>
      (field.key, writeLeaf config (.analysis field)))),
    ("assistant", .table (AssistantField.all.map fun field =>
      (field.key, writeLeaf config (.assistant field)))),
    ("agent_control", .table (("enabled", writeLeaf config .agentEnabled) ::
      ToolCategory.all.map fun category => (category.key, writeLeaf config (.permission category))))]

/-- The document that a configuration is written as. Source: `toml::to_string_pretty(config)` -/
def Toml.written (toml : Toml Rest) (config : Config Rest) : Option Table :=
  if Leaf.all.all fun leaf => leaf.kind.writable (config.leaf leaf) then
    (toml.writeOthers config.tabs config.rest).map (writeSections config ++ ·)
  else none

/-- What is relied on of the library. -/
structure Documented (toml : Toml Rest) : Prop where
  /-- What stands under a key is what is set. -/
  keyed : ∀ root explicit, toml.positional root = .ok explicit → ∀ leaf value,
    nestedLeaf root leaf.path = some value →
      ∃ own, leaf.kind.read value = some own ∧ explicit leaf = some own
  /-- What was written is read. -/
  others_written : ∀ (config : Config Rest) tabs rest table,
    toml.writeOthers tabs rest = some table →
      toml.others (writeSections config ++ table) = .ok (tabs, rest)
  /-- Only sections of the schema are written. -/
  schema : ∀ tabs rest table, toml.writeOthers tabs rest = some table →
    table.lookup "ai" = none ∧ table.lookup "agents" = none

/-! ## The two paths -/

/-- The file, as it parses, and the active configuration. -/
structure Store (Rest : Type) where
  file : Option (Except String Table)
  active : Option (Config Rest)

/-- What the system, and the checks on a configuration, answer. -/
structure Env (Rest : Type) where
  readFile : Except Error Unit
  writeFile : Except Error Unit
  lock : Except Error Unit
  validate : Config Rest → Except Error Unit
  defaults : Config Rest

variable (toml : Toml Rest) (env : Env Rest)

/-- What both paths do with a file. Source: `load_config_from_path`, `reload_config_from_path` -/
def prepare (path : String) (contents : Except String Table) : Except Error (Config Rest × Bool) :=
  let failed := fun e => Error.parseFailed ("Failed to parse config file '" ++ path ++ "': " ++ e)
  match contents with
  | .error e => .error (failed e)
  | .ok root =>
    match toml.fromStr root with
    | .error e => .error (failed e)
    | .ok config =>
      match migrateLegacySections toml root config with
      | .error e => .error e
      | .ok (config, migrated) =>
        .ok ({ config with tabs := ensureAllTabsPresent config.tabs }, migrated)

/-- Source: `write_config_atomic` -/
def writeConfigAtomic (config : Config Rest) (store : Store Rest) : Except Error Unit × Store Rest :=
  match toml.written config with
  | none => (.error (.writeFailed "Failed to serialize migrated config"), store)
  | some table =>
    match env.writeFile with
    | .error e => (.error e, store)
    | .ok () => (.ok (), { store with file := some (.ok table) })

/-- Only what was migrated is written. Source: `if migrated` -/
def writeMigrated (migrated : Bool) (config : Config Rest) (store : Store Rest) :
    Except Error Unit × Store Rest :=
  if migrated then writeConfigAtomic toml env config store else (.ok (), store)

/-- The first configuration, and no other, becomes active. Source: `CONFIG.set` -/
def initialise (config : Config Rest) (store : Store Rest) : Except Error Unit × Store Rest :=
  if store.active.isSome then (.error (.configuration "Config already initialized"), store)
  else (.ok (), { store with active := some config })

/-- Source: `load_config_from_path` -/
def loadConfigFromPath (path : String) (store : Store Rest) : Except Error Unit × Store Rest :=
  match store.file with
  | none => initialise { env.defaults with tabs := ensureAllTabsPresent env.defaults.tabs } store
  | some contents =>
    match env.readFile with
    | .error e => (.error e, store)
    | .ok () =>
      match prepare toml path contents with
      | .error e => (.error e, store)
      | .ok (config, migrated) =>
        match writeMigrated toml env migrated config store with
        | (.error e, store) => (.error e, store)
        | (.ok (), store) => initialise config store

/-- The active configuration is replaced. Source: `utils.rs`, the end of `reload_config_from_path` -/
def replace (config : Config Rest) (store : Store Rest) : Except Error Unit × Store Rest :=
  if store.active.isSome then
    match env.lock with
    | .error e => (.error e, store)
    | .ok () => (.ok (), { store with active := some config })
  else (.error .notLoaded, store)

/-- Source: `reload_config_from_path` -/
def reloadConfigFromPath (path : String) (store : Store Rest) : Except Error Unit × Store Rest :=
  match store.file with
  | none => (.error (.io ("Failed to read config file '" ++ path ++ "'")), store)
  | some contents =>
    match env.readFile with
    | .error e => (.error e, store)
    | .ok () =>
      match prepare toml path contents with
      | .error e => (.error e, store)
      | .ok (config, migrated) =>
        match env.validate config with
        | .error e => (.error e, store)
        | .ok () =>
          match writeMigrated toml env migrated config store with
          | (.error e, store) => (.error e, store)
          | (.ok (), store) => replace env config store

/-- The two ways in which a configuration becomes active. -/
inductive Entry
  | load
  | reload

/-- A path is run. -/
def Entry.run (path : String) (store : Store Rest) : Entry → Except Error Unit × Store Rest
  | load => loadConfigFromPath toml env path store
  | reload => reloadConfigFromPath toml env path store

/-! ## What is active afterwards -/

variable {toml env} {migrated : Bool} {config : Config Rest} {store : Store Rest}

lemma active_writeMigrated {store' : Store Rest} {result : Except Error Unit}
    (h : writeMigrated toml env migrated config store = (result, store')) :
    store'.active = store.active := by
  unfold writeMigrated writeConfigAtomic at h
  split at h
  · split at h
    · cases h
      rfl
    · split at h
      · cases h
        rfl
      · cases h
        rfl
  · cases h
    rfl

/-- What a run does to the active configuration: nothing where it fails, and otherwise it is what the
file was prepared to. -/
def Activates (prepared : Except Error (Config Rest × Bool)) (before after : Store Rest)
    (result : Except Error Unit) : Prop :=
  match result with
  | .error _ => after.active = before.active
  | .ok () => ∃ config migrated, prepared = .ok (config, migrated) ∧ after.active = some config

variable {prepared : Except Error (Config Rest × Bool)} {before : Store Rest}

lemma activates_initialise (hprepared : prepared = .ok (config, migrated))
    (hactive : store.active = before.active) :
    Activates prepared before (initialise config store).2 (initialise config store).1 := by
  unfold initialise
  split
  · exact hactive
  · exact ⟨config, migrated, hprepared, rfl⟩

lemma activates_replace (hprepared : prepared = .ok (config, migrated))
    (hactive : store.active = before.active) :
    Activates prepared before (replace env config store).2 (replace env config store).1 := by
  unfold replace
  split
  · split
    · exact hactive
    · exact ⟨config, migrated, hprepared, rfl⟩
  · exact hactive

lemma activates_run (entry : Entry) (path : String) {contents : Except String Table}
    (hfile : store.file = some contents) :
    Activates (prepare toml path contents) store (entry.run toml env path store).2
      (entry.run toml env path store).1 := by
  cases entry with
  | load =>
    unfold Entry.run loadConfigFromPath
    rw [hfile]
    simp only
    split
    · rfl
    · split
      · rfl
      · next config migrated hprepared =>
        split
        · next hwrite => exact active_writeMigrated hwrite
        · next hwrite => exact activates_initialise hprepared (active_writeMigrated hwrite)
  | reload =>
    unfold Entry.run reloadConfigFromPath
    rw [hfile]
    simp only
    split
    · rfl
    · split
      · rfl
      · next config migrated hprepared =>
        split
        · rfl
        · split
          · next hwrite => exact active_writeMigrated hwrite
          · next hwrite => exact activates_replace hprepared (active_writeMigrated hwrite)

/-! ## What is written is settled -/

lemma nestedLeaf_written (config : Config Rest) (table : Table) (leaf : Leaf) :
    nestedLeaf (writeSections config ++ table) leaf.path = some (writeLeaf config leaf) := by
  cases leaf with
  | llmEnabled => simp [writeSections, Leaf.path]
  | defaultProvider | agentEnabled => simp [writeSections, Leaf.path, lookup_cons]
  | provider name field =>
    have hname := lookup_map ProviderName.nodup_keys (writeProvider config) name.mem_all
    have hfield := lookup_map (ProviderField.nodup_keys name)
      (fun field => writeLeaf config (.provider name field)) field.mem_all
    have hfields : (writeProvider config name).asTable = some (ProviderField.all.map fun field =>
        (field.key name, writeLeaf config (.provider name field))) := rfl
    simp [writeSections, Leaf.path, lookup_cons, hname, hfields, hfield]
  | analysis field =>
    have hfield := lookup_map AnalysisField.nodup_keys
      (fun field => writeLeaf config (.analysis field)) field.mem_all
    simp [writeSections, Leaf.path, lookup_cons, hfield]
  | assistant field =>
    have hfield := lookup_map AssistantField.nodup_keys
      (fun field => writeLeaf config (.assistant field)) field.mem_all
    simp [writeSections, Leaf.path, lookup_cons, hfield]
  | permission category =>
    have hfield := lookup_map ToolCategory.nodup_keys
      (fun category => writeLeaf config (.permission category)) category.mem_all
    have hother : (category.key == "enabled") = false := by
      cases category <;> simp [ToolCategory.key]
    simp [writeSections, Leaf.path, lookup_cons, hother, hfield]

lemma tabular_written (config : Config Rest) (table : Table) :
    tabular (writeSections config ++ table) = true := by
  have hprovider : ∀ name : ProviderName,
      nestedLeaf (writeSections config ++ table) ["llm", "providers", name.key] =
        some (writeProvider config name) := by
    intro name
    have hname := lookup_map ProviderName.nodup_keys (writeProvider config) name.mem_all
    simp [writeSections, lookup_cons, hname]
  unfold tabular sectionPaths
  rw [cons_append, cons_append, all_cons, all_cons, all_append,
    all_map, all_eq_true.mpr]
  · simp [writeSections, lookup_cons]
  · intro name _
    simp [hprovider, writeProvider]

lemma sections_written (toml : Toml Rest) (config : Config Rest) (table : Table) :
    toml.sections (writeSections config ++ table) = .ok fun leaf => some (config.leaf leaf) := by
  have hread : readEntries Kind.read (fun leaf => nestedLeaf
      (writeSections config ++ table) leaf.path) =
      some fun leaf => some (config.leaf leaf) := by
    simp only [nestedLeaf_written, readEntries, Option.all_some, writeLeaf, Kind.read_write,
      Option.isSome_some, Option.bind_some]
    simp
  rw [Toml.sections, tabular_written, if_pos rfl, hread]

variable {table : Table}

lemma fromStr_written (h : Documented toml) (hwritten : toml.written config = some table) :
    toml.fromStr table = .ok config ∧
      table.lookup "ai" = none ∧ table.lookup "agents" = none := by
  unfold Toml.written at hwritten
  split at hwritten
  · obtain ⟨others, hothers, rfl⟩ := Option.map_eq_some_iff.mp hwritten
    obtain ⟨hai, hagents⟩ := h.schema _ _ _ hothers
    refine ⟨?_, ?_, ?_⟩
    · rw [Toml.fromStr, sections_written, h.others_written config _ _ _ hothers]
      rfl
    · simpa [writeSections, lookup_cons] using hai
    · simpa [writeSections, lookup_cons] using hagents
  · cases hwritten

lemma prepare_written (h : Documented toml) (htabs : ensureAllTabsPresent config.tabs = config.tabs)
    (hwritten : toml.written config = some table) (path : String) :
    prepare toml path (.ok table) = .ok (config, false) := by
  obtain ⟨hload, hai, hagents⟩ := fromStr_written h hwritten
  have hmigrate : migrateLegacySections toml table config = .ok (config, false) := by
    rw [migrateLegacySections, hai, hagents]
    rfl
  simp only [prepare, hload, hmigrate, htabs]

/-! ## What the migration yields -/

/-- Each setting is the file's own, or else the legacy one, or else the default; the rest is as it
loads; and to write it and prepare it again changes nothing. -/
structure Migrated (toml : Toml Rest) (root : Table) (config : Config Rest) : Prop where
  mapped : ∃ explicit, toml.sections root = .ok explicit ∧ ∀ leaf, config.leaf leaf =
    ((explicit leaf).or (legacySettings toml root leaf)).getD leaf.default
  unmapped : ∃ loaded, toml.fromStr root = .ok loaded ∧
    config.tabs = ensureAllTabsPresent loaded.tabs ∧ config.rest = loaded.rest
  settled : ∀ table, toml.written config = some table →
    ∀ path, prepare toml path (.ok table) = .ok (config, false)

/-- No section that is not a table sets anything else than the legacy sections do. -/
def Careful (toml : Toml Rest) (root : Table) : Prop :=
  ∀ explicit, toml.sections root = .ok explicit →
    ∀ leaf, (nestedLeaf root leaf.path).isNone → ∀ own legacy, explicit leaf = some own →
      legacySettings toml root leaf = some legacy → own = legacy

variable {root : Table}

lemma isSome_of_nestedLeaf (h : Documented toml) {explicit : Settings}
    (hsections : toml.sections root = .ok explicit) {leaf : Leaf}
    (hleaf : (nestedLeaf root leaf.path).isNone = false) : (explicit leaf).isSome := by
  rw [Option.isNone_eq_false_iff] at hleaf
  unfold Toml.sections at hsections
  split at hsections
  · split at hsections
    · next hread =>
      cases hsections
      rw [(of_readEntries hread leaf).2]
      exact hleaf
    · cases hsections
  · obtain ⟨value, hvalue⟩ := Option.isSome_iff_exists.mp hleaf
    obtain ⟨own, -, hown⟩ := h.keyed _ _ hsections leaf value hvalue
    rw [hown]
    rfl

lemma careful_of_tabular (h : tabular root = true) : Careful toml root := by
  intro explicit hsections leaf hnone own legacy hown
  rw [Toml.sections, if_pos h] at hsections
  split at hsections
  · next hread =>
    cases hsections
    have hsome := (of_readEntries hread leaf).2
    rw [hown, Option.isNone_iff_eq_none.mp hnone] at hsome
    cases hsome
  · cases hsections

lemma of_fromStr {loaded : Config Rest} (h : toml.fromStr root = .ok loaded) :
    ∃ explicit, toml.sections root = .ok explicit ∧
      ∀ leaf, loaded.leaf leaf = (explicit leaf).getD leaf.default := by
  cases hsections : toml.sections root with
  | error e =>
    simp only [Toml.fromStr, hsections, bind, Except.bind] at h
    cases h
  | ok explicit =>
    cases hothers : toml.others root with
    | error e =>
      simp only [Toml.fromStr, hsections, hothers, bind, Except.bind] at h
      cases h
    | ok others =>
      simp only [Toml.fromStr, hsections, hothers, bind, Except.bind, pure, Except.pure,
        Except.ok.injEq] at h
      exact ⟨explicit, rfl, fun _ => h ▸ rfl⟩

lemma of_prepare {path : String} (hprepared : prepare toml path (.ok root) = .ok (config, migrated)) :
    ∃ explicit loaded, toml.sections root = .ok explicit ∧ toml.fromStr root = .ok loaded ∧
      config.tabs = ensureAllTabsPresent loaded.tabs ∧ config.rest = loaded.rest ∧
      ∀ leaf, config.leaf leaf = if (nestedLeaf root leaf.path).isNone then
        (legacySettings toml root leaf).getD ((explicit leaf).getD leaf.default)
      else (explicit leaf).getD leaf.default := by
  unfold prepare at hprepared
  simp only at hprepared
  split at hprepared
  · cases hprepared
  · next loaded hloaded =>
    split at hprepared
    · cases hprepared
    · next filled changed hfilled =>
      obtain ⟨rfl, -⟩ := Prod.mk.inj (Except.ok.inj hprepared)
      have hfills := (migrateLegacySections_spec hfilled).2
      obtain ⟨explicit, hsections, hleaf⟩ := of_fromStr hloaded
      refine ⟨explicit, loaded, hsections, hloaded, ?_, hfills.rest, fun leaf => ?_⟩
      · rw [← hfills.tabs]
      · rw [← hleaf leaf]
        have hfilled := hfills.leaf leaf
        simp only [leaf.mem_all, true_and] at hfilled
        exact hfilled

lemma getD_or_iff {α : Type} {own legacy : Option α} {other : α} :
    legacy.getD (own.getD other) = (own.or legacy).getD other ↔
      ∀ a b, own = some a → legacy = some b → a = b := by
  cases own <;> cases legacy <;> simp [eq_comm]

/-- **The migration is exact on careful files**, and on no others: what becomes active is migrated,
and a run that fails changes nothing. -/
theorem migrated_iff (h : Documented toml) {root : Table} {store : Store Rest}
    (hfile : store.file = some (.ok root)) (entry : Entry) (path : String) :
    (∀ e, (entry.run toml env path store).1 = .error e →
      (entry.run toml env path store).2.active = store.active) ∧
    ((entry.run toml env path store).1 = .ok () →
      ∃ config, (entry.run toml env path store).2.active = some config ∧
        (Migrated toml root config ↔ Careful toml root)) := by
  have hrun : Activates (prepare toml path (.ok root)) store (entry.run toml env path store).2
      (entry.run toml env path store).1 := activates_run entry path hfile
  constructor
  · intro e he
    rw [he] at hrun
    exact hrun
  · intro hok
    rw [hok] at hrun
    obtain ⟨config, migrated, hprepared, hactive⟩ := hrun
    obtain ⟨explicit, loaded, hsections, hloaded, htabs, hrest, hleaf⟩ := of_prepare hprepared
    refine ⟨config, hactive, ?_⟩
    constructor
    · rintro ⟨⟨explicit', hsections', hmapped⟩, -, -⟩ other hother leaf hnone
      obtain rfl := Except.ok.inj (hsections.symm.trans hsections')
      obtain rfl := Except.ok.inj (hsections.symm.trans hother)
      have hvalue := (hleaf leaf).symm.trans (hmapped leaf)
      rw [if_pos hnone] at hvalue
      exact getD_or_iff.mp hvalue
    · intro hcareful
      refine ⟨⟨explicit, hsections, fun leaf => ?_⟩, ⟨loaded, hloaded, htabs, hrest⟩, ?_⟩
      · rw [hleaf leaf]
        split
        · next hnone => exact getD_or_iff.mpr (hcareful explicit hsections leaf hnone)
        · next hsome =>
          obtain ⟨own, hown⟩ := Option.isSome_iff_exists.mp
            (isSome_of_nestedLeaf h hsections (eq_false_of_ne_true hsome))
          rw [hown]
          rfl
      · intro table htable path'
        refine prepare_written h ?_ htable path'
        rw [htabs, ensureAllTabsPresent_idem]

/-! ## A library that reads sections by position -/

/-- A tab, as it is written. -/
def writeTab (tab : TabConfig) : Value :=
  .table [("id", .string tab.id), ("label", .string tab.label), ("icon", .string tab.icon),
    ("order", .integer tab.order), ("enabled", .boolean tab.enabled)]

/-- A tab, as it is read. -/
def readTab (value : Value) : Option TabConfig := do
  let entries ← value.asTable
  let id ← (← entries.lookup "id").asStr
  let label ← (← entries.lookup "label").asStr
  let icon ← (← entries.lookup "icon").asStr
  let order ← (← entries.lookup "order").asInteger
  let enabled ← (← entries.lookup "enabled").asBool
  some ⟨id, label, icon, order.toNat, enabled⟩

lemma readTab_writeTab (tab : TabConfig) : readTab (writeTab tab) = some tab := by
  simp [readTab, writeTab, lookup_cons, Value.asStr, Value.asInteger, Value.asBool]

lemma mapM_readTab (tabs : List TabConfig) : (tabs.map writeTab).mapM readTab = some tabs := by
  induction tabs with
  | nil => rfl
  | cons tab tabs ih =>
    rw [map_cons, mapM_cons, readTab_writeTab, ih]
    rfl

/-- The tabs of a document; the defaults where it has none. -/
def readTabs (root : Table) : Option (List TabConfig) :=
  match nestedLeaf root ["gui", "dashboard", "navigation", "tabs"] with
  | none => some defaultTabs
  | some (.array items) => items.mapM readTab
  | some _ => none

/-- The tabs alone, as they are written. -/
def writeTabs (tabs : List TabConfig) : Table :=
  [("gui", .table [("dashboard", .table [("navigation", .table
    [("tabs", .array (tabs.map writeTab))])])])]

/-- A library for files with nothing but the settings and the tabs: `[llm]` may be an array, of its
first field alone. -/
def firstField : Toml Unit where
  positional := fun root =>
    match root.lookup "llm", readEntries Kind.read fun leaf => nestedLeaf root leaf.path with
    | some (.array [.boolean enabled]), some settings =>
      .ok (Function.update settings .llmEnabled (some enabled))
    | _, _ => .error "invalid type"
  positionalAi := fun _ => .error "invalid type"
  positionalAgents := fun _ => .error "invalid type"
  others := fun root =>
    match readTabs root with
    | some tabs => .ok (tabs, ())
    | none => .error "invalid type"
  writeOthers := fun tabs _ => some (writeTabs tabs)
  complaint := fun _ => "invalid type"

lemma documented_firstField : Documented firstField := by
  refine ⟨?_, ?_, ?_⟩
  · intro root explicit hread leaf value hvalue
    unfold firstField at hread
    simp only at hread
    split at hread
    · next enabled settings _ hsettings =>
      obtain rfl := Except.ok.inj hread
      obtain ⟨hown, hsome⟩ := of_readEntries hsettings leaf
      rw [hvalue] at hown hsome
      obtain ⟨own, hleaf⟩ := Option.isSome_iff_exists.mp hsome
      refine ⟨own, hown.symm.trans hleaf, ?_⟩
      have hother : leaf ≠ .llmEnabled := by
        rintro rfl
        rename_i hllm
        simp [Leaf.path, hllm, Value.asTable] at hvalue
      rw [Function.update_of_ne hother, hleaf]
    · cases hread
  · rintro config tabs ⟨⟩ table htable
    obtain rfl := Option.some.inj htable
    have htabs : readTabs (writeSections config ++ writeTabs tabs) = some tabs := by
      have harray : nestedLeaf (writeSections config ++ writeTabs tabs)
          ["gui", "dashboard", "navigation", "tabs"] = some (.array (tabs.map writeTab)) := by
        simp [writeSections, writeTabs, lookup_cons]
      rw [readTabs, harray]
      exact mapM_readTab tabs
    simp only [firstField, htabs]
  · intro tabs rest table htable
    obtain rfl := Option.some.inj htable
    constructor <;> simp [writeTabs, lookup_cons]

/-- Everything the system is asked for succeeds. -/
def plainEnv : Env Unit where
  readFile := .ok ()
  writeFile := .ok ()
  lock := .ok ()
  validate := fun _ => .ok ()
  defaults := { leaf := Leaf.default, tabs := defaultTabs, rest := () }

/-- A file of the legacy section alone. -/
def legacyOnly : Store Unit where
  file := some (.ok [("ai", .table [("enabled", .boolean true)])])
  active := none

theorem migrated_iff_legacyOnly :
    ∃ config, (Entry.load.run firstField plainEnv "config.toml" legacyOnly).2.active = some config ∧
      Migrated firstField [("ai", .table [("enabled", .boolean true)])] config := by
  have hfile : legacyOnly.file = some (.ok [("ai", .table [("enabled", .boolean true)])]) := rfl
  have hok : (Entry.load.run firstField plainEnv "config.toml" legacyOnly).1 = .ok () := by
    decide +kernel
  obtain ⟨config, hactive, hiff⟩ :=
    (migrated_iff documented_firstField hfile .load "config.toml").2 hok
  exact ⟨config, hactive, hiff.mpr (careful_of_tabular (by decide +kernel))⟩

/-! ## Runs after the first -/

/-- The file that a store has is read as what is active, and has nothing to migrate. -/
structure Loaded (toml : Toml Rest) (path : String) (store : Store Rest) : Prop where
  active : store.active.isSome = true
  prepared : ∀ contents, store.file = some contents →
    ∃ config, store.active = some config ∧ prepare toml path contents = .ok (config, false)

lemma Loaded.run {path : String} (h : Loaded toml path store) (entry : Entry) (env : Env Rest) :
    (entry.run toml env path store).2 = store := by
  obtain ⟨file, active⟩ := store
  obtain ⟨active, rfl⟩ := Option.isSome_iff_exists.mp h.active
  cases file with
  | none => cases entry <;> rfl
  | some contents =>
    obtain ⟨config, ⟨⟩, hprepared⟩ := h.prepared contents rfl
    cases entry with
    | load =>
      simp only [Entry.run, loadConfigFromPath, hprepared, writeMigrated, initialise]
      cases env.readFile <;> rfl
    | reload =>
      simp only [Entry.run, reloadConfigFromPath, hprepared, writeMigrated, replace]
      cases env.readFile <;> cases env.validate active <;> cases env.lock <;> rfl

lemma tabs_of_prepare {path : String} {contents : Except String Table}
    (h : prepare toml path contents = .ok (config, migrated)) :
    ensureAllTabsPresent config.tabs = config.tabs := by
  cases contents with
  | error e => cases h
  | ok root =>
    obtain ⟨-, loaded, -, -, htabs, -⟩ := of_prepare h
    rw [htabs, ensureAllTabsPresent_idem]

lemma prepare_writeMigrated (h : Documented toml) {path : String} {contents : Except String Table}
    (hfile : store.file = some contents)
    (hprepared : prepare toml path contents = .ok (config, migrated)) {store' : Store Rest}
    (hwrite : writeMigrated toml env migrated config store = (.ok (), store')) :
    ∀ contents', store'.file = some contents' → prepare toml path contents' = .ok (config, false) := by
  unfold writeMigrated writeConfigAtomic at hwrite
  cases migrated with
  | false =>
    cases hwrite
    rintro _ hfile'
    obtain rfl := Option.some.inj (hfile.symm.trans hfile')
    exact hprepared
  | true =>
    rw [if_pos rfl] at hwrite
    split at hwrite
    · cases hwrite
    · next table htable =>
      split at hwrite
      · cases hwrite
      · cases hwrite
        rintro _ ⟨⟩
        exact prepare_written h (tabs_of_prepare hprepared) htable path

lemma of_run_ok {entry : Entry} {path : String} {contents : Except String Table}
    (hfile : store.file = some contents) (hok : (entry.run toml env path store).1 = .ok ()) :
    ∃ config migrated written, prepare toml path contents = .ok (config, migrated) ∧
      writeMigrated toml env migrated config store = (.ok (), written) ∧
      (entry.run toml env path store).2 = { written with active := some config } := by
  cases entry with
  | load =>
    simp only [Entry.run, loadConfigFromPath, hfile] at hok ⊢
    iterate 3
      split at hok
      · cases hok
    rename_i hprepared _ _ hwrite
    unfold initialise at hok
    split at hok
    · cases hok
    · next hnone =>
      exact ⟨_, _, _, hprepared, hwrite, by simp only [initialise, if_neg hnone]⟩
  | reload =>
    simp only [Entry.run, reloadConfigFromPath, hfile] at hok ⊢
    iterate 4
      split at hok
      · cases hok
    rename_i hprepared _ _ _ _ hwrite
    unfold replace at hok
    split at hok
    · next hsome =>
      split at hok
      · cases hok
      · next hlock =>
        exact ⟨_, _, _, hprepared, hwrite, by simp only [replace, if_pos hsome, hlock]⟩
    · cases hok

lemma loaded_run (h : Documented toml) (entry : Entry) (path : String)
    (hok : (entry.run toml env path store).1 = .ok ()) :
    Loaded toml path (entry.run toml env path store).2 := by
  cases hfile : store.file with
  | none =>
    cases entry with
    | load =>
      simp only [Entry.run, loadConfigFromPath, hfile, initialise] at hok ⊢
      split at hok
      · cases hok
      · next hnone =>
        rw [if_neg hnone]
        refine ⟨rfl, fun contents hcontents => ?_⟩
        cases hcontents
    | reload =>
      simp only [Entry.run, reloadConfigFromPath, hfile] at hok
      cases hok
  | some contents =>
    obtain ⟨config, migrated, written, hprepared, hwrite, hrun⟩ := of_run_ok hfile hok
    rw [hrun]
    exact ⟨rfl, fun contents' hcontents =>
      ⟨config, rfl, prepare_writeMigrated h hfile hprepared hwrite contents' hcontents⟩⟩

/-- **Only the first run counts**: once a configuration was loaded or reloaded, no later loads and
reloads of the file, whatever the system answers them, change the file or what is active. -/
theorem foldl_run_loaded (h : Documented toml) (entry : Entry) (path : String)
    (hok : (entry.run toml env path store).1 = .ok ()) (later : List (Entry × Env Rest)) :
    later.foldl (fun store next => (next.1.run toml next.2 path store).2)
        (entry.run toml env path store).2 =
      (entry.run toml env path store).2 := by
  have hloaded := loaded_run h entry path hok
  induction later with
  | nil => rfl
  | cons next later ih => rw [foldl_cons, hloaded.run, ih]

theorem foldl_run_loaded_legacyOnly :
    (List.replicate 2 (Entry.reload, plainEnv)).foldl
        (fun store next => (next.1.run firstField next.2 "config.toml" store).2)
        (Entry.load.run firstField plainEnv "config.toml" legacyOnly).2 =
      (Entry.load.run firstField plainEnv "config.toml" legacyOnly).2 :=
  foldl_run_loaded documented_firstField .load "config.toml" (by decide +kernel) _

/-- A file that switches the models on in `[ai]`, and off in the first field of `[llm]`. -/
def switchedOff : Table :=
  [("llm", .array [.boolean false]), ("ai", .table [("enabled", .boolean true)])]

lemma prepares_switchedOff : (prepare firstField "config.toml" (.ok switchedOff)).isOk = true := by
  decide +kernel

/-- The first field of `[llm]` is set, and loses against the legacy key. -/
theorem not_migrated : ¬ ∀ (toml : Toml Unit), Documented toml → ∀ root path config migrated,
    prepare toml path (.ok root) = .ok (config, migrated) → Migrated toml root config := by
  intro h
  have hok := prepares_switchedOff
  cases hprepared : prepare firstField "config.toml" (.ok switchedOff) with
  | error e =>
    rw [hprepared] at hok
    cases hok
  | ok prepared =>
    obtain ⟨config, migrated⟩ := prepared
    obtain ⟨explicit, hsections, hmapped⟩ :=
      (h firstField documented_firstField _ _ _ _ hprepared).mapped
    obtain ⟨explicit', -, hsections', -, -, -, hleaf⟩ := of_prepare hprepared
    obtain rfl := Except.ok.inj (hsections.symm.trans hsections')
    have hexplicit : explicit .llmEnabled = some false := by
      have hfirst : @Eq (Option Bool)
          ((firstField.sections switchedOff).toOption.bind (· .llmEnabled)) (some false) := by
        decide +kernel
      rw [hsections] at hfirst
      exact hfirst
    have hlegacy : @Eq (Option Bool) ((switchedOff.lookup "ai").bind fun value =>
        (firstField.readAi value).toOption.bind (· .llmEnabled)) (some true) := by
      decide +kernel
    have hunset : (nestedLeaf switchedOff (Leaf.path .llmEnabled)).isNone = true := by
      decide +kernel
    have hvalue := (hleaf .llmEnabled).symm.trans (hmapped .llmEnabled)
    rw [if_pos hunset, hexplicit] at hvalue
    have hboth := (congrArg (Option.getD · false) hlegacy).symm.trans hvalue
    exact Bool.noConfusion hboth

end Dripline.Configuration

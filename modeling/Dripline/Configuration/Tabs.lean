import Dripline.Found.StableSort
import Mathlib

/-!
# The navigation tabs

`config/schemas/gui.rs`. A layout that was saved is brought up to the tabs there are now.
-/

namespace Dripline.Configuration

open List

open Found.StableSort (sortByKey)

/-- Source: `gui.rs` -/
structure TabConfig where
  id : String
  label : String
  icon : String
  order : ℕ
  enabled : Bool

/-- Source: `gui.rs` -/
def defaultTabs : List TabConfig :=
  [⟨"home", "Home", "icon-house", 0, true⟩,
    ⟨"assistant", "Assistant", "icon-bot-message-square", 1, true⟩,
    ⟨"positions", "Positions", "icon-chart-candlestick", 2, true⟩,
    ⟨"tokens", "Tokens", "icon-coins", 3, true⟩,
    ⟨"filtering", "Filtering", "icon-list-filter", 4, true⟩,
    ⟨"trader", "Auto Trader", "icon-bot", 5, true⟩,
    ⟨"copy", "Copy Trading", "icon-copy", 6, true⟩,
    ⟨"wallets", "Wallets", "icon-wallet", 7, true⟩,
    ⟨"transactions", "Transactions", "icon-activity", 8, true⟩,
    ⟨"tools", "Tools", "icon-wrench", 9, true⟩,
    ⟨"services", "Services", "icon-server", 10, true⟩,
    ⟨"events", "Events", "icon-radio-tower", 11, true⟩,
    ⟨"config", "Config", "icon-settings", 12, true⟩]

/-- An old id under its current name.
Source: `gui.rs`, the renames of `ensure_all_tabs_present` -/
def renamed (tab : TabConfig) : TabConfig :=
  let tab := if tab.id = "wallet" then { tab with id := "wallets" } else tab
  if tab.id = "ai" then { tab with id := "assistant" } else tab

/-- The first tab of each id.
Source: `gui.rs`, `tabs.retain(|t| seen.insert(t.id.clone()))` -/
def retainFirst : List String → List TabConfig → List TabConfig
  | _, [] => []
  | seen, tab :: tabs =>
    if tab.id ∈ seen then retainFirst seen tabs else tab :: retainFirst (tab.id :: seen) tabs

/-- The tab of an id among the defaults. Source: `gui.rs`, `default_map` -/
def defaultTab (id : String) : Option TabConfig := defaultTabs.find? fun tab => tab.id = id

/-- Icon and label are not the user's.
Source: `gui.rs`, the forced fields of `ensure_all_tabs_present` -/
def forced (tab : TabConfig) : TabConfig :=
  match defaultTab tab.id with
  | some known => { tab with icon := known.icon, label := known.label }
  | none => tab

/-- Where a missing tab goes: after its nearest default predecessor that is there.
Source: `gui.rs`, `position` in `ensure_all_tabs_present` -/
def position (index : ℕ) (tabs : List TabConfig) : ℕ :=
  match (defaultTabs.take index).reverse.findSome? fun previous =>
      tabs.findIdx? fun tab => tab.id = previous.id with
  | some found => found + 1
  | none => 0

/-- One default tab goes in, unless it is there.
Source: `gui.rs`, the loop over the defaults in `ensure_all_tabs_present` -/
def insertMissing (tabs : List TabConfig) (missing : TabConfig × ℕ) : List TabConfig :=
  if tabs.any fun tab => tab.id = missing.1.id then tabs
  else tabs.insertIdx (position missing.2 tabs) missing.1

/-- Source: `gui.rs`, the last loop of `ensure_all_tabs_present`: `order as u32` -/
def renumbered (tabs : List TabConfig) : List TabConfig :=
  tabs.mapIdx fun order tab => { tab with order := order % 2 ^ 32 }

/-- Source: `gui.rs` -/
def ensureAllTabsPresent (tabs : List TabConfig) : List TabConfig :=
  let tabs := retainFirst [] (tabs.map renamed)
  let tabs := tabs.filter fun tab => (defaultTab tab.id).isSome
  let tabs := sortByKey TabConfig.order (tabs.map forced)
  renumbered (defaultTabs.zipIdx.foldl insertMissing tabs)

/-! ## Layouts of known tabs -/

/-- A layout of known tabs, each once, with its icon and label. -/
structure Settled (tabs : List TabConfig) : Prop where
  distinct : (tabs.map TabConfig.id).Nodup
  known : ∀ tab ∈ tabs, ∃ default ∈ defaultTabs, default.id = tab.id ∧ default.icon = tab.icon ∧
    default.label = tab.label

lemma defaultTabs_ids : (defaultTabs.map TabConfig.id).Nodup ∧
    "wallet" ∉ defaultTabs.map TabConfig.id ∧ "ai" ∉ defaultTabs.map TabConfig.id := by
  simp [defaultTabs]

variable {tab : TabConfig}

lemma defaultTab_of_mem (h : tab ∈ defaultTabs) : defaultTab tab.id = some tab := by
  have hsome : (defaultTab tab.id).isSome := by
    rw [defaultTab, List.find?_isSome]
    exact ⟨tab, h, decide_eq_true rfl⟩
  obtain ⟨found, hfound⟩ := Option.isSome_iff_exists.mp hsome
  have hid : found.id = tab.id := by simpa using List.find?_some hfound
  rw [hfound, inj_on_of_nodup_map defaultTabs_ids.1 (mem_of_find?_eq_some hfound) h hid]

variable {tabs : List TabConfig}

lemma Settled.perm {tabs' : List TabConfig} (h : Settled tabs) (hperm : tabs'.Perm tabs) :
    Settled tabs' :=
  ⟨(hperm.map _).nodup_iff.mpr h.distinct, fun tab htab => h.known tab (hperm.mem_iff.mp htab)⟩

lemma retainFirst_spec (seen : List String) (tabs : List TabConfig) :
    ((retainFirst seen tabs).map TabConfig.id).Nodup ∧
      ∀ tab ∈ retainFirst seen tabs, tab.id ∉ seen := by
  induction tabs generalizing seen with
  | nil => simp [retainFirst]
  | cons tab tabs ih =>
    rw [retainFirst]
    split
    · exact ih seen
    · next hseen =>
      obtain ⟨hnodup, hnew⟩ := ih (tab.id :: seen)
      refine ⟨?_, ?_⟩
      · rw [map_cons, nodup_cons]
        refine ⟨?_, hnodup⟩
        intro hmem
        obtain ⟨other, hother, hid⟩ := mem_map.mp hmem
        exact hnew other hother (hid ▸ mem_cons_self)
      · intro other hother
        rcases mem_cons.mp hother with rfl | hrest
        · exact hseen
        · exact fun hmem => hnew other hrest (mem_cons_of_mem _ hmem)

lemma retainFirst_of_nodup {seen : List String} (hnodup : (tabs.map TabConfig.id).Nodup)
    (hnew : ∀ tab ∈ tabs, tab.id ∉ seen) : retainFirst seen tabs = tabs := by
  induction tabs generalizing seen with
  | nil => rfl
  | cons tab tabs ih =>
    rw [map_cons, nodup_cons] at hnodup
    rw [retainFirst, if_neg (hnew tab mem_cons_self), ih hnodup.2]
    intro other hother hmem
    rcases mem_cons.mp hmem with hid | hseen
    · exact hnodup.1 (hid ▸ mem_map_of_mem hother)
    · exact hnew other (mem_cons_of_mem _ hother) hseen

lemma settled_forced (hnodup : (tabs.map TabConfig.id).Nodup)
    (hknown : ∀ tab ∈ tabs, (defaultTab tab.id).isSome) : Settled (tabs.map forced) := by
  have hid : ∀ tab, (forced tab).id = tab.id := by
    intro tab
    unfold forced
    split <;> rfl
  refine ⟨?_, ?_⟩
  · have hids : (tabs.map forced).map TabConfig.id = tabs.map TabConfig.id := by simp [hid]
    rwa [hids]
  · intro tab htab
    obtain ⟨saved, hsaved, rfl⟩ := mem_map.mp htab
    obtain ⟨known, hdefault⟩ := Option.isSome_iff_exists.mp (hknown saved hsaved)
    have hsame : known.id = saved.id := by simpa using List.find?_some hdefault
    refine ⟨known, mem_of_find?_eq_some hdefault, ?_⟩
    rw [hid, forced, hdefault]
    exact ⟨hsame, rfl, rfl⟩

lemma forced_of_settled (h : Settled tabs) (htab : tab ∈ tabs) : forced tab = tab := by
  obtain ⟨known, hknown, hid, hicon, hlabel⟩ := h.known tab htab
  have hdefault : defaultTab tab.id = some known := hid ▸ defaultTab_of_mem hknown
  rw [forced, hdefault]
  simp only [hicon, hlabel]

/-! ## Missing tabs -/

lemma position_le_length (index : ℕ) (tabs : List TabConfig) :
    position index tabs ≤ tabs.length := by
  unfold position
  split
  · next found hfound =>
    obtain ⟨previous, -, hindex⟩ := exists_of_findSome?_eq_some hfound
    obtain ⟨hlt, -⟩ := List.findIdx?_eq_some_iff_getElem.mp hindex
    exact hlt
  · exact Nat.zero_le _

lemma insertMissing_spec (h : Settled tabs) {missing : TabConfig × ℕ}
    (hdefault : missing.1 ∈ defaultTabs) : Settled (insertMissing tabs missing) ∧
      missing.1.id ∈ (insertMissing tabs missing).map TabConfig.id ∧
      tabs.map TabConfig.id ⊆ (insertMissing tabs missing).map TabConfig.id := by
  unfold insertMissing
  split
  · next hany =>
    obtain ⟨tab, htab, hid⟩ := any_eq_true.mp hany
    exact ⟨h, of_decide_eq_true hid ▸ mem_map_of_mem htab, List.Subset.refl _⟩
  · next hnone =>
    have hperm := perm_insertIdx missing.1 tabs (position_le_length missing.2 tabs)
    have hnew : missing.1.id ∉ tabs.map TabConfig.id := by
      intro hmem
      obtain ⟨tab, htab, hid⟩ := mem_map.mp hmem
      exact hnone (any_eq_true.mpr ⟨tab, htab, decide_eq_true hid⟩)
    have hcons : Settled (missing.1 :: tabs) := by
      refine ⟨nodup_cons.mpr ⟨hnew, h.distinct⟩, ?_⟩
      intro tab htab
      rcases mem_cons.mp htab with rfl | hrest
      · exact ⟨_, hdefault, rfl, rfl, rfl⟩
      · exact h.known tab hrest
    have hids := hperm.map TabConfig.id
    refine ⟨hcons.perm hperm, hids.mem_iff.mpr mem_cons_self, ?_⟩
    intro id hid
    exact hids.mem_iff.mpr (mem_cons_of_mem _ hid)

variable {missing : List (TabConfig × ℕ)}

lemma foldl_insertMissing_spec (h : Settled tabs) (hdefault : ∀ tab ∈ missing, tab.1 ∈ defaultTabs) :
    Settled (missing.foldl insertMissing tabs) ∧
      (∀ tab ∈ missing, tab.1.id ∈ (missing.foldl insertMissing tabs).map TabConfig.id) ∧
      tabs.map TabConfig.id ⊆ (missing.foldl insertMissing tabs).map TabConfig.id := by
  induction missing generalizing tabs with
  | nil => exact ⟨h, by simp, List.Subset.refl _⟩
  | cons first missing ih =>
    obtain ⟨hsettled, hfirst, hsub⟩ := insertMissing_spec h (hdefault first mem_cons_self)
    obtain ⟨hrun, hall, hsub'⟩ :=
      ih hsettled fun tab htab => hdefault tab (mem_cons_of_mem _ htab)
    refine ⟨hrun, ?_, fun id hid => hsub' (hsub hid)⟩
    intro tab htab
    rcases mem_cons.mp htab with rfl | hrest
    · exact hsub' hfirst
    · exact hall tab hrest

lemma foldl_insertMissing_of_all (hall : ∀ tab ∈ missing, tab.1.id ∈ tabs.map TabConfig.id) :
    missing.foldl insertMissing tabs = tabs := by
  induction missing with
  | nil => rfl
  | cons first missing ih =>
    obtain ⟨tab, htab, hid⟩ := mem_map.mp (hall first mem_cons_self)
    have hfirst : insertMissing tabs first = tabs :=
      if_pos (any_eq_true.mpr ⟨tab, htab, decide_eq_true hid⟩)
    rw [foldl_cons, hfirst]
    exact ih fun tab htab => hall tab (mem_cons_of_mem _ htab)

/-! ## Numbers -/

lemma ids_renumbered (tabs : List TabConfig) :
    (renumbered tabs).map TabConfig.id = tabs.map TabConfig.id := by
  apply ext_getElem
  · simp [renumbered]
  · intro order _ _
    simp [renumbered]

lemma settled_renumbered (h : Settled tabs) : Settled (renumbered tabs) := by
  refine ⟨ids_renumbered tabs ▸ h.distinct, ?_⟩
  intro tab htab
  obtain ⟨order, horder, rfl⟩ := mem_mapIdx.mp htab
  obtain ⟨known, hknown, hsame⟩ := h.known _ (getElem_mem horder)
  exact ⟨known, hknown, hsame⟩

lemma renumbered_renumbered (tabs : List TabConfig) :
    renumbered (renumbered tabs) = renumbered tabs := by
  simp [renumbered, mapIdx_mapIdx, Function.comp_def]

lemma length_le_of_settled (h : Settled tabs) : tabs.length ≤ defaultTabs.length := by
  have hsub : tabs.map TabConfig.id ⊆ defaultTabs.map TabConfig.id := by
    intro id hid
    obtain ⟨tab, htab, rfl⟩ := mem_map.mp hid
    obtain ⟨known, hknown, hsame, -⟩ := h.known tab htab
    exact hsame ▸ mem_map_of_mem hknown
  simpa using (h.distinct.subperm hsub).length_le

lemma pairwise_renumbered (h : Settled tabs) : (renumbered tabs).Pairwise (·.order ≤ ·.order) := by
  have hlength := length_le_of_settled h
  have hthirteen : defaultTabs.length = 13 := rfl
  rw [pairwise_iff_getElem]
  intro i j hi hj hlt
  simp only [renumbered, length_mapIdx] at hi hj
  simp only [renumbered, getElem_mapIdx]
  rw [Nat.mod_eq_of_lt (by omega), Nat.mod_eq_of_lt (by omega)]
  exact hlt.le

/-! ## The whole pass -/

lemma ensureAllTabsPresent_of_settled (h : Settled tabs)
    (hall : ∀ tab ∈ defaultTabs, tab.id ∈ tabs.map TabConfig.id) :
    ensureAllTabsPresent (renumbered tabs) = renumbered tabs := by
  obtain ⟨-, hwallet, hai⟩ := defaultTabs_ids
  have hsettled := settled_renumbered h
  have hself : ∀ {f : TabConfig → TabConfig}, (∀ tab ∈ renumbered tabs, f tab = tab) →
      (renumbered tabs).map f = renumbered tabs := by
    intro f hf
    exact (map_congr_left hf).trans (map_id _)
  have hrenamed : ∀ tab ∈ renumbered tabs, renamed tab = tab := by
    intro tab htab
    obtain ⟨known, hknown, hid, -⟩ := hsettled.known tab htab
    have hmem : tab.id ∈ defaultTabs.map TabConfig.id := hid ▸ mem_map_of_mem hknown
    have hnotWallet : tab.id ≠ "wallet" := fun heq => hwallet (heq ▸ hmem)
    have hnotAi : tab.id ≠ "ai" := fun heq => hai (heq ▸ hmem)
    simp only [renamed, if_neg hnotWallet, if_neg hnotAi]
  have hknown : ∀ tab ∈ renumbered tabs, (defaultTab tab.id).isSome := by
    intro tab htab
    obtain ⟨known, hknown, hid, -⟩ := hsettled.known tab htab
    rw [← hid, defaultTab_of_mem hknown]
    rfl
  have hmissing : ∀ tab ∈ defaultTabs.zipIdx, tab.1.id ∈ (renumbered tabs).map TabConfig.id := by
    intro tab htab
    rw [ids_renumbered]
    exact hall tab.1 (fst_mem_of_mem_zipIdx htab)
  unfold ensureAllTabsPresent
  simp only
  rw [hself hrenamed, retainFirst_of_nodup hsettled.distinct (by simp),
    filter_eq_self.mpr hknown, hself fun tab htab => forced_of_settled hsettled htab,
    Found.StableSort.sortByKey_eq_self _ (pairwise_renumbered h),
    foldl_insertMissing_of_all hmissing, renumbered_renumbered]

lemma ensureAllTabsPresent_idem (tabs : List TabConfig) :
    ensureAllTabsPresent (ensureAllTabsPresent tabs) = ensureAllTabsPresent tabs := by
  have hfirst := (retainFirst_spec [] (tabs.map renamed)).1
  have hforced : Settled (((retainFirst [] (tabs.map renamed)).filter fun tab =>
      (defaultTab tab.id).isSome).map forced) := by
    refine settled_forced (hfirst.sublist (filter_sublist.map _)) ?_
    intro tab htab
    exact (mem_filter.mp htab).2
  have hsorted := hforced.perm (Found.StableSort.sortByKey_perm TabConfig.order _)
  have hdefaults : ∀ tab ∈ defaultTabs.zipIdx, tab.1 ∈ defaultTabs :=
    fun tab htab => fst_mem_of_mem_zipIdx htab
  obtain ⟨hsettled, hall, -⟩ := foldl_insertMissing_spec hsorted hdefaults
  refine ensureAllTabsPresent_of_settled hsettled ?_
  intro tab htab
  obtain ⟨index, hindex⟩ := List.getElem?_of_mem htab
  exact hall (tab, index) (mk_mem_zipIdx_iff_getElem?.mpr hindex)

end Dripline.Configuration

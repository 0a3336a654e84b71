import Dripline.Services.Manager

/-!
# The order of services

`services/mod.rs`. Which orders of starting and stopping come out, and when they follow the declared
dependencies.

* `orders_iff`, `stops_iff`, `ordered_iff` — the orders are right exactly while priorities follow
  the dependencies.
* `not_ordered` — services that are registered with a dependency of higher priority.
-/

namespace Dripline.Services

open Dripline.Found
open Dripline.Found.Postorder (Before Closed)
open Relation

namespace ServiceManager

variable (manager : ServiceManager)

/-- A service depends on another, directly or through others. -/
def DependsOn (service dependency : String) : Prop := TransGen manager.graph.Next service dependency

/-- A service is requested, or one depends on it that is. -/
def Needed (requested : List String) (name : String) : Prop :=
  ∃ service ∈ requested, ReflTransGen manager.graph.Next service name

/-- A service that is needed depends on itself. -/
def Cyclic (requested : List String) : Prop := manager.graph.Cyclic requested

/-- What an order owes: every needed service once, behind the services that it depends on; or an
error where they are cyclic. -/
structure Orders (requested : List String) : Prop where
  cyclic : manager.Cyclic requested → ∃ error, manager.resolveStartupOrder requested = .error error
  ordered : ¬manager.Cyclic requested → ∃ order, manager.resolveStartupOrder requested = .ok order ∧
    order.Nodup ∧ (∀ name, name ∈ order ↔ manager.Needed requested name) ∧
      ∀ service ∈ order, ∀ dependency, manager.Registered dependency →
        manager.DependsOn service dependency → Before order dependency service

/-- What a shutdown owes: every running service is stopped once, behind the running services that
depend on it. -/
def Stops : Prop :=
  ¬manager.Cyclic manager.handles → ∃ stopped after, manager.stopAll = .ok (stopped, after) ∧
    after.handles = [] ∧ (∀ name ∈ manager.handles, stopped.count name = 1) ∧
      ∀ service ∈ manager.handles, ∀ dependency ∈ manager.handles,
        manager.DependsOn service dependency → Before stopped service dependency

/-- No needed service has a dependency of higher priority number. -/
def Follows (requested : List String) : Prop :=
  ∀ service, manager.Needed requested service → ∀ dependency ∈ manager.dependencies service,
    manager.Registered dependency → manager.priority dependency ≤ manager.priority service

/-- No running service depends on a running one of higher priority number. -/
def RunningFollows : Prop :=
  ∀ service ∈ manager.handles, ∀ dependency ∈ manager.handles,
    manager.DependsOn service dependency → manager.priority dependency ≤ manager.priority service

variable {manager} {dependency : String}

lemma registered_of_next {name : String} (h : manager.graph.Next name dependency) :
    manager.Registered name := by
  by_contra hname
  have hnone : manager.graph.next name = [] := manager.graph.next_outside name hname
  rw [Postorder.Graph.Next, hnone] at h
  cases h

variable {requested : List String} {service : String}

lemma Follows.priority_le (h : manager.Follows requested)
    (hservice : manager.Needed requested service) (hregistered : manager.Registered dependency)
    (hdepends : manager.DependsOn service dependency) :
    manager.priority dependency ≤ manager.priority service := by
  induction hdepends with
  | single hnext => exact h service hservice _ hnext hregistered
  | @tail middle dependency hmiddle hnext ih =>
    obtain ⟨root, hroot, hreach⟩ := hservice
    have hneeded : manager.Needed requested middle :=
        ⟨root, hroot, hreach.trans hmiddle.to_reflTransGen⟩
    exact (h middle hneeded dependency hnext hregistered).trans (ih (registered_of_next hnext))

lemma before_iff {order : List String} (hclosed : Closed manager.graph order)
    (hservice : service ∈ order) (hdepends : manager.DependsOn service dependency) :
    Before (StableSort.sortByKey manager.priority order) dependency service ↔
      manager.priority dependency ≤ manager.priority service := by
  constructor
  · intro h
    exact List.pairwise_iff_forall_sublist.mp
      (StableSort.pairwise_sortByKey manager.priority order) h
  · exact StableSort.pair_sublist_sortByKey manager.priority (hclosed.before hservice hdepends)

lemma resolve_of_not_cyclic (h : ¬manager.Cyclic requested) :
    ∃ order, Closed manager.graph order ∧ (∀ name, name ∈ order ↔ manager.Needed requested name) ∧
      manager.resolveStartupOrder requested =
        .ok (StableSort.sortByKey manager.priority order) := by
  cases hsort : manager.graph.sort requested with
  | error name => exact absurd (Postorder.sort_error_iff.mp ⟨name, hsort⟩) h
  | ok order =>
    obtain ⟨hclosed, hmem⟩ := Postorder.sort_ok hsort
    exact ⟨order, hclosed, hmem, by rw [resolveStartupOrder_eq, hsort]⟩

lemma resolve_of_cyclic (h : manager.Cyclic requested) :
    ∃ error, manager.resolveStartupOrder requested = .error error := by
  obtain ⟨name, hsort⟩ := Postorder.sort_error_iff.mpr h
  exact ⟨circular name, by rw [resolveStartupOrder_eq, hsort]⟩

lemma orders_iff (requested : List String) :
    manager.Orders requested ↔ (¬manager.Cyclic requested → manager.Follows requested) := by
  constructor
  · intro h hacyclic service hservice dependency hnext hregistered
    obtain ⟨order, hclosed, hmem, hresolve⟩ := resolve_of_not_cyclic hacyclic
    obtain ⟨order', hresolve', -, -, hbefore⟩ := h.ordered hacyclic
    obtain rfl : StableSort.sortByKey manager.priority order = order' := by
      rw [hresolve] at hresolve'
      simpa using hresolve'
    have hin := (hmem service).mpr hservice
    exact (before_iff hclosed hin (.single hnext)).mp
      (hbefore service (by simpa using hin) dependency hregistered (.single hnext))
  · intro h
    refine ⟨resolve_of_cyclic, fun hacyclic => ?_⟩
    obtain ⟨order, hclosed, hmem, hresolve⟩ := resolve_of_not_cyclic hacyclic
    refine ⟨_, hresolve, ?_, ?_, ?_⟩
    · exact (StableSort.sortByKey_perm manager.priority order).nodup_iff.mpr hclosed.nodup
    · simpa using hmem
    · intro service hservice dependency hregistered hdepends
      have hin : service ∈ order := by simpa using hservice
      exact (before_iff hclosed hin hdepends).mpr
        ((h hacyclic).priority_le ((hmem service).mp hin) hregistered hdepends)

lemma stopAll_of_not_cyclic (h : ¬manager.Cyclic manager.handles) :
    ∃ order stopped, Closed manager.graph order ∧ (∀ name ∈ manager.handles, name ∈ order) ∧
      manager.stopAll = .ok (stopped, manager.removeHandles stopped) ∧ stopped.Nodup ∧
      (∀ name, name ∈ stopped ↔ name ∈ order ∧ manager.Registered name) ∧
      ∀ a b, manager.Registered a → manager.Registered b →
        (Before stopped a b ↔ Before (StableSort.sortByKey manager.priority order) b a) := by
  obtain ⟨order, hclosed, hmem, hresolve⟩ := resolve_of_not_cyclic h
  have hknown : ∀ name, (manager.get name).isSome = true ↔ manager.Registered name := by
    intro name
    rw [Option.isSome_iff_exists, manager.registered_iff]
  have hnodup : (StableSort.sortByKey manager.priority order).Nodup :=
    (StableSort.sortByKey_perm manager.priority order).nodup_iff.mpr hclosed.nodup
  refine ⟨order, (StableSort.sortByKey manager.priority order).reverse.filter fun name =>
    (manager.get name).isSome, hclosed, fun name hname => (hmem name).mpr ⟨name, hname, .refl⟩, ?_, ?_,
    ?_, ?_⟩
  · rw [stopAll, hresolve]
  · exact (List.nodup_reverse.mpr hnodup).filter _
  · intro name
    simp only [List.mem_filter, List.mem_reverse, StableSort.mem_sortByKey, hknown]
  · intro a b ha hb
    rw [Postorder.before_filter (p := fun name => (manager.get name).isSome) ((hknown a).mpr ha)
      ((hknown b).mpr hb)]
    constructor
    · intro hbefore
      simpa using hbefore.reverse
    · exact Before.reverse

lemma stops_iff : manager.Stops ↔ (¬manager.Cyclic manager.handles → manager.RunningFollows) := by
  constructor
  · intro h hacyclic service hservice dependency hdependency hdepends
    obtain ⟨order, stopped, hclosed, hmem, hstop, -, -, hbefore⟩ := stopAll_of_not_cyclic hacyclic
    obtain ⟨stopped', after, hstop', -, -, hright⟩ := h hacyclic
    obtain rfl : stopped = stopped' := by
      rw [hstop] at hstop'
      exact (Prod.mk.inj (Except.ok.inj hstop')).1
    refine (before_iff hclosed (hmem service hservice) hdepends).mp ?_
    exact (hbefore service dependency (manager.handles_registered service hservice)
      (manager.handles_registered dependency hdependency)).mp
      (hright service hservice dependency hdependency hdepends)
  · intro h hacyclic
    obtain ⟨order, stopped, hclosed, hmem, hstop, hnodup, hstopped, hbefore⟩ :=
      stopAll_of_not_cyclic hacyclic
    have hall : ∀ name ∈ manager.handles, name ∈ stopped := fun name hname =>
      (hstopped name).mpr ⟨hmem name hname, manager.handles_registered name hname⟩
    refine ⟨stopped, _, hstop, ?_, ?_, ?_⟩
    · exact List.filter_eq_nil_iff.mpr fun name hname => by simpa using hall name hname
    · exact fun name hname => List.count_eq_one_of_mem hnodup (hall name hname)
    · intro service hservice dependency hdependency hdepends
      refine (hbefore service dependency (manager.handles_registered service hservice)
        (manager.handles_registered dependency hdependency)).mpr ?_
      exact (before_iff hclosed (hmem service hservice) hdepends).mpr
        (h hacyclic service hservice dependency hdependency hdepends)

/-- **Services are started and stopped in the order of their dependencies exactly while their
priorities follow them.** -/
theorem ordered_iff (manager : ServiceManager) (requested : List String) :
    manager.Orders requested ∧ manager.Stops ↔
      (¬manager.Cyclic requested → manager.Follows requested) ∧
        (¬manager.Cyclic manager.handles → manager.RunningFollows) :=
  and_congr (orders_iff requested) stops_iff

/-! ## A dependency of higher priority number -/

/-- Pools, and the transactions that they depend on, as they are registered; both run. -/
def poolsAndTransactions : ServiceManager where
  services := [⟨"pools", 30, ["transactions"], true⟩, ⟨"transactions", 80, [], true⟩]
  names_nodup := by decide
  handles := ["pools", "transactions"]
  handles_nodup := by decide
  handles_registered := by decide

/-- Pools are started before the transactions that they depend on. -/
theorem not_ordered : ¬∀ (manager : ServiceManager) (requested : List String),
    manager.Orders requested ∧ manager.Stops := by
  intro h
  have hnext : ∀ name, ∀ dependency ∈ poolsAndTransactions.dependencies name,
      name = "pools" ∧ dependency = "transactions" := by
    intro name dependency hdependency
    by_cases hpools : name = "pools"
    · subst hpools
      exact ⟨rfl, by simpa [poolsAndTransactions, dependencies, get] using hdependency⟩
    · by_cases htransactions : name = "transactions"
      · subst htransactions
        simp [poolsAndTransactions, dependencies, get] at hdependency
      · have hnone : poolsAndTransactions.get name = none := by
          simp [poolsAndTransactions, get, Ne.symm hpools, Ne.symm htransactions]
        simp [dependencies, hnone] at hdependency
  have hacyclic : ¬poolsAndTransactions.Cyclic ["pools"] := by
    refine Postorder.not_cyclic_of_rank (fun name => if name = "pools" then 1 else 0) ?_ _
    intro name dependency hdependency
    obtain ⟨rfl, rfl⟩ := hnext name dependency hdependency
    decide
  have hfollows := (orders_iff ["pools"]).mp (h poolsAndTransactions ["pools"]).1 hacyclic
  have hle := hfollows "pools" ⟨"pools", by simp, .refl⟩ "transactions" (by decide)
    (by simp [Registered, poolsAndTransactions])
  exact absurd hle (by decide)

end ServiceManager

end Dripline.Services

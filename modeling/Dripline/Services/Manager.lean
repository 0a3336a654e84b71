import Dripline.Found.Postorder
import Dripline.Found.StableSort
import Mathlib.Data.String.Basic

/-!
# The service manager

`services/mod.rs`. Services with priorities and declared dependencies are started and stopped in an
order that is resolved from both.

A source without a file is in `services/mod.rs`.
-/

namespace Dripline.Services

open Dripline.Found
open Relation

/-- Source: `Service` -/
structure Service where
  name : String
  /-- Lower starts earlier, and stops later. -/
  priority : ℤ
  dependencies : List String
  isEnabled : Bool

/-- Source: `errors/service.rs` -/
inductive ServiceError
  | init (service message : String)
  | start (service message : String)
  | stop (service message : String)
  | dependency (service dependency message : String)
  | generic (message : String)

/-- The registered services by their names, and the names of those that run; either in the order in
which the map gives them. Source: `ServiceManager` -/
structure ServiceManager where
  services : List Service
  names_nodup : (services.map Service.name).Nodup
  handles : List String
  handles_nodup : handles.Nodup
  handles_registered : ∀ name ∈ handles, name ∈ services.map Service.name

namespace ServiceManager

variable (manager : ServiceManager)

/-- A registered service. -/
def get (name : String) : Option Service := manager.services.find? fun service => service.name == name

/-- A name is registered. -/
def Registered (name : String) : Prop := name ∈ manager.services.map Service.name

lemma registered_iff {name : String} :
    manager.Registered name ↔ ∃ service, manager.get name = some service := by
  rw [← Option.isSome_iff_exists, get, List.find?_isSome]
  simp [Registered]

/-- The priority of a name, of an unknown one the default. Source: `resolve_startup_order` -/
def priority (name : String) : ℤ := ((manager.get name).map Service.priority).getD 100

/-- What a name depends on. -/
def dependencies (name : String) : List String :=
  ((manager.get name).map Service.dependencies).getD []

/-- The dependencies as a graph: what is not registered depends on nothing. -/
def graph : Postorder.Graph String where
  nodes := manager.services.map Service.name
  next := manager.dependencies
  next_outside := by
    intro name hname
    cases hget : manager.get name with
    | none => simp [dependencies, hget]
    | some service => exact absurd (manager.registered_iff.mpr ⟨service, hget⟩) hname

/-- The services found so far, and the names that have been visited. -/
structure Search where
  ordered : List String
  visited : List String

/-- A name is done. -/
def Search.push (search : Search) (name : String) : Search :=
  ⟨search.ordered ++ [name], name :: search.visited⟩

/-- Source: `resolve_startup_order`, `visit` -/
def circular (name : String) : ServiceError :=
  .dependency name "circular" ("Circular dependency detected for service: " ++ name)

/-- The names being visited are those on the way down; a name is taken off on the way up. Source:
`resolve_startup_order`, `visit` -/
def visit (visiting : List String) (name : String) (search : Search) : Except ServiceError Search :=
  if name ∈ search.visited then .ok search
  else if _hvisiting : name ∈ visiting then .error (circular name)
  else
    match _hget : manager.get name with
    | none => .ok (search.push name)
    | some service =>
      match service.dependencies.foldlM
          (fun search dependency => visit (name :: visiting) dependency search) search with
      | .error error => .error error
      | .ok search => .ok (search.push name)
termination_by manager.graph.free visiting
decreasing_by exact manager.graph.free_cons_lt (manager.registered_iff.mpr ⟨service, _hget⟩) _hvisiting

/-- Dependencies that are not registered are only warned of. Source: `resolve_startup_order` -/
def resolveStartupOrder (services : List String) : Except ServiceError (List String) :=
  match services.foldlM (fun search name => manager.visit [] name search) ⟨[], []⟩ with
  | .error error => .error error
  | .ok search => .ok (StableSort.sortByKey manager.priority search.ordered)

/-- Names no longer run. -/
def removeHandles (names : List String) : ServiceManager :=
  { manager with
    handles := manager.handles.filter fun name => decide (name ∉ names)
    handles_nodup := manager.handles_nodup.filter _
    handles_registered :=
      fun name hname => manager.handles_registered name (List.mem_filter.mp hname).1 }

/-- The services told to stop, one after another, and what runs then: a service that does not stop
by itself is given up after a while. Source: `stop_all` -/
def stopAll : Except ServiceError (List String × ServiceManager) :=
  match manager.resolveStartupOrder manager.handles with
  | .error error => .error error
  | .ok ordered =>
    let stopped := ordered.reverse.filter fun name => (manager.get name).isSome
    .ok (stopped, manager.removeHandles stopped)

/-! ## The search -/

/-- A search of the names that are done, as the code keeps it. -/
def Search.of (done : List String) : Search := ⟨done, done.reverse⟩

lemma Search.of_push (done : List String) (name : String) :
    (Search.of done).push name = Search.of (done ++ [name]) := by
  simp [Search.of, Search.push]

/-- The outcome of a search in the graph, as the code tells it. -/
def told : Except String (List String) → Except ServiceError Search
  | .ok done => .ok (Search.of done)
  | .error name => .error (circular name)

lemma foldlM_told {f : Search → String → Except ServiceError Search}
    {g : List String → String → Except String (List String)}
    (h : ∀ done name, f (Search.of done) name = told (g done name)) (names done : List String) :
    names.foldlM f (Search.of done) = told (names.foldlM g done) := by
  induction names generalizing done with
  | nil => rfl
  | cons name names ih =>
    rw [List.foldlM_cons, List.foldlM_cons, h]
    cases g done name with
    | error name => rfl
    | ok done => exact ih done

lemma visit_eq (visiting : List String) (name : String) (done : List String) :
    manager.visit visiting name (Search.of done) = told (manager.graph.visit visiting name done) := by
  induction hfree : manager.graph.free visiting using Nat.strongRecOn generalizing visiting name
    done with
  | _ n ih =>
    rw [visit, Postorder.Graph.visit]
    have hvisited : name ∈ (Search.of done).visited ↔ name ∈ done := List.mem_reverse
    by_cases hdone : name ∈ done
    · rw [if_pos (hvisited.mpr hdone), if_pos hdone]
      rfl
    rw [if_neg (fun h => hdone (hvisited.mp h)), if_neg hdone]
    by_cases hvisiting : name ∈ visiting
    · rw [dif_pos hvisiting, dif_pos hvisiting]
      rfl
    rw [dif_neg hvisiting, dif_neg hvisiting]
    by_cases hregistered : name ∈ manager.graph.nodes
    · rw [dif_pos hregistered]
      obtain ⟨service, hget⟩ := manager.registered_iff.mp hregistered
      have hnext : manager.graph.next name = service.dependencies := by
        simp [graph, dependencies, hget]
      have hall := foldlM_told
        (f := fun search dependency => manager.visit (name :: visiting) dependency search)
        (g := fun done dependency => manager.graph.visit (name :: visiting) dependency done)
        (fun done dependency => ih _ (hfree ▸ manager.graph.free_cons_lt hregistered hvisiting)
          (name :: visiting) dependency done rfl) service.dependencies done
      split
      · rename_i hnone
        rw [hget] at hnone
        cases hnone
      · rename_i other hother
        obtain rfl : service = other := by rw [hget] at hother; simpa using hother
        rw [hall, hnext]
        cases service.dependencies.foldlM
          (fun done dependency => manager.graph.visit (name :: visiting) dependency done) done with
        | error error => rfl
        | ok done => simp only [told, Search.of_push]
    · rw [dif_neg hregistered]
      split
      · simp only [told, Search.of_push]
      · rename_i service hget
        exact absurd (manager.registered_iff.mpr ⟨service, hget⟩) hregistered

lemma resolveStartupOrder_eq (services : List String) :
    manager.resolveStartupOrder services =
      match manager.graph.sort services with
      | .error name => .error (circular name)
      | .ok order => .ok (StableSort.sortByKey manager.priority order) := by
  have hall := foldlM_told (f := fun search name => manager.visit [] name search)
    (g := fun done name => manager.graph.visit [] name done)
    (fun done name => manager.visit_eq [] name done) services []
  have hstart : (⟨[], []⟩ : Search) = Search.of [] := rfl
  rw [resolveStartupOrder, hstart, hall, Postorder.Graph.sort]
  cases services.foldlM (fun done name => manager.graph.visit [] name done) [] <;> rfl

/-! ## What runs -/

end ServiceManager

end Dripline.Services

import FabricProvision.Proofs.Provision.Alphabets
import FabricProvision.Proofs.Device.Apart

/-!
# Footprints

The hosts that work talks to, whatever the switches answer.  The work on a switch stays within its footprint, the
switch and the nodes of its data-plane clusters, and never asks for the status of a management cluster
(`SwitchSpec.stays_footprint`).  A whole run stays within the hosts that the request declares
(`FabricRequest.stays_configure_hosts`): the switches, the clusters, the data-plane clusters and the questions
for principals only ever name hosts from there.
-/

namespace FabricProvision

open Dialogue

/-- All operations on certain hosts. -/
def Scope.at (hosts : String → Prop) : Scope := ⟨hosts, fun host _ => hosts host⟩

theorem Scope.on_sub_at {hosts : String → Prop} {host : String} (hhost : hosts host) {parts : Part → Prop} :
    (Scope.on host parts).Sub (Scope.at hosts) :=
  ⟨fun _ h => h ▸ hhost, fun _ _ h => h.1 ▸ hhost⟩

/-! ### Switches -/

namespace SwitchSpec

variable (t : Topology) (force : Bool) (s : SwitchSpec)

/-- The hosts that the work on a switch talks to: the switch and the nodes of its data-plane clusters. -/
def footprint : List String :=
  s.host :: (s.dataPlane.nodes.map (·.host) ++ s.staleDataPlane.nodes.map (·.host))

theorem host_mem_footprint : s.host ∈ s.footprint := List.mem_cons_self

theorem mem_footprint_dataPlane {m : DataPlaneNode} (hm : m ∈ s.dataPlane.nodes) : m.host ∈ s.footprint :=
  List.mem_cons_of_mem _ (List.mem_append_left _ (List.mem_map_of_mem hm))

theorem mem_footprint_stale {m : DataPlaneNode} (hm : m ∈ s.staleDataPlane.nodes) : m.host ∈ s.footprint :=
  List.mem_cons_of_mem _ (List.mem_append_right _ (List.mem_map_of_mem hm))

/-- Operations on the footprint, questions for the status of a cluster apart. -/
def footprintScope : Scope :=
  ⟨(· ∈ s.footprint), fun host op => host ∈ s.footprint ∧ op ≠ .getClusterStatus⟩

theorem footprintScope_confined : s.footprintScope.Confined (· ∈ s.footprint) :=
  ⟨fun _ h => h, fun _ _ h => h⟩

private theorem on_sub_footprintScope {host : String} (hhost : host ∈ s.footprint) {parts : Part → Prop}
    (hparts : ¬ parts .cluster) : (Scope.on host parts).Sub s.footprintScope := by
  refine ⟨fun _ h => h ▸ hhost, fun _ op hop => ⟨hop.1 ▸ hhost, ?_⟩⟩
  rintro rfl
  exact hparts hop.2

/-- The work on a switch stays within its footprint and never asks for the status of a cluster. -/
theorem stays_footprint : (s.configure t force).Stays s.footprintScope := by
  have hown : ∀ stage, stage ≠ Stage.clusters → (Scope.on s.host (·.stage = stage)).Sub s.footprintScope :=
    fun stage hstage => s.on_sub_footprintScope s.host_mem_footprint fun h => hstage h.symm
  refine s.stays_configure_of t force s.host_mem_footprint
    ((s.stays_provisionSystem t force).widen (hown _ nofun)) (s.stays_provisionInterfaces.widen (hown _ nofun))
    ((s.stays_provisionBgp t).widen (hown _ nofun)) ?_ ((s.stays_provisionEvpn force).widen (hown _ nofun)) ?_
  · exact stays_fanOut fun m hm =>
      m.stays_remove.widen (s.on_sub_footprintScope (s.mem_footprint_stale hm) nofun)
  · exact stays_fanOut fun m hm =>
      m.stays_add.widen (s.on_sub_footprintScope (s.mem_footprint_dataPlane hm) nofun)

end SwitchSpec

/-! ### Whole runs -/

namespace FabricRequest

variable (polling : Polling) (force : Bool) (r : FabricRequest) (save : Bool)

theorem host_mem_hosts {s : SwitchSpec} (hs : s ∈ r.switches) : s.host ∈ r.hosts :=
  List.mem_append_left _ (List.mem_append_left _ (List.mem_map_of_mem hs))

/-- The request declares the footprints of its switches. -/
theorem mem_hosts_of_footprint {s : SwitchSpec} (hs : s ∈ r.switches) {host : String} (h : host ∈ s.footprint) :
    host ∈ r.hosts := by
  rcases List.mem_cons.1 h with rfl | h
  · exact r.host_mem_hosts hs
  · exact List.mem_append_right _ (List.mem_flatMap.2 ⟨s, hs, h⟩)

/-- The request declares the nodes of its clusters. -/
theorem node_mem_hosts {c : ClusterSpec} (hc : c ∈ r.clusters.all) {x : ClusterNode} (hx : x ∈ c.nodes) :
    x.host ∈ r.hosts :=
  List.mem_append_left _ (List.mem_append_right _ (List.mem_flatMap.2 ⟨c, hc, List.mem_map_of_mem hx⟩))

theorem mem_all {batches : ClusterBatches} {c : ClusterSpec} :
    c ∈ batches.all ↔ (c ∈ batches.delete ∨ c ∈ batches.update) ∨ c ∈ batches.create := by
  rw [ClusterBatches.all, List.mem_append, List.mem_append]

private theorem stays_reconcile_hosts {c : ClusterSpec} (hc : c ∈ r.clusters.all) (action : ClusterAction)
    (force : Bool) : (c.reconcile polling action force).Stays (Scope.at (· ∈ r.hosts)) := by
  have hnodes : (c.reconcile polling action force).Stays (ClusterSpec.workScope (· ∈ r.hosts) True) :=
    ClusterSpec.stays_reconcile_nodes (fun x hx => r.node_mem_hosts hc hx) polling action force fun _ => trivial
  exact hnodes.widen ⟨fun _ h => h, fun _ _ h => h.1⟩

/-- A run only talks to the hosts that the request declares. -/
theorem stays_configure_hosts : (r.configure polling force save).Stays (Scope.at (· ∈ r.hosts)) := by
  refine stays_stop (stays_fanOut fun s hs => ?_) (stays_stop ?_ ?_)
  · exact (s.stays_footprint r.topology force).widen
      ⟨fun _ h => r.mem_hosts_of_footprint hs h, fun _ _ h => r.mem_hosts_of_footprint hs h.1⟩
  · exact stays_reconcileClusters_of polling force
      (fun c hc => r.stays_reconcile_hosts polling (mem_all.2 (.inl (.inl hc))) .delete force)
      (fun c hc => r.stays_reconcile_hosts polling (mem_all.2 (.inl (.inr hc))) .update force)
      fun c hc => r.stays_reconcile_hosts polling (mem_all.2 (.inr hc)) .create _
  · have hasked : ∀ c ∈ r.clusters.update ++ r.clusters.create, ∀ x ∈ c.nodes, x.host ∈ r.hosts := by
      intro c hc x hx
      rcases List.mem_append.1 hc with hc | hc
      · exact r.node_mem_hosts (mem_all.2 (.inl (.inr hc))) hx
      · exact r.node_mem_hosts (mem_all.2 (.inr hc)) hx
    refine (stays_findPrincipals_of ∅ fun c hc x hx => ⟨hasked c hc x hx, hasked c hc x hx⟩).bind fun known _ => ?_
    refine Within.bind (Q := fun _ => True) (stays_fanOut fun s hs => ?_) fun errors _ => ?_
    · exact (s.within_configureOverlayGateway force).stays.widen
        (Scope.on_sub_at (r.host_mem_hosts (List.mem_filter.1 hs).1))
    · dsimp only
      split
      · exact Within.bind (Q := fun _ => True)
          (stays_fanOut fun s hs => s.within_persist.stays.widen (Scope.on_sub_at (r.host_mem_hosts hs)))
          fun _ _ => within_pure trivial
      · exact within_pure trivial

end FabricRequest

end FabricProvision

import FabricProvision.Proofs.Device.Scheduled
import FabricProvision.Proofs.Provision.AllSchedules
import FabricProvision.Proofs.Provision.Blame
import FabricProvision.Proofs.Provision.Reached

/-!
# The schedule of the switches

Switches are configured at the same time and independently of each other, so that the schedule must not matter.
When their footprints are disjoint, and no data-plane cluster of a switch has two nodes on one device, it does not:
all schedules, of the switches in any order, end with the same devices and the same report
(`FabricRequest.configureSwitches_scheduled`).

Two nodes on one device get in each other's way.  Each of them asks whether there is something to remove before it
removes it, and if both ask first, the one that removes last is refused (`FabricRequest.repeatedNode_raced`).
-/

namespace FabricProvision

open Dialogue

/-- Of lists in a row at most one of which has elements, the order does not matter. -/
private theorem flatMap_eq_of_perm {ι β : Type} {g : ι → List β} {targets targets' : List ι}
    (hperm : targets.Perm targets') (h : targets.Pairwise fun a b => g a = [] ∨ g b = []) :
    targets.flatMap g = targets'.flatMap g := by
  induction hperm with
  | nil => rfl
  | cons a _ ih => rw [List.flatMap_cons, List.flatMap_cons, ih (List.pairwise_cons.1 h).2]
  | swap a b rest =>
    have hempty : g b = [] ∨ g a = [] := (List.pairwise_cons.1 h).1 a List.mem_cons_self
    simp only [List.flatMap_cons]
    rcases hempty with hempty | hempty <;> simp [hempty]
  | trans hfirst _ ih ih' => exact (ih h).trans (ih' (hfirst.pairwise h fun hab => hab.symm))

/-- Work whose failures are apart leads to the same report in every order. -/
private theorem report_perm_of_apart {ι : Type} {place : ι → String → Prop} {found : ι → List Failure}
    {targets targets' : List ι} (hperm : targets.Perm targets')
    (hapart : targets.Pairwise fun a b => ∀ host, place a host → ¬ place b host)
    (hplace : ∀ a, ∀ f ∈ found a, place a f.host) :
    Failure.report (targets.flatMap found) = Failure.report (targets'.flatMap found) := by
  refine Failure.report_congr fun host => ?_
  have hlone := Failure.ofHost_lone hapart (fun a _ => hplace a) host
  unfold Failure.ofHost at hlone ⊢
  rw [List.filter_flatMap, List.filter_flatMap]
  exact flatMap_eq_of_perm hperm hlone

/-! ### The members of data-plane clusters -/

/-- Of work on members of data-plane clusters, each on a device of its own, the schedule does not matter. -/
private theorem runsLike_members {nodes : List DataPlaneNode} {work : DataPlaneNode → Dialogue (List Failure)}
    (hdistinct : (nodes.map (·.host)).Nodup) (hstays : ∀ m, (work m).Stays (Scope.on m.host (· = .dataPlane)))
    (hblames : ∀ m n, Network.Blames n (· = m.host) (work m)) :
    (Concurrent.fanOut nodes fun m => .only (work m)).RunsLike (fanOut nodes work) := by
  refine Concurrent.runsLike_each (List.pairwise_map.1 hdistinct)
    (fun m _ => ⟨_, hstays m, Scope.local_on nofun⟩) fun m _ n f hf => ?_
  exact ((hblames m n).run (fun _ => rfl) f hf).host

namespace SwitchSpec

/-- No data-plane cluster of the switch has two nodes on one device. -/
structure DistinctMembers (s : SwitchSpec) : Prop where
  dataPlane : (s.dataPlane.nodes.map (·.host)).Nodup
  staleDataPlane : (s.staleDataPlane.nodes.map (·.host)).Nodup

/-- The schedule of the work on one switch does not matter. -/
theorem runsLike_configure {s : SwitchSpec} (hs : s.DistinctMembers) (t : Topology) (force : Bool) :
    (s.configureConcurrently t force).RunsLike (s.configure t force) :=
  Concurrent.runsLike_session (Concurrent.runsLike_collect (s.forall₂_stages t force Concurrent.runsLike_only
    (runsLike_members hs.staleDataPlane DataPlaneNode.stays_remove fun m _ => m.blames_remove rfl)
    (runsLike_members hs.dataPlane DataPlaneNode.stays_add fun m _ => m.blames_add rfl)))

end SwitchSpec

/-! ### The switches -/

namespace FabricRequest

private theorem confined_configure (t : Topology) (force : Bool) (s : SwitchSpec) :
    ∃ scope : Scope, (s.configure t force).Stays scope ∧ scope.Confined (· ∈ s.footprint) :=
  ⟨s.footprintScope, s.stays_footprint t force, s.footprintScope_confined⟩

private theorem host_of_configure {t : Topology} {force : Bool} {s : SwitchSpec} {n : Network} {f : Failure}
    (hf : f ∈ ((s.configure t force).run Network.adapter n).1) : f.host ∈ s.footprint :=
  ((s.blames_configure t force n).run (fun _ => rfl) f hf).host

/-- Switches with disjoint footprints may be configured in any order, whatever they hold and whichever of them
fail: the devices end up the same, with the same journals, and the report is the same. -/
theorem configureSwitches_perm (force : Bool) (r : FabricRequest) {switches : List SwitchSpec}
    (hperm : r.switches.Perm switches) (hapart : r.switches.Pairwise fun s s' => s.footprint.Disjoint s'.footprint)
    (n : Network) :
    let listed := (r.configureSwitches force).run Network.adapter n
    let permuted := ({ r with switches }.configureSwitches force).run Network.adapter n
    permuted.2 = listed.2 ∧ Failure.report permuted.1 = Failure.report listed.1 := by
  have hlist : r.switches.Pairwise fun s s' => ∀ host, host ∈ s.footprint → ¬ host ∈ s'.footprint :=
    hapart.imp fun h host hs hs' => h hs hs'
  have hpermutation : switches.Pairwise fun s s' => ∀ host, host ∈ s.footprint → ¬ host ∈ s'.footprint :=
    hperm.pairwise hlist fun h host hs' hs => h host hs hs'
  have hwork : ∀ list : List SwitchSpec, ∀ s ∈ list, ∃ scope : Scope,
      (s.configure r.topology force).Stays scope ∧ scope.Confined (· ∈ s.footprint) := fun _ s _ =>
    confined_configure r.topology force s
  refine ⟨(Network.run_fanOut_perm hlist (hwork _) hperm n).symm, ?_⟩
  obtain ⟨hlisted, -, -⟩ := Network.run_fanOut_apart hlist (hwork _) n
  obtain ⟨hpermuted, -, -⟩ := Network.run_fanOut_apart hpermutation (hwork _) n
  show Failure.report ((fanOut switches fun s => s.configure r.topology force).run Network.adapter n).1 =
    Failure.report ((fanOut r.switches fun s => s.configure r.topology force).run Network.adapter n).1
  rw [hlisted, hpermuted]
  exact (report_perm_of_apart hperm hlist fun _ _ => host_of_configure).symm

/-- The schedule of the work on switches with disjoint footprints does not matter. -/
theorem runsLike_configureSwitches (force : Bool) {r : FabricRequest}
    (hapart : r.switches.Pairwise fun s s' => s.footprint.Disjoint s'.footprint)
    (hdistinct : ∀ s ∈ r.switches, s.DistinctMembers) :
    (r.configureSwitchesConcurrently force).RunsLike (r.configureSwitches force) :=
  Concurrent.runsLike_fanOut (fun s host => host ∈ s.footprint) (hapart.imp fun h _ hs hs' => h hs hs')
    (fun s hs => SwitchSpec.runsLike_configure (hdistinct s hs) r.topology force)
    (fun s _ => s.covered_configure r.topology force) (fun s _ => confined_configure r.topology force s)
    fun _ _ _ _ => host_of_configure

/-- Switches with disjoint footprints, none of which names a device twice in one of its data-plane clusters, are
configured independently of each other, whatever they hold and whichever of them fail: under every schedule, and in
whatever order they are listed, the devices end up the same, with the same journals, and the report is the same. -/
theorem configureSwitches_scheduled (force : Bool) (r : FabricRequest) {switches : List SwitchSpec}
    (hperm : r.switches.Perm switches) (hapart : r.switches.Pairwise fun s s' => s.footprint.Disjoint s'.footprint)
    (hdistinct : ∀ s ∈ r.switches, s.DistinctMembers) {x y : Dialogue (List Failure)}
    (hx : (r.configureSwitchesConcurrently force).MayBe x)
    (hy : ({ r with switches }.configureSwitchesConcurrently force).MayBe y) (n : Network) :
    let listed := x.run Network.adapter n
    let permuted := y.run Network.adapter n
    permuted.2 = listed.2 ∧ Failure.report permuted.1 = Failure.report listed.1 := by
  intro listed permuted
  have hapart' : switches.Pairwise fun s s' => s.footprint.Disjoint s'.footprint :=
    hperm.pairwise hapart fun h _ hs hs' => h hs' hs
  obtain ⟨hlisted, hlistedReport⟩ := runsLike_configureSwitches force hapart hdistinct x hx n
  obtain ⟨hpermuted, hpermutedReport⟩ := runsLike_configureSwitches (r := { r with switches }) force hapart'
    (fun s hs => hdistinct s (hperm.mem_iff.2 hs)) y hy n
  obtain ⟨hdevices, hreport⟩ := r.configureSwitches_perm force hperm hapart n
  refine ⟨hpermuted.trans (hdevices.trans hlisted.symm), ?_⟩
  exact (Failure.report_congr hpermutedReport).trans (hreport.trans (Failure.report_congr hlistedReport).symm)

/-- The two leaves of the pair, of which one refuses the login and the other one an operation, take turns, or the second
one has its turn first. -/
theorem leafPair_scheduled :
    let n := ((Network.ofHosts ["leaf-1", "leaf-2"]).failLogin "leaf-2").failOperation "leaf-1" "Configure System L2 MTU"
    let taking := (weave [0, 1, 0, 1] (leafPair.switches.map fun s => s.configure leafPair.topology false)).run
      Network.adapter n
    let permuted :=
      ({ leafPair with switches := leafPair.switches.reverse }.configureSwitches false).run Network.adapter n
    taking.1 ≠ permuted.1 ∧ permuted.2 = taking.2 ∧ Failure.report permuted.1 = Failure.report taking.1 := by
  intro n
  have hapart : leafPair.switches.Pairwise fun s s' => s.footprint.Disjoint s'.footprint := by
    simp [leafPair, pairedLeaf, SwitchSpec.footprint]
  have hdistinct : ∀ s ∈ leafPair.switches, s.DistinctMembers := by
    simp only [leafPair, List.forall_mem_cons]
    exact ⟨⟨by decide, by decide⟩, ⟨by decide, by decide⟩, by simp⟩
  have htaking : (leafPair.configureSwitchesConcurrently false).MayBe
      (weave [0, 1, 0, 1] (leafPair.switches.map fun s => s.configure leafPair.topology false)) :=
    Concurrent.mayBe_weave _ fun s _ => s.mayBe_configure leafPair.topology false
  exact ⟨by decide +kernel, configureSwitches_scheduled false leafPair (List.reverse_perm _).symm hapart hdistinct
    htaking (mayBe_configureSwitches false _) _⟩

/-! ### Two nodes on one device -/

/-- The second leaf as a neighbor of the first one. -/
def formerPartner : DataPlaneNode :=
  { host := "leaf-1", peerIp := "10.2.0.1", peerLoopbackIp := "10.0.0.2", loopbackNumber := "1", peerAsn := 65001 }

/-- The first leaf is to lose the neighbor, which is named twice. -/
def repeatedNode : FabricRequest where
  name := "dc"
  switches := [{
    host := "leaf-1"
    role := .leaf
    loopbackPort := "1"
    interfaces := [{ name := "1", kind := .loopback, ip := "10.0.0.1/32", change := .create }]
    staleDataPlane := { nodes := [formerPartner, formerPartner] } }]

/-- The neighbor is removed without a failure if one node has its turn after the other.  If both ask for the neighbors
before one of them removes the neighbor, the other one is refused. -/
theorem repeatedNode_raced :
    let n := (formerPartner.add.run Network.adapter (Network.ofHosts ["leaf-1"])).2
    let raced := fanOut repeatedNode.switches fun s => s.configureWith repeatedNode.topology false
      (weave [0, 1, 0, 1] (s.staleDataPlane.nodes.map DataPlaneNode.remove)) s.dataPlane.add
    (repeatedNode.switches.Pairwise fun s s' => s.footprint.Disjoint s'.footprint) ∧
      (repeatedNode.configureSwitchesConcurrently false).MayBe (repeatedNode.configureSwitches false) ∧
      (repeatedNode.configureSwitchesConcurrently false).MayBe raced ∧
      (Failure.report ((repeatedNode.configureSwitches false).run Network.adapter n).1).length = 0 ∧
      (Failure.report (raced.run Network.adapter n).1).length = 1 := by
  intro n raced
  rw [(Failure.report_perm _).length_eq, (Failure.report_perm _).length_eq]
  refine ⟨List.pairwise_singleton _ _, mayBe_configureSwitches false _, Concurrent.mayBe_fanOut fun s _ => ?_,
    by decide +kernel, by decide +kernel⟩
  exact SwitchSpec.mayBe_configureWith _ _ (Concurrent.mayBe_weave _ fun _ _ => rfl) s.dataPlane.mayBe_add

end FabricRequest

end FabricProvision

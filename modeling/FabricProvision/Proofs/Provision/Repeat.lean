import FabricProvision.Proofs.Provision.Clusters
import FabricProvision.Proofs.Provision.Reached

/-!
# Running again

A request that only adds can be run again (`FabricRequest.Repeatable`): after a run without failures, a second
run has none either and leaves every switch as it was, journals apart (`FabricRequest.configure_again`).  The
second run does not do nothing: it finds what the first one made and makes it once more.  Both runs are those of the
list-order schedule.
-/

namespace FabricProvision

open Dialogue Network

namespace SwitchSpec

variable (t : Topology) (force : Bool) (s : SwitchSpec)

/-- A switch that has what its stages are for is not changed by them. -/
theorem idle_configure {n : Network} (hconfigured : n.At s.host (s.Configured t))
    (hdata : ∀ m ∈ s.dataPlane.nodes, n.At m.host m.Settled) (hstale : s.staleDataPlane.nodes = [])
    (hinterfaces : ∀ i ∈ s.interfaces, i.change ≠ .delete) (hneighbors : ∀ x ∈ s.neighbors, x.change ≠ .delete) :
    Idle adapter quiet (s.configure t force) n := by
  obtain ⟨d, hd, hlogin, hsystem, hinterface, hbgp, hevpn⟩ := hconfigured
  have hremoved : s.staleNeighbors = [] := List.filter_eq_nil_iff.2 fun x hx => by simpa using hneighbors x hx
  unfold configure
  refine idle_session hd hlogin (idle_collect shows_quiet fun w hw => ?_)
  simp only [List.mem_append, List.mem_cons, List.not_mem_nil, or_false] at hw
  rcases hw with ((rfl | rfl | rfl | rfl) | hw) | rfl
  · exact idle_local (s.stays_provisionSystem t force) (Scope.local_on (by simp [Part.stage])) hd
      (s.idle_provisionSystem t force hsystem)
  · exact idle_local s.stays_provisionInterfaces (Scope.local_on (by simp [Part.stage])) hd
      (s.idle_provisionInterfaces hinterfaces hinterface)
  · exact idle_local (s.stays_provisionBgp t) (Scope.local_on (by simp [Part.stage])) hd
      (s.idle_provisionBgp t hremoved hbgp)
  · unfold DataPlaneSpec.remove
    rw [hstale]
    exact ⟨rfl, rfl⟩
  · split at hw
    · rename_i hoverlay
      cases List.mem_singleton.1 hw
      exact idle_local (s.stays_provisionEvpn force) (Scope.local_on (by simp [Part.stage])) hd
        (s.idle_provisionEvpn force (hevpn hoverlay))
    · cases hw
  · refine idle_fanOut shows_quiet fun m hm => ?_
    obtain ⟨e, he, hsettled⟩ := hdata m hm
    exact idle_local m.stays_add (Scope.local_on (by simp)) he (m.idle_add hsettled)

theorem idle_configureOverlayGateway {n : Network}
    (h : n.At s.host fun d => d.refusesLogin = false ∧ d.Has s.gatewayOperation) :
    Idle adapter quiet (s.configureOverlayGateway force) n := by
  obtain ⟨d, hd, hlogin, hhas⟩ := h
  have hname : d.configuration.overlayGateway = some s.fabric := hhas.achieved
  refine idle_session hd hlogin (idle_local (s.stays_ensureGateway _ force) (Scope.local_on (by simp)) hd ?_)
  refine Device.idle_ensure hhas (by simp [UniqueObject.lookup]) ?_
  show (Except.ok (Response.named d.configuration.overlayGateway), d.configuration) = _
  rw [hname]

theorem idle_persist {n : Network} (h : n.At s.host fun d => d.refusesLogin = false ∧ d.Has .persist) :
    Idle adapter quiet s.persist n := by
  obtain ⟨d, hd, hlogin, hhas⟩ := h
  have hstays : (performStep "Persist Config" s.host .persist).Stays (Scope.on s.host (· = .saved)) :=
    stays_performStep ⟨rfl, rfl⟩
  exact idle_session hd hlogin (idle_local hstays (Scope.local_on (by simp)) hd (Device.idle_performStep hhas))

end SwitchSpec

namespace FabricRequest

variable {polling : Polling} {r : FabricRequest} {save : Bool}

/-- The request only adds, and says no two things about the same object. -/
structure Repeatable (r : FabricRequest) : Prop where
  hosts : (r.switches.map (·.host)).Nodup
  distinctInterfaces : ∀ s ∈ r.switches, (s.interfaces.map fun i => (i.kind, i.name)).Nodup
  interfaces : ∀ s ∈ r.switches, ∀ i ∈ s.interfaces, i.change ≠ .delete
  neighbors : ∀ s ∈ r.switches, ∀ x ∈ s.neighbors, x.change ≠ .delete
  dataPlane : ∀ s ∈ r.switches, s.staleDataPlane.nodes = []
  deletes : r.clusters.delete = []
  updates : r.clusters.update = []
  distinctClusters : (r.clusters.create.map fun c => (c.name, c.id)).Nodup
  unforced : ∀ c ∈ r.clusters.create, c.updates.contains .forceCreate = false

/-! ### Questions for principals -/

private theorem stays_asking (known : Principals) (cs : List ClusterSpec) :
    (findPrincipals known cs).Stays (Scope.asking fun _ => True) :=
  (stays_findPrincipals known cs).widen ⟨fun _ _ => trivial, fun _ _ h => ⟨trivial, h⟩⟩

private theorem quiet_findPrincipals (known : Principals) (cs : List ClusterSpec) (n : Network) :
    ((findPrincipals known cs).run adapter n).2.quiet = n.quiet := quiet_of_asking (stays_asking known cs) n

private theorem ne_cluster_of_stage {stage : Stage} (h : stage ≠ .clusters) :
    ∀ host op, (Scope.everywhere (·.stage = stage)).operations host op → op.part ≠ .cluster := by
  rintro host op hop hcluster
  have hstage : op.part.stage = stage := hop
  rw [hcluster] at hstage
  exact h hstage.symm

section repeatable

variable (hr : r.Repeatable)

include hr

/-! ### The stages of a run -/

/-- The only work on clusters is to create them, without force. -/
private theorem reconcileClusters_eq :
    reconcileClusters polling false r.clusters = fanOut r.clusters.create fun c => c.create polling false := by
  have hcreate : reconcileClusters polling false r.clusters =
      fanOut r.clusters.create (createCluster polling false) := by
    unfold reconcileClusters
    rw [hr.deletes, hr.updates]
    rfl
  rw [hcreate]
  unfold fanOut
  congr 1
  refine List.map_congr_left fun c hc => ?_
  unfold createCluster
  rw [hr.unforced c hc]
  rfl

variable {n : Network} (hclean : ((r.configure polling false save).run adapter n).1 = [])

include hclean

/-- The switches are as their stages leave them. -/
private theorem idle_configureSwitches :
    Idle adapter quiet (r.configureSwitches false) ((r.configure polling false save).run adapter n).2 := by
  refine idle_fanOut shows_quiet fun s hs => ?_
  refine s.idle_configure r.topology false ?_ (fun m hm => ?_) (hr.dataPlane s hs) (hr.interfaces s hs)
    (hr.neighbors s hs)
  · exact brings_goals hs (distinctHosts_of_nodup hr.hosts)
      (s.distinctInterfaces_of_nodup (hr.distinctInterfaces s hs)) n trivial hclean
  · exact brings_dataPlane hr.dataPlane hs hm n trivial hclean

/-- The clusters are created. -/
private theorem done_of_clean {c : ClusterSpec} (hc : c ∈ r.clusters.create) :
    c.Done polling ((r.configure polling false save).run adapter n).2 := by
  obtain ⟨-, hclusters, -, -, hrun⟩ := r.configure_clean polling false save hclean
  have hdistinct := List.pairwise_map.1 hr.distinctClusters
  have hcreates : Brings adapter (fun _ => True) (fanOut r.clusters.create fun c => c.create polling false)
      (c.Done polling) :=
    brings_fanOut_mem hc hdistinct (fun _ _ _ => brings_true _) (c.brings_create polling)
      fun c' _ hne => ClusterSpec.keeps_create (Ne.symm hne)
  rw [reconcileClusters_eq hr] at hclusters hrun
  have hdone := hcreates _ trivial hclusters
  have hasked := hdone.congr (quiet_findPrincipals ∅ (r.clusters.update ++ r.clusters.create) _).symm
  rw [hrun]
  exact (hasked.keeps (stays_configureOverlayGateways _) (ne_cluster_of_stage (by simp))).keeps stays_persistAll
    (ne_cluster_of_stage (by simp))

private theorem idle_reconcileClusters :
    Idle adapter quiet (reconcileClusters polling false r.clusters)
      ((r.configure polling false save).run adapter n).2 := by
  rw [reconcileClusters_eq hr]
  exact idle_fanOut shows_quiet fun c hc => c.idle_create polling (done_of_clean hr hclean hc)

omit hr in
/-- The principals are the same after the run as they were when they were asked for. -/
private theorem principals_again :
    let clusters := (reconcileClusters polling false r.clusters).run adapter
      ((r.configureSwitches false).run adapter n).2
    let asked := r.clusters.update ++ r.clusters.create
    ((findPrincipals ∅ asked).run adapter ((r.configure polling false save).run adapter n).2).1 =
      ((findPrincipals ∅ asked).run adapter clusters.2).1 := by
  intro clusters asked
  obtain ⟨-, -, -, -, hrun⟩ := r.configure_clean polling false save hclean
  let principals := (findPrincipals ∅ asked).run adapter clusters.2
  let gateways := (r.configureOverlayGateways false principals.1).run adapter principals.2
  -- Since they were asked for, only overlay gateways were created and configurations saved.
  have hgateways : AnswersAlike (fun _ => True) principals.2 gateways.2 :=
    answersAlike_of_same (relates_sameCluster (stays_configureOverlayGateways _) (ne_cluster_of_stage (by simp)) _)
  have hsaving : AnswersAlike (fun _ => True) gateways.2 ((r.persistAll save).run adapter gateways.2).2 :=
    answersAlike_of_same (relates_sameCluster stays_persistAll (ne_cluster_of_stage (by simp)) _)
  have halike := (hgateways.trans hsaving).congr (quiet_findPrincipals ∅ asked clusters.2) rfl
  rw [hrun]
  exact (run_asking (stays_asking ∅ asked) halike).1.symm

private theorem idle_configureOverlayGateways :
    let clusters := (reconcileClusters polling false r.clusters).run adapter
      ((r.configureSwitches false).run adapter n).2
    let principals := (findPrincipals ∅ (r.clusters.update ++ r.clusters.create)).run adapter clusters.2
    Idle adapter quiet (r.configureOverlayGateways false principals.1)
      ((r.configure polling false save).run adapter n).2 := by
  intro clusters principals
  refine idle_fanOut shows_quiet fun s hs => s.idle_configureOverlayGateway false ?_
  exact gateway_of_clean (distinctHosts_of_nodup hr.hosts) hclean hs

private theorem idle_persistAll :
    Idle adapter quiet (r.persistAll save) ((r.configure polling false save).run adapter n).2 := by
  unfold persistAll
  cases save with
  | false => exact ⟨rfl, rfl⟩
  | true =>
    exact idle_fanOut shows_quiet fun s hs =>
      s.idle_persist (saved_of_clean (distinctHosts_of_nodup hr.hosts) hs hclean)

end repeatable

/-! ### The second run -/

/-- A second run leaves everything as the first one did, journals apart. -/
theorem configure_again (polling : Polling) (r : FabricRequest) (save : Bool) (n : Network) (hr : r.Repeatable)
    (hclean : ((r.configure polling false save).run adapter n).1 = []) :
    let first := (r.configure polling false save).run adapter n
    let second := (r.configure polling false save).run adapter first.2
    second.1 = [] ∧ second.2.quiet = first.2.quiet := by
  intro first second
  let asked := r.clusters.update ++ r.clusters.create
  let switches := (r.configureSwitches false).run adapter first.2
  let clusters := (reconcileClusters polling false r.clusters).run adapter switches.2
  let principals := (findPrincipals ∅ asked).run adapter clusters.2
  let gateways := (r.configureOverlayGateways false principals.1).run adapter principals.2
  let saving := (r.persistAll save).run adapter gateways.2
  -- Each stage finds the network as the first run left it, and leaves it so.
  have hswitches : switches.1 = [] ∧ switches.2.quiet = first.2.quiet := idle_configureSwitches hr hclean
  have hclusters : clusters.1 = [] ∧ clusters.2.quiet = switches.2.quiet :=
    (idle_reconcileClusters hr hclean).congr shows_quiet hswitches.2.symm
  have hclustersQuiet : clusters.2.quiet = first.2.quiet := hclusters.2.trans hswitches.2
  have hprincipalsQuiet : principals.2.quiet = first.2.quiet :=
    (quiet_findPrincipals ∅ asked _).trans hclustersQuiet
  have hprincipals := (shows_quiet.run (findPrincipals ∅ asked) hclustersQuiet).1.trans (principals_again hclean)
  have hgateways : gateways.1 = [] ∧ gateways.2.quiet = principals.2.quiet := by
    have hidle := (idle_configureOverlayGateways hr hclean).congr shows_quiet hprincipalsQuiet.symm
    rw [← hprincipals] at hidle
    exact hidle
  have hsaving : saving.1 = [] ∧ saving.2.quiet = gateways.2.quiet :=
    (idle_persistAll hr hclean).congr shows_quiet (hgateways.2.trans hprincipalsQuiet).symm
  have hsecond : second = ([], saving.2) := by
    have hrun : second = if switches.1 ≠ [] then switches
        else if clusters.1 ≠ [] then clusters else (gateways.1 ++ saving.1, saving.2) := by
      unfold second
      rw [run_configure, run_finish]
    rw [hrun, if_neg (not_not_intro hswitches.1), if_neg (not_not_intro hclusters.1), hgateways.1, hsaving.1]
    rfl
  rw [hsecond]
  exact ⟨rfl, hsaving.2.trans (hgateways.2.trans hprincipalsQuiet)⟩

end FabricRequest

end FabricProvision

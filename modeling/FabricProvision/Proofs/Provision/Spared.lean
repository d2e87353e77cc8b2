import FabricProvision.Proofs.Device.Held
import FabricProvision.Proofs.Provision.Policy

/-!
# What a run without force spares

Without force no switch is told to give up its EVPN instance, its overlay gateway or its anycast gateway, and only
the nodes of clusters that are to be deleted, or created from scratch, are told to give up what belongs to a
cluster.  This can be read off the dialogue (`FabricRequest.stays_configure_sparing`).  Where nothing is given up,
nothing is replaced either, because a switch refuses a second object of these kinds (`Device.spared_receive`).
-/

namespace FabricProvision

open Dialogue Operation Step

/-! ### Sparing operations -/

namespace Operation

/-- Whether an operation takes away an object of which a switch holds at most one. -/
def replaces : Operation → Bool
  | deleteEvpnInstance _ | deleteOverlayGateway _ | unconfigureAnycastGateway => true
  | _ => false

private theorem stage_of_replaces {op : Operation} (h : op.replaces = true) :
    op.part.stage = .evpn ∨ op.part.stage = .overlayGateways ∨ op.part.stage = .system := by
  cases op <;> cases h <;> simp [part, Part.stage]

end Operation

/-- No unique object is taken away, and what belongs to a cluster only on certain hosts. -/
def Scope.sparing (cleared : String → Prop) : Scope :=
  ⟨fun _ => True, fun host op => op.replaces = false ∧ (op.clears = true → cleared host)⟩

variable {cleared : String → Prop}

private theorem sparing_of_stage {host : String} {op : Operation} {stage : Stage} (h : op.part.stage = stage)
    (hstage : stage = .interfaces ∨ stage = .bgp ∨ stage = .dataPlane ∨ stage = .saving) :
    (Scope.sparing cleared).operations host op := by
  subst h
  refine ⟨Bool.eq_false_iff.2 fun hreplaces => ?_, fun hclears => ?_⟩
  · rcases stage_of_replaces hreplaces with h | h | h <;> simp [h] at hstage
  · simp [part_of_clears hclears, Part.stage] at hstage

private theorem on_sub_sparing {host : String} {stage : Stage}
    (hstage : stage = .interfaces ∨ stage = .bgp ∨ stage = .dataPlane ∨ stage = .saving) :
    (Scope.on host (·.stage = stage)).Sub (Scope.sparing cleared) :=
  ⟨fun _ _ => trivial, fun _ _ hop => sparing_of_stage hop.2 hstage⟩

/-! ### What runs without force send -/

namespace SwitchSpec

variable (t : Topology) (s : SwitchSpec)

private theorem stays_ensure_sparing {host : String} {object : UniqueObject} {desired : String} {create : Operation}
    (hcreate : create.replaces = false ∧ create.clears = false) :
    (object.ensure host desired create false).Stays (Scope.sparing cleared) := by
  have hlookup : object.lookup.replaces = false ∧ object.lookup.clears = false := by cases object <;> exact ⟨rfl, rfl⟩
  exact stays_ensure_within ⟨hlookup.1, by simp [hlookup.2]⟩ ⟨hcreate.1, by simp [hcreate.2]⟩ (by simp)

private theorem stays_configure_sparing : (s.configure t false).Stays (Scope.sparing cleared) := by
  have hdataPlane : (Scope.everywhere (·.stage = .dataPlane)).Sub (Scope.sparing cleared) :=
    ⟨fun _ _ => trivial, fun _ _ hop => sparing_of_stage hop (by simp)⟩
  have hsystem : (s.provisionSystem t false).Stays (Scope.sparing cleared) :=
    s.stays_provisionSystem_of t false ⟨rfl, nofun⟩ ⟨rfl, nofun⟩ (stays_ensure_sparing ⟨rfl, rfl⟩)
  have hevpn : (s.provisionEvpn false).Stays (Scope.sparing cleared) :=
    s.stays_provisionEvpn_of false ⟨rfl, nofun⟩ (stays_ensure_sparing ⟨rfl, rfl⟩) ⟨rfl, nofun⟩
  exact s.stays_configure_of t false trivial hsystem (s.stays_provisionInterfaces.widen (on_sub_sparing (by simp)))
    ((s.stays_provisionBgp t).widen (on_sub_sparing (by simp))) (s.stays_removeStale.widen hdataPlane) hevpn
    (s.stays_addDataPlane.widen hdataPlane)

end SwitchSpec

namespace FabricRequest

variable (polling : Polling) (r : FabricRequest)

/-- The hosts of the clusters that are to be deleted, or to be created from scratch. -/
def clearedHosts : List String :=
  (r.clusters.delete ++ r.clusters.create.filter (·.updates.contains .forceCreate)).flatMap (·.hosts)

private theorem stays_reconcileClusters_sparing :
    (reconcileClusters polling false r.clusters).Stays (Scope.sparing (· ∈ r.clearedHosts)) := by
  -- What is taken away at all is taken from nodes of the cluster at hand.
  have hwork : ∀ (c : ClusterSpec) (action : ClusterAction) (force : Bool),
      (action = .delete ∨ action = .create ∧ force = true → ∀ host ∈ c.hosts, host ∈ r.clearedHosts) →
        (c.reconcile polling action force).Stays (Scope.sparing (· ∈ r.clearedHosts)) := by
    intro c action force h
    have hnodes : ∀ n ∈ c.nodes, n.host ∈ c.hosts := fun n hn => List.mem_map_of_mem hn
    refine (ClusterSpec.stays_reconcile_nodes hnodes polling action force fun h => h).widen
      ⟨fun _ _ => trivial, fun host op ⟨hhost, hpart, hclears⟩ => ⟨?_, ?_⟩⟩
    · refine Bool.eq_false_iff.2 fun hreplaces => ?_
      rcases stage_of_replaces hreplaces with h | h | h <;> simp [hpart, Part.stage] at h
    · exact fun hop => h (hclears hop) host hhost
  have hmem : ∀ c ∈ r.clusters.delete ++ r.clusters.create.filter (·.updates.contains .forceCreate),
      ∀ host ∈ c.hosts, host ∈ r.clearedHosts := fun c hc host hhost => List.mem_flatMap.2 ⟨c, hc, hhost⟩
  refine stays_reconcileClusters_of polling false (fun c hc => hwork c .delete false fun _ => hmem c (by simp [hc]))
    (fun c _ => hwork c .update false fun h => by simp at h) fun c hc => hwork c .create _ fun h => hmem c ?_
  simp only [reduceCtorEq, true_and, Bool.false_or, false_or] at h
  simp [hc, h]

private theorem stays_finish_sparing (save : Bool) :
    (r.finish false save).Stays (Scope.sparing cleared) := by
  have hstatus : FabricRequest.statusScope.Sub (Scope.sparing cleared) :=
    ⟨fun _ _ => trivial, fun _ op hop => by
      cases show op = .getClusterStatus from hop
      exact ⟨rfl, nofun⟩⟩
  refine ((stays_findPrincipals ∅ _).widen hstatus).bind fun principals _ => ?_
  refine Within.bind (Q := fun _ => True) (stays_fanOut fun s _ =>
    stays_session trivial (stays_step (SwitchSpec.stays_ensure_sparing ⟨rfl, rfl⟩))) fun errors _ => ?_
  split
  · exact Within.bind (Q := fun _ => True) (stays_fanOut fun s _ =>
      stays_session trivial (stays_performStep ⟨rfl, nofun⟩)) fun _ _ => within_pure trivial
  · exact within_pure trivial

/-- A run without force never leaves the sparing scope, whatever the switches answer. -/
theorem stays_configure_sparing (save : Bool) :
    (r.configure polling false save).Stays (Scope.sparing (· ∈ r.clearedHosts)) :=
  stays_stop (stays_fanOut fun s _ => s.stays_configure_sparing r.topology)
    (stays_stop (r.stays_reconcileClusters_sparing polling) (r.stays_finish_sparing save))

end FabricRequest

/-! ### What sparing operations leave -/

/-- There is a cluster object of that name and number. -/
def Configuration.HoldsCluster (name : String) (id : UInt32) (c : Configuration) : Prop :=
  ∃ object, c.cluster = some object ∧ object.name = name ∧ object.id = id

namespace Operation

open FabricProvision.Configuration (HoldsCluster)

variable {op : Operation} {c : Configuration}

private theorem deletes_of_replaces (op : Operation) (object : UniqueObject) (hop : op.replaces = false) :
    op.deletes object = false := by
  cases op with
  | deleteEvpnInstance | deleteOverlayGateway | unconfigureAnycastGateway => cases hop
  | _ => rfl

/-- A cluster object that is there keeps its name and its number. -/
private def KeepsCluster (c c' : Configuration) : Prop := ∀ name id, HoldsCluster name id c → HoldsCluster name id c'

private instance : Std.Refl KeepsCluster := ⟨fun _ _ _ h => h⟩

private instance : Trans KeepsCluster KeepsCluster KeepsCluster := ⟨fun h h' name id hc => h' name id (h name id hc)⟩

/-- What is done with the object of some name and number leaves an object with both. -/
private theorem keepsCluster_expect {name : String} {id : UInt32} {f : ClusterObject → Configuration → Configuration}
    (h : ∀ object c, c.cluster = some object → HoldsCluster object.name object.id (f object c)) :
    Respects KeepsCluster (do let object ← expectCluster name id; modify (f object)) := by
  rintro c name' id' ⟨object, hobject, rfl, rfl⟩
  simp only [expectCluster, Step.run_bind, Step.run_get, Configuration.clusterNamed?, hobject]
  by_cases hnamed : object.isNamed name id = true
  · simp only [Option.filter, hnamed, if_true]
    exact h object c hobject
  · simp only [Option.filter, hnamed]
    exact ⟨object, hobject, rfl, rfl⟩

/-- Another cluster is refused, and the same one is created over itself. -/
private theorem keepsCluster_create (object : ClusterObject) : Respects KeepsCluster (createClusterObject object) := by
  rintro c name id ⟨existing, hexisting, rfl, rfl⟩
  simp only [createClusterObject, Step.run_bind, Step.run_get, hexisting]
  by_cases hnamed : existing.isNamed object.name object.id = true
  · have hsame : existing.name = object.name ∧ existing.id = object.id := by
      simpa [ClusterObject.isNamed] using hnamed
    simp only [Option.filter, hnamed, Bool.not_true, Bool.false_eq_true, if_false]
    exact ⟨object, rfl, hsame.1.symm, hsame.2.symm⟩
  · simp only [Option.filter, hnamed, Bool.not_false, if_true]
    exact ⟨existing, hexisting, rfl, rfl⟩

private theorem keepsCluster_clearPeerIp (name : String) (id : UInt32) (peerIp : String) :
    Respects KeepsCluster (clearPeerIp name id peerIp) := by
  rintro c name' id' ⟨object, hobject, rfl, rfl⟩
  simp only [clearPeerIp, Step.run_bind, Step.run_get]
  rcases Option.eq_none_or_eq_some ((c.clusterNamed? name id).filter (·.peerIp == peerIp)) with hnone | ⟨found, hfound⟩
  · simp only [hnone]
    exact ⟨object, hobject, rfl, rfl⟩
  · simp only [hfound]
    obtain ⟨hnamed, -⟩ := Option.filter_eq_some_iff.1 hfound
    obtain ⟨hcluster, -⟩ := Option.filter_eq_some_iff.1 hnamed
    rw [hobject] at hcluster
    cases hcluster
    exact ⟨_, rfl, rfl, rfl⟩

private theorem keepsCluster_changePortChannel (name : String) (f : PortChannel → PortChannel) :
    Respects KeepsCluster (changePortChannel name f) := by
  refine respects_bind respects_get fun c => ?_
  split
  · exact respects_throw _
  · exact respects_modify fun _ _ _ h => h

private theorem keepsCluster_removeMember (member portChannel : String) :
    Respects KeepsCluster (removeMember member portChannel) := by
  refine respects_bind respects_get fun c => ?_
  split
  · exact respects_throw _
  · refine respects_bind (respects_modify fun _ _ _ h => h) fun _ => ?_
    split
    · exact respects_throw _
    · exact respects_pure _

private theorem keepsCluster_apply (hop : op.clears = false) : Respects KeepsCluster op.apply := by
  by_cases hpart : op.part = .cluster
  · cases op with
    | createCluster name id peerKind peerName peerIp => exact respects_acknowledge (keepsCluster_create _)
    | configureCluster binding => exact respects_acknowledge (keepsCluster_expect fun o c h => ⟨_, rfl, rfl, rfl⟩)
    | undeployCluster name id => exact respects_acknowledge (keepsCluster_expect fun o c h => ⟨o, h, rfl, rfl⟩)
    | configurePeerIp name id peerIp =>
      exact respects_acknowledge (keepsCluster_expect fun o c h => ⟨_, rfl, rfl, rfl⟩)
    | unconfigurePeerIp name id peerIp => exact respects_acknowledge (keepsCluster_clearPeerIp _ _ _)
    | addMember | configureSpeed => exact respects_acknowledge (keepsCluster_changePortChannel _ _)
    | deleteMember => exact respects_acknowledge (keepsCluster_removeMember _ _)
    | unconfigureVeIp =>
      exact respects_acknowledge (respects_bind respects_get fun _ => respects_bind (respects_require _ _) fun _ =>
        respects_modify fun _ _ _ h => h)
    | deconfigureRoute =>
      exact respects_acknowledge (respects_bind respects_get fun _ => respects_bind (respects_modify fun _ _ _ h => h)
        fun _ => respects_require _ _)
    | configureNodeId | unconfigurePrincipalPriority | createControlVlan | getControlVlan | createPortChannel
    | configureVe | getVe | configureVeIp | configureRoute | getCluster | getClusterStatus => exact fun _ _ _ h => h
    | deleteCluster | deleteControlVe | deleteControlVlan | deleteVe | deletePortChannel => cases hop
    | _ => cases hpart
  · intro c name id ⟨object, hobject, hnamed⟩
    obtain ⟨-, -, -, -, -, hcluster, -⟩ := op.apply_writes c .cluster (Ne.symm hpart)
    exact ⟨object, hcluster.trans hobject, hnamed⟩

end Operation

namespace Device

/-- The device still has its unique objects, and unless it is cleared a cluster object of the same name and
number. -/
structure Spared (cleared : Prop) (d d' : Device) : Prop where
  evpnInstance : ∀ name, d.configuration.evpnInstance = some name → d'.configuration.evpnInstance = some name
  overlayGateway : ∀ name, d.configuration.overlayGateway = some name → d'.configuration.overlayGateway = some name
  cluster : ¬ cleared → ∀ name id, d.configuration.HoldsCluster name id → d'.configuration.HoldsCluster name id

private theorem spared_of_same (cleared : Prop) {d d' : Device} (h : d'.configuration = d.configuration) :
    d.Spared cleared d' := by
  refine ⟨fun _ => ?_, fun _ => ?_, fun _ _ _ => ?_⟩ <;> rw [h] <;> exact id

private theorem Spared.trans {cleared : Prop} {d d' d'' : Device} (h : d.Spared cleared d')
    (h' : d'.Spared cleared d'') : d.Spared cleared d'' :=
  ⟨fun name hname => h'.evpnInstance name (h.evpnInstance name hname),
    fun name hname => h'.overlayGateway name (h.overlayGateway name hname),
    fun hcleared name id hc => h'.cluster hcleared name id (h.cluster hcleared name id hc)⟩

/-- A device that receives a sparing operation is spared. -/
theorem spared_receive {cleared : Prop} {op : Operation} (hop : op.replaces = false ∧ (op.clears = true → cleared))
    (d : Device) (status : ClusterStatus) : d.Spared cleared (d.receive status op).2 := by
  rcases d.receive_cases status op with ⟨-, h⟩ | ⟨-, -, h⟩ | ⟨-, -, h⟩ <;> rw [h]
  · exact spared_of_same _ rfl
  · exact spared_of_same _ rfl
  · have hkeeps : ∀ object ≠ UniqueObject.anycastGateway, ∀ name, object.held d.configuration = some name →
        object.held (op.apply.run.run d.configuration).2 = some name := fun object hobject _ =>
      UniqueObject.held_apply_of_not_deletes hobject (op.deletes_of_replaces object hop.1)
    refine ⟨hkeeps .evpnInstance nofun, hkeeps .overlayGateway nofun, fun hcleared => ?_⟩
    have hclears : op.clears = false := Bool.eq_false_iff.2 fun hclears => hcleared (hop.2 hclears)
    exact keepsCluster_apply hclears d.configuration

end Device

/-! ### Whole runs -/

/-- What no operation of a sparing dialogue does, its run does not do. -/
theorem Network.spares_of_stays {α : Type} {cleared : String → Prop} {x : Dialogue α}
    (hx : x.Stays (Scope.sparing cleared)) (n : Network) :
    let n' := (x.run Network.adapter n).2
    (∀ host, ∃ ops, n'.journal host = n.journal host ++ ops ∧
      ∀ op ∈ ops, op.replaces = false ∧ (op.clears = true → cleared host)) ∧
    n.Relates (fun host => Device.Spared (cleared host)) n' := by
  refine ⟨Network.run_journal hx n, ?_⟩
  exact Network.run_relates hx (fun host _ => Device.spared_of_same (cleared host) rfl)
    (fun _ _ _ _ => Device.Spared.trans) (fun _ _ hop => Device.spared_receive hop) n

/-- Without force nothing that exists is replaced.  No host is told to give up an EVPN instance, an overlay gateway
or an anycast gateway, and only the nodes of clusters to be deleted or created from scratch are told to give up a
cluster, its control VLAN, its control VE or its port-channel.  Every device keeps its EVPN instance and its overlay
gateway, and every other device that holds a cluster object goes on holding one of the same name and number. -/
theorem FabricRequest.configure_spares (polling : Polling) (r : FabricRequest) (save : Bool) (n : Network) :
    let n' := ((r.configure polling false save).run Network.adapter n).2
    (∀ host, ∃ ops, n'.journal host = n.journal host ++ ops ∧
      ∀ op ∈ ops, op.replaces = false ∧ (op.clears = true → host ∈ r.clearedHosts)) ∧
    n.Relates (fun host => Device.Spared (host ∈ r.clearedHosts)) n' :=
  Network.spares_of_stays (r.stays_configure_sparing polling save) n

end FabricProvision

import FabricProvision.Proofs.Device.Invariants
import FabricProvision.Proofs.Provision.Updated

/-!
# What an update sends

An update reads the cluster object of a node once, and the VE that is bound to its control VLAN.  While it is under
way the object keeps its name, its number and its control VLAN, and the control VLANs keep their VEs
(`ClusterSpec.Alike`).  So the operations that change something are known from the configuration in the beginning
(`ClusterSpec.Sends`), and so is what they can do (`ClusterSpec.Moves`).  What is kept by all of that, an update
maintains wherever it is stopped (`ClusterSpec.maintains_update`).
-/

namespace FabricProvision

open Dialogue Operation Step

/-- The cluster object without the address of its partner. -/
def ClusterObject.unpartnered (o : ClusterObject) : ClusterObject := { o with peerIp := "" }

namespace ClusterSpec

variable (c : ClusterSpec) (x : ClusterNode) {start cfg : Configuration} {live live' : Option ClusterObject}

/-! ### Names and numbers -/

/-- Configurations with the same control VLANs, and with the same cluster object but for its partner. -/
structure Alike (start cfg : Configuration) : Prop where
  controlVlans : cfg.controlVlans = start.controlVlans
  cluster : cfg.cluster.map ClusterObject.unpartnered = start.cluster.map ClusterObject.unpartnered

theorem alike_refl (cfg : Configuration) : Alike cfg cfg := ⟨rfl, rfl⟩

section partners

variable (h : live.map ClusterObject.unpartnered = live'.map ClusterObject.unpartnered)

include h

theorem updatedName_congr : c.updatedName live = c.updatedName live' := by
  have hread : ∀ o : Option ClusterObject, c.updatedName (o.map ClusterObject.unpartnered) = c.updatedName o := by
    intro o
    cases o <;> rfl
  rw [← hread live, h, hread]

theorem controlVlan_congr : live.bind (·.controlVlan) = live'.bind (·.controlVlan) := by
  have hread : ∀ o : Option ClusterObject,
      (o.map ClusterObject.unpartnered).bind (·.controlVlan) = o.bind (·.controlVlan) := by
    intro o
    cases o <;> rfl
  rw [← hread live, h, hread]

private theorem named_congr (name : String) (id : UInt32) :
    (live.filter (·.isNamed name id)).isSome = (live'.filter (·.isNamed name id)).isSome := by
  have hread : ∀ o : Option ClusterObject, ((o.map ClusterObject.unpartnered).filter (·.isNamed name id)).isSome =
      (o.filter (·.isNamed name id)).isSome := by
    intro o
    cases o with
    | none => rfl
    | some o =>
      have hsame : o.unpartnered.isNamed name id = o.isNamed name id := rfl
      simp only [Option.map_some, Option.filter, hsame]
      split <;> rfl
  rw [← hread live, h, hread]

end partners

namespace Alike

variable (h : Alike start cfg)

include h

theorem movedVe_eq : c.movedVe cfg = c.movedVe start := by
  unfold movedVe
  rw [h.controlVlans, controlVlan_congr h.cluster]

theorem target?_eq :
    c.target? cfg = cfg.clusterNamed? (c.updatedName start.cluster).1 (c.updatedName start.cluster).2 := by
  unfold target?
  rw [updatedName_congr c h.cluster]

theorem isSome_target? : (c.target? cfg).isSome = (c.target? start).isSome := by
  rw [h.target?_eq]
  exact named_congr h.cluster _ _

/-- The cluster object may have any partner and need not be deployed. -/
theorem partner {object : ClusterObject}
    (hobject : cfg.clusterNamed? (c.updatedName start.cluster).1 (c.updatedName start.cluster).2 = some object)
    (peerIp : String) (deployed : Bool) :
    Alike start { cfg with cluster := some { object with peerIp }, deployed } := by
  have hcluster : cfg.cluster = some object := (Option.filter_eq_some_iff.1 hobject).1
  refine ⟨h.controlVlans, Eq.trans ?_ h.cluster⟩
  rw [hcluster]
  rfl

end Alike

/-! ### Operations -/

/-- What an update sends to change a node that had a configuration in the beginning.  Ports and speed come after the
partner, whose change needs the cluster object. -/
inductive Sends (start : Configuration) : Operation → Prop
  | unconfigureVeIp (hset : c.updates.contains .remotePeerIp = true) (address : String) :
      Sends start (.unconfigureVeIp (c.movedVe start) address)
  | configureVeIp (hset : c.updates.contains .remotePeerIp = true) :
      Sends start (.configureVeIp (c.movedVe start) x.remotePeerIp)
  | undeployCluster (hset : c.updates.contains .peerIp = true) :
      Sends start (.undeployCluster (c.updatedName start.cluster).1 (c.updatedName start.cluster).2)
  | unconfigurePeerIp (hset : c.updates.contains .peerIp = true) (peerIp : String) :
      Sends start (.unconfigurePeerIp (c.updatedName start.cluster).1 (c.updatedName start.cluster).2 peerIp)
  | configurePeerIp (hset : c.updates.contains .peerIp = true) :
      Sends start (.configurePeerIp (c.updatedName start.cluster).1 (c.updatedName start.cluster).2 x.peerIp)
  | addMember (hset : c.updates.contains .memberAdd = true)
      (hreached : c.updates.contains .peerIp = true → (c.target? start).isSome = true) {port : String}
      (hport : port ∈ x.connectingPorts) :
      Sends start (.addMember port x.peerInterface.name x.peerInterface.speed)
  | deleteMember (hset : c.updates.contains .memberDelete = true)
      (hreached : c.updates.contains .peerIp = true → (c.target? start).isSome = true) {port : String}
      (hport : port ∈ x.connectingPorts) :
      Sends start (.deleteMember port x.peerInterface.name)
  | configureSpeed (hset : c.updates.contains .speed = true)
      (hreached : c.updates.contains .peerIp = true → (c.target? start).isSome = true) :
      Sends start (.configureSpeed x.peerInterface.name x.peerInterface.speed)

variable {c x}

theorem Sends.ne_getClusterStatus {op : Operation} (h : c.Sends x start op) : op ≠ .getClusterStatus := by
  cases h <;> simp

/-! ### Moves -/

/-- A port-channel to the partner after one change that the update names. -/
inductive Rebundles (c : ClusterSpec) (x : ClusterNode) (p : PortChannel) : PortChannel → Prop
  | add (hset : c.updates.contains .memberAdd = true) {port : String} (hport : port ∈ x.connectingPorts) :
      Rebundles c x p { p with members := p.members.insert port }
  | delete (hset : c.updates.contains .memberDelete = true) {port : String} (hport : port ∈ x.connectingPorts) :
      Rebundles c x p { p with members := p.members.erase port }
  | speed (hset : c.updates.contains .speed = true) : Rebundles c x p { p with speed := x.peerInterface.speed }

/-- What an operation of an update can make of a configuration. -/
inductive Moves (c : ClusterSpec) (x : ClusterNode) (start cfg : Configuration) : Configuration → Prop
  | idle : Moves c x start cfg cfg
  | ve (hset : c.updates.contains .remotePeerIp = true) (address : Option String) :
      Moves c x start cfg { cfg with ves := cfg.ves.insert (c.movedVe start) address }
  | partner (hset : c.updates.contains .peerIp = true) {object : ClusterObject}
      (hobject : cfg.clusterNamed? (c.updatedName start.cluster).1 (c.updatedName start.cluster).2 = some object)
      (peerIp : String) (deployed : Bool) :
      Moves c x start cfg { cfg with cluster := some { object with peerIp }, deployed }
  | channel (hreached : c.updates.contains .peerIp = true → (c.target? start).isSome = true) {p q : PortChannel}
      (hp : cfg.portChannels[x.peerInterface.name]? = some p) (hq : Rebundles c x p q) :
      Moves c x start cfg { cfg with portChannels := cfg.portChannels.insert x.peerInterface.name q }

section moves

variable (cfg)

private theorem moves_unconfigureVeIp (hset : c.updates.contains .remotePeerIp = true) (address : String) :
    c.Moves x start cfg ((unconfigureVeIp (c.movedVe start) address).apply.run.run cfg).2 := by
  simp only [apply, run_acknowledge, clearVeAddress, Step.run_bind, run_get, run_require]
  by_cases hthere : (cfg.ves[c.movedVe start]? == some (some address)) = true
  · simp only [hthere, if_true]
    exact .ve hset none
  · simp only [hthere, if_false, Bool.false_eq_true]
    exact .idle

section partners

variable (hset : c.updates.contains .peerIp = true)

include hset

private theorem moves_undeployCluster : c.Moves x start cfg
    ((undeployCluster (c.updatedName start.cluster).1 (c.updatedName start.cluster).2).apply.run.run cfg).2 := by
  rcases hobject : cfg.clusterNamed? (c.updatedName start.cluster).1 (c.updatedName start.cluster).2 with _ | object
  · rw [apply_undeployCluster_of_absent hobject]
    exact .idle
  · rw [apply_undeployCluster hobject]
    have hcluster : cfg.cluster = some object := (Option.filter_eq_some_iff.1 hobject).1
    have hmoves := Moves.partner (x := x) hset hobject object.peerIp false
    rwa [← hcluster] at hmoves

private theorem moves_unconfigurePeerIp (peerIp : String) : c.Moves x start cfg
    ((unconfigurePeerIp (c.updatedName start.cluster).1 (c.updatedName start.cluster).2 peerIp).apply.run.run
      cfg).2 := by
  rcases hobject : cfg.clusterNamed? (c.updatedName start.cluster).1 (c.updatedName start.cluster).2 with _ | object
  · simp only [apply, run_acknowledge, clearPeerIp, Step.run_bind, run_get, hobject]
    exact .idle
  · by_cases hpeerIp : object.peerIp = peerIp
    · rw [apply_unconfigurePeerIp hobject hpeerIp]
      exact .partner hset hobject "" cfg.deployed
    · have hother : (some object).filter (fun o => o.peerIp == peerIp) = none := by simp [Option.filter, hpeerIp]
      simp only [apply, run_acknowledge, clearPeerIp, Step.run_bind, run_get, hobject, hother]
      exact .idle

private theorem moves_configurePeerIp (peerIp : String) : c.Moves x start cfg
    ((configurePeerIp (c.updatedName start.cluster).1 (c.updatedName start.cluster).2 peerIp).apply.run.run
      cfg).2 := by
  rcases hobject : cfg.clusterNamed? (c.updatedName start.cluster).1 (c.updatedName start.cluster).2 with _ | object
  · simp only [apply, run_acknowledge, setPeerIp, expectCluster, Step.run_bind, run_get, hobject]
    exact .idle
  · rw [apply_configurePeerIp hobject]
    exact .partner hset hobject peerIp true

end partners

section channels

variable (hreached : c.updates.contains .peerIp = true → (c.target? start).isSome = true)

include hreached

private theorem moves_changePortChannel (f : PortChannel → PortChannel) (hf : ∀ p, c.Rebundles x p (f p)) :
    c.Moves x start cfg ((acknowledge (changePortChannel x.peerInterface.name f)).run.run cfg).2 := by
  simp only [run_acknowledge, changePortChannel, Step.run_bind, run_get]
  rcases hchannel : cfg.portChannels[x.peerInterface.name]? with _ | p
  · exact .idle
  · exact .channel hreached hchannel (hf p)

/-- A port that is no member is taken out all the same. -/
private theorem moves_deleteMember (hset : c.updates.contains .memberDelete = true) {port : String}
    (hport : port ∈ x.connectingPorts) :
    c.Moves x start cfg ((deleteMember port x.peerInterface.name).apply.run.run cfg).2 := by
  rcases hchannel : cfg.portChannels[x.peerInterface.name]? with _ | p
  · rw [apply_deleteMember_of_absent hchannel]
    exact .idle
  · rw [apply_deleteMember hchannel]
    exact .channel hreached hchannel (.delete hset hport)

end channels

end moves

/-- What an update sends makes a move. -/
theorem Sends.moves {op : Operation} (h : c.Sends x start op) (cfg : Configuration) :
    c.Moves x start cfg (op.apply.run.run cfg).2 := by
  cases h with
  | unconfigureVeIp hset address => exact moves_unconfigureVeIp cfg hset address
  | configureVeIp hset => exact .ve hset (some x.remotePeerIp)
  | undeployCluster hset => exact moves_undeployCluster cfg hset
  | unconfigurePeerIp hset peerIp => exact moves_unconfigurePeerIp cfg hset peerIp
  | configurePeerIp hset => exact moves_configurePeerIp cfg hset x.peerIp
  | addMember hset hreached hport => exact moves_changePortChannel cfg hreached _ fun p => .add hset hport
  | deleteMember hset hreached hport => exact moves_deleteMember cfg hreached hset hport
  | configureSpeed hset hreached => exact moves_changePortChannel cfg hreached _ fun p => .speed hset

/-! ### Invariants -/

section maintains

variable {I : Configuration → Prop} (hmoves : ∀ {cfg cfg'}, I cfg → c.Moves x start cfg cfg' → I cfg')

include hmoves

private theorem maintains_sent {operation : String} {op : Operation} (h : c.Sends x start op) :
    (NodeWork.send x.host operation op).Maintains I fun _ => True :=
  NodeWork.maintains_send h.ne_getClusterStatus (fun cfg hcfg => hmoves hcfg (h.moves cfg)) fun _ _ _ _ => trivial

private theorem maintains_allSent {steps : List ClusterStep}
    (h : ∀ operation op, ClusterStep.send operation op ∈ steps → c.Sends x start op) :
    (NodeWork.sendAll x.host steps).Maintains I fun _ => True :=
  NodeWork.maintains_sendAll fun operation op hop =>
    ⟨(h operation op hop).ne_getClusterStatus, fun cfg hcfg => hmoves hcfg ((h operation op hop).moves cfg)⟩

variable (halike : ∀ cfg, I cfg → Alike start cfg)

include halike

private theorem maintains_updateVe (hset : c.updates.contains .remotePeerIp = true)
    (hlive : live.map ClusterObject.unpartnered = start.cluster.map ClusterObject.unpartnered) :
    (c.updateVe x live).Maintains I fun _ => True := by
  have hconfigure : (NodeWork.send x.host "MCT Cluster Set VE IP"
      (.configureVeIp (c.movedVe start) x.remotePeerIp)).Maintains I fun _ => True :=
    maintains_sent hmoves (.configureVeIp hset)
  unfold updateVe
  refine NodeWork.Maintains.bind (Q := fun bound => bound.getD c.controlVe = c.movedVe start) ?_ fun bound hbound => ?_
  · refine NodeWork.maintains_ask (by simp) (fun _ h => h) ?_
    rintro cfg _ h ⟨⟩ _ ⟨⟩
    rw [controlVlan_congr hlive, (halike cfg h).controlVlans]
    rfl
  · dsimp only
    rw [hbound]
    refine NodeWork.Maintains.bind (Q := fun _ => True) (NodeWork.maintains_ask (by simp) (fun _ h => h)
      fun _ _ _ _ _ _ => trivial) fun address _ => ?_
    cases address with
    | none => exact hconfigure
    | some address => exact (maintains_sent hmoves (.unconfigureVeIp hset address)).bind fun _ _ => hconfigure

/-- If the partner of the cluster object is set, then there was an object with the name in the beginning. -/
private theorem maintains_peerIp (hset : c.updates.contains .peerIp = true)
    (hlive : live.map ClusterObject.unpartnered = start.cluster.map ClusterObject.unpartnered) :
    (NodeWork.sendAll x.host (c.peerIpSteps x live)).Maintains I fun _ => (c.target? start).isSome = true := by
  have hundeploy : (NodeWork.send x.host "MCT Cluster Undeploy"
      (.undeployCluster (c.updatedName start.cluster).1 (c.updatedName start.cluster).2)).Maintains I
        fun _ => (c.target? start).isSome = true := by
    refine NodeWork.maintains_send (by simp)
      (fun cfg hcfg => hmoves hcfg ((Sends.undeployCluster hset).moves cfg)) fun cfg r h hr => ?_
    rw [← (halike cfg h).isSome_target?, (halike cfg h).target?_eq]
    rcases hobject : cfg.clusterNamed? (c.updatedName start.cluster).1 (c.updatedName start.cluster).2 with _ | object
    · rw [apply_undeployCluster_of_absent hobject] at hr
      cases hr
    · rfl
  rw [peerIpSteps_eq, updatedName_congr c hlive]
  refine hundeploy.bind fun _ hreached => ?_
  refine NodeWork.Maintains.weaken (maintains_allSent hmoves fun operation op hop => ?_) fun _ _ => hreached
  simp only [List.mem_append, List.mem_singleton, ClusterStep.send.injEq] at hop
  rcases hop with hop | ⟨-, rfl⟩
  · split at hop
    · cases hop
    · simp only [List.mem_singleton, ClusterStep.send.injEq] at hop
      obtain ⟨-, rfl⟩ := hop
      exact .unconfigurePeerIp hset _
  · exact .configurePeerIp hset

/-- Whatever is refused to it, an update maintains what each of its moves keeps. -/
theorem maintains_update : (c.update x).Maintains I fun _ => True := by
  unfold update
  refine NodeWork.Maintains.bind
    (Q := fun live => live.map ClusterObject.unpartnered = start.cluster.map ClusterObject.unpartnered) ?_
    fun live hlive => ?_
  · refine NodeWork.maintains_ask (by simp) (fun _ h => h) ?_
    rintro cfg _ h ⟨⟩ _ ⟨⟩
    exact (halike cfg h).cluster
  dsimp only
  refine NodeWork.maintains_guarded (P := True) (fun hset => maintains_updateVe hmoves halike hset hlive) fun _ => ?_
  refine NodeWork.maintains_guarded (fun hset => maintains_peerIp hmoves halike hset hlive) fun hreached => ?_
  refine NodeWork.maintains_guarded (P := True) (fun hset => ?_) fun _ => ?_
  · refine maintains_allSent hmoves fun operation op hop => ?_
    obtain ⟨port, hport, hsend⟩ := List.mem_map.1 hop
    cases hsend
    exact .addMember hset hreached hport
  refine NodeWork.maintains_guarded (P := True) (fun hset => ?_) fun _ => ?_
  · refine maintains_allSent hmoves fun operation op hop => ?_
    obtain ⟨port, hport, hsend⟩ := List.mem_map.1 hop
    cases hsend
    exact .deleteMember hset hreached hport
  split
  · rename_i hset
    refine maintains_allSent hmoves fun operation op hop => ?_
    simp only [speedSteps, List.mem_singleton, ClusterStep.send.injEq] at hop
    obtain ⟨-, rfl⟩ := hop
    exact .configureSpeed hset hreached
  · exact NodeWork.maintains_pure trivial

end maintains

end ClusterSpec

end FabricProvision

import FabricProvision.Proofs.Provision.Undisturbed

/-!
# What an update leaves

An update first reads the cluster object of a node and then moves the address of the control VE, the partner of
the cluster object and the peer port-channel, as far as the update names them.  When nothing is refused and no
ports are to be taken out, what it leaves is known for every configuration (`ClusterSpec.after_updateOn`): it ends
early where there is no cluster object under the name that it goes by, and where there is no port-channel.
-/

namespace FabricProvision

open Std (ExtTreeMap ExtTreeSet)
open Dialogue Operation Step

/-! ### Operations of updates -/

namespace Operation

variable {cfg : Configuration} {name peerIp : String} {id : UInt32} {object : ClusterObject}

theorem apply_unconfigureVeIp {ve : UInt16} {ip : String} (h : cfg.ves[ve]?.join = some ip) :
    (unconfigureVeIp ve ip).apply.run.run cfg = (.ok .ok, { cfg with ves := cfg.ves.insert ve none }) := by
  have hthere : cfg.ves[ve]? = some (some ip) := Option.join_eq_some_iff.1 h
  simp only [apply, run_acknowledge, clearVeAddress, Step.run_bind, run_get, run_require, hthere, BEq.rfl, if_true]
  rfl

section named

variable (h : cfg.clusterNamed? name id = some object)

include h

/-- A cluster object goes by its name whoever its partner is. -/
theorem clusterNamed?_partner (peerIp : String) (deployed : Bool) :
    Configuration.clusterNamed? { cfg with cluster := some { object with peerIp }, deployed } name id =
      some { object with peerIp } := by
  have hnamed : ({ object with peerIp } : ClusterObject).isNamed name id = true := (Option.filter_eq_some_iff.1 h).2
  simp only [Configuration.clusterNamed?, Option.filter, hnamed, if_true]

theorem apply_undeployCluster :
    (undeployCluster name id).apply.run.run cfg = (.ok .ok, { cfg with deployed := false }) := by
  simp only [apply, run_acknowledge, undeploy, expectCluster, Step.run_bind, run_get, h]
  rfl

theorem apply_configurePeerIp :
    (configurePeerIp name id peerIp).apply.run.run cfg =
      (.ok .ok, { cfg with cluster := some { object with peerIp }, deployed := true }) := by
  simp only [apply, run_acknowledge, setPeerIp, expectCluster, Step.run_bind, run_get, h]
  rfl

theorem apply_unconfigurePeerIp (hpeerIp : object.peerIp = peerIp) :
    (unconfigurePeerIp name id peerIp).apply.run.run cfg =
      (.ok .ok, { cfg with cluster := some { object with peerIp := "" } }) := by
  have hfound : (some object).filter (fun o => o.peerIp == peerIp) = some object := by
    simp [Option.filter, hpeerIp]
  simp only [apply, run_acknowledge, clearPeerIp, Step.run_bind, run_get, h, hfound]
  rfl

end named

theorem apply_undeployCluster_of_absent (h : cfg.clusterNamed? name id = none) :
    (undeployCluster name id).apply.run.run cfg = (.error (.notConfigured (clusterText name id)), cfg) := by
  simp only [apply, run_acknowledge, undeploy, expectCluster, Step.run_bind, run_get, h]
  rfl

section channels

variable {port speed : String} {p : PortChannel}

theorem apply_addMember_of_absent (h : cfg.portChannels[name]? = none) :
    (addMember port name speed).apply.run.run cfg = (.error (.notConfigured s!"port-channel {name}"), cfg) := by
  simp only [apply, run_acknowledge, changePortChannel, Step.run_bind, run_get, h]
  rfl

theorem apply_deleteMember_of_absent (h : cfg.portChannels[name]? = none) :
    (deleteMember port name).apply.run.run cfg =
      (.error (.notConfigured s!"member {port} of port-channel {name}"), cfg) := by
  simp only [apply, run_acknowledge, removeMember, Step.run_bind, run_get, h]
  rfl

theorem apply_deleteMember (h : cfg.portChannels[name]? = some p) :
    (deleteMember port name).apply.run.run cfg =
      (if p.members.contains port then .ok .ok
        else .error (.notConfigured s!"member {port} of port-channel {name}"),
        { cfg with portChannels := cfg.portChannels.insert name { p with members := p.members.erase port } }) := by
  simp only [apply, run_acknowledge, removeMember, Step.run_bind, run_get, h]
  cases p.members.contains port <;> rfl

theorem apply_configureSpeed (h : cfg.portChannels[name]? = some p) :
    (configureSpeed name speed).apply.run.run cfg =
      (.ok .ok, { cfg with portChannels := cfg.portChannels.insert name { p with speed } }) := by
  simp only [apply, run_acknowledge, changePortChannel, Step.run_bind, run_get, h]
  rfl

theorem apply_configureSpeed_of_absent (h : cfg.portChannels[name]? = none) :
    (configureSpeed name speed).apply.run.run cfg = (.error (.notConfigured s!"port-channel {name}"), cfg) := by
  simp only [apply, run_acknowledge, changePortChannel, Step.run_bind, run_get, h]
  rfl

end channels

end Operation

namespace ClusterSpec

variable (c : ClusterSpec) (x : ClusterNode)

/-! ### What an update leaves -/

/-- The VE that an update moves: the one that is bound to the control VLAN of the cluster object, or else the one
of the cluster. -/
def movedVe (cfg : Configuration) : UInt16 :=
  (cfg.controlVlans[(cfg.cluster.bind (·.controlVlan)).getD c.controlVlan]?.join).getD c.controlVe

/-- The cluster object that an update finds under the name that it goes by. -/
def target? (cfg : Configuration) : Option ClusterObject :=
  cfg.clusterNamed? (c.updatedName cfg.cluster).1 (c.updatedName cfg.cluster).2

/-- A port-channel with the speed and the ports that an update gives to it. -/
def rebundled (p : PortChannel) : PortChannel where
  speed := if c.updates.contains .speed then x.peerInterface.speed else p.speed
  members := if c.updates.contains .memberAdd then p.members.insertMany x.connectingPorts else p.members

/-- The port-channels with the one to the partner as an update leaves it; it is not created. -/
def rechanneled (m : ExtTreeMap String PortChannel) : ExtTreeMap String PortChannel :=
  match m[x.peerInterface.name]? with
  | none => m
  | some p => m.insert x.peerInterface.name (c.rebundled x p)

/-- The configuration with the control VE at its desired address, if the update names it. -/
def moved (cfg : Configuration) : Configuration :=
  if c.updates.contains .remotePeerIp then setVeAddress (c.movedVe cfg) x.remotePeerIp cfg else cfg

/-- What an update that takes out no ports leaves on a node without faults. -/
def updated (cfg : Configuration) : Configuration :=
  if c.updates.contains .peerIp then
    match c.target? cfg with
    | none => c.moved x cfg
    | some object => { c.moved x cfg with
        cluster := some { object with peerIp := x.peerIp }
        deployed := true
        portChannels := c.rechanneled x cfg.portChannels }
  else { c.moved x cfg with portChannels := c.rechanneled x cfg.portChannels }

/-! ### Running an update -/

section outcome

variable {c x} {cfg : Configuration}

theorem outcome_updateVe (cfg : Configuration) :
    (c.updateVe x cfg.cluster).outcome cfg = (.ok ⟨⟩, setVeAddress (c.movedVe cfg) x.remotePeerIp cfg) := by
  have hset : ∀ cfg' : Configuration,
      (NodeWork.send x.host "MCT Cluster Set VE IP" (.configureVeIp (c.movedVe cfg) x.remotePeerIp)).outcome cfg' =
        (.ok ⟨⟩, setVeAddress (c.movedVe cfg) x.remotePeerIp cfg') := fun cfg' => NodeWork.outcome_send (by simp) rfl
  unfold updateVe
  refine (NodeWork.outcome_bind_of_ok (NodeWork.outcome_ask (by simp) rfl rfl)).trans ?_
  refine (NodeWork.outcome_bind_of_ok (NodeWork.outcome_ask (by simp) rfl rfl)).trans ?_
  split
  · rename_i address haddress
    have hthere : cfg.ves[c.movedVe cfg]?.join = some address := (Option.filter_eq_some_iff.1 haddress).1
    refine (NodeWork.outcome_bind_of_ok (NodeWork.outcome_send (by simp) (apply_unconfigureVeIp hthere))).trans ?_
    refine (hset _).trans ?_
    simp only [setVeAddress, insert_insert]
  · exact hset cfg

variable (c x) in
theorem peerIpSteps_eq (live : Option ClusterObject) :
    c.peerIpSteps x live =
      .send "MCT Cluster Undeploy" (.undeployCluster (c.updatedName live).1 (c.updatedName live).2) ::
        ((if ((live.map (·.peerIp)).getD "").isEmpty then [] else
          [.send "MCT Cluster Delete Peer IP" (.unconfigurePeerIp (c.updatedName live).1 (c.updatedName live).2
            ((live.map (·.peerIp)).getD ""))]) ++
        [.send "MCT Cluster Set Peer IP" (.configurePeerIp (c.updatedName live).1 (c.updatedName live).2 x.peerIp)]) :=
  rfl

/-- Without a cluster object under the name that it goes by, the update stops. -/
theorem outcome_peerIp_of_absent (h : c.target? cfg = none) :
    ∃ f, (NodeWork.sendAll x.host (c.peerIpSteps x cfg.cluster)).outcome cfg = (.error f, cfg) := by
  rw [peerIpSteps_eq]
  exact NodeWork.outcome_sendAll_of_error (by simp) (apply_undeployCluster_of_absent h)

theorem outcome_peerIp {object : ClusterObject} (h : c.target? cfg = some object) :
    (NodeWork.sendAll x.host (c.peerIpSteps x cfg.cluster)).outcome cfg =
      (.ok ⟨⟩, { cfg with cluster := some { object with peerIp := x.peerIp }, deployed := true }) := by
  have hcluster : cfg.cluster = some object := (Option.filter_eq_some_iff.1 h).1
  have hlive : (cfg.cluster.map (·.peerIp)).getD "" = object.peerIp := by rw [hcluster]; rfl
  let undeployed : Configuration := { cfg with deployed := false }
  have hundeployed : undeployed.clusterNamed? (c.updatedName cfg.cluster).1 (c.updatedName cfg.cluster).2 =
      some object := h
  let cleared : Configuration := { undeployed with cluster := some { object with peerIp := "" } }
  have hcleared : cleared.clusterNamed? (c.updatedName cfg.cluster).1 (c.updatedName cfg.cluster).2 =
      some { object with peerIp := "" } := clusterNamed?_partner h "" false
  rw [peerIpSteps_eq, hlive]
  refine (NodeWork.outcome_sendAll (by simp) (apply_undeployCluster h)).trans ?_
  split
  · exact NodeWork.outcome_sendAll (by simp) (apply_configurePeerIp hundeployed)
  · refine (NodeWork.outcome_sendAll (by simp) (apply_unconfigurePeerIp hundeployed rfl)).trans ?_
    exact (NodeWork.outcome_sendAll (by simp) (apply_configurePeerIp hcleared)).trans rfl

/-! ### Port-channels -/

theorem outcome_addMembers {p : PortChannel} (h : cfg.portChannels[x.peerInterface.name]? = some p) :
    (NodeWork.sendAll x.host (addMemberSteps x)).outcome cfg =
      (.ok ⟨⟩, { cfg with
        portChannels := cfg.portChannels.insert x.peerInterface.name
          { p with members := p.members.insertMany x.connectingPorts } }) := by
  let sends : List (String × Operation) := x.connectingPorts.map fun port =>
    ("MCT Cluster peer interface add member", .addMember port x.peerInterface.name x.peerInterface.speed)
  have hsteps : addMemberSteps x = NodeWork.sends sends := by
    simp [addMemberSteps, sends, Function.comp_def]
  have hcarried : (carryOut (sends.map (·.2))).run.run cfg =
      (.ok ⟨⟩, { cfg with
        portChannels := cfg.portChannels.insert x.peerInterface.name
          { p with members := p.members.insertMany x.connectingPorts } }) := by
    have hmembers := run_members x.peerInterface.name x.peerInterface.speed x.connectingPorts [] h
    rw [List.append_nil] at hmembers
    rw [List.map_map]
    exact hmembers
  have hops : ∀ y ∈ sends, y.2 ≠ .getClusterStatus := by simp [sends]
  obtain ⟨hleft, hok⟩ := NodeWork.outcome_sends hops x.host cfg
  rw [hcarried] at hleft hok
  rw [hsteps]
  exact Prod.ext (hok rfl) hleft

/-- Without the port-channel to the partner, no port-channel changes. -/
theorem outcome_addMembers_of_absent (h : cfg.portChannels[x.peerInterface.name]? = none) :
    ((NodeWork.sendAll x.host (addMemberSteps x)).outcome cfg).2 = cfg := by
  unfold addMemberSteps
  cases x.connectingPorts with
  | nil => rfl
  | cons port rest =>
    obtain ⟨f, hf⟩ := NodeWork.outcome_sendAll_of_error (by simp) (apply_addMember_of_absent h)
    exact congrArg Prod.snd hf

variable (c x) in
/-- The end of an update, which is about port-channels. -/
private def channelWork : NodeWork Unit := do
  if c.updates.contains .memberAdd then NodeWork.sendAll x.host (addMemberSteps x)
  if c.updates.contains .memberDelete then NodeWork.sendAll x.host (deleteMemberSteps x)
  if c.updates.contains .speed then NodeWork.sendAll x.host (speedSteps x)

private theorem outcome_channelWork_of_absent (hdelete : c.updates.contains .memberDelete = false)
    (h : cfg.portChannels[x.peerInterface.name]? = none) : ((c.channelWork x).outcome cfg).2 = cfg := by
  unfold channelWork
  refine NodeWork.outcome_guarded_keeps (fun _ => outcome_addMembers_of_absent h) ?_
  refine NodeWork.outcome_guarded_keeps (fun hset => absurd (hset.symm.trans hdelete) nofun) ?_
  split
  · obtain ⟨f, hf⟩ := NodeWork.outcome_sendAll_of_error (by simp) (apply_configureSpeed_of_absent h)
    exact congrArg Prod.snd hf
  · rfl

private theorem outcome_channelWork (hdelete : c.updates.contains .memberDelete = false) (cfg : Configuration) :
    ((c.channelWork x).outcome cfg).2 = { cfg with portChannels := c.rechanneled x cfg.portChannels } := by
  unfold rechanneled
  rcases hchannel : cfg.portChannels[x.peerInterface.name]? with _ | p
  · exact outcome_channelWork_of_absent hdelete hchannel
  · let grown : PortChannel :=
      { p with members := if c.updates.contains .memberAdd then p.members.insertMany x.connectingPorts else p.members }
    let cfg' : Configuration := { cfg with portChannels := cfg.portChannels.insert x.peerInterface.name grown }
    have hgrown : cfg'.portChannels[x.peerInterface.name]? = some grown := ExtTreeMap.getElem?_insert_self
    have hadd : c.updates.contains .memberAdd = true →
        (NodeWork.sendAll x.host (addMemberSteps x)).outcome cfg = (.ok ⟨⟩, cfg') := by
      intro hset
      rw [outcome_addMembers hchannel]
      simp only [cfg', grown, hset, if_true]
    have hkept : c.updates.contains .memberAdd = false → cfg' = cfg := by
      intro hunset
      simp only [cfg', grown, hunset, Bool.false_eq_true, if_false, insert_of_getElem? hchannel]
    unfold channelWork
    refine (congrArg Prod.snd (NodeWork.outcome_guarded hadd hkept)).trans ?_
    refine (congrArg Prod.snd (NodeWork.outcome_guarded (fun hset => absurd (hset.symm.trans hdelete) nofun)
      fun _ => rfl)).trans ?_
    split
    · rename_i hspeed
      refine (congrArg Prod.snd (NodeWork.outcome_sendAll (by simp) (apply_configureSpeed hgrown))).trans ?_
      simp only [NodeWork.outcome, cfg', grown, insert_insert, rebundled, hspeed, if_true]
      rfl
    · rename_i hspeed
      simp only [NodeWork.outcome_pure, cfg', grown, rebundled, hspeed, if_false, Bool.false_eq_true]

/-! ### Whole updates -/

private theorem outcome_update (hdelete : c.updates.contains .memberDelete = false) (cfg : Configuration) :
    ((c.update x).outcome cfg).2 = c.updated x cfg := by
  have hve : c.updates.contains .remotePeerIp = true →
      (c.updateVe x cfg.cluster).outcome cfg = (.ok ⟨⟩, c.moved x cfg) := by
    intro hset
    rw [outcome_updateVe, moved, if_pos hset]
  have hkept : c.updates.contains .remotePeerIp = false → c.moved x cfg = cfg := by
    intro hunset
    rw [moved, hunset]
    rfl
  have hcluster : (c.moved x cfg).cluster = cfg.cluster := by
    unfold moved
    split <;> rfl
  have hchannels : (c.moved x cfg).portChannels = cfg.portChannels := by
    unfold moved
    split <;> rfl
  have htarget : c.target? (c.moved x cfg) = c.target? cfg := by
    unfold target? Configuration.clusterNamed?
    rw [hcluster]
  unfold update
  refine (congrArg Prod.snd (NodeWork.outcome_bind_of_ok (NodeWork.outcome_ask (by simp) rfl rfl))).trans ?_
  refine (congrArg Prod.snd (NodeWork.outcome_guarded hve hkept)).trans ?_
  rw [← hcluster]
  by_cases hpeer : c.updates.contains .peerIp = true
  · rcases hobject : c.target? cfg with _ | object
    · have hupdated : c.updated x cfg = c.moved x cfg := by
        unfold updated
        rw [if_pos hpeer, hobject]
      obtain ⟨f, hf⟩ := outcome_peerIp_of_absent (x := x) (htarget.trans hobject)
      rw [hupdated]
      exact congrArg Prod.snd (NodeWork.outcome_guarded_of_error hpeer hf)
    · have hupdated : c.updated x cfg = { c.moved x cfg with
          cluster := some { object with peerIp := x.peerIp }
          deployed := true
          portChannels := c.rechanneled x cfg.portChannels } := by
        unfold updated
        rw [if_pos hpeer, hobject]
      have hpartner := outcome_peerIp (x := x) (htarget.trans hobject)
      rw [hupdated, ← hchannels]
      refine (congrArg Prod.snd (NodeWork.outcome_guarded (fun _ => hpartner)
        fun hunset => absurd (hpeer.symm.trans hunset) nofun)).trans ?_
      exact outcome_channelWork hdelete _
  · have hupdated : c.updated x cfg =
        { c.moved x cfg with portChannels := c.rechanneled x cfg.portChannels } := by
      unfold updated
      rw [if_neg hpeer]
    have hskip : c.updates.contains .peerIp = true → (NodeWork.sendAll x.host
        (c.peerIpSteps x (c.moved x cfg).cluster)).outcome (c.moved x cfg) = (.ok ⟨⟩, c.moved x cfg) :=
      fun hset => absurd hset hpeer
    rw [hupdated, ← hchannels]
    refine (congrArg Prod.snd (NodeWork.outcome_guarded hskip fun _ => rfl)).trans ?_
    exact outcome_channelWork hdelete _

end outcome

/-- Without faults, an update that takes out no ports leaves what is known; one that names no attribute does
nothing. -/
theorem after_updateOn (hdelete : c.updates.contains .memberDelete = false) (cfg : Configuration) :
    Configuration.after (c.updateOn x) cfg = if c.updates.hasUpdate then c.updated x cfg else cfg := by
  unfold updateOn
  dsimp only
  split
  · rw [Configuration.after_session, Configuration.after_failures]
    exact outcome_update hdelete cfg
  · rfl

end ClusterSpec

end FabricProvision

import FabricProvision.Proofs.Device.Parts
import FabricProvision.Proofs.Dialogue.Within
import FabricProvision.Provision.Fabric

/-!
# Alphabets

Which operations the work on a switch or on a cluster can send at all, and to which hosts, whatever the switches
answer.  The work on a switch sends operations about the switch's own parts to the switch itself, and operations
about data-plane neighbors to the nodes of its data-plane clusters.  The work on management clusters sends
nothing but operations about clusters, and so on for the later stages.
-/

namespace FabricProvision

open Dialogue

/-- The stages of provisioning. -/
inductive Stage where
  | system
  | interfaces
  | bgp
  | dataPlane
  | evpn
  | clusters
  | overlayGateways
  | saving
deriving DecidableEq

/-- The stage that is about a part. -/
def Part.stage : Part → Stage
  | l2Mtu | ipMtu | anycastGateway => .system
  | interface _ => .interfaces
  | routeMap | localAsn | neighbors | routerId => .bgp
  | dataPlane => .dataPlane
  | macAndArp | evpnInstance => .evpn
  | cluster => .clusters
  | overlayGateway => .overlayGateways
  | saved => .saving

/-- Operations about certain parts of one host. -/
def Scope.on (host : String) (parts : Part → Prop) : Scope :=
  ⟨fun other => other = host, fun other op => other = host ∧ parts op.part⟩

/-- Operations about certain parts of all hosts. -/
def Scope.everywhere (parts : Part → Prop) : Scope := ⟨fun _ => True, fun _ op => parts op.part⟩

theorem Scope.on_sub_everywhere {host : String} {parts parts' : Part → Prop} (h : ∀ p, parts p → parts' p) :
    (Scope.on host parts).Sub (Scope.everywhere parts') :=
  ⟨fun _ _ => trivial, fun _ _ hop => h _ hop.2⟩

theorem Scope.on_mono {host : String} {parts parts' : Part → Prop} (h : ∀ p, parts p → parts' p) :
    (Scope.on host parts).Sub (Scope.on host parts') := ⟨fun _ hl => hl, fun _ _ hop => ⟨hop.1, h _ hop.2⟩⟩

/-! ### Unique objects -/

private theorem part_deletion (object : UniqueObject) (other : String) :
    (object.deletion other).part = object.lookup.part := by
  cases object <;> rfl

/-- Without force, the object is never deleted. -/
theorem stays_ensure_within {scope : Scope} {host : String} {object : UniqueObject} {desired : String}
    {create : Operation} {force : Bool} (hlookup : scope.operations host object.lookup)
    (hcreate : scope.operations host create)
    (hdeletion : force = true → ∀ other, scope.operations host (object.deletion other)) :
    (object.ensure host desired create force).Stays scope := by
  have hperform : (perform host create).Stays scope := within_perform hcreate
  refine Within.bind (Q := fun _ => True) (within_query hlookup) fun existing _ => ?_
  split
  · exact hperform
  · rename_i other _
    split
    · rename_i hforce
      exact Within.bind (Q := fun _ => True) (within_attempt (hdeletion hforce other)) fun _ _ => hperform
    · exact within_pure trivial

theorem stays_ensure {host : String} {object : UniqueObject} {desired : String} {create : Operation}
    {force : Bool} {parts : Part → Prop} (hobject : parts object.lookup.part) (hcreate : parts create.part) :
    (object.ensure host desired create force).Stays (Scope.on host parts) := by
  refine stays_ensure_within ⟨rfl, hobject⟩ ⟨rfl, hcreate⟩ fun _ other => ⟨rfl, ?_⟩
  rwa [part_deletion]

/-! ### Interfaces -/

/-- The name under which a switch records an interface. -/
def InterfaceSpec.key (i : InterfaceSpec) : String := Configuration.interfaceName i.kind.text i.name

private theorem stays_clearOther {scope : Scope} {host : String} {i : InterfaceSpec}
    (h : ∀ op : Operation, op.part = .interface i.key → scope.operations host op) :
    (i.clearOther host).Stays scope := by
  refine (within_query (h _ rfl)).bind fun current _ => ?_
  split
  · exact within_attempt (h _ rfl)
  · split
    · exact (within_attempt (h _ rfl)).bind fun _ _ => within_attempt (h _ rfl)
    · exact within_pure trivial

theorem stays_provision (host : String) (i : InterfaceSpec) :
    (i.provision host).Stays (Scope.on host (· = .interface i.key)) := by
  have hop : ∀ op : Operation, op.part = .interface i.key →
      (Scope.on host (· = .interface i.key)).operations host op := fun op h => ⟨rfl, h⟩
  unfold InterfaceSpec.provision
  split
  · rename_i hkind
    have hkey : i.key = Configuration.interfaceName "loopback" i.name := by
      unfold InterfaceSpec.key
      rw [hkind]
      rfl
    unfold InterfaceSpec.provisionLoopback
    split
    · exact within_perform (hop _ (by rw [hkey]; rfl))
    · exact within_perform (hop _ (by rw [hkey]; rfl))
    · exact within_perform (hop _ (by rw [hkey]; rfl))
    · exact within_pure trivial
  · split
    · unfold InterfaceSpec.provisionUnnumbered
      split
      · exact within_perform (hop _ rfl)
      · exact (within_attempt (hop _ rfl)).bind fun _ _ => within_perform (hop _ rfl)
      · exact (within_attempt (hop _ rfl)).bind fun _ _ => within_pure trivial
      · exact within_pure trivial
    · unfold InterfaceSpec.provisionNumbered
      split
      · exact within_perform (hop _ rfl)
      · exact (stays_clearOther hop).bind fun _ _ => within_perform (hop _ rfl)
      · exact within_perform (hop _ rfl)
      · exact within_pure trivial

/-! ### Data-plane clusters -/

namespace DataPlaneNode

theorem stays_add (n : DataPlaneNode) : n.add.Stays (Scope.on n.host (· = .dataPlane)) := by
  refine stays_session rfl (stays_step ?_)
  exact Within.bind (Q := fun _ => True) (within_query ⟨rfl, rfl⟩) fun _ _ => within_perform ⟨rfl, rfl⟩

theorem stays_remove (n : DataPlaneNode) : n.remove.Stays (Scope.on n.host (· = .dataPlane)) := by
  refine stays_session rfl (stays_step ?_)
  refine Within.bind (Q := fun _ => True) (within_query ⟨rfl, rfl⟩) fun answer _ => ?_
  split
  · exact within_pure trivial
  · split
    · exact within_perform ⟨rfl, rfl⟩
    · exact within_pure trivial

end DataPlaneNode

/-! ### Switches -/

namespace SwitchSpec

variable (t : Topology) (force : Bool) (s : SwitchSpec)

theorem stays_provisionSystem_of {scope : Scope} (hl2Mtu : scope.operations s.host (.configureL2Mtu s.mtu))
    (hipMtu : scope.operations s.host (.configureIpMtu s.ipMtu))
    (hensure : (UniqueObject.ensure s.host .anycastGateway s.overlay.anycastMac
      (.configureAnycastGateway s.overlay.anycastMac s.overlay.ipv6AnycastMac) force).Stays scope) :
    (s.provisionSystem t force).Stays scope := by
  refine stays_collect fun work hwork => ?_
  rcases List.mem_append.1 hwork with hwork | hwork
  · simp only [List.mem_cons, List.not_mem_nil, or_false] at hwork
    rcases hwork with rfl | rfl
    · exact stays_performStep hl2Mtu
    · exact stays_performStep hipMtu
  · split at hwork
    · cases List.mem_singleton.1 hwork
      exact stays_step hensure
    · cases hwork

theorem stays_provisionSystem : (s.provisionSystem t force).Stays (Scope.on s.host (·.stage = .system)) :=
  s.stays_provisionSystem_of t force ⟨rfl, rfl⟩ ⟨rfl, rfl⟩ (stays_ensure rfl rfl)

theorem stays_provisionInterfaces : s.provisionInterfaces.Stays (Scope.on s.host (·.stage = .interfaces)) := by
  refine stays_fanOut fun i _ => stays_step ?_
  exact (stays_provision s.host i).widen (Scope.on_mono fun p hp => by rw [hp]; rfl)

theorem stage_of_bgpSteps {operation : String} {op : Operation} (hop : (operation, op) ∈ s.bgpSteps t) :
    op.part.stage = .bgp := by
  simp only [bgpSteps, List.mem_append, List.mem_map, List.mem_singleton, Prod.mk.injEq] at hop
  rcases hop with (((hop | ⟨-, rfl⟩) | ⟨n, -, -, rfl⟩) | ⟨n, -, -, rfl⟩) | ⟨-, rfl⟩
  · split at hop
    · simp only [List.mem_singleton, Prod.mk.injEq] at hop
      obtain ⟨-, rfl⟩ := hop
      rfl
    · cases hop
  · cases t <;> rfl
  · rfl
  · unfold neighborOperation
    split <;> rfl
  · rfl

theorem stays_provisionBgp : (s.provisionBgp t).Stays (Scope.on s.host (·.stage = .bgp)) :=
  stays_fanOut fun (_, _) hop => stays_performStep ⟨rfl, s.stage_of_bgpSteps t hop⟩

theorem stays_provisionEvpn_of {scope : Scope} (htimers : scope.operations s.host (.configureMacAndArp s.evpn))
    (hensure : (UniqueObject.ensure s.host .evpnInstance s.fabric
      (.createEvpnInstance s.fabric s.evpn.duplicateMacTimer s.evpn.duplicateMacMaxCount) force).Stays scope)
    (hclear : scope.operations s.host .clearEvpnNeighbors) : (s.provisionEvpn force).Stays scope := by
  refine Within.bind (Q := fun _ => True) (stays_performStep htimers) fun early _ => ?_
  refine Within.bind (Q := fun _ => True) (stays_step hensure) fun failed _ => ?_
  split
  · exact Within.bind (Q := fun _ => True) (stays_performStep hclear) fun _ _ => within_pure trivial
  · exact within_pure trivial

theorem stays_provisionEvpn : (s.provisionEvpn force).Stays (Scope.on s.host (·.stage = .evpn)) :=
  s.stays_provisionEvpn_of force ⟨rfl, rfl⟩ (stays_ensure rfl rfl) ⟨rfl, rfl⟩

theorem stays_removeStale : s.staleDataPlane.remove.Stays (Scope.everywhere (·.stage = .dataPlane)) :=
  stays_fanOut fun n _ => n.stays_remove.widen (Scope.on_sub_everywhere fun _ h => by rw [h]; rfl)

theorem stays_addDataPlane : s.dataPlane.add.Stays (Scope.everywhere (·.stage = .dataPlane)) :=
  stays_fanOut fun n _ => n.stays_add.widen (Scope.on_sub_everywhere fun _ h => by rw [h]; rfl)

/-- The stages in which a switch is only sent what belongs to itself. -/
def OwnStage (stage : Stage) : Prop := stage = .system ∨ stage = .interfaces ∨ stage = .bgp ∨ stage = .evpn

/-- The scope of the work on a switch. -/
def scope : Scope :=
  ⟨fun _ => True, fun host op => op.part.stage = .dataPlane ∨ host = s.host ∧ OwnStage op.part.stage⟩

/-- The work on a switch stays in a scope that each of its stages stays in. -/
theorem stays_configure_of {scope : Scope} (hlogin : scope.logins s.host)
    (hsystem : (s.provisionSystem t force).Stays scope) (hinterfaces : s.provisionInterfaces.Stays scope)
    (hbgp : (s.provisionBgp t).Stays scope) (hstale : s.staleDataPlane.remove.Stays scope)
    (hevpn : (s.provisionEvpn force).Stays scope) (hadd : s.dataPlane.add.Stays scope) :
    (s.configure t force).Stays scope := by
  refine stays_session hlogin (stays_collect fun work hwork => ?_)
  simp only [List.mem_append, List.mem_cons, List.not_mem_nil, or_false] at hwork
  rcases hwork with ((rfl | rfl | rfl | rfl) | hwork) | rfl
  · exact hsystem
  · exact hinterfaces
  · exact hbgp
  · exact hstale
  · split at hwork
    · cases List.mem_singleton.1 hwork
      exact hevpn
    · cases hwork
  · exact hadd

theorem stays_configure : (s.configure t force).Stays s.scope := by
  have hown : ∀ stage, OwnStage stage → (Scope.on s.host (·.stage = stage)).Sub s.scope := by
    intro stage hstage
    refine ⟨fun _ _ => trivial, fun _ op hop => .inr ⟨hop.1, ?_⟩⟩
    rw [show op.part.stage = stage from hop.2]
    exact hstage
  have hdataPlane : (Scope.everywhere (·.stage = .dataPlane)).Sub s.scope :=
    ⟨fun _ _ => trivial, fun _ _ hop => .inl hop⟩
  exact s.stays_configure_of t force trivial
    ((s.stays_provisionSystem t force).widen (hown _ (by simp [OwnStage])))
    (s.stays_provisionInterfaces.widen (hown _ (by simp [OwnStage])))
    ((s.stays_provisionBgp t).widen (hown _ (by simp [OwnStage]))) (s.stays_removeStale.widen hdataPlane)
    ((s.stays_provisionEvpn force).widen (hown _ (by simp [OwnStage]))) (s.stays_addDataPlane.widen hdataPlane)

theorem within_configureOverlayGateway : (s.configureOverlayGateway force).Within
    (Scope.on s.host (· = .overlayGateway)) fun failures =>
      ∀ f ∈ failures, f.operation = "Configure Overlay Gateway" ∧ f.host = s.host :=
  within_session rfl (within_step (stays_ensure rfl rfl) fun _ => ⟨rfl, rfl⟩) fun _ => ⟨rfl, rfl⟩

theorem within_persist : s.persist.Within (Scope.on s.host (· = .saved)) fun failures =>
    ∀ f ∈ failures, f.operation = "Persist Config" ∧ f.host = s.host :=
  within_session rfl (within_performStep ⟨rfl, rfl⟩ fun _ => ⟨rfl, rfl⟩) fun _ => ⟨rfl, rfl⟩

end SwitchSpec

/-! ### Work on the nodes of clusters -/

/-- The failure of a step on a host to which a session was opened. -/
structure Failure.InSession (host : String) (f : Failure) : Prop where
  host : f.host = host
  notLogin : ∀ e, f.cause ≠ .login e

namespace NodeWork

variable {α β : Type} {scope : Scope} {host : String}

/-- Whatever is answered, the work stays within the scope, and its failure is that of a step on the host. -/
def FailsWithin (scope : Scope) (host : String) (work : NodeWork α) : Prop :=
  work.run.Within scope fun answer => ∀ f, answer = .error f → f.InSession host

private theorem failsWithin_bind {x : NodeWork α} {f : α → NodeWork β} (hx : x.FailsWithin scope host)
    (hf : ∀ a, (f a).FailsWithin scope host) : (x >>= f).FailsWithin scope host := by
  refine Within.bind hx fun answer hanswer => ?_
  cases answer with
  | ok a => exact hf a
  | error e =>
    refine within_pure fun f hf => ?_
    cases hf
    exact hanswer e rfl

private theorem failsWithin_guarded {b : Bool} {work : NodeWork Unit} {rest : Unit → NodeWork Unit}
    (hwork : work.FailsWithin scope host) (hrest : (rest ⟨⟩).FailsWithin scope host) :
    (if b then work >>= rest else rest ⟨⟩ : NodeWork Unit).FailsWithin scope host := by
  cases b with
  | true => exact failsWithin_bind hwork fun _ => hrest
  | false => exact hrest

private theorem failsWithin_send {operation : String} {op : Operation} (h : scope.operations host op) :
    (send host operation op).FailsWithin scope host := by
  refine Within.bind (Q := fun answer => ∀ e, answer ≠ .error (.login e)) ?_ fun answer hanswer => ?_
  · refine (within_send h).bind fun answer _ => ?_
    cases answer <;> exact within_pure (by simp)
  · cases answer with
    | ok u => exact within_pure fun _ hf => by cases hf
    | error cause =>
      refine within_pure fun f hf => ?_
      cases hf
      exact ⟨rfl, fun e he => hanswer e (by rw [← he])⟩

private theorem failsWithin_ask {operation : String} {op : Operation}
    {read : Response → String → Except DeviceError α} (h : scope.operations host op) :
    (ask host operation op read).FailsWithin scope host := by
  refine (within_query h).bind fun answer _ => ?_
  cases answer with
  | ok a => exact within_pure fun _ hf => by cases hf
  | error e =>
    refine within_pure fun f hf => ?_
    cases hf
    exact ⟨rfl, by simp⟩

theorem failsWithin_sendAll {steps : List ClusterStep}
    (h : ∀ operation op, ClusterStep.send operation op ∈ steps → scope.operations host op) :
    (sendAll host steps).FailsWithin scope host := by
  induction steps with
  | nil => exact within_pure (by simp)
  | cons step rest ih =>
    cases step with
    | send operation op =>
      exact failsWithin_bind (failsWithin_send (h operation op (by simp))) fun _ =>
        ih fun operation op hmem => h operation op (by simp [hmem])
    | refuse operation reason =>
      refine within_pure fun f hf => ?_
      cases hf
      exact ⟨rfl, by simp⟩

theorem within_failures {work : NodeWork Unit} (h : work.FailsWithin scope host) :
    work.failures.Within scope fun failures => ∀ f ∈ failures, f.InSession host := by
  refine Within.bind h fun answer hanswer => ?_
  cases answer with
  | ok u => exact within_pure (by simp)
  | error f => exact within_pure (by simpa using hanswer f rfl)

theorem stays_failures {work : NodeWork Unit} (h : work.FailsWithin scope host) : work.failures.Stays scope :=
  (within_failures h).stays

end NodeWork

/-- Whether an operation takes away a cluster, its control VLAN, its control VE or its port-channel. -/
def Operation.clears : Operation → Bool
  | deleteCluster .. | deleteControlVe .. | deleteControlVlan _ | deleteVe _ | deletePortChannel _ => true
  | _ => false

theorem Operation.part_of_clears {op : Operation} (h : op.clears = true) : op.part = .cluster := by
  cases op <;> cases h <;> rfl

namespace ClusterSpec

variable (c : ClusterSpec) (n : ClusterNode)

/-- The scope of the work on clusters. -/
def clusterScope : Scope := Scope.everywhere (· = .cluster)

/-- The scope of the work on clusters that are on certain hosts; only if `clearing`, something is taken away. -/
def workScope (hosts : String → Prop) (clearing : Prop) : Scope :=
  ⟨hosts, fun host op => hosts host ∧ op.part = .cluster ∧ (op.clears = true → clearing)⟩

/-- The scope of the work on one node that takes nothing away and does not ask for the members. -/
def nodeScope (n : ClusterNode) : Scope :=
  ⟨(· = n.host), fun host op => host = n.host ∧ op.part = .cluster ∧ op.clears = false ∧ op ≠ .getClusterStatus⟩

private theorem nodeScope_sub {hosts : String → Prop} {clearing : Prop} {n : ClusterNode} (hn : hosts n.host) :
    (nodeScope n).Sub (workScope hosts clearing) := by
  refine ⟨?_, ?_⟩
  · rintro _ rfl
    exact hn
  · rintro _ op ⟨rfl, hpart, hkeeps, -⟩
    exact ⟨hn, hpart, fun hclears => by rw [hkeeps] at hclears; cases hclears⟩

/-! ### Operations that take nothing away -/

section keeping

variable {c n}

private theorem keeping_createSteps {operation : String} {op : Operation}
    (h : ClusterStep.send operation op ∈ c.createSteps n) : (nodeScope n).operations n.host op := by
  have hpeer : ClusterStep.send operation op ∈ c.peerInterfaceSteps n → (nodeScope n).operations n.host op := by
    unfold peerInterfaceSteps
    split
    · simp only [List.mem_cons, List.mem_map, ClusterStep.send.injEq]
      rintro (⟨-, rfl⟩ | ⟨port, -, -, rfl⟩) <;> exact ⟨rfl, rfl, rfl, nofun⟩
    · simp
  unfold createSteps at h
  simp only [List.mem_append, List.mem_cons, List.not_mem_nil, or_false, ClusterStep.send.injEq] at h
  rcases h with ((⟨-, rfl⟩ | ⟨-, rfl⟩) | h) | h
  · exact ⟨rfl, rfl, rfl, nofun⟩
  · exact ⟨rfl, rfl, rfl, nofun⟩
  · exact hpeer h
  · rcases h with ⟨-, rfl⟩ | ⟨-, rfl⟩ | ⟨-, rfl⟩ | ⟨-, rfl⟩ <;> exact ⟨rfl, rfl, rfl, nofun⟩

/-- Nothing is taken away to create a cluster. -/
theorem createSteps_keep {operation : String} {op : Operation}
    (h : ClusterStep.send operation op ∈ c.createSteps n) : op.part = .cluster ∧ op.clears = false := by
  obtain ⟨-, hpart, hclears, -⟩ := keeping_createSteps h
  exact ⟨hpart, hclears⟩

private theorem keeping_peerIpSteps {live : Option ClusterObject} {operation : String} {op : Operation}
    (h : ClusterStep.send operation op ∈ c.peerIpSteps n live) :
    (nodeScope n).operations n.host op := by
  unfold peerIpSteps at h
  simp only [List.mem_append, List.mem_singleton, ClusterStep.send.injEq] at h
  rcases h with (⟨-, rfl⟩ | h) | ⟨-, rfl⟩
  · exact ⟨rfl, rfl, rfl, nofun⟩
  · split at h
    · cases h
    · simp only [List.mem_singleton, ClusterStep.send.injEq] at h
      obtain ⟨-, rfl⟩ := h
      exact ⟨rfl, rfl, rfl, nofun⟩
  · exact ⟨rfl, rfl, rfl, nofun⟩

private theorem keeping_memberSteps {operation : String} {op : Operation}
    (h : ClusterStep.send operation op ∈ addMemberSteps n ++ deleteMemberSteps n) :
    (nodeScope n).operations n.host op := by
  unfold addMemberSteps deleteMemberSteps at h
  simp only [List.mem_append, List.mem_map, ClusterStep.send.injEq] at h
  rcases h with ⟨port, -, -, rfl⟩ | ⟨port, -, -, rfl⟩ <;> exact ⟨rfl, rfl, rfl, nofun⟩

private theorem stays_create : (c.createOn n).Stays (nodeScope n) :=
  stays_session rfl (NodeWork.stays_failures (NodeWork.failsWithin_sendAll fun _ _ h => keeping_createSteps h))

private theorem failsWithin_updateVe (live : Option ClusterObject) :
    (c.updateVe n live).FailsWithin (nodeScope n) n.host := by
  refine NodeWork.failsWithin_bind (NodeWork.failsWithin_ask ⟨rfl, rfl, rfl, nofun⟩) fun bound => ?_
  refine NodeWork.failsWithin_bind (NodeWork.failsWithin_ask ⟨rfl, rfl, rfl, nofun⟩) fun answer => ?_
  have hset : ∀ ve ip, (NodeWork.send n.host "MCT Cluster Set VE IP" (.configureVeIp ve ip)).FailsWithin
      (nodeScope n) n.host := fun _ _ => NodeWork.failsWithin_send ⟨rfl, rfl, rfl, nofun⟩
  split
  · exact NodeWork.failsWithin_bind (NodeWork.failsWithin_send ⟨rfl, rfl, rfl, nofun⟩) fun _ => hset _ _
  · exact hset _ _

variable (c n) in
theorem failsWithin_update : (c.update n).FailsWithin (nodeScope n) n.host := by
  unfold update
  refine NodeWork.failsWithin_bind (NodeWork.failsWithin_ask ⟨rfl, rfl, rfl, nofun⟩) fun live => ?_
  dsimp only
  refine NodeWork.failsWithin_guarded (failsWithin_updateVe live) ?_
  refine NodeWork.failsWithin_guarded (NodeWork.failsWithin_sendAll fun _ _ h => keeping_peerIpSteps h) ?_
  refine NodeWork.failsWithin_guarded (NodeWork.failsWithin_sendAll fun _ _ h =>
    keeping_memberSteps (List.mem_append_left _ h)) ?_
  refine NodeWork.failsWithin_guarded (NodeWork.failsWithin_sendAll fun _ _ h =>
    keeping_memberSteps (List.mem_append_right _ h)) ?_
  split
  · refine NodeWork.failsWithin_sendAll fun _ _ h => ?_
    simp only [speedSteps, List.mem_singleton, ClusterStep.send.injEq] at h
    obtain ⟨-, rfl⟩ := h
    exact ⟨rfl, rfl, rfl, nofun⟩
  · exact within_pure (by simp)

variable (c n) in
theorem stays_updateOn : (c.updateOn n).Stays (nodeScope n) := by
  unfold updateOn
  dsimp only
  split
  · exact stays_session rfl (NodeWork.stays_failures (c.failsWithin_update n))
  · exact within_pure trivial

end keeping

/-! ### Operations that take away -/

theorem part_of_deleteSteps {operation : String} {op : Operation}
    (h : ClusterStep.send operation op ∈ c.deleteSteps n) : op.part = .cluster ∧ op ≠ .getClusterStatus := by
  unfold deleteSteps at h
  simp only [List.mem_append, List.mem_cons, List.not_mem_nil, or_false, ClusterStep.send.injEq, List.mem_map] at h
  rcases h with ((h | ⟨port, -, -, rfl⟩) | ⟨-, rfl⟩) | h
  · rcases h with ⟨-, rfl⟩ | ⟨-, rfl⟩ | ⟨-, rfl⟩ | ⟨-, rfl⟩ | ⟨-, rfl⟩ <;> exact ⟨rfl, by simp⟩
  · exact ⟨rfl, by simp⟩
  · exact ⟨rfl, by simp⟩
  · split at h
    · cases h
    · simp only [List.mem_singleton, ClusterStep.send.injEq] at h
      obtain ⟨-, rfl⟩ := h
      exact ⟨rfl, by simp⟩

section clearing

variable {hosts : String → Prop} {clearing : Prop} {c n} (hn : hosts n.host) (hclearing : clearing)

include hn hclearing

private theorem operations_of_clearing {op : Operation} (h : op.part = .cluster) :
    (workScope hosts clearing).operations n.host op := ⟨hn, h, fun _ => hclearing⟩

private theorem stays_delete : (c.deleteOn n).Stays (workScope hosts clearing) :=
  stays_session hn (NodeWork.stays_failures (NodeWork.failsWithin_sendAll fun _ _ h =>
    operations_of_clearing hn hclearing (c.part_of_deleteSteps n h).1))

end clearing

/-- The scope has all that is sent to clear a host: two questions, and what takes something away. -/
structure Clears (scope : Scope) (host : String) : Prop where
  login : scope.logins host
  getCluster : scope.operations host .getCluster
  getControlVlan : ∀ vlan, scope.operations host (.getControlVlan vlan)
  deletions : ∀ op, op.clears = true → scope.operations host op

section clears

variable {scope : Scope} {n} (hscope : Clears scope n.host)

include hscope

private theorem within_liveVlanDeletions (live : ClusterObject) :
    (liveVlanDeletions n live).Within scope fun ops => ∀ op ∈ ops, op.clears = true := by
  unfold liveVlanDeletions
  split
  · exact within_pure (by simp)
  · refine (within_query (hscope.getControlVlan _)).bind fun answer _ => ?_
    split <;> exact within_pure (by simp [Operation.clears])

theorem within_liveDeletions (live : ClusterObject) :
    (liveDeletions n live).Within scope fun ops => ∀ op ∈ ops, op.clears = true := by
  refine (within_liveVlanDeletions hscope live).bind fun ofVlan hofVlan => within_pure fun op hop => ?_
  simp only [List.mem_append] at hop
  rcases hop with (hop | hop) | hop
  · split at hop
    · cases hop
    · cases List.mem_singleton.1 hop
      rfl
  · exact hofVlan op hop
  · split at hop
    · cases hop
    · cases List.mem_singleton.1 hop
      rfl

private theorem stays_attempts {ops : List Operation} (hops : ∀ op ∈ ops, op.clears = true) :
    (ops.forM (attempt n.host)).Stays scope := by
  induction ops with
  | nil => exact within_pure trivial
  | cons op rest ih =>
    refine (within_attempt (hscope.deletions op (hops op (by simp)))).bind fun _ _ => ?_
    exact ih fun op hop => hops op (by simp [hop])

omit hscope in
theorem clears_desiredDeletions : ∀ op ∈ c.desiredDeletions n, op.clears = true := by
  intro op hop
  simp only [desiredDeletions, List.mem_cons, List.not_mem_nil, or_false] at hop
  rcases hop with rfl | rfl | rfl | rfl | rfl <;> rfl

private theorem stays_clear : (c.clear n).Stays scope := by
  refine (within_query hscope.getCluster).bind fun live _ => ?_
  have hrest : ∀ ofLive : List Operation, (∀ op ∈ ofLive, op.clears = true) →
      ((ofLive ++ c.desiredDeletions n).forM (attempt n.host)).Stays scope := by
    intro ofLive hofLive
    refine stays_attempts hscope fun op hop => ?_
    rcases List.mem_append.1 hop with hop | hop
    · exact hofLive op hop
    · exact c.clears_desiredDeletions op hop
  dsimp only
  split
  · exact (within_liveDeletions hscope _).bind hrest
  · exact hrest [] (by simp)

theorem stays_clearOn : (c.clearOn n).Stays scope := by
  -- A node that accepts no login is passed over.
  refine (within_connect hscope.login).bind fun answer _ => ?_
  cases answer with
  | ok _ => exact c.stays_clear hscope
  | error e => exact within_pure trivial

end clears

theorem stays_pollOn {scope : Scope} (hlogin : scope.logins n.host)
    (hstatus : scope.operations n.host .getClusterStatus) (polling : Polling) (intended : List String) :
    (pollOn polling intended n).Stays scope := by
  refine stays_session hlogin (stays_step ?_)
  induction polling.queries with
  | zero => exact within_pure trivial
  | succ queries ih =>
    refine (within_query hstatus).bind fun answer _ => ?_
    split
    · split
      · exact within_pure trivial
      · exact ih
    · exact ih

/-! ### Work on all nodes -/

section whole

variable {hosts : String → Prop} {clearing : Prop} {c} (hc : ∀ n ∈ c.nodes, hosts n.host)

include hc

private theorem stays_polls (polling : Polling) (intended : ClusterNode → List String) :
    (fanOut c.nodes fun n => pollOn polling (intended n) n).Stays (workScope hosts clearing) := by
  refine stays_fanOut fun n hn => ?_
  have hstatus : (workScope hosts clearing).operations n.host .getClusterStatus := ⟨hc n hn, rfl, nofun⟩
  exact stays_pollOn n (hc n hn) hstatus polling _

private theorem stays_clearAll (hclearing : clearing) : c.clearAll.Stays (workScope hosts clearing) := by
  unfold clearAll
  revert hc
  induction c.nodes with
  | nil => exact fun _ => within_pure trivial
  | cons n rest ih =>
    intro hc
    have hscope : Clears (workScope hosts clearing) n.host :=
      ⟨hc n (by simp), ⟨hc n (by simp), rfl, nofun⟩, fun _ => ⟨hc n (by simp), rfl, nofun⟩,
        fun _ hop => ⟨hc n (by simp), Operation.part_of_clears hop, fun _ => hclearing⟩⟩
    exact Within.bind (Q := fun _ => True) (c.stays_clearOn hscope) fun _ _ => ih fun m hm => hc m (by simp [hm])

omit hc in
/-- Creating a cluster stays in a scope that each of its phases stays in. -/
theorem stays_create_of {scope : Scope} {polling : Polling} {force : Bool}
    (hclear : force = true → (c.clearAndPoll polling).Stays scope)
    (hcreate : (fanOut c.nodes c.createOn).Stays scope) (hpolls : (c.pollMembers polling).Stays scope) :
    (c.create polling force).Stays scope := by
  have hrest : ∀ early : List Failure, (do
      let errors ← fanOut c.nodes c.createOn
      if errors.isEmpty then return early ++ (← c.pollMembers polling) else return early ++ errors :
        Dialogue (List Failure)).Stays scope := by
    intro early
    refine hcreate.bind fun errors _ => ?_
    split
    · exact hpolls.bind fun _ _ => within_pure trivial
    · exact within_pure trivial
  unfold create
  split
  · exact within_pure trivial
  · cases force with
    | true => exact (hclear rfl).bind fun early _ => hrest early
    | false => exact hrest []

private theorem stays_createAll (polling : Polling) (force : Bool) (hclearing : force = true → clearing) :
    (c.create polling force).Stays (workScope hosts clearing) :=
  stays_create_of
    (fun hforce => (stays_clearAll hc (hclearing hforce)).bind fun _ _ => stays_polls hc polling _)
    (stays_fanOut fun n hn => stays_create.widen (nodeScope_sub (hc n hn))) (stays_polls hc polling fun _ => c.hosts)

/-- Whatever is to happen to a cluster, only its nodes are sent operations.  Without force something is only taken
away to delete the cluster. -/
theorem stays_reconcile_nodes (polling : Polling) (action : ClusterAction) (force : Bool)
    (hclearing : action = .delete ∨ action = .create ∧ force = true → clearing) :
    (c.reconcile polling action force).Stays (workScope hosts clearing) := by
  cases action with
  | create => exact stays_createAll hc polling force fun hforce => hclearing (.inr ⟨rfl, hforce⟩)
  | update =>
    refine stays_collect fun work hwork => ?_
    simp only [List.mem_cons, List.not_mem_nil, or_false] at hwork
    rcases hwork with rfl | rfl
    · exact stays_fanOut fun n hn => (c.stays_updateOn n).widen (nodeScope_sub (hc n hn))
    · exact stays_polls hc polling fun _ => c.hosts
  | delete => exact stays_fanOut fun n hn => stays_delete (hc n hn) (hclearing (.inl rfl))

end whole

theorem stays_reconcile (polling : Polling) (action : ClusterAction) (force : Bool) :
    (c.reconcile polling action force).Stays clusterScope := by
  have hnodes : (c.reconcile polling action force).Stays (workScope (fun _ => True) True) :=
    stays_reconcile_nodes (fun _ _ => trivial) polling action force fun _ => trivial
  exact hnodes.widen ⟨fun _ _ => trivial, fun _ _ hop => hop.2.1⟩

end ClusterSpec

namespace FabricRequest

variable (polling : Polling) (force : Bool) (r : FabricRequest)

/-- The work on clusters stays in a scope that the work on each of them stays in. -/
theorem stays_reconcileClusters_of {batches : ClusterBatches} {scope : Scope}
    (hdelete : ∀ c ∈ batches.delete, (c.reconcile polling .delete force).Stays scope)
    (hupdate : ∀ c ∈ batches.update, (c.reconcile polling .update force).Stays scope)
    (hcreate : ∀ c ∈ batches.create, (createCluster polling force c).Stays scope) :
    (reconcileClusters polling force batches).Stays scope :=
  stays_stop (stays_fanOut hdelete) (stays_stop (stays_fanOut hupdate) (stays_fanOut hcreate))

theorem stays_reconcileClusters (batches : ClusterBatches) :
    (reconcileClusters polling force batches).Stays ClusterSpec.clusterScope :=
  stays_reconcileClusters_of polling force (fun c _ => c.stays_reconcile polling .delete force)
    (fun c _ => c.stays_reconcile polling .update force) fun c _ => c.stays_reconcile polling .create _

/-- The scope of the questions for principals. -/
def statusScope : Scope := ⟨fun _ => True, fun _ op => op = .getClusterStatus⟩

theorem stays_inquire_of {scope : Scope} {host : String} (hlogin : scope.logins host)
    (hstatus : scope.operations host .getClusterStatus) (credentials : Credentials) :
    (ClusterStatus.inquire host credentials).Stays scope := by
  refine (within_connect hlogin).bind fun answer _ => ?_
  cases answer with
  | ok _ => exact (within_query hstatus).bind fun _ _ => within_pure trivial
  | error e => exact within_pure trivial

theorem stays_inquire (host : String) (credentials : Credentials) :
    (ClusterStatus.inquire host credentials).Stays statusScope := stays_inquire_of trivial rfl credentials

/-- The questions for principals go to nodes of the clusters. -/
theorem stays_findPrincipals_of {scope : Scope} (known : Principals) {clusters : List ClusterSpec}
    (h : ∀ c ∈ clusters, ∀ x ∈ c.nodes, scope.logins x.host ∧ scope.operations x.host .getClusterStatus) :
    (findPrincipals known clusters).Stays scope := by
  -- A cluster that answers adds to what is known.
  induction clusters generalizing known with
  | nil => exact within_pure trivial
  | cons c rest ih =>
    have ih := fun known => ih known fun d hd => h d (by simp [hd])
    unfold findPrincipals
    split
    · exact ih known
    · rename_i first hfirst
      split
      · exact ih known
      · obtain ⟨hlogin, hstatus⟩ := h c (by simp) first (List.mem_of_mem_head? hfirst)
        refine (stays_inquire_of hlogin hstatus _).bind fun answer _ => ?_
        split
        · exact ih _
        · exact ih known

theorem stays_findPrincipals (known : Principals) (clusters : List ClusterSpec) :
    (findPrincipals known clusters).Stays statusScope :=
  stays_findPrincipals_of known fun _ _ _ _ => ⟨trivial, rfl⟩

end FabricRequest

end FabricProvision

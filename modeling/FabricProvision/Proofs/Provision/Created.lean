import FabricProvision.Proofs.Device.Has
import FabricProvision.Proofs.Provision.Alphabets

/-!
# Creating a management cluster on a node

The steps that create a cluster on a node either end with a failure or leave a configuration that is known
(`ClusterSpec.established`).  Creating a cluster on a node overwrites what creating it there before did:
`established_established` and, with another node that has the same address in between,
`established_again`.  So a device on which a cluster was created keeps its configuration when the cluster is
created there once more (`ClusterSpec.Settled`), although it is without its control VLAN for a while.
-/

namespace FabricProvision

open Std (ExtTreeMap ExtTreeSet)
open Dialogue Device Operation Step

namespace ClusterSpec

variable (c : ClusterSpec)

/-! ### What creation leaves -/

/-- A port-channel with the speed and the ports of a node. -/
def bundled (x : ClusterNode) (p : PortChannel) : PortChannel :=
  ⟨x.peerInterface.speed, p.members.insertMany x.connectingPorts⟩

/-- The cluster object of a node. -/
def object (x : ClusterNode) : ClusterObject :=
  ⟨c.name, c.id, some c.controlVlan, portChannelKind, x.peerInterface.name, x.peerIp⟩

/-- The configuration once the cluster is created on a node. -/
def established (x : ClusterNode) (cfg : Configuration) : Configuration :=
  { cfg with
    nodeId := some x.nodeId
    controlVlans := cfg.controlVlans.insert c.controlVlan (some c.controlVe)
    ves := cfg.ves.insert c.controlVe (some x.remotePeerIp)
    portChannels := cfg.portChannels.insert x.peerInterface.name
      (bundled x (cfg.portChannels.getD x.peerInterface.name {}))
    routes := cfg.routes.insert ⟨routeDestination x, x.peerIp⟩
    cluster := some (c.object x)
    deployed := true }

private theorem bundled_again (x y : ClusterNode) (p : PortChannel) :
    bundled x (bundled y (bundled x p)) = bundled x (bundled y p) := by
  unfold bundled
  rw [set_insertMany_again]

private theorem bundled_bundled (x : ClusterNode) (p : PortChannel) : bundled x (bundled x p) = bundled x p := by
  unfold bundled
  rw [set_insertMany_insertMany]

/-- The port-channels once the cluster is created on a node. -/
private def bundles (x : ClusterNode) (m : ExtTreeMap String PortChannel) : ExtTreeMap String PortChannel :=
  m.insert x.peerInterface.name (bundled x (m.getD x.peerInterface.name {}))

private theorem getElem?_bundles (x : ClusterNode) (m : ExtTreeMap String PortChannel) (name : String) :
    (bundles x m)[name]? =
      if x.peerInterface.name = name then some (bundled x (m[name]?.getD {})) else m[name]? := by
  simp only [bundles, ExtTreeMap.getElem?_insert, Std.LawfulEqOrd.compare_eq_iff_eq,
    ExtTreeMap.getD_eq_getD_getElem?]
  split
  · rename_i hname
    rw [hname]
  · rfl

private theorem bundles_again (x y : ClusterNode) (m : ExtTreeMap String PortChannel) :
    bundles x (bundles y (bundles x m)) = bundles x (bundles y m) := by
  apply ExtTreeMap.ext_getElem?
  intro name
  simp only [getElem?_bundles]
  by_cases hx : x.peerInterface.name = name <;> by_cases hy : y.peerInterface.name = name
  · simp only [hx, hy, if_true, Option.getD_some, bundled_again]
  · simp only [hx, hy, if_true, if_false, Option.getD_some, bundled_bundled]
  · simp only [hx, hy, if_true, if_false]
  · simp only [hx, hy, if_false]

private theorem bundles_bundles (x : ClusterNode) (m : ExtTreeMap String PortChannel) :
    bundles x (bundles x m) = bundles x m := by
  apply ExtTreeMap.ext_getElem?
  intro name
  simp only [getElem?_bundles]
  split
  · rw [Option.getD_some, bundled_bundled]
  · rfl

/-- Creation overwrites what it did before. -/
theorem established_established (x : ClusterNode) (cfg : Configuration) :
    c.established x (c.established x cfg) = c.established x cfg := by
  have hbundles := bundles_bundles x cfg.portChannels
  unfold bundles at hbundles
  simp only [established, insert_insert, set_insert_insert, hbundles]

/-- Creation overwrites what it did before another creation. -/
theorem established_again (x y : ClusterNode) (cfg : Configuration) :
    c.established x (c.established y (c.established x cfg)) = c.established x (c.established y cfg) := by
  have hbundles := bundles_again x y cfg.portChannels
  unfold bundles at hbundles
  simp only [established, insert_insert, set_insert_again, hbundles]

/-- The configuration once the cluster is created on several nodes. -/
def establishedAll (ns : List ClusterNode) (cfg : Configuration) : Configuration :=
  ns.foldl (fun cfg x => c.established x cfg) cfg

/-- A cluster has two nodes at most, so at most two of them have the same address. -/
theorem establishedAll_establishedAll {ns : List ClusterNode} (h : ns.length ≤ maxNodes) (cfg : Configuration) :
    c.establishedAll ns (c.establishedAll ns cfg) = c.establishedAll ns cfg := by
  match ns, h with
  | [], _ => rfl
  | [x], _ => exact c.established_established x cfg
  | [x, y], _ =>
    show c.established y (c.established x (c.established y (c.established x cfg))) = _
    rw [established_again, established_established]
    rfl
  | _ :: _ :: _ :: _, h => simp [maxNodes] at h

end ClusterSpec

/-! ### Running steps in order -/

namespace Operation

/-- Carries operations out one after the other, up to the first that is refused. -/
def carryOut : List Operation → ConfigurationM Unit
  | [] => return
  | op :: rest => do
    let _ ← op.apply
    carryOut rest

theorem run_carryOut_cons (op : Operation) (rest : List Operation) (cfg : Configuration) :
    (carryOut (op :: rest)).run.run cfg =
      match op.apply.run.run cfg with
      | (.ok _, cfg') => (carryOut rest).run.run cfg'
      | (.error e, cfg') => (.error e, cfg') := by
  rw [carryOut, Step.run_bind]
  generalize op.apply.run.run cfg = r
  obtain ⟨answer, cfg'⟩ := r
  cases answer <;> rfl

section cluster

variable {name peerKind peerName peerIp : String} {id : UInt32} {cfg : Configuration}

/-- A switch in another cluster rejects the creation of one, -/
theorem apply_createCluster_of_occupied {other : ClusterObject}
    (h : cfg.cluster.filter (fun o => !o.isNamed name id) = some other) :
    (createCluster name id peerKind peerName peerIp).apply.run.run cfg =
      (.error (.occupied (clusterText other.name other.id)), cfg) := by
  simp only [apply, run_acknowledge, createClusterObject, Step.run_bind, run_get, h]
  rfl

/-- and any other switch gets the object anew. -/
theorem apply_createCluster_of_free (h : cfg.cluster.filter (fun o => !o.isNamed name id) = none) :
    (createCluster name id peerKind peerName peerIp).apply.run.run cfg =
      (.ok .ok, { cfg with cluster := some ⟨name, id, none, peerKind, peerName, peerIp⟩, deployed := true }) := by
  simp only [apply, run_acknowledge, createClusterObject, Step.run_bind, run_get, h]
  rfl

variable {binding : ClusterBinding}

theorem apply_configureCluster_of_named {object : ClusterObject}
    (h : cfg.clusterNamed? binding.name binding.id = some object) :
    (configureCluster binding).apply.run.run cfg = (.ok .ok, { cfg with
      cluster := some { object with controlVlan := some binding.controlVlan, peerIp := binding.peerIp } }) := by
  simp only [apply, run_acknowledge, bindCluster, expectCluster, Step.run_bind, run_get, h]
  rfl

theorem apply_configureCluster_of_absent (h : cfg.clusterNamed? binding.name binding.id = none) :
    (configureCluster binding).apply.run.run cfg =
      (.error (.notConfigured (clusterText binding.name binding.id)), cfg) := by
  simp only [apply, run_acknowledge, bindCluster, expectCluster, Step.run_bind, run_get, h]
  rfl

end cluster

end Operation

namespace NodeWork

variable {host operation reason : String} {rest : List ClusterStep} {d : Device}

/-- The first step is followed by the others if its operation is accepted. -/
theorem failures_sendAll_send (host operation : String) (op : Operation) (rest : List ClusterStep) :
    (sendAll host (.send operation op :: rest)).failures = (do
      match ← perform host op with
      | .ok _ => (sendAll host rest).failures
      | .error cause => return [⟨operation, host, cause⟩]) := by
  have hstep : sendAll host (.send operation op :: rest) =
      send host operation op >>= fun _ => sendAll host rest := rfl
  unfold failures
  rw [hstep, ExceptT.run_bind]
  simp only [send, ExceptT.run_mk, bind_assoc, pure_bind]
  refine congrArg _ (funext fun answer => ?_)
  cases answer with
  | ok _ => rfl
  | error cause => exact pure_bind _ _

theorem run_sendAll_send {σ : Type} (A : Adapter σ) (op : Operation) (s : σ) :
    (sendAll host (.send operation op :: rest)).failures.run A s =
      match A.execute host op s with
      | (.ok _, s') => (sendAll host rest).failures.run A s'
      | (.error e, s') => ([⟨operation, host, .step e⟩], s') := by
  rw [failures_sendAll_send, Dialogue.run_bind, run_perform]
  generalize A.execute host op s = r
  obtain ⟨answer, s'⟩ := r
  cases answer <;> rfl

/-- Steps without a failure were all operations. -/
private theorem not_refuse_of_clean {steps : List ClusterStep} {d : Device}
    (h : ((sendAll host steps).failures.run adapter d).1 = []) : ClusterStep.refuse operation reason ∉ steps := by
  induction steps generalizing d with
  | nil => simp
  | cons step rest ih =>
    cases step with
    | send operation op =>
      rw [run_sendAll_send] at h
      generalize adapter.execute host op d = r at h
      obtain ⟨answer, d'⟩ := r
      cases answer with
      | ok a => simpa using ih h
      | error e => cases h
    | refuse operation reason => cases h

/-- Operations under the names of their steps. -/
abbrev sends (ops : List (String × Operation)) : List ClusterStep := ops.map fun x => .send x.1 x.2

variable {ops : List (String × Operation)}

private theorem carryOut_of_clean (hops : ∀ x ∈ ops, x.2 ≠ .getClusterStatus) {d : Device}
    (h : ((sendAll host (sends ops)).failures.run adapter d).1 = []) :
    (∀ x ∈ ops, d.failing.contains x.2.name = false) ∧
      ((carryOut (ops.map (·.2))).run.run d.configuration).1 = .ok ⟨⟩ := by
  induction ops generalizing d with
  | nil => exact ⟨by simp, rfl⟩
  | cons x rest ih =>
    rw [sends, List.map_cons, run_sendAll_send] at h
    generalize hr : adapter.execute host x.2 d = r at h
    obtain ⟨answer, d'⟩ := r
    cases answer with
    | error e => cases h
    | ok a =>
      obtain ⟨hfail, happly, rfl⟩ := execute_ok (hops x (by simp)) hr
      obtain ⟨haccepted, hanswer⟩ := ih (fun y hy => hops y (by simp [hy])) h
      refine ⟨List.forall_mem_cons.2 ⟨hfail, haccepted⟩, ?_⟩
      rw [List.map_cons, run_carryOut_cons]
      generalize x.2.apply.run.run d.configuration = result at happly hanswer
      obtain ⟨answer, cfg⟩ := result
      cases happly
      exact hanswer

private theorem clean_of_carryOut (hops : ∀ x ∈ ops, x.2 ≠ .getClusterStatus) {d : Device} {cfg : Configuration}
    (haccepted : ∀ x ∈ ops, d.failing.contains x.2.name = false)
    (h : (carryOut (ops.map (·.2))).run.run d.configuration = (.ok ⟨⟩, cfg)) :
    let r := (sendAll host (sends ops)).failures.run adapter d
    r.1 = [] ∧ r.2.quiet = { d.quiet with configuration := cfg } := by
  induction ops generalizing d with
  | nil =>
    cases h
    exact ⟨rfl, rfl⟩
  | cons x rest ih =>
    obtain ⟨hfail, hrest⟩ := List.forall_mem_cons.1 haccepted
    rw [List.map_cons, run_carryOut_cons] at h
    rw [sends, List.map_cons, run_sendAll_send]
    generalize hresult : x.2.apply.run.run d.configuration = result at h
    obtain ⟨answer, cfg'⟩ := result
    cases answer with
    | error e => cases h
    | ok a =>
      rw [execute_of_apply (hops x (by simp)) hfail hresult]
      exact ih (fun y hy => hops y (by simp [hy])) hrest h

end NodeWork

namespace ClusterSpec

variable (c : ClusterSpec) (x : ClusterNode)

/-! ### Creation on a node -/

/-- The operations that create the cluster on a node, under the names of their steps. -/
def createSends : List (String × Operation) :=
  let peer := "Configure Cluster Peer Interface"
  [("Configure Node Id", .configureNodeId x.nodeId),
    ("Create Cluster Control VLAN", .createControlVlan c.controlVlan c.controlVe "MCTClusterControlVlan"),
    (peer, .createPortChannel x.peerInterface.name x.peerInterface.speed "MCTPeerInterface" c.controlVlan)] ++
  x.connectingPorts.map (fun port => (peer, .addMember port x.peerInterface.name x.peerInterface.speed)) ++
  [("Configure IRB on Cluster Control VLAN", .configureVe c.controlVe x.remotePeerIp x.bfd),
    ("Configure IP Route", .configureRoute (routeDestination x) x.peerIp),
    ("Configure Cluster", .createCluster c.name c.id portChannelKind x.peerInterface.name x.peerIp),
    ("Configure Cluster", .configureCluster (c.binding x))]

theorem createSteps_eq (h : x.peerInterface.kind = .portChannel) :
    c.createSteps x = NodeWork.sends (c.createSends x) := by
  simp [createSteps, peerInterfaceSteps, createSends, h, Function.comp_def]

private theorem kind_of_clean {host : String} {d : Device}
    (h : ((NodeWork.sendAll host (c.createSteps x)).failures.run adapter d).1 = []) :
    x.peerInterface.kind = .portChannel := by
  have hsteps : .refuse "Configure Cluster Peer Interface" "Cluster peer-interface needs to be a port-channel" ∉
      c.createSteps x := NodeWork.not_refuse_of_clean h
  by_cases hkind : x.peerInterface.kind = .portChannel
  · exact hkind
  · simp [createSteps, peerInterfaceSteps, hkind] at hsteps

/-- Without its cluster object. -/
def prepared (cfg : Configuration) : Configuration :=
  { c.established x cfg with cluster := cfg.cluster, deployed := cfg.deployed }

theorem run_members (name speed : String) (ports : List String) (rest : List Operation)
    {cfg : Configuration} {p : PortChannel} (h : cfg.portChannels[name]? = some p) :
    (carryOut (ports.map (.addMember · name speed) ++ rest)).run.run cfg =
      (carryOut rest).run.run
        { cfg with
          portChannels := cfg.portChannels.insert name { p with members := p.members.insertMany ports } } := by
  induction ports generalizing cfg p with
  | nil => rw [ExtTreeSet.insertMany_nil, insert_of_getElem? h, List.map_nil, List.nil_append]
  | cons port later ih =>
    have happly : (addMember port name speed).apply.run.run cfg =
        (.ok .ok, { cfg with
          portChannels := cfg.portChannels.insert name { p with members := p.members.insert port } }) := by
      simp only [apply, changePortChannel, run_acknowledge, Step.run_bind, run_get, h]
      rfl
    rw [List.map_cons, List.cons_append, run_carryOut_cons, happly]
    dsimp only
    rw [ih ExtTreeMap.getElem?_insert_self, insert_insert, ExtTreeSet.insertMany_cons]

theorem run_prepare (cfg : Configuration) :
    (carryOut ((c.createSends x).map (·.2))).run.run cfg =
      (carryOut [.createCluster c.name c.id portChannelKind x.peerInterface.name x.peerIp,
        .configureCluster (c.binding x)]).run.run (c.prepared x cfg) := by
  let bound := bindControlVlan c.controlVlan c.controlVe { cfg with nodeId := some x.nodeId }
  let bundle := setPortChannel x.peerInterface.name x.peerInterface.speed bound
  have hbundle : bundle.portChannels[x.peerInterface.name]? =
      some { cfg.portChannels.getD x.peerInterface.name {} with speed := x.peerInterface.speed } :=
    ExtTreeMap.getElem?_insert_self
  have hsends : (c.createSends x).map (·.2) =
      [.configureNodeId x.nodeId, .createControlVlan c.controlVlan c.controlVe "MCTClusterControlVlan",
        .createPortChannel x.peerInterface.name x.peerInterface.speed "MCTPeerInterface" c.controlVlan] ++
      (x.connectingPorts.map (.addMember · x.peerInterface.name x.peerInterface.speed) ++
      [.configureVe c.controlVe x.remotePeerIp x.bfd, .configureRoute (routeDestination x) x.peerIp,
        .createCluster c.name c.id portChannelKind x.peerInterface.name x.peerIp,
        .configureCluster (c.binding x)]) := by
    simp [createSends, Function.comp_def]
  rw [hsends]
  have hfirst : ∀ rest, (carryOut ([.configureNodeId x.nodeId,
      .createControlVlan c.controlVlan c.controlVe "MCTClusterControlVlan",
      .createPortChannel x.peerInterface.name x.peerInterface.speed "MCTPeerInterface" c.controlVlan] ++
        rest)).run.run cfg = (carryOut rest).run.run bundle := fun _ => rfl
  -- None of these operations is ever refused; the cluster object is all that creation can fail on.
  rw [hfirst, run_members _ _ _ _ hbundle]
  have hprepared : setVeAddress c.controlVe x.remotePeerIp { bundle with
      portChannels := bundle.portChannels.insert x.peerInterface.name
        { cfg.portChannels.getD x.peerInterface.name {} with
          speed := x.peerInterface.speed
          members := (cfg.portChannels.getD x.peerInterface.name {}).members.insertMany x.connectingPorts }
      routes := cfg.routes.insert ⟨routeDestination x, x.peerIp⟩ } = c.prepared x cfg := by
    simp only [setVeAddress, bundle, bound, setPortChannel, bindControlVlan, insert_insert, insertIfNew_insert]
    rfl
  rw [← hprepared]
  rfl

theorem carryOut_create {cfg : Configuration}
    (hfree : cfg.cluster.filter (fun o => !o.isNamed c.name c.id) = none) :
    (carryOut ((c.createSends x).map (·.2))).run.run cfg = (.ok ⟨⟩, c.established x cfg) := by
  have hprepared : (c.prepared x cfg).cluster = cfg.cluster := rfl
  let unbound : Configuration :=
    { c.prepared x cfg with cluster := some { c.object x with controlVlan := none }, deployed := true }
  have hnamed : unbound.clusterNamed? (c.binding x).name (c.binding x).id =
      some { c.object x with controlVlan := none } := by
    simp [unbound, Configuration.clusterNamed?, Option.filter, ClusterObject.isNamed, object, binding]
  have hcreate : (createCluster c.name c.id portChannelKind x.peerInterface.name x.peerIp).apply.run.run
      (c.prepared x cfg) = (.ok .ok, unbound) := apply_createCluster_of_free (hprepared ▸ hfree)
  rw [run_prepare, run_carryOut_cons, hcreate]
  dsimp only
  rw [run_carryOut_cons, apply_configureCluster_of_named hnamed]
  rfl

private theorem free_of_carryOut {cfg : Configuration}
    (h : ((carryOut ((c.createSends x).map (·.2))).run.run cfg).1 = .ok ⟨⟩) :
    cfg.cluster.filter (fun o => !o.isNamed c.name c.id) = none := by
  rw [run_prepare, run_carryOut_cons] at h
  rcases Option.eq_none_or_eq_some (cfg.cluster.filter fun o => !o.isNamed c.name c.id)
    with hfree | ⟨other, hother⟩
  · exact hfree
  · have hprepared : (c.prepared x cfg).cluster = cfg.cluster := rfl
    rw [apply_createCluster_of_occupied (hprepared ▸ hother)] at h
    cases h

/-- The device takes the creation of the cluster on a node: it refuses no operation of it and is in no other
cluster. -/
structure Accepts (d : Device) : Prop where
  kind : x.peerInterface.kind = .portChannel
  accepted : ∀ y ∈ c.createSends x, d.failing.contains y.2.name = false
  free : d.configuration.cluster.filter (fun o => !o.isNamed c.name c.id) = none

theorem part_of_createSends : ∀ y ∈ c.createSends x, y.2.part = .cluster ∧ y.2 ≠ .getClusterStatus := by
  intro y hy
  simp only [createSends, List.mem_append, List.mem_cons, List.mem_map, List.not_mem_nil, or_false] at hy
  rcases hy with ((rfl | rfl | rfl) | ⟨port, -, rfl⟩) | rfl | rfl | rfl | rfl <;> exact ⟨rfl, by simp⟩

variable {c x} {d : Device}

theorem accepts_of_createOn (h : ((c.createOn x).run adapter d).1 = []) :
    d.refusesLogin = false ∧ c.Accepts x d := by
  have hlogin := login_of_session h
  rw [createOn, run_session_of_login hlogin] at h
  have hkind := c.kind_of_clean x h
  rw [createSteps_eq c x hkind] at h
  obtain ⟨haccepted, hanswer⟩ := NodeWork.carryOut_of_clean (fun y hy => (c.part_of_createSends x y hy).2) h
  exact ⟨hlogin, hkind, haccepted, c.free_of_carryOut x hanswer⟩

theorem createOn_of_accepts (hlogin : d.refusesLogin = false) (h : c.Accepts x d) :
    ((c.createOn x).run adapter d).1 = [] ∧
      ((c.createOn x).run adapter d).2.quiet =
        { d.quiet with configuration := c.established x d.configuration } := by
  rw [createOn, run_session_of_login hlogin, createSteps_eq c x h.kind]
  exact NodeWork.clean_of_carryOut (fun y hy => (c.part_of_createSends x y hy).2) h.accepted
    (c.carryOut_create x h.free)

/-! ### Creation on all nodes with one address -/

private theorem free_established (x : ClusterNode) (cfg : Configuration) :
    (c.established x cfg).cluster.filter (fun o => !o.isNamed c.name c.id) = none := by
  simp [established, object, ClusterObject.isNamed, Option.filter]

/-- Whether a node is accepted depends on the refused operations and on the cluster object. -/
private theorem Accepts.congr {e : Device} (h : c.Accepts x d) (hfailing : e.failing = d.failing)
    (hfree : e.configuration.cluster.filter (fun o => !o.isNamed c.name c.id) = none) : c.Accepts x e :=
  ⟨h.kind, by rw [hfailing]; exact h.accepted, hfree⟩

variable {ns : List ClusterNode}

private theorem createOn_all (hlogin : d.refusesLogin = false) (h : ∀ x ∈ ns, c.Accepts x d) :
    ((fanOut ns c.createOn).run adapter d).1 = [] ∧
      ((fanOut ns c.createOn).run adapter d).2.quiet =
        { d.quiet with configuration := c.establishedAll ns d.configuration } := by
  induction ns generalizing d with
  | nil => exact ⟨rfl, rfl⟩
  | cons x rest ih =>
    obtain ⟨hx, hrest⟩ := List.forall_mem_cons.1 h
    obtain ⟨hclean, hquiet⟩ := createOn_of_accepts hlogin hx
    obtain ⟨hlogin', hfailing, hcfg⟩ := quiet_parts hquiet
    have hfree := free_established (c := c) x d.configuration
    rw [← hcfg] at hfree
    obtain ⟨hclean', hquiet'⟩ := ih (hlogin'.trans hlogin) fun y hy => (hrest y hy).congr hfailing hfree
    rw [fanOut, List.map_cons, run_collect_cons]
    refine ⟨by rw [hclean]; exact hclean', ?_⟩
    rw [hquiet, hcfg] at hquiet'
    exact hquiet'

private theorem accepts_of_createOn_all (h : ((fanOut ns c.createOn).run adapter d).1 = []) :
    ∀ x ∈ ns, d.refusesLogin = false ∧ c.Accepts x d := by
  induction ns generalizing d with
  | nil => simp
  | cons x rest ih =>
    rw [fanOut, List.map_cons, run_collect_cons] at h
    obtain ⟨hfirst, hlater⟩ := List.append_eq_nil_iff.1 h
    obtain ⟨hlogin, hx⟩ := accepts_of_createOn hfirst
    obtain ⟨-, hquiet⟩ := createOn_of_accepts hlogin hx
    obtain ⟨-, hfailing, -⟩ := quiet_parts hquiet
    refine List.forall_mem_cons.2 ⟨⟨hlogin, hx⟩, fun y hy => ⟨hlogin, ?_⟩⟩
    exact (ih hlater y hy).2.congr hfailing.symm hx.free

/-- The cluster is created on the nodes that have the address of the device, and creating it once more changes
nothing. -/
structure Settled (c : ClusterSpec) (ns : List ClusterNode) (d : Device) : Prop where
  login : d.refusesLogin = false
  accepts : ∀ x ∈ ns, c.Accepts x d
  same : c.establishedAll ns d.configuration = d.configuration

private theorem free_establishedAll {cfg : Configuration}
    (h : cfg.cluster.filter (fun o => !o.isNamed c.name c.id) = none) :
    (c.establishedAll ns cfg).cluster.filter (fun o => !o.isNamed c.name c.id) = none := by
  induction ns generalizing cfg with
  | nil => exact h
  | cons x rest ih => exact ih (free_established x cfg)

theorem brings_createOn_all (hne : ns ≠ []) (hsize : ns.length ≤ maxNodes) :
    Brings adapter (fun _ => True) (fanOut ns c.createOn) (c.Settled ns) := by
  intro d _ hclean
  have haccepts := accepts_of_createOn_all hclean
  obtain ⟨x, hx⟩ := List.exists_mem_of_ne_nil ns hne
  obtain ⟨hlogin, -⟩ := haccepts x hx
  obtain ⟨-, hquiet⟩ := createOn_all hlogin fun y hy => (haccepts y hy).2
  obtain ⟨hlogin', hfailing, hcfg⟩ := quiet_parts hquiet
  refine ⟨hlogin'.trans hlogin, fun y hy => (haccepts y hy).2.congr hfailing ?_, ?_⟩
  · rw [hcfg]
    exact free_establishedAll (haccepts y hy).2.free
  · rw [hcfg, establishedAll_establishedAll c hsize]

theorem idle_createOn_all (h : c.Settled ns d) : Idle adapter quiet (fanOut ns c.createOn) d := by
  obtain ⟨hclean, hquiet⟩ := createOn_all h.login h.accepts
  refine ⟨hclean, ?_⟩
  rw [hquiet, h.same]
  rfl

theorem Settled.congr {e : Device} (h : c.Settled ns d) (hquiet : d.quiet = e.quiet) : c.Settled ns e := by
  have hquiet : e.quiet = { d.quiet with configuration := d.configuration } := hquiet.symm
  obtain ⟨hlogin, hfailing, hcfg⟩ := quiet_parts hquiet
  refine ⟨hlogin.trans h.login, fun x hx => (h.accepts x hx).congr hfailing ?_, by rw [hcfg, h.same]⟩
  rw [hcfg]
  exact (h.accepts x hx).free

/-- A device on which the cluster is created has deployed it. -/
theorem Settled.deployed (h : c.Settled ns d) (hne : ns ≠ []) : Network.hasDeployed c.name c.id d = true := by
  -- The node created last left the object, and creating all nodes again would change nothing.
  obtain ⟨init, last, rfl⟩ : ∃ init last, ns = init ++ [last] := ⟨_, _, (List.dropLast_concat_getLast hne).symm⟩
  have hlast : d.configuration = c.established last (c.establishedAll init d.configuration) := by
    have hsame := h.same
    unfold establishedAll at hsame
    rw [List.foldl_append] at hsame
    exact hsame.symm
  unfold Network.hasDeployed Configuration.clusterNamed?
  rw [hlast]
  simp [established, object, ClusterObject.isNamed, Option.filter]

private theorem same_establishedAll (ns : List ClusterNode) (cfg : Configuration) {p : Part} (hp : p ≠ .cluster) :
    p.Same cfg (c.establishedAll ns cfg) := by
  induction ns generalizing cfg with
  | nil => exact p.same_refl cfg
  | cons x rest ih =>
    have hx : p.Same cfg (c.established x cfg) := by
      cases p <;> first | exact absurd rfl hp | simp [Part.Same, established]
    exact Part.same_trans hx (ih _)

private theorem cluster_same_establishedAll (ns : List ClusterNode) {cfg cfg' : Configuration}
    (h : Part.cluster.Same cfg cfg') : Part.cluster.Same (c.establishedAll ns cfg) (c.establishedAll ns cfg') := by
  induction ns generalizing cfg cfg' with
  | nil => exact h
  | cons x rest ih =>
    obtain ⟨-, hvlans, hves, hchannels, hroutes, -, -⟩ := h
    have hx : Part.cluster.Same (c.established x cfg) (c.established x cfg') := by
      simp [Part.Same, established, hvlans, hves, hchannels, hroutes]
    exact ih hx

/-- Whether the cluster is created on a device is in the part about clusters. -/
theorem concerns_settled (c : ClusterSpec) (ns : List ClusterNode) : Concerns (· = .cluster) (c.Settled ns) := by
  intro allowed d d' hfollows hparts h
  have hcluster : Part.cluster.Same d.configuration d'.configuration := hfollows.parts .cluster hparts
  obtain ⟨-, -, -, -, -, hobject, -⟩ := hcluster
  refine ⟨hfollows.refusesLogin.trans h.login, fun x hx => (h.accepts x hx).congr hfollows.failing ?_, ?_⟩
  · rw [hobject]
    exact (h.accepts x hx).free
  · refine Part.eq_of_same fun p => ?_
    -- Creation touches no other part, and makes of this one what it was before.
    by_cases hp : p = .cluster
    · subst hp
      have hcreated := cluster_same_establishedAll (c := c) ns (hfollows.parts .cluster hparts)
      rw [h.same] at hcreated
      exact Part.same_trans (Part.same_symm (hfollows.parts .cluster hparts)) hcreated
    · exact same_establishedAll ns _ hp

end ClusterSpec

end FabricProvision

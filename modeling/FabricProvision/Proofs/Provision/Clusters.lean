import FabricProvision.Proofs.Device.Status
import FabricProvision.Proofs.Provision.Created

/-!
# Creating management clusters

A cluster that was created without a failure is done (`ClusterSpec.Done`): its nodes have it, and report its
members.  To create it once more then changes nothing (`ClusterSpec.idle_create`).  Creating a cluster with
another name keeps it done, since a node in one cluster refuses to be in another (`ClusterSpec.keeps_create`).
-/

namespace FabricProvision

open Dialogue Device Operation
open Network (At If)

namespace ClusterSpec

variable (c : ClusterSpec) (polling : Polling)

/-! ### Alphabets -/

/-- Creation on one node. -/
def createScope (x : ClusterNode) : Scope :=
  ⟨fun host => host = x.host, fun host op => host = x.host ∧ ∃ operation, (operation, op) ∈ c.createSends x⟩

private theorem mem_createSends {x : ClusterNode} {operation : String} {op : Operation}
    (h : ClusterStep.send operation op ∈ c.createSteps x) : (operation, op) ∈ c.createSends x := by
  unfold createSteps peerInterfaceSteps at h
  unfold createSends
  split at h
  · simp_all
  · simp only [List.mem_append, List.mem_cons, List.not_mem_nil, or_false, ClusterStep.send.injEq,
      reduceCtorEq] at h
    simp only [List.mem_append, List.mem_cons, Prod.mk.injEq]
    rcases h with (h | h) | h | h | h | h <;> simp [h]

theorem stays_createOn (x : ClusterNode) : (c.createOn x).Stays (c.createScope x) :=
  stays_session rfl (NodeWork.stays_failures (NodeWork.failsWithin_sendAll fun operation _ h =>
    ⟨rfl, operation, c.mem_createSends h⟩))

/-- Creation on all nodes, polling included. -/
private def creationScope : Scope :=
  ⟨fun _ => True, fun _ op => (∃ x, ∃ y ∈ c.createSends x, y.2 = op) ∨ op = .getClusterStatus⟩

theorem stays_pollMembers : (c.pollMembers polling).Stays (Scope.asking (· ∈ c.hosts)) := by
  refine stays_fanOut fun x hx => ?_
  have hhost : x.host ∈ c.hosts := List.mem_map_of_mem hx
  have hstatus : (Scope.asking (· ∈ c.hosts)).operations x.host .getClusterStatus := ⟨hhost, rfl⟩
  exact stays_pollOn x hhost hstatus polling _

theorem createScope_local (x : ClusterNode) : (c.createScope x).Local x.host :=
  ⟨fun _ h => h, fun _ _ ⟨hhost, _, h⟩ => ⟨hhost, (c.part_of_createSends x _ h).2⟩⟩

/-! ### Nodes -/

/-- The nodes with an address. -/
def nodesAt (host : String) : List ClusterNode := c.nodes.filter fun x => x.host = host

/-- Every node has the cluster, and having it once more would change nothing. -/
def AllSettled (n : Network) : Prop := ∀ x ∈ c.nodes, n.At x.host (c.Settled (c.nodesAt x.host))

section groups

variable {c} {ns : List ClusterNode} {host : String} (hhost : ∀ x ∈ ns, x.host = host)

include hhost

private theorem stays_createGroup : (fanOut ns c.createOn).Stays (Scope.alone host) := by
  refine stays_fanOut fun x hx => (c.stays_createOn x).widen ⟨fun _ h => h.trans (hhost x hx), ?_⟩
  rintro other op ⟨hother, _, hop⟩
  exact ⟨hother.trans (hhost x hx), (c.part_of_createSends x _ hop).2⟩

/-- Nodes with one address are settled together. -/
private theorem brings_createGroup (hne : ns ≠ []) (hsize : ns.length ≤ maxNodes) :
    Brings Network.adapter (fun _ => True) (fanOut ns c.createOn) (At host (c.Settled ns)) := by
  intro n _ hclean
  have hdevice : ∃ d, n.device? host = some d := by
    obtain ⟨x, rest, rfl⟩ := List.exists_cons_of_ne_nil hne
    rw [fanOut, List.map_cons, run_collect_cons] at hclean
    obtain ⟨d, hd, -⟩ := Network.device_of_session (List.append_eq_nil_iff.1 hclean).1
    exact ⟨d, hhost x (by simp) ▸ hd⟩
  obtain ⟨d, hd⟩ := hdevice
  exact Network.brings_local (stays_createGroup hhost) (Scope.alone_local host)
    (brings_createOn_all hne hsize) n ⟨d, hd, trivial⟩ hclean

private theorem idle_createGroup {n : Network} (h : n.At host (c.Settled ns)) :
    Idle Network.adapter Network.quiet (fanOut ns c.createOn) n := by
  obtain ⟨d, hd, hsettled⟩ := h
  exact Network.idle_local (stays_createGroup hhost) (Scope.alone_local host) hd (idle_createOn_all hsettled)

end groups

/-- Of two nodes at most, either all have the same address or all have different ones. -/
private theorem hosts_alike_or_distinct (hsize : c.nodes.length ≤ maxNodes) :
    (∃ host, ∀ x ∈ c.nodes, x.host = host) ∨ c.nodes.Pairwise fun x y => x.host ≠ y.host := by
  match c.nodes, hsize with
  | [], _ => exact .inr .nil
  | [x], _ => exact .inr (List.pairwise_singleton _ x)
  | [x, y], _ =>
    by_cases h : x.host = y.host
    · exact .inl ⟨y.host, by simp [h]⟩
    · exact .inr (by simp [h])
  | _ :: _ :: _ :: _, h => simp [maxNodes] at h

private theorem nodesAt_alike {host : String} (h : ∀ x ∈ c.nodes, x.host = host) : c.nodesAt host = c.nodes :=
  List.filter_eq_self.2 fun x hx => by simp [h x hx]

theorem nodesAt_distinct (h : c.nodes.Pairwise fun x y => x.host ≠ y.host) {x : ClusterNode}
    (hx : x ∈ c.nodes) : c.nodesAt x.host = [x] := by
  unfold nodesAt
  obtain ⟨before, after, hnodes⟩ := List.append_of_mem hx
  rw [hnodes] at h ⊢
  obtain ⟨-, hcons, hcross⟩ := List.pairwise_append.1 h
  have hbefore : before.filter (fun y => y.host = x.host) = [] :=
    List.filter_eq_nil_iff.2 fun y hy => by simpa using hcross y hy x (by simp)
  have hafter : after.filter (fun y => y.host = x.host) = [] :=
    List.filter_eq_nil_iff.2 fun y hy => by simpa using ((List.pairwise_cons.1 hcons).1 y hy).symm
  rw [List.filter_append, hbefore, List.filter_cons_of_pos (by simp), hafter]
  rfl

/-- Creation on all nodes settles them. -/
theorem brings_createNodes (hsize : c.nodes.length ≤ maxNodes) :
    Brings Network.adapter (fun _ => True) (fanOut c.nodes c.createOn) c.AllSettled := by
  refine Brings.weaken (brings_all (S := (· ∈ c.nodes)) (Q := fun x => At x.host (c.Settled (c.nodesAt x.host)))
    fun x hx => ?_) (fun _ h => h) fun _ h => h
  rcases c.hosts_alike_or_distinct hsize with ⟨host, hhost⟩ | hdistinct
  · rw [hhost x hx, c.nodesAt_alike hhost]
    exact brings_createGroup hhost (List.ne_nil_of_mem hx) hsize
  · rw [c.nodesAt_distinct hdistinct hx]
    have hone : Brings Network.adapter (fun _ => True) (c.createOn x) (At x.host (c.Settled [x])) := by
      intro n _ hclean
      rw [← run_fanOut_one] at hclean ⊢
      exact brings_createGroup (by simp) (by simp) (by simp [maxNodes]) n trivial hclean
    refine brings_fanOut_mem hx hdistinct (fun _ _ _ => brings_true _) hone fun y _ hne n hn _ => ?_
    refine At.keeps hn (c.stays_createOn y) (concerns_settled c [x]) fun op hop => ?_
    exact absurd hop.1 hne

theorem idle_createNodes (hsize : c.nodes.length ≤ maxNodes) {n : Network} (h : c.AllSettled n) :
    Idle Network.adapter Network.quiet (fanOut c.nodes c.createOn) n := by
  rcases c.hosts_alike_or_distinct hsize with ⟨host, hhost⟩ | hdistinct
  · by_cases hnone : c.nodes = []
    · rw [hnone]
      exact ⟨rfl, rfl⟩
    · obtain ⟨x, hx⟩ := List.exists_mem_of_ne_nil _ hnone
      have hx' := h x hx
      rw [hhost x hx, c.nodesAt_alike hhost] at hx'
      exact idle_createGroup hhost hx'
  · refine idle_fanOut Network.shows_quiet fun x hx => ?_
    have hx' := h x hx
    rw [c.nodesAt_distinct hdistinct hx] at hx'
    have hone := idle_createGroup (by simp) hx'
    unfold Idle at hone ⊢
    rw [run_fanOut_one] at hone
    exact hone

/-! ### Whole clusters -/

section size

variable (hsize : c.nodes.length ≤ maxNodes)

include hsize

theorem create_unforced : c.create polling false = (do
    let errors ← fanOut c.nodes c.createOn
    if errors.isEmpty then return [] ++ (← c.pollMembers polling) else return [] ++ errors) := by
  unfold create
  rw [if_neg (by omega)]
  rfl

theorem create_forced : c.create polling true = (do
    let early ← c.clearAndPoll polling
    let errors ← fanOut c.nodes c.createOn
    if errors.isEmpty then return early ++ (← c.pollMembers polling) else return early ++ errors) := by
  unfold create
  rw [if_neg (by omega)]
  rfl

end size

theorem run_create {n : Network} (hsize : c.nodes.length ≤ maxNodes) :
    let created := (fanOut c.nodes c.createOn).run Network.adapter n
    (c.create polling false).run Network.adapter n =
      if created.1 = [] then (c.pollMembers polling).run Network.adapter created.2 else created := by
  intro created
  unfold created
  rw [c.create_unforced polling hsize, run_bind]
  generalize (fanOut c.nodes c.createOn).run Network.adapter n = r
  obtain ⟨errors, n'⟩ := r
  cases errors with
  | nil => simp only [List.isEmpty_nil, if_true, run_bind, run_pure, List.nil_append]
  | cons f rest =>
    simp only [List.isEmpty_cons, Bool.false_eq_true, if_false, run_pure, List.nil_append, reduceCtorEq]

private theorem size_of_create {n : Network} (h : ((c.create polling false).run Network.adapter n).1 = []) :
    c.nodes.length ≤ maxNodes := by
  by_cases hsize : c.nodes.length > maxNodes
  · unfold create at h
    rw [if_pos hsize] at h
    cases h
  · omega

/-- The cluster is created: all its nodes have it and report its members. -/
structure Done (n : Network) : Prop where
  size : c.nodes.length ≤ maxNodes
  settled : c.AllSettled n
  polled : ((c.pollMembers polling).run Network.adapter n).1 = []

theorem quiet_pollMembers (n : Network) :
    ((c.pollMembers polling).run Network.adapter n).2.quiet = n.quiet :=
  Network.quiet_of_asking (c.stays_pollMembers polling) n

private theorem AllSettled.congr {n m : Network} (h : c.AllSettled n) (hquiet : n.quiet = m.quiet) :
    c.AllSettled m :=
  fun x hx => (h x hx).congr hquiet fun _ _ hde hd => hd.congr hde

/-- Creating a cluster that is created changes nothing. -/
theorem idle_create {n : Network} (h : c.Done polling n) :
    Idle Network.adapter Network.quiet (c.create polling false) n := by
  have hcreated := c.idle_createNodes h.size h.settled
  have hpolled : Idle Network.adapter Network.quiet (c.pollMembers polling) n :=
    ⟨h.polled, c.quiet_pollMembers polling n⟩
  have hafter := hpolled.congr Network.shows_quiet hcreated.2.symm
  unfold Idle
  rw [c.run_create polling h.size, if_pos hcreated.1]
  exact ⟨hafter.1, hafter.2.trans hcreated.2⟩

theorem brings_create : Brings Network.adapter (fun _ => True) (c.create polling false) (c.Done polling) := by
  intro n _ hclean
  have hsize := c.size_of_create polling hclean
  rw [c.run_create polling hsize] at hclean ⊢
  split at hclean
  · rename_i hcreated
    rw [if_pos hcreated]
    have hsettled := c.brings_createNodes hsize n trivial hcreated
    refine ⟨hsize, hsettled.congr _ (c.quiet_pollMembers polling _).symm, ?_⟩
    rw [← hclean]
    exact (Network.shows_quiet.run _ (c.quiet_pollMembers polling _)).1
  · rename_i hcreated
    exact absurd hclean hcreated

variable {c polling}

/-- A cluster stays done while its nodes keep it and the same devices have deployed it. -/
theorem Done.of_relates {n n' : Network} (h : c.Done polling n) (hsettled : c.AllSettled n')
    (hrelates : n.Relates (fun _ => Network.Keeps c.name c.id) n') : c.Done polling n' := by
  refine ⟨h.size, hsettled, ?_⟩
  have halike : Network.AnswersAlike (· ∈ c.hosts) n n' := by
    refine Network.answersAlike_of_keeps hrelates fun host hhost => ?_
    obtain ⟨x, hx, rfl⟩ := List.mem_map.1 hhost
    obtain ⟨d, hd, hd'⟩ := h.settled x hx
    exact ⟨d, hd, hd'.deployed (List.ne_nil_of_mem (List.mem_filter.2 ⟨hx, by simp⟩))⟩
  rw [← h.polled]
  exact (Network.run_asking (c.stays_pollMembers polling) halike).1.symm

/-- What is not about clusters keeps them done. -/
theorem Done.keeps {α : Type} {n : Network} (h : c.Done polling n) {scope : Scope} {x : Dialogue α}
    (hx : x.Stays scope) (hparts : ∀ host op, scope.operations host op → op.part ≠ .cluster) :
    c.Done polling (x.run Network.adapter n).2 := by
  refine h.of_relates (fun y hy => (h.settled y hy).keeps hx (concerns_settled c _) fun op => hparts _ op) ?_
  exact (Network.relates_sameCluster hx hparts n).mono fun _ _ _ hsame => hsame.keeps

theorem Done.congr {n m : Network} (h : c.Done polling n) (hquiet : n.quiet = m.quiet) : c.Done polling m :=
  ⟨h.size, h.settled.congr c hquiet, by rw [← h.polled]; exact (Network.shows_quiet.run _ hquiet.symm).1⟩

/-! ### Other clusters -/

section others

variable {c' : ClusterSpec} (hne : (c'.name, c'.id) ≠ (c.name, c.id))

include hne

omit hne in
private theorem free_of_named {o : ClusterObject} {name : String} {id : UInt32} (h : o.isNamed name id = true) :
    (some o).filter (fun o => !o.isNamed name id) = none := by
  simp [Option.filter, h]

/-- A device that is free for a cluster, or in it, has not deployed another one. -/
private theorem not_deployed_of_free {cfg : Configuration}
    (h : cfg.cluster.filter (fun o => !o.isNamed c'.name c'.id) = none) :
    (cfg.deployed && (cfg.clusterNamed? c.name c.id).isSome) = false := by
  unfold Configuration.clusterNamed?
  cases hcluster : cfg.cluster with
  | none => simp
  | some o =>
    simp [hcluster, Option.filter, ClusterObject.isNamed] at h
    obtain ⟨hname, hid⟩ := h
    have hother : o.isNamed c.name c.id = false := by
      rw [Bool.eq_false_iff]
      intro hnamed
      simp only [ClusterObject.isNamed, Bool.and_eq_true, beq_iff_eq] at hnamed
      exact hne (by rw [← hname, ← hid, hnamed.1, hnamed.2])
    simp [Option.filter, hother]

private theorem deployed_of_apply {x : ClusterNode} {y : String × Operation} (hy : y ∈ c'.createSends x)
    (cfg : Configuration) :
    ((y.2.apply.run.run cfg).2.deployed && ((y.2.apply.run.run cfg).2.clusterNamed? c.name c.id).isSome) =
      (cfg.deployed && (cfg.clusterNamed? c.name c.id).isSome) := by
  simp only [createSends, List.mem_append, List.mem_cons, List.mem_map, List.not_mem_nil, or_false] at hy
  rcases hy with ((rfl | rfl | rfl) | ⟨port, -, rfl⟩) | rfl | rfl | rfl | rfl
  · rfl
  · rfl
  · rfl
  · simp only [apply, changePortChannel, run_acknowledge, Step.run_bind, Step.run_get]
    split <;> rfl
  · rfl
  · rfl
  · simp only [apply, createClusterObject, run_acknowledge, Step.run_bind, Step.run_get]
    rcases Option.eq_none_or_eq_some (cfg.cluster.filter fun o => !o.isNamed c'.name c'.id) with hfree | ⟨o, ho⟩
    · rw [not_deployed_of_free hne hfree]
      simp only [hfree]
      exact not_deployed_of_free hne (by simp [Step.run_modify, Option.filter, ClusterObject.isNamed])
    · simp only [ho]
      rfl
  · simp only [apply, bindCluster, expectCluster, run_acknowledge, Step.run_bind, Step.run_get]
    rcases Option.eq_none_or_eq_some (cfg.clusterNamed? (c'.binding x).name (c'.binding x).id) with hnone | ⟨o, ho⟩
    · simp only [hnone]
      rfl
    · obtain ⟨hcluster, hnamed⟩ := Option.filter_eq_some_iff.1 ho
      have hfree : cfg.cluster.filter (fun o => !o.isNamed c'.name c'.id) = none := by
        rw [hcluster]
        exact free_of_named hnamed
      rw [not_deployed_of_free hne hfree]
      simp only [ho]
      -- Bound, the object has the same name.
      exact not_deployed_of_free hne (free_of_named (o := { o with
        controlVlan := some (c'.binding x).controlVlan, peerIp := (c'.binding x).peerIp }) hnamed)

/-- Creating a cluster never changes who has deployed another one: a device in another cluster refuses. -/
theorem keeps_createSends {x : ClusterNode} {y : String × Operation} (hy : y ∈ c'.createSends x)
    (d : Device) (status : ClusterStatus) : Network.Keeps c.name c.id d (d.receive status y.2).2 := by
  obtain ⟨hlogin, hfailing, hstatus⟩ := d.receive_faults status y.2
  refine ⟨hlogin, hfailing, hstatus, ?_⟩
  rcases d.receive_cases status y.2 with ⟨-, h⟩ | ⟨-, -, h⟩ | ⟨-, -, h⟩
  · rw [h]
    rfl
  · rw [h]
    rfl
  · rw [h]
    exact deployed_of_apply hne hy d.configuration

private theorem relates_create (n : Network) :
    n.Relates (fun _ => Network.Keeps c.name c.id) ((c'.create polling false).run Network.adapter n).2 := by
  have hpoll : (c'.pollMembers polling).Stays (c'.creationScope) := (c'.stays_pollMembers polling).widen
    ⟨fun _ _ => trivial, fun _ _ hop => .inr hop.2⟩
  have hcreate : (fanOut c'.nodes c'.createOn).Stays c'.creationScope :=
    stays_fanOut fun x _ => (c'.stays_createOn x).widen ⟨fun _ _ => trivial, fun _ op ⟨_, operation, hop⟩ =>
      .inl ⟨x, (operation, op), hop, rfl⟩⟩
  have hstays : (c'.create polling false).Stays c'.creationScope := stays_create_of (by simp) hcreate hpoll
  refine Network.run_relates hstays (fun _ => Network.keeps_refl _ _) (fun _ _ _ _ => Network.Keeps.trans)
    (fun host op hop d status => ?_) n
  rcases hop with ⟨x, y, hy, rfl⟩ | rfl
  · exact keeps_createSends hne hy d status
  · rw [d.receive_getClusterStatus]
    exact ⟨rfl, rfl, rfl, rfl⟩

/-- A node of a cluster refuses to be in another one. -/
private theorem keeps_createOn {ns : List ClusterNode} (hns : ns ≠ []) (host : String) (x : ClusterNode) :
    Brings Network.adapter (At host (c.Settled ns)) (c'.createOn x) (At host (c.Settled ns)) := by
  by_cases hhost : x.host = host
  · subst hhost
    refine Network.brings_local (c'.stays_createOn x) (c'.createScope_local x) fun d hd hclean => ?_
    -- Without a failure the device was free for the other cluster, so it had not deployed this one.
    obtain ⟨-, haccepts⟩ := accepts_of_createOn hclean
    have hdeployed := hd.deployed hns
    have hnot := not_deployed_of_free hne haccepts.free
    exact absurd (hdeployed.symm.trans hnot) (by simp)
  · exact fun n hn _ => hn.keeps (c'.stays_createOn x) (concerns_settled c ns) fun op hop =>
      absurd hop.1.symm hhost

/-- Creating another cluster keeps a cluster done. -/
theorem keeps_create : Brings Network.adapter (c.Done polling) (c'.create polling false) (c.Done polling) := by
  intro n hn hclean
  refine hn.of_relates ?_ (relates_create hne n)
  have hsize := c'.size_of_create polling hclean
  rw [c'.run_create polling hsize] at hclean ⊢
  split at hclean
  · rename_i hcreated
    rw [if_pos hcreated]
    refine AllSettled.congr c (fun x hx => ?_) (c'.quiet_pollMembers polling _).symm
    have hnodes : c.nodesAt x.host ≠ [] := List.ne_nil_of_mem (List.mem_filter.2 ⟨hx, by simp⟩)
    exact brings_fanOut_keeps (fun y _ => keeps_createOn hne hnodes x.host y) n (hn.settled x hx) hcreated
  · rename_i hcreated
    exact absurd hclean hcreated

end others

end ClusterSpec

end FabricProvision

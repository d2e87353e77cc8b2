import FabricProvision.Proofs.Device.Scheduled
import FabricProvision.Proofs.Provision.AllSchedules
import FabricProvision.Proofs.Provision.Blame
import FabricProvision.Proofs.Provision.Clusters

/-!
# Creating management clusters at the same time

Clusters of different names that are created at the same time, without force, do not notice each other if they have
no node in common: what one of them does to the nodes of another is nothing, and it does not change who has deployed
the other one (`ClusterSpec.secures_create`).  If they have a node in common, the creation of one of them fails there
under every schedule, as a device that holds a cluster object refuses another one (`ClusterSpec.apart_of_clean`).  So
if the nodes of each cluster are different devices, runs without failures are confluent
(`ClusterSpec.confluent_createAll`).
-/

namespace FabricProvision

open Dialogue Network

namespace ClusterSpec

variable (c : ClusterSpec) (polling : Polling)

/-- The cluster cannot tell the networks apart: its nodes are the same, and the same devices have deployed it. -/
structure Undisturbed (n n' : Network) : Prop where
  nodes : n.Agree (· ∈ c.hosts) n'
  deployed : n.Relates (fun _ => Keeps c.name c.id) n'

/-- What happens between the networks is about the cluster: other devices are the same, and other clusters are
deployed on the same devices. -/
structure Undisturbing (n n' : Network) : Prop where
  others : n.Agree (· ∉ c.hosts) n'
  deployed : ∀ c' : ClusterSpec, (c.name, c.id) ≠ (c'.name, c'.id) → n.Relates (fun _ => Keeps c'.name c'.id) n'

variable {c} {n n' n'' : Network}

theorem undisturbed_refl (c : ClusterSpec) (n : Network) : c.Undisturbed n n :=
  ⟨fun _ _ => rfl, relates_refl (fun _ => keeps_refl _ _) n⟩

theorem Undisturbed.trans (h : c.Undisturbed n n') (h' : c.Undisturbed n' n'') : c.Undisturbed n n'' :=
  ⟨fun host hhost => (h.nodes host hhost).trans (h'.nodes host hhost),
    h.deployed.trans (fun _ _ _ _ => Keeps.trans) h'.deployed⟩

theorem undisturbing_refl (c : ClusterSpec) (n : Network) : c.Undisturbing n n :=
  ⟨fun _ _ => rfl, fun _ _ => relates_refl (fun _ => keeps_refl _ _) n⟩

/-- What is about one cluster does not disturb another one that has no node in common with it. -/
theorem Undisturbing.undisturbed {c' : ClusterSpec} (h : c.Undisturbing n n')
    (hne : (c.name, c.id) ≠ (c'.name, c'.id)) (hapart : c.hosts.Disjoint c'.hosts) : c'.Undisturbed n n' :=
  ⟨fun host hhost => h.others host fun hc => hapart hc hhost, h.deployed c' hne⟩

/-! ### Single exchanges -/

/-- If an exchange with a node does the same to it in both networks, the cluster still cannot tell them apart. -/
private theorem Undisturbed.execute (h : c.Undisturbed n n') {host : String} {op : Operation}
    (hdevice : (n.execute host op).2.device? host = (n'.execute host op).2.device? host) :
    c.Undisturbed (n.execute host op).2 (n'.execute host op).2 := by
  have hnodes : (n.execute host op).2.Agree (· ∈ c.hosts) (n'.execute host op).2 := by
    intro other hother
    by_cases hsame : host = other
    · exact hsame ▸ hdevice
    · rw [n.device?_execute_of_ne hsame, n'.device?_execute_of_ne hsame]
      exact h.nodes other hother
  refine ⟨hnodes, fun other => ?_⟩
  by_cases hsame : host = other
  · subst hsame
    rw [← hdevice]
    exact relates_refl (fun _ => keeps_refl _ _) _ host
  · rw [n.device?_execute_of_ne hsame, n'.device?_execute_of_ne hsame]
    exact h.deployed other

/-- An exchange with a node that keeps who has deployed other clusters. -/
private theorem undisturbing_execute {host : String} (hhost : host ∈ c.hosts) {op : Operation}
    (hop : ∀ c' : ClusterSpec, (c.name, c.id) ≠ (c'.name, c'.id) → ∀ d status,
      Keeps c'.name c'.id d (d.receive status op).2) (n : Network) : c.Undisturbing n (n.execute host op).2 := by
  refine ⟨fun other hother => ?_, fun c' hne => relates_execute (fun _ => keeps_refl _ _) (hop c' hne) n⟩
  refine (n.device?_execute_of_ne ?_ op).symm
  rintro rfl
  exact hother hhost

/-! ### The phases of a creation -/

/-- The creation on all nodes. -/
private def nodesScope (c : ClusterSpec) : Scope :=
  ⟨(· ∈ c.hosts), fun host op => host ∈ c.hosts ∧ ∃ x, ∃ y ∈ c.createSends x, y.2 = op⟩

private theorem host_mem_hosts {x : ClusterNode} (hx : x ∈ c.nodes) : x.host ∈ c.hosts := List.mem_map_of_mem hx

variable {y : Dialogue (List Failure)} {s t : Network}

/-- The nodes are created as they are without other clusters. -/
private theorem secures_createNodes (hy : (Concurrent.fanOut c.nodes fun x => .only (c.createOn x)).MayBe y)
    (hst : c.Undisturbed t s) :
    y.Secures adapter c.Undisturbed c.Undisturbing
      (fun failures s' => failures = (y.run adapter t).1 ∧ c.Undisturbed (y.run adapter t).2 s') s := by
  have hcovered : (Concurrent.fanOut c.nodes fun x => .only (c.createOn x)).CoveredBy (fanOut c.nodes c.createOn) :=
    Concurrent.covered_fanOut fun _ _ => Concurrent.covered_only List.Perm.refl _
  have hstays : (fanOut c.nodes c.createOn).Stays c.nodesScope := by
    refine stays_fanOut fun x hx => (c.stays_createOn x).widen ⟨fun _ h => h ▸ host_mem_hosts hx, ?_⟩
    rintro _ op ⟨rfl, operation, hop⟩
    exact ⟨host_mem_hosts hx, x, _, hop, rfl⟩
  refine (hcovered.allStay hstays y hy).secures (R := fun s t => c.Undisturbed t s) (fun _ _ _ hs h => h.trans hs)
    (fun host credentials s t hhost h => ⟨undisturbing_refl c s, (h.nodes.login hhost credentials).1.symm, h⟩) ?_ hst
  rintro host op s t ⟨hhost, x, y, hy, rfl⟩ h
  obtain ⟨hanswer, hnodes⟩ := h.nodes.execute hhost (c.part_of_createSends x y hy).2
  exact ⟨undisturbing_execute hhost (fun c' hne d status => keeps_createSends hne hy d status) s, hanswer.symm,
    h.execute (hnodes host hhost)⟩

/-- The nodes that have deployed the cluster are polled as they are without other clusters. -/
private theorem secures_pollMembers (hy : (c.pollMembersConcurrently polling).MayBe y) (hst : c.Undisturbed t s)
    (hdeployed : ∀ host ∈ c.hosts, t.At host (hasDeployed c.name c.id · = true)) :
    y.Secures adapter c.Undisturbed c.Undisturbing
      (fun failures s' => failures = (y.run adapter t).1 ∧ c.Undisturbed (y.run adapter t).2 s') s := by
  have hstays := (c.covered_pollMembers polling).allStay (c.stays_pollMembers polling) y hy
  have hrecord : ∀ (n : Network) (host : String),
      (n.execute host .getClusterStatus).2.device? host = (n.device? host).map (·.record .getClusterStatus) := by
    intro n host
    rcases Option.eq_none_or_eq_some (n.device? host) with hd | ⟨d, hd⟩
    · rw [execute_of_absent hd, hd]
      rfl
    · rw [execute_of_device hd, device?_setDevice_self, d.receive_getClusterStatus, hd]
      rfl
  refine (hstays.secures
    (R := fun s t => c.Undisturbed t s ∧ ∀ host ∈ c.hosts, t.At host (hasDeployed c.name c.id · = true))
    (fun _ _ _ hs h => ⟨h.1.trans hs, h.2⟩) (fun host credentials s t hhost h =>
      ⟨undisturbing_refl c s, (h.1.nodes.login hhost credentials).1.symm, h⟩) ?_ ⟨hst, hdeployed⟩).mono
    fun _ _ h => ⟨h.1, h.2.1⟩
  rintro host op s t ⟨hhost, rfl⟩ ⟨h, hdeployed⟩
  refine ⟨undisturbing_execute hhost (fun c' _ d status => ?_) s,
    ((answersAlike_of_keeps h.deployed hdeployed) host hhost).2.symm, h.execute ?_, fun other hother => ?_⟩
  · rw [d.receive_getClusterStatus]
    exact ⟨rfl, rfl, rfl, rfl⟩
  · rw [hrecord, hrecord, h.nodes host hhost]
  · obtain ⟨d, hd, hd'⟩ := hdeployed other hother
    by_cases hsame : host = other
    · subst hsame
      exact ⟨d.record .getClusterStatus, (hrecord t host).trans (by rw [hd]; rfl), hd'⟩
    · exact ⟨d, (t.device?_execute_of_ne hsame _).trans hd, hd'⟩

/-! ### Single clusters -/

/-- Without force a cluster of not too many nodes is created in two phases. -/
private theorem mayBe_phases (hsize : c.nodes.length ≤ maxNodes) {x : Dialogue (List Failure)}
    (hx : (c.createConcurrently polling false).MayBe x) :
    (do
      let errors ← Concurrent.fanOut c.nodes fun x => .only (c.createOn x)
      if !errors.isEmpty then return errors
      c.pollMembersConcurrently polling : Concurrent (List Failure)).MayBe x := by
  unfold createConcurrently at hx
  rw [if_neg (by omega)] at hx
  obtain ⟨_, next, rfl, hnext, rfl⟩ := hx
  obtain ⟨y, following, hy, hfollowing, hrun⟩ := hnext []
  refine ⟨y, following, hy, fun errors => ?_, hrun⟩
  have hfollowing := hfollowing errors
  cases errors with
  | cons f rest => exact hfollowing
  | nil =>
    obtain ⟨z, last, hz, hlast, hrun⟩ := hfollowing
    have hsame : following [] = z := by
      rw [hrun, show last = pure from funext hlast, bind_pure]
    exact hsame ▸ hz

/-- Too many nodes are a failure. -/
private theorem eq_of_tooMany (hsize : ¬ c.nodes.length ≤ maxNodes) {x : Dialogue (List Failure)}
    (hx : (c.createConcurrently polling false).MayBe x) :
    ∃ f, x = pure [f] := by
  unfold createConcurrently at hx
  rw [if_pos (by omega)] at hx
  exact ⟨_, hx⟩

private theorem confluent_pollMembers : (c.pollMembersConcurrently polling).Confluent adapter Network.quiet := by
  refine Concurrent.confluent_asking (· ∈ c.hosts) fun x hx => ?_
  have hhost : x.host ∈ c.hosts := host_mem_hosts hx
  have hstatus : (Scope.asking (· ∈ c.hosts)).operations x.host .getClusterStatus := ⟨hhost, rfl⟩
  exact stays_pollOn x hhost hstatus polling _

section distinct

variable (hdistinct : c.nodes.Pairwise fun x y => x.host ≠ y.host)

include hdistinct

private theorem runsLike_createNodes :
    (Concurrent.fanOut c.nodes fun x => .only (c.createOn x)).RunsLike (fanOut c.nodes c.createOn) := by
  refine Concurrent.runsLike_each hdistinct (fun x _ => ⟨c.createScope x, c.stays_createOn x, c.createScope_local x⟩)
    fun x _ n f hf => ?_
  have hblames : n.Blames (· = x.host) (c.createOn x) := blames_createOn rfl
  exact (hblames.run (fun _ => rfl) f hf).host

/-- The cluster is created as it is without other clusters. -/
theorem secures_create {x : Dialogue (List Failure)} (hx : (c.createConcurrently polling false).MayBe x)
    (n : Network) :
    x.Secures adapter c.Undisturbed c.Undisturbing
      (fun failures n' => failures = (x.run adapter n).1 ∧ c.Undisturbed (x.run adapter n).2 n') n := by
  by_cases hsize : c.nodes.length ≤ maxNodes
  · obtain ⟨y, next, hy, hnext, rfl⟩ := mayBe_phases polling hsize hx
    refine ((secures_createNodes hy (undisturbed_refl c n)).mono ?_).bind (undisturbed_refl c)
    rintro _ s ⟨rfl, hs⟩
    rw [run_bind]
    by_cases hclean : (y.run adapter n).1 = []
    · have hnext := hnext (y.run adapter n).1
      rw [hclean] at hnext
      rw [hclean]
      refine secures_pollMembers polling hnext hs fun host hhost => ?_
      -- Created without a failure, all nodes have deployed the cluster.
      obtain ⟨x, hx, rfl⟩ := List.mem_map.1 hhost
      obtain ⟨hstate, hreport⟩ := runsLike_createNodes hdistinct y hy n
      have hcreated : ((fanOut c.nodes c.createOn).run adapter n).1 = [] :=
        ((runsLike_createNodes hdistinct).confluent y _ hy (Concurrent.mayBe_fanOut fun _ _ => rfl) n n rfl hclean).1
      obtain ⟨d, hd, hsettled⟩ := c.brings_createNodes hsize n trivial hcreated x hx
      rw [← hstate] at hd
      exact ⟨d, hd, hsettled.deployed (List.ne_nil_of_mem (List.mem_filter.2 ⟨hx, by simp⟩))⟩
    · have hlast : next (y.run adapter n).1 = pure (y.run adapter n).1 := by
        have hnext := hnext (y.run adapter n).1
        generalize (y.run adapter n).1 = errors at hclean hnext ⊢
        cases errors with
        | nil => exact absurd rfl hclean
        | cons f rest => exact hnext
      rw [hlast]
      exact secures_pure fun s' hs' => ⟨rfl, hs.trans hs'⟩
  · obtain ⟨f, rfl⟩ := eq_of_tooMany polling hsize hx
    exact secures_pure fun s' hs' => ⟨rfl, hs'⟩

/-- The schedule of the work on one cluster does not matter if there are no failures. -/
theorem confluent_create : (c.createConcurrently polling false).Confluent adapter Network.quiet := by
  intro x y hx hy
  by_cases hsize : c.nodes.length ≤ maxNodes
  · exact Concurrent.confluent_stop (runsLike_createNodes hdistinct).confluent (confluent_pollMembers polling) x y
      (mayBe_phases polling hsize hx) (mayBe_phases polling hsize hy)
  · obtain ⟨f, rfl⟩ := eq_of_tooMany polling hsize hx
    exact fun s t _ hclean => absurd hclean nofun

end distinct

/-! ### Nodes in common -/

/-- Devices that hold cluster objects hold objects of the same names and numbers afterwards. -/
private def Keeping (n n' : Network) : Prop :=
  n.Relates (fun _ d d' => ∀ name id, d.configuration.HoldsCluster name id → d'.configuration.HoldsCluster name id) n'

private theorem keeping_refl (n : Network) : Keeping n n := relates_refl (fun _ _ _ _ h => h) n

private theorem Keeping.trans (h : Keeping n n') (h' : Keeping n' n'') : Keeping n n'' :=
  Relates.trans (fun _ _ _ _ hd hd' name id hholds => hd' name id (hd name id hholds)) h h'

/-- The device at a host holds an object of the cluster. -/
private def HeldAt (c : ClusterSpec) (host : String) (n : Network) : Prop :=
  n.At host fun d => d.configuration.HoldsCluster c.name c.id

private theorem HeldAt.keep {host : String} (hn : c.HeldAt host n) (h : Keeping n n') : c.HeldAt host n' := by
  obtain ⟨d, hd, hholds⟩ := hn
  obtain ⟨d', hd', hkeeps⟩ := h.of_device hd
  exact ⟨d', hd', hkeeps c.name c.id hholds⟩

/-- What takes nothing away keeps cluster objects. -/
private theorem keeping_execute {op : Operation} (hpart : op.part = .cluster) (hclears : op.clears = false)
    (host : String) (n : Network) : Keeping n (n.execute host op).2 := by
  have hreplaces : op.replaces = false := by cases op <;> cases hpart <;> rfl
  refine relates_execute (fun _ _ _ _ h => h) (fun d status => ?_) n
  have hspared : d.Spared False (d.receive status op).2 := Device.spared_receive ⟨hreplaces, by simp [hclears]⟩ d status
  exact hspared.cluster not_false

/-- A device that accepts a cluster object holds it. -/
private theorem held_of_createCluster {host kind peer peerIp : String} {answer : Response}
    (h : (n.execute host (.createCluster c.name c.id kind peer peerIp)).1 = .ok answer) :
    c.HeldAt host (n.execute host (.createCluster c.name c.id kind peer peerIp)).2 := by
  rcases Option.eq_none_or_eq_some (n.device? host) with hd | ⟨d, hd⟩
  · rw [execute_of_absent hd] at h
    cases h
  · rcases execute_cases hd (.createCluster c.name c.id kind peer peerIp) with ⟨-, hrun⟩ | ⟨-, hop, -⟩ | ⟨-, -, hrun⟩
    · rw [hrun] at h
      cases h
    · cases hop
    · rw [hrun] at h ⊢
      refine ⟨_, device?_setDevice_self .., ?_⟩
      simp only [Operation.apply, Operation.createClusterObject, Operation.run_acknowledge, Step.run_bind,
        Step.run_get] at h ⊢
      rcases Option.eq_none_or_eq_some (d.configuration.cluster.filter fun o => !o.isNamed c.name c.id) with
        hfree | ⟨o, ho⟩
      · simp only [hfree]
        exact ⟨_, rfl, rfl, rfl⟩
      · simp only [ho] at h
        cases h

private theorem run_sendAll_send (host operation : String) (op : Operation) (rest : List ClusterStep) :
    (NodeWork.sendAll host (.send operation op :: rest)).run = .ask host op fun
      | .ok _ => (NodeWork.sendAll host rest).run
      | .error e => .done (.error ⟨operation, host, .step e⟩) :=
  congrArg (Dialogue.ask host op) (funext fun answer => by cases answer <;> rfl)

/-- Steps all of which were carried out leave the object that one of them made. -/
private theorem secures_sendAll {host : String} {steps : List ClusterStep}
    (hsteps : ∀ operation op, .send operation op ∈ steps → op.part = .cluster ∧ op.clears = false)
    (hmakes : ∃ operation op, .send operation op ∈ steps ∧
      ∀ (n : Network) answer, (n.execute host op).1 = .ok answer → c.HeldAt host (n.execute host op).2) (n : Network) :
    (NodeWork.sendAll host steps).run.Secures adapter Keeping Keeping
      (fun answer n' => answer = .ok ⟨⟩ → c.HeldAt host n') n := by
  induction steps generalizing n with
  | nil =>
    obtain ⟨operation, op, hmem, -⟩ := hmakes
    cases hmem
  | cons step rest ih =>
    have hrest : ∀ operation op, .send operation op ∈ rest → op.part = .cluster ∧ op.clears = false :=
      fun operation op hmem => hsteps operation op (List.mem_cons_of_mem step hmem)
    cases step with
    | refuse operation reason => exact fun _ _ hok => nomatch hok
    | send operation op =>
      rw [run_sendAll_send]
      intro n' hn
      obtain ⟨hpart, hclears⟩ := hsteps operation op List.mem_cons_self
      refine ⟨keeping_execute hpart hclears host n', ?_⟩
      rcases hanswer : (adapter.execute host op n').1 with e | answer
      · exact fun _ _ hok => nomatch hok
      · obtain ⟨operation', op', hmem, hmade⟩ := hmakes
        rcases List.mem_cons.1 hmem with heq | hmem
        · -- What was made just now, the later steps keep.
          obtain ⟨rfl, rfl⟩ := ClusterStep.send.inj heq
          have hstays : (NodeWork.sendAll host rest).FailsWithin
              ⟨(· = host), fun other op => other = host ∧ op.part = .cluster ∧ op.clears = false⟩ host :=
            NodeWork.failsWithin_sendAll fun operation op hmem => ⟨rfl, hrest operation op hmem⟩
          refine ((Within.secures_ends hstays (fun _ _ s _ => keeping_refl s)
            (fun other op s hop => keeping_execute hop.2.1 hop.2.2 other s) _).keeps
            (fun _ _ hn hheld => hheld.keep hn) (fun _ _ hn hheld => hheld.keep hn) (hmade n' answer hanswer)).mono
            fun _ _ h _ => h.2
        · exact ih hrest ⟨operation', op', hmem, hmade⟩ _

/-- A node holds the cluster object once it was created there without a failure, whatever others create. -/
private theorem secures_createOn (x : ClusterNode) (n : Network) :
    (c.createOn x).Secures adapter Keeping Keeping (fun failures n' => failures = [] → c.HeldAt x.host n') n := by
  refine secures_session keeping_refl (fun n' _ _ => ?_) fun _ _ _ _ _ _ hclean =>
    absurd hclean (List.cons_ne_nil _ _)
  have hmakes : ∃ operation op, .send operation op ∈ c.createSteps x ∧
      ∀ (n : Network) answer, (n.execute x.host op).1 = .ok answer → c.HeldAt x.host (n.execute x.host op).2 := by
    refine ⟨"Configure Cluster", .createCluster c.name c.id portChannelKind x.peerInterface.name x.peerIp, ?_,
      fun n answer => held_of_createCluster⟩
    simp [createSteps]
  refine ((secures_sendAll (fun _ _ => createSteps_keep) hmakes n').mono ?_).bind keeping_refl
  rintro (f | ⟨⟩) n'' h
  · exact secures_pure fun _ _ hclean => absurd hclean (List.cons_ne_nil _ _)
  · exact secures_pure fun _ hn _ => (h rfl).keep hn

variable (c) in
/-- So do all nodes of a cluster. -/
private theorem secures_held (n : Network) :
    (c.createConcurrently polling false).Secures adapter Keeping Keeping
      (fun failures n' => failures = [] → ∀ x ∈ c.nodes, c.HeldAt x.host n') n := by
  intro x hx
  by_cases hsize : c.nodes.length ≤ maxNodes
  · refine Concurrent.Secures.stop keeping_refl ?_ x (mayBe_phases polling hsize hx)
    refine (Concurrent.secures_fanOut (cooperate_all c.nodes Keeping fun _ _ _ => Keeping.trans) fun x _ =>
      Concurrent.secures_only (secures_createOn x n)).mono ?_
    rintro errors n' ⟨lists, hlists, hmerges⟩
    split
    · rename_i hclean
      have hheld : ∀ x ∈ c.nodes, c.HeldAt x.host n' := by
        intro x hx
        obtain ⟨list, hlist, hheld⟩ := exists_of_mem_forall₂ hlists.flip hx
        exact hheld (hmerges.eq_nil_iff.1 hclean list hlist)
      have hkeeps : ∀ n n', Keeping n n' → (∀ x ∈ c.nodes, c.HeldAt x.host n) → ∀ x ∈ c.nodes, c.HeldAt x.host n' :=
        fun _ _ hn h x hx => (h x hx).keep hn
      intro y hy
      have hstays := (c.covered_pollMembers polling).allStay (c.stays_pollMembers polling) y hy
      refine ((hstays.secures_ends (fun _ _ s _ => keeping_refl s) (fun host op s hop => ?_) n').keeps hkeeps hkeeps
        hheld).mono fun _ _ h _ => h.2
      rw [hop.2]
      exact keeping_execute rfl rfl host s
    · rename_i hfailed
      exact fun _ _ hclean => absurd hclean hfailed
  · obtain ⟨f, rfl⟩ := eq_of_tooMany polling hsize hx
    exact secures_pure fun _ _ hclean => nomatch hclean

/-- Clusters that are created at the same time without a failure have no node in common. -/
theorem apart_of_clean {clusters : List ClusterSpec}
    (hdistinct : clusters.Pairwise fun c c' => (c.name, c.id) ≠ (c'.name, c'.id)) {x : Dialogue (List Failure)}
    (hx : (Concurrent.fanOut clusters fun c => c.createConcurrently polling false).MayBe x)
    (hclean : (x.run adapter n).1 = []) : clusters.Pairwise fun c c' => c.hosts.Disjoint c'.hosts := by
  have hsecures : (Concurrent.fanOut clusters fun c => c.createConcurrently polling false).Secures adapter Keeping
      Keeping _ n := Concurrent.secures_fanOut (cooperate_all clusters Keeping fun _ _ _ => Keeping.trans)
    fun c _ => c.secures_held polling n
  obtain ⟨-, lists, hlists, hmerges⟩ := (hsecures x hx).run keeping_refl keeping_refl fun _ _ _ => Keeping.trans
  have hheld : ∀ c ∈ clusters, ∀ host ∈ c.hosts, c.HeldAt host (x.run adapter n).2 := by
    intro c hc host hhost
    obtain ⟨list, hlist, hheld⟩ := exists_of_mem_forall₂ hlists.flip hc
    obtain ⟨node, hnode, rfl⟩ := List.mem_map.1 hhost
    exact hheld (hmerges.eq_nil_iff.1 hclean list hlist) node hnode
  refine hdistinct.imp_of_mem fun {c c'} hc hc' hne host hhost hhost' => hne ?_
  -- A device holds one object.
  obtain ⟨d, hd, object, hobject, hname, hid⟩ := hheld c hc host hhost
  obtain ⟨d', hd', object', hobject', hname', hid'⟩ := hheld c' hc' host hhost'
  rw [hd] at hd'
  cases hd'
  rw [hobject] at hobject'
  cases hobject'
  rw [← hname, ← hid, ← hname', ← hid']

section apart

variable {clusters : List ClusterSpec} (hdistinct : clusters.Pairwise fun c c' => (c.name, c.id) ≠ (c'.name, c'.id))
  (hnodes : ∀ c ∈ clusters, c.nodes.Pairwise fun x y => x.host ≠ y.host)

include hdistinct hnodes

/-- Clusters that have no node in common are created as they are one by one, if there are no failures. -/
private theorem run_createAll_apart (hapart : clusters.Pairwise fun c c' => c.hosts.Disjoint c'.hosts)
    {x : Dialogue (List Failure)}
    (hx : (Concurrent.fanOut clusters fun c => c.createConcurrently polling false).MayBe x) (n : Network) :
    ((x.run adapter n).1 = [] ↔ ∀ c ∈ clusters, ((c.create polling false).run adapter n).1 = []) ∧
      ((x.run adapter n).1 = [] → ∀ c ∈ clusters, ∀ host ∈ c.hosts,
        (x.run adapter n).2.quiet.device? host = ((c.create polling false).run adapter n).2.quiet.device? host) ∧
      ∀ host, (∀ c ∈ clusters, host ∉ c.hosts) → (x.run adapter n).2.device? host = n.device? host := by
  have hco : Cooperate clusters Undisturbed Undisturbing (· = ·) (Agree fun host => ∀ c ∈ clusters, host ∉ c.hosts) := by
    refine ⟨fun _ _ _ _ _ => Undisturbed.trans, ?_, fun c hc _ _ h host hhost => h.others host (hhost c hc), ?_⟩
    · rintro c - n _ rfl
      exact undisturbed_refl c n
    · refine (hdistinct.and hapart).imp fun ⟨hne, hdisjoint⟩ => ⟨fun _ _ h => h.undisturbed hne hdisjoint, ?_⟩
      exact fun _ _ h => h.undisturbed hne.symm fun _ hhost hhost' => hdisjoint hhost' hhost
  have hsecures : (Concurrent.fanOut clusters fun c => c.createConcurrently polling false).Secures adapter _ _ _ n :=
    Concurrent.secures_fanOut (Q := fun c failures n' => ∃ z, (c.createConcurrently polling false).MayBe z ∧
      failures = (z.run adapter n).1 ∧ c.Undisturbed (z.run adapter n).2 n') hco
    fun c hc z hz => (secures_create polling (hnodes c hc) hz n).mono fun _ _ h => ⟨z, hz, h⟩
  obtain ⟨hothers, lists, hlists, hmerges⟩ := (hsecures x hx).run (fun _ => rfl) (fun _ _ _ => rfl)
    fun _ _ _ h h' host hhost => (h host hhost).trans (h' host hhost)
  have hlisted : ∀ c ∈ clusters, ∀ z, (c.createConcurrently polling false).MayBe z → (z.run adapter n).1 = [] →
      ((c.create polling false).run adapter n).1 = [] ∧
        (z.run adapter n).2.quiet = ((c.create polling false).run adapter n).2.quiet := fun c hc z hz =>
    confluent_create polling (hnodes c hc) z _ hz (c.mayBe_create polling false) n n rfl
  have hlisted' : ∀ c ∈ clusters, ∀ z, (c.createConcurrently polling false).MayBe z →
      ((c.create polling false).run adapter n).1 = [] → (z.run adapter n).1 = [] := fun c hc z hz hclean =>
    (confluent_create polling (hnodes c hc) _ z (c.mayBe_create polling false) hz n n rfl hclean).1
  refine ⟨hmerges.eq_nil_iff_forall hlists ?_, fun hclean c hc host hhost => ?_, fun host hhost => ?_⟩
  · rintro c hc list ⟨z, hz, rfl, -⟩
    exact ⟨fun h => (hlisted c hc z hz h).1, hlisted' c hc z hz⟩
  · obtain ⟨list, hlist, z, hz, rfl, hstate⟩ := exists_of_mem_forall₂ hlists.flip hc
    obtain ⟨-, hquiet⟩ := hlisted c hc z hz (hmerges.eq_nil_iff.1 hclean _ hlist)
    rw [← hquiet, device?_quiet, device?_quiet, hstate.nodes host hhost]
  · exact (hothers host hhost).symm

/-- Clusters of different names, none of which has two nodes on one device, may be created at the same time. -/
theorem confluent_createAll :
    (Concurrent.fanOut clusters fun c => c.createConcurrently polling false).Confluent adapter Network.quiet := by
  intro x y hx hy s t hst hclean
  have hapart := apart_of_clean polling hdistinct hx hclean
  obtain ⟨hreport, hclusters, hothers⟩ := run_createAll_apart polling hdistinct hnodes hapart hx s
  obtain ⟨hreport', hclusters', hothers'⟩ := run_createAll_apart polling hdistinct hnodes hapart hy t
  have hsame : ∀ c : ClusterSpec,
      ((c.create polling false).run adapter s).1 = ((c.create polling false).run adapter t).1 ∧
        ((c.create polling false).run adapter s).2.quiet = ((c.create polling false).run adapter t).2.quiet :=
    fun c => Network.shows_quiet.run (c.create polling false) hst
  have hclean' : (y.run adapter t).1 = [] := hreport'.2 fun c hc => (hsame c).1 ▸ hreport.1 hclean c hc
  refine ⟨hclean', ext_device? fun host => ?_⟩
  by_cases hhost : ∃ c ∈ clusters, host ∈ c.hosts
  · obtain ⟨c, hc, hhost⟩ := hhost
    rw [hclusters hclean c hc host hhost, hclusters' hclean' c hc host hhost, (hsame c).2]
  · have hnone : ∀ c ∈ clusters, host ∉ c.hosts := fun c hc hmem => hhost ⟨c, hc, hmem⟩
    rw [device?_quiet, device?_quiet, hothers host hnone, hothers' host hnone, ← device?_quiet, ← device?_quiet, hst]

end apart

end ClusterSpec

end FabricProvision

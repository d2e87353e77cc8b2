import FabricProvision.Proofs.Device.Local

/-!
# The status of clusters

Questions for the status of the cluster change nothing but journals, and networks that answer them alike cannot
be told apart by them (`Network.run_asking`).  Which members a device reports depends on the devices that have
deployed its cluster (`Network.clusterHosts_congr`).
-/

namespace FabricProvision

open Std (ExtTreeMap)
open Dialogue

/-- Logging in to certain hosts and asking them for the status of the cluster. -/
def Scope.asking (hosts : String → Prop) : Scope := ⟨hosts, fun host op => hosts host ∧ op = .getClusterStatus⟩

namespace Network

variable {n n' m m' : Network} {d d' : Device} {host : String} {hosts : String → Prop}
variable {name : String} {id : UInt32}

/-! ### Answers -/

/-- Both networks answer logins and questions for the status alike. -/
def AnswersAlike (hosts : String → Prop) (n n' : Network) : Prop :=
  ∀ host, hosts host → n.login host = n'.login host ∧
    (n.execute host .getClusterStatus).1 = (n'.execute host .getClusterStatus).1

theorem quiet_execute_status (n : Network) (host : String) :
    (n.execute host .getClusterStatus).2.quiet = n.quiet := by
  rcases Option.eq_none_or_eq_some (n.device? host) with hd | ⟨d, hd⟩
  · rw [execute_of_absent hd]
  · rw [execute_of_device hd]
    have hquiet : (d.receive (n.clusterStatus host) .getClusterStatus).2.quiet = d.quiet := by
      rw [d.receive_getClusterStatus]
      rfl
    refine ext_device? fun other => ?_
    simp only [device?_quiet, device?_setDevice]
    split
    · rename_i hother
      rw [← hother, hd, Option.map_some, Option.map_some, hquiet]
    · rfl

theorem AnswersAlike.congr (h : AnswersAlike hosts n n') (hn : n.quiet = m.quiet) (hn' : n'.quiet = m'.quiet) :
    AnswersAlike hosts m m' := by
  intro host hhost
  obtain ⟨hlogin, hanswer⟩ := h host hhost
  constructor
  · exact (shows_quiet.login host {} n m hn).1.symm.trans (hlogin.trans (shows_quiet.login host {} n' m' hn').1)
  · exact (shows_quiet.execute host _ n m hn).1.symm.trans (hanswer.trans (shows_quiet.execute host _ n' m' hn').1)

theorem AnswersAlike.trans (h : AnswersAlike hosts n n') (h' : AnswersAlike hosts n' m) : AnswersAlike hosts n m :=
  fun host hhost => ⟨(h host hhost).1.trans (h' host hhost).1, (h host hhost).2.trans (h' host hhost).2⟩

/-- Who only asks for the status changes nothing, and learns the same where the answers are alike. -/
theorem run_asking {α : Type} {x : Dialogue α} (hx : x.Stays (Scope.asking hosts)) (h : AnswersAlike hosts n n') :
    (x.run adapter n).1 = (x.run adapter n').1 ∧ (x.run adapter n).2.quiet = n.quiet ∧
      (x.run adapter n').2.quiet = n'.quiet := by
  have hrun := hx.run_simulation adapter adapter
    (R := fun m m' => m.quiet = n.quiet ∧ m'.quiet = n'.quiet)
    (fun host credentials m m' hhost ⟨hm, hm'⟩ => ⟨(h.congr hm.symm hm'.symm host hhost).1, hm, hm'⟩)
    (fun host op m m' hop ⟨hm, hm'⟩ => by
      obtain ⟨hhost, rfl⟩ := hop
      refine ⟨(h.congr hm.symm hm'.symm host hhost).2, ?_, ?_⟩
      · exact (quiet_execute_status m host).trans hm
      · exact (quiet_execute_status m' host).trans hm')
    ⟨rfl, rfl⟩
  exact ⟨hrun.1, hrun.2.1, hrun.2.2⟩

theorem quiet_of_asking {α : Type} {x : Dialogue α} (hx : x.Stays (Scope.asking hosts)) (n : Network) :
    (x.run adapter n).2.quiet = n.quiet := by
  have halike : AnswersAlike hosts n n := fun _ _ => ⟨rfl, rfl⟩
  exact (run_asking hx halike).2.1

/-! ### Members -/

theorem clusterHosts_congr (h : ∀ host, (n.device? host).map (hasDeployed name id) =
    (n'.device? host).map (hasDeployed name id)) : n.clusterHosts name id = n'.clusterHosts name id := by
  -- The hosts can be read off the maps that only say who has deployed the cluster.
  have hread : ∀ n : Network, n.clusterHosts name id =
      (((n.devices.map fun _ d => hasDeployed name id d).toList.filter fun (_, b) => b).map (·.1)) := by
    intro n
    rw [ExtTreeMap.toList_map, List.filter_map, List.map_map]
    rfl
  have hmaps : (n.devices.map fun _ d => hasDeployed name id d) =
      n'.devices.map fun _ d => hasDeployed name id d := by
    apply ExtTreeMap.ext_getElem?
    intro host
    rw [ExtTreeMap.getElem?_map, ExtTreeMap.getElem?_map]
    exact h host
  rw [hread n, hread n', hmaps]

private theorem alike_of_status (hd : n.device? host = some d) (hd' : n'.device? host = some d')
    (hlogin : d'.refusesLogin = d.refusesLogin) (hfailing : d'.failing = d.failing)
    (hstatus : n'.clusterStatus host = n.clusterStatus host) :
    n.login host = n'.login host ∧
      (n.execute host .getClusterStatus).1 = (n'.execute host .getClusterStatus).1 := by
  constructor
  · unfold login
    simp only [hd, hd', hlogin]
  · rw [execute_of_device hd, execute_of_device hd', hstatus]
    unfold Device.receive Device.record
    simp only [hfailing]
    split <;> rfl

/-- How a run goes on answering for a cluster: the faults stay, and so do those who have deployed the cluster. -/
structure Keeps (name : String) (id : UInt32) (d d' : Device) : Prop where
  refusesLogin : d'.refusesLogin = d.refusesLogin
  failing : d'.failing = d.failing
  statusOverride : d'.statusOverride = d.statusOverride
  deployed : hasDeployed name id d' = hasDeployed name id d

theorem keeps_refl (name : String) (id : UInt32) (d : Device) : Keeps name id d d := ⟨rfl, rfl, rfl, rfl⟩

theorem Keeps.trans {d'' : Device} (h : Keeps name id d d') (h' : Keeps name id d' d'') : Keeps name id d d'' :=
  ⟨h'.refusesLogin.trans h.refusesLogin, h'.failing.trans h.failing, h'.statusOverride.trans h.statusOverride,
    h'.deployed.trans h.deployed⟩

private theorem clusterHosts_of_keeps (h : n.Relates (fun _ => Keeps name id) n') :
    n'.clusterHosts name id = n.clusterHosts name id := by
  refine clusterHosts_congr fun host => ?_
  rcases Option.eq_none_or_eq_some (n.device? host) with hd | ⟨d, hd⟩
  · rw [hd, h.of_absent hd]
  · obtain ⟨d', hd', hkeeps⟩ := h.of_device hd
    rw [hd, hd', Option.map_some, Option.map_some, hkeeps.deployed]

theorem clusterStatus_of_deployed (hd : n.device? host = some d) (h : hasDeployed name id d = true) :
    n.clusterStatus host = d.statusOverride.getD (statusOf (n.clusterHosts name id)) := by
  unfold clusterStatus visibleHosts
  unfold hasDeployed Configuration.clusterNamed? at h
  rw [hd]
  obtain ⟨hdeployed, hnamed⟩ := Bool.and_eq_true_iff.1 h
  cases hcluster : d.configuration.cluster with
  | none => simp [hcluster] at hnamed
  | some object =>
    simp [hcluster, Option.filter, ClusterObject.isNamed] at hnamed
    obtain ⟨rfl, rfl⟩ := hnamed
    simp only [hcluster, hdeployed, if_true]

/-- The nodes of a cluster go on answering alike as long as the same devices have deployed it. -/
theorem answersAlike_of_keeps (h : n.Relates (fun _ => Keeps name id) n')
    (hhosts : ∀ host, hosts host → n.At host (hasDeployed name id · = true)) : AnswersAlike hosts n n' := by
  intro host hhost
  obtain ⟨d, hd, hdeployed⟩ := hhosts host hhost
  obtain ⟨d', hd', hkeeps⟩ := h.of_device hd
  refine alike_of_status hd hd' hkeeps.refusesLogin hkeeps.failing ?_
  rw [clusterStatus_of_deployed hd hdeployed, clusterStatus_of_deployed hd' (hkeeps.deployed.trans hdeployed),
    hkeeps.statusOverride, clusterHosts_of_keeps h]

/-! ### Devices with the same cluster object -/

/-- The devices only differ in what no status depends on. -/
structure SameCluster (d d' : Device) : Prop where
  refusesLogin : d'.refusesLogin = d.refusesLogin
  failing : d'.failing = d.failing
  statusOverride : d'.statusOverride = d.statusOverride
  cluster : d'.configuration.cluster = d.configuration.cluster
  deployed : d'.configuration.deployed = d.configuration.deployed

theorem SameCluster.keeps (h : SameCluster d d') : Keeps name id d d' := by
  refine ⟨h.refusesLogin, h.failing, h.statusOverride, ?_⟩
  unfold hasDeployed Configuration.clusterNamed?
  rw [h.cluster, h.deployed]

theorem sameCluster_of_follows {allowed : Operation → Prop} (h : d.Follows allowed d')
    (hparts : ∀ op, allowed op → op.part ≠ .cluster) : SameCluster d d' := by
  obtain ⟨-, -, -, -, -, hcluster, hdeployed⟩ := h.parts .cluster hparts
  exact ⟨h.refusesLogin, h.failing, h.statusOverride, hcluster, hdeployed⟩

/-- What is not about clusters leaves all statuses as they were. -/
theorem relates_sameCluster {α : Type} {scope : Scope} {x : Dialogue α} (hx : x.Stays scope)
    (hparts : ∀ host op, scope.operations host op → op.part ≠ .cluster) (n : Network) :
    n.Relates (fun _ => SameCluster) (x.run adapter n).2 :=
  (run_follows hx n).mono fun host _ _ hfollows => sameCluster_of_follows hfollows fun op => hparts host op

theorem answersAlike_of_same (h : n.Relates (fun _ => SameCluster) n') : AnswersAlike hosts n n' := by
  intro host _
  have hmembers : ∀ name id, n'.clusterHosts name id = n.clusterHosts name id := fun name id =>
    clusterHosts_of_keeps (h.mono fun _ _ _ hsame => hsame.keeps)
  rcases Option.eq_none_or_eq_some (n.device? host) with hd | ⟨d, hd⟩
  · have hd' := h.of_absent hd
    rw [execute_of_absent hd, execute_of_absent hd']
    unfold login
    rw [hd, hd']
    exact ⟨rfl, rfl⟩
  · obtain ⟨d', hd', hsame⟩ := h.of_device hd
    refine alike_of_status hd hd' hsame.refusesLogin hsame.failing ?_
    unfold clusterStatus visibleHosts
    simp only [hd, hd', hsame.statusOverride, hsame.cluster, hsame.deployed, hmembers]

end Network

end FabricProvision

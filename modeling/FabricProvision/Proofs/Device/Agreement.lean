import FabricProvision.Proofs.Device.Members

/-!
# Members agree on their cluster

Every host works out on its own who the members of its cluster are, by looking through all devices for the cluster
object that it has deployed itself.  Unless a status was fixed for a device, these views fit together: a host reports
itself and whoever has deployed the same cluster (`Network.mem_reports_iff`), in ascending order and with the first one
as the only principal (`ClusterStatus.LedBy`), and everyone that it reports says the same.  So the reported lists
partition the hosts, and members never name different principals (`Network.members_agree`).
-/

namespace FabricProvision

open Std (ExtTreeMap)

/-! ### Statuses with a leader -/

namespace ClusterStatus

/-- The status lists hosts in strictly ascending order, and the first of them is the only principal. -/
structure LedBy (s : ClusterStatus) (leader : String) : Prop where
  ascending : s.hosts.Pairwise (· < ·)
  first : s.hosts.head? = some leader
  principals : s.members.filter (·.isPrincipal) = [⟨leader, true⟩]

theorem LedBy.principal?_eq {s : ClusterStatus} {leader : String} (h : s.LedBy leader) :
    s.principal? = some leader := by
  rw [principal?, ← List.head?_filter, h.principals]
  rfl

theorem ledBy_statusOf {first : String} {rest : List String} (h : (first :: rest).Pairwise (· < ·)) :
    (Network.statusOf (first :: rest)).LedBy first where
  ascending := by rwa [Network.hosts_statusOf]
  first := rfl
  principals := by
    have hrest : (rest.map fun host => (⟨host, false⟩ : ClusterMember)).filter (·.isPrincipal) = [] := by
      simp [List.filter_eq_nil_iff]
    simp only [Network.statusOf, List.filter_cons_of_pos, hrest]

end ClusterStatus

namespace Network

variable {n : Network} {a b host : String} {d : Device}

/-! ### Who reports whom -/

/-- Both hosts have deployed the same cluster. -/
def Joined (n : Network) (a b : String) : Prop :=
  ∃ name id, n.At a (hasDeployed name id · = true) ∧ n.At b (hasDeployed name id · = true)

/-- A host reports itself and everyone that is in its cluster. -/
theorem mem_reports_iff (hn : n.Unoverridden) (ha : a ∈ n.hosts) : b ∈ n.reports a ↔ b = a ∨ n.Joined a b := by
  obtain ⟨d, hd⟩ := mem_hosts.1 ha
  constructor
  · intro hb
    unfold reports at hb
    rcases status_cases hn hd with ⟨name, id, hmem, hstatus⟩ | hstatus <;> rw [hstatus, hosts_statusOf] at hb
    · exact .inr ⟨name, id, mem_clusterHosts.1 hmem, mem_clusterHosts.1 hb⟩
    · exact .inl (List.mem_singleton.1 hb)
  · rintro (rfl | ⟨name, id, hmem, hb⟩)
    · exact mem_reports_self hn hd
    · unfold reports
      rw [status_of_deployed hn hmem, hosts_statusOf]
      exact mem_clusterHosts.2 hb

theorem mem_hosts_of_reports (hn : n.Unoverridden) (ha : a ∈ n.hosts) (hb : b ∈ n.reports a) : b ∈ n.hosts := by
  rcases (mem_reports_iff hn ha).1 hb with rfl | ⟨_, _, -, d, hd, -⟩
  · exact ha
  · exact mem_hosts.2 ⟨d, hd⟩

theorem exists_ledBy (hn : n.Unoverridden) (ha : a ∈ n.hosts) : ∃ leader, (n.clusterStatus a).LedBy leader := by
  obtain ⟨d, hd⟩ := mem_hosts.1 ha
  obtain ⟨hstatus, hascending⟩ := status_ascending hn a
  have hself := mem_reports_self hn hd
  rw [hstatus]
  cases hreports : n.reports a with
  | nil =>
    rw [hreports] at hself
    cases hself
  | cons first rest => exact ⟨first, ClusterStatus.ledBy_statusOf (hreports ▸ hascending)⟩

/-- The lists that hosts report do not overlap. -/
theorem existsUnique_reports (hn : n.Unoverridden) (hhost : host ∈ n.hosts) :
    ∃! group, group ∈ n.hosts.map n.reports ∧ host ∈ group := by
  obtain ⟨d, hd⟩ := mem_hosts.1 hhost
  refine ⟨n.reports host, ⟨List.mem_map_of_mem hhost, mem_reports_self hn hd⟩, ?_⟩
  rintro group ⟨hgroup, hmem⟩
  obtain ⟨a, -, rfl⟩ := List.mem_map.1 hgroup
  exact (reports_of_mem hn hmem).symm

/-- A device that does not refuse the question answers it with the status. -/
theorem answer_getClusterStatus (hd : n.device? host = some d) :
    (n.execute host .getClusterStatus).1 =
      if d.failing.contains Operation.getClusterStatus.name then
        .error (.rejected Operation.getClusterStatus.name Rejection.injected.message)
      else .ok (.clusterStatus (n.clusterStatus host)) := by
  rcases execute_cases hd .getClusterStatus with ⟨hfailing, h⟩ | ⟨hfailing, -, h⟩ | ⟨-, hop, -⟩
  · rw [h, if_pos hfailing]
  · rw [h, if_neg (by simp [hfailing])]
  · exact absurd rfl hop

/-- The members of a cluster agree on it.  Whoever is asked answers with its status, which lists the host itself and
those that have deployed the same cluster, and is led by its first host; everyone that it lists has the same status and
so the same principal.  Each host is in exactly one of the lists, and there is nobody else in them. -/
theorem members_agree (hn : n.Unoverridden) :
    (∀ a ∈ n.hosts,
      (∃ d, n.device? a = some d ∧ (n.execute a .getClusterStatus).1 =
        if d.failing.contains Operation.getClusterStatus.name then
          .error (.rejected Operation.getClusterStatus.name Rejection.injected.message)
        else .ok (.clusterStatus (n.clusterStatus a))) ∧
      (∀ b, b ∈ n.reports a ↔ b = a ∨ n.Joined a b) ∧
      ∃ leader, (n.clusterStatus a).LedBy leader ∧
        ∀ b ∈ n.reports a, n.clusterStatus b = n.clusterStatus a ∧ (n.clusterStatus b).principal? = some leader) ∧
    (∀ host ∈ n.hosts, ∃! group, group ∈ n.hosts.map n.reports ∧ host ∈ group) ∧
    ∀ group ∈ n.hosts.map n.reports, group ⊆ n.hosts := by
  refine ⟨fun a ha => ⟨?_, fun b => mem_reports_iff hn ha, ?_⟩, fun host hhost => existsUnique_reports hn hhost, ?_⟩
  · obtain ⟨d, hd⟩ := mem_hosts.1 ha
    exact ⟨d, hd, answer_getClusterStatus hd⟩
  · obtain ⟨leader, hled⟩ := exists_ledBy hn ha
    refine ⟨leader, hled, fun b hb => ?_⟩
    have hsame : n.clusterStatus b = n.clusterStatus a := status_of_mem hn hb
    exact ⟨hsame, hsame ▸ hled.principal?_eq⟩
  · intro group hgroup
    obtain ⟨a, ha, rfl⟩ := List.mem_map.1 hgroup
    exact fun b hb => mem_hosts_of_reports hn ha hb

/-- Two leaves that have deployed a cluster, a third one that has taken it out of operation, and one with another
cluster of the same name. -/
def namesakes : Network :=
  let pair : Seed := { cluster := some ⟨"pair", 1, none, "Port-channel", "64", "10.2.0.1"⟩ }
  let other : Seed := { cluster := some ⟨"pair", 2, none, "Port-channel", "64", "10.2.0.1"⟩ }
  let seeded := (((Network.ofHosts ["leaf-4"]).seed "leaf-3" pair).seed "leaf-2" pair).seed "leaf-1" pair
  ((seeded.seed "leaf-5" other).execute "leaf-3" (.undeployCluster "pair" 1)).2

/-- The first two leaves report the pair and its first leaf as principal, and the third one is not in it. -/
theorem namesakes_agree :
    namesakes.Unoverridden ∧ namesakes.hosts = ["leaf-1", "leaf-2", "leaf-3", "leaf-4", "leaf-5"] ∧
      "leaf-1" ∈ namesakes.reports "leaf-2" ∧ "leaf-3" ∉ namesakes.reports "leaf-2" ∧
      (namesakes.clusterStatus "leaf-1").principal? = some "leaf-1" ∧
      namesakes.clusterStatus "leaf-1" = namesakes.clusterStatus "leaf-2" := by
  have hunoverridden : namesakes.Unoverridden := by decide +kernel
  have hhosts : namesakes.hosts = ["leaf-1", "leaf-2", "leaf-3", "leaf-4", "leaf-5"] := by decide +kernel
  obtain ⟨hmembers, -⟩ := members_agree hunoverridden
  obtain ⟨-, -, leader, hled, hsame⟩ := hmembers "leaf-2" (by simp [hhosts])
  have hfirst : (namesakes.clusterStatus "leaf-2").hosts = ["leaf-1", "leaf-2"] := by decide +kernel
  have hleader : leader = "leaf-1" := by
    have hhead := hled.first
    rw [hfirst] at hhead
    exact (Option.some.inj hhead).symm
  have hmem : "leaf-1" ∈ namesakes.reports "leaf-2" := by
    unfold reports
    rw [hfirst]
    simp
  refine ⟨hunoverridden, hhosts, hmem, ?_, hleader ▸ (hsame "leaf-1" hmem).2, (hsame "leaf-1" hmem).1⟩
  unfold reports
  rw [hfirst]
  decide

end Network

end FabricProvision

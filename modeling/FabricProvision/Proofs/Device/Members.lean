import FabricProvision.Proofs.Device.Status
import Mathlib.Data.Fintype.EquivFin
import Mathlib.Data.List.Perm.Subperm

/-!
# Who reports whom

As long as no device reports a status that was fixed for it, a device that has deployed a cluster reports the
devices that have deployed the same one, and every other device reports itself.  So the hosts of a network fall
into groups whose members all report the group (`Network.reports_of_mem`), in ascending order and each host
once.

Whether the reported members are the intended ones is decided by counting them and looking each of them up, which is
enough for lists like these.  A status that lists a host twice fits other members as well (`ClusterStatus.fits_exact`).
-/

namespace FabricProvision

open Std (ExtTreeMap)
open Dialogue

/-! ### Intended members -/

namespace ClusterStatus

theorem fits_iff {s : ClusterStatus} {intended : List String} :
    s.fits intended = true ↔ s.hosts.length = intended.length ∧ s.hosts ⊆ intended := by
  unfold fits hosts
  rw [Bool.and_eq_true, beq_iff_eq, List.length_map, List.all_eq_true]
  simp [List.subset_def]

/-- A status counts the members and looks each of them up.  If it lists no host twice, it fits only if the members
are all that are intended, each of them intended once. -/
theorem fits_iff_perm {s : ClusterStatus} {intended : List String} (h : s.hosts.Nodup) :
    s.fits intended = true ↔ s.hosts.Perm intended := by
  rw [fits_iff]
  constructor
  · rintro ⟨hlength, hsubset⟩
    exact (h.subperm hsubset).perm_of_length_le (by omega)
  · intro hperm
    exact ⟨hperm.length_eq, hperm.subset⟩

/-- Where a host is listed twice, any other one may be intended in place of one of the two. -/
theorem exists_fits_of_not_nodup {s : ClusterStatus} (h : ¬ s.hosts.Nodup) :
    ∃ intended, s.fits intended = true ∧ ¬ s.hosts.Perm intended := by
  obtain ⟨host, hcount⟩ : ∃ host, 1 < s.hosts.count host := by
    simpa only [List.nodup_iff_count_le_one, not_forall, Nat.not_le] using h
  obtain ⟨other, hother⟩ := Infinite.exists_notMem_finset s.hosts.toFinset
  rw [List.mem_toFinset] at hother
  have hmem : host ∈ s.hosts := List.count_pos_iff.1 (Nat.lt_trans Nat.zero_lt_one hcount)
  refine ⟨other :: s.hosts.erase host, fits_iff.2 ⟨?_, fun x hx => ?_⟩, fun hperm => ?_⟩
  · rw [List.length_cons, List.length_erase_of_mem hmem, Nat.sub_add_cancel (List.length_pos_of_mem hmem)]
  · by_cases hhost : x = host
    · -- One of the two stays.
      subst hhost
      refine List.mem_cons_of_mem other (List.count_pos_iff.1 ?_)
      rw [List.count_erase_self]
      omega
    · exact List.mem_cons_of_mem other ((List.mem_erase_of_ne hhost).2 hx)
  · exact hother (hperm.mem_iff.2 List.mem_cons_self)

/-- A status fits its members in any order.  That it fits only these is so exactly if it lists no host twice. -/
theorem fits_exact (s : ClusterStatus) :
    (∀ intended, s.hosts.Perm intended → s.fits intended = true) ∧
      (s.hosts.Nodup ↔ ∀ intended, s.fits intended = true ↔ s.hosts.Perm intended) := by
  refine ⟨fun intended hperm => fits_iff.2 ⟨hperm.length_eq, hperm.subset⟩, fun h intended => fits_iff_perm h, ?_⟩
  intro hexact
  by_contra hdup
  obtain ⟨intended, hfits, hperm⟩ := exists_fits_of_not_nodup hdup
  exact hperm ((hexact intended).1 hfits)

/-- A host that is listed twice fits a pair of which the other one is missing. -/
theorem repeated_fits :
    let s : ClusterStatus := ⟨[⟨"10.24.0.1", true⟩, ⟨"10.24.0.1", false⟩]⟩
    s.fits ["10.24.0.1", "10.24.0.2"] = true ∧ ¬ s.hosts.Perm ["10.24.0.1", "10.24.0.2"] := by
  decide

/-- A pair fits in the other order as well, but not its first host twice. -/
theorem pair_fits :
    let s : ClusterStatus := ⟨[⟨"10.24.0.1", true⟩, ⟨"10.24.0.2", false⟩]⟩
    s.fits ["10.24.0.2", "10.24.0.1"] = true ∧ s.fits ["10.24.0.1", "10.24.0.1"] = false := by
  intro s
  have hfits : s.fits ["10.24.0.2", "10.24.0.1"] = true := (fits_exact s).1 _ (by decide)
  have hnot : ¬ s.fits ["10.24.0.1", "10.24.0.1"] = true := fun h =>
    absurd (((fits_exact s).2.1 (by decide) _).1 h) (by decide)
  exact ⟨hfits, Bool.eq_false_iff.2 hnot⟩

end ClusterStatus

namespace Network

variable {n : Network} {d : Device} {host other : String} {name : String} {id : UInt32}

/-! ### Statuses of their own -/

/-- No device reports a status that was fixed for it. -/
def Unoverridden (n : Network) : Prop := ∀ host, n.If host fun d => d.statusOverride = none

theorem unoverridden_iff : n.Unoverridden ↔ ∀ e ∈ n.devices.toList, e.2.statusOverride = none := by
  constructor
  · rintro h ⟨host, d⟩ he
    exact h host d (ExtTreeMap.mem_toList_iff_getElem?_eq_some.1 he)
  · intro h host d hd
    exact h (host, d) (ExtTreeMap.mem_toList_iff_getElem?_eq_some.2 hd)

instance (n : Network) : Decidable n.Unoverridden := decidable_of_iff _ unoverridden_iff.symm

theorem Unoverridden.run {α : Type} (h : n.Unoverridden) (x : Dialogue α) :
    (x.run adapter n).2.Unoverridden := by
  intro host
  refine (h host).run (stays_any x) fun d d' hfollows hd => ?_
  rw [hfollows.statusOverride]
  exact hd

/-! ### Members of a cluster -/

theorem mem_clusterHosts : host ∈ n.clusterHosts name id ↔ n.At host (hasDeployed name id · = true) := by
  unfold clusterHosts
  simp only [List.mem_map, List.mem_filter, Prod.exists, exists_and_right, exists_eq_right,
    ExtTreeMap.mem_toList_iff_getElem?_eq_some]
  exact Iff.rfl

/-- The members of a cluster are listed in ascending order. -/
theorem clusterHosts_ascending (n : Network) (name : String) (id : UInt32) :
    (n.clusterHosts name id).Pairwise (· < ·) := by
  have hkeys : n.devices.toList.Pairwise fun a b => compare a.1 b.1 = .lt := ExtTreeMap.ordered_keys_toList
  refine List.pairwise_map.2 ((hkeys.filter _).imp fun h => ?_)
  exact compareOfLessAndEq_eq_lt.1 h

private theorem nodup_of_ascending {hosts : List String} (h : hosts.Pairwise (· < ·)) : hosts.Nodup := by
  refine h.imp fun {a b} hlt => ?_
  rintro rfl
  exact String.lt_irrefl a hlt

theorem nodup_clusterHosts (n : Network) (name : String) (id : UInt32) : (n.clusterHosts name id).Nodup :=
  nodup_of_ascending (n.clusterHosts_ascending name id)

/-! ### What devices report -/

/-- The hosts that a host reports as the members of its cluster. -/
def reports (n : Network) (host : String) : List String := (n.clusterStatus host).hosts

theorem hosts_statusOf (hosts : List String) : (statusOf hosts).hosts = hosts := by
  cases hosts with
  | nil => rfl
  | cons first rest => simp [statusOf, ClusterStatus.hosts, Function.comp_def]

theorem status_of_deployed (hn : n.Unoverridden) (h : n.At host (hasDeployed name id · = true)) :
    n.clusterStatus host = statusOf (n.clusterHosts name id) := by
  obtain ⟨d, hd, hdeployed⟩ := h
  rw [clusterStatus_of_deployed hd hdeployed, hn host d hd]
  rfl

/-- A device reports the cluster that it has deployed, or itself. -/
theorem status_cases (hn : n.Unoverridden) (hd : n.device? host = some d) :
    (∃ name id, host ∈ n.clusterHosts name id ∧ n.clusterStatus host = statusOf (n.clusterHosts name id)) ∨
      n.clusterStatus host = statusOf [host] := by
  by_cases hdeployed : ∃ name id, hasDeployed name id d = true
  · obtain ⟨name, id, hdeployed⟩ := hdeployed
    have hat : n.At host (hasDeployed name id · = true) := ⟨d, hd, hdeployed⟩
    exact .inl ⟨name, id, mem_clusterHosts.2 hat, status_of_deployed hn hat⟩
  · right
    have hvisible : n.visibleHosts host d.configuration = [host] := by
      unfold visibleHosts
      split
      · rename_i object hcluster
        rw [if_neg]
        intro hdeploy
        refine hdeployed ⟨object.name, object.id, ?_⟩
        simp [hasDeployed, Configuration.clusterNamed?, hcluster, hdeploy, Option.filter, ClusterObject.isNamed]
      · rfl
    unfold clusterStatus
    simp only [hd, hn host d hd, hvisible, Option.getD_none]

theorem status_of_free (hn : n.Unoverridden) (hd : n.device? host = some d)
    (hcluster : d.configuration.cluster = none) : n.clusterStatus host = statusOf [host] := by
  unfold clusterStatus visibleHosts
  simp only [hd, hn host d hd, hcluster, Option.getD_none]

theorem status_of_absent (hd : n.device? host = none) : n.clusterStatus host = {} := by
  unfold clusterStatus
  rw [hd]

/-- Whoever is reported reports the same. -/
theorem status_of_mem (hn : n.Unoverridden) (h : other ∈ n.reports host) :
    n.clusterStatus other = n.clusterStatus host := by
  unfold reports at h
  rcases Option.eq_none_or_eq_some (n.device? host) with hd | ⟨d, hd⟩
  · rw [status_of_absent hd] at h
    cases h
  rcases status_cases hn hd with ⟨name, id, -, hstatus⟩ | hstatus
  · rw [hstatus, hosts_statusOf] at h
    rw [hstatus, status_of_deployed hn (mem_clusterHosts.1 h)]
  · rw [hstatus, hosts_statusOf] at h
    cases List.mem_singleton.1 h
    rfl

theorem reports_of_mem (hn : n.Unoverridden) (h : other ∈ n.reports host) : n.reports other = n.reports host := by
  unfold reports
  rw [status_of_mem hn h]

/-- A device is among those that it reports. -/
theorem mem_reports_self (hn : n.Unoverridden) (hd : n.device? host = some d) : host ∈ n.reports host := by
  unfold reports
  rcases status_cases hn hd with ⟨name, id, hmem, hstatus⟩ | hstatus
  · rw [hstatus, hosts_statusOf]
    exact hmem
  · rw [hstatus, hosts_statusOf]
    exact List.mem_singleton_self host

/-- A status lists hosts in ascending order, and the first of them is its principal. -/
theorem status_ascending (hn : n.Unoverridden) (host : String) :
    n.clusterStatus host = statusOf (n.reports host) ∧ (n.reports host).Pairwise (· < ·) := by
  unfold reports
  rcases Option.eq_none_or_eq_some (n.device? host) with hd | ⟨d, hd⟩
  · rw [status_of_absent hd]
    exact ⟨rfl, .nil⟩
  rcases status_cases hn hd with ⟨name, id, -, hstatus⟩ | hstatus
  · rw [hstatus, hosts_statusOf]
    exact ⟨rfl, n.clusterHosts_ascending name id⟩
  · rw [hstatus, hosts_statusOf]
    exact ⟨rfl, List.pairwise_singleton ..⟩

theorem nodup_reports (hn : n.Unoverridden) (host : String) : (n.reports host).Nodup :=
  nodup_of_ascending (status_ascending hn host).2

end Network

end FabricProvision

import FabricProvision.Proofs.Device.Members
import FabricProvision.Proofs.Provision.Alphabets

/-!
# What polling finds out

Polling changes nothing but journals, so every question of a poll gets the same answer.  A node is polled without
a failure exactly if it accepts the login, tells its status, the status is the intended one, and there is time
for at least one question (`ClusterSpec.pollOn_clean`).  So polling several nodes is polling each of them in the
same network (`ClusterSpec.pollAll_clean`).
-/

namespace FabricProvision

open Dialogue

/-- There is time for a question if the interval is not longer than the time allowed. -/
theorem Polling.queries_pos {p : Polling} (h : p.interval.nanos ≤ p.timeout.nanos) : 0 < p.queries := by
  unfold queries
  split
  · exact Nat.one_pos
  · rename_i hnonzero
    have hceil : p.interval.ceilMillis ≤ p.timeout.ceilMillis := by
      unfold Duration.ceilMillis
      exact Nat.div_le_div_right (by omega)
    exact Nat.div_pos hceil (Nat.pos_of_ne_zero hnonzero)

namespace Network

variable {n m : Network} {host : String} {intended : List String}

/-! ### Questions for the status -/

/-- The device at a host answers questions for the status of the cluster. -/
def Tells (host : String) (n : Network) : Prop :=
  n.At host fun d => d.failing.contains Operation.getClusterStatus.name = false

/-- The device at a host accepts logins and answers questions for the status. -/
def Answers (host : String) (n : Network) : Prop := n.At host (·.refusesLogin = false) ∧ n.Tells host

theorem Answers.run {α : Type} (h : n.Answers host) (x : Dialogue α) : (x.run adapter n).2.Answers host := by
  refine ⟨h.1.run (stays_any x) fun d d' hfollows hd => ?_, At.run h.2 (stays_any x) fun d d' hfollows hd => ?_⟩
  · rw [hfollows.refusesLogin]
    exact hd
  · rw [hfollows.failing]
    exact hd

theorem Tells.congr (h : n.Tells host) (hquiet : n.quiet = m.quiet) : m.Tells host :=
  At.congr h hquiet fun _ _ hde hd => (Device.parts_of_quiet hde).2.1 ▸ hd

theorem Answers.congr (h : n.Answers host) (hquiet : n.quiet = m.quiet) : m.Answers host := by
  refine ⟨h.1.congr hquiet fun d e hde hd => ?_, h.2.congr hquiet⟩
  exact (Device.parts_of_quiet hde).1.symm.trans hd

theorem status_congr (hquiet : n.quiet = m.quiet) (host : String) : n.clusterStatus host = m.clusterStatus host := by
  rw [← clusterStatus_quiet n, ← clusterStatus_quiet m, hquiet]

theorem quiet_query_status (n : Network) (host : String) :
    ((query host .getClusterStatus Response.toClusterStatus).run adapter n).2.quiet = n.quiet :=
  have hasked : (Scope.asking fun _ => True).operations host .getClusterStatus := ⟨trivial, rfl⟩
  quiet_of_asking (within_query hasked) n

theorem query_status_eq_ok {status : ClusterStatus} :
    ((query host .getClusterStatus Response.toClusterStatus).run adapter n).1 = .ok status ↔
      n.Tells host ∧ status = n.clusterStatus host := by
  have hexecute : adapter.execute host .getClusterStatus n = n.execute host .getClusterStatus := rfl
  rw [run_query, hexecute]
  rcases Option.eq_none_or_eq_some (n.device? host) with hd | ⟨d, hd⟩
  · rw [execute_of_absent hd]
    constructor
    · rintro ⟨⟩
    · rintro ⟨⟨d, hd', -⟩, -⟩
      rw [hd] at hd'
      cases hd'
  · rw [execute_of_device hd]
    rcases d.receive_cases (n.clusterStatus host) .getClusterStatus with ⟨hfail, h⟩ | ⟨hfail, -, h⟩ | ⟨-, hne, -⟩
    · rw [h]
      constructor
      · rintro ⟨⟩
      · rintro ⟨⟨d', hd', hfail'⟩, -⟩
        rw [hd] at hd'
        cases hd'
        rw [hfail] at hfail'
        cases hfail'
    · rw [h]
      constructor
      · rintro ⟨⟩
        exact ⟨⟨d, hd, hfail⟩, rfl⟩
      · rintro ⟨-, rfl⟩
        rfl
    · exact absurd rfl hne

/-- A poll succeeds if the first question does. -/
theorem pollMembership_eq_ok {queries : Nat} :
    ((pollMembership host intended queries).run adapter n).1 = .ok ⟨⟩ ↔
      0 < queries ∧ n.Tells host ∧ (n.clusterStatus host).fits intended = true := by
  induction queries generalizing n with
  | zero => simp [pollMembership, run_pure]
  | succ queries ih =>
    -- The next questions are asked of a network that only has longer journals.
    have hquiet := n.quiet_query_status host
    have hlater : ((pollMembership host intended queries).run adapter
        ((query host .getClusterStatus Response.toClusterStatus).run adapter n).2).1 = .ok ⟨⟩ →
          n.Tells host ∧ (n.clusterStatus host).fits intended = true := by
      intro h
      obtain ⟨-, htells, hfits⟩ := ih.1 h
      exact ⟨htells.congr hquiet, status_congr hquiet host ▸ hfits⟩
    rw [pollMembership, run_bind]
    have hanswer : ∀ status, ((query host .getClusterStatus Response.toClusterStatus).run adapter n).1 = .ok status ↔
        n.Tells host ∧ status = n.clusterStatus host := fun _ => query_status_eq_ok
    generalize (query host .getClusterStatus Response.toClusterStatus).run adapter n = r at hanswer hlater
    obtain ⟨answer, n'⟩ := r
    cases answer with
    | error e =>
      have hsilent : ¬ n.Tells host := fun h => by cases (hanswer _).2 ⟨h, rfl⟩
      exact ⟨fun h => absurd (hlater h).1 hsilent, fun h => absurd h.2.1 hsilent⟩
    | ok status =>
      obtain ⟨htells, rfl⟩ := (hanswer status).1 rfl
      dsimp only
      split
      · rename_i hfits
        exact ⟨fun _ => ⟨Nat.succ_pos _, htells, hfits⟩, fun _ => rfl⟩
      · rename_i hfits
        exact ⟨fun h => absurd (hlater h).2 hfits, fun h => absurd h.2.2 hfits⟩

end Network

namespace ClusterSpec

open Network

variable {polling : Polling} {n : Network}

/-! ### Polling nodes -/

theorem pollOn_clean {intended : List String} {x : ClusterNode} :
    ((pollOn polling intended x).run adapter n).1 = [] ↔
      0 < polling.queries ∧ n.Answers x.host ∧ (n.clusterStatus x.host).fits intended = true := by
  have hwork : ((step "Poll for management cluster status" x.host
      (pollMembership x.host intended polling.queries)).run adapter n).1 = [] ↔
        0 < polling.queries ∧ n.Tells x.host ∧ (n.clusterStatus x.host).fits intended = true := by
    rw [← pollMembership_eq_ok, run_step]
    generalize (pollMembership x.host intended polling.queries).run adapter n = r
    obtain ⟨answer, n'⟩ := r
    cases answer <;> simp
  constructor
  · intro h
    obtain ⟨d, hd, hlogin⟩ := device_of_session h
    unfold pollOn at h
    rw [run_session_of_device hd hlogin, hwork] at h
    exact ⟨h.1, ⟨⟨d, hd, hlogin⟩, h.2.1⟩, h.2.2⟩
  · rintro ⟨hqueries, ⟨⟨d, hd, hlogin⟩, htells⟩, hfits⟩
    unfold pollOn
    rw [run_session_of_device hd hlogin, hwork]
    exact ⟨hqueries, htells, hfits⟩

private theorem stays_pollOn_asking (polling : Polling) (intended : List String) (x : ClusterNode) :
    (pollOn polling intended x).Stays (Scope.asking fun _ => True) := by
  have hasked : (Scope.asking fun _ => True).operations x.host .getClusterStatus := ⟨trivial, rfl⟩
  exact stays_pollOn x trivial hasked polling _

theorem quiet_pollAll (nodes : List ClusterNode) (intended : ClusterNode → List String) (n : Network) :
    ((fanOut nodes fun x => pollOn polling (intended x) x).run adapter n).2.quiet = n.quiet :=
  quiet_of_asking (stays_fanOut fun x _ => stays_pollOn_asking polling (intended x) x) n

/-- Polling several nodes is polling each of them in the same network. -/
theorem pollAll_clean {nodes : List ClusterNode} {intended : ClusterNode → List String} :
    ((fanOut nodes fun x => pollOn polling (intended x) x).run adapter n).1 = [] ↔
      ∀ x ∈ nodes, 0 < polling.queries ∧ n.Answers x.host ∧ (n.clusterStatus x.host).fits (intended x) = true := by
  induction nodes generalizing n with
  | nil => simp [fanOut, run_collect_nil]
  | cons x rest ih =>
    have hquiet := quiet_of_asking (stays_pollOn_asking polling (intended x) x) n
    have hrest : ∀ y : ClusterNode, ((pollOn polling (intended x) x).run adapter n).2.Answers y.host ↔
        n.Answers y.host := fun y => ⟨(·.congr hquiet), (·.congr hquiet.symm)⟩
    have hcollect : (fanOut rest fun x => pollOn polling (intended x) x) =
      collect (rest.map fun x => pollOn polling (intended x) x) := rfl
    rw [fanOut, List.map_cons, run_collect_cons, List.append_eq_nil_iff, ← hcollect, ih, pollOn_clean,
      List.forall_mem_cons]
    simp only [hrest, status_congr hquiet]

theorem pollMembers_clean {c : ClusterSpec} : ((c.pollMembers polling).run adapter n).1 = [] ↔
    ∀ x ∈ c.nodes, 0 < polling.queries ∧ n.Answers x.host ∧ (n.clusterStatus x.host).fits c.hosts = true :=
  pollAll_clean

end ClusterSpec

end FabricProvision

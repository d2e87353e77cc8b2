import FabricProvision.Proofs.Provision.Polls

/-!
# Principals

Whom the questions for principals take for one.  Each answer is about a whole group of hosts that report each
other, and names the smallest of them as the principal.  Groups do not overlap, so answers never contradict each
other, and a host that is known already is in a group that is known (`FabricRequest.knows_findPrincipals`).
-/

namespace FabricProvision

open Std (ExtTreeMap)
open Dialogue

/-! ### Heads of ascending lists -/

/-- An ascending list starts with its smallest element. -/
private theorem head?_eq_some_iff {hosts : List String} (h : hosts.Pairwise (· < ·)) (host : String) :
    hosts.head? = some host ↔ host ∈ hosts ∧ ∀ other ∈ hosts, host ≤ other := by
  cases hosts with
  | nil => simp
  | cons first rest =>
    obtain ⟨hfirst, -⟩ := List.pairwise_cons.1 h
    constructor
    · rintro ⟨⟩
      refine ⟨List.mem_cons_self .., List.forall_mem_cons.2 ⟨String.le_refl host, fun other hother => ?_⟩⟩
      exact String.not_lt.1 (String.lt_asymm (hfirst other hother))
    · rintro ⟨hmem, hsmallest⟩
      rcases List.mem_cons.1 hmem with rfl | hmem
      · rfl
      · exact absurd (hfirst host hmem) (String.not_lt.2 (hsmallest first (List.mem_cons_self ..)))

namespace Network

variable {n m : Network} {host : String}

/-- The host is the smallest of those that some of the asked hosts report, or none of them reports it. -/
def Leads (asked : List String) (n : Network) (host : String) : Prop :=
  (∀ m ∈ asked, host ∉ n.reports m) ∨ ∃ m ∈ asked, host ∈ n.reports m ∧ ∀ other ∈ n.reports m, host ≤ other

instance (asked : List String) (n : Network) (host : String) : Decidable (n.Leads asked host) :=
  inferInstanceAs (Decidable (_ ∨ _))

/-- A host that reports a smaller one does not lead. -/
theorem not_leads (hn : n.Unoverridden) {asked : List String} {m other : String} (hm : m ∈ asked)
    (hhost : host ∈ n.reports m) (hother : other ∈ n.reports m) (hlt : other < host) : ¬ n.Leads asked host := by
  rintro (hnone | ⟨m', -, hhost', hsmallest⟩)
  · exact hnone m hm hhost
  · -- Both groups are the one that the host itself reports.
    have hsame : n.reports m' = n.reports m := (reports_of_mem hn hhost').symm.trans (reports_of_mem hn hhost)
    rw [hsame] at hsmallest
    exact String.not_lt.2 (hsmallest other hother) hlt

end Network

namespace FabricRequest

open Network

variable {n : Network} {known : Principals} {asked : List String}

/-! ### What answers tell -/

private theorem getElem?_addStatus {hosts : List String} (h : hosts.Nodup) (known : Principals) (host : String) :
    (addStatus known (statusOf hosts))[host]? =
      if host ∈ hosts then some (decide (hosts.head? = some host)) else known[host]? := by
  have hkeys : ((statusOf hosts).members.map fun m => (m.host, m.isPrincipal)).map Prod.fst = hosts := by
    rw [List.map_map]
    exact hosts_statusOf hosts
  unfold addStatus
  split
  · rename_i hmem
    refine ExtTreeMap.getElem?_insertMany_list_of_mem Std.ReflCmp.compare_self ?_ ?_
    · have hdistinct : (((statusOf hosts).members.map fun m => (m.host, m.isPrincipal)).map Prod.fst).Nodup :=
        hkeys.symm ▸ h
      exact (List.pairwise_map.1 hdistinct).imp fun hne heq => hne (Std.LawfulEqOrd.compare_eq_iff_eq.1 heq)
    · cases hosts with
      | nil => cases hmem
      | cons first rest =>
        obtain ⟨hfirst, -⟩ := List.nodup_cons.1 h
        rcases List.mem_cons.1 hmem with rfl | hmem
        · simp [statusOf]
        · have hne : first ≠ host := fun heq => hfirst (heq ▸ hmem)
          simp [statusOf, hmem, hne]
  · rename_i hmem
    refine ExtTreeMap.getElem?_insertMany_list_of_contains_eq_false ?_
    rw [hkeys]
    simpa using hmem

/-- What is known of the principals after hosts were asked: of everyone that they report, whether it is the
smallest of its group, and of nobody else anything. -/
structure Knows (n : Network) (asked : List String) (known : Principals) : Prop where
  grouped : ∀ m ∈ asked, ∀ host ∈ n.reports m, known[host]? = some (decide ((n.reports m).head? = some host))
  others : ∀ host, (∀ m ∈ asked, host ∉ n.reports m) → known[host]? = none

theorem knows_empty (n : Network) : Knows n [] ∅ := ⟨by simp, fun _ _ => by simp⟩

/-- A host that is known belongs to a group that is known. -/
private theorem Knows.skip (hn : n.Unoverridden) (h : Knows n asked known) {first : String}
    (hknown : known.contains first = true) : Knows n (asked ++ [first]) known := by
  have hgroup : ∃ m ∈ asked, first ∈ n.reports m := by
    apply Classical.byContradiction
    intro hnone
    have habsent := h.others first fun m hm hmem => hnone ⟨m, hm, hmem⟩
    rw [ExtTreeMap.contains_eq_isSome_getElem?, habsent] at hknown
    cases hknown
  obtain ⟨m, hm, hfirst⟩ := hgroup
  refine ⟨fun m' hm' host hhost => ?_, fun host hhost => h.others host fun m' hm' => hhost m' (by simp [hm'])⟩
  rcases List.mem_append.1 hm' with hm' | hm'
  · exact h.grouped m' hm' host hhost
  · cases List.mem_singleton.1 hm'
    rw [reports_of_mem hn hfirst] at hhost ⊢
    exact h.grouped m hm host hhost

/-- The later word on a host is the same as the earlier one. -/
private theorem Knows.add (hn : n.Unoverridden) (h : Knows n asked known) (first : String) :
    Knows n (asked ++ [first]) (addStatus known (n.clusterStatus first)) := by
  have hnodup := nodup_reports hn first
  rw [(status_ascending hn first).1]
  refine ⟨fun m hm host hhost => ?_, fun host hhost => ?_⟩
  · rw [getElem?_addStatus hnodup]
    split
    · rename_i hfirst
      rw [← reports_of_mem hn hfirst, ← reports_of_mem hn hhost]
    · rename_i hfirst
      rcases List.mem_append.1 hm with hm | hm
      · exact h.grouped m hm host hhost
      · cases List.mem_singleton.1 hm
        exact absurd hhost hfirst
  · rw [getElem?_addStatus hnodup, if_neg (hhost first (by simp))]
    exact h.others host fun m hm => hhost m (by simp [hm])

/-- Only who is known not to be a principal does not lead. -/
theorem Knows.leads_iff (hn : n.Unoverridden) (h : Knows n asked known) (host : String) :
    n.Leads asked host ↔ known[host]? ≠ some false := by
  by_cases hgroup : ∃ m ∈ asked, host ∈ n.reports m
  · obtain ⟨m, hm, hhost⟩ := hgroup
    have hsmallest := head?_eq_some_iff (status_ascending hn m).2 host
    rw [h.grouped m hm host hhost]
    constructor
    · rintro (hnone | ⟨m', -, hhost', hfirst⟩)
      · exact absurd hhost (hnone m hm)
      · have hsame : n.reports m' = n.reports m := (reports_of_mem hn hhost').symm.trans (reports_of_mem hn hhost)
        rw [hsame] at hfirst
        simp [hsmallest.2 ⟨hhost, hfirst⟩]
    · intro hknown
      have hhead : (n.reports m).head? = some host := by simpa using hknown
      exact .inr ⟨m, hm, hsmallest.1 hhead⟩
  · have hnone : ∀ m ∈ asked, host ∉ n.reports m := fun m hm hhost => hgroup ⟨m, hm, hhost⟩
    rw [h.others host hnone]
    exact ⟨fun _ => by simp, fun _ => .inl hnone⟩

/-! ### Asking -/

private theorem inquire_of_answers {host : String} (h : n.Answers host) (credentials : Credentials) :
    ((ClusterStatus.inquire host credentials).run adapter n).1 = .ok (n.clusterStatus host) ∧
      ((ClusterStatus.inquire host credentials).run adapter n).2.quiet = n.quiet := by
  have hquiet : ((ClusterStatus.inquire host credentials).run adapter n).2.quiet = n.quiet := by
    have hstays : (ClusterStatus.inquire host credentials).Stays (Scope.asking fun _ => True) :=
      (stays_inquire host credentials).widen ⟨fun _ _ => trivial, fun _ _ hop => ⟨trivial, hop⟩⟩
    exact quiet_of_asking hstays n
  refine ⟨?_, hquiet⟩
  obtain ⟨⟨d, hd, hlogin⟩, htells⟩ := h
  have hconnect : adapter.login host credentials n = (.ok ⟨⟩, n) := congrArg (·, n) (login_of_device hd hlogin)
  have hanswer := query_status_eq_ok.2 ⟨htells, rfl⟩
  rw [ClusterStatus.inquire, run_bind, run_connect, hconnect]
  simp only [run_bind, run_pure, hanswer]
  rfl

/-- The hosts of the first nodes of clusters. -/
def firstHosts (clusters : List ClusterSpec) : List String := clusters.filterMap fun c => c.nodes.head?.map (·.host)

theorem knows_findPrincipals (hn : n.Unoverridden) {clusters : List ClusterSpec}
    (hanswers : ∀ host ∈ firstHosts clusters, n.Answers host) (h : Knows n asked known) :
    Knows n (asked ++ firstHosts clusters) ((findPrincipals known clusters).run adapter n).1 := by
  -- While hosts are asked nothing but journals changes, so the groups stay what they are.
  suffices hall : ∀ m : Network, m.quiet = n.quiet →
      Knows n (asked ++ firstHosts clusters) ((findPrincipals known clusters).run adapter m).1 from hall n rfl
  induction clusters generalizing known asked with
  | nil =>
    intro m _
    simpa [firstHosts, findPrincipals, run_pure] using h
  | cons c rest ih =>
    intro m hm
    rcases hhead : c.nodes.head? with _ | first
    · have hhosts : firstHosts (c :: rest) = firstHosts rest := by simp [firstHosts, hhead]
      rw [hhosts] at hanswers ⊢
      simp only [findPrincipals, hhead]
      exact ih hanswers h m hm
    · have hhosts : firstHosts (c :: rest) = first.host :: firstHosts rest := by simp [firstHosts, hhead]
      rw [hhosts] at hanswers
      obtain ⟨hfirst, hrest⟩ := List.forall_mem_cons.1 hanswers
      have happend : asked ++ firstHosts (c :: rest) = (asked ++ [first.host]) ++ firstHosts rest := by
        rw [hhosts, List.append_assoc]
        rfl
      rw [happend]
      simp only [findPrincipals, hhead]
      split
      · rename_i hknown
        exact ih hrest (h.skip hn hknown) m hm
      · obtain ⟨hanswer, hquiet⟩ := inquire_of_answers (hfirst.congr hm.symm) first.credentials
        rw [run_bind, hanswer]
        dsimp only
        refine ih hrest ?_ _ (hquiet.trans hm)
        rw [status_congr hm]
        exact h.add hn first.host

end FabricRequest

end FabricProvision

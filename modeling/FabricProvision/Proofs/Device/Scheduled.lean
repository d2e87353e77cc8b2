import FabricProvision.Proofs.Device.Apart
import FabricProvision.Proofs.Device.Status
import FabricProvision.Proofs.Dialogue.Confluence
import FabricProvision.Proofs.Dialogue.Covered
import FabricProvision.Proofs.Provision.Reports

/-!
# Schedules of work apart

Pieces of work whose hosts are apart do not notice each other, whatever the schedule: each reports what it reports
alone, and leaves its hosts as it leaves them alone (`Network.secures_apart`).  Concurrent work on hosts apart
therefore leads to the network that the list-order schedule leads to, and to the same failures at each host
(`Concurrent.runsLike_fanOut`).
-/

namespace FabricProvision

open Dialogue

/-- A session is opened or not as the network stands by then. -/
theorem Concurrent.secures_session {rely guar : Network → Network → Prop} {Q : List Failure → Network → Prop}
    {operation host : String} {credentials : Credentials} {work : Concurrent (List Failure)} {n : Network}
    (hguar : ∀ n, guar n n)
    (hwork : ∀ n', rely n n' → n'.login host = .ok ⟨⟩ → work.Secures Network.adapter rely guar Q n')
    (hrefused : ∀ n' n'' e, rely n n' → n'.login host = .error e → rely n' n'' → Q [⟨operation, host, .login e⟩] n'') :
    (session operation host credentials work).Secures Network.adapter rely guar Q n := by
  rintro _ ⟨_, next, rfl, hnext, rfl⟩ n' hn
  refine ⟨hguar n', ?_⟩
  show (next (n'.login host)).Secures Network.adapter rely guar Q n'
  have hnext := hnext (n'.login host)
  rcases hlogin : n'.login host with e | u <;> rw [hlogin] at hnext
  · have hlast : next (.error e) = pure [⟨operation, host, .login e⟩] := hnext
    rw [hlast]
    exact fun n'' hn' => hrefused n' n'' e hn hlogin hn'
  · exact hwork n' hn hlogin _ hnext

namespace Network

/-- Two networks are the same if they agree at the places of some targets and elsewhere. -/
theorem eq_of_agree {ι : Type} (targets : List ι) (place : ι → String → Prop) {n n' : Network}
    (hplaces : ∀ a ∈ targets, n.Agree (place a) n')
    (hothers : ∀ host, (∀ a ∈ targets, ¬ place a host) → n.device? host = n'.device? host) : n = n' := by
  refine ext_device? fun host => ?_
  by_cases hhost : ∃ a ∈ targets, place a host
  · obtain ⟨a, ha, hplace⟩ := hhost
    exact hplaces a ha host hplace
  · exact hothers host fun a ha hplace => hhost ⟨a, ha, hplace⟩

theorem secures_session {rely guar : Network → Network → Prop} {Q : List Failure → Network → Prop}
    {operation host : String} {credentials : Credentials} {work : Dialogue (List Failure)} {n : Network}
    (hguar : ∀ n, guar n n)
    (hwork : ∀ n', rely n n' → n'.login host = .ok ⟨⟩ → work.Secures adapter rely guar Q n')
    (hrefused : ∀ n' n'' e, rely n n' → n'.login host = .error e → rely n' n'' → Q [⟨operation, host, .login e⟩] n'') :
    (session operation host credentials work).Secures adapter rely guar Q n :=
  Concurrent.secures_session hguar (fun n' hn hlogin => Concurrent.secures_only (hwork n' hn hlogin)) hrefused _
    (Concurrent.mayBe_session rfl)

/-- Whatever others do elsewhere, work does at its hosts what it does alone. -/
theorem secures_apart {scope : Scope} {hosts : String → Prop} {x : Dialogue (List Failure)} (hx : x.Stays scope)
    (hscope : scope.Confined hosts) (n : Network) :
    x.Secures adapter (Agree hosts) (Agree fun host => ¬ hosts host)
      (fun failures n' => failures = (x.run adapter n).1 ∧ n'.Agree hosts (x.run adapter n).2) n := by
  refine hx.secures (R := Agree hosts) (fun m m' t hm hR host hhost => (hm host hhost).symm.trans (hR host hhost))
    (fun host credentials m t hlogin hR => ⟨fun _ _ => rfl, hR.login (hscope.logins host hlogin) credentials⟩)
    (fun host op m t hop hR => ?_) fun _ _ => rfl
  obtain ⟨hhost, hstatus⟩ := hscope.operations host op hop
  refine ⟨fun other hother => (m.device?_execute_of_ne ?_ op).symm, hR.execute hhost hstatus⟩
  rintro rfl
  exact hother hhost

end Network

/-! ### Work that runs like a dialogue -/

namespace Concurrent

/-- Under every schedule the work leads to the network that a dialogue leads to, and to the same failures at each
host. -/
def RunsLike (work : Concurrent (List Failure)) (z : Dialogue (List Failure)) : Prop :=
  ∀ x, work.MayBe x → ∀ n : Network, (x.run Network.adapter n).2 = (z.run Network.adapter n).2 ∧
    ∀ host, Failure.ofHost host (x.run Network.adapter n).1 = Failure.ofHost host (z.run Network.adapter n).1

theorem runsLike_only (x : Dialogue (List Failure)) : (only x).RunsLike x := by
  rintro _ rfl n
  exact ⟨rfl, fun _ => rfl⟩

/-- Work that runs like a dialogue is confluent. -/
theorem RunsLike.confluent {work : Concurrent (List Failure)} {z : Dialogue (List Failure)} (h : work.RunsLike z) :
    work.Confluent Network.adapter Network.quiet := by
  have hnil : ∀ {fs gs : List Failure}, (∀ host, Failure.ofHost host fs = Failure.ofHost host gs) → fs = [] →
      gs = [] := by
    rintro fs gs hsame rfl
    refine List.eq_nil_iff_forall_not_mem.2 fun f hf => ?_
    have hfound : f ∈ Failure.ofHost f.host gs := Failure.mem_ofHost.2 ⟨hf, rfl⟩
    rw [← hsame f.host] at hfound
    cases hfound
  intro x y hx hy n m hnm hclean
  obtain ⟨hstate, hreport⟩ := h x hx n
  obtain ⟨hstate', hreport'⟩ := h y hy m
  obtain ⟨hanswer, hquiet⟩ := Network.shows_quiet.run z hnm
  refine ⟨hnil (fun host => (hreport' host).symm) (hanswer.symm.trans (hnil hreport hclean)), ?_⟩
  rw [hstate, hstate', hquiet]

theorem runsLike_collect {works : List (Concurrent (List Failure))} {zs : List (Dialogue (List Failure))}
    (h : List.Forall₂ RunsLike works zs) : (collect works).RunsLike (Dialogue.collect zs) := by
  induction h with
  | nil => exact runsLike_only _
  | @cons work z works zs hwork _ ih =>
    rintro _ ⟨y, next, hy, hnext, rfl⟩ n
    obtain ⟨hstate, hreport⟩ := hwork y hy n
    obtain ⟨rest, last, hrest, hlast, hnext⟩ := hnext (y.run Network.adapter n).1
    obtain ⟨hstate', hreport'⟩ := ih rest hrest (y.run Network.adapter n).2
    have hrun : (y >>= next).run Network.adapter n =
        ((y.run Network.adapter n).1 ++ (rest.run Network.adapter (y.run Network.adapter n).2).1,
          (rest.run Network.adapter (y.run Network.adapter n).2).2) := by
      rw [run_bind, hnext, run_bind, hlast]
      rfl
    rw [hrun, run_collect_cons, ← hstate]
    refine ⟨hstate', fun host => ?_⟩
    unfold Failure.ofHost at hreport hreport' ⊢
    rw [List.filter_append, List.filter_append, hreport host, hreport' host]

theorem runsLike_session {operation host : String} {credentials : Credentials} {work : Concurrent (List Failure)}
    {z : Dialogue (List Failure)} (h : work.RunsLike z) :
    (session operation host credentials work).RunsLike (Dialogue.session operation host credentials z) := by
  rintro _ ⟨y, next, rfl, hnext, rfl⟩ n
  rw [run_session, run_bind, run_connect]
  have hnext := hnext (Network.adapter.login host credentials n).1
  generalize Network.adapter.login host credentials n = r at hnext ⊢
  obtain ⟨answer, n'⟩ := r
  cases answer with
  | ok _ => exact h _ hnext n'
  | error e =>
    have hfailed : next (.error e) = pure [⟨operation, host, .login e⟩] := hnext
    dsimp only
    rw [hfailed]
    exact ⟨rfl, fun _ => rfl⟩

/-- Questions for the status of clusters do not disturb each other. -/
theorem confluent_asking {ι : Type} {targets : List ι} {work : ι → Dialogue (List Failure)} (hosts : String → Prop)
    (hwork : ∀ a ∈ targets, (work a).Stays (Scope.asking hosts)) :
    (fanOut targets fun a => only (work a)).Confluent Network.adapter Network.quiet := by
  have hrun : ∀ x, (fanOut targets fun a => only (work a)).MayBe x → ∀ n,
      ((x.run Network.adapter n).1 = [] ↔ ∀ a ∈ targets, ((work a).run Network.adapter n).1 = []) ∧
        (x.run Network.adapter n).2.quiet = n.quiet := by
    intro x hx n
    have hrefl : ∀ m : Network, m.quiet = m.quiet := fun _ => rfl
    have htrans : ∀ m m' m'' : Network, m.quiet = m'.quiet → m'.quiet = m''.quiet → m.quiet = m''.quiet :=
      fun _ _ _ => Eq.trans
    have hsecures : (fanOut targets fun a => only (work a)).Secures Network.adapter _ _ _ n := secures_fanOut
      (Q := fun a failures _ => failures = ((work a).run Network.adapter n).1) (cooperate_all targets _ htrans)
      fun a ha => secures_only <| (Dialogue.Within.secures (hwork a ha) (R := fun (m t : Network) => m.quiet = t.quiet)
          (fun _ _ _ hm h => hm.symm.trans h)
          (fun host credentials m t _ h => ⟨rfl, Network.shows_quiet.login host credentials m t h⟩)
          (fun host op m t hop h => ⟨hop.2 ▸ (m.quiet_execute_status host).symm,
            Network.shows_quiet.execute host op m t h⟩) rfl).mono fun _ _ h => h.1
    obtain ⟨hquiet, lists, hlists, hmerges⟩ := (hsecures x hx).run hrefl hrefl htrans
    exact ⟨hmerges.eq_nil_iff_forall hlists fun a _ list hlist => by rw [hlist], hquiet.symm⟩
  intro x y hx hy s t hst hclean
  obtain ⟨hreport, hquiet⟩ := hrun x hx s
  obtain ⟨hreport', hquiet'⟩ := hrun y hy t
  refine ⟨hreport'.2 fun a ha => ?_, hquiet.trans (hst.trans hquiet'.symm)⟩
  rw [← (Network.shows_quiet.run (work a) hst).1]
  exact hreport.1 hclean a ha

section apart

variable {ι : Type} {targets : List ι} {place : ι → String → Prop} {work : ι → Concurrent (List Failure)}
  {z : ι → Dialogue (List Failure)} (hapart : targets.Pairwise fun a b => ∀ host, place a host → ¬ place b host)
  (hlike : ∀ a ∈ targets, (work a).RunsLike (z a)) (hcovered : ∀ a ∈ targets, (work a).CoveredBy (z a))
  (hwork : ∀ a ∈ targets, ∃ scope : Scope, (z a).Stays scope ∧ scope.Confined (place a))

include hapart hlike hcovered hwork

/-- Each piece of work reports what it reports on the network as it was in the beginning, and leaves its hosts as it
leaves them then; the other hosts stay as they were. -/
private theorem run_fanOut_apart {x : Dialogue (List Failure)} (hx : (fanOut targets work).MayBe x) (n : Network) :
    let r := x.run Network.adapter n
    (∃ lists, List.Forall₂ (fun a list => (∀ host, Failure.ofHost host list =
        Failure.ofHost host ((z a).run Network.adapter n).1) ∧
          r.2.Agree (place a) ((z a).run Network.adapter n).2) targets lists ∧ Merges lists r.1) ∧
      ∀ host, (∀ a ∈ targets, ¬ place a host) → r.2.device? host = n.device? host := by
  have hco : Cooperate targets (fun a => Network.Agree (place a)) (fun a => Network.Agree fun host => ¬ place a host)
      (· = ·) (Network.Agree fun host => ∀ a ∈ targets, ¬ place a host) := by
    refine ⟨fun _ _ _ _ _ h h' host hhost => (h host hhost).trans (h' host hhost), ?_,
      fun a ha _ _ h host hhost => h host (hhost a ha), ?_⟩
    · rintro a - n _ rfl host -
      rfl
    · refine hapart.imp fun {a b} hab => ⟨fun _ _ h host hb => h host fun ha => hab host ha hb, ?_⟩
      exact fun _ _ h host ha => h host (hab host ha)
  have hsecures : (fanOut targets work).Secures Network.adapter _ _ _ n := secures_fanOut
    (Q := fun a list n' => (∀ host, Failure.ofHost host list = Failure.ofHost host ((z a).run Network.adapter n).1) ∧
      n'.Agree (place a) ((z a).run Network.adapter n).2) hco fun a ha task htask => by
      obtain ⟨scope, hstays, hscope⟩ := hwork a ha
      obtain ⟨hstate, hreport⟩ := hlike a ha task htask n
      refine (Network.secures_apart ((hcovered a ha).allStay hstays task htask) hscope n).mono ?_
      rintro _ n' ⟨rfl, hagree⟩
      exact ⟨hreport, hstate ▸ hagree⟩
  obtain ⟨hothers, hlists⟩ := (hsecures x hx).run (fun _ => rfl) (fun _ _ _ => rfl)
    fun _ _ _ h h' host hhost => (h host hhost).trans (h' host hhost)
  exact ⟨hlists, fun host hhost => (hothers host hhost).symm⟩

variable (place) in
/-- Of work on targets whose hosts are apart, the schedule does not matter. -/
theorem runsLike_fanOut (hblames : ∀ a ∈ targets, ∀ n, ∀ f ∈ ((z a).run Network.adapter n).1, place a f.host) :
    (fanOut targets work).RunsLike (Dialogue.fanOut targets z) := by
  intro x hx n
  obtain ⟨⟨lists, hlists, hmerges⟩, hothers⟩ := run_fanOut_apart hapart hlike hcovered hwork hx n
  obtain ⟨hreports', hplaces', hothers'⟩ := Network.run_fanOut_apart hapart hwork n
  refine ⟨Network.eq_of_agree targets place (fun a ha host hhost => ?_) fun host hhost => ?_, fun host => ?_⟩
  · obtain ⟨list, -, -, hagree⟩ := exists_of_mem_forall₂ hlists.flip ha
    rw [hagree host hhost, hplaces' a ha host hhost]
  · rw [hothers host hhost, hothers' host hhost]
  · -- At most one of the pieces reports failures of the host.
    have hlone := Failure.ofHost_lone hapart (fun a ha => hblames a ha n) host
    have hmap : targets.map (fun a => Failure.ofHost host ((z a).run Network.adapter n).1) =
        lists.map (Failure.ofHost host) := by
      rw [← List.forall₂_eq_eq_eq, List.forall₂_map_left_iff, List.forall₂_map_right_iff]
      exact hlists.imp fun a list h => (h.1 host).symm
    have hmerged : Merges (lists.map (Failure.ofHost host)) (Failure.ofHost host (x.run Network.adapter n).1) :=
      hmerges.filter (·.host == host)
    rw [← hmap] at hmerged
    rw [hmerged.eq_flatten (List.pairwise_map.2 hlone), hreports']
    unfold Failure.ofHost
    rw [List.filter_flatMap]
    rfl

end apart

/-- Of work on targets that each talks to one host of its own, the schedule does not matter. -/
theorem runsLike_each {ι : Type} {targets : List ι} {host : ι → String} {work : ι → Dialogue (List Failure)}
    (hdistinct : targets.Pairwise fun a b => host a ≠ host b)
    (hwork : ∀ a ∈ targets, ∃ scope : Scope, (work a).Stays scope ∧ scope.Local (host a))
    (hblames : ∀ a ∈ targets, ∀ n, ∀ f ∈ ((work a).run Network.adapter n).1, f.host = host a) :
    (fanOut targets fun a => only (work a)).RunsLike (Dialogue.fanOut targets work) :=
  runsLike_fanOut (fun a other => other = host a)
    (hdistinct.imp fun hne _ ha hb => hne (ha.symm.trans hb)) (fun _ _ => runsLike_only _)
    (fun _ _ => covered_only List.Perm.refl _) (fun a ha => (hwork a ha).imp fun _ h => ⟨h.1, h.2.confined⟩) hblames

end Concurrent

end FabricProvision

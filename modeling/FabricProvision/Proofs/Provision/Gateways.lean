import FabricProvision.Proofs.Provision.Formed
import FabricProvision.Proofs.Provision.Policy
import FabricProvision.Proofs.Provision.Principals
import FabricProvision.Proofs.Provision.Reached

/-!
# Who gets an overlay gateway

The switches of a management cluster share one overlay gateway, which its principal holds.  Once switches and
clusters are done without failures, no other member of a cluster that was updated or created is sent an operation
about overlay gateways, and every other switch that is to have one gets its step, in the order of the request
(`FabricRequest.configure_gateways`).
-/

namespace FabricProvision

open Dialogue Network

/-! ### Hosts that answer -/

namespace ClusterSpec

variable (c : ClusterSpec) (polling : Polling) (force : Bool)

def Answering (n : Network) : Prop := ∀ x ∈ c.nodes, n.Answers x.host

theorem brings_answering {action : ClusterAction} (haction : action ≠ .delete) :
    Brings adapter (fun _ => True) (c.reconcile polling action force) c.Answering := by
  have hpolls : Brings adapter (fun _ => True) (c.pollMembers polling) c.Answering :=
    fun n _ hclean x hx => (pollMembers_clean.1 hclean x hx).2.1.run _
  cases action with
  | create =>
    exact (brings_reconcile_create force).weaken (fun _ h => h) fun n h x hx =>
      (pollMembers_clean.1 h.polled x hx).2.1
  | update => exact brings_collect_cons (brings_true _) (brings_collect_cons hpolls brings_collect_nil)
  | delete => exact absurd rfl haction

theorem keeps_answering (x : Dialogue (List Failure)) : Brings adapter c.Answering x c.Answering :=
  fun _ h _ y hy => (h y hy).run x

private theorem brings_answering_each {clusters : List ClusterSpec} {work : ClusterSpec → Dialogue (List Failure)}
    (h : ∀ c ∈ clusters, Brings adapter (fun _ => True) (work c) c.Answering) :
    Brings adapter (fun _ => True) (fanOut clusters work) fun n => ∀ c ∈ clusters, c.Answering n := by
  refine brings_all fun c hc => ?_
  -- Clusters may share nodes, but whoever answered goes on to answer whatever else is done.
  exact brings_fanOut_mem hc (List.pairwise_of_forall fun _ _ => trivial) (fun _ _ _ => brings_true _) (h c hc)
    fun b _ _ => c.keeps_answering (work b)

end ClusterSpec

namespace FabricRequest

variable (polling : Polling) (force : Bool) (r : FabricRequest) (save : Bool)

/-- When the cluster stage is done, all nodes of the clusters that were updated or created answer. -/
theorem brings_reconcileClusters (batches : ClusterBatches) :
    Brings adapter (fun _ => True) (reconcileClusters polling force batches) fun n =>
      ∀ c ∈ batches.update ++ batches.create, c.Answering n := by
  have hupdate := ClusterSpec.brings_answering_each fun c (_ : c ∈ batches.update) =>
    c.brings_answering polling force (nofun : ClusterAction.update ≠ .delete)
  have hcreate := ClusterSpec.brings_answering_each fun c (_ : c ∈ batches.create) =>
    c.brings_answering polling (force || c.updates.contains .forceCreate) (nofun : ClusterAction.create ≠ .delete)
  unfold reconcileClusters
  refine brings_stop (brings_true _) (brings_stop hupdate fun n hupdated hclean c hc => ?_)
  rcases List.mem_append.1 hc with hc | hc
  · exact c.keeps_answering _ n (hupdated c hc) hclean
  · exact hcreate n trivial hclean c hc

/-- The switches that are to get an overlay gateway in a network: those with the overlay enabled and the role for
it, unless they are members of a cluster that was updated or created, and not the first of it. -/
def leaders (n : Network) : List SwitchSpec :=
  r.switches.filter fun s => s.isOverlay r.topology && s.overlay.enabled &&
    decide (n.Leads (firstHosts (r.clusters.update ++ r.clusters.create)) s.host)

theorem overlaySwitches_eq {n : Network} (hn : n.Unoverridden) {principals : Principals}
    (h : Knows n (firstHosts (r.clusters.update ++ r.clusters.create)) principals) :
    r.overlaySwitches principals = r.leaders n := by
  unfold overlaySwitches leaders
  refine List.filter_congr fun s _ => ?_
  congr 1
  rw [Bool.eq_iff_iff, bne_iff_ne, decide_eq_true_iff]
  exact (h.leads_iff hn s.host).symm

end FabricRequest

/-! ### Events of the stages -/

def Event.IsGateway : Event → Prop
  | login _ _ => False
  | operation _ op => op.part = .overlayGateway

/-- A host is sent no operation about overlay gateways if the run has none on it. -/
private theorem journal_of_events {α : Type} (x : Dialogue α) {n : Network} {host : String}
    (h : ∀ e ∈ x.events adapter n, e.IsGateway → e.host ≠ host) :
    ∃ ops, (x.run adapter n).2.journal host = n.journal host ++ ops ∧ ∀ op ∈ ops, op.part ≠ .overlayGateway := by
  rcases Option.eq_none_or_eq_some (n.device? host) with hd | ⟨d, hd⟩
  · have hd' := (run_follows (stays_any x) n).of_absent hd
    refine ⟨[], ?_, by simp⟩
    unfold journal
    rw [hd, hd']
    rfl
  · refine ⟨_, Network.journal_run x n (Option.isSome_of_eq_some hd), fun op hop hpart => ?_⟩
    obtain ⟨e, he, hsent⟩ := List.mem_filterMap.1 hop
    cases e with
    | login other accepted => cases hsent
    | operation other op' =>
      obtain ⟨rfl, rfl⟩ : other = host ∧ op' = op := by simpa [Event.sentTo] using hsent
      exact h _ he hpart rfl

private theorem not_isGateway_of_stays {α : Type} {scope : Scope} {x : Dialogue α} (hx : x.Stays scope)
    (h : ∀ host op, scope.operations host op → op.part ≠ .overlayGateway) (n : Network) :
    ∀ e ∈ x.events adapter n, ¬ e.IsGateway := by
  intro e he
  have hallows := hx.events n e he
  cases e with
  | login host accepted => exact id
  | operation host op => exact h host op hallows

/-- The step of a switch for its overlay gateway: a login and, if it is accepted, the question for the gateway that
is there and what comes of it, all on the switch itself. -/
def GatewayStep (s : SwitchSpec) (es : List Event) : Prop :=
  (∀ e ∈ es, e.host = s.host) ∧
    (es = [.login s.host false] ∨ ∃ later, es = .login s.host true :: .operation s.host .getOverlayGateway :: later)

private theorem host_of_steps {switches : List SwitchSpec} {steps : List (List Event)}
    (h : List.Forall₂ GatewayStep switches steps) {e : Event} (he : e ∈ steps.flatten) :
    ∃ s ∈ switches, e.host = s.host := by
  induction h with
  | nil => cases he
  | @cons s es switches steps hstep _ ih =>
    rcases List.mem_append.1 he with he | he
    · exact ⟨s, List.mem_cons_self .., hstep.1 e he⟩
    · obtain ⟨s', hs', hhost⟩ := ih he
      exact ⟨s', List.mem_cons_of_mem _ hs', hhost⟩

theorem SwitchSpec.gatewayStep (force : Bool) (s : SwitchSpec) (n : Network) :
    GatewayStep s ((s.configureOverlayGateway force).events adapter n) := by
  refine ⟨fun e he => ?_, ?_⟩
  · have hallows := (s.within_configureOverlayGateway force).events n e he
    cases e with
    | login host accepted => exact hallows
    | operation host op => exact hallows.1
  · unfold configureOverlayGateway
    rw [events_session]
    cases (adapter.login s.host s.credentials n).1.isOk with
    | false => exact .inl rfl
    | true =>
      rw [if_pos rfl, events_step, UniqueObject.ensure, events_bind, events_query]
      exact .inr ⟨_, rfl⟩

namespace FabricRequest

variable (polling : Polling) (force : Bool) (r : FabricRequest) (save : Bool)

private theorem events_finish (n : Network) :
    let asking := findPrincipals ∅ (r.clusters.update ++ r.clusters.create)
    let principals := asking.run adapter n
    let gateways := (r.configureOverlayGateways force principals.1).run adapter principals.2
    (r.finish force save).events adapter n =
      asking.events adapter n ++ ((r.configureOverlayGateways force principals.1).events adapter principals.2 ++
        (r.persistAll save).events adapter gateways.2) := by
  unfold finish persistAll configureOverlayGateways
  cases save with
  | true => simp only [events_bind, events_pure, if_true, List.append_nil]
  | false => simp only [events_bind, events_pure, Bool.false_eq_true, if_false, List.append_nil]

/-- The events of a run in which the first two stages report no failures are those of its stages. -/
private theorem events_configure {n : Network} :
    let switches := (r.configureSwitches force).run adapter n
    let clusters := (reconcileClusters polling force r.clusters).run adapter switches.2
    switches.1 = [] → clusters.1 = [] →
      (r.configure polling force save).events adapter n = (r.configureSwitches force).events adapter n ++
        ((reconcileClusters polling force r.clusters).events adapter switches.2 ++
          (r.finish force save).events adapter clusters.2) := by
  intro switches clusters hswitches hclusters
  unfold configure
  rw [events_stop, if_pos hswitches, events_stop, if_pos hclusters]

/-! ### The whole run -/

section clean

variable {polling force r} {n : Network} (hn : n.Unoverridden)
  (hswitches : ((r.configureSwitches force).run adapter n).1 = [])
  (hclusters : ((reconcileClusters polling force r.clusters).run adapter
    ((r.configureSwitches force).run adapter n).2).1 = [])

include hn hclusters

/-- The switches that get an overlay gateway are those that lead when the clusters are done. -/
private theorem overlaySwitches_of_clean :
    let formed := ((reconcileClusters polling force r.clusters).run adapter
      ((r.configureSwitches force).run adapter n).2).2
    r.overlaySwitches ((findPrincipals ∅ (r.clusters.update ++ r.clusters.create)).run adapter formed).1 =
      r.leaders formed := by
  intro formed
  have hformed : formed.Unoverridden := (hn.run _).run _
  have hanswers : ∀ host ∈ firstHosts (r.clusters.update ++ r.clusters.create), formed.Answers host := by
    intro host hhost
    obtain ⟨c, hc, hhead⟩ := List.mem_filterMap.1 hhost
    obtain ⟨x, hx, rfl⟩ := Option.map_eq_some_iff.1 hhead
    exact brings_reconcileClusters polling force r.clusters _ trivial hclusters c hc x (List.mem_of_head? hx)
  exact r.overlaySwitches_eq hformed (knows_findPrincipals hformed hanswers (knows_empty formed))

include hswitches

/-- Between the clusters and the saving, the leaders have their steps, in the order of the request. -/
private theorem events_leaders :
    let formed := ((reconcileClusters polling force r.clusters).run adapter
      ((r.configureSwitches force).run adapter n).2).2
    ∃ before steps after, (r.configure polling force save).events adapter n = before ++ steps.flatten ++ after ∧
      (∀ e ∈ before ++ after, ¬ e.IsGateway) ∧ List.Forall₂ GatewayStep (r.leaders formed) steps := by
  intro formed
  have hconfigure := r.events_configure polling force save hswitches hclusters
  have hleaders := overlaySwitches_of_clean hn hclusters
  rw [events_finish] at hconfigure
  unfold configureOverlayGateways at hconfigure
  rw [hleaders] at hconfigure
  obtain ⟨steps, hsteps, hevents⟩ := events_fanOut (A := adapter) (R := GatewayStep)
    (fun s _ n => s.gatewayStep force n : ∀ s ∈ r.leaders formed, _)
    ((findPrincipals ∅ (r.clusters.update ++ r.clusters.create)).run adapter formed).2
  rw [hevents] at hconfigure
  simp only [← List.append_assoc] at hconfigure
  refine ⟨_, steps, _, hconfigure, ?_, hsteps⟩
  simp only [List.forall_mem_append]
  refine ⟨⟨⟨?_, ?_⟩, ?_⟩, ?_⟩
  · exact not_isGateway_of_stays (r.stays_configureSwitches force) (fun _ _ hop => hop.2.1) _
  · refine not_isGateway_of_stays (stays_reconcileClusters polling force r.clusters) (fun _ op hop => ?_) _
    rw [show op.part = .cluster from hop]
    simp
  · refine not_isGateway_of_stays (stays_findPrincipals ∅ _) (fun _ op hop => ?_) _
    rw [show op = .getClusterStatus from hop]
    simp [Operation.part]
  · refine not_isGateway_of_stays stays_persistAll (fun _ op hop hpart => ?_) _
    have hstage : op.part.stage = .saving := hop
    rw [hpart] at hstage
    cases hstage

end clean

/-- One owner for the overlay gateway of a cluster.  Once the switches and the clusters are done without failures,
nobody whom the first node of an updated or created cluster reports is sent an operation about overlay gateways in
the whole run, apart from the smallest; and these operations all belong to steps of the switches that are to get
an overlay gateway, each of which has its step.  Strings are ordered by code points, which is the order of their
bytes. -/
theorem configure_gateways (polling : Polling) (force : Bool) (r : FabricRequest) (save : Bool) {n : Network}
    (hn : n.Unoverridden) (hswitches : ((r.configureSwitches force).run adapter n).1 = [])
    (hclusters : ((reconcileClusters polling force r.clusters).run adapter
      ((r.configureSwitches force).run adapter n).2).1 = []) :
    let formed := ((reconcileClusters polling force r.clusters).run adapter
      ((r.configureSwitches force).run adapter n).2).2
    let run := r.configure polling force save
    (∀ m ∈ firstHosts (r.clusters.update ++ r.clusters.create), ∀ host ∈ formed.reports m,
      (∃ other ∈ formed.reports m, other < host) →
        ∃ ops, (run.run adapter n).2.journal host = n.journal host ++ ops ∧ ∀ op ∈ ops, op.part ≠ .overlayGateway) ∧
    ∃ before steps after, run.events adapter n = before ++ steps.flatten ++ after ∧
      (∀ e ∈ before ++ after, ¬ e.IsGateway) ∧ List.Forall₂ GatewayStep (r.leaders formed) steps := by
  intro formed run
  obtain ⟨before, steps, after, hevents, hothers, hsteps⟩ := events_leaders save hn hswitches hclusters
  refine ⟨fun m hm host hhost ⟨other, hother, hlt⟩ => journal_of_events run fun e he hgateway => ?_,
    before, steps, after, hevents, hothers, hsteps⟩
  have hformed : formed.Unoverridden := (hn.run _).run _
  -- An operation about overlay gateways belongs to the step of a leader, and the host leads nobody.
  rintro rfl
  have hstep : e ∈ steps.flatten := by
    rw [hevents, List.append_assoc, List.mem_append, List.mem_append] at he
    rcases he with he | he | he
    · exact absurd hgateway (hothers e (List.mem_append_left _ he))
    · exact he
    · exact absurd hgateway (hothers e (List.mem_append_right _ he))
  obtain ⟨s, hs, hsame⟩ := host_of_steps hsteps hstep
  have hleads : formed.Leads (firstHosts (r.clusters.update ++ r.clusters.create)) s.host := by
    unfold leaders at hs
    simpa using (Bool.and_eq_true_iff.1 (List.mem_filter.1 hs).2).2
  exact not_leads hformed hm hhost hother hlt (hsame ▸ hleads)

/-- The pair when its cluster is created. -/
def leafPairFormed : Network :=
  ((reconcileClusters {} false leafPair.clusters).run adapter
    ((leafPair.configureSwitches false).run adapter (Network.ofHosts ["leaf-1", "leaf-2"])).2).2

/-- The first leaf of the pair has its step, and the second one leaves the overlay gateway to it. -/
theorem leafPair_gateways :
    leafPairFormed.reports "leaf-1" = ["leaf-1", "leaf-2"] ∧
      (∀ op ∈ leafPairRun.2.journal "leaf-2", op.part ≠ .overlayGateway) ∧
      ∃ before step after, (leafPair.configure {} false true).events adapter (Network.ofHosts ["leaf-1", "leaf-2"]) =
          before ++ step ++ after ∧ (∀ e ∈ before ++ after, ¬ e.IsGateway) ∧
        GatewayStep (pairedLeaf "leaf-1" "10.0.0.1/32" "10.9.0.0/31" "10.2.0.1" "10.0.0.2") step := by
  have hn : (Network.ofHosts ["leaf-1", "leaf-2"]).Unoverridden := by decide +kernel
  obtain ⟨hmembers, before, steps, after, hevents, hothers, hsteps⟩ :=
    configure_gateways {} false leafPair true hn (by decide +kernel) (by decide +kernel)
  have hreports : leafPairFormed.reports "leaf-1" = ["leaf-1", "leaf-2"] := by decide +kernel
  refine ⟨hreports, ?_, ?_⟩
  · obtain ⟨ops, hops, hparts⟩ := hmembers "leaf-1" (by decide) "leaf-2" (hreports ▸ by decide)
      ⟨"leaf-1", hreports ▸ by decide, by decide⟩
    exact hops ▸ hparts
  · have hleaders : leafPair.leaders leafPairFormed =
        [pairedLeaf "leaf-1" "10.0.0.1/32" "10.9.0.0/31" "10.2.0.1" "10.0.0.2"] := by decide +kernel
    have hone : List.Forall₂ GatewayStep [_] steps := hleaders ▸ hsteps
    obtain ⟨step, rest, hstep, hrest, rfl⟩ := List.forall₂_cons_left_iff.1 hone
    cases hrest
    rw [List.flatten_singleton] at hevents
    exact ⟨before, step, after, hevents, hothers, hstep⟩

end FabricRequest

end FabricProvision

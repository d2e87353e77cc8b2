import FabricProvision.Proofs.Device.Journals
import FabricProvision.Proofs.Provision.Alphabets
import FabricProvision.Proofs.Provision.Runs

/-!
# Two tiers of failures

Failures of the switches or of the management clusters end a run after their stage.  What the switches receive
then belongs to the stages so far.  The later stages run to their ends: what the overlay gateways and the saving
report is what the run reports, and every switch of the request that accepts a login is told once to save,
whatever failed before (`FabricRequest.configure_policy`).
-/

namespace FabricProvision

open Dialogue

/-! ### What devices receive -/

namespace Network

/-- Every host has received allowed operations only. -/
def Received (allowed : Operation → Prop) (n n' : Network) : Prop :=
  ∀ host, ∃ ops, n'.journal host = n.journal host ++ ops ∧ ∀ op ∈ ops, allowed op

private theorem Received.trans {allowed : Operation → Prop} {n n' n'' : Network} (h : n.Received allowed n')
    (h' : n'.Received allowed n'') : n.Received allowed n'' := by
  intro host
  obtain ⟨ops, hops, hallowed⟩ := h host
  obtain ⟨ops', hops', hallowed'⟩ := h' host
  refine ⟨ops ++ ops', by rw [hops', hops, List.append_assoc], fun op hop => ?_⟩
  rcases List.mem_append.1 hop with hop | hop
  · exact hallowed op hop
  · exact hallowed' op hop

private theorem run_received {α : Type} {scope : Scope} {Q : α → Prop} {x : Dialogue α} (hx : x.Within scope Q)
    {allowed : Operation → Prop} (h : ∀ host op, scope.operations host op → allowed op) (n : Network) :
    n.Received allowed (x.run adapter n).2 := by
  intro host
  obtain ⟨ops, hops, hallowed⟩ := run_journal hx n host
  exact ⟨ops, hops, fun op hop => h host op (hallowed op hop)⟩

private theorem journal_execute_of_login (n : Network) (host other : String) (op : Operation)
    (hlogin : (n.login host).isOk = true) :
    (n.execute host op).2.journal other = n.journal other ++ if host = other then [op] else [] := by
  unfold login at hlogin
  rcases Option.eq_none_or_eq_some (n.device? host) with hd | ⟨d, hd⟩
  · rw [hd] at hlogin
    cases hlogin
  · exact journal_execute hd op other

end Network

/-! ### Saving -/

namespace SwitchSpec

open Network

private theorem journal_persist (s : SwitchSpec) (n : Network) (host : String) :
    (s.persist.run adapter n).2.journal host =
      n.journal host ++ if (n.login host).isOk ∧ s.host = host then [.persist] else [] := by
  have hadapter : adapter.login s.host s.credentials n = (n.login s.host, n) := rfl
  have hexecute : adapter.execute s.host .persist n = n.execute s.host .persist := rfl
  unfold persist
  rw [run_session, hadapter]
  rcases hlogin : n.login s.host with e | u
  · have hrefused : ¬ ((n.login host).isOk = true ∧ s.host = host) := by
      rintro ⟨h, rfl⟩
      rw [hlogin] at h
      cases h
    rw [if_neg hrefused, List.append_nil]
  · have hrun : ((performStep "Persist Config" s.host .persist).run adapter n).2 =
        (n.execute s.host .persist).2 := by
      rw [performStep, run_step, run_perform, hexecute]
      generalize n.execute s.host .persist = r
      obtain ⟨answer, n'⟩ := r
      cases answer <;> rfl
    have hok : (n.login s.host).isOk = true := by rw [hlogin]; rfl
    dsimp only
    rw [hrun, journal_execute_of_login n s.host host .persist hok]
    by_cases hhost : s.host = host
    · subst hhost
      rw [if_pos rfl, if_pos ⟨hok, rfl⟩]
    · rw [if_neg hhost, if_neg fun h => hhost h.2]

/-- Saving reaches every switch that accepts a login, as often as it is listed. -/
private theorem journal_persistAll (switches : List SwitchSpec) (n : Network) (host : String) :
    ((fanOut switches (·.persist)).run adapter n).2.journal host =
      n.journal host ++ List.replicate
        (if (n.login host).isOk then switches.countP fun s => s.host == host else 0) .persist := by
  induction switches generalizing n with
  | nil =>
    show n.journal host = _
    simp
  | cons s rest ih =>
    have hrun : ((fanOut (s :: rest) (·.persist)).run adapter n).2 =
        ((fanOut rest (·.persist)).run adapter (s.persist.run adapter n).2).2 := by
      unfold fanOut
      rw [List.map_cons, run_collect_cons]
    -- Saving one switch changes no login, so the others are told as if they came first.
    rw [hrun, ih, journal_persist, login_run, List.append_assoc]
    by_cases hok : (n.login host).isOk = true
    · by_cases hhost : s.host = host
      · have hcount :
            (s :: rest).countP (fun s => s.host == host) = rest.countP (fun s => s.host == host) + 1 := by
          simp [hhost]
        rw [if_pos ⟨hok, hhost⟩, if_pos hok, if_pos hok, hcount, List.replicate_succ]
        rfl
      · have hcount : (s :: rest).countP (fun s => s.host == host) = rest.countP (fun s => s.host == host) := by
          simp [hhost]
        rw [if_neg fun h => hhost h.2, if_pos hok, if_pos hok, hcount]
        rfl
    · rw [if_neg fun h => hok h.1, if_neg hok, if_neg hok]
      rfl

end SwitchSpec

/-! ### The whole run -/

namespace FabricRequest

open Network

variable (polling : Polling) (force : Bool) (r : FabricRequest) (save : Bool)

private theorem within_fanOut_gateways (principals : Principals) :
    (r.configureOverlayGateways force principals).Within (Scope.everywhere (· = .overlayGateway)) fun failures =>
      ∀ f ∈ failures, f.operation = "Configure Overlay Gateway" :=
  within_fanOut fun s _ => (s.within_configureOverlayGateway force).mono
    (Scope.on_sub_everywhere fun _ h => h) fun _ h f hf => (h f hf).1

private theorem within_persistAll : (r.persistAll save).Within (Scope.everywhere (· = .saved)) fun failures =>
    ∀ f ∈ failures, f.operation = "Persist Config" := by
  unfold persistAll
  split
  · exact within_fanOut fun s _ => s.within_persist.mono (Scope.on_sub_everywhere fun _ h => h)
      fun _ h f hf => (h f hf).1
  · exact within_pure (by simp)

/-- Questions for principals, and operations about overlay gateways and saving. -/
def finishScope : Scope :=
  ⟨fun _ => True, fun _ op => op = .getClusterStatus ∨ op.part = .overlayGateway ∨ op.part = .saved⟩

/-- What the last two stages send and report. -/
theorem within_finish : (r.finish force save).Within finishScope fun failures =>
    ∀ f ∈ failures, f.operation = "Configure Overlay Gateway" ∨ f.operation = "Persist Config" := by
  have hasked : (findPrincipals ∅ (r.clusters.update ++ r.clusters.create)).Stays finishScope :=
    (stays_findPrincipals ∅ _).widen ⟨fun _ h => h, fun _ _ h => Or.inl h⟩
  have hgateways : ∀ principals, (r.configureOverlayGateways force principals).Within finishScope fun failures =>
      ∀ f ∈ failures, f.operation = "Configure Overlay Gateway" := fun principals =>
    (r.within_fanOut_gateways force principals).mono ⟨fun _ h => h, fun _ _ h => .inr (.inl h)⟩ fun _ h => h
  have hsaving : (r.persistAll save).Within finishScope fun failures => ∀ f ∈ failures, f.operation = "Persist Config" :=
    (r.within_persistAll save).mono ⟨fun _ h => h, fun _ _ h => .inr (.inr h)⟩ fun _ h => h
  refine hasked.bind fun principals _ => (hgateways principals).bind fun errors herrors => ?_
  have hreport : ∀ unsaved : List Failure, (∀ f ∈ unsaved, f.operation = "Persist Config") → ∀ f ∈ errors ++ unsaved,
      f.operation = "Configure Overlay Gateway" ∨ f.operation = "Persist Config" := fun unsaved hunsaved f hf =>
    (List.mem_append.1 hf).imp (herrors f) (hunsaved f)
  cases save with
  | true => exact hsaving.bind fun unsaved hunsaved => within_pure (hreport unsaved hunsaved)
  | false => exact within_pure (hreport [] (by simp))

/-- What the switch stage sends. -/
theorem stays_configureSwitches : (r.configureSwitches force).Stays
    (Scope.everywhere fun p => p ≠ .cluster ∧ p ≠ .overlayGateway ∧ p ≠ .saved) := by
  refine stays_fanOut fun s _ => (s.stays_configure r.topology force).widen ⟨fun _ _ => trivial, ?_⟩
  intro host op hop
  show op.part ≠ .cluster ∧ op.part ≠ .overlayGateway ∧ op.part ≠ .saved
  refine ⟨fun h => ?_, fun h => ?_, fun h => ?_⟩ <;>
    simp [SwitchSpec.scope, SwitchSpec.OwnStage, h, Part.stage] at hop

/-- The cluster stage only sends operations about clusters. -/
private theorem received_clusters {allowed : Operation → Prop} {n n' : Network} (h : n.Received allowed n')
    (hallowed : ∀ op, op.part = .cluster → allowed op) :
    n.Received allowed ((reconcileClusters polling force r.clusters).run adapter n').2 :=
  h.trans (run_received (stays_reconcileClusters polling force r.clusters) (fun _ op hop => hallowed op hop) n')

/-- Asking for principals and creating overlay gateways sends no operation about saving. -/
private theorem received_gateways {n n' : Network} (h : n.Received (fun op => op.part ≠ .saved) n')
    (asked : List ClusterSpec) :
    let principals := (findPrincipals ∅ asked).run adapter n'
    n.Received (fun op => op.part ≠ .saved)
      ((r.configureOverlayGateways force principals.1).run adapter principals.2).2 := by
  intro principals
  refine (h.trans ?_).trans (run_received (r.within_fanOut_gateways force principals.1) (fun host op hop => ?_) _)
  · refine run_received (stays_findPrincipals ∅ asked) (fun host op hop => ?_) n'
    cases show op = .getClusterStatus from hop
    simp [Operation.part]
  · rw [show op.part = .overlayGateway from hop]
    simp

private theorem journal_persistAll_of_save (n : Network) (host : String) :
    ((r.persistAll save).run adapter n).2.journal host = n.journal host ++ List.replicate
      (if save ∧ (n.login host).isOk then r.switches.countP fun s => s.host == host else 0) .persist := by
  unfold persistAll
  cases save with
  | true =>
    rw [if_pos rfl, SwitchSpec.journal_persistAll]
    simp
  | false => simp [run_pure]

private theorem count_persist_eq_zero {ops : List Operation} (h : ∀ op ∈ ops, op.part ≠ .saved) :
    ops.count .persist = 0 :=
  List.count_eq_zero.2 fun hmem => h _ hmem rfl

/-- The two tiers of failures.  If the switches report failures, the run reports these and ends, and no host has
received an operation about a management cluster, an overlay gateway or saving.  Else, if the management clusters
report failures, the run reports these and ends, and no host has received an operation about an overlay gateway
or saving.  Else the run reports what the overlay gateways and then the saving report, and a host has been told
to save as often as the request lists it if it accepts a login, or never if nothing is to be saved. -/
theorem configure_policy (n : Network) :
    let switches := (r.configureSwitches force).run adapter n
    let clusters := (reconcileClusters polling force r.clusters).run adapter switches.2
    let principals := (findPrincipals ∅ (r.clusters.update ++ r.clusters.create)).run adapter clusters.2
    let gateways := (r.configureOverlayGateways force principals.1).run adapter principals.2
    let saving := (r.persistAll save).run adapter gateways.2
    let run := (r.configure polling force save).run adapter n
    (switches.1 ≠ [] → run = switches ∧
      n.Received (fun op => op.part ≠ .cluster ∧ op.part ≠ .overlayGateway ∧ op.part ≠ .saved) run.2) ∧
    (switches.1 = [] → clusters.1 ≠ [] → run = clusters ∧
      n.Received (fun op => op.part ≠ .overlayGateway ∧ op.part ≠ .saved) run.2) ∧
    (switches.1 = [] → clusters.1 = [] → run = (gateways.1 ++ saving.1, saving.2) ∧
      (∀ f ∈ gateways.1, f.operation = "Configure Overlay Gateway") ∧
      (∀ f ∈ saving.1, f.operation = "Persist Config") ∧
      ∀ host, ∃ ops, run.2.journal host = n.journal host ++ ops ∧
        ops.count .persist =
          if save ∧ (n.login host).isOk then r.switches.countP fun s => s.host == host else 0) := by
  intro switches clusters principals gateways saving run
  have hrun : run = if switches.1 ≠ [] then switches
      else if clusters.1 ≠ [] then clusters else (gateways.1 ++ saving.1, saving.2) := by
    show (r.configure polling force save).run adapter n = _
    rw [run_configure, run_finish]
  have hswitches : n.Received (fun op => op.part ≠ .cluster ∧ op.part ≠ .overlayGateway ∧ op.part ≠ .saved)
      switches.2 := run_received (r.stays_configureSwitches force) (fun _ _ h => h) n
  have hclusters : n.Received (fun op => op.part ≠ .overlayGateway ∧ op.part ≠ .saved) clusters.2 := by
    refine received_clusters polling force r ?_ fun op hop => by simp [hop]
    exact run_received (r.stays_configureSwitches force) (fun _ _ h => h.2) n
  refine ⟨fun hs => ?_, fun hs hc => ?_, fun hs hc => ?_⟩
  · rw [hrun, if_pos hs]
    exact ⟨rfl, hswitches⟩
  · rw [hrun, if_neg (not_not_intro hs), if_pos hc]
    exact ⟨rfl, hclusters⟩
  rw [hrun, if_neg (not_not_intro hs), if_neg (not_not_intro hc)]
  refine ⟨rfl, (r.within_fanOut_gateways force principals.1).run adapter principals.2,
    (r.within_persistAll save).run adapter gateways.2, fun host => ?_⟩
  -- Up to the saving no host is told to save, and logins are answered as in the beginning.
  have hunsaved : n.Received (fun op => op.part ≠ .saved) gateways.2 := by
    have hclusters' : n.Received (fun op => op.part ≠ .saved) clusters.2 := fun host =>
      (hclusters host).imp fun ops h => ⟨h.1, fun op hop => (h.2 op hop).2⟩
    exact received_gateways force r hclusters' _
  have hlogin : gateways.2.login host = n.login host := by
    show ((r.configureOverlayGateways force principals.1).run adapter principals.2).2.login host = _
    simp only [login_run, principals, clusters, switches]
  obtain ⟨ops, hops, hop⟩ := hunsaved host
  have hsaving := r.journal_persistAll_of_save save gateways.2 host
  rw [hlogin] at hsaving
  refine ⟨ops ++ List.replicate _ .persist, by rw [hsaving, hops, List.append_assoc], ?_⟩
  rw [List.count_append, count_persist_eq_zero hop, List.count_replicate_self, Nat.zero_add]

end FabricRequest

end FabricProvision

import FabricProvision.Proofs.Device.Apart
import FabricProvision.Proofs.Provision.Attributes
import FabricProvision.Proofs.Provision.Clusters

/-!
# Running updates

An update of a cluster is work on each of its nodes, of which none depends on another, and then the nodes are polled.
What is reported of the work on a node can be told from what is reported of a poll (`Failure.OfPolling`).  Nothing is
reported of the work on a node exactly if the node took the revision of all attributes that the update names
(`ClusterSpec.revised_of_updateOn`, `ClusterSpec.updateOn_of_revised`).
-/

namespace FabricProvision

open Dialogue

namespace Failure

/-- The failure is one of polling a node. -/
def OfPolling (f : Failure) : Prop := f.operation = "Poll for management cluster status"

instance : DecidablePred OfPolling := fun f => inferInstanceAs (Decidable (f.operation = _))

/-- The failure is that an update names no attribute. -/
def isUnsupported (f : Failure) : Bool :=
  match f.cause with
  | .unsupportedUpdate _ => true
  | _ => false

/-- The failure is one of updating a node. -/
structure OfUpdate (host : String) (f : Failure) : Prop where
  host : f.host = host
  notPolling : ¬ f.OfPolling

end Failure

namespace ClusterSpec

variable (c : ClusterSpec) (x : ClusterNode) (polling : Polling)

/-! ### Updating a node -/

private theorem failsFast_sent {operation : String} {op : Operation} (hop : op ≠ .getClusterStatus)
    (hoperation : operation ≠ "Poll for management cluster status") :
    (NodeWork.send x.host operation op).FailsFast (Failure.OfUpdate x.host) :=
  NodeWork.failsFast_send hop fun _ => ⟨rfl, hoperation⟩

private theorem failsFast_asked {α : Type} {operation : String} {op : Operation}
    {read : Response → String → Except DeviceError α} (hop : op ≠ .getClusterStatus)
    (hkeeps : ∀ cfg, (op.apply.run.run cfg).2 = cfg) (hoperation : operation ≠ "Poll for management cluster status") :
    (NodeWork.ask x.host operation op read).FailsFast (Failure.OfUpdate x.host) :=
  NodeWork.failsFast_ask hop hkeeps fun _ => ⟨rfl, hoperation⟩

private theorem failsFast_allSent {steps : List ClusterStep}
    (h : ∀ step ∈ steps, ∃ operation op, step = .send operation op ∧ op ≠ .getClusterStatus ∧
      operation ≠ "Poll for management cluster status") :
    (NodeWork.sendAll x.host steps).FailsFast (Failure.OfUpdate x.host) := by
  refine NodeWork.failsFast_sendAll (fun operation op hstep => ?_) fun operation reason hstep => ?_
  · obtain ⟨_, _, ⟨⟩, hop, hoperation⟩ := h _ hstep
    exact ⟨hop, fun _ => ⟨rfl, hoperation⟩⟩
  · obtain ⟨_, _, ⟨⟩, -⟩ := h _ hstep

private theorem failsFast_updateVe (live : Option ClusterObject) :
    (c.updateVe x live).FailsFast (Failure.OfUpdate x.host) := by
  have hset : ∀ ve, (NodeWork.send x.host "MCT Cluster Set VE IP" (.configureVeIp ve x.remotePeerIp)).FailsFast
      (Failure.OfUpdate x.host) := fun ve => failsFast_sent x (by simp) (by decide)
  unfold updateVe
  refine NodeWork.failsFast_bind (failsFast_asked x (by simp) (fun _ => rfl) (by decide)) fun bound => ?_
  refine NodeWork.failsFast_bind (failsFast_asked x (by simp) (fun _ => rfl) (by decide)) fun answer => ?_
  split
  · exact NodeWork.failsFast_bind (failsFast_sent x (by simp) (by decide)) fun _ => hset _
  · exact hset _

/-- Whatever is refused to it, an update stops at its first failure, which is one of updating the node. -/
private theorem failsFast_update : (c.update x).FailsFast (Failure.OfUpdate x.host) := by
  unfold update
  refine NodeWork.failsFast_bind (failsFast_asked x (by simp) (fun _ => rfl) (by decide)) fun live => ?_
  dsimp only
  refine NodeWork.failsFast_guarded (c.failsFast_updateVe x live) ?_
  refine NodeWork.failsFast_guarded (failsFast_allSent x fun step hstep => ?_) ?_
  · rw [peerIpSteps_eq] at hstep
    simp only [List.mem_cons, List.mem_append, List.mem_ite_nil_left, List.not_mem_nil, or_false] at hstep
    rcases hstep with rfl | ⟨-, rfl⟩ | rfl <;> exact ⟨_, _, rfl, by simp, by decide⟩
  refine NodeWork.failsFast_guarded (failsFast_allSent x fun step hstep => ?_) ?_
  · obtain ⟨port, -, rfl⟩ := List.mem_map.1 hstep
    exact ⟨_, _, rfl, by simp, by decide⟩
  refine NodeWork.failsFast_guarded (failsFast_allSent x fun step hstep => ?_) ?_
  · obtain ⟨port, -, rfl⟩ := List.mem_map.1 hstep
    exact ⟨_, _, rfl, by simp, by decide⟩
  split
  · refine failsFast_allSent x fun step hstep => ?_
    cases List.mem_singleton.1 hstep
    exact ⟨_, _, rfl, by simp, by decide⟩
  · exact NodeWork.failsFast_pure _

section node

variable {c x} {d : Device}

private theorem updateOn_of_hasUpdate (hset : c.updates.hasUpdate = true) :
    c.updateOn x = session "Update management cluster properties" x.host x.credentials (c.update x).failures :=
  if_pos hset

/-- An update that names no attribute fails without a session. -/
theorem updateOn_of_empty (hset : c.updates.hasUpdate = false) :
    c.updateOn x = pure [⟨"Update management cluster properties", x.host, .unsupportedUpdate c.updates⟩] :=
  if_neg (by simp [hset])

/-- A device of which no failure is reported has taken the revision of all attributes. -/
theorem revised_of_updateOn (h : ((c.updateOn x).run Device.adapter d).1 = []) :
    c.reviseAll x c.updates.attributes d.configuration =
      some ((c.updateOn x).run Device.adapter d).2.configuration := by
  cases hset : c.updates.hasUpdate with
  | false =>
    rw [updateOn_of_empty hset] at h
    cases h
  | true =>
    rw [updateOn_of_hasUpdate hset] at h ⊢
    have hlogin := Device.login_of_session h
    rw [Device.run_session_of_login hlogin] at h ⊢
    rw [← achieved?_update]
    exact (NodeWork.achieved?_of_failures (c.failsFast_update x) d).2 h

/-- A device that refuses nothing takes every revision that is not rejected. -/
theorem updateOn_of_revised (hset : c.updates.hasUpdate = true) (hlogin : d.refusesLogin = false)
    (hfailing : d.failing = ∅) {cfg : Configuration}
    (h : c.reviseAll x c.updates.attributes d.configuration = some cfg) :
    ((c.updateOn x).run Device.adapter d).1 = [] ∧
      ((c.updateOn x).run Device.adapter d).2.quiet = { d.quiet with configuration := cfg } := by
  rw [updateOn_of_hasUpdate hset, Device.run_session_of_login hlogin]
  rw [← achieved?_update] at h
  exact NodeWork.failures_of_achieved? hlogin hfailing h

private theorem ofUpdate_session (cause : FailureCause) :
    (⟨"Update management cluster properties", x.host, cause⟩ : Failure).OfUpdate x.host :=
  ⟨rfl, by simp [Failure.OfPolling]⟩

private theorem ofUpdate_of_device (d : Device) :
    ∀ f ∈ ((c.updateOn x).run Device.adapter d).1, f.OfUpdate x.host := by
  cases hset : c.updates.hasUpdate with
  | false =>
    rw [updateOn_of_empty hset]
    simpa [run_pure] using ofUpdate_session _
  | true =>
    rw [updateOn_of_hasUpdate hset, run_session]
    by_cases hlogin : d.refusesLogin = true
    · simpa [Device.adapter, hlogin] using ofUpdate_session _
    · simp only [Device.adapter, hlogin, Bool.false_eq_true, if_false]
      exact (NodeWork.achieved?_of_failures (c.failsFast_update x) d).1

end node

theorem nodeScope_local : (nodeScope x).Local x.host := ⟨fun _ h => h, fun _ _ h => ⟨h.1, h.2.2.2⟩⟩

/-- What is reported of updating a node is about the node, and not about a poll. -/
theorem ofUpdate_of_updateOn (n : Network) : ∀ f ∈ ((c.updateOn x).run Network.adapter n).1, f.OfUpdate x.host := by
  rcases Option.eq_none_or_eq_some (n.device? x.host) with hd | ⟨d, hd⟩
  · -- An unknown host accepts no login.
    cases hset : c.updates.hasUpdate with
    | false =>
      rw [updateOn_of_empty hset]
      simpa [run_pure] using ofUpdate_session _
    | true =>
      have hlogin : Network.adapter.login x.host x.credentials n = (.error (.login x.host "host unreachable"), n) := by
        simp only [Network.adapter, Network.login, hd]
      rw [updateOn_of_hasUpdate hset, run_session, hlogin]
      simpa using ofUpdate_session _
  · rw [Network.run_local (c.stays_updateOn x) (nodeScope_local x) hd]
    exact ofUpdate_of_device d

/-- Only a node that is there can be updated without a failure. -/
theorem device_of_updateOn {n : Network} (h : ((c.updateOn x).run Network.adapter n).1 = []) :
    ∃ d, n.device? x.host = some d ∧ ((c.updateOn x).run Device.adapter d).1 = [] := by
  cases hset : c.updates.hasUpdate with
  | false =>
    rw [updateOn_of_empty hset] at h
    cases h
  | true =>
    rw [updateOn_of_hasUpdate hset] at h
    obtain ⟨d, hd, -⟩ := Network.device_of_session h
    rw [← updateOn_of_hasUpdate hset, Network.run_local (c.stays_updateOn x) (nodeScope_local x) hd] at h
    exact ⟨d, hd, h⟩

/-! ### Polling -/

private theorem within_pollMembership {scope : Scope} {host : String} (intended : List String) (queries : Nat)
    (hstatus : scope.operations host .getClusterStatus) :
    (pollMembership host intended queries).Within scope fun answer => ∀ cause, answer = .error cause →
      cause = .pollTimeout := by
  induction queries with
  | zero => exact within_pure (by simp)
  | succ queries ih =>
    refine (within_query hstatus).bind fun answer _ => ?_
    split
    · split
      · exact within_pure (by simp)
      · exact ih
    · exact ih

/-- What is reported of polling are failures of polls, none of them of an update. -/
theorem within_pollMembers : (c.pollMembers polling).Within (Scope.asking (· ∈ c.hosts)) fun failures =>
    ∀ f ∈ failures, f.OfPolling ∧ f.isUnsupported = false := by
  refine within_fanOut fun x hx => within_session ?_ ?_ fun _ => ⟨rfl, rfl⟩
  · exact List.mem_map_of_mem hx
  · have hstatus : (Scope.asking (· ∈ c.hosts)).operations x.host .getClusterStatus :=
      ⟨List.mem_map_of_mem hx, rfl⟩
    refine (within_pollMembership c.hosts polling.queries hstatus).bind fun answer hanswer => ?_
    cases answer with
    | ok u => exact within_pure (by simp)
    | error cause =>
      cases hanswer cause rfl
      exact within_pure (by simp [Failure.OfPolling, Failure.isUnsupported])

/-! ### Whole clusters -/

/-- Polling changes nothing but journals. -/
theorem quiet_updateAll (n : Network) :
    ((c.updateAll polling).run Network.adapter n).2.quiet =
      ((fanOut c.nodes c.updateOn).run Network.adapter n).2.quiet := by
  unfold updateAll
  rw [run_collect_cons, run_collect_cons]
  exact c.quiet_pollMembers polling _

/-- An update of a cluster whose nodes have different addresses reports what the work on each node reports, and then
what the polls report.  Journals apart, it leaves each node as the work on the node leaves it, and it leaves every
other device alone. -/
theorem run_updateAll (hdistinct : c.hosts.Nodup) (n : Network) :
    let r := (c.updateAll polling).run Network.adapter n
    (∃ polls, r.1 = (c.nodes.flatMap fun x => ((c.updateOn x).run Network.adapter n).1) ++ polls ∧
        ∀ f ∈ polls, f.OfPolling ∧ f.isUnsupported = false) ∧
      (∀ x ∈ c.nodes, r.2.quiet.device? x.host =
        (n.device? x.host).map fun d => ((c.updateOn x).run Device.adapter d).2.quiet) ∧
      ∀ host, host ∉ c.hosts → r.2.device? host = n.device? host := by
  intro r
  obtain ⟨hreports, hnodes, hothers⟩ := Network.run_fanOut_distinct (List.pairwise_map.1 hdistinct)
    (fun x _ => ⟨_, c.stays_updateOn x, nodeScope_local x⟩) n
  have hquiet : r.2.quiet = ((fanOut c.nodes c.updateOn).run Network.adapter n).2.quiet := c.quiet_updateAll polling n
  have hr : r = _ := run_collect_cons Network.adapter (fanOut c.nodes c.updateOn) [c.pollMembers polling] n
  refine ⟨⟨_, by rw [hr, hreports], ?_⟩, fun x hx => ?_, fun host hhost => ?_⟩
  · rw [run_collect_cons, run_collect_nil, List.append_nil]
    exact (c.within_pollMembers polling).run Network.adapter _
  · rw [hquiet, Network.device?_quiet, hnodes x hx, Option.map_map]
    rfl
  · have hpolls : r.2.device? host = ((fanOut c.nodes c.updateOn).run Network.adapter n).2.device? host := by
      rw [hr, run_collect_cons]
      exact Network.device?_run (c.stays_pollMembers polling) (fun _ hop => hhost hop.1) _
    rw [hpolls]
    exact hothers host fun x hx heq => hhost (heq ▸ List.mem_map_of_mem hx)

/-- A node that is there is left, its journal apart, as the work on that node alone leaves it. -/
theorem device?_updateAll (hdistinct : c.hosts.Nodup) {n : Network} {x : ClusterNode} (hx : x ∈ c.nodes) {d : Device}
    (hd : n.device? x.host = some d) :
    ∃ d', ((c.updateAll polling).run Network.adapter n).2.device? x.host = some d' ∧
      d'.quiet = ((c.updateOn x).run Device.adapter d).2.quiet := by
  obtain ⟨-, hnodes, -⟩ := c.run_updateAll polling hdistinct n
  have hquiet := hnodes x hx
  rw [Network.device?_quiet, hd] at hquiet
  exact Option.map_eq_some_iff.1 hquiet

/-- Nothing is reported of the work on a node if all that is reported about its host are failures of polls. -/
theorem updateOn_clean (hdistinct : c.hosts.Nodup) {n : Network} {x : ClusterNode} (hx : x ∈ c.nodes)
    (h : ∀ f ∈ ((c.updateAll polling).run Network.adapter n).1, f.host = x.host → f.OfPolling) :
    ((c.updateOn x).run Network.adapter n).1 = [] := by
  obtain ⟨⟨polls, hreports, -⟩, -⟩ := c.run_updateAll polling hdistinct n
  refine List.eq_nil_iff_forall_not_mem.2 fun f hf => ?_
  obtain ⟨hhost, hnot⟩ := c.ofUpdate_of_updateOn x n f hf
  refine hnot (h f ?_ hhost)
  rw [hreports]
  exact List.mem_append_left _ (List.mem_flatMap.2 ⟨x, hx, hf⟩)

end ClusterSpec

end FabricProvision

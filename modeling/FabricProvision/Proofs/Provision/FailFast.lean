import FabricProvision.Proofs.Device.Exchanged
import FabricProvision.Proofs.Provision.Deleted
import FabricProvision.Proofs.Provision.Reports

/-!
# Creation and deletion stop at the first failure

What is to be sent to a node is a list that the cluster and the node alone determine (`NodeWork.planned`).  Work on a
node goes through it and ends in one of three ways (`NodeWork.Ending`): all of it was accepted, the last operation
that was sent was rejected, or the list itself ends with a step that something is missing for.  This holds whatever
answers (`NodeWork.ending_sendAll`).  The nodes of a cluster are different hosts, so each of them takes its course as
if it were alone (`ClusterSpec.Course`), and the polling follows if all of them come to their end
(`ClusterSpec.nodes_stop_at_failures`).
-/

namespace FabricProvision

open Dialogue

/-! ### Lists of steps -/

namespace NodeWork

/-- The operations of a list of steps, each with the name of its step, up to a step that something is missing for. -/
def planned : List ClusterStep → List (String × Operation)
  | .send operation op :: rest => (operation, op) :: planned rest
  | _ => []

/-- The name of the first step that something is missing for, with the reason, if there is one. -/
def refusal : List ClusterStep → Option (String × String)
  | [] => none
  | .send _ _ :: rest => refusal rest
  | .refuse operation reason :: _ => some (operation, reason)

theorem refusal_eq_none {steps : List ClusterStep} (h : ∀ operation reason, .refuse operation reason ∉ steps) :
    refusal steps = none := by
  induction steps with
  | nil => rfl
  | cons step rest ih =>
    cases step with
    | send operation op => exact ih fun operation reason hstep => h operation reason (List.mem_cons_of_mem _ hstep)
    | refuse operation reason => exact absurd List.mem_cons_self (h operation reason)

/-- Where nothing is missing, the list is all to be sent. -/
theorem sends_planned {steps : List ClusterStep} (h : refusal steps = none) : sends (planned steps) = steps := by
  induction steps with
  | nil => rfl
  | cons step rest ih =>
    cases step with
    | send operation op => exact congrArg (ClusterStep.send operation op :: ·) (ih h)
    | refuse operation reason => cases h

/-- The whole list was sent and accepted. -/
structure Finished (steps : List ClusterStep) (log : List (Operation × Except DeviceError Response)) : Prop where
  sent : log.map (·.1) = (planned steps).map (·.2)
  accepted : ∀ entry ∈ log, entry.2.isOk
  whole : refusal steps = none

/-- How work on a host ends: what was sent with the answers, and what is reported.  Either the whole list was accepted,
and nothing is reported; or everything up to a step that something is missing for; or the work ends with an operation
that was rejected, and all before it were accepted.  What is reported is one failure, of the step that the work
ended with. -/
inductive Ending (host : String) (steps : List ClusterStep) :
    List (Operation × Except DeviceError Response) → List Failure → Prop
  | finished {log : List (Operation × Except DeviceError Response)} (h : Finished steps log) : Ending host steps log []
  | refused {log : List (Operation × Except DeviceError Response)} {operation reason : String}
      (hsent : log.map (·.1) = (planned steps).map (·.2)) (haccepted : ∀ entry ∈ log, entry.2.isOk)
      (hrefusal : refusal steps = some (operation, reason)) :
      Ending host steps log [⟨operation, host, .precondition reason⟩]
  | rejected {log : List (Operation × Except DeviceError Response)} {before after : List (String × Operation)}
      {operation : String} {op : Operation} {e : DeviceError}
      (hplanned : planned steps = before ++ (operation, op) :: after) (hsent : log.map (·.1) = before.map (·.2))
      (haccepted : ∀ entry ∈ log, entry.2.isOk) :
      Ending host steps (log ++ [(op, .error e)]) [⟨operation, host, .step e⟩]

section ending

variable {host : String} {steps : List ClusterStep} {log : List (Operation × Except DeviceError Response)}
  {failures : List Failure}

/-- What was sent is the beginning of the list. -/
theorem Ending.sent (h : Ending host steps log failures) : log.map (·.1) <+: (planned steps).map (·.2) := by
  cases h with
  | finished h => exact h.sent ▸ List.prefix_rfl
  | refused hsent _ _ => exact hsent ▸ List.prefix_rfl
  | @rejected log before after operation op e hplanned hsent _ =>
    refine ⟨after.map (·.2), ?_⟩
    rw [hplanned, List.map_append, hsent]
    simp

/-- All that was sent was accepted, except possibly for the last. -/
theorem Ending.accepted (h : Ending host steps log failures) : ∀ entry ∈ log.dropLast, entry.2.isOk := by
  cases h with
  | finished h => exact fun entry hentry => h.accepted entry ((List.dropLast_sublist log).subset hentry)
  | refused _ haccepted _ => exact fun entry hentry => haccepted entry ((List.dropLast_sublist log).subset hentry)
  | rejected _ _ haccepted =>
    rw [List.dropLast_concat]
    exact haccepted

/-- Nothing is reported exactly if the whole list was accepted. -/
theorem Ending.failures_eq_nil (h : Ending host steps log failures) : failures = [] ↔ Finished steps log := by
  cases h with
  | finished h => exact iff_of_true rfl h
  | refused _ _ hrefusal =>
    refine iff_of_false nofun fun h => ?_
    rw [h.whole] at hrefusal
    cases hrefusal
  | rejected _ _ _ =>
    refine iff_of_false nofun fun h => ?_
    have hlast := h.accepted _ (List.mem_append_right _ (List.mem_singleton_self _))
    cases hlast

theorem Ending.host_eq (h : Ending host steps log failures) : ∀ f ∈ failures, f.host = host := by
  cases h with
  | finished => exact nofun
  | refused => exact fun f hf => List.mem_singleton.1 hf ▸ rfl
  | rejected => exact fun f hf => List.mem_singleton.1 hf ▸ rfl

/-- A first operation that is accepted comes before what the other steps send. -/
private theorem Ending.accept (h : Ending host steps log failures) (operation : String) (op : Operation)
    (answer : Response) : Ending host (.send operation op :: steps) ((op, .ok answer) :: log) failures := by
  have hok : (Except.ok answer : Except DeviceError Response).isOk = true := rfl
  cases h with
  | finished h =>
    exact .finished ⟨congrArg (op :: ·) h.sent, List.forall_mem_cons.2 ⟨hok, h.accepted⟩, h.whole⟩
  | refused hsent haccepted hrefusal =>
    exact .refused (congrArg (op :: ·) hsent) (List.forall_mem_cons.2 ⟨hok, haccepted⟩) hrefusal
  | @rejected log before after operation' op' e hplanned hsent haccepted =>
    have hplanned' : planned (.send operation op :: steps) = (operation, op) :: before ++ (operation', op') :: after :=
      congrArg ((operation, op) :: ·) hplanned
    have hsent' : ((op, Except.ok answer) :: log).map (·.1) = ((operation, op) :: before).map (·.2) := by
      rw [List.map_cons, List.map_cons, hsent]
    exact .rejected hplanned' hsent' (List.forall_mem_cons.2 ⟨hok, haccepted⟩)

end ending

/-! ### Work on one host -/

variable {σ : Type}

theorem exchanges_sendAll_send (A : Adapter σ) (host operation : String) (op : Operation) (rest : List ClusterStep)
    (s : σ) :
    (sendAll host (.send operation op :: rest)).failures.exchanges A s =
      .operation host op (A.execute host op s).1 ::
        if (A.execute host op s).1.isOk then (sendAll host rest).failures.exchanges A (A.execute host op s).2
        else [] := by
  rw [failures_sendAll_send, exchanges_bind, exchanges_perform, run_perform]
  generalize A.execute host op s = r
  obtain ⟨answer, s'⟩ := r
  cases answer <;> rfl

/-- However the operations are answered, the work stops at the first failure. -/
theorem ending_sendAll (A : Adapter σ) (host : String) (steps : List ClusterStep) (s : σ) :
    Ending host steps (((sendAll host steps).failures.exchanges A s).filterMap (Exchange.sentTo host))
      ((sendAll host steps).failures.run A s).1 := by
  induction steps generalizing s with
  | nil =>
    have hwork : (sendAll host []).failures = pure [] := rfl
    rw [hwork, exchanges_pure, run_pure]
    exact .finished ⟨rfl, List.forall_mem_nil _, rfl⟩
  | cons step rest ih =>
    cases step with
    | refuse operation reason =>
      have hwork : (sendAll host (.refuse operation reason :: rest)).failures =
          pure [⟨operation, host, .precondition reason⟩] := rfl
      rw [hwork, exchanges_pure, run_pure]
      exact @Ending.refused host _ [] operation reason rfl (List.forall_mem_nil _) rfl
    | send operation op =>
      rw [exchanges_sendAll_send, run_sendAll_send, List.filterMap_cons]
      generalize A.execute host op s = r
      obtain ⟨answer, s'⟩ := r
      simp only [Exchange.sentTo, if_true]
      cases answer with
      | ok answer => exact (ih s').accept operation op answer
      | error e => exact @Ending.rejected host _ [] [] (planned rest) operation op e rfl rfl (List.forall_mem_nil _)

end NodeWork

namespace ClusterSpec

open Network (adapter)

/-! ### Nodes -/

/-- The course that work takes on a host whose list of steps is given. -/
structure Course (host : String) (steps : List ClusterStep) (work : Dialogue (List Failure)) (n : Network) : Prop where
  /-- What the host receives is what it is sent. -/
  received : (work.run adapter n).2.journal host = n.journal host ++ (n.sent work host).map (·.1)
  /-- It is sent the beginning of the list. -/
  sent : (n.sent work host).map (·.1) <+: (NodeWork.planned steps).map (·.2)
  /-- All operations but possibly the last are accepted. -/
  accepted : ∀ entry ∈ (n.sent work host).dropLast, entry.2.isOk
  /-- Nothing is reported of the host exactly if the whole list is accepted. -/
  clean : Failure.ofHost host (work.run adapter n).1 = [] ↔ NodeWork.Finished steps (n.sent work host)
  /-- Otherwise one failure is reported of the host, of the step that the work ended with. -/
  ending : NodeWork.Ending host steps (n.sent work host) (Failure.ofHost host (work.run adapter n).1)
  /-- None of this depends on another device. -/
  alone : ∀ m : Network, m.device? host = n.device? host →
    m.sent work host = n.sent work host ∧
      Failure.ofHost host (work.run adapter m).1 = Failure.ofHost host (work.run adapter n).1

section nodes

variable {operation : String} {steps : ClusterNode → List ClusterStep} {n : Network} {x : ClusterNode}

/-- The steps on a node, in a session. -/
private abbrev inSession (operation : String) (steps : ClusterNode → List ClusterStep) (x : ClusterNode) :
    Dialogue (List Failure) :=
  session operation x.host x.credentials (NodeWork.sendAll x.host (steps x)).failures

private theorem adapter_login (n : Network) (host : String) (credentials : Credentials) :
    adapter.login host credentials n = (n.login host, n) := rfl

/-- After a login that is accepted the node is sent its steps. -/
private theorem ending_inSession (hlogin : n.login x.host = .ok ⟨⟩) :
    NodeWork.Ending x.host (steps x) (n.sent (inSession operation steps x) x.host)
      ((inSession operation steps x).run adapter n).1 := by
  unfold Network.sent
  rw [run_session, exchanges_session, adapter_login, hlogin]
  exact NodeWork.ending_sendAll adapter x.host (steps x) n

private theorem run_inSession_of_refused {e : DeviceError} (hlogin : n.login x.host = .error e) :
    ((inSession operation steps x).run adapter n).1 = [⟨operation, x.host, .login e⟩] := by
  rw [run_session, adapter_login, hlogin]

private theorem host_of_inSession : ∀ f ∈ ((inSession operation steps x).run adapter n).1, f.host = x.host := by
  rcases hlogin : n.login x.host with e | ⟨⟩
  · rw [run_inSession_of_refused hlogin]
    exact fun f hf => List.mem_singleton.1 hf ▸ rfl
  · exact (ending_inSession hlogin).host_eq

/-- Nothing is reported of a node exactly if it accepts the login and all its steps. -/
private theorem inSession_clean : ((inSession operation steps x).run adapter n).1 = [] ↔
    n.login x.host = .ok ⟨⟩ ∧ NodeWork.Finished (steps x) (n.sent (inSession operation steps x) x.host) := by
  rcases hlogin : n.login x.host with e | ⟨⟩
  · rw [run_inSession_of_refused hlogin]
    exact iff_of_false nofun fun h => nomatch h.1
  · rw [(ending_inSession hlogin).failures_eq_nil]
    exact (and_iff_right rfl).symm

variable {nodes : List ClusterNode} (hdistinct : nodes.Pairwise fun x y => x.host ≠ y.host)
  (hwork : ∀ x ∈ nodes, ∃ scope : Scope, (inSession operation steps x).Stays scope ∧ scope.Local x.host)

include hdistinct hwork

private theorem reports_fanOut (hx : x ∈ nodes) (n : Network) :
    Failure.ofHost x.host ((fanOut nodes (inSession operation steps)).run adapter n).1 =
      ((inSession operation steps x).run adapter n).1 := by
  rw [(Network.run_fanOut_distinct hdistinct hwork n).1]
  exact Failure.ofHost_flatMap hdistinct (fun y _ => host_of_inSession) hx

/-- Each node takes the course of its own steps. -/
private theorem course_fanOut (hx : x ∈ nodes) (hlogin : n.login x.host = .ok ⟨⟩) :
    Course x.host (steps x) (fanOut nodes (inSession operation steps)) n := by
  have hsent : ∀ m : Network, m.sent (fanOut nodes (inSession operation steps)) x.host =
      m.sent (inSession operation steps x) x.host := fun m => Network.sent_fanOut_distinct hdistinct hwork hx
  have hreports := reports_fanOut hdistinct hwork hx
  have hending : NodeWork.Ending x.host (steps x) (n.sent (fanOut nodes (inSession operation steps)) x.host)
      (Failure.ofHost x.host ((fanOut nodes (inSession operation steps)).run adapter n).1) := by
    rw [hsent, hreports]
    exact ending_inSession hlogin
  refine ⟨?_, hending.sent, hending.accepted, hending.failures_eq_nil, hending, fun m hm => ?_⟩
  · obtain ⟨d, hd, -⟩ := Network.device_of_login hlogin
    exact Network.journal_run_sent _ n (by rw [hd]; rfl)
  · obtain ⟨scope, hstays, hlocal⟩ := hwork x hx
    have hagree : m.Agree (· = x.host) n := fun _ hsame => hsame ▸ hm
    rw [hsent, hsent, hreports, hreports]
    exact ⟨Network.sent_local hstays hlocal hm, (Network.run_agree hstays hlocal.confined hagree).1⟩

/-- Nothing is reported exactly if every node accepts the login and all its steps. -/
private theorem fanOut_clean (n : Network) :
    ((fanOut nodes (inSession operation steps)).run adapter n).1 = [] ↔
      ∀ x ∈ nodes, n.login x.host = .ok ⟨⟩ ∧
        NodeWork.Finished (steps x) (n.sent (fanOut nodes (inSession operation steps)) x.host) := by
  rw [(Network.run_fanOut_distinct hdistinct hwork n).1, List.flatMap_eq_nil_iff]
  refine forall₂_congr fun x hx => ?_
  rw [inSession_clean, Network.sent_fanOut_distinct hdistinct hwork hx]

end nodes

/-! ### Whole clusters -/

variable {c : ClusterSpec} {x : ClusterNode}

/-- Without a port-channel to the partner the list ends after the control VLAN. -/
theorem planned_createSteps_of_ne (h : x.peerInterface.kind ≠ .portChannel) :
    (NodeWork.planned (c.createSteps x)).map (·.2) =
        [.configureNodeId x.nodeId, .createControlVlan c.controlVlan c.controlVe "MCTClusterControlVlan"] ∧
      NodeWork.refusal (c.createSteps x) =
        some ("Configure Cluster Peer Interface", "Cluster peer-interface needs to be a port-channel") := by
  unfold createSteps peerInterfaceSteps
  rw [if_neg h]
  exact ⟨rfl, rfl⟩

/-- Nothing is ever missing for a deletion. -/
theorem refusal_deleteSteps : NodeWork.refusal (c.deleteSteps x) = none := by
  refine NodeWork.refusal_eq_none fun operation reason h => ?_
  unfold deleteSteps at h
  simp only [List.mem_append, List.mem_cons, List.mem_map, List.not_mem_nil, reduceCtorEq, and_false, exists_false,
    or_self, false_or] at h
  split at h
  · cases h
  · simp only [List.mem_singleton, reduceCtorEq] at h

/-- Polling starts with a login on the first node, and goes on to the others. -/
theorem login_pollMembers (polling : Polling) (hx : x ∈ c.nodes) (n : Network) :
    .login x.host (n.login x.host) ∈ (c.pollMembers polling).exchanges adapter n := by
  unfold pollMembers
  generalize c.hosts = intended
  generalize c.nodes = nodes at hx
  induction nodes generalizing n with
  | nil => cases hx
  | cons y rest ih =>
    rw [fanOut, List.map_cons, exchanges_collect_cons, List.mem_append]
    rcases List.mem_cons.1 hx with rfl | hx
    · refine .inl ?_
      rw [pollOn, exchanges_session, adapter_login]
      exact List.mem_cons_self
    · have hlater := ih ((pollOn polling intended y).run adapter n).2 hx
      rw [Network.login_run] at hlater
      exact .inr hlater

/-- The nodes are polled after a creation that reports nothing. -/
theorem exchanges_create (polling : Polling) (hsize : c.nodes.length ≤ maxNodes) (n : Network) :
    (c.reconcile polling .create false).exchanges adapter n =
      (fanOut c.nodes c.createOn).exchanges adapter n ++
        if ((fanOut c.nodes c.createOn).run adapter n).1 = [] then
          (c.pollMembers polling).exchanges adapter ((fanOut c.nodes c.createOn).run adapter n).2
        else [] := by
  unfold reconcile
  dsimp only
  rw [c.create_unforced polling hsize, exchanges_bind]
  generalize (fanOut c.nodes c.createOn).run adapter n = r
  obtain ⟨errors, n'⟩ := r
  cases errors with
  | nil => simp only [List.isEmpty_nil, if_true, exchanges_bind, exchanges_pure, List.append_nil]
  | cons f rest => simp only [List.isEmpty_cons, Bool.false_eq_true, if_false, exchanges_pure, reduceCtorEq]

/-- Nothing is missing for a creation if the partner is reached by a port-channel. -/
theorem refusal_createSteps (h : x.peerInterface.kind = .portChannel) :
    NodeWork.refusal (c.createSteps x) = none := by
  rw [c.createSteps_eq x h]
  exact NodeWork.refusal_eq_none fun operation reason h => by simp at h

/-- Creation and deletion stop at the first failure, on each node by itself.  A node that accepts the login takes the
course of its own steps, whatever becomes of the other node.  Creation goes on to the polling if and only if every node
came to the end of its steps; otherwise it does and reports no more.  All steps of a deletion are to be sent, and all
steps of a creation too, unless the partner is not reached by a port-channel: then the last to be sent is that of the
control VLAN. -/
theorem nodes_stop_at_failures (c : ClusterSpec) (polling : Polling) (force : Bool) (n : Network)
    (hdistinct : c.hosts.Nodup) (hsize : c.nodes.length ≤ maxNodes) :
    let creation := fanOut c.nodes c.createOn
    let finished := ∀ x ∈ c.nodes,
      n.login x.host = .ok ⟨⟩ ∧ NodeWork.Finished (c.createSteps x) (n.sent creation x.host)
    (∀ x ∈ c.nodes, n.login x.host = .ok ⟨⟩ →
      Course x.host (c.createSteps x) creation n ∧
        Course x.host (c.deleteSteps x) (c.reconcile polling .delete force) n) ∧
    (∃ polls, (c.reconcile polling .create false).exchanges adapter n = creation.exchanges adapter n ++ polls ∧
      (finished → polls = (c.pollMembers polling).exchanges adapter (creation.run adapter n).2 ∧
        ∀ x ∈ c.nodes, .login x.host (.ok ⟨⟩) ∈ polls) ∧
      (¬ finished → polls = [] ∧ (c.reconcile polling .create false).run adapter n = creation.run adapter n)) ∧
    ∀ x ∈ c.nodes, NodeWork.sends (NodeWork.planned (c.deleteSteps x)) = c.deleteSteps x ∧
      (x.peerInterface.kind = .portChannel →
        NodeWork.sends (NodeWork.planned (c.createSteps x)) = c.createSteps x) ∧
      (x.peerInterface.kind ≠ .portChannel →
        (NodeWork.planned (c.createSteps x)).map (·.2) =
            [.configureNodeId x.nodeId, .createControlVlan c.controlVlan c.controlVe "MCTClusterControlVlan"] ∧
          NodeWork.refusal (c.createSteps x) =
            some ("Configure Cluster Peer Interface", "Cluster peer-interface needs to be a port-channel")) := by
  intro creation finished
  have hpairwise : c.nodes.Pairwise fun x y => x.host ≠ y.host := List.pairwise_map.1 hdistinct
  have hcreate : ∀ x ∈ c.nodes, ∃ scope : Scope, (c.createOn x).Stays scope ∧ scope.Local x.host :=
    fun x _ => ⟨c.createScope x, c.stays_createOn x, c.createScope_local x⟩
  have hdelete : ∀ x ∈ c.nodes, ∃ scope : Scope, (c.deleteOn x).Stays scope ∧ scope.Local x.host :=
    fun x _ => ⟨Scope.alone x.host, c.stays_deleteOn x, Scope.alone_local x.host⟩
  have hclean : (creation.run adapter n).1 = [] ↔ finished := fanOut_clean hpairwise hcreate n
  refine ⟨fun x hx hlogin => ⟨?_, ?_⟩, ⟨_, exchanges_create polling hsize n, fun h => ?_, fun h => ?_⟩, fun x _ => ?_⟩
  · exact course_fanOut hpairwise hcreate hx hlogin
  · exact course_fanOut hpairwise hdelete hx hlogin
  · rw [if_pos (hclean.2 h)]
    refine ⟨rfl, fun x hx => ?_⟩
    have hlogin := login_pollMembers polling hx (creation.run adapter n).2
    rw [Network.login_run, (h x hx).1] at hlogin
    exact hlogin
  · have hfailed : ¬ (creation.run adapter n).1 = [] := fun hnil => h (hclean.1 hnil)
    rw [if_neg hfailed]
    refine ⟨rfl, ?_⟩
    show (c.create polling false).run adapter n = _
    rw [c.run_create polling hsize, if_neg hfailed]
  · exact ⟨NodeWork.sends_planned refusal_deleteSteps, fun hkind => NodeWork.sends_planned (refusal_createSteps hkind),
      planned_createSteps_of_ne⟩

/-- The pair where its second leaf refuses the static route. -/
def routeRefused : Network :=
  (Network.ofHosts ["leaf-1", "leaf-2"]).failOperation "leaf-2" "Configure IP Route"

/-- The second leaf gets no cluster object, the first one gets all that it is to get, and neither is polled. -/
theorem pair_stopped :
    let creation := fanOut pair.nodes pair.createOn
    pair.hosts.Nodup ∧ pair.nodes.length ≤ maxNodes ∧
      (routeRefused.sent creation "leaf-1").length = 9 ∧ (routeRefused.sent creation "leaf-2").length = 7 ∧
      (∀ x ∈ pair.nodes, Course x.host (pair.createSteps x) creation routeRefused) ∧
      (pair.reconcile {} .create false).exchanges adapter routeRefused = creation.exchanges adapter routeRefused := by
  intro creation
  have hdistinct : pair.hosts.Nodup := by decide
  have hsize : pair.nodes.length ≤ maxNodes := by decide
  have hlogin : ∀ x ∈ pair.nodes, routeRefused.login x.host = .ok ⟨⟩ := by decide +kernel
  have hrejected : (routeRefused.sent creation "leaf-2").any (fun entry => !entry.2.isOk) = true := by
    decide +kernel
  obtain ⟨hcourse, ⟨polls, hexchanges, -, hstopped⟩, -⟩ :=
    nodes_stop_at_failures pair {} true routeRefused hdistinct hsize
  refine ⟨hdistinct, hsize, by decide +kernel, by decide +kernel, fun x hx => (hcourse x hx (hlogin x hx)).1, ?_⟩
  have hunfinished := hstopped fun h => by
    obtain ⟨entry, hentry, hnot⟩ := List.any_eq_true.1 hrejected
    have hok := (h _ (List.mem_cons_of_mem _ (List.mem_singleton_self _))).2.accepted entry hentry
    rw [hok] at hnot
    cases hnot
  rw [hexchanges, hunfinished.1, List.append_nil]

end ClusterSpec

end FabricProvision

import FabricProvision.Proofs.Provision.Pipeline
import FabricProvision.Proofs.Step.Run

/-!
# Accounts of failures

What the work on a switch reports is what its exchanges account for, in order (`SwitchSpec.configure_accounts`).
An operation that is rejected is reported unless the work tolerates it: it may be a question whose answer has a
default, or clear what may not be there.  An accepted one is reported only if it finds another unique object.  The
members of the data-plane clusters account for their sessions as well.
-/

namespace FabricProvision

open Dialogue

variable {α σ κ : Type} {A : Adapter σ}

namespace Dialogue

/-! ### Work that accounts for its failures -/

/-- No exchange of the work is to be reported. -/
def Silent (A : Adapter σ) (report : Exchange → Option FailureCause) (x : Dialogue α) : Prop :=
  ∀ s, (x.exchanges A s).filterMap report = []

/-- The work fails for what its exchanges report, which is one cause at most. -/
def Settles (A : Adapter σ) (report : Exchange → Option FailureCause) (work : Dialogue (Except FailureCause Unit)) :
    Prop :=
  ∀ s, (Step.error? (work.run A s).1).toList = (work.exchanges A s).filterMap report

/-- The work reports what its exchanges do, all of it on one host. -/
def Accounts (A : Adapter σ) (report : Exchange → Option FailureCause) (host : String)
    (x : Dialogue (List Failure)) : Prop :=
  ∀ s, (x.run A s).1.map (fun f => (f.host, f.cause)) = ((x.exchanges A s).filterMap report).map (host, ·)

variable {report : Exchange → Option FailureCause} {operation host : String} {op : Operation}

theorem silent_pure (a : α) : Silent A report (pure a) := fun _ => rfl

theorem silent_query {read : Response → String → Except DeviceError α}
    (h : ∀ answer, report (.operation host op answer) = none) : Silent A report (query host op read) := fun s => by
  rw [exchanges_query]
  simp [h]

theorem silent_attempt (h : ∀ answer, report (.operation host op answer) = none) :
    Silent A report (attempt host op) := fun s => by
  rw [exchanges_attempt]
  simp [h]

theorem Silent.bind {β : Type} {x : Dialogue α} {f : α → Dialogue β} (hx : Silent A report x)
    (hf : ∀ a, Silent A report (f a)) : Silent A report (x >>= f) := fun s => by
  rw [exchanges_bind, List.filterMap_append, hx, hf]
  rfl

theorem settles_nothing : Settles A report InterfaceSpec.nothing := fun _ => rfl

theorem Silent.settles {x : Dialogue α} {f : α → Dialogue (Except FailureCause Unit)} (hx : Silent A report x)
    (hf : ∀ a, Settles A report (f a)) : Settles A report (x >>= f) := fun s => by
  rw [run_bind, exchanges_bind, List.filterMap_append, hx, hf]
  rfl

theorem settles_perform (hok : ∀ r, report (.operation host op (.ok r)) = none)
    (herror : ∀ e, report (.operation host op (.error e)) = some (.step e)) :
    Settles A report (perform host op) := fun s => by
  rw [run_perform, exchanges_perform]
  generalize A.execute host op s = r
  obtain ⟨answer | answer, s'⟩ := r
  · simp [herror, Step.error?]
  · simp [hok, Step.error?]

theorem accounts_step {work : Dialogue (Except FailureCause Unit)} (h : Settles A report work) :
    Accounts A report host (step operation host work) := fun s => by
  rw [run_step, exchanges_step, ← h s]
  generalize work.run A s = r
  obtain ⟨answer | answer, s'⟩ := r <;> rfl

theorem accounts_collect {works : List (Dialogue (List Failure))} (h : ∀ work ∈ works, Accounts A report host work) :
    Accounts A report host (collect works) := by
  induction works with
  | nil => exact fun _ => rfl
  | cons work rest ih =>
    intro s
    rw [run_collect_cons, exchanges_collect_cons, List.map_append, List.filterMap_append, List.map_append,
      h work (by simp), ih fun w hw => h w (by simp [hw])]

theorem accounts_fanOut {targets : List α} {work : α → Dialogue (List Failure)}
    (h : ∀ a ∈ targets, Accounts A report host (work a)) : Accounts A report host (fanOut targets work) := by
  refine accounts_collect fun w hw => ?_
  obtain ⟨a, ha, rfl⟩ := List.mem_map.1 hw
  exact h a ha

theorem accounts_session {credentials : Credentials} {work : Dialogue (List Failure)}
    (hok : report (.login host (.ok ⟨⟩)) = none) (herror : ∀ e, report (.login host (.error e)) = some (.login e))
    (h : Accounts A report host work) : Accounts A report host (session operation host credentials work) := fun s => by
  rw [run_session, exchanges_session]
  generalize A.login host credentials s = r
  obtain ⟨e | ⟨⟨⟩⟩, s'⟩ := r
  · simp [herror, Except.isOk, Except.toBool]
  · simpa [hok, Except.isOk, Except.toBool] using h s'

/-- Pieces of work that account for their failures each under a host of its own. -/
theorem accounts_log {report : κ → Exchange → Option FailureCause} {host : κ → String}
    {tasks : List (κ × Dialogue (List Failure))}
    (h : ∀ task ∈ tasks, Accounts A (report task.1) (host task.1) task.2) (s : σ) :
    ((collect (tasks.map (·.2))).run A s).1.map (fun f => (f.host, f.cause)) =
      (log A tasks s).filterMap fun (subject, exchange) => (report subject exchange).map (host subject, ·) := by
  induction tasks generalizing s with
  | nil => rfl
  | cons task rest ih =>
    obtain ⟨subject, work⟩ := task
    rw [List.map_cons, run_collect_cons, List.map_append, log, List.filterMap_append,
      ih fun task htask => h task (by simp [htask]), h (subject, work) (by simp)]
    simp [List.map_filterMap, List.filterMap_map]

end Dialogue

/-! ### What is to be reported -/

/-- Whom a piece of the work on a switch is for. -/
inductive Subject where
  | switch
  | interface (i : InterfaceSpec)
  | member (m : DataPlaneNode)

/-- The host that failures of the work for a subject are reported of. -/
def Subject.host (s : SwitchSpec) : Subject → String
  | member m => m.host
  | _ => s.host

/-- Whether the work for a subject goes on without a report if the operation is rejected. -/
def Subject.tolerates : Subject → Operation → Bool
  -- Unique objects are looked up, and cleared with force.
  | _, .getAnycastGateway | _, .getEvpnInstance | _, .getOverlayGateway => true
  | _, .unconfigureAnycastGateway | _, .deleteEvpnInstance _ | _, .deleteOverlayGateway _ => true
  | _, .getInterface .. | _, .unconfigureUnnumbered .. | _, .getEncapsulation => true
  | .interface i, .unconfigureNumbered .. => i.change == .update
  | _, _ => false

namespace SwitchSpec

variable (t : Topology) (force : Bool) (s : SwitchSpec)

/-- The unique object that an answer shows in the place of the desired one. -/
def foreign? : Operation → Response → Option (UniqueObject × String)
  | .getAnycastGateway, .named (some name) =>
    if name ≠ "" ∧ name ≠ s.overlay.anycastMac then some (.anycastGateway, name) else none
  | .getEvpnInstance, .named (some name) =>
    if name ≠ "" ∧ name ≠ s.fabric then some (.evpnInstance, name) else none
  | _, _ => none

/-- What is to be reported of an exchange. -/
def report (subject : Subject) : Exchange → Option FailureCause
  | .operation _ op (.error e) => if subject.tolerates op then none else some (.step e)
  | .operation _ op (.ok answer) =>
    if force then none else (s.foreign? op answer).map fun (object, name) => .conflict object name
  | .login _ (.error e) =>
    match subject with
    | .member _ => some (.login e)
    | _ => none
  | .login _ (.ok _) => none

/-- The pieces of the work on a switch in their order, each with its subject. -/
def tasks : List (Subject × Dialogue (List Failure)) :=
  [(.switch, s.provisionSystem t force)] ++
    s.interfaces.map (fun i => (.interface i, step "Configure Interface" s.host (i.provision s.host))) ++
    [(.switch, s.provisionBgp t)] ++
    s.staleDataPlane.nodes.map (fun m => (.member m, m.remove)) ++
    (if s.isOverlay t then [(.switch, s.provisionEvpn force)] else []) ++
    s.dataPlane.nodes.map (fun m => (.member m, m.add))

/-- The work on a switch is its pieces one after the other. -/
theorem configure_eq_tasks : s.configure t force =
    session "Configure Switch Login" s.host s.credentials (collect ((s.tasks t force).map (·.2))) := by
  let interfaces := s.interfaces.map fun i => step "Configure Interface" s.host (i.provision s.host)
  let stale := s.staleDataPlane.nodes.map DataPlaneNode.remove
  let evpn := if s.isOverlay t then [s.provisionEvpn force] else []
  let added := s.dataPlane.nodes.map DataPlaneNode.add
  have htasks : (s.tasks t force).map (·.2) =
      [s.provisionSystem t force] ++ interfaces ++ [s.provisionBgp t] ++ stale ++ evpn ++ added := by
    simp only [tasks, List.map_append, List.map_map, List.map_cons, List.map_nil, Function.comp_def]
    split <;> simp [interfaces, stale, evpn, added, *]
  -- The three stages that are lists of pieces are opened one after the other.
  have hinterfaces := collect_collect [s.provisionSystem t force] interfaces
    ([s.provisionBgp t, collect stale] ++ evpn ++ [collect added])
  have hstale := collect_collect ([s.provisionSystem t force] ++ interfaces ++ [s.provisionBgp t]) stale
    (evpn ++ [collect added])
  have hadded := collect_collect ([s.provisionSystem t force] ++ interfaces ++ [s.provisionBgp t] ++ stale ++ evpn)
    added []
  simp only [List.append_assoc, List.cons_append, List.nil_append, List.append_nil] at hinterfaces hstale hadded htasks
  rw [htasks, ← hadded, ← hstale, ← hinterfaces]
  rfl

/-! ### The stages account for their failures -/

private theorem report_of_error {subject : Subject} {op : Operation} (h : subject.tolerates op = false)
    (host : String) (e : DeviceError) : s.report force subject (.operation host op (.error e)) = some (.step e) := by
  simp [report, h]

private theorem report_of_ok {subject : Subject} {op : Operation} {answer : Response}
    (h : s.foreign? op answer = none) (host : String) :
    s.report force subject (.operation host op (.ok answer)) = none := by
  simp [report, h]

/-- The operation is reported if it is rejected and not otherwise. -/
private theorem settles_operation {subject : Subject} {host : String} {op : Operation}
    (hrejected : subject.tolerates op = false) (haccepted : ∀ answer, s.foreign? op answer = none) :
    Settles A (s.report force subject) (perform host op) :=
  settles_perform (fun answer => s.report_of_ok force (haccepted answer) host)
    (s.report_of_error force hrejected host)

private theorem report_of_tolerated {subject : Subject} {op : Operation} (hrejected : subject.tolerates op = true)
    (haccepted : ∀ answer, s.foreign? op answer = none) (host : String) (answer : Except DeviceError Response) :
    s.report force subject (.operation host op answer) = none := by
  cases answer with
  | ok answer => exact s.report_of_ok force (haccepted answer) host
  | error e => simp [report, hrejected]

private theorem settles_ensure {subject : Subject} {host desired : String} {object : UniqueObject} {create : Operation}
    (hlookup : subject.tolerates object.lookup = true)
    (hfound : ∀ answer, s.foreign? object.lookup answer =
      ((answer.toName object.lookup.name).toOption.join.filter (· != desired)).map (object, ·))
    (hdeletion : ∀ other, subject.tolerates (object.deletion other) = true)
    (hdeleted : ∀ other answer, s.foreign? (object.deletion other) answer = none)
    (hcreate : subject.tolerates create = false) (hcreated : ∀ answer, s.foreign? create answer = none) :
    Settles A (s.report force subject) (object.ensure host desired create force) := by
  have hperform : Settles A (s.report force subject) (perform host create) := s.settles_operation force hcreate hcreated
  intro st
  unfold UniqueObject.ensure
  rw [run_bind, exchanges_bind, exchanges_query, List.filterMap_append, run_query]
  generalize A.execute host object.lookup st = r
  obtain ⟨e | answer, st'⟩ := r
  · -- The question is rejected, and nothing is found.
    simp [report, hlookup, Except.toOption, hperform st']
  · have hreport : s.report force subject (.operation host object.lookup (.ok answer)) =
        if force then none else ((answer.toName object.lookup.name).toOption.join.filter (· != desired)).map
          (.conflict object) := by
      simp [report, hfound, Function.comp_def]
    simp only [List.filterMap_cons, List.filterMap_nil, hreport]
    generalize (answer.toName object.lookup.name).toOption.join.filter (· != desired) = found
    cases found with
    | none => simp [hperform st']
    | some other =>
      cases force with
      | false => simp [run_pure, exchanges_pure, Step.error?]
      | true =>
        have hsilent : Silent A (s.report true subject) (attempt host (object.deletion other)) :=
          silent_attempt (s.report_of_tolerated true (hdeletion other) (hdeleted other) host)
        exact hsilent.settles (fun _ => hperform) st'

/-- What a question finds is another object under a name. -/
private theorem found_named (object : UniqueObject) (name desired operation : String) :
    (if name ≠ "" ∧ name ≠ desired then some (object, name) else none) =
      (((Response.named (some name)).toName operation).toOption.join.filter (· != desired)).map (object, ·) := by
  by_cases hname : name = ""
  · simp [hname, Response.toName, Option.filter, Except.toOption]
  · by_cases hsame : name = desired
    · subst hsame
      simp [hname, Response.toName, Option.filter, Except.toOption]
    · simp [hname, hsame, Response.toName, Option.filter, Except.toOption]

private theorem foreign?_getAnycastGateway (answer : Response) (operation : String) :
    s.foreign? .getAnycastGateway answer =
      ((answer.toName operation).toOption.join.filter (· != s.overlay.anycastMac)).map (.anycastGateway, ·) := by
  rcases answer with _ | (_ | name) | _ | _ | _ | _ | _ | _ <;> first | rfl | exact found_named ..

private theorem foreign?_getEvpnInstance (answer : Response) (operation : String) :
    s.foreign? .getEvpnInstance answer =
      ((answer.toName operation).toOption.join.filter (· != s.fabric)).map (.evpnInstance, ·) := by
  rcases answer with _ | (_ | name) | _ | _ | _ | _ | _ | _ <;> first | rfl | exact found_named ..

private theorem accounts_provisionSystem :
    Accounts A (s.report force .switch) s.host (s.provisionSystem t force) := by
  refine accounts_collect fun work hwork => ?_
  rcases List.mem_append.1 hwork with hwork | hwork
  · simp only [List.mem_cons, List.not_mem_nil, or_false] at hwork
    rcases hwork with rfl | rfl <;> exact accounts_step (s.settles_operation force rfl fun _ => rfl)
  · split at hwork
    · cases List.mem_singleton.1 hwork
      exact accounts_step (s.settles_ensure force rfl (fun _ => s.foreign?_getAnycastGateway _ _) (fun _ => rfl)
        (fun _ _ => rfl) rfl fun _ => rfl)
    · cases hwork

private theorem accounts_provisionBgp : Accounts A (s.report force .switch) s.host (s.provisionBgp t) := by
  refine accounts_fanOut fun (operation, op) hop => accounts_step (s.settles_operation force ?_ ?_)
  · have hstage := s.stage_of_bgpSteps t hop
    cases op <;> first | rfl | cases hstage
  · have hstage := s.stage_of_bgpSteps t hop
    cases op <;> first | exact fun _ => rfl | cases hstage

private theorem accounts_provisionEvpn :
    Accounts A (s.report force .switch) s.host (s.provisionEvpn force) := by
  have hperform : ∀ {operation : String} {op : Operation}, Subject.switch.tolerates op = false →
      (∀ answer, s.foreign? op answer = none) →
      Accounts A (s.report force .switch) s.host (performStep operation s.host op) :=
    fun hrejected haccepted => accounts_step (s.settles_operation force hrejected haccepted)
  have hensure : Accounts A (s.report force .switch) s.host (step "EVPN" s.host <|
      UniqueObject.ensure s.host .evpnInstance s.fabric
        (.createEvpnInstance s.fabric s.evpn.duplicateMacTimer s.evpn.duplicateMacMaxCount) force) :=
    accounts_step (s.settles_ensure force rfl (fun _ => s.foreign?_getEvpnInstance _ _) (fun _ => rfl)
      (fun _ _ => rfl) rfl fun _ => rfl)
  intro st
  unfold provisionEvpn
  rw [run_bind, exchanges_bind, run_bind, exchanges_bind, List.filterMap_append, List.filterMap_append,
    List.map_append, List.map_append, ← hperform rfl (fun _ => rfl), ← hensure]
  split
  · rename_i hnone
    rw [run_bind, exchanges_bind, exchanges_pure, run_pure, List.append_nil, List.map_append,
      ← hperform rfl (fun _ => rfl), List.isEmpty_iff.1 hnone]
    rfl
  · rw [run_pure, exchanges_pure, List.map_append]
    simp

private theorem settles_interface (i : InterfaceSpec) :
    Settles A (s.report force (.interface i)) (i.provision s.host) := by
  have hsilent : ∀ {op : Operation}, (Subject.interface i).tolerates op = true →
      (∀ answer, s.foreign? op answer = none) → Silent A (s.report force (.interface i)) (attempt s.host op) :=
    fun h h' => silent_attempt (s.report_of_tolerated force h h' s.host)
  unfold InterfaceSpec.provision
  split
  · unfold InterfaceSpec.provisionLoopback
    split
    · exact s.settles_operation force rfl fun _ => rfl
    · exact s.settles_operation force rfl fun _ => rfl
    · exact s.settles_operation force rfl fun _ => rfl
    · exact settles_nothing
  · split
    · unfold InterfaceSpec.provisionUnnumbered
      split
      · exact s.settles_operation force rfl fun _ => rfl
      · exact (hsilent rfl fun _ => rfl).settles fun _ => s.settles_operation force rfl fun _ => rfl
      · exact (hsilent rfl fun _ => rfl).settles fun _ => settles_nothing
      · exact settles_nothing
    · unfold InterfaceSpec.provisionNumbered
      split
      · exact s.settles_operation force rfl fun _ => rfl
      · rename_i hchange
        have htolerates : ∀ ip, (Subject.interface i).tolerates (.unconfigureNumbered i.kind.text i.name ip) = true :=
          fun ip => by simp [Subject.tolerates, hchange]
        refine Silent.settles ?_ fun _ => s.settles_operation force rfl fun _ => rfl
        refine (silent_query (s.report_of_tolerated force rfl (fun _ => rfl) s.host)).bind fun current => ?_
        split
        · exact hsilent rfl fun _ => rfl
        · split
          · exact (hsilent (htolerates _) fun _ => rfl).bind fun _ => hsilent rfl fun _ => rfl
          · exact silent_pure _
      · rename_i hchange
        exact s.settles_operation force (by simp [Subject.tolerates, hchange]) fun _ => rfl
      · exact settles_nothing

private theorem accounts_add (m : DataPlaneNode) : Accounts A (s.report force (.member m)) m.host m.add := by
  refine accounts_session rfl (fun _ => rfl) (accounts_step ?_)
  have hquery : Silent A (s.report force (.member m)) (query m.host .getEncapsulation Response.toText) :=
    silent_query (s.report_of_tolerated force rfl (fun _ => rfl) m.host)
  exact hquery.settles fun _ => s.settles_operation force rfl fun _ => rfl

private theorem accounts_remove (hneighbors : ∀ host st answer, (A.execute host .getNeighbors st).1 = .ok answer →
      ∃ addresses, answer = .neighbors addresses) (m : DataPlaneNode) :
    Accounts A (s.report force (.member m)) m.host m.remove := by
  refine accounts_session rfl (fun _ => rfl) (accounts_step fun st => ?_)
  have hneighbors := hneighbors m.host st
  rw [run_bind, exchanges_bind, exchanges_query, run_query]
  generalize A.execute m.host .getNeighbors st = r at hneighbors
  obtain ⟨e | answer, st'⟩ := r
  · rfl
  · obtain ⟨addresses, rfl⟩ := hneighbors answer rfl
    have hperform : Settles A (s.report force (.member m))
      (perform m.host (.unconfigureL2EvpnNeighbor m.peerIp m.peerLoopbackIp)) :=
      s.settles_operation force rfl fun _ => rfl
    have hquery : s.report force (.member m) (.operation m.host .getNeighbors (.ok (.neighbors addresses))) = none :=
      s.report_of_ok force rfl m.host
    simp only [Response.toNeighbors, List.filterMap_append, List.filterMap_cons, List.filterMap_nil, hquery]
    split
    · exact hperform st'
    · rfl

/-! ### All of it -/

private theorem forall_tasks {P : Subject × Dialogue (List Failure) → Prop}
    (system : P (.switch, s.provisionSystem t force))
    (interface : ∀ i, P (.interface i, step "Configure Interface" s.host (i.provision s.host)))
    (bgp : P (.switch, s.provisionBgp t)) (stale : ∀ m : DataPlaneNode, P (.member m, m.remove))
    (evpn : P (.switch, s.provisionEvpn force)) (added : ∀ m : DataPlaneNode, P (.member m, m.add)) :
    ∀ task ∈ s.tasks t force, P task := by
  intro task h
  simp only [tasks, List.mem_append, List.mem_map, List.mem_singleton] at h
  rcases h with ((((rfl | ⟨i, -, rfl⟩) | rfl) | ⟨m, -, rfl⟩) | h) | ⟨m, -, rfl⟩
  · exact system
  · exact interface i
  · exact bgp
  · exact stale m
  · split at h
    · cases List.mem_singleton.1 h
      exact evpn
    · cases h
  · exact added m

private theorem accounts_tasks (hneighbors : ∀ host st answer, (A.execute host .getNeighbors st).1 = .ok answer →
      ∃ addresses, answer = .neighbors addresses) :
    ∀ task ∈ s.tasks t force, Accounts A (s.report force task.1) (task.1.host s) task.2 :=
  s.forall_tasks t force (s.accounts_provisionSystem t force) (fun i => accounts_step (s.settles_interface force i))
    (s.accounts_provisionBgp t force) (fun m => s.accounts_remove force hneighbors m) (s.accounts_provisionEvpn force)
    fun m => s.accounts_add force m

/-- The work for a subject is work on its host. -/
private theorem stays_tasks :
    ∀ task ∈ s.tasks t force, task.2.Stays (Scope.on (task.1.host s) fun _ => True) := by
  have hwiden : ∀ {x : Dialogue (List Failure)} {host : String} {parts : Part → Prop},
      x.Stays (Scope.on host parts) → x.Stays (Scope.on host fun _ => True) :=
    fun hx => hx.widen (Scope.on_mono fun _ _ => trivial)
  exact s.forall_tasks t force (hwiden (s.stays_provisionSystem t force))
    (fun i => hwiden (stays_step (stays_provision s.host i))) (hwiden (s.stays_provisionBgp t))
    (fun m => hwiden m.stays_remove) (hwiden (s.stays_provisionEvpn force)) fun m => hwiden m.stays_add

/-- An operation was rejected, and the work does not tolerate it. -/
def isRejection : Subject × Exchange → Bool
  | (subject, .operation _ op (.error _)) => !subject.tolerates op
  | _ => false

/-- Without force, another unique object was found. -/
def isConflict : Subject × Exchange → Bool
  | (_, .operation _ op (.ok answer)) => !force && (s.foreign? op answer).isSome
  | _ => false

/-- A member of a data-plane cluster refused a login. -/
def isRefusedLogin : Subject × Exchange → Bool
  | (.member _, .login _ (.error _)) => true
  | _ => false

private theorem length_report (log : List (Subject × Exchange)) :
    (log.filterMap fun (subject, exchange) => (s.report force subject exchange).map (subject.host s, ·)).length =
      log.countP isRejection + log.countP (s.isConflict force) + log.countP isRefusedLogin := by
  rw [List.length_filterMap_eq_countP]
  induction log with
  | nil => rfl
  | cons entry rest ih =>
    -- An entry is of one kind at most.
    have hentry : (if (((s.report force entry.1 entry.2).map (entry.1.host s, ·)).isSome : Bool) then 1 else 0) =
        (if isRejection entry then 1 else 0) + (if s.isConflict force entry then 1 else 0) +
          if isRefusedLogin entry then 1 else 0 := by
      obtain ⟨subject, exchange⟩ := entry
      cases exchange with
      | login host answer => cases subject <;> cases answer <;> rfl
      | operation host op answer =>
        cases answer with
        | error e =>
          cases hrejected : subject.tolerates op <;>
            simp [report, isRejection, isConflict, isRefusedLogin, hrejected]
        | ok r => cases force <;> simp [report, isRejection, isConflict, isRefusedLogin]
    simp only [List.countP_cons, ih, hentry]
    omega

/-- A switch that answers the question for its neighbors answers with neighbors. -/
private theorem answer_getNeighbors (n : Network) (host : String) {answer : Response}
    (h : (n.execute host .getNeighbors).1 = .ok answer) : ∃ addresses, answer = .neighbors addresses := by
  rcases Option.eq_none_or_eq_some (n.device? host) with hd | ⟨d, hd⟩
  · rw [Network.execute_of_absent hd] at h
    cases h
  · rw [Network.execute_of_device hd] at h
    rcases d.receive_cases (n.clusterStatus host) .getNeighbors with ⟨-, hr⟩ | ⟨-, hop, -⟩ | ⟨-, -, hr⟩
    · rw [hr] at h
      cases h
    · cases hop
    · rw [hr] at h
      exact ⟨_, (Except.ok.inj h).symm⟩

/-- Where a session is opened to a switch, the work on it reports every rejection that it does not tolerate, every
conflict and every login that a member refused, each once and in order, and nothing else.  What concerns a member
of a data-plane cluster is reported of that member, and all else of the switch. -/
theorem configure_accounts (n : Network) (hlogin : n.login s.host = .ok ⟨⟩) :
    let failures := ((s.configure t force).run Network.adapter n).1
    let log := log Network.adapter (s.tasks t force) n
    (s.configure t force).exchanges Network.adapter n = .login s.host (.ok ⟨⟩) :: log.map (·.2) ∧
      (∀ entry ∈ log, entry.2.host = entry.1.host s) ∧
      failures.length = log.countP isRejection + log.countP (s.isConflict force) + log.countP isRefusedLogin ∧
      failures.map (fun f => (f.host, f.cause)) =
        log.filterMap fun (subject, exchange) => (s.report force subject exchange).map (subject.host s, ·) := by
  intro failures log
  have hanswer : Network.adapter.login s.host s.credentials n = (.ok ⟨⟩, n) := congrArg (·, n) hlogin
  have hreports : failures.map (fun f => (f.host, f.cause)) =
      log.filterMap fun (subject, exchange) => (s.report force subject exchange).map (subject.host s, ·) := by
    show ((s.configure t force).run Network.adapter n).1.map _ = _
    rw [configure_eq_tasks, run_session, hanswer]
    exact accounts_log (s.accounts_tasks t force fun host n _ => answer_getNeighbors n host) n
  refine ⟨?_, fun entry hentry => ?_, ?_, hreports⟩
  · rw [configure_eq_tasks, exchanges_session, hanswer, ← exchanges_collect]
    rfl
  · obtain ⟨work, m, htask, hexchange⟩ := mem_log hentry
    have hallows := (s.stays_tasks t force _ htask).events m entry.2.event (by
      rw [events_eq_exchanges]
      exact List.mem_map_of_mem hexchange)
    obtain ⟨subject, exchange⟩ := entry
    cases exchange with
    | login host answer => exact hallows
    | operation host op answer => exact hallows.1
  · rw [← s.length_report, ← hreports, List.length_map]

/-- The first leaf, with the second one as a member of its data-plane cluster. -/
def peeredLeaf : SwitchSpec :=
  { rewiredLeaf "leaf-1" with dataPlane := { nodes := [{
      host := "leaf-2", peerIp := "10.2.0.0", peerLoopbackIp := "10.0.0.1", loopbackNumber := "1", peerAsn := 65001 }] } }

/-- Of its five failures three are rejections, one is the conflict and one the login that its partner refuses. -/
theorem peeredLeaf_accounts :
    let failures := ((peeredLeaf.configure .clos false).run Network.adapter troubledLeaves).1
    let log := log Network.adapter (peeredLeaf.tasks .clos false) troubledLeaves
    log.countP isRejection = 3 ∧ log.countP (peeredLeaf.isConflict false) = 1 ∧ log.countP isRefusedLogin = 1 ∧
      failures.length = log.countP isRejection + log.countP (peeredLeaf.isConflict false) +
        log.countP isRefusedLogin ∧
      failures.map (·.host) = ["leaf-1", "leaf-1", "leaf-1", "leaf-1", "leaf-2"] := by
  intro failures log
  obtain ⟨-, -, hlength, -⟩ := peeredLeaf.configure_accounts .clos false troubledLeaves (by decide +kernel)
  exact ⟨by decide +kernel, by decide +kernel, by decide +kernel, hlength, by decide +kernel⟩

end SwitchSpec

end FabricProvision

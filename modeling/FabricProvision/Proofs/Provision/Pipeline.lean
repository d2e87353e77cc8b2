import FabricProvision.Proofs.Device.Journals
import FabricProvision.Proofs.Provision.Alphabets
import FabricProvision.Proofs.Provision.Interfaces

/-!
# The pipeline of a switch

Once the session is there, no failure keeps a later stage from its turn.  Some operations on a switch depend on
what it answered to others before them; all the rest, its milestones, is sent whatever is answered, each of them
in its place (`SwitchSpec.configure_pipeline`).  What an interface is sent for an update depends on the address
that it has, and is a milestone as a whole.
-/

namespace FabricProvision

open Dialogue

variable {σ : Type} {A : Adapter σ}

/-! ### Interfaces -/

namespace InterfaceSpec

variable (i : InterfaceSpec)

/-- What a numbered interface is cleared of before it gets its address. -/
inductive Clearing : List Operation → Prop
  | nothing : Clearing []
  | donor : Clearing [i.clearUnnumbered]
  | address (ip : String) : Clearing [.unconfigureNumbered i.kind.text i.name ip, i.clearUnnumbered]

/-- The operations that an interface is provisioned by. -/
def Sends (ops : List Operation) : Prop :=
  match i.change with
  | .keep => ops = []
  | .create => ops = [i.goal]
  | .update =>
    if i.kind = .loopback then ops = [i.goal]
    else if i.donor.isSome then ops = [i.clearUnnumbered, i.goal]
    else ∃ clearing, i.Clearing clearing ∧ ops = .getInterface i.kind.text i.name :: clearing ++ [i.goal]
  | .delete =>
    if i.kind = .loopback then ops = [.deleteLoopback i.name]
    else if i.donor.isSome then ops = [i.clearUnnumbered]
    else ops = [.unconfigureNumbered i.kind.text i.name i.ip]

variable {i}

private theorem events_clearOther (host : String) (s : σ) :
    ∃ clearing, i.Clearing clearing ∧ (i.clearOther host).events A s =
      .operation host (.getInterface i.kind.text i.name) :: clearing.map (.operation host) := by
  unfold clearOther
  rw [events_bind, events_query]
  split
  · exact ⟨_, .donor, by rw [events_attempt]; rfl⟩
  · rename_i ip _
    split
    · exact ⟨_, .address ip, by rw [events_bind, events_attempt, events_attempt]; rfl⟩
    · exact ⟨_, .nothing, rfl⟩

theorem events_provision (host : String) (s : σ) :
    ∃ ops, i.Sends ops ∧ (i.provision host).events A s = ops.map (.operation host) := by
  have hnothing : ∀ s, (nothing : Dialogue (Except FailureCause Unit)).events A s = [] := fun _ => rfl
  unfold provision Sends goal
  by_cases hkind : i.kind = .loopback
  · unfold provisionLoopback
    cases i.change <;> simp [hkind, events_perform, hnothing]
  cases hdonor : i.donor with
  | some donor =>
    unfold provisionUnnumbered
    cases i.change <;> simp [hkind, events_bind, events_attempt, events_perform, hnothing]
  | none =>
    unfold provisionNumbered
    cases i.change with
    | update =>
      obtain ⟨clearing, hclearing, hevents⟩ := events_clearOther (A := A) (i := i) host s
      simp only [hkind, if_false, Option.isSome_none, Bool.false_eq_true]
      refine ⟨_, ⟨clearing, hclearing, rfl⟩, ?_⟩
      rw [events_bind, hevents, events_perform, List.map_append]
      rfl
    | create | delete | keep => simp [hkind, events_perform, hnothing]

end InterfaceSpec

/-! ### Milestones -/

/-- The operation is sent to a switch whatever it answers, or belongs to the work on an interface. -/
def Operation.isMilestone : Operation → Bool
  | configureAnycastGateway .. | unconfigureAnycastGateway => false
  | createEvpnInstance .. | deleteEvpnInstance _ | clearEvpnNeighbors => false
  | op => op.part.stage != .dataPlane

namespace Dialogue

variable {α β : Type}

/-- The milestones among the operations that a host is sent. -/
def milestones (A : Adapter σ) (host : String) (x : Dialogue α) (s : σ) : List Operation :=
  ((x.events A s).filterMap (Event.sentTo host)).filter Operation.isMilestone

variable {host : String}

private theorem milestones_of_events {x : Dialogue α} {s : σ} {ops : List Operation}
    (h : x.events A s = ops.map (.operation host)) : milestones A host x s = ops.filter Operation.isMilestone := by
  have hsent : (fun op => Event.sentTo host (.operation host op)) = some := by
    funext op
    exact if_pos rfl
  rw [milestones, h, List.filterMap_map, Function.comp_def, hsent, List.filterMap_some]

private theorem milestones_bind (x : Dialogue α) (f : α → Dialogue β) (s : σ) :
    milestones A host (x >>= f) s =
      milestones A host x s ++ milestones A host (f (x.run A s).1) (x.run A s).2 := by
  simp only [milestones, events_bind, List.filterMap_append, List.filter_append]

private theorem milestones_collect_cons (work : Dialogue (List Failure)) (rest : List (Dialogue (List Failure)))
    (s : σ) : milestones A host (collect (work :: rest)) s =
      milestones A host work s ++ milestones A host (collect rest) (work.run A s).2 := by
  simp only [milestones, events_collect_cons, List.filterMap_append, List.filter_append]

private theorem milestones_collect_append (xs ys : List (Dialogue (List Failure))) (s : σ) :
    milestones A host (collect (xs ++ ys)) s =
      milestones A host (collect xs) s ++ milestones A host (collect ys) ((collect xs).run A s).2 := by
  induction xs generalizing s with
  | nil => rfl
  | cons x xs ih =>
    rw [List.cons_append, milestones_collect_cons, milestones_collect_cons, ih, run_collect_cons, List.append_assoc]

private theorem milestones_step (operation : String) (work : Dialogue (Except FailureCause Unit)) (s : σ) :
    milestones A host (step operation host work) s = milestones A host work s := by
  rw [milestones, events_step, milestones]

private theorem milestones_perform (op : Operation) (s : σ) :
    milestones A host (perform host op) s = [op].filter Operation.isMilestone :=
  milestones_of_events (events_perform host op s)

private theorem milestones_performStep (operation : String) (op : Operation) (s : σ) :
    milestones A host (performStep operation host op) s = [op].filter Operation.isMilestone :=
  milestones_of_events (events_performStep operation host op s)

private theorem milestones_query (op : Operation) (read : Response → String → Except DeviceError α) (s : σ) :
    milestones A host (query host op read) s = [op].filter Operation.isMilestone :=
  milestones_of_events (events_query host op read s)

private theorem milestones_attempt (op : Operation) (s : σ) :
    milestones A host (attempt host op) s = [op].filter Operation.isMilestone :=
  milestones_of_events (events_attempt host op s)

/-- In a scope without milestones there are none. -/
private theorem milestones_of_stays {scope : Scope} {x : Dialogue α} (hx : x.Stays scope)
    (hscope : ∀ op, scope.operations host op → op.isMilestone = false) (s : σ) : milestones A host x s = [] := by
  refine List.filter_eq_nil_iff.2 fun op hop => ?_
  obtain ⟨event, hevent, hsent⟩ := List.mem_filterMap.1 hop
  have hallows := hx.events s event hevent
  cases event with
  | login other accepted => cases hsent
  | operation other op' =>
    by_cases hother : other = host
    · simp only [Event.sentTo, hother, if_true, Option.some.injEq] at hsent
      subst hsent hother
      simp [hscope _ hallows]
    · simp [Event.sentTo, hother] at hsent

/-- What is sent about interfaces and BGP is all milestones. -/
private theorem milestones_of_stage {stage : Stage} (hstage : stage = .interfaces ∨ stage = .bgp) {x : Dialogue α}
    (hx : x.Stays (Scope.on host (·.stage = stage))) {s : σ} {ops : List Operation}
    (h : x.events A s = ops.map (.operation host)) : milestones A host x s = ops := by
  rw [milestones_of_events h, List.filter_eq_self]
  intro op hop
  have hpart : op.part.stage = stage := by
    have hallows := hx.events s (.operation host op) (h ▸ List.mem_map_of_mem hop)
    exact hallows.2
  rcases hstage with rfl | rfl <;> cases op <;> first | rfl | cases hpart

/-- Of the work on a unique object only the question is a milestone. -/
private theorem milestones_ensure {object : UniqueObject} {desired : String} {create : Operation} {force : Bool}
    (hcreate : create.isMilestone = false) (hdeletion : ∀ other, (object.deletion other).isMilestone = false) (s : σ) :
    milestones A host (object.ensure host desired create force) s = [object.lookup].filter Operation.isMilestone := by
  have hperform : ∀ s, milestones A host (perform host create) s = [] := fun s => by
    simp [milestones_perform, hcreate]
  unfold UniqueObject.ensure
  rw [milestones_bind, milestones_query]
  split
  · rw [hperform, List.append_nil]
  · rename_i other _
    split
    · rw [milestones_bind, milestones_attempt, hperform]
      simp [hdeletion]
    · exact List.append_nil _

end Dialogue

/-! ### Stages -/

namespace SwitchSpec

variable (t : Topology) (force : Bool) (sw : SwitchSpec)

private theorem milestones_provisionSystem (s : σ) :
    milestones A sw.host (sw.provisionSystem t force) s =
      [.configureL2Mtu sw.mtu, .configureIpMtu sw.ipMtu] ++
        if sw.overlay.enabled = true ∧ sw.role = t.overlayRole then [.getAnycastGateway] else [] := by
  have hgateway : ∀ s, milestones A sw.host (collect (if sw.overlay.enabled && sw.isOverlay t then
      [step "Configure Anycast Gateway" sw.host <|
        UniqueObject.ensure sw.host .anycastGateway sw.overlay.anycastMac
          (.configureAnycastGateway sw.overlay.anycastMac sw.overlay.ipv6AnycastMac) force]
      else [])) s = if sw.overlay.enabled = true ∧ sw.role = t.overlayRole then [.getAnycastGateway] else [] := by
    intro s
    simp only [isOverlay, Bool.and_eq_true, beq_iff_eq]
    split
    · rw [milestones_collect_cons, milestones_step, milestones_ensure rfl fun _ => rfl]
      rfl
    · rfl
  unfold provisionSystem
  rw [milestones_collect_append, milestones_collect_cons, milestones_collect_cons, milestones_performStep,
    milestones_performStep, hgateway]
  rfl

private theorem exists_of_forall₂ {α β γ : Type} {R : α → β → Prop} {f : β → γ} {as : List α} {cs : List γ}
    (h : List.Forall₂ (fun a c => ∃ b, R a b ∧ c = f b) as cs) : ∃ bs, List.Forall₂ R as bs ∧ cs = bs.map f := by
  induction h with
  | nil => exact ⟨[], .nil, rfl⟩
  | cons h _ ih =>
    obtain ⟨b, hb, rfl⟩ := h
    obtain ⟨bs, hbs, rfl⟩ := ih
    exact ⟨b :: bs, .cons hb hbs, rfl⟩

private theorem milestones_provisionInterfaces (s : σ) :
    ∃ pieces, List.Forall₂ InterfaceSpec.Sends sw.interfaces pieces ∧
      milestones A sw.host sw.provisionInterfaces s = pieces.flatten := by
  have hsends : ∀ i ∈ sw.interfaces, ∀ s, ∃ ops, i.Sends ops ∧
      (step "Configure Interface" sw.host (i.provision sw.host)).events A s = ops.map (.operation sw.host) := by
    intro i _ s
    rw [events_step]
    exact i.events_provision sw.host s
  obtain ⟨events, hevents, hflatten⟩ :
      ∃ events, List.Forall₂ (fun i events => ∃ ops, i.Sends ops ∧ events = ops.map (.operation sw.host))
        sw.interfaces events ∧ sw.provisionInterfaces.events A s = events.flatten := events_fanOut hsends s
  obtain ⟨pieces, hpieces, rfl⟩ := exists_of_forall₂ hevents
  exact ⟨pieces, hpieces, milestones_of_stage (.inl rfl) sw.stays_provisionInterfaces
    (hflatten.trans List.map_flatten.symm)⟩

private theorem milestones_provisionBgp (s : σ) :
    milestones A sw.host (sw.provisionBgp t) s =
      (if t = .clos ∧ sw.role = .leaf ∧ sw.overlay.enabled = false ∧ sw.bgp.linkAddressing = .numbered
        then [.configureRouteMap] else []) ++ [sw.bgpOperation t] ++
      sw.staleNeighbors.map (sw.removalOperation t) ++ sw.wantedNeighbors.map (sw.neighborOperation t) ++
      [.configureRouterId (sw.routerId?.getD "")] := by
  have hsteps : ∀ (steps : List (String × Operation)) (s : σ),
      (fanOut steps fun step => performStep step.1 sw.host step.2).events A s =
        (steps.map (·.2)).map (.operation sw.host) := by
    intro steps
    induction steps with
    | nil => exact fun _ => rfl
    | cons step rest ih =>
      intro s
      exact (events_collect_cons _ _ _).trans (congrArg₂ (· ++ ·) (events_performStep ..) (ih _))
  rw [milestones_of_stage (.inr rfl) (sw.stays_provisionBgp t) (hsteps (sw.bgpSteps t) s)]
  simp only [bgpSteps, needsRouteMap, List.map_append, List.map_map, List.map_cons, List.map_nil,
    Function.comp_def, Bool.and_eq_true, beq_iff_eq, Bool.not_eq_true', and_assoc]
  split <;> rfl

private theorem milestones_provisionEvpn (s : σ) :
    milestones A sw.host (sw.provisionEvpn force) s = [.configureMacAndArp sw.evpn, .getEvpnInstance] := by
  unfold provisionEvpn
  rw [milestones_bind, milestones_performStep, milestones_bind, milestones_step,
    milestones_ensure rfl fun _ => rfl]
  split
  · rw [milestones_bind, milestones_performStep]
    rfl
  · rfl

private theorem milestones_dataPlane {x : Dialogue (List Failure)}
    (hx : x.Stays (Scope.everywhere (·.stage = .dataPlane))) (s : σ) : milestones A sw.host x s = [] := by
  refine milestones_of_stays hx (fun op hop => ?_) s
  have hstage : op.part.stage = .dataPlane := hop
  cases op <;> first | rfl | cases hstage

/-! ### All of it -/

/-- The milestones of a switch in the order of its stages, if its interfaces are sent these operations. -/
def course (interfaces : List (List Operation)) : List Operation :=
  [.configureL2Mtu sw.mtu, .configureIpMtu sw.ipMtu] ++
    (if sw.overlay.enabled = true ∧ sw.role = t.overlayRole then [.getAnycastGateway] else []) ++
    interfaces.flatten ++
    (if t = .clos ∧ sw.role = .leaf ∧ sw.overlay.enabled = false ∧ sw.bgp.linkAddressing = .numbered
      then [.configureRouteMap] else []) ++
    [sw.bgpOperation t] ++
    (sw.neighbors.filter (·.change = .delete)).map (sw.removalOperation t) ++
    (sw.neighbors.filter fun n => n.change = .create ∨ n.change = .update).map (sw.neighborOperation t) ++
    [.configureRouterId (sw.routerId?.getD "")] ++
    if sw.role = t.overlayRole then [.configureMacAndArp sw.evpn, .getEvpnInstance] else []

private theorem milestones_stages (s : σ) :
    ∃ pieces, List.Forall₂ InterfaceSpec.Sends sw.interfaces pieces ∧
      milestones A sw.host (collect ([sw.provisionSystem t force, sw.provisionInterfaces, sw.provisionBgp t,
        sw.staleDataPlane.remove] ++ (if sw.isOverlay t then [sw.provisionEvpn force] else []) ++
        [sw.dataPlane.add])) s = sw.course t pieces := by
  obtain ⟨pieces, hpieces, hinterfaces⟩ :=
    sw.milestones_provisionInterfaces (A := A) ((sw.provisionSystem t force).run A s).2
  have hevpn : ∀ s, milestones A sw.host (collect (if sw.isOverlay t then [sw.provisionEvpn force] else [])) s =
      if sw.role = t.overlayRole then [.configureMacAndArp sw.evpn, .getEvpnInstance] else [] := by
    intro s
    simp only [isOverlay, beq_iff_eq]
    split
    · rw [milestones_collect_cons, milestones_provisionEvpn]
      rfl
    · rfl
  have hnil : ∀ s, milestones A sw.host (collect []) s = [] := fun _ => rfl
  refine ⟨pieces, hpieces, ?_⟩
  simp only [milestones_collect_append, milestones_collect_cons, milestones_provisionSystem, hinterfaces,
    milestones_provisionBgp, milestones_dataPlane _ sw.stays_removeStale, hevpn,
    milestones_dataPlane _ sw.stays_addDataPlane, hnil, List.append_nil, course, Bool.decide_or,
    List.append_assoc]
  rfl

/-- Whatever fails, a switch to which a session is opened receives all its milestones, in order, and no others.
Without a session nothing is sent to anyone, which is one failure. -/
theorem configure_pipeline (n : Network) :
    let run := (sw.configure t force).run Network.adapter n
    (n.login sw.host = .ok ⟨⟩ → ∃ ops pieces, run.2.journal sw.host = n.journal sw.host ++ ops ∧
      List.Forall₂ InterfaceSpec.Sends sw.interfaces pieces ∧
      ops.filter Operation.isMilestone = sw.course t pieces) ∧
    ∀ e, n.login sw.host = .error e → run = ([⟨"Configure Switch Login", sw.host, .login e⟩], n) := by
  intro run
  have hanswer : ∀ answer, n.login sw.host = answer →
      Network.adapter.login sw.host sw.credentials n = (answer, n) := fun answer h => congrArg (·, n) h
  refine ⟨fun hlogin => ?_, fun e hlogin => ?_⟩
  · obtain ⟨d, hd, -⟩ := Network.device_of_login hlogin
    obtain ⟨pieces, hpieces, hmilestones⟩ := sw.milestones_stages t force (A := Network.adapter) n
    refine ⟨_, pieces, Network.journal_run _ n (Option.isSome_of_eq_some hd), hpieces, ?_⟩
    rw [configure, events_session, hanswer _ hlogin]
    exact hmilestones
  · show (sw.configure t force).run Network.adapter n = _
    rw [configure, run_session, hanswer _ hlogin]

/-- A leaf that gets another address on a link and another neighbor. -/
def rewiredLeaf (host : String) : SwitchSpec where
  host := host
  role := .leaf
  fabric := "dc"
  interfaces := [{ name := "0/1", kind := .ethernet, ip := "10.9.0.2/31", change := .update }]
  neighbors := [{ address := "10.9.0.1", remoteAs := 65000, change := .delete },
    { address := "10.9.0.3", remoteAs := 65000, change := .create }]

/-- Two leaves, of which one refuses to be numbered, has no such neighbor and is in another fabric, and the other one
refuses logins. -/
def troubledLeaves : Network :=
  (((Network.ofHosts ["leaf-1", "leaf-2"]).seed "leaf-1" { evpnInstance := some "core" }).failOperation "leaf-1"
    "Configure Interface Numbered").failLogin "leaf-2"

/-- The first leaf reports four failures, its missing router-id among them, and gets to the last stage; the second
one receives nothing. -/
theorem rewiredLeaf_pipeline :
    let run := fun host => ((rewiredLeaf host).configure .clos false).run Network.adapter troubledLeaves
    (run "leaf-1").1.length = 4 ∧
      (∃ ops pieces, (run "leaf-1").2.journal "leaf-1" = troubledLeaves.journal "leaf-1" ++ ops ∧
        List.Forall₂ InterfaceSpec.Sends (rewiredLeaf "leaf-1").interfaces pieces ∧
        ops.filter Operation.isMilestone = (rewiredLeaf "leaf-1").course .clos pieces) ∧
      run "leaf-2" =
        ([⟨"Configure Switch Login", "leaf-2", .login (.login "leaf-2" "authentication failed")⟩], troubledLeaves) :=
  ⟨by decide +kernel, ((rewiredLeaf "leaf-1").configure_pipeline .clos false troubledLeaves).1 (by decide +kernel),
    ((rewiredLeaf "leaf-2").configure_pipeline .clos false troubledLeaves).2 _ (by decide +kernel)⟩

end SwitchSpec

end FabricProvision

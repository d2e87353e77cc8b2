import FabricProvision.Proofs.Provision.Interfaces

/-!
# Stages of a switch

A switch is configured in stages, each about parts of its own.  What a stage is for is a list of operations
(`systemGoals` and so on).  Without a failure the switch has all of them afterwards, and a switch that has them
is left as it was.  For BGP neighbors the stage also says exactly which ones there are in the end
(`brings_neighbors`): removed ones leave, then wanted ones enter.
-/

namespace FabricProvision.SwitchSpec

open Std (ExtTreeSet)
open Dialogue Device Operation

variable (t : Topology) (force : Bool) (s : SwitchSpec)

/-- The device has what each operation is for. -/
def HasAll (ops : List Operation) (d : Device) : Prop := ∀ op ∈ ops, d.Has op

private theorem keeps_performStep {operation host : String} {op : Operation} {parts : Part → Prop}
    {P : Device → Prop} (hP : Concerns parts P) (hop : ¬ parts op.part) :
    Brings adapter P (performStep operation host op) P := by
  have hstays : (performStep operation host op).Stays ⟨fun _ => True, fun _ op' => op' = op⟩ :=
    stays_performStep rfl
  refine keeps_of_stays hstays hP fun _ op' hop' => ?_
  cases show op' = op from hop'
  exact hop

/-! ### System -/

/-- The operation that sets the anycast gateway. -/
def anycastOperation : Operation := .configureAnycastGateway s.overlay.anycastMac s.overlay.ipv6AnycastMac

/-- What the first stage is for. -/
def systemGoals : List Operation :=
  [.configureL2Mtu s.mtu, .configureIpMtu s.ipMtu] ++
    if s.overlay.enabled && s.isOverlay t then [s.anycastOperation] else []

theorem mem_systemGoals {op : Operation} :
    op ∈ s.systemGoals t ↔ op = .configureL2Mtu s.mtu ∨ op = .configureIpMtu s.ipMtu ∨
      (s.overlay.enabled = true ∧ s.isOverlay t = true) ∧ op = s.anycastOperation := by
  simp [systemGoals]

private theorem stays_anycast (operation : String) :
    (step operation s.host (UniqueObject.ensure s.host .anycastGateway s.overlay.anycastMac s.anycastOperation
      force)).Stays (Scope.on s.host (· = .anycastGateway)) :=
  stays_step (stays_ensure rfl rfl)

theorem brings_provisionSystem :
    Brings adapter (fun _ => True) (s.provisionSystem t force) (HasAll (s.systemGoals t)) := by
  refine brings_all fun op hop => ?_
  have hsystem : s.provisionSystem t force = collect (
      performStep "Configure System L2 MTU" s.host (.configureL2Mtu s.mtu) ::
      performStep "Configure System IP MTU" s.host (.configureIpMtu s.ipMtu) ::
      if s.overlay.enabled && s.isOverlay t then
        [step "Configure Anycast Gateway" s.host (UniqueObject.ensure s.host .anycastGateway s.overlay.anycastMac
          s.anycastOperation force)] else []) := rfl
  rw [hsystem]
  have hkeeps : ∀ {op : Operation}, op.part ≠ .anycastGateway → Brings adapter (·.Has op) (collect
      (if s.overlay.enabled && s.isOverlay t then
        [step "Configure Anycast Gateway" s.host (UniqueObject.ensure s.host .anycastGateway s.overlay.anycastMac
          s.anycastOperation force)] else [])) (·.Has op) := by
    intro op hpart
    refine brings_collect_keeps fun w hw => ?_
    split at hw
    · cases List.mem_singleton.1 hw
      exact keeps_of_stays (s.stays_anycast force _) (concerns_has op) fun _ op' hop' hsame =>
        hpart (hsame.symm.trans hop'.2)
    · cases hw
  rcases (s.mem_systemGoals t).1 hop with rfl | rfl | ⟨hoverlay, rfl⟩
  · refine brings_collect_cons (brings_performStep rfl) (brings_collect_cons ?_ (hkeeps (by simp [part])))
    exact keeps_performStep (concerns_has _) (by simp [part])
  · exact brings_collect_cons (brings_true _)
      (brings_collect_cons (brings_performStep rfl) (hkeeps (by simp [part])))
  · refine brings_collect_cons (brings_true _) (brings_collect_cons (brings_true _) ?_)
    rw [if_pos (Bool.and_eq_true_iff.2 hoverlay)]
    exact brings_collect_cons (brings_ensure rfl) brings_collect_nil

theorem idle_provisionSystem {d : Device} (h : HasAll (s.systemGoals t) d) :
    Idle adapter quiet (s.provisionSystem t force) d := by
  refine idle_collect shows_quiet fun w hw => ?_
  simp only [List.mem_append, List.mem_cons, List.not_mem_nil, or_false] at hw
  rcases hw with (rfl | rfl) | hw
  · exact idle_performStep (h _ ((s.mem_systemGoals t).2 (.inl rfl)))
  · exact idle_performStep (h _ ((s.mem_systemGoals t).2 (.inr (.inl rfl))))
  · split at hw
    · rename_i hoverlay
      have hhas : d.Has s.anycastOperation :=
        h _ ((s.mem_systemGoals t).2 (.inr (.inr ⟨Bool.and_eq_true_iff.1 hoverlay, rfl⟩)))
      have hmac : d.configuration.anycastMac = some s.overlay.anycastMac := hhas.achieved
      cases List.mem_singleton.1 hw
      refine idle_ensure hhas (by simp [UniqueObject.lookup]) ?_
      show (Except.ok (Response.named d.configuration.anycastMac), d.configuration) = _
      rw [hmac]
    · cases hw

/-! ### Interfaces -/

/-- What the second stage is for. -/
def interfaceGoals : List Operation :=
  (s.interfaces.filter fun i => i.change == .create || i.change == .update).map (·.goal)

/-- No two items are about the same interface. -/
def DistinctInterfaces : Prop := s.interfaces.Pairwise fun i j => i.key ≠ j.key

theorem mem_interfaceGoals {op : Operation} :
    op ∈ s.interfaceGoals ↔ ∃ i ∈ s.interfaces, i.Wanted ∧ i.goal = op := by
  simp [interfaceGoals, InterfaceSpec.Wanted, and_assoc]

/-- What one item establishes, the others keep. -/
private theorem brings_interface {P Q : Device → Prop} {i : InterfaceSpec} (hi : i ∈ s.interfaces)
    (hdistinct : s.DistinctInterfaces) (hP : Concerns (· = .interface i.key) P)
    (hQ : Concerns (· = .interface i.key) Q)
    (h : Brings adapter P (step "Configure Interface" s.host (i.provision s.host)) Q) :
    Brings adapter P s.provisionInterfaces Q := by
  have hothers : ∀ {R : Device → Prop} {j : InterfaceSpec}, Concerns (· = .interface i.key) R → j.key ≠ i.key →
      Brings adapter R (step "Configure Interface" s.host (j.provision s.host)) R := by
    intro R j hR hne
    refine keeps_of_stays (stays_step (stays_provision s.host j)) hR fun _ op hop hsame => hne ?_
    have hkey : Part.interface j.key = Part.interface i.key := hop.2.symm.trans hsame
    exact Part.interface.inj hkey
  exact brings_fanOut_mem hi hdistinct (fun j _ hne => hothers hP hne) h fun j _ hne => hothers hQ (Ne.symm hne)

theorem brings_provisionInterfaces (hdistinct : s.DistinctInterfaces) :
    Brings adapter (fun _ => True) s.provisionInterfaces (HasAll s.interfaceGoals) := by
  refine brings_all fun op hop => ?_
  obtain ⟨i, hi, hwanted, rfl⟩ := s.mem_interfaceGoals.1 hop
  refine s.brings_interface hi hdistinct (concerns_true _) ?_ (InterfaceSpec.brings_provision hwanted)
  exact (concerns_has i.goal).mono fun p hp => hp.trans i.part_goal

theorem brings_deletedInterface (hdistinct : s.DistinctInterfaces) {i : InterfaceSpec} (hi : i ∈ s.interfaces)
    (hdelete : i.change = .delete) (hform : i.kind = .loopback ∨ i.donor = none) :
    Brings adapter (fun _ => True) s.provisionInterfaces (InterfaceSpec.NoAddress i.key) :=
  s.brings_interface hi hdistinct (concerns_true _) (InterfaceSpec.concerns_noAddress i.key)
    (InterfaceSpec.brings_provision_delete hdelete hform)

/-- An item that is to be kept leaves its interface alone. -/
theorem brings_keptInterface (hdistinct : s.DistinctInterfaces) {i : InterfaceSpec} (hi : i ∈ s.interfaces)
    (hkeep : i.change = .keep) {P : Device → Prop} (hP : Concerns (· = .interface i.key) P) :
    Brings adapter P s.provisionInterfaces P := by
  refine s.brings_interface hi hdistinct hP hP fun d hd _ => ?_
  have hrun : (step "Configure Interface" s.host (i.provision s.host)).run adapter d = ([], d) := by
    rw [InterfaceSpec.provision_of_keep hkeep]
    rfl
  rw [hrun]
  exact hd

theorem idle_provisionInterfaces (hdelete : ∀ i ∈ s.interfaces, i.change ≠ .delete) {d : Device}
    (h : HasAll s.interfaceGoals d) : Idle adapter quiet s.provisionInterfaces d := by
  refine idle_fanOut shows_quiet fun i hi => InterfaceSpec.idle_provision (hdelete i hi) fun hkeep => ?_
  refine h _ (s.mem_interfaceGoals.2 ⟨i, hi, ?_, rfl⟩)
  have hdelete := hdelete i hi
  unfold InterfaceSpec.Wanted
  cases hchange : i.change <;> simp_all

/-! ### BGP -/

/-- What the third stage is for. -/
def bgpGoals : List Operation :=
  (if s.needsRouteMap t then [.configureRouteMap] else []) ++ [s.bgpOperation t] ++
    s.wantedNeighbors.map (s.neighborOperation t) ++ [.configureRouterId (s.routerId?.getD "")]

theorem mem_bgpGoals {op : Operation} :
    op ∈ s.bgpGoals t ↔ (s.needsRouteMap t = true ∧ op = .configureRouteMap) ∨ op = s.bgpOperation t ∨
      (∃ n ∈ s.wantedNeighbors, s.neighborOperation t n = op) ∨ op = .configureRouterId (s.routerId?.getD "") := by
  simp [bgpGoals]

private theorem configures_bgpGoals {op : Operation} (h : op ∈ s.bgpGoals t) : op.configures = true := by
  rcases (s.mem_bgpGoals t).1 h with ⟨-, rfl⟩ | rfl | ⟨n, -, rfl⟩ | rfl
  · rfl
  · cases t <;> rfl
  · unfold neighborOperation
    split <;> rfl
  · rfl

theorem part_bgpOperation : (s.bgpOperation t).part = .localAsn := by cases t <;> rfl

theorem part_neighborOperation (n : NeighborSpec) : (s.neighborOperation t n).part = .neighbors := by
  unfold neighborOperation
  split <;> rfl

theorem apply_neighborOperation (n : NeighborSpec) (c : Configuration) :
    (s.neighborOperation t n).apply.run.run c =
      (.ok .ok, { c with bgpNeighbors := c.bgpNeighbors.insert n.address }) := by
  unfold neighborOperation
  split <;> rfl

private theorem apply_removalOperation (n : NeighborSpec) (c : Configuration) :
    ((s.removalOperation t n).apply.run.run c).2 = { c with bgpNeighbors := c.bgpNeighbors.erase n.address } := by
  simp only [removalOperation, apply, run_acknowledge]
  unfold removeNeighbor
  simp only [Step.run_bind, Step.run_get, Step.run_modify, run_require]

private theorem mem_insert {set : ExtTreeSet String} {a x : String} : x ∈ set.insert a ↔ a = x ∨ x ∈ set := by
  rw [ExtTreeSet.mem_insert, Std.LawfulEqOrd.compare_eq_iff_eq]

private theorem mem_erase {set : ExtTreeSet String} {a x : String} : x ∈ set.erase a ↔ a ≠ x ∧ x ∈ set := by
  rw [ExtTreeSet.mem_erase, ne_eq, Std.LawfulEqOrd.compare_eq_iff_eq]

/-- Configuring one neighbor keeps the others. -/
private theorem keeps_neighborOperation {operation : String} {n m : NeighborSpec} :
    Brings adapter (·.Has (s.neighborOperation t n)) (performStep operation s.host (s.neighborOperation t m))
      (·.Has (s.neighborOperation t n)) := by
  have hachieved : ∀ c : Configuration, (s.neighborOperation t n).Achieved c ↔ n.address ∈ c.bgpNeighbors := by
    intro c
    unfold neighborOperation
    split <;> exact Iff.rfl
  refine keeps_has ?_ fun c r h _ => ?_
  · unfold neighborOperation
    split <;> simp
  · rw [hachieved] at h ⊢
    rw [apply_neighborOperation]
    exact mem_insert.2 (.inr h)

/-- How the steps of the stage are sent. -/
private abbrev send (s : SwitchSpec) : String × Operation → Dialogue (List Failure) :=
  fun (operation, op) => performStep operation s.host op

private theorem keeps_send {P : Device → Prop} {parts : Part → Prop} (hP : Concerns parts P)
    {steps : List (String × Operation)} (h : ∀ x ∈ steps, ¬ parts x.2.part) :
    Brings adapter P (fanOut steps s.send) P :=
  brings_fanOut_keeps fun x hx => keeps_performStep hP (h x hx)

private theorem brings_send_one {operation : String} {op : Operation} (hop : op.configures = true) :
    Brings adapter (fun _ => True) (fanOut [(operation, op)] s.send) (·.Has op) :=
  brings_collect_cons (brings_performStep hop) brings_collect_nil

section sections

variable {P : Device → Prop} {p : Part} (hP : Concerns (· = p) P)

include hP

private theorem keeps_process (hp : p ≠ .localAsn) :
    Brings adapter P (fanOut [("BGP Operation", s.bgpOperation t)] s.send) P :=
  s.keeps_send hP fun x hx => by
    cases List.mem_singleton.1 hx
    rw [part_bgpOperation]
    exact hp.symm

private theorem keeps_removals (hp : p ≠ .neighbors) (ns : List NeighborSpec) :
    Brings adapter P (fanOut (ns.map fun n => ("BGP Neighbor", s.removalOperation t n)) s.send) P :=
  s.keeps_send hP fun x hx => by
    obtain ⟨n, -, rfl⟩ := List.mem_map.1 hx
    exact hp.symm

private theorem keeps_wanted (hp : p ≠ .neighbors) (ns : List NeighborSpec) :
    Brings adapter P (fanOut (ns.map fun n => ("BGP Neighbor", s.neighborOperation t n)) s.send) P :=
  s.keeps_send hP fun x hx => by
    obtain ⟨n, -, rfl⟩ := List.mem_map.1 hx
    dsimp only
    rw [part_neighborOperation]
    exact hp.symm

private theorem keeps_routerId (hp : p ≠ .routerId) (id : String) :
    Brings adapter P (fanOut [("Router ID", .configureRouterId id)] s.send) P :=
  s.keeps_send hP fun x hx => by
    cases List.mem_singleton.1 hx
    exact hp.symm

end sections

theorem brings_provisionBgp : Brings adapter (fun _ => True) (s.provisionBgp t) (HasAll (s.bgpGoals t)) := by
  refine brings_all fun op hop => ?_
  have hconfigures := s.configures_bgpGoals t hop
  -- The steps before the one for the goal do not matter, and those after it keep the goal.
  rcases (s.mem_bgpGoals t).1 hop with ⟨hmap, rfl⟩ | rfl | ⟨n, hn, rfl⟩ | rfl
  · have hhas := concerns_has .configureRouteMap
    refine brings_fanOut_append (brings_fanOut_append (brings_fanOut_append (brings_fanOut_append ?_
      (s.keeps_process t hhas (by simp [part]))) (s.keeps_removals t hhas (by simp [part]) _))
      (s.keeps_wanted t hhas (by simp [part]) _)) (s.keeps_routerId hhas (by simp [part]) _)
    rw [if_pos hmap]
    exact s.brings_send_one rfl
  · have hhas := concerns_has (s.bgpOperation t)
    have hpart := s.part_bgpOperation t
    exact brings_fanOut_append (brings_fanOut_append (brings_fanOut_append (brings_fanOut_append (brings_true _)
      (s.brings_send_one hconfigures)) (s.keeps_removals t hhas (by simp [hpart]) _))
      (s.keeps_wanted t hhas (by simp [hpart]) _)) (s.keeps_routerId hhas (by simp [hpart]) _)
  · have hhas := concerns_has (s.neighborOperation t n)
    refine brings_fanOut_append (brings_fanOut_append (brings_true _) ?_)
      (s.keeps_routerId hhas (by simp [part_neighborOperation]) _)
    refine brings_fanOut_mem (List.mem_map_of_mem hn) (List.pairwise_of_forall fun _ _ => trivial)
      (fun _ _ _ => brings_true _) (brings_performStep hconfigures) fun x hx _ => ?_
    obtain ⟨m, -, rfl⟩ := List.mem_map.1 hx
    exact s.keeps_neighborOperation t
  · exact brings_fanOut_append (brings_true _) (s.brings_send_one hconfigures)

/-! ### The set of neighbors -/

private theorem brings_removals (ns : List NeighborSpec) (M : String → Prop) :
    Brings adapter (fun d => ∀ x, x ∈ d.configuration.bgpNeighbors ↔ M x)
      (fanOut (ns.map fun n => ("BGP Neighbor", s.removalOperation t n)) s.send)
      (fun d => ∀ x, x ∈ d.configuration.bgpNeighbors ↔ M x ∧ ∀ n ∈ ns, n.address ≠ x) := by
  -- `M` is what the removals so far have left.
  induction ns generalizing M with
  | nil => exact brings_collect_nil.weaken (fun _ h => h) fun d h x => by simp [h]
  | cons n rest ih =>
    refine brings_collect_cons (Q := fun d => ∀ x, x ∈ d.configuration.bgpNeighbors ↔ M x ∧ n.address ≠ x) ?_
      ((ih fun x => M x ∧ n.address ≠ x).weaken (fun _ h => h) fun d h x => ?_)
    · refine brings_apply _ (P := fun c => ∀ x, x ∈ c.bgpNeighbors ↔ M x)
        (Q := fun c => ∀ x, x ∈ c.bgpNeighbors ↔ M x ∧ n.address ≠ x) (by simp [removalOperation]) ?_
      intro c r h _ x
      rw [apply_removalOperation, mem_erase, h]
      exact and_comm
    · rw [h]
      simp only [List.mem_cons, forall_eq_or_imp, and_assoc]

private theorem brings_wanted (ns : List NeighborSpec) (M : String → Prop) :
    Brings adapter (fun d => ∀ x, x ∈ d.configuration.bgpNeighbors ↔ M x)
      (fanOut (ns.map fun n => ("BGP Neighbor", s.neighborOperation t n)) s.send)
      (fun d => ∀ x, x ∈ d.configuration.bgpNeighbors ↔ M x ∨ ∃ n ∈ ns, n.address = x) := by
  induction ns generalizing M with
  | nil => exact brings_collect_nil.weaken (fun _ h => h) fun d h x => by simp [h]
  | cons n rest ih =>
    refine brings_collect_cons (Q := fun d => ∀ x, x ∈ d.configuration.bgpNeighbors ↔ M x ∨ n.address = x) ?_
      ((ih fun x => M x ∨ n.address = x).weaken (fun _ h => h) fun d h x => ?_)
    · refine brings_apply _ (P := fun c => ∀ x, x ∈ c.bgpNeighbors ↔ M x)
        (Q := fun c => ∀ x, x ∈ c.bgpNeighbors ↔ M x ∨ n.address = x) ?_ fun c r h _ x => ?_
      · unfold neighborOperation
        split <;> simp
      · rw [apply_neighborOperation, mem_insert, h]
        exact or_comm
    · rw [h]
      simp only [List.mem_cons, exists_eq_or_imp, or_assoc]

theorem concerns_neighbors (M : String → Prop) :
    Concerns (· = .neighbors) fun d => ∀ x, x ∈ d.configuration.bgpNeighbors ↔ M x := by
  intro allowed d d' hfollows hparts h x
  have hsame : d'.configuration.bgpNeighbors = d.configuration.bgpNeighbors := hfollows.parts .neighbors hparts
  rw [hsame]
  exact h x

/-- Removed neighbors leave the set, then wanted ones enter. -/
theorem brings_neighbors (M : String → Prop) :
    Brings adapter (fun d => ∀ x, x ∈ d.configuration.bgpNeighbors ↔ M x) (s.provisionBgp t)
      (fun d => ∀ x, x ∈ d.configuration.bgpNeighbors ↔
        (M x ∧ ∀ n ∈ s.staleNeighbors, n.address ≠ x) ∨ ∃ n ∈ s.wantedNeighbors, n.address = x) := by
  refine brings_fanOut_append (brings_fanOut_append (brings_fanOut_append (brings_fanOut_append ?_
    (s.keeps_process t (concerns_neighbors M) (by simp))) (s.brings_removals t _ M)) (s.brings_wanted t _ _))
    (s.keeps_routerId (concerns_neighbors _) (by simp) _)
  refine s.keeps_send (concerns_neighbors M) fun x hx => ?_
  split at hx
  · cases List.mem_singleton.1 hx
    simp [part]
  · cases hx

theorem idle_provisionBgp (hstale : s.staleNeighbors = []) {d : Device} (h : HasAll (s.bgpGoals t) d) :
    Idle adapter quiet (s.provisionBgp t) d := by
  refine idle_fanOut shows_quiet fun x hx => idle_performStep (h _ ?_)
  simp only [bgpSteps, hstale, List.map_nil, List.append_nil, List.mem_append, List.mem_singleton,
    List.mem_map] at hx
  rw [mem_bgpGoals]
  rcases hx with ((hx | rfl) | ⟨n, hn, rfl⟩) | rfl
  · split at hx
    · rename_i hmap
      cases List.mem_singleton.1 hx
      exact .inl ⟨hmap, rfl⟩
    · cases hx
  · exact .inr (.inl rfl)
  · exact .inr (.inr (.inl ⟨n, hn, rfl⟩))
  · exact .inr (.inr (.inr rfl))

/-! ### EVPN -/

/-- The operation that creates the EVPN instance. -/
def evpnOperation : Operation :=
  .createEvpnInstance s.fabric s.evpn.duplicateMacTimer s.evpn.duplicateMacMaxCount

/-- What the EVPN stage is for. -/
def evpnGoals : List Operation := [.configureMacAndArp s.evpn, s.evpnOperation, .clearEvpnNeighbors]

/-- The pieces of the EVPN stage.  The last one only follows if the one before it does not fail. -/
def evpnWork : List (Dialogue (List Failure)) :=
  [performStep "Mac & Arp" s.host (.configureMacAndArp s.evpn),
    step "EVPN" s.host (UniqueObject.ensure s.host .evpnInstance s.fabric s.evpnOperation force),
    performStep "Clearing All BGP EVPN Neighbour" s.host .clearEvpnNeighbors]

/-- A run of the stage without failures is one of its pieces. -/
theorem run_provisionEvpn (d : Device)
    (h : ((s.provisionEvpn force).run adapter d).1 = [] ∨ ((collect (s.evpnWork force)).run adapter d).1 = []) :
    (s.provisionEvpn force).run adapter d = (collect (s.evpnWork force)).run adapter d := by
  have hevpn : s.provisionEvpn force = (do
      let early ← performStep "Mac & Arp" s.host (.configureMacAndArp s.evpn)
      let failed ← step "EVPN" s.host (UniqueObject.ensure s.host .evpnInstance s.fabric s.evpnOperation force)
      if failed.isEmpty then
        let late ← performStep "Clearing All BGP EVPN Neighbour" s.host .clearEvpnNeighbors
        return early ++ late
      else return early ++ failed) := rfl
  rw [hevpn] at h ⊢
  unfold evpnWork at h ⊢
  simp only [run_bind, run_collect_cons, run_collect_nil, List.append_nil] at h ⊢
  generalize (performStep "Mac & Arp" s.host (.configureMacAndArp s.evpn)).run adapter d = early at h ⊢
  generalize (step "EVPN" s.host (UniqueObject.ensure s.host .evpnInstance s.fabric s.evpnOperation force)).run
    adapter early.2 = failed at h ⊢
  obtain ⟨failures, d'⟩ := failed
  cases failures with
  | nil => simp only [List.isEmpty_nil, if_true, run_bind, run_pure, List.nil_append]
  | cons f rest => simp [run_pure] at h

theorem brings_provisionEvpn : Brings adapter (fun _ => True) (s.provisionEvpn force) (HasAll s.evpnGoals) := by
  have hwork : Brings adapter (fun _ => True) (collect (s.evpnWork force)) (HasAll s.evpnGoals) := by
    refine brings_all fun op hop => ?_
    have hensure :
        (step "EVPN" s.host (UniqueObject.ensure s.host .evpnInstance s.fabric s.evpnOperation force)).Stays
          (Scope.on s.host (· = .evpnInstance)) :=
      stays_step (stays_ensure rfl rfl)
    simp only [evpnGoals, List.mem_cons, List.not_mem_nil, or_false] at hop
    rcases hop with rfl | rfl | rfl
    · refine brings_collect_cons (brings_performStep rfl) (brings_collect_cons ?_
        (brings_collect_cons (keeps_performStep (concerns_has _) (by simp [part])) brings_collect_nil))
      exact keeps_of_stays hensure (concerns_has _) fun _ op hop hsame => by
        have := hop.2.symm.trans hsame
        cases this
    · refine brings_collect_cons (brings_true _) (brings_collect_cons (brings_ensure rfl)
        (brings_collect_cons (keeps_has (by simp) fun _ _ h _ => h) brings_collect_nil))
    · exact brings_collect_cons (brings_true _) (brings_collect_cons (brings_true _)
        (brings_collect_cons (brings_performStep rfl) brings_collect_nil))
  intro d hd hclean
  have hrun := s.run_provisionEvpn force d (.inl hclean)
  rw [hrun] at hclean ⊢
  exact hwork d hd hclean

theorem idle_provisionEvpn {d : Device} (h : HasAll s.evpnGoals d) :
    Idle adapter quiet (s.provisionEvpn force) d := by
  have hhas : d.Has s.evpnOperation := h _ (by simp [evpnGoals])
  have hname : d.configuration.evpnInstance = some s.fabric := hhas.achieved
  have hwork : Idle adapter quiet (collect (s.evpnWork force)) d := by
    refine idle_collect shows_quiet fun w hw => ?_
    simp only [evpnWork, List.mem_cons, List.not_mem_nil, or_false] at hw
    rcases hw with rfl | rfl | rfl
    · exact idle_performStep (h _ (by simp [evpnGoals]))
    · refine idle_ensure hhas (by simp [UniqueObject.lookup]) ?_
      show (Except.ok (Response.named d.configuration.evpnInstance), d.configuration) = _
      rw [hname]
    · exact idle_performStep (h _ (by simp [evpnGoals]))
  unfold Idle
  rw [s.run_provisionEvpn force d (.inr hwork.1)]
  exact hwork

end FabricProvision.SwitchSpec

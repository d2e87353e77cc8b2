import FabricProvision.Proofs.Provision.Switches

/-!
# The desired state is reached

A run without failures brings every switch of the request to its desired state, whatever the switches held
before and whatever they refused: what a run goes on after is never needed
(`FabricRequest.configure_reaches`).
-/

namespace FabricProvision

open Dialogue Device Network Operation FabricProvision.Configuration

/-! ### Names of interfaces -/

theorem interfaceName_inj {k k' : InterfaceKind} {name name' : String}
    (h : interfaceName k.text name = interfaceName k'.text name') : k = k' ∧ name = name' := by
  have hlist : k.text.toList ++ ' ' :: name.toList = k'.text.toList ++ ' ' :: name'.toList := by
    have := congrArg String.toList h
    simpa [interfaceName, toString] using this
  cases k <;> cases k' <;> simp_all [InterfaceKind.text, String.ext_iff]

namespace InterfaceSpec

/-- What an item of the request asks for an interface, from the configuration before and after. -/
def Reached (i : InterfaceSpec) (before after : Configuration) : Prop :=
  match i.change with
  | .create | .update =>
    if i.kind = .loopback then ∃ record, after.interfaces[i.key]? = some record ∧ record.address = some i.ip
    else
      match i.donor with
      | none => after.interfaces[i.key]? = some ⟨some i.ip, none⟩
      | some donor => after.interfaces[i.key]? = some ⟨none, some (interfaceName donor.kind.text donor.name)⟩
  | .delete =>
    i.kind = .loopback ∨ i.donor = none → ∀ record, after.interfaces[i.key]? = some record → record.address = none
  | .keep => after.interfaces[i.key]? = before.interfaces[i.key]?

private theorem reached_of_has {i : InterfaceSpec} {d : Device} (hi : i.Wanted) (h : d.Has i.goal)
    (before : Configuration) : i.Reached before d.configuration := by
  have hachieved := h.achieved
  have hgoal : (if i.kind = .loopback then
      ∃ record, d.configuration.interfaces[i.key]? = some record ∧ record.address = some i.ip
    else
      match i.donor with
      | none => d.configuration.interfaces[i.key]? = some ⟨some i.ip, none⟩
      | some donor =>
        d.configuration.interfaces[i.key]? = some ⟨none, some (interfaceName donor.kind.text donor.name)⟩) := by
    unfold goal at hachieved
    split
    · rename_i hkind
      rw [if_pos hkind] at hachieved
      obtain ⟨donor, hrecord⟩ := hachieved
      refine ⟨⟨some i.ip, donor⟩, ?_, rfl⟩
      unfold key
      rw [hkind]
      exact hrecord
    · rename_i hkind
      rw [if_neg hkind] at hachieved
      split <;> rename_i hdonor <;> rw [hdonor] at hachieved <;> exact hachieved
  unfold Reached
  rcases hi with hi | hi <;> rw [hi] <;> exact hgoal

end InterfaceSpec

namespace SwitchSpec

/-- What a switch of the request asks for, from the configuration before and after. -/
structure Reached (t : Topology) (s : SwitchSpec) (before after : Configuration) : Prop where
  l2Mtu : after.l2Mtu = some s.mtu
  ipMtu : after.ipMtu = some s.ipMtu
  anycastGateway : s.isOverlay t = true → s.overlay.enabled = true → after.anycastMac = some s.overlay.anycastMac
  interfaces : ∀ i ∈ s.interfaces, i.Reached before after
  localAsn : after.localAsn = some s.bgp.localAsn
  routerId : s.routerId?.isSome ∧ after.routerId = s.routerId?
  neighbors : ∀ address, address ∈ after.bgpNeighbors ↔
    (address ∈ before.bgpNeighbors ∧ ∀ n ∈ s.neighbors, n.change = .delete → n.address ≠ address) ∨
      ∃ n ∈ s.neighbors, (n.change = .create ∨ n.change = .update) ∧ n.address = address
  evpn : s.isOverlay t = true → after.macAndArp = some s.evpn ∧ after.evpnInstance = some s.fabric

/-- The switch accepts logins and has what its stages are for. -/
structure Configured (t : Topology) (s : SwitchSpec) (d : Device) : Prop where
  login : d.refusesLogin = false
  system : HasAll (s.systemGoals t) d
  interfaces : HasAll s.interfaceGoals d
  bgp : HasAll (s.bgpGoals t) d
  evpn : s.isOverlay t = true → HasAll s.evpnGoals d

private theorem concerns_hasAll {stage : Stage} {ops : List Operation} (h : ∀ op ∈ ops, op.part.stage = stage) :
    Concerns (·.stage = stage) (HasAll ops) :=
  concerns_all fun op => concerns_imp fun hop => (concerns_has op).mono fun p hp => by rw [hp, h op hop]

/-- The operation that creates the overlay gateway. -/
def gatewayOperation (s : SwitchSpec) : Operation :=
  .createOverlayGateway s.fabric "layer2-extension" s.overlay.vtepLoopback s.overlay.vlanVniAutoMap

theorem stays_ensureGateway (operation : String) (force : Bool) (s : SwitchSpec) :
    (step operation s.host (UniqueObject.ensure s.host .overlayGateway s.fabric s.gatewayOperation force)).Stays
      (Scope.on s.host (· = .overlayGateway)) :=
  stays_step (stays_ensure rfl rfl)

variable (t : Topology) (s : SwitchSpec)

private theorem stage_systemGoals : ∀ op ∈ s.systemGoals t, op.part.stage = .system := by
  intro op hop
  rcases (s.mem_systemGoals t).1 hop with rfl | rfl | ⟨-, rfl⟩ <;> rfl

private theorem stage_interfaceGoals : ∀ op ∈ s.interfaceGoals, op.part.stage = .interfaces := by
  intro op hop
  obtain ⟨i, -, -, rfl⟩ := s.mem_interfaceGoals.1 hop
  rw [i.part_goal]
  rfl

private theorem stage_bgpGoals : ∀ op ∈ s.bgpGoals t, op.part.stage = .bgp := by
  intro op hop
  rcases (s.mem_bgpGoals t).1 hop with ⟨-, rfl⟩ | rfl | ⟨n, -, rfl⟩ | rfl
  · rfl
  · rw [part_bgpOperation]
    rfl
  · rw [part_neighborOperation]
    rfl
  · rfl

private theorem stage_evpnGoals : ∀ op ∈ s.evpnGoals, op.part.stage = .evpn := by
  intro op hop
  simp only [evpnGoals, List.mem_cons, List.not_mem_nil, or_false] at hop
  rcases hop with rfl | rfl | rfl <;> rfl

variable {t s} {d : Device}

private theorem localAsn_of_has (h : HasAll (s.bgpGoals t) d) :
    d.configuration.localAsn = some s.bgp.localAsn := by
  have hprocess : (s.bgpOperation t).Achieved d.configuration :=
    (h _ ((s.mem_bgpGoals t).2 (.inr (.inl rfl)))).achieved
  cases t <;> exact hprocess

/-- A switch takes no empty router-id, so there was an address for it. -/
private theorem routerId_of_has (h : HasAll (s.bgpGoals t) d) :
    s.routerId?.isSome ∧ d.configuration.routerId = s.routerId? := by
  have hhas : d.Has (.configureRouterId (s.routerId?.getD "")) :=
    h _ ((s.mem_bgpGoals t).2 (.inr (.inr (.inr rfl))))
  obtain ⟨hempty, hid⟩ := hhas.achieved
  rcases Option.eq_none_or_eq_some s.routerId? with hnone | ⟨id, hsome⟩
  · rw [hnone] at hempty
    cases hempty
  · rw [hsome] at hid ⊢
    exact ⟨rfl, hid⟩

private theorem anycastGateway_of_has (h : HasAll (s.systemGoals t) d) (hoverlay : s.isOverlay t = true)
    (henabled : s.overlay.enabled = true) : d.configuration.anycastMac = some s.overlay.anycastMac := by
  have hhas : d.Has s.anycastOperation :=
    h _ ((s.mem_systemGoals t).2 (.inr (.inr ⟨⟨henabled, hoverlay⟩, rfl⟩)))
  exact hhas.achieved

private theorem evpn_of_has (h : HasAll s.evpnGoals d) :
    d.configuration.macAndArp = some s.evpn ∧ d.configuration.evpnInstance = some s.fabric := by
  have htimers : d.Has (.configureMacAndArp s.evpn) := h _ (by simp [evpnGoals])
  have hinstance : d.Has s.evpnOperation := h _ (by simp [evpnGoals])
  exact ⟨htimers.achieved, hinstance.achieved⟩

variable (s)

theorem distinctInterfaces_of_nodup (h : (s.interfaces.map fun i => (i.kind, i.name)).Nodup) :
    s.DistinctInterfaces := by
  refine (List.pairwise_map.1 h).imp fun hne hkey => hne ?_
  obtain ⟨hkind, hname⟩ := interfaceName_inj hkey
  rw [hkind, hname]

end SwitchSpec

namespace FabricRequest

variable {polling : Polling} {force : Bool} {r : FabricRequest} {save : Bool} {s : SwitchSpec}

theorem distinctHosts_of_nodup (h : (r.switches.map (·.host)).Nodup) : r.DistinctHosts := List.pairwise_map.1 h

section switches

variable (hs : s ∈ r.switches) (hhosts : r.DistinctHosts)

include hs hhosts

/-- What the work on a switch makes of the parts of a stage, from whatever there was before. -/
private theorem brings_stage {stage : Stage} {Q : Device → Prop} (hstage : SwitchSpec.OwnStage stage)
    (hQ : Concerns (·.stage = stage) Q)
    (h : Brings Network.adapter (If s.host fun _ => True) (s.configure r.topology force) (At s.host Q)) :
    Brings Network.adapter (fun _ => True) (r.configure polling force save) (At s.host Q) :=
  (brings_configure hs hhosts hstage (concerns_true _) hQ h).weaken (fun _ _ _ _ => trivial) fun _ h => h

/-- The switch is there, and has what all its stages are for. -/
theorem brings_goals (hinterfaces : s.DistinctInterfaces) :
    Brings Network.adapter (fun _ => True) (r.configure polling force save)
      (At s.host (s.Configured r.topology)) := by
  have hsystem := SwitchSpec.concerns_hasAll (s.stage_systemGoals r.topology)
  have hinterface := SwitchSpec.concerns_hasAll s.stage_interfaceGoals
  have hbgp := SwitchSpec.concerns_hasAll (s.stage_bgpGoals r.topology)
  have hevpn := SwitchSpec.concerns_hasAll s.stage_evpnGoals
  intro n _ hclean
  have hasLogin := brings_stage hs hhosts (.inl rfl) (concerns_logins _) (s.brings_login r.topology force)
    n trivial hclean
  have hasSystem := brings_stage hs hhosts (.inl rfl) hsystem
    (s.brings_system r.topology force (concerns_true _) hsystem (s.brings_provisionSystem r.topology force))
    n trivial hclean
  have hasInterfaces := brings_stage hs hhosts (.inr (.inl rfl)) hinterface
    (s.brings_interfaces r.topology force (concerns_true _) hinterface (s.brings_provisionInterfaces hinterfaces))
    n trivial hclean
  have hasBgp := brings_stage hs hhosts (.inr (.inr (.inl rfl))) hbgp
    (s.brings_bgp r.topology force (concerns_true _) hbgp (s.brings_provisionBgp r.topology)) n trivial hclean
  obtain ⟨d, hd, hdlogin, hdsystem, hdinterfaces, hdbgp⟩ := hasLogin.and (hasSystem.and (hasInterfaces.and hasBgp))
  refine ⟨d, hd, hdlogin, hdsystem, hdinterfaces, hdbgp, fun hoverlay => ?_⟩
  -- Whether there is an EVPN stage is up to the switch, so its goals are read off the same device apart.
  obtain ⟨e, he, hevpnGoals⟩ := brings_stage hs hhosts (.inr (.inr (.inr rfl))) hevpn
    (s.brings_evpn r.topology force hoverlay (concerns_true _) hevpn (s.brings_provisionEvpn force))
    n trivial hclean
  rw [hd] at he
  cases he
  exact hevpnGoals

private theorem brings_neighbors (M : String → Prop) :
    Brings Network.adapter (If s.host fun d => ∀ x, x ∈ d.configuration.bgpNeighbors ↔ M x)
      (r.configure polling force save)
      (At s.host fun d => ∀ x, x ∈ d.configuration.bgpNeighbors ↔
        (M x ∧ ∀ n ∈ s.staleNeighbors, n.address ≠ x) ∨ ∃ n ∈ s.wantedNeighbors, n.address = x) := by
  have hdepends : ∀ M : String → Prop,
      Concerns (·.stage = .bgp) fun d => ∀ x, x ∈ d.configuration.bgpNeighbors ↔ M x :=
    fun M => (SwitchSpec.concerns_neighbors M).stage
  exact brings_configure hs hhosts (.inr (.inr (.inl rfl))) (hdepends M) (hdepends _)
    (s.brings_bgp r.topology force (hdepends M) (hdepends _) (s.brings_neighbors r.topology M))

private theorem brings_keptInterface (hinterfaces : s.DistinctInterfaces) {i : InterfaceSpec}
    (hi : i ∈ s.interfaces) (hkeep : i.change = .keep) (record : Option InterfaceRecord) :
    Brings Network.adapter (If s.host fun d => d.configuration.interfaces[i.key]? = record)
      (r.configure polling force save) (At s.host fun d => d.configuration.interfaces[i.key]? = record) := by
  have hdepends : Concerns (· = .interface i.key) fun d => d.configuration.interfaces[i.key]? = record := by
    intro allowed d d' hfollows hparts h
    have hsame : d'.configuration.interfaces[i.key]? = d.configuration.interfaces[i.key]? :=
      hfollows.parts _ hparts
    exact hsame.trans h
  exact brings_configure hs hhosts (.inr (.inl rfl)) hdepends.stage hdepends.stage
    (s.brings_interfaces r.topology force hdepends.stage hdepends.stage
      (s.brings_keptInterface hinterfaces hi hkeep hdepends))

private theorem brings_deletedInterface (hinterfaces : s.DistinctInterfaces) {i : InterfaceSpec}
    (hi : i ∈ s.interfaces) (hdelete : i.change = .delete) (hform : i.kind = .loopback ∨ i.donor = none) :
    Brings Network.adapter (fun _ => True) (r.configure polling force save)
      (At s.host (InterfaceSpec.NoAddress i.key)) := by
  have hstage := (InterfaceSpec.concerns_noAddress i.key).stage
  exact brings_stage hs hhosts (.inr (.inl rfl)) hstage
    (s.brings_interfaces r.topology force (concerns_true _) hstage
      (s.brings_deletedInterface hinterfaces hi hdelete hform))

/-- Every interface is as its item asks, from the configuration before. -/
private theorem brings_interface (hinterfaces : s.DistinctInterfaces) {i : InterfaceSpec} (hi : i ∈ s.interfaces)
    (before : Configuration) :
    Brings Network.adapter (If s.host fun d => d.configuration = before) (r.configure polling force save)
      (At s.host fun d => i.Reached before d.configuration) := by
  intro n hn hclean
  by_cases hwanted : i.Wanted
  · obtain ⟨d, hd, -, -, hgoals, -⟩ := brings_goals hs hhosts hinterfaces n trivial hclean
    exact ⟨d, hd, InterfaceSpec.reached_of_has hwanted (hgoals _ (s.mem_interfaceGoals.2 ⟨i, hi, hwanted, rfl⟩)) _⟩
  cases hchange : i.change with
  | create => exact absurd (.inl hchange) hwanted
  | update => exact absurd (.inr hchange) hwanted
  | delete =>
    by_cases hform : i.kind = .loopback ∨ i.donor = none
    · obtain ⟨d, hd, hnone⟩ := brings_deletedInterface hs hhosts hinterfaces hi hchange hform n trivial hclean
      refine ⟨d, hd, ?_⟩
      unfold InterfaceSpec.Reached
      rw [hchange]
      intro _ record hrecord
      unfold InterfaceSpec.NoAddress at hnone
      rw [hrecord] at hnone
      exact hnone
    · obtain ⟨d, hd, -⟩ := brings_goals hs hhosts hinterfaces n trivial hclean
      refine ⟨d, hd, ?_⟩
      unfold InterfaceSpec.Reached
      rw [hchange]
      exact fun h => absurd h hform
  | keep =>
    obtain ⟨d, hd, hsame⟩ := brings_keptInterface hs hhosts hinterfaces hi hchange before.interfaces[i.key]? n
      (fun d hd => congrArg (·.interfaces[i.key]?) (hn d hd)) hclean
    refine ⟨d, hd, ?_⟩
    unfold InterfaceSpec.Reached
    rw [hchange]
    exact hsame

end switches

/-! ### The last stages -/

/-- Work on several switches establishes on each of them what the work on that one does. -/
private theorem brings_fanOut_each {switches : List SwitchSpec} {work : SwitchSpec → Dialogue (List Failure)}
    {parts : Part → Prop} (hhosts : switches.Pairwise fun s s' => s.host ≠ s'.host)
    (hstays : ∀ s, (work s).Stays (Scope.on s.host parts)) (hs : s ∈ switches) {Q : Device → Prop}
    (hQ : Concerns parts Q) (h : Brings Network.adapter (If s.host fun _ => True) (work s) (At s.host Q)) :
    Brings Network.adapter (fun _ => True) (fanOut switches work) (At s.host Q) := by
  have hfan : Brings Network.adapter (If s.host fun _ => True) (fanOut switches work) (At s.host Q) := by
    refine brings_fanOut_mem hs hhosts (fun _ _ _ n hn _ => fun _ _ => trivial) h fun s' _ hne n hn _ => ?_
    exact hn.keeps (hstays s') hQ fun op hop => absurd hop.1 hne
  exact hfan.weaken (fun _ _ _ _ => trivial) fun _ h => h

private theorem brings_session_has {operation host : String} {credentials : Credentials}
    {work : Dialogue (List Failure)} {part : Part} {op : Operation} (hpart : part ≠ .cluster)
    (hstays : work.Stays (Scope.on host (· = part)))
    (hwork : Brings Device.adapter (fun _ => True) work (·.Has op)) :
    Brings Network.adapter (If host fun _ => True) (session operation host credentials work)
      (At host fun d => d.refusesLogin = false ∧ d.Has op) := by
  intro n hn hclean
  have hlogin := brings_session_login n trivial hclean
  have hhas : Brings Network.adapter (If host fun _ => True) (session operation host credentials work)
      (At host (·.Has op)) := by
    refine brings_session fun n ⟨d, hd, _⟩ hclean => ?_
    exact brings_local hstays (Scope.local_on hpart.symm) hwork n ⟨d, hd, trivial⟩ hclean
  exact hlogin.and (hhas n hn hclean)

private theorem concerns_login_has (op : Operation) :
    Concerns (· = op.part) fun d => d.refusesLogin = false ∧ d.Has op :=
  (concerns_logins _).and (concerns_has op)

/-- The switches that are to get an overlay gateway have it. -/
theorem brings_configureOverlayGateways (hhosts : r.DistinctHosts) {principals : Principals}
    (hs : s ∈ r.overlaySwitches principals) :
    Brings Network.adapter (fun _ => True) (r.configureOverlayGateways force principals)
      (At s.host fun d => d.refusesLogin = false ∧ d.Has s.gatewayOperation) := by
  refine brings_fanOut_each (hhosts.filter _) (fun s => (s.within_configureOverlayGateway force).stays) hs
    (concerns_login_has s.gatewayOperation) ?_
  exact brings_session_has (by simp) (s.stays_ensureGateway _ force) (brings_ensure rfl)

/-- The configurations are saved. -/
theorem brings_persistAll (hhosts : r.DistinctHosts) (hs : s ∈ r.switches) :
    Brings Network.adapter (fun _ => True) (r.persistAll true)
      (At s.host fun d => d.refusesLogin = false ∧ d.Has .persist) := by
  have hstays : (performStep "Persist Config" s.host .persist).Stays (Scope.on s.host (· = .saved)) :=
    stays_performStep ⟨rfl, rfl⟩
  exact brings_fanOut_each hhosts (fun s => s.within_persist.stays) hs (concerns_login_has .persist)
    (brings_session_has (by simp) hstays (brings_performStep rfl))

/-! ### The whole run -/

theorem gateway_of_clean (hhosts : r.DistinctHosts) {n : Network}
    (hclean : ((r.configure polling force save).run Network.adapter n).1 = []) :
    let clusters := (reconcileClusters polling force r.clusters).run Network.adapter
      ((r.configureSwitches force).run Network.adapter n).2
    let principals := (findPrincipals ∅ (r.clusters.update ++ r.clusters.create)).run Network.adapter clusters.2
    s ∈ r.overlaySwitches principals.1 →
      At s.host (fun d => d.refusesLogin = false ∧ d.Has s.gatewayOperation)
        ((r.configure polling force save).run Network.adapter n).2 := by
  intro clusters principals hs
  obtain ⟨-, -, hgateways, -, hrun⟩ := r.configure_clean polling force save hclean
  rw [hrun]
  -- Saving is about another part.
  refine At.keeps (brings_configureOverlayGateways hhosts hs principals.2 trivial hgateways) stays_persistAll
    (concerns_login_has s.gatewayOperation) fun op hop hsame => ?_
  have hstage : op.part.stage = .saving := hop
  rw [hsame] at hstage
  cases hstage

theorem saved_of_clean (hhosts : r.DistinctHosts) (hs : s ∈ r.switches) {n : Network}
    (hclean : ((r.configure polling force true).run Network.adapter n).1 = []) :
    At s.host (fun d => d.refusesLogin = false ∧ d.Has .persist)
      ((r.configure polling force true).run Network.adapter n).2 := by
  obtain ⟨-, -, -, hsaving, hrun⟩ := r.configure_clean polling force true hclean
  rw [hrun]
  exact brings_persistAll hhosts hs _ trivial hsaving

/-- A run without failures brings every switch to its desired state.  The overlay gateway is there if the switch
is one of those that are to get it, and the configuration is saved if it is to be. -/
theorem configure_reaches (polling : Polling) (force : Bool) (r : FabricRequest) (save : Bool) (n : Network)
    (hhosts : (r.switches.map (·.host)).Nodup)
    (hinterfaces : ∀ s ∈ r.switches, (s.interfaces.map fun i => (i.kind, i.name)).Nodup)
    (hclean : ((r.configure polling force save).run Network.adapter n).1 = []) :
    let clusters := (reconcileClusters polling force r.clusters).run Network.adapter
      ((r.configureSwitches force).run Network.adapter n).2
    let principals := (findPrincipals ∅ (r.clusters.update ++ r.clusters.create)).run Network.adapter clusters.2
    let final := ((r.configure polling force save).run Network.adapter n).2
    ∀ s ∈ r.switches, ∃ before after : Device,
      n.device? s.host = some before ∧ final.device? s.host = some after ∧
      s.Reached r.topology before.configuration after.configuration ∧
      (s ∈ r.overlaySwitches principals.1 → after.configuration.overlayGateway = some s.fabric) ∧
      (save = true → after.configuration.saved = true) := by
  intro clusters principals final s hs
  have hhosts := distinctHosts_of_nodup hhosts
  have hinterfaces := s.distinctInterfaces_of_nodup (hinterfaces s hs)
  obtain ⟨after, hafter, -, hsystem, hinterface, hbgp, hevpn⟩ :=
    brings_goals hs hhosts hinterfaces n trivial hclean
  obtain ⟨before, hbefore, -⟩ := (run_follows (stays_any (r.configure polling force save)) n).to_device hafter
  -- Every other fact about the end is about the same device.
  have hat : ∀ {P : Device → Prop}, At s.host P final → P after := by
    rintro P ⟨d, hd, hP⟩
    have hsame : some d = some after := hd.symm.trans hafter
    cases hsame
    exact hP
  have hif : ∀ {P : Device → Prop}, P before → If s.host P n := by
    intro P hP d hd
    rw [hbefore] at hd
    cases hd
    exact hP
  have hmtu : after.Has (.configureL2Mtu s.mtu) := hsystem _ ((s.mem_systemGoals _).2 (.inl rfl))
  have hipMtu : after.Has (.configureIpMtu s.ipMtu) := hsystem _ ((s.mem_systemGoals _).2 (.inr (.inl rfl)))
  refine ⟨before, after, hbefore, hafter, ?_, fun hmem => ?_, fun hsave => ?_⟩
  · refine ⟨hmtu.achieved, hipMtu.achieved, SwitchSpec.anycastGateway_of_has hsystem, fun i hi => ?_,
      SwitchSpec.localAsn_of_has hbgp, SwitchSpec.routerId_of_has hbgp, fun x => ?_, fun hoverlay => ?_⟩
    · exact hat (brings_interface hs hhosts hinterfaces hi before.configuration n (hif rfl) hclean)
    · have hset := hat (brings_neighbors hs hhosts (· ∈ before.configuration.bgpNeighbors) n
        (hif fun _ => Iff.rfl) hclean) x
      simpa [SwitchSpec.staleNeighbors, SwitchSpec.wantedNeighbors, and_assoc] using hset
    · exact SwitchSpec.evpn_of_has (hevpn hoverlay)
  · have hgateway : s.gatewayOperation.Achieved after.configuration :=
      (hat (gateway_of_clean hhosts hclean hmem)).2.achieved
    exact hgateway
  · subst hsave
    have hsaved : Operation.persist.Achieved after.configuration :=
      (hat (saved_of_clean hhosts hs hclean)).2.achieved
    exact hsaved

/-! ### A pair of leaves -/

/-- A leaf of a pair: its loopback, an unnumbered and a numbered link, a spine as neighbor and its partner on the
data plane. -/
def pairedLeaf (host loopback link partner partnerLoopback : String) : SwitchSpec where
  host := host
  role := .leaf
  fabric := "dc"
  loopbackPort := "1"
  interfaces := [
    { name := "1", kind := .loopback, ip := loopback, change := .create },
    { name := "0/1", kind := .ethernet, donor := some ⟨.loopback, "1"⟩, change := .update },
    { name := "0/2", kind := .ethernet, ip := link, change := .update }]
  bgp := { localAsn := 65001 }
  neighbors := [{ address := "10.0.0.9", remoteAs := 65000, change := .create }]
  overlay := { enabled := true, vtepLoopback := "2", anycastMac := "0201.0101.0101" }
  dataPlane := { nodes := [{
    host := host, peerIp := partner, peerLoopbackIp := partnerLoopback, loopbackNumber := "1",
    peerAsn := 65001 }] }

/-- Two leaves that form a management cluster. -/
def leafPair : FabricRequest where
  name := "dc"
  switches := [
    pairedLeaf "leaf-1" "10.0.0.1/32" "10.9.0.0/31" "10.2.0.1" "10.0.0.2",
    pairedLeaf "leaf-2" "10.0.0.2/32" "10.9.0.2/31" "10.2.0.0" "10.0.0.1"]
  clusters := { create := [{
    name := "pair"
    id := 1
    controlVlan := 4090
    controlVe := 4090
    nodes := [
      { host := "leaf-1", nodeId := 1, remotePeerIp := "10.2.0.0/31", peerIp := "10.2.0.1",
        peerLoopbackIp := "10.0.0.2", peerInterface := ⟨.portChannel, "64", "10000"⟩,
        connectingPorts := ["0/47"] },
      { host := "leaf-2", nodeId := 2, remotePeerIp := "10.2.0.1/31", peerIp := "10.2.0.0",
        peerLoopbackIp := "10.0.0.1", peerInterface := ⟨.portChannel, "64", "10000"⟩,
        connectingPorts := ["0/47"] }] }] }

/-- The run for the pair, on two switches that hold nothing. -/
def leafPairRun : List Failure × Network :=
  (leafPair.configure {} false true).run Network.adapter (Network.ofHosts ["leaf-1", "leaf-2"])

/-- The first leaf of the pair gets all it is to have, the overlay gateway and saving included. -/
theorem leafPair_reached :
    leafPairRun.1 = [] ∧ ∃ before after : Device,
      (Network.ofHosts ["leaf-1", "leaf-2"]).device? "leaf-1" = some before ∧
      leafPairRun.2.device? "leaf-1" = some after ∧
      (pairedLeaf "leaf-1" "10.0.0.1/32" "10.9.0.0/31" "10.2.0.1" "10.0.0.2").Reached .clos
        before.configuration after.configuration ∧
      after.configuration.overlayGateway = some "dc" ∧ after.configuration.saved = true := by
  have hclean : leafPairRun.1 = [] := by decide +kernel
  obtain ⟨before, after, hbefore, hafter, hreached, hgateway, hsaved⟩ :=
    configure_reaches {} false leafPair true (Network.ofHosts ["leaf-1", "leaf-2"]) (by decide) (by decide) hclean
      _ (List.mem_cons_self ..)
  exact ⟨hclean, before, after, hbefore, hafter, hreached, hgateway (by decide +kernel), hsaved rfl⟩

end FabricRequest

end FabricProvision

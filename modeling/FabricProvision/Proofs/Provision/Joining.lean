import FabricProvision.Proofs.Device.Bare
import FabricProvision.Proofs.Device.Scheduled
import FabricProvision.Proofs.Provision.DataPlane

/-!
# Data-plane neighbors added at the same time

While the neighbors of a device are added from several sides, the device only gets more of them
(`Device.Joined`).  Whoever asks for the encapsulation is told to use the same one, whatever was added in between,
so that every neighbor is added as it is alone (`DataPlaneNode.secures_add`).  Once all of them are there, it cannot be
told in which order they came (`Device.Joined.quiet_eq`).
-/

namespace FabricProvision

open Std (ExtTreeSet)
open Dialogue DataPlaneNode

namespace Device

variable {peers : String → Prop} {d d' d'' e e' : Device}

/-- The device got further L2 EVPN neighbors, all of them among `peers`, and the encapsulation that it uses for them. -/
structure Joined (peers : String → Prop) (d d' : Device) : Prop where
  refusesLogin : d'.refusesLogin = d.refusesLogin
  failing : d'.failing = d.failing
  kept : ∀ x ∈ d.configuration.l2EvpnNeighbors, x ∈ d'.configuration.l2EvpnNeighbors
  joined : ∀ x ∈ d'.configuration.l2EvpnNeighbors, x ∈ d.configuration.l2EvpnNeighbors ∨ peers x
  used : usedOn d' = usedOn d
  encapsulation : d'.configuration.encapsulation = d.configuration.encapsulation ∨
    d'.configuration.encapsulation = usedOn d ∧ ∃ x, peers x

/-- Where neither faults nor L2 EVPN neighbors change, nothing joins. -/
private theorem joined_of_same (hlogin : d'.refusesLogin = d.refusesLogin) (hfailing : d'.failing = d.failing)
    (hsame : Part.dataPlane.Same d.configuration d'.configuration) : Joined peers d d' := by
  obtain ⟨hneighbors, hencapsulation⟩ := hsame
  have hused : usedOn d' = usedOn d := by
    unfold usedOn
    rw [hfailing, hencapsulation]
  refine ⟨hlogin, hfailing, fun x hx => ?_, fun x hx => .inl ?_, hused, .inl hencapsulation⟩
  · rw [hneighbors]
    exact hx
  · rw [← hneighbors]
    exact hx

theorem joined_refl (peers : String → Prop) (d : Device) : Joined peers d d := joined_of_same rfl rfl ⟨rfl, rfl⟩

theorem Joined.trans (h : Joined peers d d') (h' : Joined peers d' d'') : Joined peers d d'' := by
  refine ⟨h'.refusesLogin.trans h.refusesLogin, h'.failing.trans h.failing, fun x hx => h'.kept x (h.kept x hx),
    fun x hx => (h'.joined x hx).elim (h.joined x) .inr, h'.used.trans h.used, ?_⟩
  rcases h'.encapsulation with hsame | ⟨hused, hpeers⟩
  · rw [hsame]
    exact h.encapsulation
  · exact .inr ⟨hused.trans h.used, hpeers⟩

theorem joined_of_quiet (h : d.quiet = d'.quiet) : Joined peers d d' := by
  obtain ⟨hlogin, hfailing, hconfiguration⟩ := parts_of_quiet h
  exact joined_of_same hlogin.symm hfailing.symm ⟨by rw [hconfiguration], by rw [hconfiguration]⟩

/-- Operations about anything else leave the neighbors as they are. -/
theorem joined_receive {op : Operation} (h : op.part ≠ .dataPlane) (d : Device) (status : ClusterStatus) :
    Joined peers d (d.receive status op).2 := by
  obtain ⟨hlogin, hfailing, -⟩ := d.receive_faults status op
  exact joined_of_same hlogin hfailing (d.receive_writes status op .dataPlane h.symm)

theorem Joined.settled {m : DataPlaneNode} (h : Joined peers d d') (hd : m.Settled d) : m.Settled d' := by
  refine ⟨h.refusesLogin.trans hd.login, by rw [h.failing]; exact hd.accepted, h.kept _ hd.peerIp,
    h.kept _ hd.peerLoopbackIp, ?_⟩
  rw [h.used]
  rcases h.encapsulation with hsame | ⟨hused, -⟩
  · rw [hsame, hd.encapsulation]
  · exact hused

theorem settled_of_quiet {m : DataPlaneNode} (h : d.quiet = d'.quiet) (hd : m.Settled d) : m.Settled d' := by
  have hjoined : Joined (fun _ => True) d d' := joined_of_quiet h
  exact hjoined.settled hd

/-- A device that adds a neighbor uses the same encapsulation as before. -/
theorem joined_added {m : DataPlaneNode} (hpeerIp : peers m.peerIp) (hpeerLoopbackIp : peers m.peerLoopbackIp)
    (d : Device) : Joined peers d (m.added d) := by
  refine ⟨rfl, rfl, fun x hx => m.mem_added.2 (.inr (.inr hx)), fun x hx => ?_, m.usedOn_added d,
    .inr ⟨m.encapsulation_added d, _, hpeerIp⟩⟩
  rcases m.mem_added.1 hx with rfl | rfl | hx
  · exact .inr hpeerLoopbackIp
  · exact .inr hpeerIp
  · exact .inl hx

/-- All of `peers` are neighbors of the device. -/
structure Complete (peers : String → Prop) (d : Device) : Prop where
  neighbors : ∀ x, peers x → x ∈ d.configuration.l2EvpnNeighbors
  encapsulation : (∃ x, peers x) → d.configuration.encapsulation = usedOn d

/-- When all neighbors are there, devices that were the same before differ in nothing but what they differ in apart from
them. -/
theorem Joined.quiet_eq (h : Joined peers d e) (h' : Joined peers d' e') (hbefore : d.quiet = d'.quiet)
    (he : Complete peers e) (he' : Complete peers e') (hbare : e.bare = e'.bare) : e.quiet = e'.quiet := by
  obtain ⟨hlogin, hfailing, hconfiguration⟩ := parts_of_quiet hbefore
  have hneighbors : e.configuration.l2EvpnNeighbors = e'.configuration.l2EvpnNeighbors := by
    refine ExtTreeSet.ext_mem fun x => ⟨fun hx => ?_, fun hx => ?_⟩
    · exact (h.joined x hx).elim (fun hx => h'.kept x (hconfiguration ▸ hx)) (he'.neighbors x)
    · exact (h'.joined x hx).elim (fun hx => h.kept x (hconfiguration.symm ▸ hx)) (he.neighbors x)
  have hused : usedOn d = usedOn d' := by
    unfold usedOn
    rw [hfailing, hconfiguration]
  have hencapsulation : e.configuration.encapsulation = e'.configuration.encapsulation := by
    by_cases hpeers : ∃ x, peers x
    · rw [he.encapsulation hpeers, he'.encapsulation hpeers, h.used, h'.used, hused]
    · rw [h.encapsulation.resolve_right fun hsome => hpeers hsome.2,
        h'.encapsulation.resolve_right fun hsome => hpeers hsome.2, hconfiguration]
  have hrest : { e.bare with configuration := { e.bare.configuration with
      l2EvpnNeighbors := e.configuration.l2EvpnNeighbors, encapsulation := e.configuration.encapsulation } } =
    { e'.bare with configuration := { e'.bare.configuration with
      l2EvpnNeighbors := e'.configuration.l2EvpnNeighbors, encapsulation := e'.configuration.encapsulation } } := by
    rw [hbare, hneighbors, hencapsulation]
  exact hrest

end Device

/-! ### Adding neighbors -/

namespace Network

variable {peers : String → String → Prop} {kept kept' : String → Prop} {n n' n'' : Network} {host : String}

/-- Devices got further L2 EVPN neighbors, all of them among `peers`, and nothing else happened to those at `kept`. -/
def Joins (peers : String → String → Prop) (kept : String → Prop) (n n' : Network) : Prop :=
  n.Relates (fun host d d' => d.Joined (peers host) d' ∧ (kept host → d.bare = d'.bare)) n'

private theorem joins_refl_device (peers : String → String → Prop) (kept : String → Prop) (host : String) (d : Device) :
    d.Joined (peers host) d ∧ (kept host → d.bare = d.bare) := ⟨d.joined_refl _, fun _ => rfl⟩

theorem joins_refl (peers : String → String → Prop) (kept : String → Prop) (n : Network) : n.Joins peers kept n :=
  relates_refl (joins_refl_device peers kept) n

theorem Joins.trans (h : n.Joins peers kept n') (h' : n'.Joins peers kept n'') : n.Joins peers kept n'' :=
  Relates.trans (fun _ _ _ _ hd hd' => ⟨hd.1.trans hd'.1, fun hhost => (hd.2 hhost).trans (hd'.2 hhost)⟩) h h'

theorem Joins.mono (h : n.Joins peers kept n') (hkept : ∀ host, kept' host → kept host) : n.Joins peers kept' n' :=
  Relates.mono h fun host _ _ hd => ⟨hd.1, fun hhost => hd.2 (hkept host hhost)⟩

theorem Joins.bareAlike (h : n.Joins peers kept n') (hhost : kept host) : n.BareAlike host n' := by
  unfold BareAlike
  rcases Option.eq_none_or_eq_some (n.device? host) with hd | ⟨d, hd⟩
  · rw [hd, h.of_absent hd]
  · obtain ⟨d', hd', -, hbare⟩ := h.of_device hd
    rw [hd, hd']
    exact congrArg some (hbare hhost)

theorem Joins.settled {m : DataPlaneNode} (h : n.Joins peers kept n') (hn : n.At host m.Settled) :
    n'.At host m.Settled := by
  obtain ⟨d, hd, hsettled⟩ := hn
  obtain ⟨d', hd', hjoined, -⟩ := h.of_device hd
  exact ⟨d', hd', hjoined.settled hsettled⟩

/-- Operations about anything else, sent to one device. -/
theorem joins_execute {op : Operation} (hpart : op.part ≠ .dataPlane) (hhost : ¬ kept host) (n : Network) :
    n.Joins peers kept (n.execute host op).2 :=
  relates_execute (joins_refl_device peers kept)
    (fun d status => ⟨d.joined_receive hpart status, fun hkept => absurd hkept hhost⟩) n

end Network

namespace DataPlaneNode

open Network

variable (m : DataPlaneNode) {peers : String → String → Prop} {kept : String → Prop} {n n' : Network} {d d' : Device}

/-- The device accepts the partner. -/
def Accepts (d : Device) : Prop := d.refusesLogin = false ∧ d.failing.contains (m.addOperation "").name = false

variable {m} in
/-- Whether a device accepts a partner does not depend on its neighbors. -/
theorem accepts_of_joins (h : n.Joins peers kept n') {host : String} : n'.At host m.Accepts ↔ n.At host m.Accepts := by
  constructor
  · rintro ⟨d', hd', hlogin, hfailing⟩
    obtain ⟨d, hd, hjoined, -⟩ := h.to_device hd'
    exact ⟨d, hd, hjoined.refusesLogin ▸ hlogin, hjoined.failing ▸ hfailing⟩
  · rintro ⟨d, hd, hlogin, hfailing⟩
    obtain ⟨d', hd', hjoined, -⟩ := h.of_device hd
    exact ⟨d', hd', hjoined.refusesLogin ▸ hlogin, hjoined.failing ▸ hfailing⟩

/-- Adding the partner ended with these failures: with none and the partner is there, or the device does not accept
it. -/
def Ended (failures : List Failure) (n : Network) : Prop :=
  failures = [] ∧ n.At m.host m.Settled ∨ failures ≠ [] ∧ ¬ n.At m.host m.Accepts

/-- Whatever other neighbors are added at the same time, the partner is added as it is alone. -/
theorem secures_add (hpeerIp : peers m.host m.peerIp) (hpeerLoopbackIp : peers m.host m.peerLoopbackIp)
    (kept : String → Prop) (n : Network) :
    m.add.Secures adapter (Joins peers kept) (Joins peers fun _ => True) m.Ended n := by
  rw [m.add_eq]
  refine secures_session (joins_refl _ _) (fun n₁ _ hlogin => ?_) fun n₁ n₂ e _ hlogin hn₂ => .inr ⟨nofun, ?_⟩
  · obtain ⟨d₁, hd₁, hrefuses⟩ := device_of_login hlogin
    intro n₂ hn₂
    obtain ⟨d₂, hd₂, hjoined₂, -⟩ := hn₂.of_device hd₁
    rw [show adapter.execute m.host .getEncapsulation n₂ = _ from execute_of_device hd₂ _]
    dsimp only
    rw [encapsulationOf_receive, receive_getEncapsulation]
    refine ⟨relates_setDevice (joins_refl_device _ _) hd₂ ⟨Device.joined_of_quiet rfl, fun _ => rfl⟩,
      secures_performStep fun n₃ hn₃ => ?_⟩
    obtain ⟨d₃, hd₃, hjoined₃, -⟩ := hn₃.of_device (device?_setDevice_self ..)
    have hused : usedOn d₂ = usedOn d₃ := hjoined₃.used.symm
    rw [hused]
    rcases execute_cases hd₃ (m.addOperation (usedOn d₃)) with ⟨hfail, hrun⟩ | ⟨-, hop, -⟩ | ⟨haccepted, -, hrun⟩
    · rw [show adapter.execute m.host (m.addOperation (usedOn d₃)) n₃ = _ from hrun]
      refine ⟨relates_setDevice (joins_refl_device _ _) hd₃ ⟨Device.joined_of_quiet rfl, fun _ => rfl⟩,
        fun n₄ hn₄ => .inr ⟨nofun, fun haccepts => ?_⟩⟩
      obtain ⟨d₄, hd₄, -, hfailing⟩ := (accepts_of_joins hn₄).1 haccepts
      rw [device?_setDevice_self] at hd₄
      cases hd₄
      exact absurd (hfail.symm.trans hfailing) nofun
    · cases hop
    · rw [show adapter.execute m.host (m.addOperation (usedOn d₃)) n₃ = _ from hrun]
      have hrefuses₃ : d₃.refusesLogin = false :=
        hjoined₃.refusesLogin.trans (hjoined₂.refusesLogin.trans hrefuses)
      have hjoined : d₃.Joined (peers m.host) (m.added d₃) := Device.joined_added hpeerIp hpeerLoopbackIp d₃
      refine ⟨relates_setDevice (joins_refl_device _ _) hd₃ ⟨hjoined.trans (Device.joined_of_quiet rfl), fun _ => rfl⟩,
        fun n₄ hn₄ => .inl ⟨rfl, hn₄.settled ⟨_, device?_setDevice_self .., ?_⟩⟩⟩
      exact Device.settled_of_quiet (d := m.added d₃) rfl (m.settled_added hrefuses₃ haccepted)
  · intro haccepts
    obtain ⟨d, hd, hrefuses, -⟩ := (accepts_of_joins hn₂).1 haccepts
    exact absurd (hlogin.symm.trans (login_of_device hd hrefuses)) nofun

end DataPlaneNode

end FabricProvision

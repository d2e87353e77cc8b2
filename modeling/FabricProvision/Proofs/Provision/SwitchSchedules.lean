import FabricProvision.Proofs.Provision.AllSchedules
import FabricProvision.Proofs.Provision.Joining
import FabricProvision.Proofs.Provision.Switches

/-!
# Switches configured at the same time

The work on a switch itself and the data-plane neighbors that are added to it, by its own task or that of another
switch, do not notice each other: the switch is configured as it is alone (`SwitchSpec.secures_configure`), and the
neighbors all get there.  So unless neighbors are to be removed, runs without failures are confluent
(`FabricRequest.confluent_configureSwitches`).
-/

namespace FabricProvision

open Dialogue Network

namespace DataPlaneSpec

/-- Adding the neighbors ended with these failures: with none and all of them are there, if their devices accept them,
and with some otherwise. -/
structure Ended (d : DataPlaneSpec) (failures : List Failure) (n : Network) : Prop where
  clean_iff : failures = [] ↔ ∀ m ∈ d.nodes, n.At m.host m.Accepts
  settled : failures = [] → ∀ m ∈ d.nodes, n.At m.host m.Settled

/-- The neighbors are added whatever other neighbors are added at the same time. -/
theorem secures_add {d : DataPlaneSpec} {peers : String → String → Prop}
    (hpeers : ∀ m ∈ d.nodes, peers m.host m.peerIp ∧ peers m.host m.peerLoopbackIp) (kept : String → Prop)
    (n : Network) :
    d.addConcurrently.Secures adapter (Joins peers kept) (Joins peers fun _ => True) d.Ended n := by
  have hco : Cooperate d.nodes (fun _ => Joins peers kept) (fun _ => Joins peers fun _ => True) (Joins peers kept)
      (Joins peers fun _ => True) :=
    ⟨fun _ _ _ _ _ => Joins.trans, fun _ _ _ _ h => h, fun _ _ _ _ h => h, List.pairwise_of_forall fun _ _ =>
      ⟨fun _ _ h => h.mono fun _ _ => trivial, fun _ _ h => h.mono fun _ _ => trivial⟩⟩
  refine (Concurrent.secures_fanOut hco fun m hm => Concurrent.secures_only
    (m.secures_add (hpeers m hm).1 (hpeers m hm).2 kept n)).mono ?_
  rintro merged n' ⟨lists, hlists, hmerges⟩
  refine ⟨hmerges.eq_nil_iff_forall hlists fun m _ list hlist => ?_, fun hclean m hm => ?_⟩
  · rcases hlist with ⟨hclean, hsettled⟩ | ⟨hfailed, hrefused⟩
    · exact iff_of_true hclean (hsettled.imp fun _ h => ⟨h.1, h.2.login, h.2.accepted⟩)
    · exact iff_of_false hfailed hrefused
  · obtain ⟨list, hlist, hended⟩ := exists_of_mem_forall₂ hlists.flip hm
    exact (hended.resolve_right fun hfailed => hfailed.1 (hmerges.eq_nil_iff.1 hclean list hlist)).2

end DataPlaneSpec

namespace SwitchSpec

variable (t : Topology) (force : Bool) (s : SwitchSpec)

/-- The stages of the switch itself; nothing happens where data-plane neighbors would be removed. -/
def ownStages : List (Dialogue (List Failure)) :=
  [s.provisionSystem t force, s.provisionInterfaces, s.provisionBgp t, pure []] ++
    if s.isOverlay t then [s.provisionEvpn force] else []

/-- The work on the switch itself. -/
def configureAlone : Dialogue (List Failure) :=
  session "Configure Switch Login" s.host s.credentials (collect (s.ownStages t force))

/-- The work on the switch, begun in the network `n`, ended with these failures: with none if the switch is configured
alone without a failure and the devices of its neighbors accept these.  Then the switch is as it is alone, and the
neighbors are there. -/
structure Ended (n : Network) (failures : List Failure) (n' : Network) : Prop where
  clean_iff : failures = [] ↔ ((s.configureAlone t force).run adapter n).1 = [] ∧
    ∀ m ∈ s.dataPlane.nodes, n'.At m.host m.Accepts
  bareAlike : failures = [] → n'.BareAlike s.host ((s.configureAlone t force).run adapter n).2
  settled : failures = [] → ∀ m ∈ s.dataPlane.nodes, n'.At m.host m.Settled

variable {s} {peers : String → String → Prop}

/-- The stages of the switch itself do what they do without the data-plane neighbors. -/
private theorem mirrors_own {stage : Stage} (hstage : OwnStage stage) {x : Dialogue (List Failure)}
    (hx : x.Stays (Scope.on s.host (·.stage = stage))) :
    Concurrent.Mirrors adapter adapter (Joins peers (· = s.host)) (Joins peers (· ≠ s.host)) (BareAlike s.host)
      (.only x) x := by
  intro n m hnm
  refine Concurrent.secures_only (hx.secures (fun n n' m hn hnm => (hn.bareAlike rfl).symm.trans hnm)
    (fun host credentials n m hhost hnm => ?_) (fun host op n m hop hnm => ?_) hnm)
  · cases show host = s.host from hhost
    exact ⟨joins_refl _ _ n, hnm.login, hnm⟩
  · obtain ⟨hhost, hpart⟩ := hop
    cases show host = s.host from hhost
    have hother : op.part ≠ .dataPlane ∧ op ≠ .getClusterStatus := by
      constructor
      · rintro hsame
        rw [hsame] at hpart
        rw [← hpart] at hstage
        simp [OwnStage, Part.stage] at hstage
      · rintro rfl
        rw [← hpart] at hstage
        simp [OwnStage, Part.stage, Operation.part] at hstage
    obtain ⟨hanswer, hnext⟩ := hnm.execute hother.1 hother.2
    exact ⟨joins_execute hother.1 (by simp) n, hanswer, hnext⟩

/-- Without neighbors to remove nothing is removed. -/
private theorem mirrors_removal (hstale : s.staleDataPlane.nodes = []) :
    Concurrent.Mirrors adapter adapter (Joins peers (· = s.host)) (Joins peers (· ≠ s.host)) (BareAlike s.host)
      s.staleDataPlane.removeConcurrently (pure []) := by
  intro n m hnm x hx
  unfold DataPlaneSpec.removeConcurrently at hx
  rw [hstale] at hx
  rw [Concurrent.eq_of_mayBe_fanOut_nil hx]
  exact Dialogue.secures_pure fun n' hn => ⟨rfl, (hn.bareAlike rfl).symm.trans hnm⟩

private theorem forall₂_ownStages (hstale : s.staleDataPlane.nodes = []) :
    List.Forall₂ (Concurrent.Mirrors adapter adapter (Joins peers (· = s.host)) (Joins peers (· ≠ s.host))
        (BareAlike s.host))
      ([.only (s.provisionSystem t force), .only s.provisionInterfaces, .only (s.provisionBgp t),
        s.staleDataPlane.removeConcurrently] ++ if s.isOverlay t then [.only (s.provisionEvpn force)] else [])
      (s.ownStages t force) := by
  refine List.rel_append (.cons ?_ (.cons ?_ (.cons ?_ (.cons (mirrors_removal hstale) .nil)))) ?_
  · exact mirrors_own (by simp [OwnStage]) (s.stays_provisionSystem t force)
  · exact mirrors_own (by simp [OwnStage]) s.stays_provisionInterfaces
  · exact mirrors_own (by simp [OwnStage]) (s.stays_provisionBgp t)
  · split
    · exact .cons (mirrors_own (by simp [OwnStage]) (s.stays_provisionEvpn force)) .nil
    · exact .nil

/-- Whatever neighbors are added at the same time, the switch is configured as it is alone. -/
theorem secures_configure (hstale : s.staleDataPlane.nodes = [])
    (hpeers : ∀ m ∈ s.dataPlane.nodes, peers m.host m.peerIp ∧ peers m.host m.peerLoopbackIp) (n : Network) :
    (s.configureConcurrently t force).Secures adapter (Joins peers (· = s.host)) (Joins peers (· ≠ s.host))
      (s.Ended t force n) n := by
  refine Concurrent.secures_session (joins_refl _ _) (fun n₁ hn₁ hlogin => ?_) fun n₁ n₂ e hn₁ hlogin hn₂ => ?_
  · rw [← (hn₁.bareAlike rfl).login] at hlogin
    have hanswer : adapter.login s.host s.credentials n = (.ok ⟨⟩, n) := congrArg (·, n) hlogin
    have hrun : (s.configureAlone t force).run adapter n = (collect (s.ownStages t force)).run adapter n := by
      unfold configureAlone
      rw [run_session, hanswer]
    refine Concurrent.secures_collect_last (joins_refl _ _) (fun _ _ _ => Joins.trans)
      (forall₂_ownStages t force hstale) (hn₁.bareAlike rfl).symm fun n₂ hn₂ => ?_
    rw [← hrun] at hn₂ ⊢
    -- What joins leaves the switch as its own stages left it.
    have hkeeps : ∀ kept : String → Prop, kept s.host → ∀ n₃ n₄, Joins peers kept n₃ n₄ →
        n₃.BareAlike s.host ((s.configureAlone t force).run adapter n).2 →
        n₄.BareAlike s.host ((s.configureAlone t force).run adapter n).2 :=
      fun kept hkept n₃ n₄ hn h => (hn.bareAlike hkept).symm.trans h
    intro x hx
    refine (((DataPlaneSpec.secures_add hpeers (· = s.host) n₂ x hx).keeps (hkeeps _ rfl) (hkeeps _ trivial) hn₂).widen
      fun n₃ n₄ hn => hn.mono fun _ _ => trivial).mono ?_
    rintro later n₃ ⟨hended, halike⟩
    refine ⟨?_, fun _ => halike, fun hclean => hended.settled (List.append_eq_nil_iff.1 hclean).2⟩
    rw [List.append_eq_nil_iff, hended.clean_iff]
  · rw [← (hn₁.bareAlike rfl).login] at hlogin
    have hanswer : adapter.login s.host s.credentials n = (.error e, n) := congrArg (·, n) hlogin
    have hrun : (s.configureAlone t force).run adapter n = ([⟨"Configure Switch Login", s.host, .login e⟩], n) := by
      unfold configureAlone
      rw [run_session, hanswer]
    refine ⟨iff_of_false nofun fun h => ?_, nofun, nofun⟩
    rw [hrun] at h
    exact absurd h.1 nofun

end SwitchSpec

namespace FabricRequest

variable {r : FabricRequest} {force : Bool}

/-- The addresses that are to become neighbors of the device at a host. -/
def peers (r : FabricRequest) (host address : String) : Prop :=
  ∃ s ∈ r.switches, ∃ m ∈ s.dataPlane.nodes, m.host = host ∧ (address = m.peerIp ∨ address = m.peerLoopbackIp)

/-- The switches are configured as each of them is alone, and their data-plane neighbors are there. -/
structure Ended (r : FabricRequest) (force : Bool) (n : Network) (failures : List Failure) (n' : Network) : Prop where
  joins : n.Joins r.peers (fun host => ∀ s ∈ r.switches, host ≠ s.host) n'
  clean_iff : failures = [] ↔ ∀ s ∈ r.switches, ((s.configureAlone r.topology force).run adapter n).1 = [] ∧
    ∀ m ∈ s.dataPlane.nodes, n.At m.host m.Accepts
  bareAlike : failures = [] → ∀ s ∈ r.switches,
    n'.BareAlike s.host ((s.configureAlone r.topology force).run adapter n).2
  settled : failures = [] → ∀ s ∈ r.switches, ∀ m ∈ s.dataPlane.nodes, n'.At m.host m.Settled

private theorem complete_of_ended {n n' : Network} (h : r.Ended force n [] n') {host : String} {d : Device}
    (hd : n'.device? host = some d) : d.Complete (r.peers host) := by
  have hsettled : ∀ address, r.peers host address →
      address ∈ d.configuration.l2EvpnNeighbors ∧ d.configuration.encapsulation = DataPlaneNode.usedOn d := by
    rintro address ⟨s, hs, m, hm, rfl, haddress⟩
    obtain ⟨e, he, hsettled⟩ := h.settled rfl s hs m hm
    rw [hd] at he
    cases he
    refine ⟨?_, hsettled.encapsulation⟩
    rcases haddress with rfl | rfl
    · exact hsettled.peerIp
    · exact hsettled.peerLoopbackIp
  exact ⟨fun address haddress => (hsettled address haddress).1, fun ⟨address, haddress⟩ => (hsettled address haddress).2⟩

section configured

variable (hhosts : r.DistinctHosts) (hstale : ∀ s ∈ r.switches, s.staleDataPlane.nodes = [])

include hhosts hstale

private theorem ended_configureSwitches {x : Dialogue (List Failure)}
    (hx : (r.configureSwitchesConcurrently force).MayBe x) (n : Network) :
    r.Ended force n (x.run adapter n).1 (x.run adapter n).2 := by
  have hco : Cooperate r.switches (fun s => Joins r.peers (· = s.host)) (fun s => Joins r.peers (· ≠ s.host)) (· = ·)
      (Joins r.peers fun host => ∀ s ∈ r.switches, host ≠ s.host) := by
    refine ⟨fun _ _ _ _ _ => Joins.trans, ?_, fun s hs _ _ h => h.mono fun host hhost => hhost s hs,
      hhosts.imp fun hne => ⟨fun _ _ h => h.mono ?_, fun _ _ h => h.mono ?_⟩⟩
    · rintro s - n _ rfl
      exact joins_refl _ _ n
    · rintro host rfl
      exact hne.symm
    · rintro host rfl
      exact hne
  have hsecures := Concurrent.secures_fanOut hco (s := n) fun s hs =>
    SwitchSpec.secures_configure r.topology force (hstale s hs)
      (fun m hm => ⟨⟨s, hs, m, hm, rfl, .inl rfl⟩, ⟨s, hs, m, hm, rfl, .inr rfl⟩⟩) n
  obtain ⟨hjoins, lists, hlists, hmerges⟩ := (hsecures x hx).run (fun _ => rfl) (joins_refl _ _) fun _ _ _ => Joins.trans
  have hended : (x.run adapter n).1 = [] → ∀ s ∈ r.switches,
      s.Ended r.topology force n [] (x.run adapter n).2 := by
    intro hclean s hs
    obtain ⟨list, hlist, hended⟩ := exists_of_mem_forall₂ hlists.flip hs
    rwa [hmerges.eq_nil_iff.1 hclean list hlist] at hended
  refine ⟨hjoins, hmerges.eq_nil_iff_forall hlists fun s _ list hlist => hlist.clean_iff.trans ?_,
    fun hclean s hs => (hended hclean s hs).bareAlike rfl, fun hclean s hs => (hended hclean s hs).settled rfl⟩
  exact and_congr_right fun _ => forall₂_congr fun m _ => DataPlaneNode.accepts_of_joins hjoins

/-- Without neighbors to remove, switches may be configured at the same time. -/
theorem confluent_configureSwitches :
    (r.configureSwitchesConcurrently force).Confluent adapter Network.quiet := by
  intro x y hx hy n m hnm hclean
  have hended := ended_configureSwitches hhosts hstale hx n
  have hended' := ended_configureSwitches hhosts hstale hy m
  have halone : ∀ s : SwitchSpec, ((s.configureAlone r.topology force).run adapter n).1 =
      ((s.configureAlone r.topology force).run adapter m).1 ∧
        ((s.configureAlone r.topology force).run adapter n).2.quiet =
          ((s.configureAlone r.topology force).run adapter m).2.quiet :=
    fun s => Network.shows_quiet.run (s.configureAlone r.topology force) hnm
  have hclean' : (y.run adapter m).1 = [] := by
    refine hended'.clean_iff.2 fun s hs => ?_
    obtain ⟨hfound, haccepts⟩ := hended.clean_iff.1 hclean s hs
    refine ⟨(halone s).1 ▸ hfound, fun node hnode => (haccepts node hnode).congr hnm fun d e hde hd => ?_⟩
    obtain ⟨hlogin, hfailing, -⟩ := Device.parts_of_quiet hde
    exact ⟨hlogin ▸ hd.1, hfailing ▸ hd.2⟩
  refine ⟨hclean', ext_device? fun host => ?_⟩
  rw [hclean] at hended
  rw [hclean'] at hended'
  have hbare : (x.run adapter n).2.BareAlike host (y.run adapter m).2 := by
    by_cases hhost : ∀ s ∈ r.switches, host ≠ s.host
    · exact (hended.joins.bareAlike hhost).symm.trans
        ((bareAlike_of_quiet hnm host).trans (hended'.joins.bareAlike hhost))
    · push Not at hhost
      obtain ⟨s, hs, rfl⟩ := hhost
      exact (hended.bareAlike rfl s hs).trans
        ((bareAlike_of_quiet (halone s).2 s.host).trans (hended'.bareAlike rfl s hs).symm)
  have hbefore : (n.device? host).map Device.quiet = (m.device? host).map Device.quiet := by
    rw [← device?_quiet, ← device?_quiet, hnm]
  rw [device?_quiet, device?_quiet]
  rcases Option.eq_none_or_eq_some (n.device? host) with hd | ⟨d, hd⟩
  · have he : m.device? host = none := Option.map_eq_none_iff.1 (hbefore.symm.trans (congrArg _ hd))
    rw [hended.joins.of_absent hd, hended'.joins.of_absent he]
  · obtain ⟨e, he, hde⟩ := Option.map_eq_some_iff.1 (hbefore.symm.trans (congrArg _ hd))
    obtain ⟨d', hd', hjoined, -⟩ := hended.joins.of_device hd
    obtain ⟨e', he', hjoined', -⟩ := hended'.joins.of_device he
    unfold BareAlike at hbare
    rw [hd', he'] at hbare ⊢
    exact congrArg some (hjoined.quiet_eq hjoined' hde.symm (complete_of_ended hended hd')
      (complete_of_ended hended' he') (Option.some.inj hbare))

end configured

end FabricRequest

end FabricProvision

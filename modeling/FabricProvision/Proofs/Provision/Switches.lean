import FabricProvision.Proofs.Provision.DataPlane
import FabricProvision.Proofs.Provision.Runs
import FabricProvision.Proofs.Provision.Stages

/-!
# Switches in a run

What a stage of a switch makes of the switch stays so until the end of the run.  The other stages of the same
switch are about other parts (`brings_piece`), other switches only send operations about data-plane neighbors to
it, and the later stages of the run are about clusters, overlay gateways and saving (`brings_configure`).
-/

namespace FabricProvision

open Dialogue Device Network

theorem Scope.local_on {host : String} {parts : Part → Prop} (h : ¬ parts .cluster) :
    (Scope.on host parts).Local host := by
  refine ⟨fun _ hlogin => hlogin, fun other op hop => ⟨hop.1, ?_⟩⟩
  rintro rfl
  exact h hop.2

/-- What depends on one part belongs to the stage of that part. -/
theorem Device.Concerns.stage {p : Part} {P : Device → Prop} (h : Concerns (· = p) P) :
    Concerns (·.stage = p.stage) P :=
  h.mono fun q hq => by rw [hq]

namespace SwitchSpec

variable (t : Topology) (force : Bool) (s : SwitchSpec)

/-! ### The stages of a switch -/

/-- The pieces of the work on a switch, each with its stage. -/
def pieces : List (Stage × Dialogue (List Failure)) :=
  [(.system, s.provisionSystem t force), (.interfaces, s.provisionInterfaces), (.bgp, s.provisionBgp t),
    (.dataPlane, s.staleDataPlane.remove)] ++
  (if s.isOverlay t then [(.evpn, s.provisionEvpn force)] else []) ++ [(.dataPlane, s.dataPlane.add)]

theorem configure_eq_pieces : s.configure t force =
    session "Configure Switch Login" s.host s.credentials (collect ((s.pieces t force).map (·.2))) := by
  unfold configure pieces
  simp only [List.map_append, List.map_cons, List.map_nil]
  split <;> rfl

theorem stays_piece {piece : Stage × Dialogue (List Failure)} (h : piece ∈ s.pieces t force) :
    piece.2.Stays (Scope.everywhere (·.stage = piece.1)) := by
  unfold pieces at h
  simp only [List.mem_append, List.mem_cons, List.not_mem_nil, or_false] at h
  have hwiden : ∀ {x : Dialogue (List Failure)} {parts : Part → Prop}, x.Stays (Scope.on s.host parts) →
      x.Stays (Scope.everywhere parts) := fun hx => hx.widen (Scope.on_sub_everywhere fun _ hp => hp)
  rcases h with ((rfl | rfl | rfl | rfl) | h) | rfl
  · exact hwiden (s.stays_provisionSystem t force)
  · exact hwiden s.stays_provisionInterfaces
  · exact hwiden (s.stays_provisionBgp t)
  · exact s.stays_removeStale
  · split at h
    · cases List.mem_singleton.1 h
      exact hwiden (s.stays_provisionEvpn force)
    · cases h
  · exact s.stays_addDataPlane

/-- Of every stage of its own a switch has one piece at most. -/
private theorem countP_pieces {stage : Stage} (h : stage ≠ .dataPlane) :
    (s.pieces t force).countP (fun piece => piece.1 = stage) ≤ 1 := by
  unfold pieces
  cases stage <;> split <;> simp_all

variable {P Q : Device → Prop}

/-- What one piece makes of the parts of its stage, the others leave. -/
private theorem brings_piece {stage : Stage} {work : Dialogue (List Failure)}
    (hmem : (stage, work) ∈ s.pieces t force) (hstage : stage ≠ .dataPlane)
    (hP : Concerns (·.stage = stage) P) (hQ : Concerns (·.stage = stage) Q)
    (hwork : Brings Network.adapter (At s.host P) work (At s.host Q)) :
    Brings Network.adapter (If s.host P) (s.configure t force) (At s.host Q) := by
  have hcount := s.countP_pieces t force hstage
  have hstays : ∀ piece ∈ s.pieces t force, piece.2.Stays (Scope.everywhere (·.stage = piece.1)) :=
    fun piece => s.stays_piece t force
  rw [configure_eq_pieces]
  obtain ⟨before, after, hpieces⟩ := List.append_of_mem hmem
  rw [hpieces] at hcount hstays ⊢
  rw [List.countP_append, List.countP_cons_of_pos (by simp)] at hcount
  -- Every other piece is of another stage.
  have hkeeps : ∀ {R : Device → Prop} (pieces : List (Stage × Dialogue (List Failure))),
      (∀ piece ∈ pieces, piece.2.Stays (Scope.everywhere (·.stage = piece.1))) →
      pieces.countP (fun piece => piece.1 = stage) = 0 → Concerns (·.stage = stage) R →
      ∀ w ∈ pieces.map (·.2), Brings Network.adapter (At s.host R) w (At s.host R) := by
    intro R pieces hstays hzero hR w hw
    obtain ⟨piece, hpiece, rfl⟩ := List.mem_map.1 hw
    have hne : piece.1 ≠ stage := by simpa using List.countP_eq_zero.1 hzero piece hpiece
    exact fun n hn _ => hn.keeps (hstays piece hpiece) hR fun op hop hsame => hne (hop.symm.trans hsame)
  rw [List.map_append, List.map_cons]
  have hopen : ∀ n, At s.host (fun d => d.refusesLogin = false ∧ P d) n → At s.host P n :=
    fun n ⟨d, hd, hPd⟩ => ⟨d, hd, hPd.2⟩
  refine brings_session (Brings.weaken (brings_collect_mid ?_ hwork ?_) hopen fun _ h => h)
  · exact hkeeps before (fun piece hpiece => hstays piece (by simp [hpiece])) (by omega) hP
  · exact hkeeps after (fun piece hpiece => hstays piece (by simp [hpiece])) (by omega) hQ

theorem brings_login :
    Brings Network.adapter (If s.host fun _ => True) (s.configure t force)
      (At s.host fun d => d.refusesLogin = false) :=
  brings_session_login.weaken (fun _ _ => trivial) fun _ h => h

theorem brings_system (hP : Concerns (·.stage = .system) P) (hQ : Concerns (·.stage = .system) Q)
    (h : Brings Device.adapter P (s.provisionSystem t force) Q) :
    Brings Network.adapter (If s.host P) (s.configure t force) (At s.host Q) :=
  s.brings_piece t force (by simp [pieces]) (by simp) hP hQ
    (brings_local (s.stays_provisionSystem t force) (Scope.local_on (by simp [Part.stage])) h)

theorem brings_interfaces (hP : Concerns (·.stage = .interfaces) P) (hQ : Concerns (·.stage = .interfaces) Q)
    (h : Brings Device.adapter P s.provisionInterfaces Q) :
    Brings Network.adapter (If s.host P) (s.configure t force) (At s.host Q) :=
  s.brings_piece t force (by simp [pieces]) (by simp) hP hQ
    (brings_local s.stays_provisionInterfaces (Scope.local_on (by simp [Part.stage])) h)

theorem brings_bgp (hP : Concerns (·.stage = .bgp) P) (hQ : Concerns (·.stage = .bgp) Q)
    (h : Brings Device.adapter P (s.provisionBgp t) Q) :
    Brings Network.adapter (If s.host P) (s.configure t force) (At s.host Q) :=
  s.brings_piece t force (by simp [pieces]) (by simp) hP hQ
    (brings_local (s.stays_provisionBgp t) (Scope.local_on (by simp [Part.stage])) h)

theorem brings_evpn (hoverlay : s.isOverlay t = true) (hP : Concerns (·.stage = .evpn) P)
    (hQ : Concerns (·.stage = .evpn) Q) (h : Brings Device.adapter P (s.provisionEvpn force) Q) :
    Brings Network.adapter (If s.host P) (s.configure t force) (At s.host Q) :=
  s.brings_piece t force (by simp [pieces, hoverlay]) (by simp) hP hQ
    (brings_local (s.stays_provisionEvpn force) (Scope.local_on (by simp [Part.stage])) h)

/-! ### Data-plane neighbors -/

variable {m : DataPlaneNode}

private theorem keeps_addDataPlane (m' : DataPlaneNode) :
    Brings Network.adapter (At m.host m.Settled) m'.add (At m.host m.Settled) := by
  by_cases hhost : m'.host = m.host
  · have hstays := m'.stays_add
    rw [hhost] at hstays
    exact brings_local hstays (Scope.local_on (by simp)) (m.keeps_add m')
  · exact fun n hn _ => hn.keeps m'.stays_add m.concerns_settled fun op hop => absurd hop.1.symm hhost

private theorem brings_addDataPlane : Brings Network.adapter (fun _ => True) m.add (At m.host m.Settled) := by
  intro n _ hclean
  obtain ⟨d, hd, -⟩ := device_of_session hclean
  exact brings_local m.stays_add (Scope.local_on (by simp)) m.brings_add n ⟨d, hd, trivial⟩ hclean

/-- The work on a switch adds the neighbors of its data-plane clusters, wherever they are. -/
theorem brings_dataPlane (hm : m ∈ s.dataPlane.nodes) :
    Brings Network.adapter (fun _ => True) (s.configure t force) (At m.host m.Settled) := by
  unfold configure
  refine brings_session_work (brings_collect_append (brings_true _) (brings_collect_cons ?_ brings_collect_nil))
  exact brings_fanOut_mem hm (List.pairwise_of_forall fun _ _ => trivial) (fun _ _ _ => brings_true _)
    brings_addDataPlane fun m' _ _ => keeps_addDataPlane m'

/-- Unless neighbors are removed, the work on any switch keeps them. -/
theorem keeps_dataPlane (hstale : s.staleDataPlane.nodes = []) :
    Brings Network.adapter (At m.host m.Settled) (s.configure t force) (At m.host m.Settled) := by
  rw [configure_eq_pieces]
  refine brings_session_work (brings_collect_keeps fun w hw => ?_)
  obtain ⟨piece, hpiece, rfl⟩ := List.mem_map.1 hw
  by_cases hstage : piece.1 = .dataPlane
  · have hdata : piece.2 = s.staleDataPlane.remove ∨ piece.2 = s.dataPlane.add := by
      unfold pieces at hpiece
      simp only [List.mem_append, List.mem_cons, List.not_mem_nil, or_false] at hpiece
      rcases hpiece with ((rfl | rfl | rfl | rfl) | h) | rfl
      · cases hstage
      · cases hstage
      · cases hstage
      · exact .inl rfl
      · split at h
        · cases List.mem_singleton.1 h
          cases hstage
        · cases h
      · exact .inr rfl
    rcases hdata with hremove | hadd
    · rw [hremove]
      unfold DataPlaneSpec.remove
      rw [hstale]
      exact brings_collect_nil
    · rw [hadd]
      exact brings_fanOut_keeps fun m' _ => keeps_addDataPlane m'
  · refine fun n hn _ => hn.keeps (s.stays_piece t force hpiece) m.concerns_settled fun op hop hsame => hstage ?_
    rw [← show op.part.stage = piece.1 from hop, hsame]
    rfl

end SwitchSpec

/-! ### The run -/

namespace FabricRequest

variable {polling : Polling} {force : Bool} {r : FabricRequest} {save : Bool} {s : SwitchSpec} {stage : Stage}
  {P Q : Device → Prop}

/-- The switches of the request are different ones. -/
def DistinctHosts (r : FabricRequest) : Prop := r.switches.Pairwise fun s s' => s.host ≠ s'.host

private theorem scope_of_other {s' : SwitchSpec} (hstage : SwitchSpec.OwnStage stage) (hne : s'.host ≠ s.host) :
    ∀ op, s'.scope.operations s.host op → ¬ op.part.stage = stage := by
  rintro op (hop | hop) rfl
  · rw [hop] at hstage
    simp [SwitchSpec.OwnStage] at hstage
  · exact hne hop.1.symm

/-- What the work on a switch makes of the parts of a stage of its own, the work on other switches leaves. -/
theorem brings_configureSwitches (hs : s ∈ r.switches) (hhosts : r.DistinctHosts)
    (hstage : SwitchSpec.OwnStage stage) (hP : Concerns (·.stage = stage) P) (hQ : Concerns (·.stage = stage) Q)
    (h : Brings Network.adapter (If s.host P) (s.configure r.topology force) (At s.host Q)) :
    Brings Network.adapter (If s.host P) (r.configureSwitches force) (At s.host Q) := by
  refine brings_fanOut_mem hs hhosts (fun s' _ hne => ?_) h fun s' _ hne => ?_
  · exact fun n hn _ => hn.keeps (s'.stays_configure r.topology force) hP (scope_of_other hstage hne)
  · exact fun n hn _ => hn.keeps (s'.stays_configure r.topology force) hQ (scope_of_other hstage hne.symm)

theorem stays_configureOverlayGateways (principals : Principals) :
    (r.configureOverlayGateways force principals).Stays (Scope.everywhere (·.stage = .overlayGateways)) :=
  stays_fanOut fun s _ => (s.within_configureOverlayGateway force).stays.widen
    (Scope.on_sub_everywhere fun p hp => by rw [hp]; rfl)

theorem stays_persistAll : (r.persistAll save).Stays (Scope.everywhere (·.stage = .saving)) := by
  unfold persistAll
  split
  · exact stays_fanOut fun s _ => s.within_persist.stays.widen
      (Scope.on_sub_everywhere fun p hp => by rw [hp]; rfl)
  · exact within_pure trivial

/-- The later stages leave what the work on the switches made of its stages. -/
theorem at_of_configureSwitches {host : String} {n : Network} (hQ : Concerns (·.stage = stage) Q)
    (hlater : stage ≠ .clusters ∧ stage ≠ .overlayGateways ∧ stage ≠ .saving)
    (hclean : ((r.configure polling force save).run Network.adapter n).1 = [])
    (h : ((r.configureSwitches force).run Network.adapter n).2.At host Q) :
    ((r.configure polling force save).run Network.adapter n).2.At host Q := by
  obtain ⟨-, -, -, -, hrun⟩ := r.configure_clean polling force save hclean
  obtain ⟨hclusters, hgateways, hsaving⟩ := hlater
  rw [hrun]
  refine At.keeps (At.keeps (At.keeps (At.keeps h (stays_reconcileClusters polling force r.clusters) hQ ?_)
    (stays_findPrincipals ∅ (r.clusters.update ++ r.clusters.create)) hQ ?_)
    (stays_configureOverlayGateways _) hQ ?_) stays_persistAll hQ ?_
  · rintro op hop hsame
    rw [show op.part = .cluster from hop] at hsame
    exact hclusters hsame.symm
  · rintro op hop hsame
    cases show op = .getClusterStatus from hop
    exact hclusters hsame.symm
  · exact fun op hop hsame => hgateways (hsame.symm.trans hop)
  · exact fun op hop hsame => hsaving (hsame.symm.trans hop)

theorem brings_configure (hs : s ∈ r.switches) (hhosts : r.DistinctHosts) (hstage : SwitchSpec.OwnStage stage)
    (hP : Concerns (·.stage = stage) P) (hQ : Concerns (·.stage = stage) Q)
    (h : Brings Network.adapter (If s.host P) (s.configure r.topology force) (At s.host Q)) :
    Brings Network.adapter (If s.host P) (r.configure polling force save) (At s.host Q) := by
  intro n hn hclean
  obtain ⟨hswitches, -⟩ := r.configure_clean polling force save hclean
  refine at_of_configureSwitches hQ ?_ hclean (brings_configureSwitches hs hhosts hstage hP hQ h n hn hswitches)
  rcases hstage with rfl | rfl | rfl | rfl <;> simp

/-- The neighbors of all data-plane clusters are there in the end, unless some are to be removed. -/
theorem brings_dataPlane (hstale : ∀ s ∈ r.switches, s.staleDataPlane.nodes = []) (hs : s ∈ r.switches)
    {m : DataPlaneNode} (hm : m ∈ s.dataPlane.nodes) :
    Brings Network.adapter (fun _ => True) (r.configure polling force save) (At m.host m.Settled) := by
  intro n _ hclean
  obtain ⟨hswitches, -⟩ := r.configure_clean polling force save hclean
  have hsettled : Brings Network.adapter (fun _ => True) (r.configureSwitches force) (At m.host m.Settled) :=
    brings_fanOut_mem hs (List.pairwise_of_forall fun _ _ => trivial) (fun _ _ _ => brings_true _)
      (s.brings_dataPlane r.topology force hm)
      fun s' hs' _ => s'.keeps_dataPlane r.topology force (hstale s' hs')
  exact at_of_configureSwitches m.concerns_settled.stage (by simp [Part.stage]) hclean
    (hsettled n trivial hswitches)

end FabricRequest

end FabricProvision

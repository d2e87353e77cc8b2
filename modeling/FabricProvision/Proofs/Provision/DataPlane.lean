import FabricProvision.Proofs.Device.Has
import FabricProvision.Proofs.Provision.Alphabets

/-!
# Neighbors of data-plane clusters

A neighbor is added with the encapsulation that the device already uses, and with VXLAN where it does not say
(`DataPlaneNode.usedOn`).  Once one neighbor is there, the device uses what further neighbors are added with, so
these keep it (`DataPlaneNode.keeps_add`), and adding it once more changes nothing (`DataPlaneNode.idle_add`).
-/

namespace FabricProvision

open Std (ExtTreeSet)
open Dialogue Device Operation

namespace DataPlaneNode

variable (n : DataPlaneNode) {d : Device}

/-- The operation that adds the partner. -/
def addOperation (encapsulation : String) : Operation :=
  .configureL2EvpnNeighbor n.peerIp n.peerLoopbackIp n.loopbackNumber n.peerAsn encapsulation n.bfdEnabled

/-- The encapsulation with which neighbors are added to the device. -/
def usedOn (d : Device) : String :=
  if d.failing.contains getEncapsulation.name ∨ d.configuration.encapsulation.isEmpty then SwitchSpec.vxlan
  else d.configuration.encapsulation

private theorem isEmpty_usedOn (d : Device) : (usedOn d).isEmpty = false := by
  unfold usedOn
  split
  · rfl
  · rename_i h
    simp_all

private theorem usedOn_failing {d : Device} (h : d.failing.contains getEncapsulation.name = true) :
    usedOn d = SwitchSpec.vxlan := if_pos (.inl h)

private theorem usedOn_accepting {d : Device} (h : d.failing.contains getEncapsulation.name = false) :
    usedOn d = encapsulationOf (.ok d.configuration.encapsulation) := by
  unfold usedOn encapsulationOf
  simp only [h, Bool.false_eq_true, false_or]

/-- The question for the encapsulation changes nothing but the journal. -/
theorem receive_getEncapsulation (d : Device) (status : ClusterStatus) :
    (d.receive status .getEncapsulation).2 = d.record .getEncapsulation := by
  rcases d.receive_cases status .getEncapsulation with ⟨-, h⟩ | ⟨-, -, h⟩ | ⟨-, -, h⟩
  all_goals exact congrArg Prod.snd h

/-- A device answers the question for its encapsulation with what neighbors are added with. -/
theorem encapsulationOf_receive (d : Device) (status : ClusterStatus) (f : Rejection → DeviceError) :
    encapsulationOf (((d.receive status .getEncapsulation).1.mapError f).bind (·.toText getEncapsulation.name)) =
      usedOn d := by
  rcases d.receive_cases status .getEncapsulation with ⟨hfail, h⟩ | ⟨-, hop, -⟩ | ⟨hfail, -, h⟩
  · rw [h, usedOn_failing hfail]
    rfl
  · cases hop
  · rw [h, usedOn_accepting hfail]
    rfl

/-- The question for the encapsulation, and the operation that is sent after it. -/
theorem add_eq : n.add = session "Configure Data Plane Cluster" n.host n.credentials (.ask n.host .getEncapsulation
    fun answer => performStep "Configure Data Plane Cluster" n.host
      (n.addOperation (encapsulationOf (answer.bind (·.toText getEncapsulation.name))))) :=
  congrArg (session _ _ _) (congrArg (Dialogue.ask _ _) (funext fun answer => by cases answer <;> rfl))

private theorem run_add (hlogin : d.refusesLogin = false) :
    n.add.run adapter d =
      (performStep "Configure Data Plane Cluster" n.host (n.addOperation (usedOn d))).run adapter
        (d.record .getEncapsulation) := by
  rw [n.add_eq, run_session_of_login hlogin]
  show (performStep _ n.host (n.addOperation (encapsulationOf _))).run adapter (d.receive {} .getEncapsulation).2 = _
  rw [receive_getEncapsulation, encapsulationOf_receive]

/-- The partner is added, with the encapsulation in use, and further neighbors can be. -/
structure Settled (d : Device) : Prop where
  login : d.refusesLogin = false
  accepted : d.failing.contains (n.addOperation "").name = false
  peerIp : n.peerIp ∈ d.configuration.l2EvpnNeighbors
  peerLoopbackIp : n.peerLoopbackIp ∈ d.configuration.l2EvpnNeighbors
  encapsulation : d.configuration.encapsulation = usedOn d

/-- The device once the partner was added. -/
def added (d : Device) : Device :=
  { d with
    journal := d.journal ++ [.getEncapsulation] ++ [n.addOperation (usedOn d)]
    configuration := addL2EvpnNeighbor n.peerIp n.peerLoopbackIp (usedOn d) d.configuration }

theorem add_of_accepted (hlogin : d.refusesLogin = false)
    (haccepted : d.failing.contains (n.addOperation "").name = false) : n.add.run adapter d = ([], n.added d) := by
  have hperform : (perform n.host (n.addOperation (usedOn d))).run adapter (d.record .getEncapsulation) =
      (.ok ⟨⟩, n.added d) := perform_of_apply (by simp [addOperation]) haccepted rfl
  rw [n.run_add hlogin, performStep, run_step, hperform]

private theorem accepted_of_add (h : (n.add.run adapter d).1 = []) :
    d.refusesLogin = false ∧ d.failing.contains (n.addOperation "").name = false := by
  have hlogin := login_of_session h
  refine ⟨hlogin, ?_⟩
  rw [n.run_add hlogin, performStep, run_step, run_perform] at h
  generalize hr : adapter.execute n.host (n.addOperation (usedOn d)) (d.record .getEncapsulation) = r at h
  obtain ⟨answer, d'⟩ := r
  cases answer with
  | ok a => exact (execute_ok (by simp [addOperation]) hr).1
  | error e => cases h

theorem encapsulation_added (d : Device) : (n.added d).configuration.encapsulation = usedOn d := by
  show (if (usedOn d).isEmpty then d.configuration.encapsulation else usedOn d) = usedOn d
  rw [isEmpty_usedOn, if_neg (by simp)]

/-- The device goes on using the encapsulation that a neighbor was added with. -/
theorem usedOn_added (d : Device) : usedOn (n.added d) = usedOn d := by
  have hempty := isEmpty_usedOn d
  have hfailing : (n.added d).failing = d.failing := rfl
  by_cases hfail : d.failing.contains getEncapsulation.name = true
  · rw [usedOn_failing (by rw [hfailing, hfail]), usedOn_failing hfail]
  · rw [Bool.not_eq_true] at hfail
    rw [usedOn_accepting (by rw [hfailing, hfail]), encapsulation_added]
    simp [encapsulationOf, hempty]

theorem mem_added {x : String} : x ∈ (n.added d).configuration.l2EvpnNeighbors ↔
    n.peerLoopbackIp = x ∨ n.peerIp = x ∨ x ∈ d.configuration.l2EvpnNeighbors := by
  show x ∈ (d.configuration.l2EvpnNeighbors.insert n.peerIp).insert n.peerLoopbackIp ↔ _
  simp only [ExtTreeSet.mem_insert, Std.LawfulEqOrd.compare_eq_iff_eq]

theorem settled_added (hlogin : d.refusesLogin = false)
    (haccepted : d.failing.contains (n.addOperation "").name = false) : n.Settled (n.added d) :=
  ⟨hlogin, haccepted, n.mem_added.2 (by simp), n.mem_added.2 (by simp), by rw [usedOn_added, encapsulation_added]⟩

theorem brings_add : Brings adapter (fun _ => True) n.add n.Settled := by
  intro d _ hclean
  obtain ⟨hlogin, haccepted⟩ := n.accepted_of_add hclean
  rw [n.add_of_accepted hlogin haccepted]
  exact n.settled_added hlogin haccepted

/-- Further neighbors are added with the same encapsulation. -/
theorem keeps_add (m : DataPlaneNode) : Brings adapter n.Settled m.add n.Settled := by
  intro d hd hclean
  obtain ⟨hlogin, haccepted⟩ := m.accepted_of_add hclean
  rw [m.add_of_accepted hlogin haccepted]
  refine ⟨hlogin, hd.accepted, m.mem_added.2 (by simp [hd.peerIp]),
    m.mem_added.2 (by simp [hd.peerLoopbackIp]), ?_⟩
  rw [usedOn_added, encapsulation_added]

/-- Adding a partner once more changes nothing. -/
theorem idle_add (h : n.Settled d) : Idle adapter quiet n.add d := by
  have hsame : (n.added d).configuration = d.configuration := by
    have hneighbors : (n.added d).configuration.l2EvpnNeighbors = d.configuration.l2EvpnNeighbors := by
      apply ExtTreeSet.ext_mem
      intro x
      rw [mem_added]
      constructor
      · rintro (rfl | rfl | hx)
        · exact h.peerLoopbackIp
        · exact h.peerIp
        · exact hx
      · exact fun hx => .inr (.inr hx)
    have hencapsulation : (n.added d).configuration.encapsulation = d.configuration.encapsulation := by
      rw [encapsulation_added, h.encapsulation]
    refine Part.eq_of_same fun p => ?_
    cases p <;> first | exact ⟨hneighbors, hencapsulation⟩ | simp [Part.Same, added, addL2EvpnNeighbor]
  unfold Idle
  rw [n.add_of_accepted h.login h.accepted]
  refine ⟨rfl, ?_⟩
  show { d.quiet with configuration := (n.added d).configuration } = d.quiet
  rw [hsame]
  rfl

theorem concerns_settled : Concerns (· = .dataPlane) n.Settled := by
  intro allowed d d' hfollows hparts h
  obtain ⟨hneighbors, hencapsulation⟩ := hfollows.parts .dataPlane hparts
  refine ⟨hfollows.refusesLogin.trans h.login, by rw [hfollows.failing]; exact h.accepted,
    by rw [hneighbors]; exact h.peerIp, by rw [hneighbors]; exact h.peerLoopbackIp, ?_⟩
  have hused : usedOn d' = usedOn d := by
    unfold usedOn
    rw [hfollows.failing, hencapsulation]
  rw [hencapsulation, hused, h.encapsulation]

end DataPlaneNode

end FabricProvision

import FabricProvision.Proofs.Device.Apart
import FabricProvision.Proofs.Device.Reachable
import FabricProvision.Proofs.Device.Removal
import FabricProvision.Proofs.Provision.Formed

/-!
# What clearing leaves

Clearing a node attempts to delete what the node says to belong to its cluster object, and then what the cluster
desires (`ClusterSpec.Deletes`).  It touches nothing else, whatever is refused (`ClusterSpec.Spares`), and on a node
that refuses nothing all of it is gone (`ClusterSpec.Swept`).  What is left is reported of less, so clearing the node
once more attempts nothing that was not attempted before, and changes nothing (`ClusterSpec.clear_sweeps`).
-/

namespace FabricProvision

open Std (ExtTreeMap ExtTreeSet)
open Dialogue Device Operation Step

/-! ### Questions -/

namespace Device

/-- The cluster object that a device tells of. -/
def reportedCluster (d : Device) : Option ClusterObject :=
  if d.failing.contains getCluster.name then none else d.configuration.cluster

/-- The VE that a device tells to be bound to a control VLAN. -/
def reportedVe (d : Device) (vlan : UInt16) : Option UInt16 :=
  if d.failing.contains (getControlVlan vlan).name then none else d.configuration.controlVlans[vlan]?.join

variable {α : Type} {d : Device} {op : Operation} {read : Response → String → Except DeviceError (Option α)}

private theorem run_question (host : String) {r : Response} {told : Option α} (hop : op ≠ .getClusterStatus)
    (happly : op.apply.run.run d.configuration = (.ok r, d.configuration)) (hread : read r op.name = .ok told) :
    ∃ answer, (query host op read).run adapter d = (answer, d.record op) ∧
      answer.toOption.join = if d.failing.contains op.name then none else told := by
  rw [run_query, execute_receive]
  rcases d.receive_cases {} op with ⟨hfail, hr⟩ | ⟨-, hstatus, -⟩ | ⟨hfail, -, hr⟩
  · rw [hr, if_pos hfail]
    exact ⟨_, rfl, rfl⟩
  · exact absurd hstatus hop
  · rw [hr, happly, hfail]
    refine ⟨.ok told, ?_, rfl⟩
    show (read r op.name, _) = _
    rw [hread]
    rfl

end Device

namespace ClusterSpec

variable (c : ClusterSpec) (x : ClusterNode)

/-! ### Deletions -/

/-- What is to be deleted with a cluster object, if the control VLANs are told to have certain VEs. -/
inductive DeletesWith (bound : UInt16 → Option UInt16) (live : ClusterObject) : Operation → Prop
  | cluster (hname : live.name.isEmpty = false) : DeletesWith bound live (.deleteCluster live.name live.id)
  | controlVe {vlan ve : UInt16} (hvlan : live.controlVlan = some vlan) (hve : bound vlan = some ve) :
      DeletesWith bound live (.deleteControlVe vlan ve)
  | ve {vlan ve : UInt16} (hvlan : live.controlVlan = some vlan) (hve : bound vlan = some ve) :
      DeletesWith bound live (.deleteVe ve)
  | controlVlan {vlan : UInt16} (hvlan : live.controlVlan = some vlan) :
      DeletesWith bound live (.deleteControlVlan vlan)
  | portChannel (hkind : peerIsVe live = false) (hname : live.peerName.isEmpty = false) :
      DeletesWith bound live (.deletePortChannel live.peerName)

/-- What clearing a node attempts to delete. -/
def Deletes (d : Device) (op : Operation) : Prop :=
  (∃ live, d.reportedCluster = some live ∧ DeletesWith d.reportedVe live op) ∨ op ∈ c.desiredDeletions x

variable {c x} {d e : Device} {op : Operation}

private theorem DeletesWith.clears {bound : UInt16 → Option UInt16} {live : ClusterObject}
    (h : DeletesWith bound live op) : op.clears = true := by
  cases h <;> rfl

private theorem Deletes.clears (h : c.Deletes x d op) : op.clears = true := by
  rcases h with ⟨live, -, h⟩ | h
  · exact h.clears
  · exact c.clears_desiredDeletions op h

private theorem liveVlanDeletions_eq (x : ClusterNode) (live : ClusterObject) (d : Device) :
    ((liveVlanDeletions x live).run adapter d).2.quiet = d.quiet ∧
      ((liveVlanDeletions x live).run adapter d).1 =
        match live.controlVlan with
        | none => []
        | some vlan =>
          match d.reportedVe vlan with
          | some ve => [.deleteControlVe vlan ve, .deleteVe ve, .deleteControlVlan vlan]
          | none => [.deleteControlVlan vlan] := by
  unfold liveVlanDeletions
  rcases live.controlVlan with _ | vlan
  · exact ⟨rfl, rfl⟩
  · obtain ⟨answer, hrun, htold⟩ : ∃ answer, (query x.host (.getControlVlan vlan) Response.toControlVe).run adapter d =
        (answer, d.record (.getControlVlan vlan)) ∧ answer.toOption.join = d.reportedVe vlan :=
      run_question x.host (by simp) rfl rfl
    dsimp only
    rw [Dialogue.run_bind, hrun, ← htold]
    rcases answer with f | _ | ve <;> exact ⟨rfl, rfl⟩

private theorem mem_liveDeletions (x : ClusterNode) (live : ClusterObject) (d : Device) :
    ((liveDeletions x live).run adapter d).2.quiet = d.quiet ∧
      ∀ op, op ∈ ((liveDeletions x live).run adapter d).1 ↔ DeletesWith d.reportedVe live op := by
  obtain ⟨hquiet, hofVlan⟩ := liveVlanDeletions_eq x live d
  unfold liveDeletions
  rw [Dialogue.run_bind, Dialogue.run_pure]
  refine ⟨hquiet, fun op => ?_⟩
  rw [hofVlan]
  constructor
  · intro hop
    rcases List.mem_append.1 hop with hop | hop
    · rcases List.mem_append.1 hop with hop | hop
      · split at hop
        · cases hop
        · rename_i hname
          cases List.mem_singleton.1 hop
          exact .cluster (by simpa using hname)
      · split at hop
        · cases hop
        · rename_i vlan hvlan
          split at hop
          · rename_i ve hve
            simp only [List.mem_cons, List.not_mem_nil, or_false] at hop
            rcases hop with rfl | rfl | rfl
            · exact .controlVe hvlan hve
            · exact .ve hvlan hve
            · exact .controlVlan hvlan
          · cases List.mem_singleton.1 hop
            exact .controlVlan hvlan
    · split at hop
      · cases hop
      · rename_i hpeer
        rw [Bool.or_eq_true, not_or, Bool.not_eq_true, Bool.not_eq_true] at hpeer
        cases List.mem_singleton.1 hop
        exact .portChannel hpeer.1 hpeer.2
  · intro h
    cases h with
    | cluster hname => simp [hname]
    | controlVe hvlan hve => simp [hvlan, hve]
    | ve hvlan hve => simp [hvlan, hve]
    | @controlVlan vlan hvlan => rcases hve : d.reportedVe vlan with _ | ve <;> simp [hvlan, hve]
    | portChannel hkind hname => simp [hkind, hname]

private theorem attempts_clear (c : ClusterSpec) (x : ClusterNode) (d : Device) :
    ∃ ops : List Operation, (∀ op, op ∈ ops ↔ c.Deletes x d op) ∧
      ((c.clear x).run adapter d).2.quiet =
        { d.quiet with
          configuration := attemptAll (ops.filter fun op => !d.failing.contains op.name) d.configuration } := by
  obtain ⟨answer, hrun, htold⟩ : ∃ answer, (query x.host .getCluster Response.toCluster).run adapter d =
      (answer, d.record .getCluster) ∧ answer.toOption.join = d.reportedCluster :=
    run_question x.host (by simp) rfl rfl
  -- From here on the deletions are known, and each of them is only tried.
  have hrest : ∀ (ops : List Operation) (e : Device), (∀ op, op ∈ ops ↔ c.Deletes x d op) → e.quiet = d.quiet →
      ((ops.forM (attempt x.host)).run adapter e).2.quiet =
        { d.quiet with
          configuration := attemptAll (ops.filter fun op => !d.failing.contains op.name) d.configuration } := by
    intro ops e hops hquiet
    obtain ⟨-, hfailing, hcfg⟩ := parts_of_quiet hquiet
    rw [quiet_attempts (fun op hop => ((hops op).1 hop).clears) x.host e, hquiet, hfailing, hcfg]
  unfold clear
  rw [Dialogue.run_bind, hrun]
  dsimp only
  rw [htold]
  rcases hlive : d.reportedCluster with _ | live
  · have hops : ∀ op, op ∈ c.desiredDeletions x ↔ c.Deletes x d op := fun op => by simp [Deletes, hlive]
    exact ⟨_, hops, hrest _ _ hops rfl⟩
  · obtain ⟨hquiet, hmem⟩ := mem_liveDeletions x live (d.record .getCluster)
    have hops : ∀ op, op ∈ ((liveDeletions x live).run adapter (d.record .getCluster)).1 ++ c.desiredDeletions x ↔
        c.Deletes x d op := by
      intro op
      have hmem : op ∈ ((liveDeletions x live).run adapter (d.record .getCluster)).1 ↔
          DeletesWith d.reportedVe live op := hmem op
      simp only [List.mem_append, hmem, Deletes, hlive, Option.some.injEq, exists_eq_left']
    refine ⟨_, hops, ?_⟩
    dsimp only
    rw [Dialogue.run_bind]
    exact hrest _ _ hops hquiet

/-- Clearing a node attempts the deletions, of which those count that are not refused. -/
private theorem attempts_clearOn (c : ClusterSpec) (x : ClusterNode) (d : Device) :
    ∃ ops : List Operation,
      (∀ op, op ∈ ops ↔ d.refusesLogin = false ∧ c.Deletes x d op ∧ d.failing.contains op.name = false) ∧
      ((c.clearOn x).run adapter d).2.quiet = { d.quiet with configuration := attemptAll ops d.configuration } := by
  rw [clearOn, Dialogue.run_bind, run_connect]
  cases hlogin : d.refusesLogin with
  | true =>
    refine ⟨[], by simp, ?_⟩
    simp only [adapter, hlogin, if_true]
    rfl
  | false =>
    obtain ⟨ops, hops, hquiet⟩ := attempts_clear c x d
    refine ⟨ops.filter fun op => !d.failing.contains op.name, fun op => ?_, ?_⟩
    · rw [List.mem_filter, hops]
      simp
    · simp only [adapter, hlogin, Bool.false_eq_true, if_false]
      exact hquiet

private theorem removes_clearOn (c : ClusterSpec) (x : ClusterNode) (d : Device) :
    Removes (c.Deletes x d) d.configuration ((c.clearOn x).run adapter d).2.configuration := by
  obtain ⟨ops, hops, hquiet⟩ := attempts_clearOn c x d
  rw [(quiet_parts hquiet).2.2]
  exact removes_attemptAll (fun op hop => ((hops op).1 hop).2.1.clears) (fun op hop => ((hops op).1 hop).2.1) _

/-- A device from which something was removed tells of nothing that it did not tell of before, -/
private theorem Deletes.before {allowed : Operation → Prop} (hfailing : e.failing = d.failing)
    (hremoves : Removes allowed d.configuration e.configuration) (h : c.Deletes x e op) : c.Deletes x d op := by
  have hreported : ∀ live, e.reportedCluster = some live → d.reportedCluster = some live := by
    intro live htold
    unfold reportedCluster at htold ⊢
    rw [hfailing] at htold
    split at htold
    · cases htold
    · rename_i hasked
      rw [if_neg hasked]
      rcases hremoves.cluster with ⟨hsame, -⟩ | ⟨hgone, -⟩
      · exact hsame.symm.trans htold
      · cases hgone.symm.trans htold
  have hbound : ∀ vlan ve, e.reportedVe vlan = some ve → d.reportedVe vlan = some ve := by
    intro vlan ve htold
    unfold reportedVe at htold ⊢
    rw [hfailing] at htold
    split at htold
    · cases htold
    · rename_i hasked
      rw [if_neg hasked]
      rcases hremoves.controlVlans vlan with hsame | ⟨-, -, hunbound⟩ | ⟨-, hgone⟩
      · rwa [hsame] at htold
      · rw [hunbound] at htold
        cases htold
      · rw [hgone] at htold
        cases htold
  rcases h with ⟨live, hlive, h⟩ | h
  · refine .inl ⟨live, hreported live hlive, ?_⟩
    cases h with
    | cluster hname => exact .cluster hname
    | controlVe hvlan hve => exact .controlVe hvlan (hbound _ _ hve)
    | ve hvlan hve => exact .ve hvlan (hbound _ _ hve)
    | controlVlan hvlan => exact .controlVlan hvlan
    | portChannel hkind hname => exact .portChannel hkind hname
  · exact .inr h

/-- so to clear it once more changes nothing. -/
private theorem clearOn_again (he : e.quiet = ((c.clearOn x).run adapter d).2.quiet) :
    ((c.clearOn x).run adapter e).2.quiet = e.quiet := by
  obtain ⟨ops, hops, hquiet⟩ := attempts_clearOn c x d
  obtain ⟨later, hlater, hquiet'⟩ := attempts_clearOn c x e
  rw [hquiet] at he
  obtain ⟨hlogin, hfailing, hcfg⟩ := quiet_parts he
  have hclears : ∀ op ∈ ops, op.clears = true := fun op hop => ((hops op).1 hop).2.1.clears
  have hremoves : Removes (fun _ => True) d.configuration e.configuration :=
    hcfg ▸ removes_attemptAll hclears (fun _ _ => trivial) d.configuration
  have hsub : ∀ op ∈ later, op ∈ ops := by
    intro op hop
    obtain ⟨haccepts, hdeletes, hunrefused⟩ := (hlater op).1 hop
    exact (hops op).2 ⟨hlogin ▸ haccepts, hdeletes.before hfailing hremoves, hfailing ▸ hunrefused⟩
  rw [hquiet', attemptAll_of_spent fun op hop => hclears op (hsub op hop)]
  · rfl
  · intro op hop
    rw [hcfg]
    exact spent_attemptAll hclears d.configuration op (hsub op hop)

/-! ### What belongs to a cluster -/

section belongings

variable (c x) (start cfg : Configuration)

/-- The control VLAN that the cluster desires, or that of the cluster object. -/
def OwnsVlan (vlan : UInt16) : Prop :=
  vlan = c.controlVlan ∨ ∃ live, start.cluster = some live ∧ live.controlVlan = some vlan

/-- The control VE that the cluster desires, or the one that is bound to the control VLAN of the cluster object. -/
def OwnsVe (ve : UInt16) : Prop :=
  ve = c.controlVe ∨ ∃ live vlan, start.cluster = some live ∧ live.controlVlan = some vlan ∧
    start.controlVlans[vlan]? = some (some ve)

/-- The peer port-channel that a node desires, or that of the cluster object, if its peer interface is no VE and has a
name. -/
def OwnsPortChannel (x : ClusterNode) (start : Configuration) (name : String) : Prop :=
  name = x.peerInterface.name ∨ ∃ live, start.cluster = some live ∧ peerIsVe live = false ∧ live.peerName ≠ "" ∧
    live.peerName = name

/-- Nothing has changed but what belongs to the cluster or to the cluster object. -/
structure Spares : Prop where
  others : cfg = { start with
    cluster := cfg.cluster
    deployed := cfg.deployed
    controlVlans := cfg.controlVlans
    ves := cfg.ves
    portChannels := cfg.portChannels }
  cluster : cfg.cluster = start.cluster ∧ cfg.deployed = start.deployed ∨ cfg.cluster = none ∧ cfg.deployed = false
  controlVlans : ∀ vlan, ¬ c.OwnsVlan start vlan → cfg.controlVlans[vlan]? = start.controlVlans[vlan]?
  ves : ∀ ve, ¬ c.OwnsVe start ve → cfg.ves[ve]? = start.ves[ve]?
  portChannels : ∀ name, ¬ OwnsPortChannel x start name → cfg.portChannels[name]? = start.portChannels[name]?

/-- Nothing that belongs to the cluster or to the cluster object is left. -/
structure Swept : Prop where
  cluster : cfg.cluster = none
  controlVlans : ∀ vlan, c.OwnsVlan start vlan → cfg.controlVlans[vlan]? = none
  ves : ∀ ve, c.OwnsVe start ve → cfg.ves[ve]? = none
  portChannels : ∀ name, OwnsPortChannel x start name → cfg.portChannels[name]? = none

end belongings

/-- What a device tells of is there. -/
private theorem told (d : Device) :
    (∀ live, d.reportedCluster = some live → d.configuration.cluster = some live) ∧
      ∀ vlan ve, d.reportedVe vlan = some ve → d.configuration.controlVlans[vlan]? = some (some ve) := by
  refine ⟨fun live h => ?_, fun vlan ve h => ?_⟩
  · unfold reportedCluster at h
    split at h
    · cases h
    · exact h
  · unfold reportedVe at h
    split at h
    · cases h
    · exact Option.join_eq_some_iff.1 h

private theorem ownsVlan_of_deletes {vlan : UInt16} (ve : UInt16)
    (h : c.Deletes x d (.deleteControlVlan vlan) ∨ c.Deletes x d (.deleteControlVe vlan ve)) :
    c.OwnsVlan d.configuration vlan := by
  rcases h with (⟨live, hlive, h⟩ | h) | ⟨live, hlive, h⟩ | h
  · cases h with
    | controlVlan hvlan => exact .inr ⟨live, (told d).1 live hlive, hvlan⟩
  · exact .inl (by simpa [desiredDeletions] using h)
  · cases h with
    | controlVe hvlan hve => exact .inr ⟨live, (told d).1 live hlive, hvlan⟩
  · exact .inl (by simpa [desiredDeletions] using h : vlan = c.controlVlan ∧ ve = c.controlVe).1

private theorem ownsVe_of_deletes {ve : UInt16} (h : c.Deletes x d (.deleteVe ve)) : c.OwnsVe d.configuration ve := by
  rcases h with ⟨live, hlive, h⟩ | h
  · cases h with
    | ve hvlan hve => exact .inr ⟨live, _, (told d).1 live hlive, hvlan, (told d).2 _ _ hve⟩
  · exact .inl (by simpa [desiredDeletions] using h)

private theorem ownsPortChannel_of_deletes {name : String} (h : c.Deletes x d (.deletePortChannel name)) :
    OwnsPortChannel x d.configuration name := by
  rcases h with ⟨live, hlive, h⟩ | h
  · cases h with
    | portChannel hkind hname => exact .inr ⟨live, (told d).1 live hlive, hkind, by simpa using hname, rfl⟩
  · exact .inl (by simpa [desiredDeletions] using h)

/-- Whatever is refused, clearing a node only touches what belongs to the cluster or to the cluster object. -/
private theorem spares_clearOn (c : ClusterSpec) (x : ClusterNode) (d : Device) :
    c.Spares x d.configuration ((c.clearOn x).run adapter d).2.configuration := by
  have hremoves := removes_clearOn c x d
  refine ⟨hremoves.others, hremoves.cluster, fun vlan hnot => ?_, fun ve hnot => ?_, fun name hnot => ?_⟩
  · rcases hremoves.controlVlans vlan with hsame | ⟨⟨ve, hdeletes⟩, -⟩ | ⟨hdeletes, -⟩
    · exact hsame
    · exact absurd (ownsVlan_of_deletes ve (.inr hdeletes)) hnot
    · exact absurd (ownsVlan_of_deletes 0 (.inl hdeletes)) hnot
  · exact (hremoves.ves ve).resolve_right fun h => hnot (ownsVe_of_deletes h.1)
  · exact (hremoves.portChannels name).resolve_right fun h => hnot (ownsPortChannel_of_deletes h.1)

/-! ### Nodes that refuse nothing -/

/-- A device that refuses nothing, and whose cluster object has a name if it has one. -/
def Clearable (d : Device) : Prop :=
  d.refusesLogin = false ∧ d.failing.isEmpty = true ∧ ∀ object ∈ d.configuration.cluster, object.name ≠ ""

instance (d : Device) : Decidable (Clearable d) := inferInstanceAs (Decidable (_ ∧ _ ∧ _))

/-- A device that refuses nothing tells of everything. -/
private theorem reported_of_faultless (hfailing : d.failing = ∅) :
    d.reportedCluster = d.configuration.cluster ∧
      ∀ vlan, d.reportedVe vlan = d.configuration.controlVlans[vlan]?.join := by
  simp [reportedCluster, reportedVe, hfailing]

/-- On a node that refuses nothing, all that belongs to the cluster or to the cluster object is gone. -/
theorem swept_clearOn (c : ClusterSpec) (x : ClusterNode) (h : Clearable d) :
    c.Swept x d.configuration ((c.clearOn x).run adapter d).2.configuration := by
  obtain ⟨hlogin, hempty, hnamed⟩ := h
  have hfailing : d.failing = ∅ := ExtTreeSet.isEmpty_iff.1 hempty
  obtain ⟨hreported, hbound⟩ := reported_of_faultless hfailing
  have hspent : ∀ op, c.Deletes x d op → op.Spent ((c.clearOn x).run adapter d).2.configuration := by
    obtain ⟨ops, hops, hquiet⟩ := attempts_clearOn c x d
    intro op hop
    rw [(quiet_parts hquiet).2.2]
    exact spent_attemptAll (fun op hop => ((hops op).1 hop).2.1.clears) _ op
      ((hops op).2 ⟨hlogin, hop, by simp [hfailing]⟩)
  have hlive : ∀ {live op}, d.configuration.cluster = some live → DeletesWith d.reportedVe live op → c.Deletes x d op :=
    fun hcluster h => .inl ⟨_, hreported.trans hcluster, h⟩
  have hdesired : ∀ {op}, op ∈ c.desiredDeletions x → c.Deletes x d op := .inr
  refine ⟨?_, ?_, ?_, ?_⟩
  · rcases (removes_clearOn c x d).cluster with ⟨hsame, -⟩ | ⟨hgone, -⟩
    · rcases hcluster : d.configuration.cluster with _ | live
      · rw [hsame, hcluster]
      · -- The object is not left under its own name, so it is not left.
        have hgone : Configuration.clusterNamed? _ live.name live.id = none :=
          hspent _ (hlive hcluster (.cluster (by simpa using hnamed live hcluster)))
        rw [Configuration.clusterNamed?, hsame, hcluster] at hgone
        simp [Option.filter, ClusterObject.isNamed] at hgone
    · exact hgone
  · rintro vlan (rfl | ⟨live, hcluster, hvlan⟩)
    · exact hspent (.deleteControlVlan c.controlVlan) (hdesired (by simp [desiredDeletions]))
    · exact hspent (.deleteControlVlan vlan) (hlive hcluster (.controlVlan hvlan))
  · rintro ve (rfl | ⟨live, vlan, hcluster, hvlan, hve⟩)
    · exact hspent (.deleteVe c.controlVe) (hdesired (by simp [desiredDeletions]))
    · exact hspent (.deleteVe ve) (hlive hcluster (.ve hvlan (by rw [hbound, hve]; rfl)))
  · rintro name (rfl | ⟨live, hcluster, hkind, hname, rfl⟩)
    · exact hspent (.deletePortChannel x.peerInterface.name) (hdesired (by simp [desiredDeletions]))
    · exact hspent (.deletePortChannel live.peerName) (hlive hcluster (.portChannel hkind (by simpa using hname)))

/-! ### Whole clusters -/

private def silent (work : Dialogue Unit) : Dialogue (List Failure) := do
  work
  return []

private theorem run_forM_silent {α σ : Type} (A : Adapter σ) (targets : List α) (work : α → Dialogue Unit) (s : σ) :
    ((targets.forM work).run A s).2 = ((fanOut targets fun a => silent (work a)).run A s).2 := by
  induction targets generalizing s with
  | nil => rfl
  | cons a rest ih =>
    have hfanOut : (fanOut (a :: rest) fun a => silent (work a)) =
      collect (silent (work a) :: rest.map fun a => silent (work a)) := rfl
    rw [run_forM_cons, ih, hfanOut, run_collect_cons, silent, Dialogue.run_bind]
    rfl

private theorem clears_alone (host : String) : Clears (Scope.alone host) host := by
  refine ⟨rfl, ⟨rfl, by simp⟩, fun vlan => ⟨rfl, by simp⟩, fun op hop => ⟨rfl, ?_⟩⟩
  rintro rfl
  cases hop

/-- Clearing nodes with different addresses is clearing the devices. -/
theorem device?_clearAll (hdistinct : c.hosts.Nodup) (n : Network) :
    let n' := (c.clearAll.run Network.adapter n).2
    (∀ x ∈ c.nodes, n'.device? x.host = (n.device? x.host).map fun d => ((c.clearOn x).run adapter d).2) ∧
      ∀ host, host ∉ c.hosts → n'.device? host = n.device? host := by
  intro n'
  have hn' : n' = ((fanOut c.nodes fun x => silent (c.clearOn x)).run Network.adapter n).2 :=
    run_forM_silent Network.adapter c.nodes c.clearOn n
  have hstays : ∀ x ∈ c.nodes, ∃ scope : Scope, (silent (c.clearOn x)).Stays scope ∧ scope.Local x.host := fun x _ =>
    ⟨Scope.alone x.host, (c.stays_clearOn (clears_alone x.host)).bind fun _ _ => within_pure trivial,
      Scope.alone_local x.host⟩
  obtain ⟨-, hnodes, hothers⟩ := Network.run_fanOut_distinct (List.pairwise_map.1 hdistinct) hstays n
  rw [hn']
  refine ⟨fun x hx => (hnodes x hx).trans (Option.map_congr fun d _ => ?_), fun host hhost => ?_⟩
  · rw [silent, Dialogue.run_bind]
    rfl
  · exact hothers host fun x hx heq => hhost (heq ▸ List.mem_map_of_mem hx)

/-- Clearing a cluster whose nodes have different addresses leaves nothing behind and disturbs nothing else.  Whatever
is refused, only what belongs to the cluster or to the cluster objects of the nodes is touched, and other devices are
not.  On a node that refuses nothing, and whose cluster object has a name if it has one, all of it is gone, and in a
reachable network the node is not deployed.  Clearing once more changes nothing but journals. -/
theorem clear_sweeps (c : ClusterSpec) (hdistinct : c.hosts.Nodup) (n : Network) :
    let clear := fun n => (c.clearAll.run Network.adapter n).2
    (∀ host, host ∉ c.hosts → (clear n).device? host = n.device? host) ∧
      (∀ x ∈ c.nodes, Option.Rel (Device.Reconfigured (c.Spares x)) (n.device? x.host) ((clear n).device? x.host)) ∧
      (∀ x ∈ c.nodes, ∀ d, n.device? x.host = some d → Clearable d →
        ∃ d', (clear n).device? x.host = some d' ∧ c.Swept x d.configuration d'.configuration ∧
          (n.Reachable → d'.configuration.deployed = false)) ∧
      (clear (clear n)).quiet = (clear n).quiet := by
  intro clear
  have hnodes : ∀ n : Network, ∀ x ∈ c.nodes, (clear n).device? x.host =
      (n.device? x.host).map fun d => ((c.clearOn x).run adapter d).2 := fun n => (device?_clearAll hdistinct n).1
  have hothers : ∀ n : Network, ∀ host, host ∉ c.hosts → (clear n).device? host = n.device? host :=
    fun n => (device?_clearAll hdistinct n).2
  refine ⟨hothers n, fun x hx => ?_, fun x hx d hd hclearable => ?_, Network.ext_device? fun host => ?_⟩
  · rw [hnodes n x hx]
    rcases n.device? x.host with _ | d
    · exact .none
    · exact .some (reconfigured_of_quiet rfl (spares_clearOn c x d))
  · refine ⟨_, by rw [hnodes n x hx, hd]; rfl, swept_clearOn c x hclearable, fun hreachable => ?_⟩
    rcases (spares_clearOn c x d).cluster with ⟨hsame, hdeployed⟩ | ⟨-, hdeployed⟩
    · rw [hdeployed]
      exact hreachable.deployed hd (hsame.symm.trans (swept_clearOn c x hclearable).cluster)
    · exact hdeployed
  · by_cases hhost : host ∈ c.hosts
    · obtain ⟨x, hx, rfl⟩ := List.mem_map.1 hhost
      rw [Network.device?_quiet, Network.device?_quiet, hnodes (clear n) x hx, hnodes n x hx, Option.map_map,
        Option.map_map, Option.map_map]
      exact Option.map_congr fun d _ => clearOn_again rfl
    · rw [Network.device?_quiet, Network.device?_quiet, hothers (clear n) host hhost]

/-- Another cluster of the first leaf alone. -/
def outdated (peer : String) : ClusterSpec where
  name := "old"
  id := 7
  controlVlan := 4000
  controlVe := 4001
  nodes := [{ pairNode "leaf-1" "10.2.0.0/31" "10.2.0.1" "10.0.0.2" with
    peerInterface := ⟨.portChannel, peer, "10000"⟩ }]

/-- Two leaves, the first of which is in the other cluster. -/
def outdatedNetwork (peer : String) : Network :=
  (((outdated peer).reconcile {} .create false).run Network.adapter (Network.ofHosts ["leaf-1", "leaf-2"])).2

/-- Clearing the pair takes the first leaf out of the other cluster. -/
theorem outdated_swept :
    pair.hosts.Nodup ∧
      (outdatedNetwork "8").At "leaf-1" (fun d => Clearable d ∧
        d.configuration.cluster = some ⟨"old", 7, some 4000, "Port-channel", "8", "10.2.0.1"⟩) ∧
      (pair.clearAll.run Network.adapter (outdatedNetwork "8")).2.At "leaf-1" fun d => d.configuration.deployed = false ∧
        d.configuration.cluster = none ∧ d.configuration.portChannels["8"]? = none := by
  have hdistinct : pair.hosts.Nodup := by decide
  have hreachable : (outdatedNetwork "8").Reachable := (Network.Reachable.ofHosts _).run _
  have hat : (outdatedNetwork "8").At "leaf-1" (fun d => Clearable d ∧
      d.configuration.cluster = some ⟨"old", 7, some 4000, "Port-channel", "8", "10.2.0.1"⟩) := by decide +kernel
  refine ⟨hdistinct, hat, ?_⟩
  obtain ⟨d, hd, hclearable, hcluster⟩ := hat
  obtain ⟨-, -, hswept, -⟩ := clear_sweeps pair hdistinct (outdatedNetwork "8")
  obtain ⟨d', hd', h, hdeployed⟩ := hswept _ (List.mem_cons_self ..) d hd hclearable
  exact ⟨d', hd', hdeployed hreachable, h.cluster,
    h.portChannels "8" (.inr ⟨_, hcluster, by decide +kernel, by decide, rfl⟩)⟩

/-- A peer port-channel without a name is left, although the leaf refuses nothing and its peer interface is no VE. -/
theorem unnamed_portChannel_left :
    (outdatedNetwork "").At "leaf-1" (fun d => Clearable d ∧
        d.configuration.cluster = some ⟨"old", 7, some 4000, "Port-channel", "", "10.2.0.1"⟩) ∧
      peerIsVe ⟨"old", 7, some 4000, "Port-channel", "", "10.2.0.1"⟩ = false ∧
      (pair.clearAll.run Network.adapter (outdatedNetwork "")).2.At "leaf-1" fun d =>
        d.configuration.portChannels.contains "" = true :=
  ⟨by decide +kernel, by decide +kernel, by decide +kernel⟩

end ClusterSpec

end FabricProvision

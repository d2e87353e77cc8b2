import FabricProvision.Proofs.Device.Faults
import FabricProvision.Proofs.Provision.Alphabets

/-!
# Taking objects away

Operations that take something away are refused without an effect where there is nothing to take
(`Operation.Spent`), and whether carried out or refused they find nothing any more.  Nothing that is gone comes back
while nothing else is attempted (`Operation.Removes`).  So it does not matter in which order several of them are
attempted, and to attempt them once more changes nothing (`Operation.attemptAll_of_spent`).
-/

namespace FabricProvision

open Std (ExtTreeMap ExtTreeSet)
open Dialogue Step

namespace Operation

variable {cfg cfg' cfg'' : Configuration} {op : Operation} {ops : List Operation} {allowed : Operation → Prop}

/-! ### Single deletions -/

section deletions

variable {name : String} {id : UInt32} {vlan ve : UInt16}

theorem apply_deleteCluster {object : ClusterObject} (h : cfg.clusterNamed? name id = some object) :
    (deleteCluster name id).apply.run.run cfg = (.ok .ok, { cfg with cluster := none, deployed := false }) := by
  simp only [apply, run_acknowledge, removeCluster, expectCluster, Step.run_bind, run_get, h]
  rfl

theorem apply_deleteCluster_of_absent (h : cfg.clusterNamed? name id = none) :
    (deleteCluster name id).apply.run.run cfg = (.error (.notConfigured (clusterText name id)), cfg) := by
  simp only [apply, run_acknowledge, removeCluster, expectCluster, Step.run_bind, run_get, h]
  rfl

theorem apply_deleteControlVe (h : cfg.controlVlans[vlan]? = some (some ve)) :
    (deleteControlVe vlan ve).apply.run.run cfg =
      (.ok .ok, { cfg with controlVlans := cfg.controlVlans.insert vlan none }) := by
  simp only [apply, run_acknowledge, unbindControlVe, Step.run_bind, run_get, run_require, h, BEq.rfl, if_true]
  rfl

theorem apply_deleteControlVe_of_unbound (h : cfg.controlVlans[vlan]? ≠ some (some ve)) :
    (deleteControlVe vlan ve).apply.run.run cfg =
      (.error (.notConfigured s!"VE {ve.toNat} on VLAN {vlan.toNat}"), cfg) := by
  have hnot : (cfg.controlVlans[vlan]? == some (some ve)) = false := beq_eq_false_iff_ne.2 h
  simp only [apply, run_acknowledge, unbindControlVe, Step.run_bind, run_get, run_require, hnot, Bool.false_eq_true,
    if_false]
  rfl

theorem apply_deleteControlVlan (vlan : UInt16) (cfg : Configuration) :
    (deleteControlVlan vlan).apply.run.run cfg =
      (if cfg.controlVlans.contains vlan then .ok .ok else .error (.notConfigured s!"VLAN {vlan.toNat}"),
        { cfg with controlVlans := cfg.controlVlans.erase vlan }) := by
  simp only [apply, run_acknowledge, removeControlVlan, Step.run_bind, run_get, run_modify, run_require]
  cases cfg.controlVlans.contains vlan <;> rfl

theorem apply_deleteVe (ve : UInt16) (cfg : Configuration) :
    (deleteVe ve).apply.run.run cfg =
      (if cfg.ves.contains ve then .ok .ok else .error (.notConfigured s!"VE {ve.toNat}"),
        { cfg with ves := cfg.ves.erase ve }) := by
  simp only [apply, run_acknowledge, removeVe, Step.run_bind, run_get, run_modify, run_require]
  cases cfg.ves.contains ve <;> rfl

theorem apply_deletePortChannel (name : String) (cfg : Configuration) :
    (deletePortChannel name).apply.run.run cfg =
      (if cfg.portChannels.contains name then .ok .ok else .error (.notConfigured s!"port-channel {name}"),
        { cfg with portChannels := cfg.portChannels.erase name }) := by
  simp only [apply, run_acknowledge, removePortChannel, Step.run_bind, run_get, run_modify, run_require]
  cases cfg.portChannels.contains name <;> rfl

theorem apply_deconfigureRoute (destination nextHop : String) (cfg : Configuration) :
    (deconfigureRoute destination nextHop).apply.run.run cfg =
      (if cfg.routes.contains ⟨destination, nextHop⟩ then .ok .ok else .error (.notConfigured s!"route {destination}"),
        { cfg with routes := cfg.routes.erase ⟨destination, nextHop⟩ }) := by
  simp only [apply, run_acknowledge, removeRoute, Step.run_bind, run_get, run_modify, run_require]
  cases cfg.routes.contains ⟨destination, nextHop⟩ <;> rfl

end deletions

/-! ### What deletions leave -/

/-- Some of what the allowed operations are about was taken away.  A control VLAN may have lost its VE instead. -/
structure Removes (allowed : Operation → Prop) (cfg cfg' : Configuration) : Prop where
  others : cfg' = { cfg with
    cluster := cfg'.cluster
    deployed := cfg'.deployed
    controlVlans := cfg'.controlVlans
    ves := cfg'.ves
    portChannels := cfg'.portChannels }
  cluster : cfg'.cluster = cfg.cluster ∧ cfg'.deployed = cfg.deployed ∨ cfg'.cluster = none ∧ cfg'.deployed = false
  controlVlans : ∀ vlan, cfg'.controlVlans[vlan]? = cfg.controlVlans[vlan]? ∨
    (∃ ve, allowed (.deleteControlVe vlan ve)) ∧ vlan ∈ cfg.controlVlans ∧ cfg'.controlVlans[vlan]? = some none ∨
    allowed (.deleteControlVlan vlan) ∧ cfg'.controlVlans[vlan]? = none
  ves : ∀ ve, cfg'.ves[ve]? = cfg.ves[ve]? ∨ allowed (.deleteVe ve) ∧ cfg'.ves[ve]? = none
  portChannels : ∀ name, cfg'.portChannels[name]? = cfg.portChannels[name]? ∨
    allowed (.deletePortChannel name) ∧ cfg'.portChannels[name]? = none

theorem removes_refl (allowed : Operation → Prop) (cfg : Configuration) : Removes allowed cfg cfg where
  others := rfl
  cluster := .inl ⟨rfl, rfl⟩
  controlVlans _ := .inl rfl
  ves _ := .inl rfl
  portChannels _ := .inl rfl

theorem Removes.trans (h : Removes allowed cfg cfg') (h' : Removes allowed cfg' cfg'') :
    Removes allowed cfg cfg'' where
  others := by
    rw [h'.others, h.others]
  cluster := by
    rcases h'.cluster with ⟨hcluster, hdeployed⟩ | hgone
    · rw [hcluster, hdeployed]
      exact h.cluster
    · exact .inr hgone
  controlVlans vlan := by
    rcases h'.controlVlans vlan with hsame | ⟨hallowed, hmem, hunbound⟩ | hgone
    · rw [hsame]
      exact h.controlVlans vlan
    · -- A VLAN that lost its VE in the second place was there before the first.
      refine .inr (.inl ⟨hallowed, ?_, hunbound⟩)
      rcases h.controlVlans vlan with hsame | ⟨-, hmem', -⟩ | ⟨-, hnone⟩
      · rw [ExtTreeMap.mem_iff_isSome_getElem?] at hmem ⊢
        rwa [hsame] at hmem
      · exact hmem'
      · rw [ExtTreeMap.mem_iff_isSome_getElem?, hnone] at hmem
        cases hmem
    · exact .inr (.inr hgone)
  ves ve := by
    rcases h'.ves ve with hsame | hgone
    · rw [hsame]
      exact h.ves ve
    · exact .inr hgone
  portChannels name := by
    rcases h'.portChannels name with hsame | hgone
    · rw [hsame]
      exact h.portChannels name
    · exact .inr hgone

private theorem getElem?_erase_cases {κ β : Type} [Ord κ] [Std.TransOrd κ] [Std.LawfulEqOrd κ] (m : ExtTreeMap κ β)
    (gone k : κ) : (m.erase gone)[k]? = m[k]? ∨ k = gone ∧ (m.erase gone)[k]? = none := by
  rw [ExtTreeMap.getElem?_erase]
  split
  · rename_i heq
    exact .inr ⟨(Std.LawfulEqOrd.compare_eq_iff_eq.1 heq).symm, rfl⟩
  · exact .inl rfl

/-- Carried out or refused, a deletion takes away nothing but what it is about. -/
theorem removes_apply (hop : op.clears = true) (hallowed : allowed op) (cfg : Configuration) :
    Removes allowed cfg (op.apply.run.run cfg).2 := by
  cases op with
  | deleteCluster name id =>
    rcases hobject : cfg.clusterNamed? name id with _ | object
    · rw [apply_deleteCluster_of_absent hobject]
      exact removes_refl allowed cfg
    · rw [apply_deleteCluster hobject]
      exact { removes_refl allowed cfg with others := rfl, cluster := .inr ⟨rfl, rfl⟩ }
  | deleteControlVe vlan ve =>
    by_cases hbound : cfg.controlVlans[vlan]? = some (some ve)
    · rw [apply_deleteControlVe hbound]
      refine { removes_refl allowed cfg with others := rfl, controlVlans := fun other => ?_ }
      by_cases hother : vlan = other
      · subst hother
        have hmem : vlan ∈ cfg.controlVlans := by
          rw [ExtTreeMap.mem_iff_isSome_getElem?, hbound]
          rfl
        exact .inr (.inl ⟨⟨ve, hallowed⟩, hmem, ExtTreeMap.getElem?_insert_self⟩)
      · refine .inl (ExtTreeMap.getElem?_insert.trans (if_neg fun heq => hother ?_))
        exact Std.LawfulEqOrd.compare_eq_iff_eq.1 heq
    · rw [apply_deleteControlVe_of_unbound hbound]
      exact removes_refl allowed cfg
  | deleteControlVlan vlan =>
    rw [apply_deleteControlVlan]
    refine { removes_refl allowed cfg with others := rfl, controlVlans := fun other => ?_ }
    rcases getElem?_erase_cases cfg.controlVlans vlan other with hsame | ⟨rfl, hgone⟩
    · exact .inl hsame
    · exact .inr (.inr ⟨hallowed, hgone⟩)
  | deleteVe ve =>
    rw [apply_deleteVe]
    refine { removes_refl allowed cfg with others := rfl, ves := fun other => ?_ }
    rcases getElem?_erase_cases cfg.ves ve other with hsame | ⟨rfl, hgone⟩
    · exact .inl hsame
    · exact .inr ⟨hallowed, hgone⟩
  | deletePortChannel name =>
    rw [apply_deletePortChannel]
    refine { removes_refl allowed cfg with others := rfl, portChannels := fun other => ?_ }
    rcases getElem?_erase_cases cfg.portChannels name other with hsame | ⟨rfl, hgone⟩
    · exact .inl hsame
    · exact .inr ⟨hallowed, hgone⟩
  | _ => cases hop

/-! ### Deletions of what is gone -/

/-- There is nothing that the deletion could take away. -/
def Spent (cfg : Configuration) : Operation → Prop
  | deleteCluster name id => cfg.clusterNamed? name id = none
  | deleteControlVe vlan ve => cfg.controlVlans[vlan]? ≠ some (some ve)
  | deleteControlVlan vlan => cfg.controlVlans[vlan]? = none
  | deleteVe ve => cfg.ves[ve]? = none
  | deletePortChannel name => cfg.portChannels[name]? = none
  | _ => True

theorem apply_of_spent (hop : op.clears = true) (h : op.Spent cfg) : (op.apply.run.run cfg).2 = cfg := by
  cases op with
  | deleteCluster name id => rw [apply_deleteCluster_of_absent h]
  | deleteControlVe vlan ve => rw [apply_deleteControlVe_of_unbound h]
  | deleteControlVlan vlan => rw [apply_deleteControlVlan, erase_of_getElem? h]
  | deleteVe ve => rw [apply_deleteVe, erase_of_getElem? h]
  | deletePortChannel name => rw [apply_deletePortChannel, erase_of_getElem? h]
  | _ => cases hop

theorem spent_apply (hop : op.clears = true) (cfg : Configuration) : op.Spent (op.apply.run.run cfg).2 := by
  cases op with
  | deleteCluster name id =>
    rcases hobject : cfg.clusterNamed? name id with _ | object
    · rwa [apply_deleteCluster_of_absent hobject]
    · rw [apply_deleteCluster hobject]
      rfl
  | deleteControlVe vlan ve =>
    by_cases hbound : cfg.controlVlans[vlan]? = some (some ve)
    · rw [apply_deleteControlVe hbound]
      simp [Spent]
    · rwa [apply_deleteControlVe_of_unbound hbound]
  | deleteControlVlan vlan =>
    rw [apply_deleteControlVlan]
    exact ExtTreeMap.getElem?_erase_self
  | deleteVe ve =>
    rw [apply_deleteVe]
    exact ExtTreeMap.getElem?_erase_self
  | deletePortChannel name =>
    rw [apply_deletePortChannel]
    exact ExtTreeMap.getElem?_erase_self
  | _ => cases hop

/-- What is gone does not come back. -/
theorem Spent.removes (h : op.Spent cfg) (hremoves : Removes allowed cfg cfg') : op.Spent cfg' := by
  cases op with
  | deleteCluster name id =>
    rcases hremoves.cluster with ⟨hsame, -⟩ | ⟨hgone, -⟩
    · show Option.filter _ cfg'.cluster = none
      rw [hsame]
      exact h
    · show Option.filter _ cfg'.cluster = none
      rw [hgone]
      rfl
  | deleteControlVe vlan ve =>
    rcases hremoves.controlVlans vlan with hsame | ⟨-, -, hunbound⟩ | ⟨-, hgone⟩
    · show cfg'.controlVlans[vlan]? ≠ _
      rw [hsame]
      exact h
    · simp [Spent, hunbound]
    · simp [Spent, hgone]
  | deleteControlVlan vlan =>
    rcases hremoves.controlVlans vlan with hsame | ⟨-, hmem, -⟩ | ⟨-, hgone⟩
    · exact hsame.trans h
    · rw [ExtTreeMap.mem_iff_isSome_getElem?, show cfg.controlVlans[vlan]? = none from h] at hmem
      cases hmem
    · exact hgone
  | deleteVe ve => exact (hremoves.ves ve).elim (·.trans h) (·.2)
  | deletePortChannel name => exact (hremoves.portChannels name).elim (·.trans h) (·.2)
  | _ => trivial

/-! ### Attempts -/

/-- The configuration after operations were attempted on it in order. -/
def attemptAll (ops : List Operation) (cfg : Configuration) : Configuration :=
  ops.foldl (fun cfg op => (op.apply.run.run cfg).2) cfg

section attempts

variable (hops : ∀ op ∈ ops, op.clears = true)

include hops

theorem removes_attemptAll (hallowed : ∀ op ∈ ops, allowed op) (cfg : Configuration) :
    Removes allowed cfg (attemptAll ops cfg) := by
  induction ops generalizing cfg with
  | nil => exact removes_refl allowed cfg
  | cons op rest ih =>
    have hfirst := removes_apply (hops op (by simp)) (hallowed op (by simp)) cfg
    exact hfirst.trans (ih (fun op hop => hops op (by simp [hop])) (fun op hop => hallowed op (by simp [hop])) _)

/-- After they were attempted, all of them are spent. -/
theorem spent_attemptAll (cfg : Configuration) : ∀ op ∈ ops, op.Spent (attemptAll ops cfg) := by
  induction ops generalizing cfg with
  | nil => simp
  | cons first rest ih =>
    have hrest : ∀ op ∈ rest, op.clears = true := fun op hop => hops op (by simp [hop])
    refine List.forall_mem_cons.2 ⟨?_, ih hrest _⟩
    exact (spent_apply (hops first (by simp)) cfg).removes (removes_attemptAll hrest (fun _ _ => trivial) _)

theorem attemptAll_of_spent (h : ∀ op ∈ ops, op.Spent cfg) : attemptAll ops cfg = cfg := by
  induction ops with
  | nil => rfl
  | cons op rest ih =>
    obtain ⟨hop, hrest⟩ := List.forall_mem_cons.1 h
    have hfirst : attemptAll (op :: rest) cfg = attemptAll rest (op.apply.run.run cfg).2 := rfl
    rw [hfirst, apply_of_spent (hops op (by simp)) hop]
    exact ih (fun op hop => hops op (by simp [hop])) hrest

end attempts

end Operation

namespace Device

open Operation

/-- Attempts change the configuration as far as they are not refused. -/
theorem quiet_attempts {ops : List Operation} (hops : ∀ op ∈ ops, op.clears = true) (host : String) (d : Device) :
    ((ops.forM (attempt host)).run adapter d).2.quiet =
      { d.quiet with
        configuration := attemptAll (ops.filter fun op => !d.failing.contains op.name) d.configuration } := by
  induction ops generalizing d with
  | nil => rfl
  | cons op rest ih =>
    have hrest : ∀ op ∈ rest, op.clears = true := fun op hop => hops op (by simp [hop])
    have hop : op ≠ .getClusterStatus := by
      rintro rfl
      cases hops _ (List.mem_cons_self ..)
    rw [run_forM_cons, run_attempt, execute_receive, ih hrest]
    rcases d.receive_cases {} op with ⟨hfail, hr⟩ | ⟨-, hstatus, -⟩ | ⟨hfail, -, hr⟩
    · rw [hr, List.filter_cons_of_neg (by simp [hfail])]
      rfl
    · exact absurd hstatus hop
    · rw [hr, List.filter_cons_of_pos (by simp [hfail])]
      rfl

end Device

end FabricProvision

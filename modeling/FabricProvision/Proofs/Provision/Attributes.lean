import FabricProvision.Proofs.Provision.Updated

/-!
# Attributes that an update names

An update names attributes of a node by bits.  What it does for one of them is a partial function of the
configuration (`ClusterSpec.revise`), which is undefined where the switch refuses it, and a whole update does what it
does for the attributes that it names, one after the other (`ClusterSpec.achieved?_update`).

The attributes are apart: the address of the VE, the partner of the cluster object, the ports and the speed of the
peer port-channel.  So all of them may be revised in any order (`ClusterSpec.revise_comm`), except that adding ports
and taking them out again are about the same ports.
-/

namespace FabricProvision

open Std (ExtTreeMap ExtTreeSet)
open Dialogue Operation Step

/-- What an update can name of a node, in the order in which it is changed. -/
inductive Attribute where
  | remotePeerIp
  | peerIp
  | memberAdd
  | memberDelete
  | speed
deriving DecidableEq

namespace Attribute

/-- The bit that names an attribute. -/
def bit : Attribute → UpdateBits
  | remotePeerIp => .remotePeerIp
  | peerIp => .peerIp
  | memberAdd => .memberAdd
  | memberDelete => .memberDelete
  | speed => .speed

/-- All attributes, in the order in which they are changed. -/
def all : List Attribute := [remotePeerIp, peerIp, memberAdd, memberDelete, speed]

theorem mem_all (a : Attribute) : a ∈ all := by
  cases a <;> decide

end Attribute

namespace UpdateBits

variable {b : UpdateBits} {a : Attribute}

/-- The attributes that bits name. -/
def attributes (b : UpdateBits) : List Attribute := Attribute.all.filter fun a => b.contains a.bit

theorem mem_attributes : a ∈ b.attributes ↔ b.contains a.bit = true := by
  simp [attributes, Attribute.mem_all]

/-- The bit of an attribute names it and no other. -/
theorem attributes_bit (a : Attribute) : a.bit.attributes = [a] := by
  cases a <;> rfl

theorem hasUpdate_bit (a : Attribute) : a.bit.hasUpdate = true := by
  cases a <;> rfl

private theorem and_or (x y z : UInt64) : x &&& (y ||| z) = x &&& y ||| x &&& z :=
  UInt64.toBitVec_inj.1 BitVec.and_or_distrib_left

/-- A single bit is set as a whole or not at all. -/
private theorem and_twoPow (x : UInt64) (i : Nat) :
    x &&& ⟨BitVec.twoPow 64 i⟩ = if x.toBitVec.getLsbD i then ⟨BitVec.twoPow 64 i⟩ else 0 := by
  have h := BitVec.and_twoPow x.toBitVec i
  rw [← UInt64.toBitVec_inj]
  split at h <;> rename_i hset
  · rw [if_pos hset]
    exact h
  · rw [if_neg hset]
    exact h

theorem contains_bit : b.contains a.bit = true ↔ b.bits &&& a.bit.bits ≠ 0 := by
  obtain ⟨i, hbit, hne⟩ : ∃ i, a.bit.bits = ⟨BitVec.twoPow 64 i⟩ ∧ (⟨BitVec.twoPow 64 i⟩ : UInt64) ≠ 0 := by
    cases a
    · exact ⟨1, rfl, by decide⟩
    · exact ⟨0, rfl, by decide⟩
    · exact ⟨2, rfl, by decide⟩
    · exact ⟨3, rfl, by decide⟩
    · exact ⟨4, rfl, by decide⟩
  unfold contains
  rw [hbit, and_twoPow]
  split
  · simpa using hne
  · simpa using hne.symm

/-- An update touches something if it names an attribute. -/
theorem hasUpdate_iff : b.hasUpdate = true ↔ b.attributes ≠ [] := by
  have hupdates : b.bits &&& updates.bits = b.bits &&& Attribute.peerIp.bit.bits |||
      b.bits &&& Attribute.remotePeerIp.bit.bits ||| b.bits &&& Attribute.memberAdd.bit.bits |||
      b.bits &&& Attribute.memberDelete.bit.bits ||| b.bits &&& Attribute.speed.bit.bits := by
    simp only [← and_or]
    rfl
  have hnone : b.attributes = [] ↔ ∀ a : Attribute, b.bits &&& a.bit.bits = 0 := by
    simp only [List.eq_nil_iff_forall_not_mem, mem_attributes, contains_bit, ne_eq, not_not]
  unfold hasUpdate
  rw [ne_eq, hnone, hupdates, bne_iff_ne, ne_eq, not_iff_not]
  simp only [UInt64.or_eq_zero_iff]
  constructor
  · rintro ⟨⟨⟨⟨hpeerIp, hremotePeerIp⟩, hmemberAdd⟩, hmemberDelete⟩, hspeed⟩ a
    cases a <;> assumption
  · exact fun h => ⟨⟨⟨⟨h _, h _⟩, h _⟩, h _⟩, h _⟩

end UpdateBits

namespace ClusterSpec

variable (c : ClusterSpec) (x : ClusterNode)

/-! ### Revisions -/

/-- Takes ports out of a set that has all of them. -/
def takeOut : List String → ExtTreeSet String → Option (ExtTreeSet String)
  | [], members => some members
  | port :: rest, members => if members.contains port then takeOut rest (members.erase port) else none

theorem mem_takeOut {ports : List String} {members rest : ExtTreeSet String} (h : takeOut ports members = some rest)
    (port : String) : port ∈ rest ↔ port ∈ members ∧ port ∉ ports := by
  induction ports generalizing members with
  | nil =>
    cases h
    simp
  | cons first ports ih =>
    unfold takeOut at h
    split at h
    · rw [ih h, ExtTreeSet.mem_erase, List.mem_cons, ne_eq, Std.LawfulEqOrd.compare_eq_iff_eq]
      grind
    · cases h

/-- Different ports that are all there can be taken out. -/
theorem takeOut_of_nodup {ports : List String} {members : ExtTreeSet String} (hports : ports.Nodup)
    (h : ∀ port ∈ ports, port ∈ members) : ∃ rest, takeOut ports members = some rest := by
  induction ports generalizing members with
  | nil => exact ⟨members, rfl⟩
  | cons first ports ih =>
    obtain ⟨hfirst, hrest⟩ := List.forall_mem_cons.1 h
    obtain ⟨hnot, hports⟩ := List.nodup_cons.1 hports
    rw [takeOut, if_pos (ExtTreeSet.mem_iff_contains.1 hfirst)]
    refine ih hports fun port hport => ExtTreeSet.mem_erase.2 ⟨?_, hrest port hport⟩
    rw [ne_eq, Std.LawfulEqOrd.compare_eq_iff_eq]
    rintro rfl
    exact hnot hport

/-- The peer port-channel after an attribute of it was revised. -/
def refit (a : Attribute) (p : PortChannel) : Option PortChannel :=
  match a with
  | .memberAdd => some { p with members := p.members.insertMany x.connectingPorts }
  | .memberDelete => (takeOut x.connectingPorts p.members).map fun members => { p with members }
  | .speed => some { p with speed := x.peerInterface.speed }
  | .remotePeerIp | .peerIp => some p

/-- Whether something of the peer port-channel changes with an attribute; no ports are nothing to change. -/
def refits : Attribute → Bool
  | .memberAdd | .memberDelete => !x.connectingPorts.isEmpty
  | .speed => true
  | .remotePeerIp | .peerIp => false

/-- Revises an attribute of the peer port-channel, which has to be there if something changes. -/
def reviseChannel (a : Attribute) (cfg : Configuration) : Option Configuration :=
  match cfg.portChannels[x.peerInterface.name]? with
  | none => if refits x a then none else some cfg
  | some p => (refit x a p).map fun q =>
      { cfg with portChannels := cfg.portChannels.insert x.peerInterface.name q }

/-- What an update does for an attribute, unless it is rejected. -/
def revise (a : Attribute) (cfg : Configuration) : Option Configuration :=
  match a with
  | .remotePeerIp => some (setVeAddress (c.movedVe cfg) x.remotePeerIp cfg)
  | .peerIp => (c.target? cfg).map fun object =>
      { cfg with cluster := some { object with peerIp := x.peerIp }, deployed := true }
  | .memberAdd | .memberDelete | .speed => reviseChannel x a cfg

/-- What an update does for attributes, one after the other. -/
def reviseAll : List Attribute → Configuration → Option Configuration
  | [], cfg => some cfg
  | a :: rest, cfg => (c.revise x a cfg).bind (reviseAll rest)

/-! ### Running an update -/

section achieved

variable {c x} {cfg : Configuration}

private theorem achieved?_updateVe (cfg : Configuration) :
    (c.updateVe x cfg.cluster).achieved? cfg = c.revise x .remotePeerIp cfg :=
  NodeWork.achieved?_of_ok (outcome_updateVe cfg)

private theorem achieved?_peerIp (cfg : Configuration) :
    (NodeWork.sendAll x.host (c.peerIpSteps x cfg.cluster)).achieved? cfg = c.revise x .peerIp cfg := by
  rcases hobject : c.target? cfg with _ | object
  · obtain ⟨f, hf⟩ := outcome_peerIp_of_absent (x := x) hobject
    rw [NodeWork.achieved?_of_error hf, revise, hobject]
    rfl
  · rw [NodeWork.achieved?_of_ok (outcome_peerIp hobject), revise, hobject]
    rfl

private theorem achieved?_addMembers (cfg : Configuration) :
    (NodeWork.sendAll x.host (addMemberSteps x)).achieved? cfg = c.revise x .memberAdd cfg := by
  unfold revise reviseChannel
  rcases hchannel : cfg.portChannels[x.peerInterface.name]? with _ | p
  · unfold addMemberSteps
    rcases hports : x.connectingPorts with _ | ⟨port, rest⟩
    · simp only [refits, hports]
      rfl
    · simp only [refits, hports]
      exact NodeWork.achieved?_sendAll_of_error (by simp) (apply_addMember_of_absent hchannel)
  · exact NodeWork.achieved?_of_ok (outcome_addMembers hchannel)

theorem achieved?_takeOut {host operation name : String} (ports : List String) (later : List ClusterStep)
    {p : PortChannel} (h : cfg.portChannels[name]? = some p) :
    (NodeWork.sendAll host (ports.map (fun port => .send operation (.deleteMember port name)) ++ later)).achieved? cfg =
      ((takeOut ports p.members).map fun members =>
        { cfg with portChannels := cfg.portChannels.insert name { p with members } }).bind
          (NodeWork.sendAll host later).achieved? := by
  induction ports generalizing cfg p with
  | nil =>
    simp only [takeOut, Option.map_some, insert_of_getElem? h]
    rfl
  | cons port rest ih =>
    have happly : (deleteMember port name).apply.run.run cfg = _ := apply_deleteMember h
    rw [List.map_cons, List.cons_append, takeOut]
    cases hmember : p.members.contains port with
    | false =>
      rw [hmember] at happly
      rw [NodeWork.achieved?_sendAll_of_error (by simp) happly]
      rfl
    | true =>
      rw [hmember] at happly
      rw [NodeWork.achieved?_sendAll_of_ok (by simp) happly, ih ExtTreeMap.getElem?_insert_self, if_pos rfl]
      simp only [insert_insert]

private theorem achieved?_deleteMembers (cfg : Configuration) :
    (NodeWork.sendAll x.host (deleteMemberSteps x)).achieved? cfg = c.revise x .memberDelete cfg := by
  unfold revise reviseChannel deleteMemberSteps
  rcases hchannel : cfg.portChannels[x.peerInterface.name]? with _ | p
  · rcases hports : x.connectingPorts with _ | ⟨port, rest⟩
    · simp only [refits, hports]
      rfl
    · simp only [refits, hports]
      exact NodeWork.achieved?_sendAll_of_error (by simp) (apply_deleteMember_of_absent hchannel)
  · have hlast : (NodeWork.sendAll x.host []).achieved? = some := rfl
    rw [← List.append_nil (List.map _ _), achieved?_takeOut _ _ hchannel, hlast, Option.bind_fun_some]
    simp only [refit, Option.map_map, Function.comp_def]

private theorem achieved?_speed (cfg : Configuration) :
    (NodeWork.sendAll x.host (speedSteps x)).achieved? cfg = c.revise x .speed cfg := by
  unfold revise reviseChannel speedSteps
  rcases hchannel : cfg.portChannels[x.peerInterface.name]? with _ | p
  · exact NodeWork.achieved?_sendAll_of_error (by simp) (apply_configureSpeed_of_absent hchannel)
  · rw [NodeWork.achieved?_sendAll_of_ok (by simp) (apply_configureSpeed hchannel)]
    rfl

private theorem reviseAll_filter_cons (p : Attribute → Bool) (a : Attribute) (rest : List Attribute) :
    c.reviseAll x ((a :: rest).filter p) cfg =
      (if p a then c.revise x a cfg else some cfg).bind (c.reviseAll x (rest.filter p)) := by
  rw [List.filter_cons]
  split <;> rfl

/-- An update revises the attributes that it names. -/
theorem achieved?_update (c : ClusterSpec) (x : ClusterNode) (cfg : Configuration) :
    (c.update x).achieved? cfg = c.reviseAll x c.updates.attributes cfg := by
  unfold update UpdateBits.attributes Attribute.all
  rw [NodeWork.achieved?_bind_of_ok (NodeWork.outcome_ask (by simp) rfl rfl)]
  dsimp only
  rw [NodeWork.achieved?_guarded, reviseAll_filter_cons, achieved?_updateVe]
  refine Option.bind_congr fun moved hmoved => ?_
  -- The VE is not part of the cluster object, so the partner is set on what was read.
  have hlive : cfg.cluster = moved.cluster := by
    split at hmoved <;> cases hmoved <;> rfl
  rw [hlive, NodeWork.achieved?_guarded, reviseAll_filter_cons, achieved?_peerIp]
  refine Option.bind_congr fun partnered _ => ?_
  rw [NodeWork.achieved?_guarded, reviseAll_filter_cons, achieved?_addMembers (c := c)]
  refine Option.bind_congr fun grown _ => ?_
  rw [NodeWork.achieved?_guarded, reviseAll_filter_cons, achieved?_deleteMembers (c := c)]
  refine Option.bind_congr fun shrunk _ => ?_
  have hnone : ∀ o : Option Configuration, o.bind (c.reviseAll x []) = o := fun o => by cases o <;> rfl
  rw [reviseAll_filter_cons, List.filter_nil, hnone, Attribute.bit]
  split
  · exact achieved?_speed shrunk
  · rfl

end achieved

/-! ### Attributes apart -/

section apart

variable {c x} {a b : Attribute} {cfg cfg' : Configuration}

/-- Adding ports and taking them out are about the same ports; other attributes are apart. -/
def Apart (a b : Attribute) : Prop :=
  a ≠ b ∧ ¬ (a = .memberAdd ∧ b = .memberDelete) ∧ ¬ (a = .memberDelete ∧ b = .memberAdd)

instance : DecidableRel Apart := fun _ _ => inferInstanceAs (Decidable (_ ∧ _ ∧ _))

theorem Apart.symm (h : Apart a b) : Apart b a :=
  ⟨h.1.symm, fun ⟨hb, ha⟩ => h.2.2 ⟨ha, hb⟩, fun ⟨hb, ha⟩ => h.2.1 ⟨ha, hb⟩⟩

private theorem refit_speed_comm (a : Attribute) (p : PortChannel) :
    (refit x a p).bind (refit x .speed) = (refit x .speed p).bind (refit x a) := by
  cases a with
  | memberDelete =>
    simp only [refit, Option.bind_some]
    cases takeOut x.connectingPorts p.members <;> rfl
  | _ => rfl

/-- Two revisions of a peer port-channel that is there. -/
private theorem reviseChannel_bind {p : PortChannel} (h : cfg.portChannels[x.peerInterface.name]? = some p)
    (a b : Attribute) :
    (reviseChannel x a cfg).bind (reviseChannel x b) = ((refit x a p).bind (refit x b)).map fun q =>
      { cfg with portChannels := cfg.portChannels.insert x.peerInterface.name q } := by
  unfold reviseChannel
  rw [h]
  dsimp only
  cases refit x a p with
  | none => rfl
  | some q => simp only [Option.map_some, Option.bind_some, ExtTreeMap.getElem?_insert_self, insert_insert]

private theorem reviseChannel_speed_comm (a : Attribute) (cfg : Configuration) :
    (reviseChannel x a cfg).bind (reviseChannel x .speed) =
      (reviseChannel x .speed cfg).bind (reviseChannel x a) := by
  rcases h : cfg.portChannels[x.peerInterface.name]? with _ | p
  · -- Without the port-channel its speed cannot be set, before or after.
    have hspeed : reviseChannel x .speed cfg = none := by
      unfold reviseChannel
      rw [h]
      rfl
    rw [hspeed]
    unfold reviseChannel
    rw [h]
    dsimp only
    split
    · rfl
    · rw [Option.bind_some, h]
      rfl
  · rw [reviseChannel_bind h, reviseChannel_bind h, refit_speed_comm]

/-- Only port-channels change. -/
private theorem exists_of_reviseChannel (h : reviseChannel x a cfg = some cfg') :
    ∃ m, cfg' = { cfg with portChannels := m } := by
  unfold reviseChannel at h
  split at h
  · split at h
    · cases h
    · cases h
      exact ⟨cfg.portChannels, rfl⟩
  · obtain ⟨q, -, rfl⟩ := Option.map_eq_some_iff.1 h
    exact ⟨_, rfl⟩

/-- Something else may be changed before or after. -/
private theorem reviseChannel_map {f : Configuration → Configuration} (a : Attribute)
    (hf : ∀ cfg m, f { cfg with portChannels := m } = { f cfg with portChannels := m })
    (hkeeps : (f cfg).portChannels = cfg.portChannels) :
    reviseChannel x a (f cfg) = (reviseChannel x a cfg).map f := by
  unfold reviseChannel
  rw [hkeeps]
  rcases cfg.portChannels[x.peerInterface.name]? with _ | p
  · dsimp only
    split <;> rfl
  · dsimp only
    rw [Option.map_map]
    exact congrArg (Option.map · _) (funext fun _ => (hf cfg _).symm)

private theorem revise_remotePeerIp_comm (hb : b = .memberAdd ∨ b = .memberDelete ∨ b = .speed)
    (cfg : Configuration) :
    (c.revise x .remotePeerIp cfg).bind (c.revise x b) = (c.revise x b cfg).bind (c.revise x .remotePeerIp) := by
  have hrevise : ∀ cfg, c.revise x b cfg = reviseChannel x b cfg := fun cfg => by rcases hb with rfl | rfl | rfl <;> rfl
  have hmoved : reviseChannel x b (setVeAddress (c.movedVe cfg) x.remotePeerIp cfg) =
      (reviseChannel x b cfg).map (setVeAddress (c.movedVe cfg) x.remotePeerIp) :=
    reviseChannel_map b (fun _ _ => rfl) rfl
  rw [hrevise, revise, Option.bind_some, hrevise, hmoved, Option.map_eq_bind]
  refine Option.bind_congr fun cfg' h => ?_
  obtain ⟨m, rfl⟩ := exists_of_reviseChannel h
  rfl

private theorem revise_peerIp_comm (hb : b = .memberAdd ∨ b = .memberDelete ∨ b = .speed) (cfg : Configuration) :
    (c.revise x .peerIp cfg).bind (c.revise x b) = (c.revise x b cfg).bind (c.revise x .peerIp) := by
  have hrevise : c.revise x b = reviseChannel x b := by
    rcases hb with rfl | rfl | rfl <;> rfl
  have hpartner : ∀ object : ClusterObject, reviseChannel x b { cfg with cluster := some object, deployed := true } =
      (reviseChannel x b cfg).map fun cfg => { cfg with cluster := some object, deployed := true } := fun object =>
    reviseChannel_map (f := fun cfg => { cfg with cluster := some object, deployed := true }) b (fun _ _ => rfl) rfl
  rw [hrevise]
  rcases hrevised : reviseChannel x b cfg with _ | cfg'
  · simp only [revise, Option.bind_map, Function.comp_def, hpartner, hrevised, Option.map_none, Option.bind_none,
      Option.bind_fun_none]
  · obtain ⟨m, rfl⟩ := exists_of_reviseChannel hrevised
    simp only [revise, Option.bind_map, Function.comp_def, hpartner, hrevised, Option.map_some, Option.bind_some]
    have htarget : c.target? { cfg with portChannels := m } = c.target? cfg := rfl
    rw [htarget, Option.map_eq_bind]
    rfl

private theorem revise_remotePeerIp_peerIp_comm (cfg : Configuration) :
    (c.revise x .remotePeerIp cfg).bind (c.revise x .peerIp) =
      (c.revise x .peerIp cfg).bind (c.revise x .remotePeerIp) := by
  have htarget : c.target? (setVeAddress (c.movedVe cfg) x.remotePeerIp cfg) = c.target? cfg := rfl
  rw [revise, Option.bind_some, revise, revise, htarget]
  rcases hobject : c.target? cfg with _ | object
  · rfl
  · -- With another partner the cluster object has the same control VLAN.
    have hcluster : cfg.cluster = some object := (Option.filter_eq_some_iff.1 hobject).1
    have hve : c.movedVe { cfg with cluster := some { object with peerIp := x.peerIp }, deployed := true } =
        c.movedVe cfg := by
      simp only [movedVe, hcluster, Option.bind_some]
    simp only [Option.map_some, Option.bind_some, revise, hve]
    rfl

/-- Attributes apart may be revised in either order. -/
theorem revise_comm (h : Apart a b) (cfg : Configuration) :
    (c.revise x a cfg).bind (c.revise x b) = (c.revise x b cfg).bind (c.revise x a) := by
  cases a with
  | remotePeerIp => cases b with
    | remotePeerIp => exact absurd rfl h.1
    | peerIp => exact revise_remotePeerIp_peerIp_comm cfg
    | _ => exact revise_remotePeerIp_comm (by simp) cfg
  | peerIp => cases b with
    | remotePeerIp => exact (revise_remotePeerIp_peerIp_comm cfg).symm
    | peerIp => exact absurd rfl h.1
    | _ => exact revise_peerIp_comm (by simp) cfg
  | memberAdd => cases b with
    | remotePeerIp => exact (revise_remotePeerIp_comm (by simp) cfg).symm
    | peerIp => exact (revise_peerIp_comm (by simp) cfg).symm
    | memberAdd => exact absurd rfl h.1
    | memberDelete => exact absurd ⟨rfl, rfl⟩ h.2.1
    | speed => exact reviseChannel_speed_comm .memberAdd cfg
  | memberDelete => cases b with
    | remotePeerIp => exact (revise_remotePeerIp_comm (by simp) cfg).symm
    | peerIp => exact (revise_peerIp_comm (by simp) cfg).symm
    | memberAdd => exact absurd ⟨rfl, rfl⟩ h.2.2
    | memberDelete => exact absurd rfl h.1
    | speed => exact reviseChannel_speed_comm .memberDelete cfg
  | speed => cases b with
    | remotePeerIp => exact (revise_remotePeerIp_comm (by simp) cfg).symm
    | peerIp => exact (revise_peerIp_comm (by simp) cfg).symm
    | speed => exact absurd rfl h.1
    | _ => exact (reviseChannel_speed_comm _ cfg).symm

/-- The order of attributes apart makes no difference. -/
theorem reviseAll_perm {order order' : List Attribute} (hperm : order.Perm order') (hapart : order.Pairwise Apart) :
    c.reviseAll x order = c.reviseAll x order' := by
  induction hperm with
  | nil => rfl
  | cons a _ ih =>
    funext cfg
    rw [reviseAll, reviseAll, ih (List.pairwise_cons.1 hapart).2]
  | swap a b rest =>
    funext cfg
    have hba : Apart b a := (List.pairwise_cons.1 hapart).1 a (by simp)
    simp only [reviseAll, ← Option.bind_assoc, revise_comm hba]
  | trans hfirst _ ih ih' => exact (ih hapart).trans (ih' (hfirst.pairwise hapart Apart.symm))

theorem reviseAll_append (first rest : List Attribute) :
    c.reviseAll x (first ++ rest) cfg = (c.reviseAll x first cfg).bind (c.reviseAll x rest) := by
  induction first generalizing cfg with
  | nil => rfl
  | cons a first ih =>
    simp only [List.cons_append, reviseAll, Option.bind_assoc]
    exact Option.bind_congr fun _ _ => ih

/-- An attribute that is apart from what comes after it may as well come last. -/
theorem reviseAll_last {rest : List Attribute} (h : ∀ b ∈ rest, Apart a b) :
    c.reviseAll x (a :: rest) = c.reviseAll x (rest ++ [a]) := by
  induction rest with
  | nil => rfl
  | cons b rest ih =>
    funext cfg
    have hlast := ih fun b hb => h b (by simp [hb])
    simp only [List.cons_append, reviseAll, ← hlast, ← Option.bind_assoc, revise_comm (h b (by simp))]

/-- The attributes that an update names are apart, except that ports are added before ports are taken out. -/
theorem pairwise_attributes (bits : UpdateBits) :
    bits.attributes.Pairwise fun a b => Apart a b ∨ a = .memberAdd ∧ b = .memberDelete := by
  have hall : Attribute.all.Pairwise fun a b => Apart a b ∨ a = .memberAdd ∧ b = .memberDelete := by decide
  exact hall.filter _

/-- Unless it names ports to add and ports to take out, an update names attributes apart. -/
theorem pairwise_apart {bits : UpdateBits}
    (h : ¬ (bits.contains .memberAdd = true ∧ bits.contains .memberDelete = true)) :
    bits.attributes.Pairwise Apart := by
  refine (pairwise_attributes bits).imp_of_mem fun {a b} ha hb hab => hab.resolve_right ?_
  rintro ⟨rfl, rfl⟩
  exact h ⟨UpdateBits.mem_attributes.1 ha, UpdateBits.mem_attributes.1 hb⟩

end apart

end ClusterSpec

end FabricProvision

import FabricProvision.Device.Network
import FabricProvision.Proofs.Device.Parts
import FabricProvision.Proofs.Dialogue.Within

/-!
# What a run leaves as it was

A dialogue within a scope only sends the operations of the scope.  So every device keeps its faults, gets
nothing but such operations into its journal, and keeps every part of its configuration that none of them is
about (`Network.run_follows`).  Devices are neither added nor removed.
-/

namespace FabricProvision

open Std (ExtTreeMap)
open Step

namespace Device

variable {d d' d'' : Device} {allowed : Operation → Prop}

/-- An operation that the device was told to refuse is refused, the question for the status of the cluster gets
its answer, and every other operation is applied to the configuration. -/
theorem receive_cases (d : Device) (status : ClusterStatus) (op : Operation) :
    (d.failing.contains op.name = true ∧ d.receive status op = (.error .injected, d.record op)) ∨
      (d.failing.contains op.name = false ∧ op = .getClusterStatus ∧
        d.receive status op = (.ok (.clusterStatus status), d.record op)) ∨
      (d.failing.contains op.name = false ∧ op ≠ .getClusterStatus ∧
        d.receive status op = ((op.apply.run.run d.configuration).1,
          { d.record op with configuration := (op.apply.run.run d.configuration).2 })) := by
  have hfailing : (d.record op).failing = d.failing := rfl
  unfold receive
  simp only [hfailing]
  by_cases hfail : d.failing.contains op.name = true
  · exact .inl ⟨hfail, by rw [if_pos hfail]⟩
  · right
    rw [if_neg hfail]
    rw [Bool.not_eq_true] at hfail
    by_cases hop : op = .getClusterStatus
    · exact .inl ⟨hfail, hop, by rw [if_pos hop]⟩
    · exact .inr ⟨hfail, hop, by rw [if_neg hop]; rfl⟩

/-- The question for the status changes nothing but the journal. -/
theorem receive_getClusterStatus (d : Device) (status : ClusterStatus) :
    (d.receive status .getClusterStatus).2 = d.record .getClusterStatus := by
  rcases d.receive_cases status .getClusterStatus with ⟨-, h⟩ | ⟨-, -, h⟩ | ⟨-, hop, -⟩
  · rw [h]
  · rw [h]
  · exact absurd rfl hop

theorem receive_faults (d : Device) (status : ClusterStatus) (op : Operation) :
    (d.receive status op).2.refusesLogin = d.refusesLogin ∧ (d.receive status op).2.failing = d.failing ∧
      (d.receive status op).2.statusOverride = d.statusOverride := by
  rcases d.receive_cases status op with ⟨-, h⟩ | ⟨-, -, h⟩ | ⟨-, -, h⟩ <;> rw [h] <;> exact ⟨rfl, rfl, rfl⟩

theorem receive_journal (d : Device) (status : ClusterStatus) (op : Operation) :
    (d.receive status op).2.journal = d.journal ++ [op] := by
  rcases d.receive_cases status op with ⟨-, h⟩ | ⟨-, -, h⟩ | ⟨-, -, h⟩ <;> rw [h] <;> rfl

theorem receive_writes (d : Device) (status : ClusterStatus) (op : Operation) :
    op.part.Writes d.configuration (d.receive status op).2.configuration := by
  rcases d.receive_cases status op with ⟨-, h⟩ | ⟨-, -, h⟩ | ⟨-, -, h⟩ <;> rw [h]
  · exact fun q _ => q.same_refl _
  · exact fun q _ => q.same_refl _
  · exact op.apply_writes d.configuration

/-- One device comes from another one by receiving allowed operations. -/
structure Follows (allowed : Operation → Prop) (d d' : Device) : Prop where
  refusesLogin : d'.refusesLogin = d.refusesLogin
  failing : d'.failing = d.failing
  statusOverride : d'.statusOverride = d.statusOverride
  journal : ∃ ops, d'.journal = d.journal ++ ops ∧ ∀ op ∈ ops, allowed op
  parts : ∀ p : Part, (∀ op, allowed op → op.part ≠ p) → p.Same d.configuration d'.configuration

theorem follows_refl (allowed : Operation → Prop) (d : Device) : d.Follows allowed d :=
  ⟨rfl, rfl, rfl, ⟨[], by simp, by simp⟩, fun p _ => p.same_refl _⟩

theorem Follows.trans (h : d.Follows allowed d') (h' : d'.Follows allowed d'') : d.Follows allowed d'' := by
  obtain ⟨ops, hops, hallowed⟩ := h.journal
  obtain ⟨ops', hops', hallowed'⟩ := h'.journal
  refine ⟨h'.refusesLogin.trans h.refusesLogin, h'.failing.trans h.failing,
    h'.statusOverride.trans h.statusOverride, ⟨ops ++ ops', ?_, ?_⟩, ?_⟩
  · rw [hops', hops, List.append_assoc]
  · intro op hop
    rcases List.mem_append.1 hop with hop | hop
    · exact hallowed op hop
    · exact hallowed' op hop
  · exact fun p hp => Part.same_trans (h.parts p hp) (h'.parts p hp)

theorem follows_receive (status : ClusterStatus) {op : Operation} (hop : allowed op) :
    d.Follows allowed (d.receive status op).2 := by
  obtain ⟨hlogin, hfailing, hstatus⟩ := d.receive_faults status op
  refine ⟨hlogin, hfailing, hstatus, ⟨[op], d.receive_journal status op, by simpa using hop⟩, fun p hp => ?_⟩
  exact d.receive_writes status op p (Ne.symm (hp op hop))

end Device

namespace Network

variable {n n' : Network} {host : String}

theorem mem_hosts : host ∈ n.hosts ↔ ∃ d, n.device? host = some d := by
  unfold hosts device?
  rw [ExtTreeMap.mem_keys, ExtTreeMap.mem_iff_isSome_getElem?, Option.isSome_iff_exists]

theorem device?_setDevice (n : Network) (host other : String) (d : Device) :
    (n.setDevice host d).device? other = if host = other then some d else n.device? other := by
  simp only [device?, setDevice, ExtTreeMap.getElem?_insert, Std.LawfulEqOrd.compare_eq_iff_eq]

theorem device?_setDevice_self (n : Network) (host : String) (d : Device) :
    (n.setDevice host d).device? host = some d := by
  rw [device?_setDevice, if_pos rfl]

theorem device?_change (n : Network) (host other : String) (f : Device → Device) :
    (n.change host f).device? other = if host = other then (n.device? other).map f else n.device? other := by
  by_cases hhost : host = other
  · subst hhost
    rw [if_pos rfl, change]
    cases hd : n.device? host with
    | none => exact hd
    | some d => exact device?_setDevice_self n host (f d)
  · rw [if_neg hhost, change]
    cases n.device? host with
    | none => rfl
    | some d => exact (device?_setDevice n host other (f d)).trans (if_neg hhost)

/-- A device that is there stays as it is. -/
theorem device?_addSwitch (n : Network) (host other : String) :
    (n.addSwitch host).device? other = if host = other then some ((n.device? other).getD {}) else n.device? other := by
  have hget : (n.addSwitch host).device? other = (n.devices.insertIfNew host {})[other]? := rfl
  rw [hget, ExtTreeMap.getElem?_insertIfNew]
  simp only [Std.LawfulEqOrd.compare_eq_iff_eq, device?]
  by_cases hhost : host = other
  · subst hhost
    rw [if_pos rfl]
    by_cases hmem : host ∈ n.devices
    · rw [if_neg fun h => h.2 hmem, ExtTreeMap.getElem?_eq_some_getElem hmem, Option.getD_some]
    · rw [if_pos ⟨rfl, hmem⟩, ExtTreeMap.getElem?_eq_none hmem, Option.getD_none]
  · rw [if_neg hhost, if_neg fun h => hhost h.1]

theorem execute_of_device {d : Device} (h : n.device? host = some d) (op : Operation) :
    n.execute host op =
      ((d.receive (n.clusterStatus host) op).1.mapError fun cause => .rejected op.name cause.message,
        n.setDevice host (d.receive (n.clusterStatus host) op).2) := by
  unfold execute
  rw [h]

theorem execute_of_absent (h : n.device? host = none) (op : Operation) :
    n.execute host op = (.error (.rejected op.name (Rejection.unknownHost host).message), n) := by
  unfold execute
  rw [h]

/-- The outcome on a host that is there. -/
theorem execute_cases {d : Device} (hd : n.device? host = some d) (op : Operation) :
    (d.failing.contains op.name = true ∧
      n.execute host op = (.error (.rejected op.name Rejection.injected.message), n.setDevice host (d.record op))) ∨
    (d.failing.contains op.name = false ∧ op = .getClusterStatus ∧
      n.execute host op = (.ok (.clusterStatus (n.clusterStatus host)), n.setDevice host (d.record op))) ∨
    (d.failing.contains op.name = false ∧ op ≠ .getClusterStatus ∧
      n.execute host op =
        ((op.apply.run.run d.configuration).1.mapError fun cause => .rejected op.name cause.message,
          n.setDevice host { d.record op with configuration := (op.apply.run.run d.configuration).2 })) := by
  rw [execute_of_device hd]
  rcases d.receive_cases (n.clusterStatus host) op with ⟨hfailing, h⟩ | ⟨hfailing, hop, h⟩ | ⟨hfailing, hop, h⟩
  · exact .inl ⟨hfailing, by rw [h]; rfl⟩
  · exact .inr (.inl ⟨hfailing, hop, by rw [h]; rfl⟩)
  · exact .inr (.inr ⟨hfailing, hop, by rw [h]⟩)

/-- The devices of a network before and after, by address. -/
def Relates (R : String → Device → Device → Prop) (n n' : Network) : Prop :=
  ∀ host, Option.Rel (R host) (n.device? host) (n'.device? host)

variable {R : String → Device → Device → Prop}

theorem Relates.of_device (h : n.Relates R n') {d : Device} (hd : n.device? host = some d) :
    ∃ d', n'.device? host = some d' ∧ R host d d' := by
  have := h host
  rw [hd] at this
  generalize n'.device? host = o at this
  cases this with
  | some hR => exact ⟨_, rfl, hR⟩

theorem Relates.of_absent (h : n.Relates R n') (hd : n.device? host = none) : n'.device? host = none := by
  have := h host
  rw [hd] at this
  generalize n'.device? host = o at this
  cases this
  rfl

theorem Relates.to_device (h : n.Relates R n') {d' : Device} (hd : n'.device? host = some d') :
    ∃ d, n.device? host = some d ∧ R host d d' := by
  have := h host
  rw [hd] at this
  generalize n.device? host = o at this
  cases this with
  | some hR => exact ⟨_, rfl, hR⟩

theorem Relates.mono {S : String → Device → Device → Prop} (h : n.Relates R n')
    (hRS : ∀ host d d', R host d d' → S host d d') : n.Relates S n' := by
  intro host
  rcases Option.eq_none_or_eq_some (n.device? host) with hd | ⟨d, hd⟩
  · rw [hd, h.of_absent hd]
    exact .none
  · obtain ⟨d', hd', hR⟩ := h.of_device hd
    rw [hd, hd']
    exact .some (hRS host d d' hR)

theorem relates_refl (hrefl : ∀ host d, R host d d) (n : Network) : n.Relates R n := by
  intro host
  cases n.device? host with
  | none => exact .none
  | some d => exact .some (hrefl host d)

theorem Relates.trans {n'' : Network}
    (htrans : ∀ host d d' d'', R host d d' → R host d' d'' → R host d d'')
    (h : n.Relates R n') (h' : n'.Relates R n'') : n.Relates R n'' := by
  intro host
  rcases Option.eq_none_or_eq_some (n.device? host) with hd | ⟨d, hd⟩
  · rw [hd, h'.of_absent (h.of_absent hd)]
    exact .none
  · obtain ⟨d', hd', hR⟩ := h.of_device hd
    obtain ⟨d'', hd'', hR'⟩ := h'.of_device hd'
    rw [hd, hd'']
    exact .some (htrans host d d' d'' hR hR')

theorem relates_setDevice (hrefl : ∀ host d, R host d d) {d d' : Device} (hd : n.device? host = some d)
    (hR : R host d d') : n.Relates R (n.setDevice host d') := by
  intro other
  rw [device?_setDevice]
  by_cases hother : host = other
  · subst hother
    rw [if_pos rfl, hd]
    exact .some hR
  · rw [if_neg hother]
    exact relates_refl hrefl n other

theorem relates_execute (hrefl : ∀ host d, R host d d) {op : Operation}
    (hreceive : ∀ d status, R host d (d.receive status op).2) (n : Network) :
    n.Relates R (n.execute host op).2 := by
  rcases Option.eq_none_or_eq_some (n.device? host) with hd | ⟨d, hd⟩
  · rw [execute_of_absent hd]
    exact relates_refl hrefl n
  · rw [execute_of_device hd]
    exact relates_setDevice hrefl hd (hreceive d _)

/-- What the operations of a scope respect on their devices, a run within the scope respects. -/
theorem run_relates {α : Type} {scope : Scope} {Q : α → Prop} {x : Dialogue α} (hx : x.Within scope Q)
    (hrefl : ∀ host d, R host d d) (htrans : ∀ host d d' d'', R host d d' → R host d' d'' → R host d d'')
    (hreceive : ∀ host op, scope.operations host op → ∀ d status, R host d (d.receive status op).2)
    (n : Network) : n.Relates R (x.run adapter n).2 :=
  hx.run_related adapter (relates_refl hrefl) (fun _ _ _ => Relates.trans htrans)
    (fun _ _ n => relates_refl hrefl n) (fun host op n hop => relates_execute hrefl (hreceive host op hop) n) n

/-- A run within a scope leaves everything else as it was. -/
theorem run_follows {α : Type} {scope : Scope} {Q : α → Prop} {x : Dialogue α} (hx : x.Within scope Q)
    (n : Network) :
    n.Relates (fun host => Device.Follows (scope.operations host)) (x.run adapter n).2 :=
  run_relates hx (fun host => Device.follows_refl (scope.operations host)) (fun _ _ _ _ => Device.Follows.trans)
    (fun _ _ hop _ status => Device.follows_receive status hop) n

end Network

end FabricProvision

import FabricProvision.Proofs.Device.Journals
import FabricProvision.Proofs.Device.Refused

/-!
# Replaying journals

The journal of a device explains its configuration: whatever dialogue is held with the devices of a network, each
of them ends with the configuration that its new journal entries lead to, one after the other, and refused
operations lead nowhere (`Network.run_replayed`).  Nothing is said of who sends the operations or in which order,
so this holds of parties that take turns as well.
-/

namespace FabricProvision

open Std (ExtTreeSet)
open Dialogue

namespace Configuration

/-- The configuration after an operation, where operations with some names are refused.  What is refused has no
effect. -/
def effect (failing : ExtTreeSet String) (c : Configuration) (op : Operation) : Configuration :=
  if failing.contains op.name then c
  else
    match op.apply.run.run c with
    | (.ok _, c') => c'
    | (.error _, _) => c

/-- The configuration after operations, one after the other. -/
def replay (failing : ExtTreeSet String) (c : Configuration) (ops : List Operation) : Configuration :=
  ops.foldl (effect failing) c

variable {failing : ExtTreeSet String} {c : Configuration}

theorem replay_append (ops ops' : List Operation) :
    c.replay failing (ops ++ ops') = (c.replay failing ops).replay failing ops' := List.foldl_append

theorem effect_of_failing {op : Operation} (h : failing.contains op.name = true) : c.effect failing op = c := by
  rw [effect, if_pos h]

/-- An operation that is not refused by its name has the effect that it is carried out with. -/
theorem effect_of_not_failing {op : Operation} (h : failing.contains op.name = false) :
    c.effect failing op = (op.apply.run.run c).2 := by
  have hname : ¬ failing.contains op.name = true := by simp [h]
  rw [effect, if_neg hname]
  rcases hrun : op.apply.run.run c with ⟨answer, c'⟩
  cases answer with
  | ok r => rfl
  | error cause =>
    have hsame := Operation.apply_of_refused c (congrArg Prod.fst hrun)
    rw [hrun] at hsame
    exact hsame.symm

end Configuration

namespace Device

variable {d d' d'' : Device}

/-- One device comes from another one by what its journal grew by, and by nothing else. -/
structure Replayed (d d' : Device) : Prop where
  refusesLogin : d'.refusesLogin = d.refusesLogin
  failing : d'.failing = d.failing
  statusOverride : d'.statusOverride = d.statusOverride
  replay : ∃ ops, d'.journal = d.journal ++ ops ∧ d'.configuration = d.configuration.replay d.failing ops

theorem replayed_refl (d : Device) : d.Replayed d :=
  ⟨rfl, rfl, rfl, ⟨[], (List.append_nil _).symm, rfl⟩⟩

theorem Replayed.trans (h : d.Replayed d') (h' : d'.Replayed d'') : d.Replayed d'' := by
  obtain ⟨ops, hjournal, hconfiguration⟩ := h.replay
  obtain ⟨ops', hjournal', hconfiguration'⟩ := h'.replay
  refine ⟨h'.refusesLogin.trans h.refusesLogin, h'.failing.trans h.failing,
    h'.statusOverride.trans h.statusOverride, ⟨ops ++ ops', ?_, ?_⟩⟩
  · rw [hjournal', hjournal, List.append_assoc]
  · rw [hconfiguration', hconfiguration, h.failing, Configuration.replay_append]

/-- Receiving an operation has its effect on the configuration. -/
theorem configuration_receive (d : Device) (status : ClusterStatus) (op : Operation) :
    (d.receive status op).2.configuration = d.configuration.effect d.failing op := by
  rcases d.receive_cases status op with ⟨hfailing, h⟩ | ⟨hfailing, rfl, h⟩ | ⟨hfailing, -, h⟩
  · rw [h, Configuration.effect_of_failing hfailing]
    rfl
  · -- The question for the status is answered without the configuration.
    rw [h, Configuration.effect_of_not_failing hfailing]
    rfl
  · rw [h, Configuration.effect_of_not_failing hfailing]

theorem replayed_receive (d : Device) (status : ClusterStatus) (op : Operation) :
    d.Replayed (d.receive status op).2 := by
  obtain ⟨hlogin, hfailing, hstatus⟩ := d.receive_faults status op
  exact ⟨hlogin, hfailing, hstatus, ⟨[op], d.receive_journal status op, d.configuration_receive status op⟩⟩

/-- A device whose journal did not grow is as it was. -/
theorem Replayed.eq_of_journal (h : d.Replayed d') (hjournal : d'.journal = d.journal) : d' = d := by
  obtain ⟨ops, hops, hconfiguration⟩ := h.replay
  obtain rfl : ops = [] := by simpa [hjournal] using hops
  have hsame : d'.configuration = d.configuration := hconfiguration
  have hlogin := h.refusesLogin
  have hfailing := h.failing
  have hstatus := h.statusOverride
  cases d
  cases d'
  simp_all

end Device

namespace Network

/-- Every device comes from what it was by what its journal grew by. -/
theorem run_replayed {α : Type} (x : Dialogue α) (n : Network) :
    n.Relates (fun _ => Device.Replayed) (x.run adapter n).2 :=
  run_relates (stays_any x) (fun _ => Device.replayed_refl) (fun _ _ _ _ => Device.Replayed.trans)
    (fun _ op _ d status => d.replayed_receive status op) n

end Network

end FabricProvision

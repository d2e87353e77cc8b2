import FabricProvision.Proofs.Device.Apart
import FabricProvision.Proofs.Device.Has

/-!
# Faults that are lifted

A device refuses what it is told to refuse, and a run cannot change that.  Without faults, the configuration that
work leaves is a function of the configuration that it finds (`Configuration.after`).  Work on a device restarts
if, whatever was refused to it, doing it once more without faults leaves what it leaves without ever having been
refused anything (`Device.Restarts`).  Pieces of such work on different hosts restart together
(`Network.restarts_fanOut`).
-/

namespace FabricProvision

open Std (ExtTreeMap ExtTreeSet)
open Dialogue

/-- What a device is told to refuse. -/
structure Faults where
  refusesLogin : Bool := false
  /-- The names of the operations that are refused. -/
  failing : ExtTreeSet String := ∅

/-- The device with certain faults instead of its own. -/
def Device.withFaults (d : Device) (f : Faults) : Device :=
  { d with refusesLogin := f.refusesLogin, failing := f.failing }

/-- The device without faults. -/
def Device.repaired (d : Device) : Device := d.withFaults {}

/-- The network with certain faults on each of its hosts instead of the ones there. -/
def Network.withFaults (n : Network) (faults : String → Faults) : Network :=
  ⟨n.devices.map fun host d => d.withFaults (faults host)⟩

/-- The network without faults. -/
def Network.repaired (n : Network) : Network := n.withFaults fun _ => {}

/-! ### Configurations without faults -/

namespace Configuration

variable {α : Type}

/-- Dialogues with a device that refuses nothing, of which only the configuration counts. -/
def perfect : Adapter Configuration where
  login _ _ cfg := (.ok ⟨⟩, cfg)
  execute _ op cfg :=
    if op = .getClusterStatus then (.ok (.clusterStatus {}), cfg)
    else ((op.apply.run.run cfg).1.mapError fun cause => .rejected op.name cause.message, (op.apply.run.run cfg).2)

/-- The configuration that work leaves when nothing is refused. -/
def after (x : Dialogue α) (cfg : Configuration) : Configuration := (x.run perfect cfg).2

theorem execute_eq (host : String) {op : Operation} (hop : op ≠ .getClusterStatus) (cfg : Configuration) :
    perfect.execute host op cfg =
      ((op.apply.run.run cfg).1.mapError fun cause => .rejected op.name cause.message, (op.apply.run.run cfg).2) :=
  if_neg hop

end Configuration

/-! ### Devices -/

/-- The device refuses no login and no operation. -/
structure Device.Faultless (d : Device) : Prop where
  login : d.refusesLogin = false
  operations : d.failing = ∅

instance : DecidablePred Device.Faultless := fun d =>
  decidable_of_iff (d.refusesLogin = false ∧ d.failing.isEmpty = true)
    ⟨fun h => ⟨h.1, ExtTreeSet.isEmpty_iff.1 h.2⟩, fun h => ⟨h.login, ExtTreeSet.isEmpty_iff.2 h.operations⟩⟩

namespace Device

variable {α : Type} {d : Device} {x : Dialogue α}

/-- All that counts of a device without faults is its configuration. -/
private theorem run_perfect (x : Dialogue α) (hlogin : d.refusesLogin = false) (hfailing : d.failing = ∅) :
    (x.run adapter d).1 = (x.run Configuration.perfect d.configuration).1 ∧
      (x.run adapter d).2.configuration = Configuration.after x d.configuration := by
  have hrun := (stays_any x).run_simulation adapter Configuration.perfect
    (R := fun d cfg => d.refusesLogin = false ∧ d.failing = ∅ ∧ d.configuration = cfg)
    (fun host credentials d cfg _ hd => ⟨?_, hd⟩) (fun host op d cfg _ hd => ?_) ⟨hlogin, hfailing, rfl⟩
  · exact ⟨hrun.1, hrun.2.2.2⟩
  · simp only [adapter, Configuration.perfect, hd.1, Bool.false_eq_true, if_false]
  · obtain ⟨hlogin, hfailing, rfl⟩ := hd
    by_cases hop : op = .getClusterStatus
    · subst hop
      have hanswer : adapter.execute host .getClusterStatus d = (.ok (.clusterStatus {}), d.record .getClusterStatus) := by
        rcases d.receive_cases {} .getClusterStatus with ⟨hfail, -⟩ | ⟨-, -, h⟩ | ⟨-, hop, -⟩
        · simp [hfailing] at hfail
        · simp only [adapter, h]
          rfl
        · exact absurd rfl hop
      rw [hanswer]
      exact ⟨rfl, hlogin, hfailing, rfl⟩
    · rw [execute_of_faultless hfailing hop, Configuration.execute_eq host hop]
      exact ⟨rfl, hlogin, hfailing, rfl⟩

/-- A run changes nothing but the configuration and the journal. -/
theorem quiet_run (x : Dialogue α) (d : Device) :
    (x.run adapter d).2.quiet = { d.quiet with configuration := (x.run adapter d).2.configuration } := by
  have hfollows := run_follows (stays_any x) d
  have hrefuses := hfollows.refusesLogin
  have hfails := hfollows.failing
  have hoverride := hfollows.statusOverride
  generalize (x.run adapter d).2 = d' at *
  obtain ⟨cfg, journal, refuses, failing, override⟩ := d'
  cases hrefuses
  cases hfails
  cases hoverride
  rfl

/-- Only the journal and the configuration of a device have changed, the configuration in a certain way. -/
def Reconfigured (R : Configuration → Configuration → Prop) (d d' : Device) : Prop :=
  d'.quiet = { d.quiet with configuration := d'.configuration } ∧ R d.configuration d'.configuration

theorem reconfigured_of_quiet {R : Configuration → Configuration → Prop} {d' : Device}
    (hquiet : d'.quiet = (x.run adapter d).2.quiet) (hR : R d.configuration (x.run adapter d).2.configuration) :
    d.Reconfigured R d' := by
  obtain ⟨-, -, hcfg⟩ := parts_of_quiet hquiet
  refine ⟨?_, hcfg ▸ hR⟩
  rw [hquiet, quiet_run, hcfg]

/-- Without faults, a run ends as it does on the configuration alone. -/
theorem run_faultless (x : Dialogue α) (hlogin : d.refusesLogin = false) (hfailing : d.failing = ∅) :
    (x.run adapter d).1 = (x.run Configuration.perfect d.configuration).1 ∧
      (x.run adapter d).2.quiet = { d.quiet with configuration := Configuration.after x d.configuration } := by
  obtain ⟨hanswer, hconfiguration⟩ := run_perfect x hlogin hfailing
  exact ⟨hanswer, by rw [quiet_run, hconfiguration]⟩

/-- Whatever was refused to the work, doing it once more without faults leaves what it would have left then. -/
def Restarts (x : Dialogue α) : Prop :=
  ∀ d : Device, Configuration.after x (x.run adapter d).2.configuration = Configuration.after x d.configuration

private theorem Restarts.quiet_run (h : Restarts x) (d : Device) (f : Faults) :
    (x.run adapter (x.run adapter (d.withFaults f)).2.repaired).2.quiet = (x.run adapter d.repaired).2.quiet := by
  have hoverride := (run_follows (stays_any x) (d.withFaults f)).statusOverride
  have hrestart := h (d.withFaults f)
  rw [(run_faultless x rfl rfl).2, (run_faultless x rfl rfl).2]
  generalize (x.run adapter (d.withFaults f)).2 = refused at hoverride hrestart
  simp only [repaired, withFaults, quiet, hoverride] at hrestart ⊢
  rw [hrestart]

end Device

/-! ### Networks -/

namespace Network

variable {α β : Type} {x : Dialogue α} {y : Dialogue β} {n n' : Network}

theorem device?_withFaults (n : Network) (faults : String → Faults) (host : String) :
    (n.withFaults faults).device? host = (n.device? host).map fun d => d.withFaults (faults host) :=
  ExtTreeMap.getElem?_map

/-- Faults that are lifted are gone. -/
theorem repaired_withFaults (n : Network) (faults : String → Faults) : (n.withFaults faults).repaired = n.repaired := by
  refine ext_device? fun host => ?_
  simp only [repaired, device?_withFaults, Option.map_map]
  rfl

/-- Whatever was refused to the work, doing it once more when the faults are lifted leaves, journals apart, what
it would have left without faults. -/
def Restarts (x : Dialogue α) : Prop :=
  ∀ (n : Network) (faults : String → Faults), let after := fun n => (x.run adapter n).2
    (after (after (n.withFaults faults)).repaired).quiet = (after n.repaired).quiet

/-- Pieces of work on different hosts restart together. -/
theorem restarts_fanOut {ι : Type} {targets : List ι} {place : ι → String} {work : ι → Dialogue (List Failure)}
    (hdistinct : (targets.map place).Nodup)
    (hwork : ∀ a ∈ targets, ∃ scope : Scope, (work a).Stays scope ∧ scope.Local (place a))
    (h : ∀ a ∈ targets, Device.Restarts (work a)) : Restarts (fanOut targets work) := by
  have hruns := run_fanOut_distinct (List.pairwise_map.1 hdistinct) hwork
  intro n faults after
  refine ext_device? fun host => ?_
  by_cases hhost : ∃ a ∈ targets, host = place a
  · obtain ⟨a, ha, rfl⟩ := hhost
    have hplace : ∀ n : Network, (after n).device? (place a) =
        (n.device? (place a)).map fun d => ((work a).run Device.adapter d).2 := fun n => (hruns n).2.1 a ha
    simp only [repaired, device?_quiet, device?_withFaults, hplace, Option.map_map]
    congr 1
    funext d
    exact (h a ha).quiet_run d (faults (place a))
  · have hothers : ∀ n : Network, (after n).device? host = n.device? host := fun n =>
      (hruns n).2.2 host fun a ha hplace => hhost ⟨a, ha, hplace.symm⟩
    simp only [repaired, device?_quiet, device?_withFaults, hothers, Option.map_map]
    rfl

/-- Work that differs in journals only restarts alike. -/
theorem Restarts.congr (h : Restarts x)
    (hxy : ∀ n, (y.run adapter n).2.quiet = (x.run adapter n).2.quiet) : Restarts y := by
  intro n faults after
  have hrepaired : (after (n.withFaults faults)).repaired.quiet =
      ((x.run adapter (n.withFaults faults)).2).repaired.quiet := by
    have hrepair : ∀ m : Network, m.repaired.quiet = m.quiet.repaired := fun m => ext_device? fun host => by
      simp only [repaired, device?_quiet, device?_withFaults, Option.map_map]
      rfl
    rw [hrepair, hrepair, hxy]
  calc (after (after (n.withFaults faults)).repaired).quiet
      = (x.run adapter (after (n.withFaults faults)).repaired).2.quiet := hxy _
    _ = (x.run adapter (x.run adapter (n.withFaults faults)).2.repaired).2.quiet := (shows_quiet.run x hrepaired).2
    _ = (x.run adapter n.repaired).2.quiet := h n faults
    _ = (after n.repaired).quiet := (hxy _).symm

end Network

end FabricProvision

import FabricProvision.Device.Network
import FabricProvision.Proofs.Dialogue.Clean
import FabricProvision.Provision.Fabric

/-!
# Runs of a whole fabric

A run is one of its stages after the other, of which the first two end it with their failures.  A run without
failures is one in which no stage has any (`configure_clean`).
-/

namespace FabricProvision.FabricRequest

open Dialogue Network

variable (polling : Polling) (force : Bool) (r : FabricRequest) (save : Bool)

/-- The last stage. -/
def persistAll : Dialogue (List Failure) := if save then fanOut r.switches (·.persist) else pure []

/-- The stage before it, from what is known of the principals. -/
def configureOverlayGateways (principals : Principals) : Dialogue (List Failure) :=
  fanOut (r.overlaySwitches principals) fun s => s.configureOverlayGateway force

theorem run_finish (n : Network) :
    let principals := (findPrincipals ∅ (r.clusters.update ++ r.clusters.create)).run adapter n
    let gateways := (r.configureOverlayGateways force principals.1).run adapter principals.2
    let saving := (r.persistAll save).run adapter gateways.2
    (r.finish force save).run adapter n = (gateways.1 ++ saving.1, saving.2) := by
  unfold finish persistAll configureOverlayGateways
  cases save with
  | true => simp only [run_bind, if_true]; rfl
  | false => simp only [run_bind, Bool.false_eq_true, if_false]; rfl

theorem run_configure (n : Network) :
    let switches := (r.configureSwitches force).run adapter n
    let clusters := (reconcileClusters polling force r.clusters).run adapter switches.2
    (r.configure polling force save).run adapter n =
      if switches.1 ≠ [] then switches
      else if clusters.1 ≠ [] then clusters
      else (r.finish force save).run adapter clusters.2 := by
  unfold configure
  rw [run_stop, run_stop]
  simp only [ite_not]

/-- A run without failures goes through all stages, each without failures. -/
theorem configure_clean {n : Network} (h : ((r.configure polling force save).run adapter n).1 = []) :
    let switches := (r.configureSwitches force).run adapter n
    let clusters := (reconcileClusters polling force r.clusters).run adapter switches.2
    let principals := (findPrincipals ∅ (r.clusters.update ++ r.clusters.create)).run adapter clusters.2
    let gateways := (r.configureOverlayGateways force principals.1).run adapter principals.2
    let saving := (r.persistAll save).run adapter gateways.2
    switches.1 = [] ∧ clusters.1 = [] ∧ gateways.1 = [] ∧ saving.1 = [] ∧
      (r.configure polling force save).run adapter n = ([], saving.2) := by
  intro switches clusters principals gateways saving
  have hrun : (r.configure polling force save).run adapter n = if switches.1 ≠ [] then switches
      else if clusters.1 ≠ [] then clusters else (gateways.1 ++ saving.1, saving.2) := by
    rw [run_configure, run_finish]
  rw [hrun] at h ⊢
  by_cases hs : switches.1 = []
  · by_cases hc : clusters.1 = []
    · simp only [hs, hc, ne_eq, not_true, if_false] at h ⊢
      obtain ⟨hg, hp⟩ := List.append_eq_nil_iff.1 h
      exact ⟨trivial, trivial, hg, hp, by rw [hg, hp]; rfl⟩
    · simp only [hs, hc, ne_eq, not_true, not_false_iff, if_false, if_true] at h
  · simp only [hs, ne_eq, not_false_iff, if_true] at h

end FabricProvision.FabricRequest

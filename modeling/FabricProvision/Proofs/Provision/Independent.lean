import FabricProvision.Proofs.Provision.Formed
import FabricProvision.Proofs.Provision.UpdateRuns

/-!
# Updates one attribute at a time

A cluster whose update names several attributes can as well be updated for one of them after the other, in any order
(`ClusterSpec.updates_independent`).  On every node that refuses nothing, each of these updates makes one revision,
and the revisions that are still to be made lead to the same configuration (`ClusterSpec.Awaits`).
-/

namespace FabricProvision

open Dialogue

namespace ClusterSpec

variable (c : ClusterSpec) (polling : Polling)

/-- The cluster where only one attribute is to be updated. -/
def naming (a : Attribute) : ClusterSpec := { c with updates := a.bit }

/-! ### Revisions that are still to be made -/

/-- From one network to the other, attributes are still to be revised on the nodes, which refuse nothing. -/
structure Awaits (order : List Attribute) (n n' : Network) : Prop where
  nodes : ∀ x ∈ c.nodes, ∃ d cfg, n.device? x.host = some d ∧ d.Faultless ∧
    c.reviseAll x order d.configuration = some cfg ∧
    n'.quiet.device? x.host = some { d.quiet with configuration := cfg }
  others : ∀ host, host ∉ c.hosts → n'.quiet.device? host = n.quiet.device? host

variable {c polling} {n n' : Network} {a : Attribute} {order : List Attribute}

private theorem Awaits.perm (h : c.Awaits order n n') {order' : List Attribute} (hperm : order.Perm order')
    (hapart : order.Pairwise Apart) : c.Awaits order' n n' := by
  refine ⟨fun x hx => ?_, h.others⟩
  rw [← reviseAll_perm hperm hapart]
  exact h.nodes x hx

/-- If no attribute is left, the networks only differ in their journals. -/
private theorem Awaits.quiet_eq (h : c.Awaits [] n n') : n'.quiet = n.quiet := by
  refine Network.ext_device? fun host => ?_
  by_cases hhost : host ∈ c.hosts
  · obtain ⟨x, hx, rfl⟩ := List.mem_map.1 hhost
    obtain ⟨d, cfg, hd, -, hcfg, hd'⟩ := h.nodes x hx
    cases hcfg
    rw [hd', Network.device?_quiet, hd]
    rfl
  · exact h.others host hhost

/-- An update of which only polls fail has made all revisions. -/
private theorem awaits_updateAll (hdistinct : c.hosts.Nodup) (hnodes : ∀ x ∈ c.nodes, n.If x.host Device.Faultless)
    (hclean : ∀ f ∈ ((c.updateAll polling).run Network.adapter n).1, f.OfPolling) :
    c.Awaits c.updates.attributes n ((c.updateAll polling).run Network.adapter n).2 := by
  refine ⟨fun x hx => ?_, fun host hhost => ?_⟩
  · obtain ⟨d, hd, hreport⟩ :=
      c.device_of_updateOn x (c.updateOn_clean polling hdistinct hx fun f hf _ => hclean f hf)
    obtain ⟨d', hd', hquiet⟩ := c.device?_updateAll polling hdistinct hx hd
    refine ⟨d, _, hd, hnodes x hx d hd, revised_of_updateOn hreport, ?_⟩
    rw [Network.device?_quiet, hd', Option.map_some, hquiet, Device.quiet_run]
  · obtain ⟨-, -, hothers⟩ := c.run_updateAll polling hdistinct n
    rw [Network.device?_quiet, Network.device?_quiet, hothers host hhost]

variable (polling) in
/-- An update for the first attribute that is left makes its revision, and only polls can fail. -/
private theorem Awaits.step (hdistinct : c.hosts.Nodup) (h : c.Awaits (a :: order) n n') :
    let r := ((c.naming a).updateAll polling).run Network.adapter n
    (∀ f ∈ r.1, f.OfPolling) ∧ c.Awaits order r.2 n' := by
  intro r
  obtain ⟨⟨polls, hreports, hpolls⟩, -, hothers⟩ := (c.naming a).run_updateAll polling hdistinct n
  have hnode : ∀ x ∈ c.nodes, ∃ d mid cfg, n.device? x.host = some d ∧ d.Faultless ∧
      c.reviseAll x order mid = some cfg ∧ n'.quiet.device? x.host = some { d.quiet with configuration := cfg } ∧
      (((c.naming a).updateOn x).run Device.adapter d).1 = [] ∧
      (((c.naming a).updateOn x).run Device.adapter d).2.quiet = { d.quiet with configuration := mid } := by
    intro x hx
    obtain ⟨d, cfg, hd, hfaultless, hcfg, hd'⟩ := h.nodes x hx
    obtain ⟨mid, hmid, hrest⟩ := Option.bind_eq_some_iff.1 hcfg
    have hrevised : (c.naming a).reviseAll x (c.naming a).updates.attributes d.configuration = some mid := by
      show (c.naming a).reviseAll x a.bit.attributes d.configuration = some mid
      rw [UpdateBits.attributes_bit]
      exact Option.bind_eq_some_iff.2 ⟨mid, hmid, rfl⟩
    exact ⟨d, mid, cfg, hd, hfaultless, hrest, hd',
      updateOn_of_revised (UpdateBits.hasUpdate_bit a) hfaultless.login hfaultless.operations hrevised⟩
  refine ⟨fun f hf => ?_, fun x hx => ?_, fun host hhost => ?_⟩
  · rw [hreports] at hf
    rcases List.mem_append.1 hf with hf | hf
    · obtain ⟨x, hx, hf⟩ := List.mem_flatMap.1 hf
      obtain ⟨d, -, -, hd, -, -, -, hreport, -⟩ := hnode x hx
      rw [Network.run_local ((c.naming a).stays_updateOn x) (nodeScope_local x) hd] at hf
      rw [show _ = [] from hreport] at hf
      cases hf
    · exact (hpolls f hf).1
  · obtain ⟨d, mid, cfg, hd, hfaultless, hrest, hd', -, hquiet⟩ := hnode x hx
    obtain ⟨e, he, hequiet⟩ := (c.naming a).device?_updateAll polling hdistinct hx hd
    rw [hquiet] at hequiet
    obtain ⟨hlogin, hfailing, hcfg⟩ := Device.quiet_parts hequiet
    refine ⟨e, cfg, he, ⟨hlogin.trans hfaultless.login, hfailing.trans hfaultless.operations⟩, ?_, ?_⟩
    · rw [hcfg]
      exact hrest
    · rw [hd', hequiet]
  · rw [h.others host hhost, Network.device?_quiet, Network.device?_quiet, hothers host hhost]

/-- Updates for the attributes that are left, one after the other, make their revisions. -/
private theorem Awaits.run (hdistinct : c.hosts.Nodup) (h : c.Awaits order n n') :
    let r := (fanOut order fun a => (c.naming a).updateAll polling).run Network.adapter n
    (∀ f ∈ r.1, f.OfPolling) ∧ r.2.quiet = n'.quiet := by
  induction order generalizing n with
  | nil => exact ⟨nofun, h.quiet_eq.symm⟩
  | cons a rest ih =>
    intro r
    obtain ⟨hfirst, hawaits⟩ := h.step polling hdistinct
    obtain ⟨hrest, hquiet⟩ := ih hawaits
    have hr : r = _ := run_collect_cons Network.adapter ((c.naming a).updateAll polling)
      (rest.map fun a => (c.naming a).updateAll polling) n
    rw [hr]
    exact ⟨fun f hf => (List.mem_append.1 hf).elim (hfirst f) (hrest f), hquiet⟩

/-- What an update names can be updated one attribute after the other in any order, unless it names ports to add and
ports to take out.  If nodes with different addresses refuse nothing and the update fails in nothing but polls, then
so do the single updates, and they leave every device as the update leaves it, journals apart. -/
theorem updates_independent (c : ClusterSpec) (polling : Polling) (force : Bool) (hdistinct : c.hosts.Nodup)
    (hapart : ¬ (c.updates.contains .memberAdd = true ∧ c.updates.contains .memberDelete = true)) (n : Network)
    (hnodes : ∀ x ∈ c.nodes, n.If x.host Device.Faultless)
    (hclean : ∀ f ∈ ((c.reconcile polling .update force).run Network.adapter n).1, f.OfPolling)
    {order : List Attribute} (horder : c.updates.attributes.Perm order) :
    let single := (fanOut order fun a => (c.naming a).reconcile polling .update force).run Network.adapter n
    (∀ f ∈ single.1, f.OfPolling) ∧
      single.2.quiet = ((c.reconcile polling .update force).run Network.adapter n).2.quiet :=
  ((awaits_updateAll hdistinct hnodes hclean).perm horder (pairwise_apart hapart)).run hdistinct

/-- The pair with another partner for the first leaf, which is to get a third port. -/
def extended : ClusterSpec where
  name := "pair"
  id := 1
  controlVlan := 4090
  controlVe := 4090
  nodes := [{ pairNode "leaf-1" "10.3.0.0/31" "10.3.0.1" "10.0.0.2" with connectingPorts := ["0/49"] },
    pairNode "leaf-2" "10.2.0.1/31" "10.2.0.0" "10.0.0.1"]
  updates := .peerIp ||| .remotePeerIp ||| .memberAdd

/-- The addresses can be changed after the ports. -/
theorem pair_extended :
    let single := (fanOut [.memberAdd, .peerIp, .remotePeerIp] fun a =>
      (extended.naming a).reconcile {} .update false).run Network.adapter pairRun.2
    (∀ f ∈ single.1, f.OfPolling) ∧
      single.2.quiet = ((extended.reconcile {} .update false).run Network.adapter pairRun.2).2.quiet := by
  have hnodes : ∀ x ∈ extended.nodes, pairRun.2.At x.host Device.Faultless := by decide +kernel
  refine updates_independent extended {} false (by decide) (by decide) pairRun.2 (fun x hx d hd => ?_)
    (by decide +kernel) (by decide)
  obtain ⟨e, he, hfaultless⟩ := hnodes x hx
  cases hd.symm.trans he
  exact hfaultless

end ClusterSpec

end FabricProvision

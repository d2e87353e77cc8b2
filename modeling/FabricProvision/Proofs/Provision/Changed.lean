import FabricProvision.Proofs.Dialogue.Events
import FabricProvision.Proofs.Provision.Formed
import FabricProvision.Proofs.Provision.Sent
import FabricProvision.Proofs.Provision.UpdateRuns

/-!
# What an update changes

Wherever an update of a node is stopped, it has only changed what its bits name (`ClusterSpec.Touches`), since that is
so for each of its moves.  If it is not stopped, then each attribute that it names is as desired
(`ClusterSpec.Attains`): what is revised after an attribute is apart from it, so the attribute may as well have been
the last one.  Only the ports that are to be added are taken out again if they are named for both.
-/

namespace FabricProvision

open Dialogue

namespace ClusterSpec

variable (c : ClusterSpec) (x : ClusterNode)

/-! ### Changes that are named -/

/-- Only ports and the speed of a port-channel have changed, as far as the update names them. -/
structure Fits (p q : PortChannel) : Prop where
  grown : ∀ port ∈ q.members, port ∈ p.members ∨ c.updates.contains .memberAdd = true ∧ port ∈ x.connectingPorts
  shrunk : ∀ port ∈ p.members, port ∈ q.members ∨ c.updates.contains .memberDelete = true ∧ port ∈ x.connectingPorts
  speed : q.speed = p.speed ∨ c.updates.contains .speed = true

/-- Of a node that had a configuration in the beginning, only what the update names has changed: the address of one
VE, the partner and the deployment of the cluster object, and the peer port-channel. -/
structure Touches (start cfg : Configuration) : Prop extends Alike start cfg where
  others : cfg = { start with
    ves := cfg.ves
    cluster := cfg.cluster
    deployed := cfg.deployed
    portChannels := cfg.portChannels }
  ves : cfg.ves = start.ves ∨
    c.updates.contains .remotePeerIp = true ∧ ∃ address, cfg.ves = start.ves.insert (c.movedVe start) address
  partner : cfg.cluster = start.cluster ∧ cfg.deployed = start.deployed ∨ c.updates.contains .peerIp = true
  portChannels : cfg.portChannels = start.portChannels ∨
    ∃ p q, start.portChannels[x.peerInterface.name]? = some p ∧ c.Fits x p q ∧
      cfg.portChannels = start.portChannels.insert x.peerInterface.name q

variable {c x} {p q r : PortChannel} {start cfg cfg' : Configuration}

private theorem Fits.trans (h : c.Fits x p q) (h' : c.Fits x q r) : c.Fits x p r where
  grown port hport := (h'.grown port hport).elim (h.grown port) .inr
  shrunk port hport := (h.shrunk port hport).elim (h'.shrunk port) .inr
  speed := by
    rcases h'.speed with hspeed | hset
    · rw [hspeed]
      exact h.speed
    · exact .inr hset

private theorem Rebundles.fits (h : c.Rebundles x p q) : c.Fits x p q := by
  cases h with
  | add hset hport =>
    refine ⟨fun port hmem => ?_, fun port hmem => .inl (Std.ExtTreeSet.mem_insert.2 (.inr hmem)), .inl rfl⟩
    rcases Std.ExtTreeSet.mem_insert.1 hmem with heq | hmem
    · cases Std.LawfulEqOrd.compare_eq_iff_eq.1 heq
      exact .inr ⟨hset, hport⟩
    · exact .inl hmem
  | @delete hset port hport =>
    refine ⟨fun other hmem => .inl (Std.ExtTreeSet.mem_erase.1 hmem).2, fun other hmem => ?_, .inl rfl⟩
    by_cases heq : port = other
    · subst heq
      exact .inr ⟨hset, hport⟩
    · exact .inl (Std.ExtTreeSet.mem_erase.2 ⟨fun h => heq (Std.LawfulEqOrd.compare_eq_iff_eq.1 h), hmem⟩)
  | speed hset => exact ⟨fun _ => .inl, fun _ => .inl, .inr hset⟩

private theorem touches_refl (cfg : Configuration) : c.Touches x cfg cfg where
  toAlike := alike_refl cfg
  others := rfl
  ves := .inl rfl
  partner := .inl ⟨rfl, rfl⟩
  portChannels := .inl rfl

/-- Each move of an update only changes what is named. -/
private theorem Touches.moves (h : c.Touches x start cfg) (hmoves : c.Moves x start cfg cfg') :
    c.Touches x start cfg' := by
  have hothers := h.others
  cases hmoves with
  | idle => exact h
  | ve hset address =>
    refine ⟨⟨h.controlVlans, h.cluster⟩, by rw [hothers], .inr ⟨hset, address, ?_⟩, h.partner, h.portChannels⟩
    rcases h.ves with hves | ⟨-, former, hves⟩
    · rw [hves]
    · rw [hves, insert_insert]
  | partner hset hobject peerIp deployed =>
    exact ⟨h.toAlike.partner c hobject peerIp deployed, by rw [hothers], h.ves, .inr hset, h.portChannels⟩
  | @channel _ p q hp hq =>
    refine ⟨⟨h.controlVlans, h.cluster⟩, by rw [hothers], h.ves, h.partner, .inr ?_⟩
    rcases h.portChannels with hchannels | ⟨first, former, hfirst, hfits, hchannels⟩
    · rw [hchannels] at hp ⊢
      exact ⟨p, q, hp, hq.fits, rfl⟩
    · rw [hchannels, Std.ExtTreeMap.getElem?_insert_self] at hp
      cases hp
      exact ⟨first, q, hfirst, hfits.trans hq.fits, by rw [hchannels, insert_insert]⟩

/-- Wherever it is stopped, the update of a node has only changed what it names. -/
private theorem touches_updateOn (d : Device) :
    c.Touches x d.configuration ((c.updateOn x).run Device.adapter d).2.configuration := by
  by_cases hset : c.updates.hasUpdate = true
  · have hmaintains : Device.Maintains (c.Touches x d.configuration) (fun _ => True) (c.updateOn x) := by
      unfold updateOn
      rw [if_pos hset]
      exact Device.maintains_session (NodeWork.maintains_failures
        (maintains_update Touches.moves fun _ h => h.toAlike))
    exact (hmaintains d (touches_refl _)).1
  · rw [updateOn_of_empty (by simpa using hset)]
    exact touches_refl _

/-! ### Changes that are made -/

variable (c x) in
/-- The attributes that the update names are as desired, on a node that had a configuration in the beginning. -/
structure Attains (start cfg : Configuration) : Prop where
  remotePeerIp : c.updates.contains .remotePeerIp = true → cfg.ves[c.movedVe start]? = some (some x.remotePeerIp)
  peerIp : c.updates.contains .peerIp = true →
    cfg.deployed = true ∧ ∃ object, cfg.cluster = some object ∧ object.peerIp = x.peerIp
  memberAdd : c.updates.contains .memberAdd = true → c.updates.contains .memberDelete = false →
    ∀ port ∈ x.connectingPorts, ∃ p, cfg.portChannels[x.peerInterface.name]? = some p ∧ port ∈ p.members
  memberDelete : c.updates.contains .memberDelete = true →
    ∀ port ∈ x.connectingPorts, ∃ p, cfg.portChannels[x.peerInterface.name]? = some p ∧ port ∉ p.members
  speed : c.updates.contains .speed = true →
    ∃ p, cfg.portChannels[x.peerInterface.name]? = some p ∧ p.speed = x.peerInterface.speed

/-- An attribute might have been revised last, unless ports are taken out after they were added. -/
private theorem exists_revise {a : Attribute} (hset : c.updates.contains a.bit = true)
    (hkept : a = .memberAdd → c.updates.contains .memberDelete = false)
    (h : c.reviseAll x c.updates.attributes start = some cfg) : ∃ former, c.revise x a former = some cfg := by
  obtain ⟨before, after, hsplit⟩ := List.append_of_mem (UpdateBits.mem_attributes.2 hset)
  have hafter : ∀ b ∈ after, Apart a b := by
    have hpairwise := pairwise_attributes c.updates
    rw [hsplit, List.pairwise_append, List.pairwise_cons] at hpairwise
    intro b hb
    refine (hpairwise.2.1.1 b hb).resolve_right ?_
    rintro ⟨ha, rfl⟩
    have hdelete : c.updates.contains .memberDelete = true :=
      UpdateBits.mem_attributes.1 (hsplit ▸ List.mem_append_right _ (List.mem_cons_of_mem _ hb))
    exact absurd (hdelete.symm.trans (hkept ha)) (by decide)
  rw [hsplit, reviseAll_append, reviseAll_last hafter] at h
  obtain ⟨mid, -, hmid⟩ := Option.bind_eq_some_iff.1 h
  rw [reviseAll_append] at hmid
  obtain ⟨former, -, hformer⟩ := Option.bind_eq_some_iff.1 hmid
  obtain ⟨last, hlast, hcfg⟩ := Option.bind_eq_some_iff.1 hformer
  cases hcfg
  exact ⟨former, hlast⟩

/-- Something of the peer port-channel is only revised if it is there. -/
private theorem exists_refit {a : Attribute} {former : Configuration} (hrefits : refits x a = true)
    (h : reviseChannel x a former = some cfg) :
    ∃ p q, refit x a p = some q ∧ cfg.portChannels[x.peerInterface.name]? = some q := by
  unfold reviseChannel at h
  rcases hchannel : former.portChannels[x.peerInterface.name]? with _ | p <;> rw [hchannel] at h
  · simp only [hrefits, if_true] at h
    cases h
  · obtain ⟨q, hq, rfl⟩ := Option.map_eq_some_iff.1 h
    exact ⟨p, q, hq, Std.ExtTreeMap.getElem?_insert_self⟩

private theorem refits_of_mem {a : Attribute} {port : String} (ha : a = .memberAdd ∨ a = .memberDelete)
    (hport : port ∈ x.connectingPorts) : refits x a = true := by
  have hsome : x.connectingPorts.isEmpty = false := List.isEmpty_eq_false_iff.2 (List.ne_nil_of_mem hport)
  rcases ha with rfl | rfl <;> simp only [refits, hsome, Bool.not_false]

/-- A node that took the revision of all attributes has them as desired. -/
private theorem attains_of_revised (halike : Alike start cfg)
    (h : c.reviseAll x c.updates.attributes start = some cfg) : c.Attains x start cfg where
  remotePeerIp hset := by
    obtain ⟨former, hformer⟩ := exists_revise (a := .remotePeerIp) hset nofun h
    rw [← halike.movedVe_eq]
    cases hformer
    exact Std.ExtTreeMap.getElem?_insert_self
  peerIp hset := by
    obtain ⟨former, hformer⟩ := exists_revise (a := .peerIp) hset nofun h
    obtain ⟨object, -, rfl⟩ := Option.map_eq_some_iff.1 hformer
    exact ⟨rfl, _, rfl, rfl⟩
  memberAdd hset hkept port hport := by
    obtain ⟨former, hformer⟩ := exists_revise (a := .memberAdd) hset (fun _ => hkept) h
    obtain ⟨p, q, hq, hchannel⟩ := exists_refit (refits_of_mem (.inl rfl) hport) hformer
    cases hq
    exact ⟨_, hchannel, Std.ExtTreeSet.mem_insertMany_list.2 (.inr (by simpa using hport))⟩
  memberDelete hset port hport := by
    obtain ⟨former, hformer⟩ := exists_revise (a := .memberDelete) hset nofun h
    obtain ⟨p, q, hq, hchannel⟩ := exists_refit (refits_of_mem (.inr rfl) hport) hformer
    obtain ⟨members, hmembers, rfl⟩ := Option.map_eq_some_iff.1 hq
    exact ⟨_, hchannel, fun hmem => ((mem_takeOut hmembers port).1 hmem).2 hport⟩
  speed hset := by
    obtain ⟨former, hformer⟩ := exists_revise (a := .speed) hset nofun h
    obtain ⟨p, q, hq, hchannel⟩ := exists_refit (a := .speed) rfl hformer
    cases hq
    exact ⟨_, hchannel, rfl⟩

/-! ### Whole clusters -/

variable (c) (polling : Polling)

/-- An update that names no attribute says so once for each node, and only asks for the status of the nodes. -/
private theorem updateAll_of_empty (hnone : c.updates.attributes = []) (hdistinct : c.hosts.Nodup) (n : Network) :
    ((c.updateAll polling).run Network.adapter n).1.filter Failure.isUnsupported =
        c.nodes.map (fun x => ⟨"Update management cluster properties", x.host, .unsupportedUpdate c.updates⟩) ∧
      ∀ host op, .operation host op ∈ (c.updateAll polling).events Network.adapter n →
        host ∈ c.hosts ∧ op = .getClusterStatus := by
  have hset : c.updates.hasUpdate = false := by
    rw [← Bool.not_eq_true, UpdateBits.hasUpdate_iff, not_not]
    exact hnone
  have hstays : (c.updateAll polling).Stays (Scope.asking (· ∈ c.hosts)) := by
    refine stays_collect fun work hwork => ?_
    simp only [List.mem_cons, List.not_mem_nil, or_false] at hwork
    rcases hwork with rfl | rfl
    · refine stays_fanOut fun x _ => ?_
      rw [updateOn_of_empty hset]
      exact within_pure trivial
    · exact c.stays_pollMembers polling
  refine ⟨?_, fun host op hop => hstays.events n _ hop⟩
  obtain ⟨⟨polls, hreports, hpolls⟩, -⟩ := c.run_updateAll polling hdistinct n
  have hsilent : polls.filter Failure.isUnsupported = [] :=
    List.filter_eq_nil_iff.2 fun f hf => by simp [(hpolls f hf).2]
  rw [hreports, List.filter_append, hsilent, List.append_nil]
  simp only [updateOn_of_empty hset, run_pure]
  rw [← List.map_eq_flatMap, List.filter_eq_self]
  simp [Failure.isUnsupported]

/-- An update of a cluster whose nodes have different addresses changes what it names, and nothing else, whatever is
refused to it.  No other device changes.  If it names no attribute, then it says so once for each node, and only asks
for the status of the nodes.  A node about which nothing is reported but failures of polls has what the update names
as desired. -/
theorem update_changes (force : Bool) (hdistinct : c.hosts.Nodup) (n : Network) :
    let update := c.reconcile polling .update force
    let r := update.run Network.adapter n
    (∀ host, host ∉ c.hosts → r.2.device? host = n.device? host) ∧
      (∀ x ∈ c.nodes, Option.Rel (Device.Reconfigured (c.Touches x)) (n.device? x.host) (r.2.device? x.host)) ∧
      (c.updates.attributes = [] →
        r.1.filter Failure.isUnsupported = c.nodes.map (fun x =>
          ⟨"Update management cluster properties", x.host, .unsupportedUpdate c.updates⟩) ∧
        ∀ host op, .operation host op ∈ update.events Network.adapter n → host ∈ c.hosts ∧ op = .getClusterStatus) ∧
      ∀ x ∈ c.nodes, (∀ f ∈ r.1, f.host = x.host → f.OfPolling) →
        ∃ d d', n.device? x.host = some d ∧ r.2.device? x.host = some d' ∧
          c.Attains x d.configuration d'.configuration := by
  intro update r
  obtain ⟨-, hnodes, hothers⟩ := c.run_updateAll polling hdistinct n
  refine ⟨hothers, fun x hx => ?_, fun hnone => c.updateAll_of_empty polling hnone hdistinct n, fun x hx hclean => ?_⟩
  · rcases hd : n.device? x.host with _ | d
    · have hquiet := hnodes x hx
      rw [Network.device?_quiet, hd] at hquiet
      have hd' : r.2.device? x.host = none := Option.map_eq_none_iff.1 hquiet
      rw [hd']
      exact .none
    · obtain ⟨d', hd', hquiet⟩ := c.device?_updateAll polling hdistinct hx hd
      have hrel : r.2.device? x.host = some d' := hd'
      rw [hrel]
      exact .some (Device.reconfigured_of_quiet hquiet (touches_updateOn d))
  · obtain ⟨d, hd, hreport⟩ := c.device_of_updateOn x (c.updateOn_clean polling hdistinct hx hclean)
    obtain ⟨d', hd', hquiet⟩ := c.device?_updateAll polling hdistinct hx hd
    refine ⟨d, d', hd, hd', ?_⟩
    rw [(Device.parts_of_quiet hquiet).2.2]
    exact attains_of_revised (touches_updateOn d).toAlike (revised_of_updateOn hreport)

/-- The pair, whose leaves are to be at another speed and without one of their ports. -/
def unplugged : ClusterSpec where
  name := "pair"
  id := 1
  controlVlan := 4090
  controlVe := 4090
  nodes := pair.nodes.map fun x =>
    { x with peerInterface := ⟨.portChannel, "64", "40000"⟩, connectingPorts := ["0/48"] }
  updates := .memberDelete ||| .speed

/-- The update where the second leaf cannot be reached. -/
def unpluggedRun : List Failure × Network :=
  (unplugged.reconcile {} .update false).run Network.adapter
    (pairRun.2.withFaults fun host => { refusesLogin := host = "leaf-2" })

/-- Only the first leaf loses the port. -/
theorem pair_unplugged :
    unplugged.hosts.Nodup ∧ (∀ f ∈ unpluggedRun.1, f.host = "leaf-1" → f.OfPolling) ∧
      unpluggedRun.2.At "leaf-1" fun d => ∃ p, d.configuration.portChannels["64"]? = some p ∧ "0/48" ∉ p.members := by
  have hdistinct : unplugged.hosts.Nodup := by decide
  have hclean : ∀ f ∈ unpluggedRun.1, f.host = "leaf-1" → f.OfPolling := by decide +kernel
  obtain ⟨-, -, -, hattains⟩ := update_changes unplugged {} false hdistinct
    (pairRun.2.withFaults fun host => { refusesLogin := host = "leaf-2" })
  obtain ⟨_, d', -, hd', h⟩ := hattains _ (List.mem_cons_self ..) hclean
  exact ⟨hdistinct, hclean, d', hd', h.memberDelete (by decide) "0/48" (by decide)⟩

end ClusterSpec

end FabricProvision

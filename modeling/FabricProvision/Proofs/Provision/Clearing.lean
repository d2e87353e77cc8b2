import FabricProvision.Proofs.Device.Journals
import FabricProvision.Proofs.Provision.Clusters

/-!
# The clear phase

With force, creating a cluster begins with a clear phase: its nodes are cleared one after the other, and then each of
them is polled until it is alone.  Whether a creation has a clear phase can be seen from its events
(`ClusterSpec.clearedIf_create`): without force nothing is asked about clusters that are there, and nothing is taken
away.
-/

namespace FabricProvision

open Dialogue Network

/-- Whether an event belongs to clearing: the question for the cluster that is there, or taking something away. -/
def Event.IsClearing : Event → Prop
  | login _ _ => False
  | operation _ op => op = .getCluster ∨ op.clears = true

namespace ClusterSpec

variable (c : ClusterSpec) (polling : Polling) {n m : Network}

/-! ### Clearing nodes -/

/-- The events of clearing a node.  If the node accepts a login, it is asked for the cluster that is there; what is
found of it goes, and so does all that the cluster desires, whatever fails on the way. -/
def Clearing (n : Network) (x : ClusterNode) (es : List Event) : Prop :=
  if (n.login x.host).isOk then
    ∃ found : List Operation, (∀ op ∈ found, (∃ vlan, op = .getControlVlan vlan) ∨ op.clears = true) ∧
      es = .login x.host true :: (.getCluster :: found ++ c.desiredDeletions x).map (.operation x.host)
  else es = [.login x.host false]

private theorem events_attempts (host : String) (ops : List Operation) (n : Network) :
    (ops.forM (attempt host)).events adapter n = ops.map (.operation host) := by
  induction ops generalizing n with
  | nil => rfl
  | cons op rest ih =>
    rw [events_forM_cons, events_attempt, ih]
    rfl

private theorem events_liveDeletions (x : ClusterNode) (live : ClusterObject) (n : Network) :
    ∃ asked : List Operation, (∀ op ∈ asked, ∃ vlan, op = .getControlVlan vlan) ∧
      (liveDeletions x live).events adapter n = asked.map (.operation x.host) := by
  unfold liveDeletions liveVlanDeletions
  rw [events_bind, events_pure, List.append_nil]
  split
  · exact ⟨[], by simp, rfl⟩
  · rename_i vlan _
    refine ⟨[.getControlVlan vlan], by simp, ?_⟩
    rw [events_bind, events_query]
    split <;> rfl

private theorem events_clear (x : ClusterNode) (n : Network) :
    ∃ found : List Operation, (∀ op ∈ found, (∃ vlan, op = .getControlVlan vlan) ∨ op.clears = true) ∧
      (c.clear x).events adapter n =
        (.getCluster :: found ++ c.desiredDeletions x).map (.operation x.host) := by
  unfold clear
  rw [events_bind, events_query]
  generalize (query x.host .getCluster Response.toCluster).run adapter n = r
  obtain ⟨answer, n'⟩ := r
  dsimp only
  cases answer.toOption.join with
  | none =>
    refine ⟨[], by simp, ?_⟩
    rw [events_bind, events_attempts]
    rfl
  | some live =>
    dsimp only
    obtain ⟨asked, hasked, hevents⟩ := events_liveDeletions x live n'
    have hscope : Clears ⟨fun _ => True, fun _ _ => True⟩ x.host :=
      ⟨trivial, trivial, fun _ => trivial, fun _ _ => trivial⟩
    have hdeletions := (within_liveDeletions hscope live).run adapter n'
    rw [events_bind, events_attempts, hevents]
    refine ⟨asked ++ ((liveDeletions x live).run adapter n').1, fun op hop => ?_, by simp⟩
    rcases List.mem_append.1 hop with hop | hop
    · exact .inl (hasked op hop)
    · exact .inr (hdeletions op hop)

private theorem clearing_clearOn (h : n.SameLogins m) (x : ClusterNode) :
    c.Clearing n x ((c.clearOn x).events adapter m) := by
  have hlogin : (adapter.login x.host x.credentials m).1 = n.login x.host := h x.host
  unfold clearOn Clearing
  rw [events_bind, events_connect, run_connect, hlogin]
  cases n.login x.host with
  | error e => rfl
  | ok answer =>
    obtain ⟨found, hfound, hevents⟩ := c.events_clear x m
    refine ⟨found, hfound, ?_⟩
    rw [← hevents]
    rfl

private theorem clearing_all (h : n.SameLogins m) (nodes : List ClusterNode) :
    ∃ clears, List.Forall₂ (c.Clearing n) nodes clears ∧
      (nodes.forM c.clearOn).events adapter m = clears.flatten := by
  induction nodes generalizing m with
  | nil => exact ⟨[], .nil, rfl⟩
  | cons x rest ih =>
    obtain ⟨clears, hclears, hevents⟩ := ih (h.run (c.clearOn x))
    refine ⟨_ :: clears, .cons (c.clearing_clearOn h x) hclears, ?_⟩
    rw [events_forM_cons, hevents]
    rfl

/-! ### Polling nodes -/

/-- The events of polling a node: if it accepts a login, it is asked for the status, at most as often as there is time
for. -/
def Polled (polling : Polling) (n : Network) (x : ClusterNode) (es : List Event) : Prop :=
  if (n.login x.host).isOk then
    ∃ k ≤ polling.queries, es = .login x.host true :: List.replicate k (.operation x.host .getClusterStatus)
  else es = [.login x.host false]

private theorem events_pollMembership (host : String) (intended : List String) (queries : Nat) (n : Network) :
    ∃ k ≤ queries, (pollMembership host intended queries).events adapter n =
      List.replicate k (.operation host .getClusterStatus) := by
  induction queries generalizing n with
  | zero => exact ⟨0, Nat.le_refl 0, rfl⟩
  | succ queries ih =>
    rw [pollMembership, events_bind, events_query]
    generalize (query host .getClusterStatus Response.toClusterStatus).run adapter n = r
    obtain ⟨answer, n'⟩ := r
    -- Either this is the last question, or the others follow.
    obtain ⟨k, hk, hlater⟩ := ih n'
    have hgoes : ∃ k ≤ queries + 1, [.operation host .getClusterStatus] ++
        (pollMembership host intended queries).events adapter n' =
          List.replicate k (.operation host .getClusterStatus) := ⟨k + 1, by omega, by rw [hlater]; rfl⟩
    cases answer with
    | error e => exact hgoes
    | ok status =>
      dsimp only
      split
      · exact ⟨1, by omega, rfl⟩
      · exact hgoes

private theorem polled_pollOn (h : n.SameLogins m) (intended : List String) (x : ClusterNode) :
    Polled polling n x ((pollOn polling intended x).events adapter m) := by
  have hlogin : (adapter.login x.host x.credentials m).1 = n.login x.host := h x.host
  unfold pollOn Polled
  rw [events_session, hlogin]
  cases n.login x.host with
  | error e => rfl
  | ok answer =>
    obtain ⟨k, hk, hevents⟩ := events_pollMembership x.host intended polling.queries m
    refine ⟨k, hk, ?_⟩
    rw [← hevents, events_step]
    rfl

/-! ### Whole clusters -/

/-- Events that begin with a clear phase: all nodes are cleared and then polled, each in its turn, and what follows
clears nothing more. -/
def ClearsFirst (n : Network) (es : List Event) : Prop :=
  ∃ clears polls later, es = clears.flatten ++ polls.flatten ++ later ∧ List.Forall₂ (c.Clearing n) c.nodes clears ∧
    List.Forall₂ (Polled polling n) c.nodes polls ∧ ∀ e ∈ later, ¬ e.IsClearing

/-- Creation on the nodes, and questions for the status. -/
private def keepingScope : Scope := ⟨fun _ => True, fun _ op => op ≠ .getCluster ∧ op.clears = false⟩

private theorem keeping_of_createSends (x : ClusterNode) :
    ∀ y ∈ c.createSends x, y.2 ≠ .getCluster ∧ y.2.clears = false := by
  intro y hy
  simp only [createSends, List.mem_append, List.mem_cons, List.mem_map, List.not_mem_nil, or_false] at hy
  rcases hy with ((rfl | rfl | rfl) | ⟨port, -, rfl⟩) | rfl | rfl | rfl | rfl <;> exact ⟨by simp, rfl⟩

/-- Without force nothing is cleared. -/
private theorem not_clearing_create (m : Network) :
    ∀ e ∈ (c.create polling false).events adapter m, ¬ e.IsClearing := by
  have hcreate : (fanOut c.nodes c.createOn).Stays keepingScope :=
    stays_fanOut fun x _ => (c.stays_createOn x).widen ⟨fun _ _ => trivial, fun _ op ⟨_, operation, hop⟩ =>
      c.keeping_of_createSends x (operation, op) hop⟩
  have hpolls : (c.pollMembers polling).Stays keepingScope :=
    (c.stays_pollMembers polling).widen ⟨fun _ _ => trivial, fun _ op hop => by
      cases show op = .getClusterStatus from hop.2
      exact ⟨by simp, rfl⟩⟩
  have hstays : (c.create polling false).Stays keepingScope := stays_create_of (by simp) hcreate hpolls
  intro e he
  have hallows := hstays.events m e he
  cases e with
  | login host accepted => exact fun h => h
  | operation host op =>
    rintro (hop | hop)
    · exact hallows.1 hop
    · rw [show op.clears = false from hallows.2] at hop
      cases hop

private theorem events_create (hsize : c.nodes.length ≤ maxNodes) (m : Network) :
    let created := (fanOut c.nodes c.createOn).run adapter m
    (c.create polling false).events adapter m = (fanOut c.nodes c.createOn).events adapter m ++
      if created.1 = [] then (c.pollMembers polling).events adapter created.2 else [] := by
  intro created
  unfold created
  rw [c.create_unforced polling hsize, events_bind]
  generalize (fanOut c.nodes c.createOn).run adapter m = r
  obtain ⟨errors, m'⟩ := r
  cases errors with
  | nil => simp only [List.isEmpty_nil, if_true, events_bind, events_pure, List.append_nil]
  | cons f rest => rfl

/-- With force the nodes are cleared first; apart from that the cluster is created as it is without. -/
private theorem events_create_forced (hsize : c.nodes.length ≤ maxNodes) (m : Network) :
    (c.create polling true).events adapter m = (c.clearAndPoll polling).events adapter m ++
      (c.create polling false).events adapter ((c.clearAndPoll polling).run adapter m).2 := by
  rw [c.create_forced polling hsize, events_bind, events_bind, c.events_create polling hsize]
  generalize (fanOut c.nodes c.createOn).run adapter ((c.clearAndPoll polling).run adapter m).2 = r
  obtain ⟨errors, m'⟩ := r
  cases errors with
  | nil => simp only [List.isEmpty_nil, if_true, events_bind, events_pure, List.append_nil]
  | cons f rest => rfl

private theorem clearsFirst_create (hsize : c.nodes.length ≤ maxNodes) (h : n.SameLogins m) :
    c.ClearsFirst polling n ((c.create polling true).events adapter m) := by
  obtain ⟨clears, hclears, hcleared⟩ := c.clearing_all h c.nodes
  obtain ⟨polls, hpolled, hturns⟩ := inTurn_fanOut adapter c.nodes (fun x => pollOn polling [x.host] x)
    (c.clearAll.run adapter m).2
  have hpolls := hturns.each (R := Polled polling n) (fun _ _ hs => hs.run _) (h.run c.clearAll)
    fun x _ _ hs => polled_pollOn polling hs [x.host] x
  have hlater := c.not_clearing_create polling ((c.clearAndPoll polling).run adapter m).2
  refine ⟨clears, polls, _, ?_, hclears, hpolls, hlater⟩
  rw [c.events_create_forced polling hsize]
  congr 1
  rw [← hcleared, ← hpolled]
  exact events_bind ..

private theorem exists_piece {R : ClusterNode → List Event → Prop} {nodes : List ClusterNode}
    {pieces : List (List Event)} (h : List.Forall₂ R nodes pieces) {x : ClusterNode} (hx : x ∈ nodes) :
    ∃ es ∈ pieces, R x es := by
  obtain ⟨hlength, hget⟩ := List.forall₂_iff_get.1 h
  obtain ⟨i, rfl⟩ := List.get_of_mem hx
  exact ⟨_, List.get_mem pieces ⟨i, hlength ▸ i.isLt⟩, hget _ _ _⟩

/-- Nodes that refuse their logins are left alone. -/
private theorem flatten_of_refused {R : ClusterNode → List Event → Prop} {nodes : List ClusterNode}
    {pieces : List (List Event)} (h : List.Forall₂ R nodes pieces)
    (hR : ∀ x es, R x es → (n.login x.host).isOk = false → es = [.login x.host false])
    (hrefused : ∀ x ∈ nodes, (n.login x.host).isOk = false) :
    pieces.flatten = nodes.map fun x => .login x.host false := by
  induction h with
  | nil => rfl
  | cons hpiece _ ih =>
    rw [List.flatten_cons, hR _ _ hpiece (hrefused _ (by simp)), ih fun x hx => hrefused x (by simp [hx])]
    rfl

private theorem events_create_refused (hsize : c.nodes.length ≤ maxNodes) (hne : c.nodes ≠ [])
    (hrefused : ∀ x ∈ c.nodes, (m.login x.host).isOk = false) :
    (c.create polling false).events adapter m = c.nodes.map fun x => .login x.host false := by
  have hfailed : ((fanOut c.nodes c.createOn).run adapter m).1 ≠ [] := by
    obtain ⟨x, rest, hnodes⟩ := List.exists_cons_of_ne_nil hne
    rw [hnodes, fanOut, List.map_cons, run_collect_cons]
    intro hclean
    obtain ⟨d, hd, hlogin⟩ := device_of_session (List.append_eq_nil_iff.1 hclean).1
    have hx := hrefused x (by simp [hnodes])
    rw [login_of_device hd hlogin] at hx
    cases hx
  obtain ⟨pieces, hevents, hturns⟩ := inTurn_fanOut adapter c.nodes c.createOn m
  have hpieces := hturns.each (P := m.SameLogins)
    (R := fun x es => (m.login x.host).isOk = false → es = [.login x.host false]) (fun _ _ hs => hs.run _)
    (fun _ => rfl) fun x _ s hs hx => ?_
  · rw [c.events_create polling hsize, if_neg hfailed, List.append_nil, hevents,
      flatten_of_refused hpieces (fun _ _ h => h) hrefused]
  · have hlogin : (adapter.login x.host x.credentials s).1 = m.login x.host := hs x.host
    rw [createOn, events_session, hlogin, hx]
    rfl

/-- Creating a cluster that has nodes begins with a clear phase if there is force, and only then. -/
private theorem clearsFirst_create_iff (hsize : c.nodes.length ≤ maxNodes) (hne : c.nodes ≠ [])
    (h : n.SameLogins m) {force : Bool} :
    c.ClearsFirst polling n ((c.create polling force).events adapter m) ↔ force = true := by
  cases force with
  | true => exact ⟨fun _ => rfl, fun _ => c.clearsFirst_create polling hsize h⟩
  | false =>
    refine ⟨fun ⟨clears, polls, later, hevents, hclears, hpolls, _⟩ => ?_, nofun⟩
    by_cases hrefused : ∀ x ∈ c.nodes, (n.login x.host).isOk = false
    · -- Creation tries every login once, and a clear phase would try it twice.
      have hcreated := c.events_create_refused polling hsize hne fun x hx => by rw [h x.host, hrefused x hx]
      have hcleared := flatten_of_refused hclears (fun _ _ hes hx => by rwa [Clearing, hx] at hes) hrefused
      have hpolled := flatten_of_refused hpolls (fun _ _ hes hx => by rwa [Polled, hx] at hes) hrefused
      rw [hcreated, hcleared, hpolled] at hevents
      have hlength := congrArg List.length hevents
      simp only [List.length_append, List.length_map] at hlength
      exact absurd (List.length_eq_zero_iff.1 (by omega)) hne
    · -- A node that accepts its login would be asked for its cluster.
      push Not at hrefused
      obtain ⟨x, hx, hok⟩ := hrefused
      obtain ⟨es, hes, hpiece⟩ := exists_piece hclears hx
      rw [Clearing, if_pos (by simpa using hok)] at hpiece
      obtain ⟨found, -, rfl⟩ := hpiece
      refine absurd (.inl rfl) (c.not_clearing_create polling m (.operation x.host .getCluster) ?_)
      rw [hevents]
      exact List.mem_append_left _ (List.mem_append_left _ (List.mem_flatten_of_mem hes (by simp)))

/-- The events of creating a cluster: they begin with a clear phase exactly if `forced`, and else nothing is cleared
at any time.  A cluster without nodes has nothing to clear. -/
structure ClearedIf (forced : Bool) (n : Network) (es : List Event) : Prop where
  phase : c.nodes ≠ [] → (c.ClearsFirst polling n es ↔ forced = true)
  keeps : forced = false → ∀ e ∈ es, ¬ e.IsClearing

theorem clearedIf_create (hsize : c.nodes.length ≤ maxNodes) (h : n.SameLogins m)
    (force : Bool) : c.ClearedIf polling force n ((c.create polling force).events adapter m) where
  phase hne := c.clearsFirst_create_iff polling hsize hne h
  keeps := by
    rintro rfl
    exact c.not_clearing_create polling m

end ClusterSpec

end FabricProvision

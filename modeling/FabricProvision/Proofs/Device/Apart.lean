import FabricProvision.Proofs.Device.Local
import Mathlib.Data.List.Basic

/-!
# Hosts apart

Work changes no device at a host that it never sends anything to (`Network.device?_run`), and unless it asks for
the status of a cluster it cannot tell networks apart that have the same devices at its hosts
(`Network.run_agree`).  So pieces of work whose hosts are apart do not depend on each other: each of them reports
what it would report alone, and leaves its hosts as it would leave them alone (`Network.run_fanOut_apart`).  In
which order they have their turn makes no difference to any device (`Network.run_fanOut_perm`).
-/

namespace FabricProvision

open Dialogue

/-- The scope is that of a dialogue with certain hosts which never asks for the status of a cluster. -/
structure Scope.Confined (scope : Scope) (hosts : String → Prop) : Prop where
  logins : ∀ host, scope.logins host → hosts host
  operations : ∀ host op, scope.operations host op → hosts host ∧ op ≠ .getClusterStatus

theorem Scope.Local.confined {scope : Scope} {host : String} (h : scope.Local host) : scope.Confined (· = host) :=
  ⟨h.logins, h.operations⟩

namespace Network

variable {α : Type} {scope : Scope} {hosts : String → Prop} {n n' : Network}

/-! ### Other hosts -/

theorem device?_execute_of_ne (n : Network) {host other : String} (hne : host ≠ other) (op : Operation) :
    (n.execute host op).2.device? other = n.device? other := by
  rcases Option.eq_none_or_eq_some (n.device? host) with hd | ⟨d, hd⟩
  · rw [execute_of_absent hd]
  · rw [execute_of_device hd, device?_setDevice, if_neg hne]

/-- A host to which nothing is sent keeps its device, journal included. -/
theorem device?_run {Q : α → Prop} {x : Dialogue α} (hx : x.Within scope Q) {other : String}
    (hother : ∀ op, ¬ scope.operations other op) (n : Network) :
    (x.run adapter n).2.device? other = n.device? other := by
  refine hx.run_related adapter (R := fun n n' => n'.device? other = n.device? other) (fun _ => rfl)
    (fun _ _ _ h h' => h'.trans h) (fun _ _ _ => rfl) (fun host op n hop => ?_) n
  have hne : host ≠ other := by
    rintro rfl
    exact hother op hop
  exact n.device?_execute_of_ne hne op

/-! ### Networks that agree -/

/-- Two networks have the same devices at certain hosts. -/
def Agree (hosts : String → Prop) (n n' : Network) : Prop := ∀ host, hosts host → n.device? host = n'.device? host

theorem Agree.login (h : n.Agree hosts n') {host : String} (hhost : hosts host) (credentials : Credentials) :
    (adapter.login host credentials n).1 = (adapter.login host credentials n').1 ∧
      (adapter.login host credentials n).2.Agree hosts (adapter.login host credentials n').2 := by
  refine ⟨?_, h⟩
  show n.login host = n'.login host
  unfold Network.login
  rw [h host hhost]

theorem Agree.execute (h : n.Agree hosts n') {host : String} (hhost : hosts host) {op : Operation}
    (hop : op ≠ .getClusterStatus) :
    (n.execute host op).1 = (n'.execute host op).1 ∧ (n.execute host op).2.Agree hosts (n'.execute host op).2 := by
  have hdevice := h host hhost
  rcases Option.eq_none_or_eq_some (n.device? host) with hd | ⟨d, hd⟩
  · rw [execute_of_absent hd, execute_of_absent (hdevice.symm.trans hd)]
    exact ⟨rfl, h⟩
  · rw [execute_of_device hd, execute_of_device (hdevice.symm.trans hd), receive_status d hop,
      receive_status d hop (n'.clusterStatus host)]
    refine ⟨rfl, fun other hother => ?_⟩
    rw [device?_setDevice, device?_setDevice, h other hother]

/-- Work that only talks to certain hosts runs alike on networks that agree at these. -/
theorem run_agree {Q : α → Prop} {x : Dialogue α} (hx : x.Within scope Q) (hscope : scope.Confined hosts)
    (h : n.Agree hosts n') :
    (x.run adapter n).1 = (x.run adapter n').1 ∧ (x.run adapter n).2.Agree hosts (x.run adapter n').2 := by
  refine hx.run_simulation adapter adapter (fun host credentials m m' hlogin hm => ?_)
    (fun host op m m' hop hm => ?_) h
  · exact hm.login (hscope.logins host hlogin) credentials
  · obtain ⟨hhost, hstatus⟩ := hscope.operations host op hop
    exact hm.execute hhost hstatus

/-! ### Pieces of work apart -/

section apart

variable {ι : Type} {targets : List ι} {place : ι → String → Prop} {work : ι → Dialogue (List Failure)}
  (hapart : targets.Pairwise fun a b => ∀ host, place a host → ¬ place b host)
  (hwork : ∀ a ∈ targets, ∃ scope : Scope, (work a).Stays scope ∧ scope.Confined (place a))

include hapart hwork

/-- Work on targets whose hosts are apart: each piece reports what it reports on the network as it was in the
beginning, and leaves its hosts as it leaves them then; the other hosts stay as they were. -/
theorem run_fanOut_apart (n : Network) :
    let r := (fanOut targets work).run adapter n
    (r.1 = targets.flatMap fun a => ((work a).run adapter n).1) ∧
      (∀ a ∈ targets, r.2.Agree (place a) ((work a).run adapter n).2) ∧
      ∀ host, (∀ a ∈ targets, ¬ place a host) → r.2.device? host = n.device? host := by
  induction targets generalizing n with
  | nil => exact ⟨rfl, by simp, fun _ _ => rfl⟩
  | cons a rest ih =>
    obtain ⟨hne, hrest⟩ := List.pairwise_cons.1 hapart
    obtain ⟨scope, hstays, hscope⟩ := hwork a (by simp)
    -- The first piece leaves the hosts of the later ones alone.
    have hframe : ∀ host, ¬ place a host →
        ((work a).run adapter n).2.device? host = n.device? host := fun host hhost =>
      device?_run hstays (fun op hop => hhost (hscope.operations host op hop).1) n
    obtain ⟨hreports, hplaces, hothers⟩ :=
      ih hrest (fun b hb => hwork b (by simp [hb])) ((work a).run adapter n).2
    have hlater : ∀ b ∈ rest, ((work b).run adapter ((work a).run adapter n).2).1 = ((work b).run adapter n).1 ∧
        ((work b).run adapter ((work a).run adapter n).2).2.Agree (place b) ((work b).run adapter n).2 := by
      intro b hb
      obtain ⟨scope, hstays, hscope⟩ := hwork b (by simp [hb])
      exact run_agree hstays hscope fun host hhost => hframe host fun ha => hne b hb host ha hhost
    intro r
    have hr : r = (((work a).run adapter n).1 ++ ((fanOut rest work).run adapter ((work a).run adapter n).2).1,
        ((fanOut rest work).run adapter ((work a).run adapter n).2).2) :=
      run_collect_cons adapter (work a) (rest.map work) n
    rw [hr]
    refine ⟨?_, List.forall_mem_cons.2 ⟨fun host hhost => ?_, fun b hb host hhost => ?_⟩, fun host hhost => ?_⟩
    · rw [List.flatMap_cons, hreports]
      exact congrArg _ (List.flatMap_congr fun b hb => (hlater b hb).1)
    · exact hothers host fun b hb => hne b hb host hhost
    · exact (hplaces b hb host hhost).trans ((hlater b hb).2 host hhost)
    · exact (hothers host fun b hb => hhost b (by simp [hb])).trans (hframe host (hhost a (by simp)))

/-- The order of targets whose hosts are apart makes no difference to the network. -/
theorem run_fanOut_perm {targets' : List ι} (hperm : targets.Perm targets') (n : Network) :
    ((fanOut targets work).run adapter n).2 = ((fanOut targets' work).run adapter n).2 := by
  have hapart' : targets'.Pairwise fun a b => ∀ host, place a host → ¬ place b host :=
    hperm.pairwise hapart fun h host hb ha => h host ha hb
  have hwork' : ∀ a ∈ targets', ∃ scope : Scope, (work a).Stays scope ∧ scope.Confined (place a) :=
    fun a ha => hwork a (hperm.mem_iff.2 ha)
  obtain ⟨-, hplaces, hothers⟩ := run_fanOut_apart hapart hwork n
  obtain ⟨-, hplaces', hothers'⟩ := run_fanOut_apart hapart' hwork' n
  refine ext_device? fun host => ?_
  -- A host belongs to one of the pieces, which leaves it the same in both orders, or to none.
  by_cases hhost : ∃ a ∈ targets, place a host
  · obtain ⟨a, ha, hplace⟩ := hhost
    rw [hplaces a ha host hplace, hplaces' a (hperm.mem_iff.1 ha) host hplace]
  · have hnone : ∀ a ∈ targets, ¬ place a host := fun a ha hplace => hhost ⟨a, ha, hplace⟩
    rw [hothers host hnone, hothers' host fun a ha => hnone a (hperm.mem_iff.2 ha)]

end apart

/-! ### One host each -/

section distinct

variable {ι : Type} {targets : List ι} {place : ι → String} {work : ι → Dialogue (List Failure)}
  (hdistinct : targets.Pairwise fun a b => place a ≠ place b)
  (hwork : ∀ a ∈ targets, ∃ scope : Scope, (work a).Stays scope ∧ scope.Local (place a))

include hdistinct hwork

/-- Work on different hosts, of which each piece only talks to its own, is work on the devices. -/
theorem run_fanOut_distinct (n : Network) :
    let r := (fanOut targets work).run adapter n
    (r.1 = targets.flatMap fun a => ((work a).run adapter n).1) ∧
      (∀ a ∈ targets, r.2.device? (place a) = (n.device? (place a)).map fun d => ((work a).run Device.adapter d).2) ∧
      ∀ other, (∀ a ∈ targets, place a ≠ other) → r.2.device? other = n.device? other := by
  have hapart : targets.Pairwise fun a b => ∀ host, host = place a → ¬ host = place b :=
    hdistinct.imp fun hne host ha hb => hne (ha.symm.trans hb)
  have hconfined : ∀ a ∈ targets, ∃ scope : Scope, (work a).Stays scope ∧ scope.Confined (· = place a) := by
    intro a ha
    obtain ⟨scope, hstays, hlocal⟩ := hwork a ha
    exact ⟨scope, hstays, hlocal.confined⟩
  obtain ⟨hreports, hplaces, hothers⟩ := run_fanOut_apart hapart hconfined n
  refine ⟨hreports, fun a ha => ?_, fun other hother => hothers other fun a ha h => hother a ha h.symm⟩
  obtain ⟨scope, hstays, hlocal⟩ := hwork a ha
  rw [hplaces a ha _ rfl, device?_run_local hstays hlocal]

/-- Work on different hosts that ends without a failure on the device of each. -/
theorem run_fanOut_local {P Q : ι → Device → Prop} {n : Network}
    (hlocal : ∀ a ∈ targets, ∀ d, P a d →
      ((work a).run Device.adapter d).1 = [] ∧ Q a ((work a).run Device.adapter d).2)
    (h : ∀ a ∈ targets, n.At (place a) (P a)) :
    let r := (fanOut targets work).run adapter n
    r.1 = [] ∧ (∀ a ∈ targets, r.2.At (place a) (Q a)) ∧
      ∀ other, (∀ a ∈ targets, place a ≠ other) → r.2.device? other = n.device? other := by
  obtain ⟨hreports, hplaces, hothers⟩ := run_fanOut_distinct hdistinct hwork n
  refine ⟨hreports.trans (List.flatMap_eq_nil_iff.2 fun a ha => ?_), fun a ha => ?_, hothers⟩
  all_goals
    obtain ⟨d, hd, hPd⟩ := h a ha
    obtain ⟨hclean, hQ⟩ := hlocal a ha d hPd
  · obtain ⟨scope, hstays, hscope⟩ := hwork a ha
    rw [run_local hstays hscope hd]
    exact hclean
  · exact ⟨_, by rw [hplaces a ha, hd]; rfl, hQ⟩

end distinct

end Network

end FabricProvision

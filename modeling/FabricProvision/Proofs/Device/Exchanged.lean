import FabricProvision.Proofs.Device.Apart
import FabricProvision.Proofs.Device.Journals

/-!
# What is exchanged with a host

The operations that a run sends to a host, each with its answer (`Network.sent`), are what the journal of the host
grows by (`Network.journal_run_sent`).  On networks that agree at the hosts of a dialogue the exchanges are the same
(`Network.exchanges_agree`).  So in work on several targets at different hosts, a host is sent what the piece for it
sends alone (`Network.sent_fanOut_distinct`), whatever becomes of the other pieces.
-/

namespace FabricProvision

open Dialogue

/-- The operation that was sent to a host, with the answer. -/
def Exchange.sentTo (host : String) : Exchange → Option (Operation × Except DeviceError Response)
  | login _ _ => none
  | operation other op answer => if other = host then some (op, answer) else none

namespace Dialogue

variable {α σ τ : Type} {scope : Scope}

/-- Two adapters that answer alike within a scope have the same exchanges. -/
theorem Within.exchanges_simulation (A : Adapter σ) (B : Adapter τ) {R : σ → τ → Prop}
    (hlogin : ∀ host credentials s t, scope.logins host → R s t →
      (A.login host credentials s).1 = (B.login host credentials t).1 ∧
        R (A.login host credentials s).2 (B.login host credentials t).2)
    (hexecute : ∀ host op s t, scope.operations host op → R s t →
      (A.execute host op s).1 = (B.execute host op t).1 ∧ R (A.execute host op s).2 (B.execute host op t).2)
    {Q : α → Prop} {x : Dialogue α} (hx : x.Within scope Q) {s : σ} {t : τ} (hst : R s t) :
    x.exchanges A s = x.exchanges B t := by
  induction x generalizing s t with
  | done a => rfl
  | login host credentials next ih =>
    obtain ⟨hanswer, hnext⟩ := hlogin host credentials s t hx.1 hst
    have hrest := ih (A.login host credentials s).1 (hx.2 _) hnext
    rw [hanswer] at hrest
    simp only [exchanges, hanswer, hrest]
  | ask host op next ih =>
    obtain ⟨hanswer, hnext⟩ := hexecute host op s t hx.1 hst
    have hrest := ih (A.execute host op s).1 (hx.2 _) hnext
    rw [hanswer] at hrest
    simp only [exchanges, hanswer, hrest]

/-- What a run exchanges is within its scope. -/
theorem Within.allows_of_mem_exchanges {A : Adapter σ} {Q : α → Prop} {x : Dialogue α} (hx : x.Within scope Q) {s : σ}
    {e : Exchange} (he : e ∈ x.exchanges A s) : scope.Allows e.event := by
  have hevent : e.event ∈ x.events A s := by
    rw [events_eq_exchanges]
    exact List.mem_map_of_mem he
  exact hx.events s _ hevent

end Dialogue

namespace Network

variable {α : Type} {scope : Scope} {n n' : Network} {host : String}

/-- The operations that a run sends to a host, in order, with the answers. -/
def sent (n : Network) (x : Dialogue α) (host : String) : List (Operation × Except DeviceError Response) :=
  (x.exchanges adapter n).filterMap (Exchange.sentTo host)

/-- The journal of a device grows by what it is sent. -/
theorem journal_run_sent (x : Dialogue α) (n : Network) (hhost : (n.device? host).isSome) :
    (x.run adapter n).2.journal host = n.journal host ++ (n.sent x host).map (·.1) := by
  have hsent : ∀ e : Exchange, Event.sentTo host e.event = (e.sentTo host).map (·.1) := by
    rintro (⟨other, answer⟩ | ⟨other, op, answer⟩)
    · rfl
    · show (if other = host then some op else none) = (if other = host then some (op, answer) else none).map (·.1)
      split <;> rfl
  rw [journal_run x n hhost, events_eq_exchanges, sent, List.filterMap_map, List.map_filterMap]
  exact congrArg _ (List.filterMap_congr fun e _ => hsent e)

/-- Nothing is sent to a host outside the scope. -/
theorem sent_eq_nil {Q : α → Prop} {x : Dialogue α} (hx : x.Within scope Q)
    (hother : ∀ op, ¬ scope.operations host op) (n : Network) : n.sent x host = [] := by
  refine List.filterMap_eq_nil_iff.2 fun e he => ?_
  have hallowed := hx.allows_of_mem_exchanges he
  cases e with
  | login other answer => rfl
  | operation other op answer =>
    refine if_neg ?_
    rintro rfl
    exact hother op hallowed

/-- Work that only talks to certain hosts has the same exchanges on networks that agree at these. -/
theorem exchanges_agree {hosts : String → Prop} {Q : α → Prop} {x : Dialogue α} (hx : x.Within scope Q)
    (hscope : scope.Confined hosts) (h : n.Agree hosts n') : x.exchanges adapter n = x.exchanges adapter n' := by
  refine hx.exchanges_simulation adapter adapter (fun host credentials m m' hlogin hm => ?_)
    (fun host op m m' hop hm => ?_) h
  · exact hm.login (hscope.logins host hlogin) credentials
  · obtain ⟨hhost, hstatus⟩ := hscope.operations host op hop
    exact hm.execute hhost hstatus

/-- Work that only talks to one host sends it the same wherever the host has the same device. -/
theorem sent_local {Q : α → Prop} {x : Dialogue α} (hx : x.Within scope Q) (hscope : scope.Local host)
    (h : n.device? host = n'.device? host) : n.sent x host = n'.sent x host :=
  congrArg _ (exchanges_agree hx hscope.confined fun _ hsame => hsame ▸ h)

section distinct

variable {ι : Type} {targets : List ι} {place : ι → String} {work : ι → Dialogue (List Failure)}
  (hdistinct : targets.Pairwise fun a b => place a ≠ place b)
  (hwork : ∀ a ∈ targets, ∃ scope : Scope, (work a).Stays scope ∧ scope.Local (place a))

include hwork

/-- Nothing is sent to a host that is none of the targets. -/
theorem sent_fanOut_other (hother : ∀ a ∈ targets, place a ≠ host) : n.sent (fanOut targets work) host = [] := by
  have hstays : (fanOut targets work).Stays
      ⟨fun other => ∃ a ∈ targets, other = place a, fun other _ => ∃ a ∈ targets, other = place a⟩ := by
    refine stays_fanOut fun a ha => ?_
    obtain ⟨scope, hstays, hlocal⟩ := hwork a ha
    exact hstays.widen ⟨fun other h => ⟨a, ha, hlocal.logins other h⟩,
      fun other op h => ⟨a, ha, (hlocal.operations other op h).1⟩⟩
  refine sent_eq_nil hstays ?_ n
  rintro op ⟨a, ha, hplace⟩
  exact hother a ha hplace.symm

include hdistinct

/-- Work on different hosts sends to each of them what the piece for it sends alone. -/
theorem sent_fanOut_distinct {a : ι} (ha : a ∈ targets) :
    n.sent (fanOut targets work) (place a) = n.sent (work a) (place a) := by
  induction targets generalizing n with
  | nil => cases ha
  | cons b rest ih =>
    obtain ⟨hne, hrest⟩ := List.pairwise_cons.1 hdistinct
    obtain ⟨scope, hstays, hlocal⟩ := hwork b List.mem_cons_self
    have hwork' : ∀ c ∈ rest, ∃ scope : Scope, (work c).Stays scope ∧ scope.Local (place c) :=
      fun c hc => hwork c (List.mem_cons_of_mem b hc)
    have hsplit : n.sent (fanOut (b :: rest) work) (place a) =
        n.sent (work b) (place a) ++ ((work b).run adapter n).2.sent (fanOut rest work) (place a) := by
      unfold sent
      rw [fanOut, List.map_cons, exchanges_collect_cons, List.filterMap_append]
      rfl
    rw [hsplit]
    rcases List.mem_cons.1 ha with rfl | ha
    · rw [sent_fanOut_other hwork' fun c hc => (hne c hc).symm, List.append_nil]
    · -- The first piece neither sends anything to the host nor changes its device.
      have hother : ∀ op, ¬ scope.operations (place a) op := fun op hop =>
        hne a ha (hlocal.operations _ op hop).1.symm
      have hfirst : n.sent (work b) (place a) = [] := sent_eq_nil hstays hother n
      have hdevice : ((work b).run adapter n).2.device? (place a) = n.device? (place a) := device?_run hstays hother n
      obtain ⟨scope', hstays', hlocal'⟩ := hwork' a ha
      rw [hfirst, List.nil_append, ih hrest hwork' ha]
      exact sent_local hstays' hlocal' hdevice

end distinct

end Network

end FabricProvision

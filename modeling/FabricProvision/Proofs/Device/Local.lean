import FabricProvision.Proofs.Device.Frames
import FabricProvision.Proofs.Dialogue.Clean

/-!
# Runs on one device

Most dialogues talk to one host only and never ask for the status of a cluster, which is the one answer that
depends on other devices.  Such a dialogue can be played against the device alone (`Network.run_local`).  And no
answer depends on journals, so what a run does is the same for networks that only differ in them
(`Network.shows_quiet`).
-/

namespace FabricProvision

open Std (ExtTreeMap)
open Dialogue

/-! ### Journals apart -/

namespace Device

/-- The device without its journal. -/
def quiet (d : Device) : Device := { d with journal := [] }

/-- Dialogues with one device, whatever host they name. -/
def adapter : Adapter Device where
  login host _ d := (if d.refusesLogin then .error (.login host "authentication failed") else .ok ⟨⟩, d)
  execute _ op d :=
    ((d.receive {} op).1.mapError fun cause => .rejected op.name cause.message, (d.receive {} op).2)

theorem execute_receive (host : String) (op : Operation) (d : Device) :
    adapter.execute host op d =
      ((d.receive {} op).1.mapError fun cause => .rejected op.name cause.message, (d.receive {} op).2) := rfl

private theorem receive_quiet (d : Device) (status : ClusterStatus) (op : Operation) :
    (d.quiet.receive status op).1 = (d.receive status op).1 ∧
      (d.quiet.receive status op).2.quiet = (d.receive status op).2.quiet := by
  unfold receive
  simp only [record, quiet]
  by_cases hfail : d.failing.contains op.name = true
  · simp only [hfail, if_true, and_self]
  · by_cases hop : op = .getClusterStatus
    · subst hop
      simp only [hfail, if_true, if_false, Bool.false_eq_true, and_self]
    · simp only [hfail, hop, if_false, Bool.false_eq_true]
      exact ⟨rfl, rfl⟩

theorem parts_of_quiet {d e : Device} (h : d.quiet = e.quiet) :
    d.refusesLogin = e.refusesLogin ∧ d.failing = e.failing ∧ d.configuration = e.configuration := by
  have hparts : d.quiet.refusesLogin = e.quiet.refusesLogin ∧ d.quiet.failing = e.quiet.failing ∧
      d.quiet.configuration = e.quiet.configuration := by
    rw [h]
    exact ⟨rfl, rfl, rfl⟩
  exact hparts

theorem quiet_parts {d e : Device} {cfg : Configuration} (h : e.quiet = { d.quiet with configuration := cfg }) :
    e.refusesLogin = d.refusesLogin ∧ e.failing = d.failing ∧ e.configuration = cfg := by
  have hquiet : e.quiet = ({ d with configuration := cfg } : Device).quiet := h
  exact parts_of_quiet hquiet

private theorem receive_congr {d e : Device} (h : d.quiet = e.quiet) (status : ClusterStatus) (op : Operation) :
    (d.receive status op).1 = (e.receive status op).1 ∧
      (d.receive status op).2.quiet = (e.receive status op).2.quiet := by
  obtain ⟨hd, hd'⟩ := d.receive_quiet status op
  obtain ⟨he, he'⟩ := e.receive_quiet status op
  exact ⟨by rw [← hd, h, he], by rw [← hd', h, he']⟩

theorem shows_quiet : Shows adapter quiet where
  login host credentials d e h := by
    exact ⟨by simp only [adapter, (parts_of_quiet h).1], h⟩
  execute host op d e h := by
    obtain ⟨hanswer, hnext⟩ := receive_congr h {} op
    exact ⟨by simp only [adapter, hanswer], hnext⟩

end Device

namespace Network

/-- The network without journals. -/
def quiet (n : Network) : Network := ⟨n.devices.map fun _ d => d.quiet⟩

theorem device?_quiet (n : Network) (host : String) : n.quiet.device? host = (n.device? host).map Device.quiet :=
  ExtTreeMap.getElem?_map

theorem ext_device? {n n' : Network} (h : ∀ host, n.device? host = n'.device? host) : n = n' := by
  obtain ⟨devices⟩ := n
  obtain ⟨devices'⟩ := n'
  congr
  exact ExtTreeMap.ext_getElem? h

theorem setDevice_self {n : Network} {host : String} {d : Device} (h : n.device? host = some d) :
    n.setDevice host d = n := by
  refine ext_device? fun other => ?_
  rw [device?_setDevice]
  split
  · rename_i hother
    rw [← hother, h]
  · rfl

theorem setDevice_setDevice (n : Network) (host : String) (d d' : Device) :
    (n.setDevice host d).setDevice host d' = n.setDevice host d' := by
  refine ext_device? fun other => ?_
  simp only [device?_setDevice]
  split <;> rfl

private theorem quiet_setDevice (n : Network) (host : String) (d : Device) :
    (n.setDevice host d).quiet = n.quiet.setDevice host d.quiet := by
  refine ext_device? fun other => ?_
  simp only [device?_quiet, device?_setDevice]
  split <;> rfl

private theorem clusterHosts_quiet (n : Network) (name : String) (id : UInt32) :
    n.quiet.clusterHosts name id = n.clusterHosts name id := by
  unfold clusterHosts quiet
  rw [ExtTreeMap.toList_map, List.filter_map, List.map_map]
  rfl

theorem clusterStatus_quiet (n : Network) (host : String) : n.quiet.clusterStatus host = n.clusterStatus host := by
  have hvisible : ∀ c, n.quiet.visibleHosts host c = n.visibleHosts host c := by
    intro c
    simp only [visibleHosts, clusterHosts_quiet]
  unfold clusterStatus
  rw [device?_quiet]
  cases n.device? host with
  | none => rfl
  | some d => simp only [Option.map_some, hvisible]; rfl

theorem shows_quiet : Shows adapter quiet where
  login host credentials n m h := by
    have hdevice : (n.device? host).map Device.quiet = (m.device? host).map Device.quiet := by
      rw [← device?_quiet, ← device?_quiet, h]
    refine ⟨?_, h⟩
    show n.login host = m.login host
    unfold login
    generalize n.device? host = o at hdevice
    generalize m.device? host = o' at hdevice
    cases o with
    | none => cases o' with
      | none => rfl
      | some e => cases hdevice
    | some d => cases o' with
      | none => cases hdevice
      | some e =>
        simp only [(Device.parts_of_quiet (Option.some.inj hdevice)).1]
  execute host op n m h := by
    have hstatus : n.clusterStatus host = m.clusterStatus host := by
      rw [← clusterStatus_quiet n, ← clusterStatus_quiet m, h]
    have hdevice : (n.device? host).map Device.quiet = (m.device? host).map Device.quiet := by
      rw [← device?_quiet, ← device?_quiet, h]
    show (n.execute host op).1 = (m.execute host op).1 ∧ (n.execute host op).2.quiet = (m.execute host op).2.quiet
    -- Both networks have a device at the host, or neither has.
    rcases Option.eq_none_or_eq_some (n.device? host) with hn | ⟨d, hn⟩ <;>
      rcases Option.eq_none_or_eq_some (m.device? host) with hm | ⟨e, hm⟩ <;> rw [hn, hm] at hdevice
    · rw [execute_of_absent hn, execute_of_absent hm]
      exact ⟨rfl, h⟩
    · cases hdevice
    · cases hdevice
    · obtain ⟨hanswer, hnext⟩ := Device.receive_congr (Option.some.inj hdevice) (m.clusterStatus host) op
      rw [execute_of_device hn, execute_of_device hm, hstatus]
      exact ⟨by rw [hanswer], by rw [quiet_setDevice, quiet_setDevice, hnext, h]⟩

end Network

/-! ### One host -/

/-- The scope is that of a dialogue with one host which never asks for the status of a cluster. -/
structure Scope.Local (scope : Scope) (host : String) : Prop where
  logins : ∀ other, scope.logins other → other = host
  operations : ∀ other op, scope.operations other op → other = host ∧ op ≠ .getClusterStatus

/-- The scope of all dialogues with one host which never ask for the status of a cluster. -/
def Scope.alone (host : String) : Scope := ⟨(· = host), fun other op => other = host ∧ op ≠ .getClusterStatus⟩

theorem Scope.alone_local (host : String) : (Scope.alone host).Local host := ⟨fun _ h => h, fun _ _ h => h⟩

namespace Network

variable {α : Type} {host : String} {scope : Scope} {n : Network} {d : Device}

theorem receive_status (d : Device) {op : Operation} (hop : op ≠ .getClusterStatus)
    (status : ClusterStatus) : d.receive status op = d.receive {} op := by
  unfold Device.receive
  simp only [hop, if_false]

/-- A dialogue with one host can be played against its device. -/
theorem run_local {Q : α → Prop} {x : Dialogue α} (hx : x.Within scope Q) (hscope : scope.Local host)
    (hd : n.device? host = some d) :
    x.run adapter n = ((x.run Device.adapter d).1, n.setDevice host (x.run Device.adapter d).2) := by
  -- At every moment the network is the one in the beginning, with the device as it is by now.
  obtain ⟨hanswer, hnext⟩ := hx.run_simulation adapter Device.adapter (R := fun m d' => m = n.setDevice host d')
    (fun other credentials m d' hlogin hm => by
      cases hscope.logins other hlogin
      subst hm
      refine ⟨?_, rfl⟩
      show (n.setDevice host d').login host = _
      unfold login
      rw [device?_setDevice_self]
      rfl)
    (fun other op m d' hop hm => by
      obtain ⟨rfl, hstatus⟩ := hscope.operations other op hop
      subst hm
      show ((n.setDevice other d').execute other op).1 = _ ∧ ((n.setDevice other d').execute other op).2 = _
      rw [execute_of_device (device?_setDevice_self ..), receive_status d' hstatus, setDevice_setDevice]
      exact ⟨rfl, rfl⟩)
    (setDevice_self hd).symm
  rw [← hanswer, ← hnext]

/-- Work that only talks to one host is work on its device, if there is one. -/
theorem device?_run_local {Q : α → Prop} {x : Dialogue α} (hx : x.Within scope Q) (hscope : scope.Local host)
    (n : Network) : (x.run adapter n).2.device? host = (n.device? host).map fun d => (x.run Device.adapter d).2 := by
  rcases Option.eq_none_or_eq_some (n.device? host) with hd | ⟨d, hd⟩
  · rw [hd, (run_follows hx n).of_absent hd]
    rfl
  · rw [run_local hx hscope hd, hd, device?_setDevice_self]
    rfl

/-- There is a device with `P` at a host. -/
def At (host : String) (P : Device → Prop) (n : Network) : Prop := ∃ d, n.device? host = some d ∧ P d

instance (host : String) (P : Device → Prop) [DecidablePred P] (n : Network) : Decidable (At host P n) :=
  decidable_of_iff (∃ d ∈ n.device? host, P d) Iff.rfl

theorem brings_local {x : Dialogue (List Failure)} (hx : x.Stays scope) (hscope : scope.Local host)
    {P Q : Device → Prop} (h : Brings Device.adapter P x Q) : Brings adapter (At host P) x (At host Q) := by
  rintro n ⟨d, hd, hP⟩ hclean
  rw [run_local hx hscope hd] at hclean ⊢
  exact ⟨_, device?_setDevice_self .., h d hP hclean⟩

theorem idle_local {x : Dialogue (List Failure)} (hx : x.Stays scope) (hscope : scope.Local host)
    (hd : n.device? host = some d) (h : Idle Device.adapter Device.quiet x d) : Idle adapter quiet x n := by
  unfold Idle
  rw [run_local hx hscope hd]
  refine ⟨h.1, ?_⟩
  rw [quiet_setDevice, h.2, ← quiet_setDevice, setDevice_self hd]

theorem At.and {P Q : Device → Prop} (hP : n.At host P) (hQ : n.At host Q) : n.At host fun d => P d ∧ Q d := by
  obtain ⟨d, hd, hPd⟩ := hP
  obtain ⟨e, he, hQe⟩ := hQ
  rw [hd] at he
  cases he
  exact ⟨d, hd, hPd, hQe⟩

/-- The device at a host has `P`, if there is one. -/
def If (host : String) (P : Device → Prop) (n : Network) : Prop := ∀ d, n.device? host = some d → P d

/-- What the operations of a scope never change at a host, a run never changes. -/
theorem At.run {P : Device → Prop} (h : n.At host P) {x : Dialogue α} (hx : x.Stays scope)
    (hP : ∀ d d', d.Follows (scope.operations host) d' → P d → P d') : (x.run adapter n).2.At host P := by
  obtain ⟨d, hd, hPd⟩ := h
  obtain ⟨d', hd', hfollows⟩ := (run_follows hx n).of_device hd
  exact ⟨d', hd', hP d d' hfollows hPd⟩

theorem If.run {P : Device → Prop} (h : n.If host P) {x : Dialogue α} (hx : x.Stays scope)
    (hP : ∀ d d', d.Follows (scope.operations host) d' → P d → P d') : (x.run adapter n).2.If host P := by
  intro d' hd'
  obtain ⟨d, hd, hfollows⟩ := (run_follows hx n).to_device hd'
  exact hP d d' hfollows (h d hd)

/-! ### Sessions -/

section sessions

variable {operation : String} {credentials : Credentials} {work : Dialogue (List Failure)}

theorem device_of_login (h : n.login host = .ok ⟨⟩) : ∃ d, n.device? host = some d ∧ d.refusesLogin = false := by
  unfold login at h
  rcases Option.eq_none_or_eq_some (n.device? host) with hd | ⟨d, hd⟩
  · simp only [hd] at h
    cases h
  · refine ⟨d, hd, ?_⟩
    by_cases hrefuses : d.refusesLogin = true
    · simp only [hd, if_pos hrefuses] at h
      cases h
    · simpa using hrefuses

/-- A session without a failure was opened, so there is a device that accepts logins. -/
theorem device_of_session (h : ((session operation host credentials work).run adapter n).1 = []) :
    ∃ d, n.device? host = some d ∧ d.refusesLogin = false := by
  have hlogin : adapter.login host credentials n = (n.login host, n) := rfl
  rw [run_session, hlogin] at h
  refine device_of_login ?_
  generalize n.login host = answer at h ⊢
  cases answer with
  | ok u => rfl
  | error e => cases h

theorem login_of_device (hd : n.device? host = some d) (hlogin : d.refusesLogin = false) :
    n.login host = .ok ⟨⟩ := by
  unfold login
  simp only [hd, hlogin, Bool.false_eq_true, if_false]

theorem run_session_of_device (hd : n.device? host = some d) (hlogin : d.refusesLogin = false) :
    (session operation host credentials work).run adapter n = work.run adapter n := by
  have hanswer : adapter.login host credentials n = (.ok ⟨⟩, n) := congrArg (·, n) (login_of_device hd hlogin)
  rw [run_session, hanswer]

theorem brings_session {P : Device → Prop} {Q : Network → Prop}
    (h : Brings adapter (At host fun d => d.refusesLogin = false ∧ P d) work Q) :
    Brings adapter (If host P) (session operation host credentials work) Q := by
  intro n hn hclean
  obtain ⟨d, hd, hlogin⟩ := device_of_session hclean
  rw [run_session_of_device hd hlogin] at hclean ⊢
  exact h n ⟨d, hd, hlogin, hn d hd⟩ hclean

/-- Opening a session changes nothing. -/
theorem brings_session_work {P Q : Network → Prop} (h : Brings adapter P work Q) :
    Brings adapter P (session operation host credentials work) Q := by
  intro n hn hclean
  obtain ⟨d, hd, hlogin⟩ := device_of_session hclean
  rw [run_session_of_device hd hlogin] at hclean ⊢
  exact h n hn hclean

theorem idle_session (hd : n.device? host = some d) (hlogin : d.refusesLogin = false)
    (h : Idle adapter quiet work n) :
    Idle adapter quiet (session operation host credentials work) n := by
  unfold Idle
  rw [run_session_of_device hd hlogin]
  exact h

end sessions

/-- What does not depend on journals. -/
theorem At.congr {m : Network} {P : Device → Prop} (h : n.At host P) (hquiet : n.quiet = m.quiet)
    (hP : ∀ d e : Device, d.quiet = e.quiet → P d → P e) : m.At host P := by
  obtain ⟨d, hd, hPd⟩ := h
  have hsame : (n.device? host).map Device.quiet = (m.device? host).map Device.quiet := by
    rw [← device?_quiet, ← device?_quiet, hquiet]
  rw [hd] at hsame
  obtain ⟨e, he, hde⟩ := Option.map_eq_some_iff.1 hsame.symm
  exact ⟨e, he, hP d e hde.symm hPd⟩

end Network

end FabricProvision

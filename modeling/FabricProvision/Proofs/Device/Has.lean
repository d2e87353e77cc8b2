import FabricProvision.Proofs.Device.Achieved
import FabricProvision.Proofs.Device.Local
import FabricProvision.Provision.Unique

/-!
# What devices have

A device has what an operation is for if it was achieved and the device was not told to refuse the operation
(`Device.Has`).  Work that ends with an operation that is carried out leaves the device with it, and work that
only sends what a device has is idle.  What a device has depends on one part of its configuration, and on the
faults, which never change (`Concerns`).
-/

namespace FabricProvision

open Dialogue

namespace Device

variable {d : Device} {op : Operation} {host operation : String}

/-- The device has what the operation is for, and would take the operation again. -/
structure Has (d : Device) (op : Operation) : Prop where
  accepted : d.failing.contains op.name = false
  achieved : op.Achieved d.configuration

/-! ### Dependence on parts -/

/-- What the device satisfies depends on some parts of its configuration only. -/
def Concerns (parts : Part → Prop) (P : Device → Prop) : Prop :=
  ∀ allowed d d', Follows allowed d d' → (∀ op, allowed op → ¬ parts op.part) → P d → P d'

theorem concerns_has (op : Operation) : Concerns (· = op.part) (·.Has op) := by
  intro allowed d d' hfollows hparts h
  have hsame : op.part.Same d.configuration d'.configuration := hfollows.parts _ fun op' hop' => hparts op' hop'
  exact ⟨by rw [hfollows.failing]; exact h.accepted, h.achieved.congr hsame⟩

theorem Concerns.mono {parts parts' : Part → Prop} {P : Device → Prop} (h : Concerns parts P)
    (hparts : ∀ p, parts p → parts' p) : Concerns parts' P :=
  fun allowed d d' hfollows hdisjoint hP =>
    h allowed d d' hfollows (fun op hop hp => hdisjoint op hop (hparts _ hp)) hP

theorem concerns_true (parts : Part → Prop) : Concerns parts fun _ => True := fun _ _ _ _ _ _ => trivial

theorem Concerns.and {parts : Part → Prop} {P Q : Device → Prop} (hP : Concerns parts P) (hQ : Concerns parts Q) :
    Concerns parts fun d => P d ∧ Q d :=
  fun allowed d d' hfollows hdisjoint h =>
    ⟨hP allowed d d' hfollows hdisjoint h.1, hQ allowed d d' hfollows hdisjoint h.2⟩

theorem concerns_all {ι : Type} {parts : Part → Prop} {P : ι → Device → Prop} (h : ∀ i, Concerns parts (P i)) :
    Concerns parts fun d => ∀ i, P i d :=
  fun allowed d d' hfollows hdisjoint hall i => h i allowed d d' hfollows hdisjoint (hall i)

theorem concerns_imp {parts : Part → Prop} {P : Device → Prop} {p : Prop} (h : p → Concerns parts P) :
    Concerns parts fun d => p → P d :=
  fun allowed d d' hfollows hdisjoint himp hp => h hp allowed d d' hfollows hdisjoint (himp hp)

theorem concerns_logins (parts : Part → Prop) : Concerns parts fun d => d.refusesLogin = false :=
  fun _ _ _ hfollows _ h => hfollows.refusesLogin.trans h

theorem run_follows {α : Type} {scope : Scope} {Q : α → Prop} {x : Dialogue α} (hx : x.Within scope Q)
    (d : Device) : d.Follows (fun op => ∃ host, scope.operations host op) (x.run adapter d).2 :=
  hx.run_related adapter (follows_refl _) (fun _ _ _ => Follows.trans) (fun _ _ d => follows_refl _ d)
    (fun host _ _ hop => follows_receive {} ⟨host, hop⟩) d

/-- A run about other parts keeps what depends on some. -/
theorem Concerns.run {α : Type} {scope : Scope} {x : Dialogue α} {parts : Part → Prop} {P : Device → Prop}
    (hP : Concerns parts P) (hx : x.Stays scope) (hparts : ∀ host op, scope.operations host op → ¬ parts op.part)
    {d : Device} (hd : P d) : P (x.run adapter d).2 :=
  hP _ d _ (run_follows hx d) (fun op ⟨host, hop⟩ => hparts host op hop) hd

/-- Work about other parts keeps what depends on some. -/
theorem keeps_of_stays {scope : Scope} {x : Dialogue (List Failure)} (hx : x.Stays scope) {parts : Part → Prop}
    {P : Device → Prop} (hP : Concerns parts P) (hparts : ∀ host op, scope.operations host op → ¬ parts op.part) :
    Brings adapter P x P :=
  fun _ hd _ => hP.run hx hparts hd

/-! ### Single operations -/

/-- An operation that is carried out was not to be refused, and changes the configuration as it does. -/
theorem execute_ok {r : Response} {d' : Device} (hop : op ≠ .getClusterStatus)
    (h : adapter.execute host op d = (.ok r, d')) :
    d.failing.contains op.name = false ∧ (op.apply.run.run d.configuration).1 = .ok r ∧
      d' = { d.record op with configuration := (op.apply.run.run d.configuration).2 } := by
  rw [execute_receive] at h
  rcases d.receive_cases {} op with ⟨-, hr⟩ | ⟨-, hop', -⟩ | ⟨hfail, -, hr⟩
  · rw [hr] at h
    cases h
  · exact absurd hop' hop
  · rw [hr] at h
    generalize op.apply.run.run d.configuration = result at h ⊢
    obtain ⟨answer, c⟩ := result
    cases answer with
    | error e => cases h
    | ok r' =>
      cases h
      exact ⟨hfail, rfl, rfl⟩

theorem ne_getClusterStatus_of_configures (hop : op.configures = true) : op ≠ .getClusterStatus := by
  rintro rfl
  cases hop

/-- Sending an operation that configures something leaves the device with it. -/
theorem has_of_perform (hop : op.configures = true) (h : ((perform host op).run adapter d).1 = .ok ⟨⟩) :
    ((perform host op).run adapter d).2.Has op := by
  rw [run_perform] at h ⊢
  generalize hr : adapter.execute host op d = r at h ⊢
  obtain ⟨answer, d'⟩ := r
  cases answer with
  | error e => cases h
  | ok r =>
    obtain ⟨hfail, happly, rfl⟩ := execute_ok (ne_getClusterStatus_of_configures hop) hr
    exact ⟨hfail, Operation.achieved_of_apply hop happly⟩

/-- An operation that is not to be refused is applied. -/
theorem execute_of_apply {r : Response} {c : Configuration} (hop : op ≠ .getClusterStatus)
    (hfail : d.failing.contains op.name = false) (h : op.apply.run.run d.configuration = (.ok r, c)) :
    adapter.execute host op d = (.ok r, { d.record op with configuration := c }) := by
  rw [execute_receive]
  rcases d.receive_cases {} op with ⟨hfail', -⟩ | ⟨-, hop', -⟩ | ⟨-, -, hr⟩
  · rw [hfail] at hfail'
    cases hfail'
  · exact absurd hop' hop
  · rw [hr, h]
    rfl

/-- A device without failing operations carries every operation out, as far as its configuration lets it. -/
theorem execute_of_faultless (hfailing : d.failing = ∅) (hop : op ≠ .getClusterStatus) :
    adapter.execute host op d =
      ((op.apply.run.run d.configuration).1.mapError fun cause => .rejected op.name cause.message,
        { d.record op with configuration := (op.apply.run.run d.configuration).2 }) := by
  rw [execute_receive]
  rcases d.receive_cases {} op with ⟨hfail, -⟩ | ⟨-, hstatus, -⟩ | ⟨-, -, h⟩
  · simp [hfailing] at hfail
  · exact absurd hstatus hop
  · rw [h]

theorem perform_of_apply {r : Response} {c : Configuration} (hop : op ≠ .getClusterStatus)
    (hfail : d.failing.contains op.name = false) (h : op.apply.run.run d.configuration = (.ok r, c)) :
    (perform host op).run adapter d = (.ok ⟨⟩, { d.record op with configuration := c }) := by
  rw [run_perform, execute_of_apply hop hfail h]

/-- Sending an operation again has no effect. -/
theorem perform_of_has (h : d.Has op) : (perform host op).run adapter d = (.ok ⟨⟩, d.record op) := by
  have hop : op ≠ .getClusterStatus := by
    rintro rfl
    exact h.achieved
  exact perform_of_apply hop h.accepted (Operation.apply_of_achieved h.achieved)

theorem has_of_quiet {e : Device} (h : d.quiet = e.quiet) (hd : d.Has op) : e.Has op := by
  have he : e.quiet.Has op := by
    rw [← h]
    exact ⟨hd.accepted, hd.achieved⟩
  exact ⟨he.accepted, he.achieved⟩

/-- A question is answered from the configuration, or refused, and changes nothing. -/
theorem execute_question (host : String) {answer : Response} (hop : op ≠ .getClusterStatus)
    (h : op.apply.run.run d.configuration = (.ok answer, d.configuration)) :
    (∃ e, adapter.execute host op d = (.error e, d.record op)) ∨
      adapter.execute host op d = (.ok answer, d.record op) := by
  rw [execute_receive]
  rcases d.receive_cases {} op with ⟨-, hr⟩ | ⟨-, hop', -⟩ | ⟨-, -, hr⟩
  · rw [hr]
    exact .inl ⟨_, rfl⟩
  · exact absurd hop' hop
  · rw [hr, h]
    exact .inr rfl

/-! ### Steps -/

theorem brings_step {work : Dialogue (Except FailureCause Unit)} {P Q : Device → Prop}
    (h : ∀ d, P d → (work.run adapter d).1 = .ok ⟨⟩ → Q (work.run adapter d).2) :
    Brings adapter P (step operation host work) Q := by
  intro d hP hclean
  rw [run_step] at hclean ⊢
  have hQ := h d hP
  generalize work.run adapter d = r at hclean hQ ⊢
  obtain ⟨answer, d'⟩ := r
  cases answer with
  | ok u => exact hQ rfl
  | error cause => cases hclean

theorem idle_step {work : Dialogue (Except FailureCause Unit)} (hanswer : (work.run adapter d).1 = .ok ⟨⟩)
    (hquiet : (work.run adapter d).2.quiet = d.quiet) : Idle adapter quiet (step operation host work) d := by
  unfold Idle
  rw [run_step]
  generalize work.run adapter d = r at hanswer hquiet
  obtain ⟨answer, d'⟩ := r
  cases hanswer
  exact ⟨rfl, hquiet⟩

/-- What an operation makes of configurations it is carried out on. -/
theorem brings_apply (op : Operation) {P Q : Configuration → Prop} (hop : op ≠ .getClusterStatus)
    (h : ∀ c r, P c → (op.apply.run.run c).1 = .ok r → Q (op.apply.run.run c).2) :
    Brings adapter (fun d => P d.configuration) (performStep operation host op) (fun d => Q d.configuration) := by
  refine brings_step fun d hP hclean => ?_
  rw [run_perform] at hclean ⊢
  generalize hr : adapter.execute host op d = r at hclean ⊢
  obtain ⟨answer, d'⟩ := r
  cases answer with
  | error e => cases hclean
  | ok r =>
    obtain ⟨-, happly, rfl⟩ := execute_ok hop hr
    exact h _ r hP happly

theorem brings_performStep (hop : op.configures = true) :
    Brings adapter (fun _ => True) (performStep operation host op) (·.Has op) :=
  brings_step fun _ _ h => has_of_perform hop h

/-- An operation that does not undo what another one is for keeps it. -/
theorem keeps_has {op other : Operation} (hother : other ≠ .getClusterStatus)
    (h : ∀ c r, op.Achieved c → (other.apply.run.run c).1 = .ok r → op.Achieved (other.apply.run.run c).2) :
    Brings adapter (·.Has op) (performStep operation host other) (·.Has op) := by
  intro d hd hclean
  -- The operation is still accepted because faults never change.
  have hstays : (performStep operation host other).Stays ⟨fun _ => True, fun _ _ => True⟩ := stays_any _
  have hfaults : Concerns (fun _ => False) fun d => d.failing.contains op.name = false := by
    intro allowed d d' hfollows _ h
    show d'.failing.contains _ = false
    rw [hfollows.failing]
    exact h
  exact ⟨keeps_of_stays hstays hfaults (fun _ _ _ => id) d hd.accepted hclean,
    brings_apply other (P := op.Achieved) (Q := op.Achieved) hother h d hd.achieved hclean⟩

theorem idle_performStep (h : d.Has op) : Idle adapter quiet (performStep operation host op) d :=
  idle_step (by rw [perform_of_has h]) (by rw [perform_of_has h]; rfl)

section sessions

variable {credentials : Credentials} {work : Dialogue (List Failure)}

theorem run_session_of_login (hlogin : d.refusesLogin = false) :
    (session operation host credentials work).run adapter d = work.run adapter d := by
  rw [run_session]
  simp only [adapter, hlogin, Bool.false_eq_true, if_false]

theorem login_of_session (h : ((session operation host credentials work).run adapter d).1 = []) :
    d.refusesLogin = false := by
  rw [run_session] at h
  by_cases hlogin : d.refusesLogin = true
  · simp only [adapter, hlogin, if_true] at h
    cases h
  · simpa using hlogin

end sessions

/-! ### Unique objects -/

variable {object : UniqueObject} {desired : String} {create : Operation} {force : Bool}

/-- Success means that the creation was carried out. -/
theorem has_of_ensure (hcreate : create.configures = true)
    (h : ((object.ensure host desired create force).run adapter d).1 = .ok ⟨⟩) :
    ((object.ensure host desired create force).run adapter d).2.Has create := by
  unfold UniqueObject.ensure at h ⊢
  simp only [run_bind] at h ⊢
  generalize (query host object.lookup Response.toName).run adapter d = r at h ⊢
  obtain ⟨existing, d'⟩ := r
  dsimp only at h ⊢
  split at h
  · exact has_of_perform hcreate h
  · cases force with
    | false => cases h
    | true =>
      simp only [if_true, run_bind] at h ⊢
      exact has_of_perform hcreate h

theorem brings_ensure (hcreate : create.configures = true) :
    Brings adapter (fun _ => True) (step operation host (object.ensure host desired create force))
      (·.Has create) :=
  brings_step fun _ _ h => has_of_ensure hcreate h

/-- A device that has the object under the desired name is not changed. -/
theorem idle_ensure (h : d.Has create) (hlookup : object.lookup ≠ .getClusterStatus)
    (hname : object.lookup.apply.run.run d.configuration = (.ok (.named (some desired)), d.configuration)) :
    Idle adapter quiet (step operation host (object.ensure host desired create force)) d := by
  have hrecord : (d.record object.lookup).Has create := ⟨h.accepted, h.achieved⟩
  -- Answered or refused, the question finds no object under another name.
  have hexisting : ∃ existing : Except DeviceError (Option String),
      (query host object.lookup Response.toName).run adapter d = (existing, d.record object.lookup) ∧
        existing.toOption.join.filter (· != desired) = none := by
    rw [run_query]
    rcases execute_question host hlookup hname with ⟨e, hexecute⟩ | hexecute <;> rw [hexecute]
    · exact ⟨.error e, rfl, rfl⟩
    · refine ⟨.ok ((some desired).filter (!·.isEmpty)), rfl, ?_⟩
      show ((some desired).filter (!·.isEmpty)).filter (· != desired) = none
      by_cases hempty : desired.isEmpty = true <;> simp [Option.filter, hempty]
  obtain ⟨existing, hquery, hother⟩ := hexisting
  have hrun : (object.ensure host desired create force).run adapter d =
      (.ok ⟨⟩, (d.record object.lookup).record create) := by
    unfold UniqueObject.ensure
    rw [run_bind, hquery]
    dsimp only
    rw [hother]
    exact perform_of_has hrecord
  exact idle_step (by rw [hrun]) (by rw [hrun]; rfl)

end Device

/-! ### Keeping parts -/

open Device Network

section keeping

variable {α : Type} {host : String} {parts : Part → Prop} {scope : Scope} {P : Device → Prop} {n : Network}

theorem Network.At.keeps (h : n.At host P) {x : Dialogue α} (hx : x.Stays scope) (hP : Concerns parts P)
    (hparts : ∀ op, scope.operations host op → ¬ parts op.part) : (x.run Network.adapter n).2.At host P :=
  h.run hx fun d d' hfollows => hP _ d d' hfollows hparts

theorem Network.If.keeps (h : n.If host P) {x : Dialogue α} (hx : x.Stays scope) (hP : Concerns parts P)
    (hparts : ∀ op, scope.operations host op → ¬ parts op.part) : (x.run Network.adapter n).2.If host P :=
  h.run hx fun d d' hfollows => hP _ d d' hfollows hparts

/-- After a session without a failure the device still accepts logins. -/
theorem Network.brings_session_login {operation : String} {credentials : Credentials}
    {work : Dialogue (List Failure)} :
    Brings Network.adapter (fun _ => True) (session operation host credentials work)
      (At host fun d => d.refusesLogin = false) := by
  intro n _ hclean
  obtain ⟨d, hd, hlogin⟩ := device_of_session hclean
  exact At.keeps ⟨d, hd, hlogin⟩ (stays_any _) (concerns_logins fun _ => False) fun _ _ => id

end keeping

end FabricProvision

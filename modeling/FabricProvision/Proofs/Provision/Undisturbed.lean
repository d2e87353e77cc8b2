import FabricProvision.Proofs.Device.Faults
import FabricProvision.Proofs.Provision.Created

/-!
# Work on nodes without faults

When nothing is refused, work on a node is a function of the configuration that it finds: `NodeWork.outcome` is
what it ends with and leaves.  Questions are answered from the configuration, operations are carried out or
rejected, and the first rejection ends the work.

What a device was told to refuse can only end the work earlier (`NodeWork.FailsFast`).  So work that ends without a
failure has done what it does without faults.
-/

namespace FabricProvision

open Dialogue Operation

namespace Configuration

theorem after_session (operation host : String) (credentials : Credentials) (work : Dialogue (List Failure))
    (cfg : Configuration) : after (session operation host credentials work) cfg = after work cfg := by
  unfold after
  rw [run_session]
  rfl

theorem after_failures (work : NodeWork Unit) (cfg : Configuration) : after work.failures cfg = after work.run cfg := by
  unfold after NodeWork.failures
  rw [Dialogue.run_bind]
  generalize work.run.run perfect cfg = r
  obtain ⟨answer, cfg'⟩ := r
  cases answer <;> rfl

end Configuration

namespace NodeWork

variable {α β : Type} {host operation : String} {op : Operation} {cfg cfg' : Configuration}

/-- What the work ends with and the configuration that it leaves, when nothing is refused. -/
def outcome (work : NodeWork α) (cfg : Configuration) : Except Failure α × Configuration :=
  Dialogue.run Configuration.perfect work.run cfg

theorem outcome_pure (a : α) (cfg : Configuration) : outcome (pure a) cfg = (.ok a, cfg) := rfl

theorem outcome_bind (x : NodeWork α) (f : α → NodeWork β) (cfg : Configuration) :
    outcome (x >>= f) cfg =
      match x.outcome cfg with
      | (.ok a, cfg') => (f a).outcome cfg'
      | (.error e, cfg') => (.error e, cfg') := by
  unfold outcome
  rw [ExceptT.run_bind, Dialogue.run_bind]
  generalize Dialogue.run Configuration.perfect x.run cfg = r
  obtain ⟨answer, cfg'⟩ := r
  cases answer <;> rfl

/-- Work that ends without a failure is followed by the rest. -/
theorem outcome_bind_of_ok {x : NodeWork α} {f : α → NodeWork β} {a : α} (h : x.outcome cfg = (.ok a, cfg')) :
    outcome (x >>= f) cfg = (f a).outcome cfg' := by
  rw [outcome_bind, h]

/-- Work that is only done under a condition, and then ends without a failure, is followed by the rest. -/
theorem outcome_guarded {b : Bool} {work : NodeWork Unit} {rest : Unit → NodeWork α}
    (hwork : b = true → work.outcome cfg = (.ok ⟨⟩, cfg')) (hskip : b = false → cfg' = cfg) :
    outcome (if b then work >>= rest else rest ⟨⟩) cfg = (rest ⟨⟩).outcome cfg' := by
  cases b with
  | true => exact outcome_bind_of_ok (hwork rfl)
  | false =>
    rw [hskip rfl]
    rfl

theorem outcome_guarded_of_error {b : Bool} {work : NodeWork Unit} {rest : Unit → NodeWork α} {e : Failure}
    (hb : b = true) (hwork : work.outcome cfg = (.error e, cfg')) :
    outcome (if b then work >>= rest else rest ⟨⟩) cfg = (.error e, cfg') := by
  subst hb
  show outcome (work >>= rest) cfg = _
  rw [outcome_bind, hwork]

theorem outcome_guarded_keeps {b : Bool} {work : NodeWork Unit} {rest : Unit → NodeWork α}
    (hwork : b = true → (work.outcome cfg).2 = cfg) (hrest : ((rest ⟨⟩).outcome cfg).2 = cfg) :
    (outcome (if b then work >>= rest else rest ⟨⟩) cfg).2 = cfg := by
  cases b with
  | false => exact hrest
  | true =>
    have hkept := hwork rfl
    show (outcome (work >>= rest) cfg).2 = cfg
    rw [outcome_bind]
    generalize work.outcome cfg = r at hkept
    obtain ⟨answer, cfg'⟩ := r
    cases hkept
    cases answer with
    | ok u => exact hrest
    | error e => rfl

theorem outcome_ask {read : Response → String → Except DeviceError α} {r : Response} {a : α}
    (hop : op ≠ .getClusterStatus) (happly : op.apply.run.run cfg = (.ok r, cfg)) (hread : read r op.name = .ok a) :
    (ask host operation op read).outcome cfg = (.ok a, cfg) := by
  simp only [outcome, ask, ExceptT.run_mk, Dialogue.run_bind, run_query, Configuration.execute_eq host hop, happly]
  show ((read r op.name).mapError _, cfg) = _
  rw [hread]
  rfl

theorem outcome_send {r : Response} (hop : op ≠ .getClusterStatus) (happly : op.apply.run.run cfg = (.ok r, cfg')) :
    (send host operation op).outcome cfg = (.ok ⟨⟩, cfg') := by
  simp only [outcome, send, ExceptT.run_mk, Dialogue.run_bind, run_perform, Configuration.execute_eq host hop, happly]
  rfl

theorem outcome_send_of_error {e : Rejection} (hop : op ≠ .getClusterStatus)
    (happly : op.apply.run.run cfg = (.error e, cfg')) :
    ∃ f, (send host operation op).outcome cfg = (.error f, cfg') := by
  simp only [outcome, send, ExceptT.run_mk, Dialogue.run_bind, run_perform, Configuration.execute_eq host hop, happly]
  exact ⟨_, rfl⟩

theorem outcome_sendAll {rest : List ClusterStep} {r : Response} (hop : op ≠ .getClusterStatus)
    (happly : op.apply.run.run cfg = (.ok r, cfg')) :
    (sendAll host (.send operation op :: rest)).outcome cfg = (sendAll host rest).outcome cfg' :=
  outcome_bind_of_ok (outcome_send hop happly)

theorem outcome_sendAll_of_error {rest : List ClusterStep} {e : Rejection} (hop : op ≠ .getClusterStatus)
    (happly : op.apply.run.run cfg = (.error e, cfg')) :
    ∃ f, (sendAll host (.send operation op :: rest)).outcome cfg = (.error f, cfg') := by
  obtain ⟨f, hf⟩ : ∃ f, (send host operation op).outcome cfg = (.error f, cfg') := outcome_send_of_error hop happly
  refine ⟨f, ?_⟩
  show outcome (send host operation op >>= fun _ => sendAll host rest) cfg = _
  rw [outcome_bind, hf]

/-- Operations are carried out up to the first that is rejected. -/
theorem outcome_sends {ops : List (String × Operation)} (hops : ∀ x ∈ ops, x.2 ≠ .getClusterStatus)
    (host : String) (cfg : Configuration) :
    let carried := (carryOut (ops.map (·.2))).run.run cfg
    ((sendAll host (sends ops)).outcome cfg).2 = carried.2 ∧
      (carried.1 = .ok ⟨⟩ → ((sendAll host (sends ops)).outcome cfg).1 = .ok ⟨⟩) := by
  induction ops generalizing cfg with
  | nil => exact ⟨rfl, fun _ => rfl⟩
  | cons x rest ih =>
    have hop : x.2 ≠ .getClusterStatus := hops x (by simp)
    rw [sends, List.map_cons, List.map_cons, run_carryOut_cons]
    rcases happly : x.2.apply.run.run cfg with ⟨e | r, cfg'⟩
    · obtain ⟨f, hf⟩ : ∃ f, (sendAll host (.send x.1 x.2 :: sends rest)).outcome cfg = (.error f, cfg') :=
        outcome_sendAll_of_error hop happly
      rw [hf]
      exact ⟨rfl, fun hok => by cases hok⟩
    · rw [outcome_sendAll hop happly]
      exact ih (fun y hy => hops y (by simp [hy])) cfg'

/-! ### Work that ends without a failure -/

/-- The configuration that the work leaves when nothing is refused, if it ends without a failure. -/
def achieved? (work : NodeWork Unit) (cfg : Configuration) : Option Configuration :=
  match work.outcome cfg with
  | (.ok _, cfg') => some cfg'
  | (.error _, _) => none

variable {work : NodeWork Unit} {rest : Unit → NodeWork Unit}

theorem achieved?_of_ok (h : work.outcome cfg = (.ok ⟨⟩, cfg')) : work.achieved? cfg = some cfg' := by
  rw [achieved?, h]

theorem achieved?_of_error {f : Failure} (h : work.outcome cfg = (.error f, cfg')) : work.achieved? cfg = none := by
  rw [achieved?, h]

theorem outcome_of_achieved? (h : work.achieved? cfg = some cfg') : work.outcome cfg = (.ok ⟨⟩, cfg') := by
  unfold achieved? at h
  generalize work.outcome cfg = r at h ⊢
  obtain ⟨answer, left⟩ := r
  cases answer with
  | ok u =>
    cases h
    rfl
  | error f => cases h

theorem achieved?_bind_of_ok {x : NodeWork α} {f : α → NodeWork Unit} {a : α} (h : x.outcome cfg = (.ok a, cfg')) :
    achieved? (x >>= f) cfg = (f a).achieved? cfg' := by
  rw [achieved?, outcome_bind_of_ok h, achieved?]

/-- Work that is only done under a condition, followed by the rest. -/
theorem achieved?_guarded (b : Bool) (work : NodeWork Unit) (rest : Unit → NodeWork Unit) (cfg : Configuration) :
    achieved? (if b then work >>= rest else rest ⟨⟩) cfg =
      (if b then work.achieved? cfg else some cfg).bind (rest ⟨⟩).achieved? := by
  cases b with
  | false => rfl
  | true =>
    show achieved? (work >>= rest) cfg = (work.achieved? cfg).bind (rest ⟨⟩).achieved?
    unfold achieved?
    rw [outcome_bind]
    generalize work.outcome cfg = r
    obtain ⟨answer, cfg'⟩ := r
    cases answer <;> rfl

theorem achieved?_sendAll_of_ok {rest : List ClusterStep} {r : Response} (hop : op ≠ .getClusterStatus)
    (happly : op.apply.run.run cfg = (.ok r, cfg')) :
    (sendAll host (.send operation op :: rest)).achieved? cfg = (sendAll host rest).achieved? cfg' := by
  rw [achieved?, outcome_sendAll hop happly, achieved?]

theorem achieved?_sendAll_of_error {rest : List ClusterStep} {e : Rejection} (hop : op ≠ .getClusterStatus)
    (happly : op.apply.run.run cfg = (.error e, cfg')) :
    (sendAll host (.send operation op :: rest)).achieved? cfg = none := by
  obtain ⟨f, hf⟩ : ∃ f, (sendAll host (.send operation op :: rest)).outcome cfg = (.error f, cfg') :=
    outcome_sendAll_of_error hop happly
  exact achieved?_of_error hf

/-! ### Work that stops at its first failure -/

/-- Whatever is refused, the work ends as it does when nothing is, or with a failure that satisfies `P`. -/
def FailsFast (P : Failure → Prop) (work : NodeWork α) : Prop :=
  ∀ d : Device, match Dialogue.run Device.adapter work.run d with
    | (.ok a, d') => work.outcome d.configuration = (.ok a, d'.configuration)
    | (.error f, _) => P f

variable {P : Failure → Prop}

theorem failsFast_pure (a : α) : (pure a : NodeWork α).FailsFast P := fun _ => rfl

theorem failsFast_bind {x : NodeWork α} {f : α → NodeWork β} (hx : x.FailsFast P) (hf : ∀ a, (f a).FailsFast P) :
    (x >>= f).FailsFast P := by
  intro d
  have hfirst := hx d
  rw [ExceptT.run_bind, Dialogue.run_bind]
  generalize Dialogue.run Device.adapter x.run d = r at hfirst ⊢
  obtain ⟨answer, d'⟩ := r
  cases answer with
  | error e => exact hfirst
  | ok a =>
    rw [outcome_bind_of_ok hfirst]
    exact hf a d'

theorem failsFast_guarded {b : Bool} {work : NodeWork Unit} {rest : Unit → NodeWork α} (hwork : work.FailsFast P)
    (hrest : (rest ⟨⟩).FailsFast P) : (if b then work >>= rest else rest ⟨⟩ : NodeWork α).FailsFast P := by
  cases b with
  | true => exact failsFast_bind hwork fun _ => hrest
  | false => exact hrest

theorem failsFast_send (hop : op ≠ .getClusterStatus) (hP : ∀ cause, P ⟨operation, host, cause⟩) :
    (send host operation op).FailsFast P := by
  intro d
  simp only [send, ExceptT.run_mk, Dialogue.run_bind, run_perform]
  rcases hr : Device.adapter.execute host op d with ⟨e | r, d'⟩
  · exact hP _
  · obtain ⟨-, happly, rfl⟩ := Device.execute_ok hop hr
    exact outcome_send hop (Prod.ext happly rfl)

theorem failsFast_ask {read : Response → String → Except DeviceError α} (hop : op ≠ .getClusterStatus)
    (hkeeps : ∀ cfg, (op.apply.run.run cfg).2 = cfg) (hP : ∀ cause, P ⟨operation, host, cause⟩) :
    (ask host operation op read).FailsFast P := by
  intro d
  simp only [ask, ExceptT.run_mk, Dialogue.run_bind, run_query]
  rcases hr : Device.adapter.execute host op d with ⟨e | r, d'⟩
  · exact hP _
  · obtain ⟨-, happly, rfl⟩ := Device.execute_ok hop hr
    have hsame := hkeeps d.configuration
    dsimp only
    rcases hread : read r op.name with e | a
    · exact hP _
    · show outcome _ _ = (.ok a, (op.apply.run.run d.configuration).2)
      rw [hsame]
      exact outcome_ask hop (Prod.ext happly hsame) hread

theorem failsFast_sendAll {steps : List ClusterStep}
    (h : ∀ operation op, ClusterStep.send operation op ∈ steps → op ≠ .getClusterStatus ∧
      ∀ cause, P ⟨operation, host, cause⟩)
    (hrefuse : ∀ operation reason, ClusterStep.refuse operation reason ∈ steps →
      ∀ cause, P ⟨operation, host, cause⟩) : (sendAll host steps).FailsFast P := by
  induction steps with
  | nil => exact failsFast_pure PUnit.unit
  | cons step rest ih =>
    cases step with
    | send operation op =>
      obtain ⟨hop, hP⟩ := h operation op (by simp)
      exact failsFast_bind (failsFast_send hop hP) fun _ => ih (fun operation op hmem => h operation op (by simp [hmem]))
        fun operation reason hmem => hrefuse operation reason (by simp [hmem])
    | refuse operation reason => exact fun d => hrefuse operation reason (by simp) _

/-- Work of which no failure is reported was carried out as it is without faults. -/
theorem achieved?_of_failures (h : work.FailsFast P) (d : Device) :
    (∀ f ∈ (work.failures.run Device.adapter d).1, P f) ∧
      ((work.failures.run Device.adapter d).1 = [] →
        work.achieved? d.configuration = some (work.failures.run Device.adapter d).2.configuration) := by
  have hwork := h d
  unfold failures
  rw [Dialogue.run_bind]
  generalize Dialogue.run Device.adapter work.run d = r at hwork ⊢
  obtain ⟨answer, d'⟩ := r
  cases answer with
  | ok u => exact ⟨by simp [Dialogue.run_pure], fun _ => achieved?_of_ok hwork⟩
  | error f => exact ⟨by simpa [Dialogue.run_pure] using hwork, fun h => by cases h⟩

/-- A device that refuses nothing reports no failure of work that ends without one. -/
theorem failures_of_achieved? {d : Device} (hlogin : d.refusesLogin = false) (hfailing : d.failing = ∅)
    (h : work.achieved? d.configuration = some cfg') :
    (work.failures.run Device.adapter d).1 = [] ∧
      (work.failures.run Device.adapter d).2.quiet = { d.quiet with configuration := cfg' } := by
  have houtcome := outcome_of_achieved? h
  obtain ⟨hanswer, hquiet⟩ := Device.run_faultless work.failures hlogin hfailing
  have hrun : work.failures.run Configuration.perfect d.configuration = ([], cfg') := by
    unfold failures
    rw [Dialogue.run_bind]
    unfold outcome at houtcome
    rw [houtcome]
    rfl
  rw [hanswer, hquiet, Configuration.after, hrun]
  exact ⟨rfl, rfl⟩

end NodeWork

end FabricProvision

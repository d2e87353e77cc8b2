import FabricProvision.Proofs.Device.Faults
import FabricProvision.Provision.ClusterSteps

/-!
# Invariants of configurations

Which operations a device was told to refuse is not known to the work on it.  Work maintains an invariant of
configurations if it holds at the end of every run that finds it, wherever the run was stopped
(`Device.Maintains`).  The rules take apart how work is put together; at the bottom, an operation has to maintain
the invariant whether it is carried out or rejected.

Work restarts when what it leaves without faults is itself invariant (`Device.restarts_of_maintains`).
-/

namespace FabricProvision

open Dialogue

variable {α β : Type} {I : Configuration → Prop} {host operation : String} {op : Operation}

namespace Device

/-- Whatever is refused, work that finds a configuration with `I` leaves one with `I` and ends with what satisfies
`Q`. -/
def Maintains (I : Configuration → Prop) (Q : α → Prop) (x : Dialogue α) : Prop :=
  ∀ d : Device, I d.configuration → I (x.run adapter d).2.configuration ∧ Q (x.run adapter d).1

variable {Q : α → Prop} {R : β → Prop}

/-! ### Putting work together -/

theorem maintains_pure {a : α} (h : Q a) : Maintains I Q (pure a) := fun _ hd => ⟨hd, h⟩

theorem Maintains.bind {x : Dialogue α} {f : α → Dialogue β} (hx : Maintains I Q x)
    (hf : ∀ a, Q a → Maintains I R (f a)) : Maintains I R (x >>= f) := by
  intro d hd
  obtain ⟨hI, hQ⟩ := hx d hd
  rw [run_bind]
  exact hf _ hQ _ hI

theorem maintains_session {credentials : Credentials} {work : Dialogue (List Failure)}
    (hwork : Maintains I (fun _ => True) work) :
    Maintains I (fun _ => True) (session operation host credentials work) := by
  intro d hd
  rw [run_session]
  by_cases hlogin : d.refusesLogin = true
  · simpa only [adapter, hlogin, if_true, and_true] using hd
  · simp only [adapter, hlogin, if_false, Bool.false_eq_true]
    exact hwork d hd

/-! ### Operations -/

variable (hop : op ≠ .getClusterStatus) (hI : ∀ cfg, I cfg → I (op.apply.run.run cfg).2)

include hop hI

private theorem maintains_execute (host : String) (d : Device) (hd : I d.configuration) :
    I (adapter.execute host op d).2.configuration ∧ ∀ r, (adapter.execute host op d).1 = .ok r →
      (op.apply.run.run d.configuration).1 = .ok r := by
  refine ⟨?_, fun r hr => (execute_ok hop (Prod.ext hr rfl)).2.1⟩
  show I (d.receive {} op).2.configuration
  rcases d.receive_cases {} op with ⟨-, h⟩ | ⟨-, -, h⟩ | ⟨-, -, h⟩ <;> rw [h]
  · exact hd
  · exact hd
  · exact hI _ hd

theorem maintains_perform {P : Prop} (hP : ∀ cfg r, I cfg → (op.apply.run.run cfg).1 = .ok r → P) :
    Maintains I (fun answer => answer = .ok ⟨⟩ → P) (perform host op) := by
  intro d hd
  obtain ⟨hnext, hanswer⟩ := maintains_execute hop hI host d hd
  rw [run_perform]
  generalize adapter.execute host op d = r at hnext hanswer
  obtain ⟨answer, d'⟩ := r
  cases answer with
  | ok r => exact ⟨hnext, fun _ => hP _ r hd (hanswer r rfl)⟩
  | error e => exact ⟨hnext, nofun⟩

theorem maintains_query {read : Response → String → Except DeviceError α}
    (hQ : ∀ cfg r, I cfg → (op.apply.run.run cfg).1 = .ok r → ∀ a, read r op.name = .ok a → Q a) :
    Maintains I (fun answer => ∀ a, answer = .ok a → Q a) (query host op read) := by
  intro d hd
  obtain ⟨hnext, hanswer⟩ := maintains_execute hop hI host d hd
  rw [run_query]
  generalize adapter.execute host op d = r at hnext hanswer
  obtain ⟨answer, d'⟩ := r
  cases answer with
  | ok r => exact ⟨hnext, hQ _ r hd (hanswer r rfl)⟩
  | error e => exact ⟨hnext, nofun⟩

end Device

/-! ### Work on nodes -/

namespace NodeWork

variable {P : Prop} {Q : α → Prop} {R : β → Prop}

/-- Whatever is refused, the work keeps `I`, and if it does not fail, it ends with what satisfies `Q`. -/
def Maintains (I : Configuration → Prop) (Q : α → Prop) (work : NodeWork α) : Prop :=
  Device.Maintains I (fun answer => ∀ a, answer = .ok a → Q a) work.run

theorem maintains_pure {a : α} (h : Q a) : (pure a : NodeWork α).Maintains I Q :=
  Device.maintains_pure fun _ ha => by cases ha; exact h

theorem maintains_throw {f : Failure} : (throw f : NodeWork α).Maintains I Q := Device.maintains_pure nofun

theorem Maintains.bind {x : NodeWork α} {f : α → NodeWork β} (hx : x.Maintains I Q)
    (hf : ∀ a, Q a → (f a).Maintains I R) : (x >>= f).Maintains I R := by
  refine Device.Maintains.bind hx fun answer hanswer => ?_
  cases answer with
  | ok a => exact hf a (hanswer a rfl)
  | error e => exact Device.maintains_pure nofun

theorem Maintains.weaken {work : NodeWork α} {Q' : α → Prop} (h : work.Maintains I Q) (hQ : ∀ a, Q a → Q' a) :
    work.Maintains I Q' := fun d hd => ⟨(h d hd).1, fun a ha => hQ a ((h d hd).2 a ha)⟩

/-- What work establishes that is only done under a condition is known under the condition. -/
theorem maintains_guarded {b : Bool} {work : NodeWork Unit} {rest : Unit → NodeWork α}
    (hwork : b = true → work.Maintains I fun _ => P) (hrest : (b = true → P) → (rest ⟨⟩).Maintains I Q) :
    (if b then work >>= rest else rest ⟨⟩ : NodeWork α).Maintains I Q := by
  cases b with
  | true => exact (hwork rfl).bind fun _ hP => hrest fun _ => hP
  | false => exact hrest nofun

theorem maintains_failures {work : NodeWork Unit} (h : work.Maintains I fun _ => True) :
    Device.Maintains I (fun _ => True) work.failures :=
  Device.Maintains.bind h fun answer _ => by cases answer <;> exact Device.maintains_pure trivial

section operations

variable (hop : op ≠ .getClusterStatus) (hI : ∀ cfg, I cfg → I (op.apply.run.run cfg).2)

include hop hI

theorem maintains_send (hP : ∀ cfg r, I cfg → (op.apply.run.run cfg).1 = .ok r → P) :
    (send host operation op).Maintains I fun _ => P := by
  refine (Device.maintains_perform hop hI hP).bind fun answer hanswer => ?_
  cases answer with
  | ok _ => exact Device.maintains_pure fun _ _ => hanswer rfl
  | error e => exact Device.maintains_pure nofun

theorem maintains_ask {read : Response → String → Except DeviceError α}
    (hQ : ∀ cfg r, I cfg → (op.apply.run.run cfg).1 = .ok r → ∀ a, read r op.name = .ok a → Q a) :
    (ask host operation op read).Maintains I Q := by
  refine (Device.maintains_query hop hI hQ).bind fun answer hanswer => ?_
  cases answer with
  | ok a => exact Device.maintains_pure fun b hb => by cases hb; exact hanswer a rfl
  | error e => exact Device.maintains_pure nofun

end operations

/-- Steps maintain what each of their operations maintains. -/
theorem maintains_sendAll {steps : List ClusterStep}
    (h : ∀ operation op, ClusterStep.send operation op ∈ steps →
      op ≠ .getClusterStatus ∧ ∀ cfg, I cfg → I (op.apply.run.run cfg).2) :
    (sendAll host steps).Maintains I fun _ => True := by
  induction steps with
  | nil => exact maintains_pure trivial
  | cons step rest ih =>
    cases step with
    | send operation op =>
      obtain ⟨hop, hI⟩ := h operation op (by simp)
      have hsend : (send host operation op).Maintains I fun _ => True :=
        maintains_send hop hI fun _ _ _ _ => trivial
      exact hsend.bind fun _ _ => ih fun operation op hmem => h operation op (by simp [hmem])
    | refuse operation reason => exact maintains_throw

end NodeWork

/-- Work restarts if what it leaves without faults is the same for all configurations with an invariant that it
maintains. -/
theorem Device.restarts_of_maintains {x : Dialogue α} {result : Configuration → Configuration}
    {R : Configuration → Configuration → Prop} (hafter : ∀ cfg, Configuration.after x cfg = result cfg)
    (hrefl : ∀ cfg, R cfg cfg) (hresult : ∀ cfg cfg', R cfg cfg' → result cfg' = result cfg)
    (h : ∀ cfg, Maintains (R cfg) (fun _ => True) x) : Restarts x := by
  intro d
  rw [hafter, hafter]
  exact hresult _ _ (h d.configuration d (hrefl _)).1

end FabricProvision

import FabricProvision.Device.Apply
import FabricProvision.Pool.Basic

/-!
# Running steps

How a step that may fail runs on a state, construct by construct: steps on stocks, pools and configurations are
all of this form.  A step respects a relation if it leads from a state to a related one, however it ends
(`Step.Respects`); a preorder is respected by a step that is put together from steps that respect it.
-/

namespace FabricProvision.Step

variable {σ ε α β : Type}

theorem run_bind (x : ExceptT ε (StateM σ) α) (f : α → ExceptT ε (StateM σ) β) (s : σ) :
    (x >>= f).run.run s =
      match x.run.run s with
      | (.ok a, s') => (f a).run.run s'
      | (.error e, s') => (.error e, s') := by
  simp only [ExceptT.run_bind, StateT.run_bind]
  generalize StateT.run (ExceptT.run x) s = r
  obtain ⟨answer, s'⟩ := r
  cases answer <;> rfl

/-- Two steps end well exactly if the first does, and the second does from where the first led. -/
theorem run_bind_eq_ok {x : ExceptT ε (StateM σ) α} {f : α → ExceptT ε (StateM σ) β} {s s'' : σ} {b : β} :
    (x >>= f).run.run s = (.ok b, s'') ↔
      ∃ a s', x.run.run s = (.ok a, s') ∧ (f a).run.run s' = (.ok b, s'') := by
  rw [run_bind]
  rcases x.run.run s with ⟨e | a, s'⟩
  · exact iff_of_false nofun nofun
  · constructor
    · exact fun h => ⟨a, s', rfl, h⟩
    · rintro ⟨a, s', ⟨⟩, h⟩
      exact h

theorem run_pure (a : α) (s : σ) : (pure a : ExceptT ε (StateM σ) α).run.run s = (.ok a, s) := rfl

theorem run_throw (e : ε) (s : σ) : (throw e : ExceptT ε (StateM σ) α).run.run s = (.error e, s) := rfl

theorem run_get (s : σ) : (get : ExceptT ε (StateM σ) σ).run.run s = (.ok s, s) := rfl

theorem run_modify (f : σ → σ) (s : σ) :
    (modify f : ExceptT ε (StateM σ) PUnit).run.run s = (.ok ⟨⟩, f s) := rfl

/-! ### Failures of answers -/

/-- The failure that an answer is, if it is one. -/
def error? : Except ε α → Option ε
  | .ok _ => none
  | .error e => some e

variable {ε' : Type}

theorem error?_mapError (f : ε → ε') (answer : Except ε α) : error? (answer.mapError f) = (error? answer).map f := by
  cases answer <;> rfl

theorem mapError_eq_ok {f : ε → ε'} {answer : Except ε α} {a : α} : answer.mapError f = .ok a ↔ answer = .ok a := by
  cases answer with
  | ok b => constructor <;> rintro ⟨⟩ <;> rfl
  | error e => exact ⟨nofun, nofun⟩

theorem bind_eq_ok {x : Except ε α} {f : α → Except ε β} {b : β} : x >>= f = .ok b ↔ ∃ a, x = .ok a ∧ f a = .ok b := by
  cases x with
  | ok a => exact ⟨fun h => ⟨a, rfl, h⟩, fun ⟨_, ha, h⟩ => by cases ha; exact h⟩
  | error e => exact ⟨nofun, nofun⟩

/-! ### Relations that steps respect -/

/-- However the step ends, the state before it is related to the state after it. -/
def Respects (R : σ → σ → Prop) (x : ExceptT ε (StateM σ) α) : Prop := ∀ s, R s (x.run.run s).2

section respects

variable {R : σ → σ → Prop}

theorem respects_pure [Std.Refl R] (a : α) : Respects R (pure a : ExceptT ε (StateM σ) α) := Std.Refl.refl

theorem respects_throw [Std.Refl R] (e : ε) : Respects R (throw e : ExceptT ε (StateM σ) α) := Std.Refl.refl

theorem respects_get [Std.Refl R] : Respects R (get : ExceptT ε (StateM σ) σ) := Std.Refl.refl

theorem respects_modify {f : σ → σ} (h : ∀ s, R s (f s)) :
    Respects R (modify f : ExceptT ε (StateM σ) PUnit) := h

theorem respects_bind [Trans R R R] {x : ExceptT ε (StateM σ) α} {f : α → ExceptT ε (StateM σ) β}
    (hx : Respects R x) (hf : ∀ a, Respects R (f a)) : Respects R (x >>= f) := by
  intro s
  rw [run_bind]
  have hs := hx s
  generalize x.run.run s = r at hs
  obtain ⟨answer, s'⟩ := r
  cases answer with
  | ok a => exact Trans.trans hs (hf a s')
  | error e => exact hs

end respects

end FabricProvision.Step

import FabricProvision.Provision.Session

/-!
# Dialogues within a scope

A scope says which hosts may be logged in to and which operations may be sent to which host.  A dialogue is
within a scope if it never leaves it, whatever the switches answer (`Dialogue.Within`).  This is a property of
the dialogue alone.  What it means for the switches follows for every adapter: a relation that every operation
of the scope respects is respected by the whole run (`run_related`), and two adapters that answer alike within
the scope cannot be told apart (`run_simulation`).
-/

namespace FabricProvision

/-- The hosts that may be logged in to and the operations that may be sent. -/
structure Scope where
  logins : String → Prop
  operations : String → Operation → Prop

/-- One scope is part of another. -/
structure Scope.Sub (a b : Scope) : Prop where
  logins : ∀ host, a.logins host → b.logins host
  operations : ∀ host op, a.operations host op → b.operations host op

namespace Dialogue

variable {α β σ τ : Type} {scope : Scope}

/-- Whatever is answered, the dialogue stays within the scope and ends with what satisfies `Q`. -/
def Within (scope : Scope) (Q : α → Prop) : Dialogue α → Prop
  | done a => Q a
  | login host _ next => scope.logins host ∧ ∀ answer, (next answer).Within scope Q
  | ask host op next => scope.operations host op ∧ ∀ answer, (next answer).Within scope Q

/-! ### Putting dialogues together -/

private theorem andThen_done (x : Dialogue α) : x.andThen done = x := by
  induction x with
  | done a => rfl
  | login host credentials next ih => exact congrArg (login host credentials) (funext ih)
  | ask host op next ih => exact congrArg (ask host op) (funext ih)

private theorem andThen_assoc {γ : Type} (x : Dialogue α) (f : α → Dialogue β) (g : β → Dialogue γ) :
    (x.andThen f).andThen g = x.andThen fun a => (f a).andThen g := by
  induction x with
  | done a => rfl
  | login host credentials next ih => exact congrArg (login host credentials) (funext ih)
  | ask host op next ih => exact congrArg (ask host op) (funext ih)

instance : LawfulMonad Dialogue := .mk' Dialogue andThen_done (fun _ _ => rfl) andThen_assoc

theorem within_pure {Q : α → Prop} {a : α} (h : Q a) : (pure a : Dialogue α).Within scope Q := h

theorem Within.bind {Q : α → Prop} {R : β → Prop} {x : Dialogue α} {f : α → Dialogue β}
    (hx : x.Within scope Q) (hf : ∀ a, Q a → (f a).Within scope R) : (x >>= f).Within scope R := by
  show (x.andThen f).Within scope R
  induction x with
  | done a => exact hf a hx
  | login host credentials next ih => exact ⟨hx.1, fun answer => ih answer (hx.2 answer)⟩
  | ask host op next ih => exact ⟨hx.1, fun answer => ih answer (hx.2 answer)⟩

theorem Within.mono {scope' : Scope} {Q R : α → Prop} {x : Dialogue α} (hx : x.Within scope Q)
    (hscope : scope.Sub scope') (hQ : ∀ a, Q a → R a) : x.Within scope' R := by
  induction x with
  | done a => exact hQ a hx
  | login host credentials next ih => exact ⟨hscope.logins _ hx.1, fun answer => ih answer (hx.2 answer)⟩
  | ask host op next ih => exact ⟨hscope.operations _ _ hx.1, fun answer => ih answer (hx.2 answer)⟩

theorem within_connect {host : String} {credentials : Credentials} (h : scope.logins host) :
    (connect host credentials).Within scope fun _ => True := ⟨h, fun _ => trivial⟩

theorem within_send {host : String} {op : Operation} (h : scope.operations host op) :
    (send host op).Within scope fun _ => True := ⟨h, fun _ => trivial⟩

theorem within_perform {host : String} {op : Operation} (h : scope.operations host op) :
    (perform host op).Within scope fun _ => True := by
  refine (within_send h).bind fun answer _ => ?_
  cases answer <;> exact within_pure trivial

theorem within_query {host : String} {op : Operation} {read : Response → String → Except DeviceError α}
    (h : scope.operations host op) : (query host op read).Within scope fun _ => True := by
  refine (within_send h).bind fun answer _ => ?_
  cases answer <;> exact within_pure trivial

theorem within_attempt {host : String} {op : Operation} (h : scope.operations host op) :
    (attempt host op).Within scope fun _ => True :=
  (within_send h).bind fun _ _ => within_pure trivial

/-! ### Work whose failures are reported -/

variable {P : Failure → Prop}

theorem within_step {operation host : String} {work : Dialogue (Except FailureCause Unit)}
    (hwork : work.Within scope fun _ => True) (hP : ∀ cause, P ⟨operation, host, cause⟩) :
    (step operation host work).Within scope fun failures => ∀ f ∈ failures, P f := by
  refine hwork.bind fun answer _ => ?_
  cases answer with
  | ok _ => exact within_pure (by simp)
  | error cause => exact within_pure (by simpa using hP cause)

theorem within_performStep {operation host : String} {op : Operation} (h : scope.operations host op)
    (hP : ∀ cause, P ⟨operation, host, cause⟩) :
    (performStep operation host op).Within scope fun failures => ∀ f ∈ failures, P f :=
  within_step (within_perform h) hP

theorem within_collect {works : List (Dialogue (List Failure))}
    (h : ∀ work ∈ works, work.Within scope fun failures => ∀ f ∈ failures, P f) :
    (collect works).Within scope fun failures => ∀ f ∈ failures, P f := by
  induction works with
  | nil => exact within_pure (by simp)
  | cons work rest ih =>
    refine (h work (by simp)).bind fun first hfirst => ?_
    refine (ih fun w hw => h w (by simp [hw])).bind fun later hlater => ?_
    refine within_pure fun f hf => ?_
    rcases List.mem_append.1 hf with hf | hf
    · exact hfirst f hf
    · exact hlater f hf

theorem within_fanOut {targets : List α} {work : α → Dialogue (List Failure)}
    (h : ∀ a ∈ targets, (work a).Within scope fun failures => ∀ f ∈ failures, P f) :
    (fanOut targets work).Within scope fun failures => ∀ f ∈ failures, P f := by
  refine within_collect fun w hw => ?_
  obtain ⟨a, ha, rfl⟩ := List.mem_map.1 hw
  exact h a ha

theorem within_session {operation host : String} {credentials : Credentials} {work : Dialogue (List Failure)}
    (hlogin : scope.logins host) (hwork : work.Within scope fun failures => ∀ f ∈ failures, P f)
    (hP : ∀ e, P ⟨operation, host, .login e⟩) :
    (session operation host credentials work).Within scope fun failures => ∀ f ∈ failures, P f := by
  refine (within_connect hlogin).bind fun answer _ => ?_
  cases answer with
  | ok _ => exact hwork
  | error e => exact within_pure (by simpa using hP e)

/-! ### Staying within a scope, whatever the end -/

/-- Whatever is answered, the dialogue stays within the scope. -/
abbrev Stays (scope : Scope) (x : Dialogue α) : Prop := x.Within scope fun _ => True

theorem Within.stays {Q : α → Prop} {x : Dialogue α} (hx : x.Within scope Q) : x.Stays scope :=
  hx.mono ⟨fun _ h => h, fun _ _ h => h⟩ fun _ _ => trivial

theorem Stays.widen {scope' : Scope} {x : Dialogue α} (hx : x.Stays scope) (h : scope.Sub scope') :
    x.Stays scope' := hx.mono h fun _ h => h

theorem Stays.reporting {x : Dialogue (List Failure)} (hx : x.Stays scope) :
    x.Within scope fun failures => ∀ f ∈ failures, True :=
  hx.mono ⟨fun _ h => h, fun _ _ h => h⟩ fun _ _ _ _ => trivial

theorem stays_step {operation host : String} {work : Dialogue (Except FailureCause Unit)}
    (hwork : work.Stays scope) : (step operation host work).Stays scope :=
  (within_step (P := fun _ => True) hwork fun _ => trivial).stays

theorem stays_performStep {operation host : String} {op : Operation} (h : scope.operations host op) :
    (performStep operation host op).Stays scope := stays_step (within_perform h)

theorem stays_collect {works : List (Dialogue (List Failure))} (h : ∀ work ∈ works, work.Stays scope) :
    (collect works).Stays scope := (within_collect fun w hw => (h w hw).reporting).stays

theorem stays_fanOut {targets : List α} {work : α → Dialogue (List Failure)}
    (h : ∀ a ∈ targets, (work a).Stays scope) : (fanOut targets work).Stays scope :=
  (within_fanOut fun a ha => (h a ha).reporting).stays

theorem stays_session {operation host : String} {credentials : Credentials} {work : Dialogue (List Failure)}
    (hlogin : scope.logins host) (hwork : work.Stays scope) :
    (session operation host credentials work).Stays scope :=
  (within_session hlogin hwork.reporting fun _ => trivial).stays

/-- Work whose failures may be the last. -/
theorem stays_stop {x y : Dialogue (List Failure)} (hx : x.Stays scope) (hy : y.Stays scope) :
    (do
      let errors ← x
      if !errors.isEmpty then return errors
      y).Stays scope := by
  refine Within.bind (Q := fun _ => True) hx fun errors _ => ?_
  split
  · exact within_pure trivial
  · exact hy

/-! ### Runs of dialogues within a scope -/

theorem run_pure (A : Adapter σ) (a : α) (s : σ) : (pure a : Dialogue α).run A s = (a, s) := rfl

theorem run_connect (A : Adapter σ) (host : String) (credentials : Credentials) (s : σ) :
    (connect host credentials).run A s = A.login host credentials s := rfl

theorem run_send (A : Adapter σ) (host : String) (op : Operation) (s : σ) :
    (send host op).run A s = A.execute host op s := rfl

/-- A run ends as the dialogue promises. -/
theorem Within.run (A : Adapter σ) {Q : α → Prop} {x : Dialogue α} (hx : x.Within scope Q) (s : σ) :
    Q (x.run A s).1 := by
  induction x generalizing s with
  | done a => exact hx
  | login host credentials next ih => exact ih _ (hx.2 _) _
  | ask host op next ih => exact ih _ (hx.2 _) _

/-- What the answers within a scope respect, a whole run respects. -/
theorem Within.run_related (A : Adapter σ) {R : σ → σ → Prop} (hrefl : ∀ s, R s s)
    (htrans : ∀ s s' s'', R s s' → R s' s'' → R s s'')
    (hlogin : ∀ host credentials s, R s (A.login host credentials s).2)
    (hexecute : ∀ host op s, scope.operations host op → R s (A.execute host op s).2)
    {Q : α → Prop} {x : Dialogue α} (hx : x.Within scope Q) (s : σ) : R s (x.run A s).2 := by
  induction x generalizing s with
  | done a => exact hrefl s
  | login host credentials next ih => exact htrans _ _ _ (hlogin host credentials s) (ih _ (hx.2 _) _)
  | ask host op next ih => exact htrans _ _ _ (hexecute host op s hx.1) (ih _ (hx.2 _) _)

/-- Two adapters that answer alike within a scope, and then again, lead to the same end. -/
theorem Within.run_simulation (A : Adapter σ) (B : Adapter τ) {R : σ → τ → Prop}
    (hlogin : ∀ host credentials s t, scope.logins host → R s t →
      (A.login host credentials s).1 = (B.login host credentials t).1 ∧
        R (A.login host credentials s).2 (B.login host credentials t).2)
    (hexecute : ∀ host op s t, scope.operations host op → R s t →
      (A.execute host op s).1 = (B.execute host op t).1 ∧ R (A.execute host op s).2 (B.execute host op t).2)
    {Q : α → Prop} {x : Dialogue α} (hx : x.Within scope Q) {s : σ} {t : τ} (hst : R s t) :
    (x.run A s).1 = (x.run B t).1 ∧ R (x.run A s).2 (x.run B t).2 := by
  induction x generalizing s t with
  | done a => exact ⟨rfl, hst⟩
  | login host credentials next ih =>
    -- Both runs go on with the same answer.
    obtain ⟨hanswer, hnext⟩ := hlogin host credentials s t hx.1 hst
    have := ih (A.login host credentials s).1 (hx.2 _) hnext
    rw [hanswer] at this
    simpa only [Dialogue.run, hanswer] using this
  | ask host op next ih =>
    obtain ⟨hanswer, hnext⟩ := hexecute host op s t hx.1 hst
    have := ih (A.execute host op s).1 (hx.2 _) hnext
    rw [hanswer] at this
    simpa only [Dialogue.run, hanswer] using this

/-- A dialogue without restrictions. -/
theorem stays_any (x : Dialogue α) : x.Stays ⟨fun _ => True, fun _ _ => True⟩ := by
  induction x with
  | done a => exact trivial
  | login host credentials next ih => exact ⟨trivial, ih⟩
  | ask host op next ih => exact ⟨trivial, ih⟩

end Dialogue

end FabricProvision

import FabricProvision.Proofs.Dialogue.Exchanges
import Mathlib.Data.List.Forall2

/-!
# Events of runs

The events of a run are the logins it tries and the operations it sends, in order (`Dialogue.events`).  A dialogue
within a scope has no other events, whatever is answered, and the events of work on several targets are those of
the pieces one after the other.
-/

namespace FabricProvision

/-- What a run does to a switch. -/
inductive Event where
  | login (host : String) (accepted : Bool)
  | operation (host : String) (op : Operation)
deriving DecidableEq

def Event.host : Event → String
  | login host _ => host
  | operation host _ => host

/-- The operation of an event on a host. -/
def Event.sentTo (host : String) : Event → Option Operation
  | login _ _ => none
  | operation other op => if other = host then some op else none

/-- An exchange without its answer. -/
def Exchange.event : Exchange → Event
  | login host answer => .login host answer.isOk
  | operation host op _ => .operation host op

/-- The events that a scope allows. -/
def Scope.Allows (scope : Scope) : Event → Prop
  | .login host _ => scope.logins host
  | .operation host op => scope.operations host op

namespace Dialogue

variable {α β σ : Type} {A : Adapter σ} {scope : Scope}

/-- The events of a run, in order. -/
def events (A : Adapter σ) : Dialogue α → σ → List Event
  | done _, _ => []
  | login host credentials next, s =>
    let (answer, s) := A.login host credentials s
    .login host answer.isOk :: (next answer).events A s
  | ask host op next, s =>
    let (answer, s) := A.execute host op s
    .operation host op :: (next answer).events A s

/-! ### Events of the pieces of work -/

/-- Events are exchanges, whatever was answered. -/
theorem events_eq_exchanges (x : Dialogue α) (s : σ) : x.events A s = (x.exchanges A s).map Exchange.event := by
  induction x generalizing s with
  | done a => rfl
  | login host credentials next ih => exact congrArg _ (ih _ _)
  | ask host op next ih => exact congrArg _ (ih _ _)

theorem events_pure (a : α) (s : σ) : (pure a : Dialogue α).events A s = [] := rfl

theorem events_connect (host : String) (credentials : Credentials) (s : σ) :
    (connect host credentials).events A s = [.login host (A.login host credentials s).1.isOk] := rfl

theorem events_bind (x : Dialogue α) (f : α → Dialogue β) (s : σ) :
    (x >>= f).events A s = x.events A s ++ (f (x.run A s).1).events A (x.run A s).2 := by
  simp only [events_eq_exchanges, exchanges_bind, List.map_append]

theorem events_perform (host : String) (op : Operation) (s : σ) :
    (perform host op).events A s = [.operation host op] := by
  rw [events_eq_exchanges, exchanges_perform]
  rfl

theorem events_query (host : String) (op : Operation) (read : Response → String → Except DeviceError α) (s : σ) :
    (query host op read).events A s = [.operation host op] := by
  rw [events_eq_exchanges, exchanges_query]
  rfl

theorem events_collect_cons (work : Dialogue (List Failure)) (rest : List (Dialogue (List Failure))) (s : σ) :
    (collect (work :: rest)).events A s =
      work.events A s ++ (collect rest).events A (work.run A s).2 := by
  simp only [events_eq_exchanges, exchanges_collect_cons, List.map_append]

theorem events_forM_cons (a : α) (rest : List α) (work : α → Dialogue Unit) (s : σ) :
    ((a :: rest).forM work).events A s = (work a).events A s ++ (rest.forM work).events A ((work a).run A s).2 :=
  events_bind (work a) (fun _ => rest.forM work) s

theorem events_step (operation host : String) (work : Dialogue (Except FailureCause Unit)) (s : σ) :
    (step operation host work).events A s = work.events A s := by
  rw [events_eq_exchanges, exchanges_step, events_eq_exchanges]

theorem events_performStep (operation host : String) (op : Operation) (s : σ) :
    (performStep operation host op).events A s = [.operation host op] := by
  rw [performStep, events_step, events_perform]

/-- Work in a session comes after a login that is accepted. -/
theorem events_session (operation host : String) (credentials : Credentials) (work : Dialogue (List Failure)) (s : σ) :
    (session operation host credentials work).events A s =
      .login host (A.login host credentials s).1.isOk ::
        if (A.login host credentials s).1.isOk then work.events A (A.login host credentials s).2 else [] := by
  rw [events_eq_exchanges, exchanges_session, List.map_cons]
  split <;> simp [Exchange.event, events_eq_exchanges]

theorem events_attempt (host : String) (op : Operation) (s : σ) :
    (attempt host op).events A s = [.operation host op] := by
  rw [events_eq_exchanges, exchanges_attempt]
  rfl

/-- Work whose failures are the last is followed by the events of other work only if it reports none. -/
theorem events_stop (x y : Dialogue (List Failure)) (s : σ) :
    (do
      let errors ← x
      if !errors.isEmpty then return errors
      y : Dialogue (List Failure)).events A s =
      x.events A s ++ if (x.run A s).1 = [] then y.events A (x.run A s).2 else [] := by
  rw [events_bind]
  generalize x.run A s = r
  obtain ⟨errors, s'⟩ := r
  cases errors with
  | nil => rfl
  | cons f rest => rfl

/-! ### Work on several targets -/

/-- The same work on several targets, each in its turn: what it reports, the events of the pieces, and where it
leads.  A failure does not keep the later targets from their turn. -/
inductive InTurn (A : Adapter σ) (work : α → Dialogue (List Failure)) :
    List α → σ → List Failure → List (List Event) → σ → Prop
  | nil {s : σ} : InTurn A work [] s [] [] s
  | cons {a : α} {rest : List α} {s s' : σ} {failures : List Failure} {pieces : List (List Event)}
      (later : InTurn A work rest ((work a).run A s).2 failures pieces s') :
      InTurn A work (a :: rest) s (((work a).run A s).1 ++ failures) ((work a).events A s :: pieces) s'

theorem inTurn_fanOut (A : Adapter σ) (targets : List α) (work : α → Dialogue (List Failure)) (s : σ) :
    ∃ pieces, (fanOut targets work).events A s = pieces.flatten ∧
      InTurn A work targets s ((fanOut targets work).run A s).1 pieces ((fanOut targets work).run A s).2 := by
  induction targets generalizing s with
  | nil => exact ⟨[], rfl, .nil⟩
  | cons a rest ih =>
    obtain ⟨pieces, hevents, hlater⟩ := ih ((work a).run A s).2
    refine ⟨(work a).events A s :: pieces, ?_, ?_⟩
    · rw [fanOut, List.map_cons, events_collect_cons, List.flatten_cons, ← hevents]
      rfl
    · rw [fanOut, List.map_cons, run_collect_cons]
      exact .cons hlater

section keeping

variable {P : σ → Prop} {targets : List α} {work : α → Dialogue (List Failure)} {s s' : σ} {failures : List Failure}
  {pieces : List (List Event)} (h : InTurn A work targets s failures pieces s')
  (hkeep : ∀ a s, P s → P ((work a).run A s).2) (hs : P s)

include h hkeep hs

theorem InTurn.keeps : P s' := by
  induction h with
  | nil => exact hs
  | cons _ ih => exact ih (hkeep _ _ hs)

/-- What the pieces keep of the state, each of them may rely on. -/
theorem InTurn.each {R : α → List Event → Prop}
    (hwork : ∀ a ∈ targets, ∀ s, P s → R a ((work a).events A s)) : List.Forall₂ R targets pieces := by
  induction h with
  | nil => exact .nil
  | cons _ ih =>
    exact .cons (hwork _ (by simp) _ hs) (ih (hkeep _ _ hs) fun b hb => hwork b (by simp [hb]))

end keeping

/-- Work on several targets has the events of each piece, wherever the pieces before it lead to. -/
theorem events_fanOut {targets : List α} {work : α → Dialogue (List Failure)} {R : α → List Event → Prop}
    (h : ∀ a ∈ targets, ∀ s, R a ((work a).events A s)) (s : σ) :
    ∃ pieces, List.Forall₂ R targets pieces ∧ (fanOut targets work).events A s = pieces.flatten := by
  obtain ⟨pieces, hevents, hturns⟩ := inTurn_fanOut A targets work s
  exact ⟨pieces, hturns.each (P := fun _ => True) (fun _ _ _ => trivial) trivial fun a ha s _ => h a ha s, hevents⟩

/-! ### Events within a scope -/

/-- A run has no events that the scope does not allow. -/
theorem Within.events {Q : α → Prop} {x : Dialogue α} (hx : x.Within scope Q) (s : σ) :
    ∀ e ∈ x.events A s, scope.Allows e := by
  induction x generalizing s with
  | done a => simp [Dialogue.events]
  | login host credentials next ih => exact List.forall_mem_cons.2 ⟨hx.1, ih _ (hx.2 _) _⟩
  | ask host op next ih => exact List.forall_mem_cons.2 ⟨hx.1, ih _ (hx.2 _) _⟩

end Dialogue

end FabricProvision

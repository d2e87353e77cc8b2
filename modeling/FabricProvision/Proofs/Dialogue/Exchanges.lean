import FabricProvision.Proofs.Dialogue.Clean

/-!
# Exchanges of runs

The exchanges of a run are the logins it tries and the operations it sends, in order, each with its answer
(`Dialogue.exchanges`).  Where the work is a list of pieces for different subjects, the log says of every exchange
whom it was for (`Dialogue.log`).
-/

namespace FabricProvision

/-- What a run does to a switch, and the answer. -/
inductive Exchange where
  | login (host : String) (answer : Except DeviceError Unit)
  | operation (host : String) (op : Operation) (answer : Except DeviceError Response)

def Exchange.host : Exchange → String
  | login host _ => host
  | operation host _ _ => host

namespace Dialogue

variable {α β σ κ : Type} {A : Adapter σ}

/-- The exchanges of a run, in order. -/
def exchanges (A : Adapter σ) : Dialogue α → σ → List Exchange
  | done _, _ => []
  | login host credentials next, s =>
    let (answer, s) := A.login host credentials s
    .login host answer :: (next answer).exchanges A s
  | ask host op next, s =>
    let (answer, s) := A.execute host op s
    .operation host op answer :: (next answer).exchanges A s

/-! ### Exchanges of the pieces of work -/

theorem exchanges_pure (a : α) (s : σ) : (pure a : Dialogue α).exchanges A s = [] := rfl

theorem exchanges_connect (host : String) (credentials : Credentials) (s : σ) :
    (connect host credentials).exchanges A s = [.login host (A.login host credentials s).1] := rfl

theorem exchanges_send (host : String) (op : Operation) (s : σ) :
    (send host op).exchanges A s = [.operation host op (A.execute host op s).1] := rfl

theorem exchanges_bind (x : Dialogue α) (f : α → Dialogue β) (s : σ) :
    (x >>= f).exchanges A s = x.exchanges A s ++ (f (x.run A s).1).exchanges A (x.run A s).2 := by
  show (x.andThen f).exchanges A s = _
  induction x generalizing s with
  | done a => rfl
  | login host credentials next ih => exact congrArg _ (ih _ _)
  | ask host op next ih => exact congrArg _ (ih _ _)

theorem exchanges_perform (host : String) (op : Operation) (s : σ) :
    (perform host op).exchanges A s = [.operation host op (A.execute host op s).1] := by
  rw [perform, exchanges_bind, exchanges_send]
  split <;> rfl

theorem exchanges_query (host : String) (op : Operation) (read : Response → String → Except DeviceError α) (s : σ) :
    (query host op read).exchanges A s = [.operation host op (A.execute host op s).1] := by
  rw [query, exchanges_bind, exchanges_send]
  split <;> rfl

theorem exchanges_attempt (host : String) (op : Operation) (s : σ) :
    (attempt host op).exchanges A s = [.operation host op (A.execute host op s).1] := by
  rw [attempt, exchanges_bind, exchanges_send, exchanges_pure, List.append_nil]

theorem exchanges_step (operation host : String) (work : Dialogue (Except FailureCause Unit)) (s : σ) :
    (step operation host work).exchanges A s = work.exchanges A s := by
  rw [step, exchanges_bind]
  split <;> exact List.append_nil _

/-- Work in a session comes after a login that is accepted. -/
theorem exchanges_session (operation host : String) (credentials : Credentials) (work : Dialogue (List Failure))
    (s : σ) :
    (session operation host credentials work).exchanges A s =
      .login host (A.login host credentials s).1 ::
        if (A.login host credentials s).1.isOk then work.exchanges A (A.login host credentials s).2 else [] := by
  rw [session, exchanges_bind, exchanges_connect, run_connect]
  generalize A.login host credentials s = r
  obtain ⟨answer, s'⟩ := r
  cases answer <;> rfl

theorem exchanges_collect_cons (work : Dialogue (List Failure)) (rest : List (Dialogue (List Failure))) (s : σ) :
    (collect (work :: rest)).exchanges A s =
      work.exchanges A s ++ (collect rest).exchanges A (work.run A s).2 := by
  rw [collect, exchanges_bind, exchanges_bind, exchanges_pure, List.append_nil]

/-! ### Pieces of work for different subjects -/

private theorem collect_collect_cons (works after : List (Dialogue (List Failure))) :
    collect (collect works :: after) = collect (works ++ after) := by
  induction works with
  | nil => simp [collect]
  | cons work rest ih =>
    rw [List.cons_append, collect, collect, collect, ← ih, collect]
    simp only [bind_assoc, pure_bind, List.append_assoc]

/-- Pieces of work may be collected in groups. -/
theorem collect_collect (before works after : List (Dialogue (List Failure))) :
    collect (before ++ collect works :: after) = collect (before ++ works ++ after) := by
  induction before with
  | nil => exact collect_collect_cons works after
  | cons work rest ih =>
    rw [List.cons_append, collect, ih]
    rfl

/-- The exchanges of pieces of work one after the other, each with the subject of its piece. -/
def log (A : Adapter σ) : List (κ × Dialogue (List Failure)) → σ → List (κ × Exchange)
  | [], _ => []
  | (subject, work) :: rest, s => (work.exchanges A s).map (subject, ·) ++ log A rest (work.run A s).2

theorem exchanges_collect (tasks : List (κ × Dialogue (List Failure))) (s : σ) :
    (collect (tasks.map (·.2))).exchanges A s = (log A tasks s).map (·.2) := by
  induction tasks generalizing s with
  | nil => rfl
  | cons task rest ih =>
    obtain ⟨subject, work⟩ := task
    rw [List.map_cons, exchanges_collect_cons, ih, log, List.map_append, List.map_map]
    simp [Function.comp_def]

theorem mem_log {tasks : List (κ × Dialogue (List Failure))} {s : σ} {entry : κ × Exchange}
    (h : entry ∈ log A tasks s) : ∃ work s', (entry.1, work) ∈ tasks ∧ entry.2 ∈ work.exchanges A s' := by
  induction tasks generalizing s with
  | nil => cases h
  | cons task rest ih =>
    obtain ⟨subject, work⟩ := task
    rcases List.mem_append.1 h with h | h
    · obtain ⟨exchange, hexchange, rfl⟩ := List.mem_map.1 h
      exact ⟨work, s, List.mem_cons_self .., hexchange⟩
    · obtain ⟨work', s', htask, hexchange⟩ := ih h
      exact ⟨work', s', List.mem_cons_of_mem _ htask, hexchange⟩

end Dialogue

end FabricProvision

import Mathlib.Data.List.DropRight
import FabricProvision.Proofs.Pool.Calls

/-!
# Isolation of categories

The transcript of calls is what each of them answers, failures included.  A call on a category answers from the
stock of that category alone (`answer_of_stock_eq`), and the other calls leave that stock as it is, the teardown
of its fabric apart, which leaves nothing (`stock_after_other`).  So the entries of a category are those of the
calls on it alone, and begin anew with the last teardown of its fabric (`transcript_isolated`).
-/

namespace FabricProvision

/-- What a call answers when it does not fail. -/
inductive Answer (k : Kind) where
  | counted (units : Nat)
  | unit (unit : k.Unit)
  | done

namespace Call

variable {k : Kind}

/-- What a call answers on a pool. -/
def answer (p : Pool k) : Call k → Except PoolError (Answer k)
  | populate fabric category range allowSmall =>
    ((Pool.populate fabric category range allowSmall).run.run p).1.map .counted
  | draw fabric category owner => ((Pool.draw fabric category owner).run.run p).1.map .unit
  | allocated fabric category owner => ((Pool.allocated fabric category owner).run.run p).1.map .unit
  | reserve fabric category owner unit =>
    ((Pool.reserve fabric category owner unit).run.run p).1.map fun _ => .done
  | release fabric category owner unit =>
    ((Pool.release fabric category owner unit).run.run p).1.map fun _ => .done
  | count fabric category unit => .ok (.counted (p.count fabric category unit))
  | teardown _ => .ok .done

/-- The category that a call is on; a teardown is on none. -/
def key? : Call k → Option CategoryKey
  | populate fabric category .. | draw fabric category _ | allocated fabric category _
  | reserve fabric category .. | release fabric category .. | count fabric category _ => some ⟨fabric, category⟩
  | teardown _ => none

/-- The call is on a category. -/
def isOn (fabric : FabricId) (category : String) (call : Call k) : Bool := call.key? == some ⟨fabric, category⟩

/-- The call drops all records of a fabric. -/
def tearsDown (fabric : FabricId) : Call k → Bool
  | teardown fabric' => fabric' == fabric
  | _ => false

end Call

namespace Pool

variable {k : Kind}

/-- Calls, one after the other, with what each of them answers. -/
def transcript : Pool k → List (Call k) → List (Call k × Except PoolError (Answer k))
  | _, [] => []
  | p, call :: rest => (call, call.answer p) :: (call.after p).transcript rest

theorem transcript_append (p : Pool k) (calls calls' : List (Call k)) :
    p.transcript (calls ++ calls') = p.transcript calls ++ (calls.foldl Call.after p).transcript calls' := by
  induction calls generalizing p with
  | nil => rfl
  | cons call rest ih =>
    simp only [List.cons_append, transcript, List.foldl_cons]
    rw [ih]

/-! ### One call -/

section stocks

variable {p q : Pool k} {fabric : FabricId} {category : String}

/-- A step on a category answers from its stock, and leaves a stock that depends on nothing else. -/
private theorem onStock_of_stock_eq {α : Type} (step : StockM k α) (give : α → Answer k)
    (h : p.stock fabric category = q.stock fabric category) :
    ((onStock fabric category step).run.run p).1.map give = ((onStock fabric category step).run.run q).1.map give ∧
      ((onStock fabric category step).run.run p).2.stock fabric category =
        ((onStock fabric category step).run.run q).2.stock fabric category := by
  refine ⟨?_, ?_⟩
  · rw [run_onStock, run_onStock, h]
  · rw [stock_onStock, stock_onStock, h]

/-- Pools with the same stock of a category answer a call on it alike, and have the same stock afterwards. -/
theorem answer_of_stock_eq {call : Call k} (hon : call.isOn fabric category)
    (h : p.stock fabric category = q.stock fabric category) :
    call.answer p = call.answer q ∧ (call.after p).stock fabric category = (call.after q).stock fabric category := by
  have hkey : call.key? = some ⟨fabric, category⟩ := eq_of_beq hon
  cases call with
  | populate f c range allowSmall =>
    cases hkey
    exact onStock_of_stock_eq (Stock.populate range allowSmall) .counted h
  | draw f c owner =>
    cases hkey
    exact onStock_of_stock_eq (Stock.draw owner) .unit h
  | allocated f c owner =>
    cases hkey
    exact onStock_of_stock_eq (Stock.allocated owner) .unit h
  | reserve f c owner unit =>
    cases hkey
    exact onStock_of_stock_eq (Stock.reserve owner unit) (fun _ => .done) h
  | release f c owner unit =>
    cases hkey
    exact onStock_of_stock_eq (Stock.release owner unit) (fun _ => .done) h
  | count f c unit =>
    cases hkey
    exact ⟨by simp only [Call.answer, count, h], h⟩
  | teardown f => cases hkey

/-- A call that is neither on a category nor a teardown of its fabric leaves its stock as it is. -/
theorem stock_after_other (p : Pool k) {call : Call k} (hoff : ¬ call.isOn fabric category)
    (hkeeps : ¬ call.tearsDown fabric) : (call.after p).stock fabric category = p.stock fabric category := by
  -- A step on the stock of another category.
  have hother {α : Type} (step : StockM k α) {f : FabricId} {c : String}
      (hne : ¬ (some (⟨f, c⟩ : CategoryKey) == some ⟨fabric, category⟩)) :
      ((onStock f c step).run.run p).2.stock fabric category = p.stock fabric category := by
    rw [stock_onStock, if_neg]
    rintro ⟨rfl, rfl⟩
    exact hne (beq_self_eq_true _)
  cases call with
  | populate f c range allowSmall => exact hother _ hoff
  | draw f c owner => exact hother _ hoff
  | allocated f c owner => exact hother _ hoff
  | reserve f c owner unit => exact hother _ hoff
  | release f c owner unit => exact hother _ hoff
  | count f c unit => rfl
  | teardown f => exact stock_teardown_of_ne p (fun hf => hkeeps (beq_iff_eq.2 hf.symm)) category

theorem stock_after_teardown (p : Pool k) {call : Call k} (h : call.tearsDown fabric) :
    (call.after p).stock fabric category = {} := by
  cases call with
  | teardown f =>
    obtain rfl : f = fabric := eq_of_beq h
    exact stock_teardown_self p f category
  | _ => cases h

end stocks

/-! ### Sequences of calls -/

variable {fabric : FabricId}

/-- Between teardowns of its fabric, a category answers as if there were no calls but those on it. -/
private theorem filter_transcript {category : String} {calls : List (Call k)}
    (hkeeps : ∀ call ∈ calls, ¬ call.tearsDown fabric) {p q : Pool k}
    (h : p.stock fabric category = q.stock fabric category) :
    (p.transcript calls).filter (·.1.isOn fabric category) =
      q.transcript (calls.filter (·.isOn fabric category)) := by
  induction calls generalizing p q with
  | nil => rfl
  | cons call rest ih =>
    have hrest := fun c hc => hkeeps c (List.mem_cons_of_mem call hc)
    by_cases hon : call.isOn fabric category
    · obtain ⟨hanswer, hafter⟩ := answer_of_stock_eq hon h
      simp only [transcript, List.filter_cons, hon, if_true]
      rw [hanswer, ih hrest hafter]
    · have hafter := stock_after_other p hon (hkeeps call List.mem_cons_self)
      simp only [transcript, List.filter_cons, hon, Bool.false_eq_true, if_false]
      exact ih hrest (hafter.trans h)

/-- The entries since the last teardown of a fabric are the transcript of the calls since then, on the pool that
the teardown left. -/
private theorem rtakeWhile_transcript (p : Pool k) (calls : List (Call k)) :
    (p.transcript calls).rtakeWhile (fun entry => !entry.1.tearsDown fabric) =
      ((calls.rdropWhile (!·.tearsDown fabric)).foldl Call.after p).transcript
        (calls.rtakeWhile (!·.tearsDown fabric)) := by
  induction calls using List.reverseRecOn with
  | nil => rfl
  | append_singleton calls call ih =>
    rw [transcript_append]
    by_cases h : call.tearsDown fabric
    · simp [transcript, h]
    · simp only [transcript, List.rtakeWhile_concat, List.rdropWhile_concat, h, Bool.not_false, if_true]
      rw [ih, transcript_append, ← List.foldl_append, List.rdropWhile_append_rtakeWhile]
      rfl

/-- A fresh start: calls up to a teardown of a fabric leave nothing of it. -/
private theorem stock_rdropWhile (calls : List (Call k)) (category : String) :
    (afterCalls (calls.rdropWhile (!·.tearsDown fabric))).stock fabric category = {} := by
  by_cases hnil : calls.rdropWhile (!·.tearsDown fabric) = []
  · rw [hnil]
    simp [afterCalls, stock]
  · have hlast := List.rdropWhile_last_not (!·.tearsDown fabric) calls hnil
    rw [← List.dropLast_append_getLast hnil, afterCalls, List.foldl_append]
    exact stock_after_teardown _ (by simpa using hlast)

/-- Categories do not interfere, and a teardown is a fresh start: whatever calls a new pool serves, those on a
category since the last teardown of its fabric are answered as on a new pool that serves no other calls. -/
theorem transcript_isolated (calls : List (Call k)) (fabric : FabricId) (category : String) :
    ((({} : Pool k).transcript calls).rtakeWhile fun entry => !entry.1.tearsDown fabric).filter
        (·.1.isOn fabric category) =
      ({} : Pool k).transcript
        ((calls.rtakeWhile (!·.tearsDown fabric)).filter (·.isOn fabric category)) := by
  rw [rtakeWhile_transcript]
  refine filter_transcript (fun call hcall => ?_) ?_
  · simpa using List.mem_rtakeWhile_imp hcall
  · have hempty : ({} : Pool k).stock fabric category = {} := by simp [stock]
    rw [hempty]
    exact stock_rdropWhile calls category

end Pool

end FabricProvision

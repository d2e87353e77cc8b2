import FabricProvision.Pool.Basic
import FabricProvision.Proofs.Step.Run

/-!
# Sequences of calls

A pool is used by calls, one after the other, and keeps what a failing call did.  What one call does to the
stock of a category is one of three things (`stock_after`): nothing, one step on that stock, or dropping it.
So what holds of the empty stock and is kept by the steps holds of every stock of every pool in use.
-/

namespace FabricProvision

open Std (ExtTreeMap)
open Step

/-- A call of an operation on a pool. -/
inductive Call (k : Kind) where
  | populate (fabric : FabricId) (category range : String) (allowSmall : Bool)
  | draw (fabric : FabricId) (category : String) (owner : k.Owner)
  | allocated (fabric : FabricId) (category : String) (owner : k.Owner)
  | reserve (fabric : FabricId) (category : String) (owner : k.Owner) (unit : k.Unit)
  | release (fabric : FabricId) (category : String) (owner : k.Owner) (unit : k.Unit)
  | count (fabric : FabricId) (category : String) (unit : k.Unit)
  | teardown (fabric : FabricId)

namespace Call

variable {k : Kind}

/-- The pool after a call, whether it failed or not. -/
def after (p : Pool k) : Call k → Pool k
  | populate fabric category range allowSmall => ((Pool.populate fabric category range allowSmall).run.run p).2
  | draw fabric category owner => ((Pool.draw fabric category owner).run.run p).2
  | allocated fabric category owner => ((Pool.allocated fabric category owner).run.run p).2
  | reserve fabric category owner unit => ((Pool.reserve fabric category owner unit).run.run p).2
  | release fabric category owner unit => ((Pool.release fabric category owner unit).run.run p).2
  | count .. => p
  | teardown fabric => p.teardown fabric

/-- The failure of a call, if it fails. -/
def error? (p : Pool k) : Call k → Option PoolError
  | populate fabric category range allowSmall =>
    Step.error? ((Pool.populate fabric category range allowSmall).run.run p).1
  | draw fabric category owner => Step.error? ((Pool.draw fabric category owner).run.run p).1
  | allocated fabric category owner => Step.error? ((Pool.allocated fabric category owner).run.run p).1
  | reserve fabric category owner unit => Step.error? ((Pool.reserve fabric category owner unit).run.run p).1
  | release fabric category owner unit => Step.error? ((Pool.release fabric category owner unit).run.run p).1
  | count .. | teardown _ => none

end Call

/-- The pool after calls that begin with an empty one. -/
def Pool.afterCalls {k : Kind} (calls : List (Call k)) : Pool k := calls.foldl Call.after {}

/-- One step on a stock, whether it fails or not. -/
inductive Stock.Change {k : Kind} : Stock k → Stock k → Prop
  | populate (s : Stock k) (range : String) (allowSmall : Bool) :
      Change s ((Stock.populate range allowSmall).run.run s).2
  | draw (s : Stock k) (owner : k.Owner) : Change s ((Stock.draw owner).run.run s).2
  | allocated (s : Stock k) (owner : k.Owner) : Change s ((Stock.allocated owner).run.run s).2
  | reserve (s : Stock k) (owner : k.Owner) (unit : k.Unit) : Change s ((Stock.reserve owner unit).run.run s).2
  | release (s : Stock k) (owner : k.Owner) (unit : k.Unit) : Change s ((Stock.release owner unit).run.run s).2

namespace Pool

variable {k : Kind}

/-! ### Stocks of a pool -/

private theorem stock_setStock (p : Pool k) (fabric fabric' : FabricId) (category category' : String)
    (s : Stock k) :
    (p.setStock fabric category s).stock fabric' category' =
      if fabric = fabric' ∧ category = category' then s else p.stock fabric' category' := by
  unfold stock setStock
  simp only [ExtTreeMap.getD_eq_getD_getElem?, ExtTreeMap.getElem?_insert, Std.LawfulEqOrd.compare_eq_iff_eq,
    CategoryKey.mk.injEq]
  by_cases h : fabric = fabric' ∧ category = category'
  · simp only [h, and_self, if_true, Option.getD_some]
  · simp only [h, if_false]

theorem stock_teardown_self (p : Pool k) (fabric : FabricId) (category : String) :
    (p.teardown fabric).stock fabric category = {} := by
  unfold stock teardown
  rw [ExtTreeMap.getD_eq_getD_getElem?, ExtTreeMap.getElem?_filter']
  simp

theorem stock_teardown_of_ne (p : Pool k) {fabric fabric' : FabricId} (h : fabric' ≠ fabric) (category : String) :
    (p.teardown fabric).stock fabric' category = p.stock fabric' category := by
  unfold stock teardown
  rw [ExtTreeMap.getD_eq_getD_getElem?, ExtTreeMap.getD_eq_getD_getElem?, ExtTreeMap.getElem?_filter']
  have hne : (fabric' != fabric) = true := bne_iff_ne.2 h
  simp only [hne]
  cases p.stocks[(⟨fabric', category⟩ : CategoryKey)]? <;> rfl

/-- A call answers as its step does, and changes the stock of its category. -/
theorem run_onStock {α : Type} (fabric : FabricId) (category : String) (step : StockM k α) (p : Pool k) :
    (onStock fabric category step).run.run p =
      ((step.run.run (p.stock fabric category)).1.mapError (⟨k, fabric, category, ·⟩),
        p.setStock fabric category (step.run.run (p.stock fabric category)).2) := by
  unfold onStock
  simp only [run_bind, run_get]
  obtain ⟨answer, s⟩ := step.run.run (p.stock fabric category)
  simp only [run_bind, run_modify]
  cases answer <;> rfl

theorem stock_onStock {α : Type} (step : StockM k α) (p : Pool k) (fabric fabric' : FabricId)
    (category category' : String) :
    ((onStock fabric category step).run.run p).2.stock fabric' category' =
      if fabric = fabric' ∧ category = category' then (step.run.run (p.stock fabric' category')).2
      else p.stock fabric' category' := by
  rw [run_onStock, stock_setStock]
  by_cases h : fabric = fabric' ∧ category = category'
  · obtain ⟨rfl, rfl⟩ := h
    rw [if_pos ⟨rfl, rfl⟩]
  · rw [if_neg h, if_neg h]

private theorem change_onStock {α : Type} (step : StockM k α) (p : Pool k)
    (hstep : ∀ s, Stock.Change s (step.run.run s).2) (fabric fabric' : FabricId) (category category' : String) :
    ((onStock fabric category step).run.run p).2.stock fabric' category' = p.stock fabric' category' ∨
      Stock.Change (p.stock fabric' category')
        (((onStock fabric category step).run.run p).2.stock fabric' category') := by
  rw [stock_onStock]
  by_cases h : fabric = fabric' ∧ category = category'
  · rw [if_pos h]
    exact .inr (hstep _)
  · rw [if_neg h]
    exact .inl rfl

/-- What one call does to the stock of a category. -/
theorem stock_after (p : Pool k) (call : Call k) (fabric : FabricId) (category : String) :
    (call.after p).stock fabric category = p.stock fabric category ∨
      Stock.Change (p.stock fabric category) ((call.after p).stock fabric category) ∨
      (call.after p).stock fabric category = {} := by
  cases call with
  | populate f c range allowSmall =>
    exact (change_onStock _ p (fun s => .populate s range allowSmall) f fabric c category).imp_right .inl
  | draw f c owner => exact (change_onStock _ p (fun s => .draw s owner) f fabric c category).imp_right .inl
  | allocated f c owner =>
    exact (change_onStock _ p (fun s => .allocated s owner) f fabric c category).imp_right .inl
  | reserve f c owner unit =>
    exact (change_onStock _ p (fun s => .reserve s owner unit) f fabric c category).imp_right .inl
  | release f c owner unit =>
    exact (change_onStock _ p (fun s => .release s owner unit) f fabric c category).imp_right .inl
  | count f c unit => exact .inl rfl
  | teardown f =>
    by_cases h : fabric = f
    · subst h
      exact .inr (.inr (stock_teardown_self p fabric category))
    · exact .inl (stock_teardown_of_ne p h category)

/-- What holds of the empty stock and is kept by every step holds of all stocks after any calls. -/
theorem afterCalls_invariant {P : Stock k → Prop} (hempty : P {})
    (hchange : ∀ s s', P s → Stock.Change s s' → P s') (calls : List (Call k)) (fabric : FabricId)
    (category : String) : P ((afterCalls calls).stock fabric category) := by
  -- From any pool with the invariant, not only the empty one, so that calls can be taken off in front.
  have hall : ∀ p : Pool k, (∀ f c, P (p.stock f c)) → ∀ f c, P ((calls.foldl Call.after p).stock f c) := by
    induction calls with
    | nil => exact fun _ h => h
    | cons call rest ih =>
      intro p hp
      refine ih (call.after p) fun f c => ?_
      rcases stock_after p call f c with h | h | h
      · rw [h]
        exact hp f c
      · exact hchange _ _ (hp f c) h
      · rw [h]
        exact hempty
  refine hall {} (fun f c => ?_) fabric category
  have hstock : ({} : Pool k).stock f c = {} := by simp [stock]
  rw [hstock]
  exact hempty

end Pool

end FabricProvision

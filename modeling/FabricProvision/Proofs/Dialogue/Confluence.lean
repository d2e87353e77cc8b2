import FabricProvision.Proofs.Dialogue.Interference

/-!
# Confluence

A run of concurrent work with failures may end in different ways under different schedules.  Work is confluent if
that cannot happen to runs without failures: when the run has none under one schedule, it has none under any other,
and all of them end the same, as far as `q` shows (`Concurrent.Confluent`).  Pieces of confluent work one after the
other are confluent: stages the last of which is reached only without failures (`Concurrent.confluent_stop`), and work
whose failures are collected (`Concurrent.confluent_append`).
-/

namespace FabricProvision.Concurrent

open Dialogue

variable {α σ κ : Type} {A : Adapter σ} {q : σ → κ}

/-- A run without failures has none under other schedules either, and these end the same. -/
def Confluent (A : Adapter σ) (q : σ → κ) (work : Concurrent (List Failure)) : Prop :=
  ∀ x y, work.MayBe x → work.MayBe y → ∀ s t, q s = q t → (x.run A s).1 = [] →
    (y.run A t).1 = [] ∧ q (x.run A s).2 = q (y.run A t).2

variable {work following : Concurrent (List Failure)}

theorem confluent_only (hq : Shows A q) (x : Dialogue (List Failure)) : (only x).Confluent A q := by
  intro _ _ hx hy s t hst hclean
  cases hx
  cases hy
  obtain ⟨hanswer, hnext⟩ := hq.run x hst
  exact ⟨hanswer.symm.trans hclean, hnext⟩

/-- What is found out first is the same under all schedules. -/
theorem confluent_after (hq : Shows A q) {x : Dialogue α} {f : α → Concurrent (List Failure)}
    (hf : ∀ a, (f a).Confluent A q) : (only x >>= f).Confluent A q := by
  rintro _ _ ⟨_, next, hx, hnext, rfl⟩ ⟨_, next', hy, hnext', rfl⟩ s t hst hclean
  cases hx
  cases hy
  rw [run_bind] at hclean
  obtain ⟨hanswer, hstate⟩ := hq.run x hst
  rw [run_bind, run_bind, ← hanswer]
  exact hf _ _ _ (hnext _) (hnext' _) _ _ hstate hclean

/-- Work whose failures are added to those of what comes before. -/
theorem confluent_append (hwork : work.Confluent A q) (hfollowing : following.Confluent A q) :
    Confluent A q (do
      let early ← work
      let late ← following
      return early ++ late) := by
  rintro _ _ ⟨x, next, hx, hnext, rfl⟩ ⟨y, next', hy, hnext', rfl⟩ s t hst hclean
  obtain ⟨x', last, hx', hlast, hnext⟩ := hnext (x.run A s).1
  obtain ⟨y', last', hy', hlast', hnext'⟩ := hnext' (y.run A t).1
  have hleft : (x >>= next).run A s =
      ((x.run A s).1 ++ (x'.run A (x.run A s).2).1, (x'.run A (x.run A s).2).2) := by
    rw [run_bind, hnext, run_bind, hlast]
    rfl
  have hright : (y >>= next').run A t =
      ((y.run A t).1 ++ (y'.run A (y.run A t).2).1, (y'.run A (y.run A t).2).2) := by
    rw [run_bind, hnext', run_bind, hlast']
    rfl
  rw [hleft] at hclean ⊢
  rw [hright]
  obtain ⟨hfirst, hlater⟩ := List.append_eq_nil_iff.1 hclean
  obtain ⟨hfirst', hstate⟩ := hwork x y hx hy s t hst hfirst
  obtain ⟨hlater', hstate'⟩ := hfollowing x' y' hx' hy' _ _ hstate hlater
  exact ⟨List.append_eq_nil_iff.2 ⟨hfirst', hlater'⟩, hstate'⟩

/-- Work whose failures may be the last runs as one of its schedules, followed by one of the other work if it reports
none. -/
theorem exists_run_stop {z : Dialogue (List Failure)} (hz : MayBe (do
      let errors ← work
      if !errors.isEmpty then return errors
      following) z) :
    ∃ x y, work.MayBe x ∧ following.MayBe y ∧ ∀ s, z.run A s =
      if (x.run A s).1 = [] then y.run A (x.run A s).2 else x.run A s := by
  obtain ⟨x, next, hx, hnext, rfl⟩ := hz
  refine ⟨x, next [], hx, hnext [], fun s => ?_⟩
  rw [run_bind]
  generalize x.run A s = r
  obtain ⟨errors, s'⟩ := r
  cases errors with
  | nil => rfl
  | cons f rest =>
    have hlast : next (f :: rest) = pure (f :: rest) := hnext (f :: rest)
    dsimp only
    rw [hlast]
    rfl

/-- Work whose failures may be the last. -/
theorem confluent_stop (hwork : work.Confluent A q) (hfollowing : following.Confluent A q) :
    Confluent A q (do
      let errors ← work
      if !errors.isEmpty then return errors
      following) := by
  intro x y hx hy s t hst hclean
  obtain ⟨x, x', hx, hx', hrun⟩ := exists_run_stop (A := A) hx
  obtain ⟨y, y', hy, hy', hrun'⟩ := exists_run_stop (A := A) hy
  rw [hrun] at hclean ⊢
  rw [hrun']
  by_cases hfirst : (x.run A s).1 = []
  · obtain ⟨hfirst', hstate⟩ := hwork x y hx hy s t hst hfirst
    rw [if_pos hfirst] at hclean ⊢
    rw [if_pos hfirst']
    exact hfollowing x' y' hx' hy' _ _ hstate hclean
  · rw [if_neg hfirst] at hclean
    exact absurd hclean hfirst

end FabricProvision.Concurrent

import FabricProvision.Proofs.Dialogue.Within

/-!
# Runs without failures

Work on switches reports its failures.  `Brings A P x Q` says of a piece of work that from a state with `P` a
run without failures ends in a state with `Q`; pieces one after the other are chained by `brings_collect_cons`,
and a piece among others establishes what the later ones keep (`brings_fanOut_mem`).  A run of pieces has no failure
if each piece has what it relies on and those before it keep that (`clean_fanOut`).

`Idle A q x s` says that work has nothing to do: it reports no failure and leaves what `q` shows of the state
`s` as it was.  When the answers of the adapter only depend on what `q` shows (`Shows`), pieces with nothing to
do can be put together.
-/

namespace FabricProvision.Dialogue

variable {α σ κ : Type} {A : Adapter σ}

/-! ### Runs of the pieces of work -/

theorem run_collect_nil (A : Adapter σ) (s : σ) : (collect []).run A s = ([], s) := rfl

theorem run_collect_cons (A : Adapter σ) (work : Dialogue (List Failure)) (rest : List (Dialogue (List Failure)))
    (s : σ) :
    (collect (work :: rest)).run A s =
      ((work.run A s).1 ++ ((collect rest).run A (work.run A s).2).1,
        ((collect rest).run A (work.run A s).2).2) := by
  simp only [collect, run_bind]
  rfl

theorem run_collect_append (A : Adapter σ) (xs ys : List (Dialogue (List Failure))) (s : σ) :
    (collect (xs ++ ys)).run A s =
      (((collect xs).run A s).1 ++ ((collect ys).run A ((collect xs).run A s).2).1,
        ((collect ys).run A ((collect xs).run A s).2).2) := by
  induction xs generalizing s with
  | nil => rfl
  | cons x xs ih =>
    rw [List.cons_append, run_collect_cons, run_collect_cons, ih]
    simp only [List.append_assoc]

theorem run_fanOut_one (A : Adapter σ) (a : α) (work : α → Dialogue (List Failure)) (s : σ) :
    (fanOut [a] work).run A s = (work a).run A s := by
  rw [fanOut, List.map_singleton, run_collect_cons, run_collect_nil, List.append_nil]

theorem run_session (A : Adapter σ) (operation host : String) (credentials : Credentials)
    (work : Dialogue (List Failure)) (s : σ) :
    (session operation host credentials work).run A s =
      match A.login host credentials s with
      | (.ok _, s') => work.run A s'
      | (.error e, s') => ([⟨operation, host, .login e⟩], s') := by
  simp only [session, run_bind, run_connect]
  generalize A.login host credentials s = r
  obtain ⟨answer, s'⟩ := r
  cases answer <;> rfl

theorem run_step (A : Adapter σ) (operation host : String) (work : Dialogue (Except FailureCause Unit)) (s : σ) :
    (step operation host work).run A s =
      match work.run A s with
      | (.ok _, s') => ([], s')
      | (.error cause, s') => ([⟨operation, host, cause⟩], s') := by
  simp only [step, run_bind]
  generalize work.run A s = r
  obtain ⟨answer, s'⟩ := r
  cases answer <;> rfl

theorem run_perform (A : Adapter σ) (host : String) (op : Operation) (s : σ) :
    (perform host op).run A s =
      match A.execute host op s with
      | (.ok _, s') => (.ok ⟨⟩, s')
      | (.error e, s') => (.error (.step e), s') := by
  simp only [perform, run_bind, run_send]
  generalize A.execute host op s = r
  obtain ⟨answer, s'⟩ := r
  cases answer <;> rfl

theorem run_attempt (A : Adapter σ) (host : String) (op : Operation) (s : σ) :
    (attempt host op).run A s = (⟨⟩, (A.execute host op s).2) := by
  simp only [attempt, run_bind, run_send]
  rfl

theorem run_query (A : Adapter σ) (host : String) (op : Operation)
    (read : Response → String → Except DeviceError α) (s : σ) :
    (query host op read).run A s =
      match A.execute host op s with
      | (.ok answer, s') => (read answer op.name, s')
      | (.error e, s') => (.error e, s') := by
  simp only [query, run_bind, run_send]
  generalize A.execute host op s = r
  obtain ⟨answer, s'⟩ := r
  cases answer <;> rfl

theorem run_forM_cons (A : Adapter σ) (a : α) (rest : List α) (work : α → Dialogue Unit) (s : σ) :
    ((a :: rest).forM work).run A s = (rest.forM work).run A ((work a).run A s).2 :=
  run_bind A (work a) (fun _ => rest.forM work) s

/-- Work whose failures are the last is followed by other work only if it reports none. -/
theorem run_stop (A : Adapter σ) (x y : Dialogue (List Failure)) (s : σ) :
    (do
      let errors ← x
      if !errors.isEmpty then return errors
      y : Dialogue (List Failure)).run A s =
      if (x.run A s).1 = [] then y.run A (x.run A s).2 else x.run A s := by
  rw [run_bind]
  generalize x.run A s = r
  obtain ⟨errors, s'⟩ := r
  cases errors with
  | nil => rfl
  | cons f rest => rfl

/-! ### What runs without failures establish -/

/-- From a state with `P`, a run without failures ends in a state with `Q`. -/
def Brings (A : Adapter σ) (P : σ → Prop) (x : Dialogue (List Failure)) (Q : σ → Prop) : Prop :=
  ∀ s, P s → (x.run A s).1 = [] → Q (x.run A s).2

variable {P Q R : σ → Prop}

theorem Brings.weaken {P' Q' : σ → Prop} {x : Dialogue (List Failure)} (h : Brings A P x Q)
    (hP : ∀ s, P' s → P s) (hQ : ∀ s, Q s → Q' s) : Brings A P' x Q' :=
  fun s hs hclean => hQ _ (h s (hP s hs) hclean)

theorem brings_collect_nil : Brings A P (collect []) P := fun _ hs _ => hs

theorem brings_collect_cons {work : Dialogue (List Failure)} {rest : List (Dialogue (List Failure))}
    (hwork : Brings A P work Q) (hrest : Brings A Q (collect rest) R) : Brings A P (collect (work :: rest)) R := by
  intro s hs hclean
  rw [run_collect_cons] at hclean ⊢
  obtain ⟨hfirst, hlater⟩ := List.append_eq_nil_iff.1 hclean
  exact hrest _ (hwork s hs hfirst) hlater

theorem brings_collect_append {xs ys : List (Dialogue (List Failure))} (hxs : Brings A P (collect xs) Q)
    (hys : Brings A Q (collect ys) R) : Brings A P (collect (xs ++ ys)) R := by
  intro s hs hclean
  rw [run_collect_append] at hclean ⊢
  obtain ⟨hfirst, hlater⟩ := List.append_eq_nil_iff.1 hclean
  exact hys _ (hxs s hs hfirst) hlater

theorem brings_collect_keeps {works : List (Dialogue (List Failure))} (h : ∀ work ∈ works, Brings A P work P) :
    Brings A P (collect works) P := by
  induction works with
  | nil => exact brings_collect_nil
  | cons work rest ih => exact brings_collect_cons (h work (by simp)) (ih fun w hw => h w (by simp [hw]))

theorem brings_fanOut_keeps {targets : List α} {work : α → Dialogue (List Failure)}
    (h : ∀ a ∈ targets, Brings A P (work a) P) : Brings A P (fanOut targets work) P := by
  refine brings_collect_keeps fun w hw => ?_
  obtain ⟨a, ha, rfl⟩ := List.mem_map.1 hw
  exact h a ha

theorem brings_fanOut_append {xs ys : List α} {work : α → Dialogue (List Failure)}
    (hxs : Brings A P (fanOut xs work) Q) (hys : Brings A Q (fanOut ys work) R) :
    Brings A P (fanOut (xs ++ ys) work) R := by
  unfold fanOut at *
  rw [List.map_append]
  exact brings_collect_append hxs hys

/-- A piece of work is preceded and followed by others. -/
theorem brings_collect_mid {before after : List (Dialogue (List Failure))} {work : Dialogue (List Failure)}
    (hbefore : ∀ w ∈ before, Brings A P w P) (hwork : Brings A P work Q) (hafter : ∀ w ∈ after, Brings A Q w Q) :
    Brings A P (collect (before ++ work :: after)) Q :=
  brings_collect_append (brings_collect_keeps hbefore) (brings_collect_cons hwork (brings_collect_keeps hafter))

/-- A target's work is preceded and followed by the work on other targets. -/
theorem brings_fanOut_mem {targets : List α} {work : α → Dialogue (List Failure)} {a : α} (ha : a ∈ targets)
    {other : α → α → Prop} (hother : targets.Pairwise other)
    (hbefore : ∀ b ∈ targets, other b a → Brings A P (work b) P) (hwork : Brings A P (work a) Q)
    (hafter : ∀ b ∈ targets, other a b → Brings A Q (work b) Q) : Brings A P (fanOut targets work) Q := by
  obtain ⟨before, after, rfl⟩ := List.append_of_mem ha
  obtain ⟨-, hcons, hcross⟩ := List.pairwise_append.1 hother
  unfold fanOut
  rw [List.map_append, List.map_cons]
  refine brings_collect_mid (fun w hw => ?_) hwork fun w hw => ?_
  · obtain ⟨b, hb, rfl⟩ := List.mem_map.1 hw
    exact hbefore b (by simp [hb]) (hcross b hb a (by simp))
  · obtain ⟨b, hb, rfl⟩ := List.mem_map.1 hw
    exact hafter b (by simp [hb]) ((List.pairwise_cons.1 hcons).1 b hb)

theorem brings_stop {x y : Dialogue (List Failure)} (hx : Brings A P x Q) (hy : Brings A Q y R) :
    Brings A P (do
      let errors ← x
      if !errors.isEmpty then return errors
      y) R := by
  intro s hs hclean
  rw [run_stop] at hclean ⊢
  by_cases hfirst : (x.run A s).1 = []
  · rw [if_pos hfirst] at hclean ⊢
    exact hy _ (hx s hs hfirst) hclean
  · rw [if_neg hfirst] at hclean
    exact absurd hclean hfirst

theorem brings_true (x : Dialogue (List Failure)) : Brings A P x fun _ => True := fun _ _ _ => trivial

theorem brings_all {ι : Type} {S : ι → Prop} {Q : ι → σ → Prop} {x : Dialogue (List Failure)}
    (h : ∀ i, S i → Brings A P x (Q i)) : Brings A P x fun s => ∀ i, S i → Q i s :=
  fun s hs hclean i hi => h i hi s hs hclean

/-! ### Runs that end without failures -/

theorem clean_collect_cons {work : Dialogue (List Failure)} {rest : List (Dialogue (List Failure))} {s : σ}
    (hwork : (work.run A s).1 = []) (hrest : ((collect rest).run A (work.run A s).2).1 = []) :
    ((collect (work :: rest)).run A s).1 = [] := by
  rw [run_collect_cons, hwork, hrest]
  rfl

/-- What the work on a target relies on, the work on the targets before it keeps. -/
theorem clean_fanOut {targets : List α} {work : α → Dialogue (List Failure)} {P : α → σ → Prop}
    (hkeeps : targets.Pairwise fun a b => ∀ s, P b s → P b ((work a).run A s).2)
    (hwork : ∀ a ∈ targets, ∀ s, P a s → ((work a).run A s).1 = []) {s : σ} (hs : ∀ a ∈ targets, P a s) :
    ((fanOut targets work).run A s).1 = [] := by
  induction targets generalizing s with
  | nil => rfl
  | cons a rest ih =>
    obtain ⟨hfirst, hrest⟩ := List.pairwise_cons.1 hkeeps
    refine clean_collect_cons (hwork a (by simp) s (hs a (by simp))) (ih hrest (fun b hb => hwork b (by simp [hb])) ?_)
    exact fun b hb => hfirst b hb s (hs b (by simp [hb]))

/-! ### Runs with nothing to do -/

/-- The adapter answers and goes on by what `q` shows of the state. -/
structure Shows (A : Adapter σ) (q : σ → κ) : Prop where
  login : ∀ host credentials s t, q s = q t → (A.login host credentials s).1 = (A.login host credentials t).1 ∧
    q (A.login host credentials s).2 = q (A.login host credentials t).2
  execute : ∀ host op s t, q s = q t → (A.execute host op s).1 = (A.execute host op t).1 ∧
    q (A.execute host op s).2 = q (A.execute host op t).2

theorem Shows.run {q : σ → κ} (hq : Shows A q) (x : Dialogue α) {s t : σ} (h : q s = q t) :
    (x.run A s).1 = (x.run A t).1 ∧ q (x.run A s).2 = q (x.run A t).2 :=
  Within.run_simulation A A (fun host credentials s t _ => hq.login host credentials s t)
    (fun host op s t _ => hq.execute host op s t) (stays_any x) h

/-- The work reports no failure and shows no change. -/
def Idle (A : Adapter σ) (q : σ → κ) (x : Dialogue (List Failure)) (s : σ) : Prop :=
  (x.run A s).1 = [] ∧ q (x.run A s).2 = q s

theorem Idle.congr {q : σ → κ} (hq : Shows A q) {x : Dialogue (List Failure)} {s t : σ} (h : q s = q t)
    (hidle : Idle A q x s) : Idle A q x t := by
  obtain ⟨hanswer, hnext⟩ := hq.run x h
  exact ⟨hanswer ▸ hidle.1, by rw [← hnext, hidle.2, h]⟩

theorem idle_collect {q : σ → κ} (hq : Shows A q) {works : List (Dialogue (List Failure))} {s : σ}
    (h : ∀ work ∈ works, Idle A q work s) : Idle A q (collect works) s := by
  induction works generalizing s with
  | nil => exact ⟨rfl, rfl⟩
  | cons work rest ih =>
    have hwork := h work (by simp)
    -- The first piece left the same to be seen, so the others still have nothing to do.
    have hrest : Idle A q (collect rest) (work.run A s).2 :=
      ih fun w hw => (h w (by simp [hw])).congr hq hwork.2.symm
    unfold Idle
    rw [run_collect_cons]
    exact ⟨by rw [hwork.1, hrest.1]; rfl, hrest.2.trans hwork.2⟩

theorem idle_fanOut {q : σ → κ} (hq : Shows A q) {targets : List α} {work : α → Dialogue (List Failure)} {s : σ}
    (h : ∀ a ∈ targets, Idle A q (work a) s) : Idle A q (fanOut targets work) s := by
  refine idle_collect hq fun w hw => ?_
  obtain ⟨a, ha, rfl⟩ := List.mem_map.1 hw
  exact h a ha

end FabricProvision.Dialogue

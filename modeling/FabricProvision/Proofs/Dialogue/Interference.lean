import FabricProvision.Proofs.Dialogue.Clean
import FabricProvision.Proofs.Dialogue.Interleaving

/-!
# Interference

Between two exchanges of a task other tasks have theirs.  `Dialogue.Secures A rely guar Q x s` says that the task
`x` copes with that: begun in the state `s`, it ends with what satisfies `Q`, as long as others only change the
state as `rely` allows; and its own exchanges only change the state as `guar` allows.  Tasks each of which relies
on no more than what the others guarantee can be interleaved at will (`Dialogue.Interleaves.secures`).

A task whose answers the others do not affect does what it does alone (`Dialogue.Within.secures`).
-/

namespace FabricProvision

namespace Dialogue

variable {α β σ τ : Type} {A : Adapter σ} {rely guar : σ → σ → Prop}

/-- Whatever others do in between, as long as it is allowed by `rely`, the exchanges of the dialogue are allowed by
`guar`, and it ends with what satisfies `Q`. -/
def Secures (A : Adapter σ) (rely guar : σ → σ → Prop) (Q : α → σ → Prop) : Dialogue α → σ → Prop
  | done a, s => ∀ s', rely s s' → Q a s'
  | login host credentials next, s => ∀ s', rely s s' → guar s' (A.login host credentials s').2 ∧
      (next (A.login host credentials s').1).Secures A rely guar Q (A.login host credentials s').2
  | ask host op next, s => ∀ s', rely s s' → guar s' (A.execute host op s').2 ∧
      (next (A.execute host op s').1).Secures A rely guar Q (A.execute host op s').2

section rules

variable {Q R : α → σ → Prop} {s s' : σ} {x : Dialogue α}

theorem Secures.mono (h : x.Secures A rely guar Q s) (hQ : ∀ a s, Q a s → R a s) : x.Secures A rely guar R s := by
  induction x generalizing s with
  | done a => exact fun s' hs => hQ a s' (h s' hs)
  | login host credentials next ih => exact fun s' hs => ⟨(h s' hs).1, ih _ (h s' hs).2⟩
  | ask host op next ih => exact fun s' hs => ⟨(h s' hs).1, ih _ (h s' hs).2⟩

/-- What was secured in the end stays secured. -/
theorem Secures.lasts (htrans : ∀ s s' s'', rely s s' → rely s' s'' → rely s s'') (h : x.Secures A rely guar Q s) :
    x.Secures A rely guar (fun a s' => ∀ s'', rely s' s'' → Q a s'') s := by
  induction x generalizing s with
  | done a => exact fun s' hs s'' hs' => h s'' (htrans _ _ _ hs hs')
  | login host credentials next ih => exact fun s' hs => ⟨(h s' hs).1, ih _ (h s' hs).2⟩
  | ask host op next ih => exact fun s' hs => ⟨(h s' hs).1, ih _ (h s' hs).2⟩

/-- What neither others nor the dialogue itself take away is still there in the end. -/
theorem Secures.keeps {I : σ → Prop} (h : x.Secures A rely guar Q s) (hrely : ∀ s s', rely s s' → I s → I s')
    (hguar : ∀ s s', guar s s' → I s → I s') (hs : I s) :
    x.Secures A rely guar (fun a s' => Q a s' ∧ I s') s := by
  induction x generalizing s with
  | done a => exact fun s' hs' => ⟨h s' hs', hrely s s' hs' hs⟩
  | login host credentials next ih =>
    intro s' hs'
    obtain ⟨hturn, hnext⟩ := h s' hs'
    exact ⟨hturn, ih _ hnext (hguar _ _ hturn (hrely s s' hs' hs))⟩
  | ask host op next ih =>
    intro s' hs'
    obtain ⟨hturn, hnext⟩ := h s' hs'
    exact ⟨hturn, ih _ hnext (hguar _ _ hturn (hrely s s' hs' hs))⟩

/-- What is guaranteed may be weakened. -/
theorem Secures.widen {guar' : σ → σ → Prop} (h : x.Secures A rely guar Q s) (hguar : ∀ s s', guar s s' → guar' s s') :
    x.Secures A rely guar' Q s := by
  induction x generalizing s with
  | done a => exact h
  | login host credentials next ih => exact fun s' hs => ⟨hguar _ _ (h s' hs).1, ih _ (h s' hs).2⟩
  | ask host op next ih => exact fun s' hs => ⟨hguar _ _ (h s' hs).1, ih _ (h s' hs).2⟩

theorem secures_pure {a : α} (h : ∀ s', rely s s' → Q a s') : (pure a : Dialogue α).Secures A rely guar Q s := h

theorem Secures.bind {S : β → σ → Prop} {f : α → Dialogue β} (hrefl : ∀ s, rely s s)
    (h : x.Secures A rely guar (fun a s' => (f a).Secures A rely guar S s') s) :
    (x >>= f).Secures A rely guar S s := by
  show (x.andThen f).Secures A rely guar S s
  induction x generalizing s with
  | done a => exact h s (hrefl s)
  | login host credentials next ih => exact fun s' hs => ⟨(h s' hs).1, ih _ (h s' hs).2⟩
  | ask host op next ih => exact fun s' hs => ⟨(h s' hs).1, ih _ (h s' hs).2⟩

theorem secures_performStep {Q : List Failure → σ → Prop} {operation host : String} {op : Operation}
    (h : ∀ s', rely s s' → guar s' (A.execute host op s').2 ∧ ∀ s'', rely (A.execute host op s').2 s'' →
      match (A.execute host op s').1 with
      | .ok _ => Q [] s''
      | .error e => Q [⟨operation, host, .step e⟩] s'') :
    (performStep operation host op).Secures A rely guar Q s := by
  intro s' hs
  obtain ⟨hguar, hQ⟩ := h s' hs
  refine ⟨hguar, ?_⟩
  rcases hanswer : (A.execute host op s').1 with e | answer <;> rw [hanswer] at hQ <;> exact hQ

/-- Others may have done something before the dialogue begins. -/
theorem Secures.shift (htrans : ∀ s s' s'', rely s s' → rely s' s'' → rely s s'')
    (h : x.Secures A rely guar Q s) (hs : rely s s') : x.Secures A rely guar Q s' := by
  cases x with
  | done a => exact fun s'' hs' => h s'' (htrans _ _ _ hs hs')
  | login host credentials next => exact fun s'' hs' => h s'' (htrans _ _ _ hs hs')
  | ask host op next => exact fun s'' hs' => h s'' (htrans _ _ _ hs hs')

/-- The dialogue alone. -/
theorem Secures.run (hrely : ∀ s, rely s s) (hrefl : ∀ s, guar s s)
    (htrans : ∀ s s' s'', guar s s' → guar s' s'' → guar s s'') (h : x.Secures A rely guar Q s) :
    guar s (x.run A s).2 ∧ Q (x.run A s).1 (x.run A s).2 := by
  induction x generalizing s with
  | done a => exact ⟨hrefl s, h s (hrely s)⟩
  | login host credentials next ih =>
    obtain ⟨hguar, hnext⟩ := h s (hrely s)
    obtain ⟨hrest, hQ⟩ := ih _ hnext
    exact ⟨htrans _ _ _ hguar hrest, hQ⟩
  | ask host op next ih =>
    obtain ⟨hguar, hnext⟩ := h s (hrely s)
    obtain ⟨hrest, hQ⟩ := ih _ hnext
    exact ⟨htrans _ _ _ hguar hrest, hQ⟩

/-- What others do between the exchanges of a dialogue does not matter if the answers, and the states as far as `R`
tells them apart, are those of a run without others. -/
theorem Within.secures {scope : Scope} {B : Adapter τ} {R : σ → τ → Prop} {P : α → Prop}
    (hx : x.Within scope P) (hrely : ∀ s s' t, rely s s' → R s t → R s' t)
    (hlogin : ∀ host credentials s t, scope.logins host → R s t → guar s (A.login host credentials s).2 ∧
      (A.login host credentials s).1 = (B.login host credentials t).1 ∧
        R (A.login host credentials s).2 (B.login host credentials t).2)
    (hexecute : ∀ host op s t, scope.operations host op → R s t → guar s (A.execute host op s).2 ∧
      (A.execute host op s).1 = (B.execute host op t).1 ∧ R (A.execute host op s).2 (B.execute host op t).2)
    {t : τ} (hst : R s t) :
    x.Secures A rely guar (fun a s' => a = (x.run B t).1 ∧ R s' (x.run B t).2) s := by
  induction x generalizing s t with
  | done a => exact fun s' hs => ⟨rfl, hrely s s' t hs hst⟩
  | login host credentials next ih =>
    intro s' hs
    obtain ⟨hguar, hanswer, hnext⟩ := hlogin host credentials s' t hx.1 (hrely s s' t hs hst)
    refine ⟨hguar, ?_⟩
    rw [hanswer]
    exact ih _ (hx.2 _) hnext
  | ask host op next ih =>
    intro s' hs
    obtain ⟨hguar, hanswer, hnext⟩ := hexecute host op s' t hx.1 (hrely s s' t hs hst)
    refine ⟨hguar, ?_⟩
    rw [hanswer]
    exact ih _ (hx.2 _) hnext

/-- Where others may do anything, nothing is known of a dialogue but its scope. -/
theorem Within.secures_ends {scope : Scope} {P : α → Prop} (hx : x.Within scope P)
    (hlogin : ∀ host credentials s, scope.logins host → guar s (A.login host credentials s).2)
    (hexecute : ∀ host op s, scope.operations host op → guar s (A.execute host op s).2) (s : σ) :
    x.Secures A rely guar (fun a _ => P a) s := by
  induction x generalizing s with
  | done a => exact fun _ _ => hx
  | login host credentials next ih => exact fun s' _ => ⟨hlogin host credentials s' hx.1, ih _ (hx.2 _) _⟩
  | ask host op next ih => exact fun s' _ => ⟨hexecute host op s' hx.1, ih _ (hx.2 _) _⟩

end rules

/-! ### Interleaved tasks -/

/-- What tasks on several targets rely on and guarantee: each relies on nothing but what may happen to all of them
together, and what the others guarantee. -/
structure Cooperate {ι : Type} (targets : List ι) (relies guars : ι → σ → σ → Prop) (rely guar : σ → σ → Prop) :
    Prop where
  trans : ∀ a ∈ targets, ∀ s s' s'', relies a s s' → relies a s' s'' → relies a s s''
  rely : ∀ a ∈ targets, ∀ s s', rely s s' → relies a s s'
  guar : ∀ a ∈ targets, ∀ s s', guars a s s' → guar s s'
  apart : targets.Pairwise fun a b => (∀ s s', guars a s s' → relies b s s') ∧ ∀ s s', guars b s s' → relies a s s'

/-- Tasks that rely on nothing but what all of them guarantee. -/
theorem cooperate_all {ι : Type} (targets : List ι) (R : σ → σ → Prop)
    (htrans : ∀ s s' s'', R s s' → R s' s'' → R s s'') : Cooperate targets (fun _ => R) (fun _ => R) R R :=
  ⟨fun _ _ => htrans, fun _ _ _ _ h => h, fun _ _ _ _ h => h,
    List.pairwise_of_forall fun _ _ => ⟨fun _ _ h => h, fun _ _ h => h⟩⟩

section interleaved

variable {ι : Type} {targets : List ι} {relies guars : ι → σ → σ → Prop} {Q : ι → List Failure → σ → Prop}

/-- The tasks, from a state on, secure what their targets ask for. -/
private abbrev AllSecure (A : Adapter σ) (relies guars : ι → σ → σ → Prop) (Q : ι → List Failure → σ → Prop) (s : σ) :
    List ι → List (Dialogue (List Failure)) → Prop :=
  List.Forall₂ fun a task => task.Secures A (relies a) (guars a) (Q a) s

private theorem AllSecure.shift {tasks : List (Dialogue (List Failure))} {s s' : σ}
    (htrans : ∀ a ∈ targets, ∀ s s' s'', relies a s s' → relies a s' s'' → relies a s s'')
    (hs : ∀ a ∈ targets, relies a s s') (h : AllSecure A relies guars Q s targets tasks) :
    AllSecure A relies guars Q s' targets tasks :=
  (forall₂_with_mem h).imp fun a _ ⟨ha, htask⟩ => htask.shift (htrans a ha) (hs a ha)

/-- The tasks other than the one whose turn it is cope with its exchange. -/
private theorem AllSecure.turn (hco : Cooperate targets relies guars rely guar)
    {tasks : List (Dialogue (List Failure))} {i : Nat} {task : Dialogue (List Failure)} {s : σ}
    (h : AllSecure A relies guars Q s targets tasks) (hi : tasks[i]? = some task) :
    ∃ a ∈ targets, task.Secures A (relies a) (guars a) (Q a) s ∧
      ∀ task' s' s'', rely s s' → guars a s' s'' → task'.Secures A (relies a) (guars a) (Q a) s'' →
        AllSecure A relies guars Q s'' targets (tasks.set i task') := by
  obtain ⟨before, a, after, before', after', rfl, hset, hbefore, ha, hafter⟩ := split_forall₂ h hi
  obtain ⟨-, hcons, hcross⟩ := List.pairwise_append.1 hco.apart
  refine ⟨a, by simp, ha, fun task' s' s'' hs hs' htask' => ?_⟩
  have hothers : ∀ b ∈ before ++ a :: after, (∀ s s', guars a s s' → relies b s s') → relies b s s'' :=
    fun b hb hb' => hco.trans b hb s s' s'' (hco.rely b hb s s' hs) (hb' s' s'' hs')
  have hmemBefore : ∀ b ∈ before, b ∈ before ++ a :: after := fun b hb => by simp [hb]
  have hmemAfter : ∀ b ∈ after, b ∈ before ++ a :: after := fun b hb => by simp [hb]
  rw [hset]
  refine List.rel_append (AllSecure.shift (fun b hb => hco.trans b (hmemBefore b hb)) (fun b hb => ?_) hbefore)
    (.cons htask' (AllSecure.shift (fun b hb => hco.trans b (hmemAfter b hb)) (fun b hb => ?_) hafter))
  · exact hothers b (hmemBefore b hb) (hcross b hb a (by simp)).2
  · exact hothers b (hmemAfter b hb) ((List.pairwise_cons.1 hcons).1 b hb).1

/-- Interleaved tasks secure what each of them secures. -/
theorem Interleaves.secures (hco : Cooperate targets relies guars rely guar) {tasks : List (Dialogue (List Failure))}
    {x : Dialogue (List Failure)} (hx : Interleaves tasks x) {s : σ}
    (htasks : List.Forall₂ (fun a task => task.Secures A (relies a) (guars a) (Q a) s) targets tasks) :
    x.Secures A rely guar
      (fun merged s' => ∃ failures, List.Forall₂ (fun a list => Q a list s') targets failures ∧
        Merges failures merged) s := by
  induction hx generalizing s with
  | @done failures merged h =>
    intro s' hs
    rw [List.forall₂_map_right_iff] at htasks
    refine ⟨failures, ?_, h⟩
    exact (forall₂_with_mem htasks).imp fun a _ ⟨ha, hdone⟩ => hdone s' (hco.rely a ha s s' hs)
  | login h _ ih =>
    obtain ⟨a, ha, htask, hturn⟩ := AllSecure.turn hco htasks h
    intro s' hs
    obtain ⟨hguar, hnext⟩ := htask s' (hco.rely a ha s s' hs)
    exact ⟨hco.guar a ha _ _ hguar, ih _ (hturn _ s' _ hs hguar hnext)⟩
  | ask h _ ih =>
    obtain ⟨a, ha, htask, hturn⟩ := AllSecure.turn hco htasks h
    intro s' hs
    obtain ⟨hguar, hnext⟩ := htask s' (hco.rely a ha s s' hs)
    exact ⟨hco.guar a ha _ _ hguar, ih _ (hturn _ s' _ hs hguar hnext)⟩

end interleaved

end Dialogue

/-! ### Concurrent work -/

namespace Concurrent

variable {α β σ : Type} {A : Adapter σ} {rely guar : σ → σ → Prop} {s : σ}

/-- The work secures `Q` under every schedule. -/
def Secures (A : Adapter σ) (rely guar : σ → σ → Prop) (Q : α → σ → Prop) (work : Concurrent α) (s : σ) : Prop :=
  ∀ x, work.MayBe x → x.Secures A rely guar Q s

theorem Secures.mono {Q R : α → σ → Prop} {work : Concurrent α} (h : work.Secures A rely guar Q s)
    (hQ : ∀ a s, Q a s → R a s) : work.Secures A rely guar R s := fun x hx => (h x hx).mono hQ

theorem Secures.lasts {Q : α → σ → Prop} {work : Concurrent α}
    (htrans : ∀ s s' s'', rely s s' → rely s' s'' → rely s s'') (h : work.Secures A rely guar Q s) :
    work.Secures A rely guar (fun a s' => ∀ s'', rely s' s'' → Q a s'') s := fun x hx => (h x hx).lasts htrans

theorem secures_pure {Q : α → σ → Prop} {a : α} (h : ∀ s', rely s s' → Q a s') :
    (pure a : Concurrent α).Secures A rely guar Q s := by
  rintro _ rfl
  exact h

theorem secures_only {Q : α → σ → Prop} {x : Dialogue α} (h : x.Secures A rely guar Q s) :
    (only x).Secures A rely guar Q s := by
  rintro _ rfl
  exact h

theorem Secures.bind {R : β → σ → Prop} {work : Concurrent α} {following : α → Concurrent β}
    (hrefl : ∀ s, rely s s)
    (h : work.Secures A rely guar (fun a s' => (following a).Secures A rely guar R s') s) :
    (work >>= following).Secures A rely guar R s := by
  rintro _ ⟨y, next, hy, hnext, rfl⟩
  exact ((h y hy).mono fun a s' ha => ha (next a) (hnext a)).bind hrefl

/-- Work whose failures may be the last. -/
theorem Secures.stop {Q : List Failure → σ → Prop} {work following : Concurrent (List Failure)}
    (hrefl : ∀ s, rely s s)
    (h : work.Secures A rely guar (fun errors s' =>
      if errors = [] then following.Secures A rely guar Q s' else ∀ s'', rely s' s'' → Q errors s'') s) :
    Secures A rely guar Q (do
      let errors ← work
      if !errors.isEmpty then return errors
      following) s := by
  refine Secures.bind hrefl (h.mono fun errors s' hs' => ?_)
  cases errors with
  | nil => exact hs'
  | cons f rest => exact secures_pure hs'

theorem secures_fanOut {ι : Type} {targets : List ι} {work : ι → Concurrent (List Failure)}
    {relies guars : ι → σ → σ → Prop} {Q : ι → List Failure → σ → Prop}
    (hco : Dialogue.Cooperate targets relies guars rely guar)
    (h : ∀ a ∈ targets, (work a).Secures A (relies a) (guars a) (Q a) s) :
    (fanOut targets work).Secures A rely guar
      (fun merged s' => ∃ failures, List.Forall₂ (fun a list => Q a list s') targets failures ∧
        Merges failures merged) s := by
  rintro x ⟨tasks, htasks, hx⟩
  exact hx.secures hco ((forall₂_with_mem htasks).imp fun a task ⟨ha, htask⟩ => h a ha task htask)

/-! ### Work that does what it does alone -/

/-- Whatever others do, the work does what a dialogue does alone, as far as `R` tells. -/
def Mirrors {τ : Type} (A : Adapter σ) (B : Adapter τ) (rely guar : σ → σ → Prop) (R : σ → τ → Prop)
    (work : Concurrent (List Failure)) (z : Dialogue (List Failure)) : Prop :=
  ∀ s t, R s t → work.Secures A rely guar (fun failures s' => failures = (z.run B t).1 ∧ R s' (z.run B t).2) s

/-- After pieces of work that do what they do alone, a last one may secure more. -/
theorem secures_collect_last {τ : Type} {B : Adapter τ} {R : σ → τ → Prop} {Q : List Failure → σ → Prop}
    (hrefl : ∀ s, rely s s) (htrans : ∀ s s' s'', rely s s' → rely s' s'' → rely s s'')
    {works : List (Concurrent (List Failure))} {zs : List (Dialogue (List Failure))}
    (hworks : List.Forall₂ (Mirrors A B rely guar R) works zs) {last : Concurrent (List Failure)} {t : τ} (hst : R s t)
    (hlast : ∀ s', R s' ((Dialogue.collect zs).run B t).2 →
      last.Secures A rely guar (fun later s'' => Q (((Dialogue.collect zs).run B t).1 ++ later) s'') s') :
    (collect (works ++ [last])).Secures A rely guar Q s := by
  induction hworks generalizing s t Q with
  | nil =>
    have hend := Secures.lasts htrans (hlast s hst)
    refine Secures.bind hrefl (hend.mono fun later s₁ hlater => Secures.bind hrefl ?_)
    refine secures_pure fun s₂ hs₂ => secures_pure fun s₃ hs₃ => ?_
    rw [List.append_nil]
    exact hlater s₃ (htrans _ _ _ hs₂ hs₃)
  | @cons work z works zs hwork _ ih =>
    refine Secures.bind hrefl ((hwork s t hst).mono ?_)
    rintro _ s₁ ⟨rfl, hs₁⟩
    refine Secures.bind hrefl (ih hs₁ fun s₂ hs₂ => ?_)
    have hend := hlast s₂
    rw [Dialogue.run_collect_cons] at hend
    refine (Secures.lasts htrans (hend hs₂)).mono fun later s₃ hlater => secures_pure fun s₄ hs₄ => ?_
    rw [← List.append_assoc]
    exact hlater s₄ hs₄

end Concurrent

end FabricProvision

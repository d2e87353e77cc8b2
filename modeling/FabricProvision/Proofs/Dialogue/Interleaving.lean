import FabricProvision.Proofs.Dialogue.Clean
import FabricProvision.Provision.Schedule
import Mathlib.Data.List.Basic

/-!
# Interleavings

Tasks that run one after the other are interleaved (`Dialogue.interleaves_collect`), and so are tasks whose turns
are listed (`Dialogue.interleaves_weave`).  There are no other interleavings: from every state the run of one is
the run of a list of turns (`Dialogue.Interleaves.exists_weave`).

So the dialogue of the list-order schedule is one of the dialogues that concurrent work may be.
-/

namespace FabricProvision

variable {α β : Type}

/-! ### Matched lists -/

theorem forall₂_with_mem {R : α → β → Prop} {as : List α} {bs : List β} (h : List.Forall₂ R as bs) :
    List.Forall₂ (fun a b => a ∈ as ∧ R a b) as bs := (List.forall₂_and_left as bs).2 ⟨fun _ ha => ha, h⟩

/-- Each element of a list belongs to one of the list that it is matched with. -/
theorem exists_of_mem_forall₂ {R : α → β → Prop} {as : List α} {bs : List β} (h : List.Forall₂ R as bs) {b : β}
    (hb : b ∈ bs) : ∃ a ∈ as, R a b := by
  induction h with
  | nil => cases hb
  | @cons a b' as bs hab _ ih =>
    rcases List.mem_cons.1 hb with rfl | hb
    · exact ⟨a, List.mem_cons_self, hab⟩
    · obtain ⟨a', ha', hab'⟩ := ih hb
      exact ⟨a', List.mem_cons_of_mem _ ha', hab'⟩

/-- Matched lists are split at an element of the second one. -/
theorem split_forall₂ {R : α → β → Prop} {as : List α} {bs : List β} (h : List.Forall₂ R as bs) {i : Nat}
    {b : β} (hb : bs[i]? = some b) :
    ∃ before a after before' after', as = before ++ a :: after ∧ (∀ b', bs.set i b' = before' ++ b' :: after') ∧
      List.Forall₂ R before before' ∧ R a b ∧ List.Forall₂ R after after' := by
  induction h generalizing i with
  | nil => simp at hb
  | @cons a b' as bs hab h ih =>
    cases i with
    | zero =>
      cases hb
      exact ⟨[], a, as, [], bs, rfl, fun _ => rfl, .nil, hab, h⟩
    | succ i =>
      obtain ⟨before, a', after, before', after', rfl, hset, hbefore, hmid, hafter⟩ := ih hb
      exact ⟨a :: before, a', after, b' :: before', after', rfl, fun b'' => congrArg (b' :: ·) (hset b''),
        .cons hab hbefore, hmid, hafter⟩

/-! ### Merged lists -/

/-- A list is split at one of its elements. -/
private theorem split_at {list : List α} {i : Nat} {a : α} (h : list[i]? = some a) :
    ∃ before after, list = before ++ a :: after ∧ ∀ b, list.set i b = before ++ b :: after := by
  obtain ⟨hi, rfl⟩ := List.getElem?_eq_some_iff.1 h
  exact ⟨list.take i, list.drop (i + 1), by simp, fun b => List.set_eq_take_append_cons_drop.trans (if_pos hi)⟩

namespace Merges

variable {lists : List (List α)} {merged : List α}

theorem perm (h : Merges lists merged) : merged.Perm lists.flatten := by
  induction h with
  | nil h => rw [List.flatten_eq_nil_iff.2 h]
  | @cons lists i a rest merged h _ ih =>
    obtain ⟨before, after, rfl, hset⟩ := split_at h
    rw [hset rest] at ih
    simp only [List.flatten_append, List.flatten_cons, List.cons_append] at ih ⊢
    exact (ih.cons a).trans List.perm_middle.symm

theorem mem_iff (h : Merges lists merged) {a : α} : a ∈ merged ↔ ∃ list ∈ lists, a ∈ list := by
  rw [h.perm.mem_iff, List.mem_flatten]

theorem eq_nil_iff (h : Merges lists merged) : merged = [] ↔ ∀ list ∈ lists, list = [] := by
  rw [← List.flatten_eq_nil_iff]
  exact ⟨fun hnil => List.perm_nil.1 (hnil ▸ h.perm.symm), fun hnil => List.perm_nil.1 (hnil ▸ h.perm)⟩

/-- Whether there are failures in the end depends on each of the targets. -/
theorem eq_nil_iff_forall {targets : List β} {R : β → List α → Prop} {P : β → Prop} (h : Merges lists merged)
    (hlists : List.Forall₂ R targets lists) (hR : ∀ b ∈ targets, ∀ list, R b list → (list = [] ↔ P b)) :
    merged = [] ↔ ∀ b ∈ targets, P b := by
  rw [h.eq_nil_iff]
  clear h
  induction hlists with
  | nil => simp
  | @cons b list targets lists hb _ ih =>
    rw [List.forall_mem_cons, List.forall_mem_cons, hR b List.mem_cons_self list hb,
      ih fun b' hb' => hR b' (List.mem_cons_of_mem b hb')]

private theorem nil_cons (h : Merges lists merged) : Merges ([] :: lists) merged := by
  induction h with
  | nil h => exact .nil (by simpa using h)
  | @cons lists i a rest merged h _ ih => exact .cons (i := i + 1) h ih

private theorem append (h : Merges lists merged) (list : List α) : Merges (list :: lists) (list ++ merged) := by
  induction list with
  | nil => exact h.nil_cons
  | cons a rest ih => exact .cons (i := 0) rfl ih

/-- The lists one after the other. -/
theorem flatten (lists : List (List α)) : Merges lists lists.flatten := by
  induction lists with
  | nil => exact .nil (by simp)
  | cons list lists ih => exact ih.append list

theorem filter (h : Merges lists merged) (p : α → Bool) : Merges (lists.map (List.filter p)) (merged.filter p) := by
  induction h with
  | nil h =>
    refine .nil fun list hlist => ?_
    obtain ⟨list, hmem, rfl⟩ := List.mem_map.1 hlist
    rw [h list hmem, List.filter_nil]
  | @cons lists i a rest merged h _ ih =>
    rw [List.map_set] at ih
    have hlist : (lists.map (List.filter p))[i]? = some ((a :: rest).filter p) := by rw [List.getElem?_map, h]; rfl
    by_cases ha : p a = true
    · rw [List.filter_cons_of_pos ha] at hlist ⊢
      exact .cons hlist ih
    · -- The element is dropped from the list that it comes from as well.
      rw [List.filter_cons_of_neg ha] at hlist ⊢
      obtain ⟨hi, hrest⟩ := List.getElem?_eq_some_iff.1 hlist
      rwa [← hrest, List.set_getElem_self] at ih

/-- Of lists at most one of which has elements there is one merge. -/
theorem eq_flatten (h : Merges lists merged) (hlone : lists.Pairwise fun a b => a = [] ∨ b = []) :
    merged = lists.flatten := by
  induction h with
  | nil h => rw [List.flatten_eq_nil_iff.2 h]
  | @cons lists i a rest merged h _ ih =>
    obtain ⟨before, after, rfl, hset⟩ := split_at h
    obtain ⟨hbefore, hcons, hcross⟩ := List.pairwise_append.1 hlone
    obtain ⟨hhead, hafter⟩ := List.pairwise_cons.1 hcons
    have hnoneBefore : ∀ list ∈ before, list = [] := fun list hlist =>
      (hcross list hlist _ List.mem_cons_self).resolve_right nofun
    have hnoneAfter : ∀ list ∈ after, list = [] := fun list hlist => (hhead list hlist).resolve_left nofun
    have hmerged := ih (by
      rw [hset rest]
      refine List.pairwise_append.2 ⟨hbefore, List.pairwise_cons.2 ⟨fun list hlist => .inr (hnoneAfter list hlist), hafter⟩,
        fun list hlist _ _ => .inl (hnoneBefore list hlist)⟩)
    rw [hmerged, hset rest]
    simp only [List.flatten_append, List.flatten_cons, List.flatten_eq_nil_iff.2 hnoneBefore, List.nil_append,
      List.cons_append]

end Merges

/-! ### The interleavings of tasks -/

namespace Dialogue

variable {σ : Type} {tasks : List (Dialogue (List Failure))} {x : Dialogue (List Failure)}

/-- The first tasks are done, the others follow one after the other. -/
private theorem interleaves_after (finished : List (List Failure)) (tasks : List (Dialogue (List Failure))) :
    Interleaves (finished.map done ++ tasks) (collect tasks >>= fun later => pure (finished.flatten ++ later)) := by
  induction tasks generalizing finished with
  | nil =>
    have hmerges := Merges.flatten finished
    rw [← List.append_nil finished.flatten] at hmerges
    rw [List.append_nil]
    exact .done hmerges
  | cons work rest ih =>
    have hassoc : (collect (work :: rest) >>= fun later => pure (finished.flatten ++ later)) =
        work >>= fun first => collect rest >>= fun later => pure (finished.flatten ++ (first ++ later)) := by
      simp only [collect, bind_assoc, pure_bind]
    rw [hassoc]
    clear hassoc
    have hget : ∀ task, (finished.map done ++ task :: rest)[finished.length]? = some task := by simp
    have hset : ∀ task task', (finished.map done ++ task :: rest).set finished.length task' =
        finished.map done ++ task' :: rest := by simp
    -- The task goes on until it is done; then it is one of those that are.
    induction work with
    | done first =>
      have h := ih (finished ++ [first])
      simp only [List.map_append, List.map_cons, List.map_nil, List.flatten_append, List.flatten_cons,
        List.flatten_nil, List.append_assoc, List.cons_append, List.nil_append] at h
      exact h
    | login host credentials next ihnext =>
      refine .login (hget _) fun answer => ?_
      rw [hset]
      exact ihnext answer
    | ask host op next ihnext =>
      refine .ask (hget _) fun answer => ?_
      rw [hset]
      exact ihnext answer

/-- Tasks one after the other. -/
theorem interleaves_collect (tasks : List (Dialogue (List Failure))) : Interleaves tasks (collect tasks) := by
  have h := interleaves_after [] tasks
  simpa using h

/-- Tasks with listed turns. -/
theorem interleaves_weave (turns : List Nat) (tasks : List (Dialogue (List Failure))) :
    Interleaves tasks (weave turns tasks) := by
  induction turns generalizing tasks with
  | nil => exact interleaves_collect tasks
  | cons i turns ih =>
    unfold weave
    split
    · rename_i h
      exact .login h fun answer => ih _
    · rename_i h
      exact .ask h fun answer => ih _
    · exact ih tasks

private theorem run_collect_done (A : Adapter σ) (failures : List (List Failure)) (s : σ) :
    (collect (failures.map done)).run A s = (failures.flatten, s) := by
  induction failures with
  | nil => rfl
  | cons first rest ih => rw [List.map_cons, run_collect_cons, show (done first).run A s = (first, s) from rfl, ih]; rfl

/-- From each state the run of an interleaving is one with listed turns. -/
theorem Interleaves.exists_weave (A : Adapter σ) (h : Interleaves tasks x) (s : σ) :
    ∃ turns, ((weave turns tasks).run A s).2 = (x.run A s).2 ∧
      ((weave turns tasks).run A s).1.Perm (x.run A s).1 := by
  induction h generalizing s with
  | @done failures merged h =>
    refine ⟨[], ?_⟩
    rw [weave, run_collect_done]
    exact ⟨rfl, h.perm.symm⟩
  | @login tasks i host credentials next together h _ ih =>
    obtain ⟨turns, hturns⟩ := ih (A.login host credentials s).1 (A.login host credentials s).2
    refine ⟨i :: turns, ?_⟩
    simp only [weave, h]
    exact hturns
  | @ask tasks i host op next together h _ ih =>
    obtain ⟨turns, hturns⟩ := ih (A.execute host op s).1 (A.execute host op s).2
    refine ⟨i :: turns, ?_⟩
    simp only [weave, h]
    exact hturns

end Dialogue

/-! ### The list-order schedule -/

namespace Concurrent

theorem mayBe_bind {work : Concurrent α} {following : α → Concurrent β} {x : Dialogue α} {next : α → Dialogue β}
    (hx : work.MayBe x) (hnext : ∀ a, (following a).MayBe (next a)) : (work >>= following).MayBe (x >>= next) :=
  ⟨x, next, hx, hnext, rfl⟩

theorem mayBe_collect {works : List (Concurrent (List Failure))} {xs : List (Dialogue (List Failure))}
    (h : List.Forall₂ (fun (work : Concurrent (List Failure)) x => work.MayBe x) works xs) :
    (collect works).MayBe (Dialogue.collect xs) := by
  induction h with
  | nil => rfl
  | cons hwork _ ih => exact mayBe_bind hwork fun _ => mayBe_bind ih fun _ => rfl

section targets

variable {targets : List α} {work : α → Concurrent (List Failure)} {task : α → Dialogue (List Failure)}

/-- Work on several targets may be any interleaving of what the work on each of them may be. -/
theorem mayBe_interleaving (h : ∀ a ∈ targets, (work a).MayBe (task a)) {x : Dialogue (List Failure)}
    (hx : Dialogue.Interleaves (targets.map task) x) : (fanOut targets work).MayBe x :=
  ⟨targets.map task, List.forall₂_map_right_iff.2 (List.forall₂_same.2 h), hx⟩

theorem mayBe_fanOut (h : ∀ a ∈ targets, (work a).MayBe (task a)) :
    (fanOut targets work).MayBe (Dialogue.fanOut targets task) := mayBe_interleaving h (Dialogue.interleaves_collect _)

theorem mayBe_weave (turns : List Nat) (h : ∀ a ∈ targets, (work a).MayBe (task a)) :
    (fanOut targets work).MayBe (Dialogue.weave turns (targets.map task)) :=
  mayBe_interleaving h (Dialogue.interleaves_weave turns _)

end targets

/-- Without targets there is nothing to do. -/
theorem eq_of_mayBe_fanOut_nil {work : α → Concurrent (List Failure)} {x : Dialogue (List Failure)}
    (hx : (fanOut [] work).MayBe x) : x = pure [] := by
  obtain ⟨tasks, htasks, hx⟩ := hx
  cases htasks
  generalize hnil : ([] : List (Dialogue (List Failure))) = tasks at hx
  cases hx with
  | done h =>
    cases List.map_eq_nil_iff.1 hnil.symm
    exact congrArg Dialogue.done (h.eq_nil_iff.2 (by simp))
  | login h => simp [← hnil] at h
  | ask h => simp [← hnil] at h

theorem fanOut_congr {targets : List α} {work work' : α → Concurrent (List Failure)}
    (h : ∀ a ∈ targets, work a = work' a) : fanOut targets work = fanOut targets work' := by
  refine congrArg mk (funext fun x => propext (exists_congr fun tasks => and_congr_left fun _ => ?_))
  constructor
  · exact fun hall => (forall₂_with_mem hall).imp fun a _ ⟨ha, hmay⟩ => h a ha ▸ hmay
  · exact fun hall => (forall₂_with_mem hall).imp fun a _ ⟨ha, hmay⟩ => (h a ha).symm ▸ hmay

theorem mayBe_session {operation host : String} {credentials : Credentials} {work : Concurrent (List Failure)}
    {x : Dialogue (List Failure)} (h : work.MayBe x) :
    (session operation host credentials work).MayBe (Dialogue.session operation host credentials x) := by
  refine mayBe_bind rfl fun answer => ?_
  cases answer with
  | ok _ => exact h
  | error e => rfl

theorem mayBe_stop {work following : Concurrent (List Failure)} {x y : Dialogue (List Failure)} (hx : work.MayBe x)
    (hy : following.MayBe y) :
    (do
      let errors ← work
      if !errors.isEmpty then return errors
      following : Concurrent (List Failure)).MayBe (do
        let errors ← x
        if !errors.isEmpty then return errors
        y) := by
  refine mayBe_bind hx fun errors => ?_
  split
  · rfl
  · exact hy

end Concurrent

end FabricProvision

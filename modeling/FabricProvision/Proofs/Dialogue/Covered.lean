import FabricProvision.Proofs.Dialogue.Ends
import FabricProvision.Proofs.Dialogue.Interleaving
import Mathlib.Data.List.Perm.Basic

/-!
# Work covered by a dialogue

What is known of a dialogue because of the operations that it may send, and because of its ends, is known under
every schedule of the work: this says no more and ends no other way than the dialogue of the list-order schedule
does (`Concurrent.Covered`).  That holds of concurrent work piece by piece, since tasks that are interleaved do
between them what each of them does (`Dialogue.Interleaves.stays`, `Dialogue.Interleaves.ends`).
-/

namespace FabricProvision

variable {α β : Type}

namespace Dialogue

variable {logins : String → Except DeviceError Unit → Prop} {scope : Scope}

/-! ### Pieces of work -/

/-- Work on several targets stays in a scope only if each piece of it does. -/
private theorem stays_of_collect {works : List (Dialogue (List Failure))} (h : (collect works).Stays scope) :
    ∀ work ∈ works, work.Stays scope := by
  induction works with
  | nil => simp
  | cons work rest ih =>
    obtain ⟨hwork, hrest⟩ := stays_bind.1 h
    obtain ⟨first, hfirst⟩ := work.exists_mayEnd
    exact List.forall_mem_cons.2 ⟨hwork, ih (stays_bind.1 (hrest first hfirst)).1⟩

private theorem ends_collect {works : List (Dialogue (List Failure))} {ends : List (List Failure)}
    (h : List.Forall₂ (Ends logins) works ends) : (collect works).Ends logins ends.flatten := by
  induction h with
  | nil => rfl
  | @cons work first works ends hfirst _ ih => exact ends_bind.2 ⟨first, hfirst, ends_bind.2 ⟨ends.flatten, ih, rfl⟩⟩

section interleaved

variable {tasks : List (Dialogue (List Failure))} {x : Dialogue (List Failure)}

/-- If tasks stay within a scope, so does what they do together. -/
theorem Interleaves.stays (hx : Interleaves tasks x) (h : ∀ task ∈ tasks, task.Stays scope) : x.Stays scope := by
  have hset : ∀ {tasks : List (Dialogue (List Failure))} {i : Nat} {task : Dialogue (List Failure)},
      (∀ task ∈ tasks, task.Stays scope) → task.Stays scope → ∀ task' ∈ tasks.set i task, task'.Stays scope :=
    fun h htask task' hmem => (List.mem_or_eq_of_mem_set hmem).elim (h task') fun heq => heq ▸ htask
  induction hx with
  | done => trivial
  | login hi _ ih =>
    obtain ⟨hlogin, hnext⟩ := h _ (List.mem_of_getElem? hi)
    exact ⟨hlogin, fun answer => ih answer (hset h (hnext answer))⟩
  | ask hi _ ih =>
    obtain ⟨hop, hnext⟩ := h _ (List.mem_of_getElem? hi)
    exact ⟨hop, fun answer => ih answer (hset h (hnext answer))⟩

/-- Tasks may end as they may after the next answer to one of them. -/
private theorem ends_of_set {i : Nat} {task task' : Dialogue (List Failure)} {ends : List (List Failure)}
    (hi : tasks[i]? = some task) (htask : ∀ a, task'.Ends logins a → task.Ends logins a)
    (h : List.Forall₂ (Ends logins) (tasks.set i task') ends) : List.Forall₂ (Ends logins) tasks ends := by
  obtain ⟨_, rfl⟩ := List.getElem?_eq_some_iff.1 hi
  refine List.forall₂_iff_get.2 ⟨by simpa using h.length_eq, fun j hj hj' => ?_⟩
  have hend := h.get (by simpa using hj) hj'
  by_cases hij : i = j
  · subst hij
    simp only [List.get_eq_getElem, List.getElem_set_self] at hend
    exact htask _ hend
  · simpa [List.getElem_set_of_ne hij] using hend

/-- The ends of tasks that are interleaved are merged. -/
theorem Interleaves.ends (hx : Interleaves tasks x) {merged : List Failure} (h : x.Ends logins merged) :
    ∃ ends, List.Forall₂ (Ends logins) tasks ends ∧ Merges ends merged := by
  induction hx with
  | done hmerges =>
    cases h
    exact ⟨_, List.forall₂_map_left_iff.2 (List.forall₂_same.2 fun _ _ => rfl), hmerges⟩
  | login hi _ ih =>
    obtain ⟨answer, hlogin, h⟩ := h
    obtain ⟨ends, hends, hmerges⟩ := ih answer h
    exact ⟨ends, ends_of_set hi (fun a ha => ⟨answer, hlogin, ha⟩) hends, hmerges⟩
  | ask hi _ ih =>
    obtain ⟨answer, h⟩ := h
    obtain ⟨ends, hends, hmerges⟩ := ih answer h
    exact ⟨ends, ends_of_set hi (fun a ha => ⟨answer, ha⟩) hends, hmerges⟩

end interleaved

end Dialogue

/-! ### Concurrent work -/

namespace Concurrent

/-- Under every schedule the work stays in all scopes in which a dialogue stays, and whatever is answered to logins, its
ends are those of the dialogue, up to what `Like` allows. -/
structure Covered (Like : α → α → Prop) (work : Concurrent α) (z : Dialogue α) : Prop where
  stays : ∀ x, work.MayBe x → ∀ scope, z.Stays scope → x.Stays scope
  ends : ∀ x, work.MayBe x → ∀ logins a, x.Ends logins a → ∃ b, z.Ends logins b ∧ Like a b

variable {Like : α → α → Prop} {Like' : β → β → Prop}

theorem covered_pure {a b : α} (h : Like a b) : Covered Like (pure a) (pure b) := by
  refine ⟨?_, ?_⟩
  · rintro _ rfl scope -
    exact Dialogue.within_pure trivial
  · rintro _ rfl logins _ rfl
    exact ⟨b, rfl, h⟩

theorem covered_only (hrefl : ∀ a, Like a a) (z : Dialogue α) : Covered Like (only z) z := by
  refine ⟨?_, ?_⟩
  · rintro _ rfl scope h
    exact h
  · rintro _ rfl logins a ha
    exact ⟨a, ha, hrefl a⟩

theorem covered_bind {work : Concurrent α} {following : α → Concurrent β} {z : Dialogue α} {next : α → Dialogue β}
    (hwork : Covered Like work z) (hnext : ∀ a b, Like a b → Covered Like' (following a) (next b)) :
    Covered Like' (work >>= following) (z >>= next) := by
  refine ⟨?_, ?_⟩
  · rintro _ ⟨y, f, hy, hf, rfl⟩ scope hz
    obtain ⟨hz, hrest⟩ := Dialogue.stays_bind.1 hz
    refine Dialogue.stays_bind.2 ⟨hwork.stays y hy scope hz, fun a ha => ?_⟩
    obtain ⟨b, hb, hab⟩ := hwork.ends y hy _ a ha
    exact (hnext a b hab).stays _ (hf a) scope (hrest b hb)
  · rintro _ ⟨y, f, hy, hf, rfl⟩ logins c hc
    obtain ⟨a, ha, hc⟩ := Dialogue.ends_bind.1 hc
    obtain ⟨b, hb, hab⟩ := hwork.ends y hy logins a ha
    obtain ⟨d, hd, hcd⟩ := (hnext a b hab).ends _ (hf a) logins c hc
    exact ⟨d, Dialogue.ends_bind.2 ⟨b, hb, hd⟩, hcd⟩

/-- The order of failures apart, the dialogue covers the work. -/
abbrev CoveredBy (work : Concurrent (List Failure)) (z : Dialogue (List Failure)) : Prop := Covered List.Perm work z

theorem covered_collect {works : List (Concurrent (List Failure))} {zs : List (Dialogue (List Failure))}
    (h : List.Forall₂ CoveredBy works zs) : (collect works).CoveredBy (Dialogue.collect zs) := by
  induction h with
  | nil => exact covered_pure (List.Perm.refl [])
  | cons hwork _ ih =>
    refine covered_bind hwork fun first first' hfirst => ?_
    exact covered_bind ih fun later later' hlater => covered_pure (hfirst.append hlater)

theorem covered_fanOut {targets : List α} {work : α → Concurrent (List Failure)} {z : α → Dialogue (List Failure)}
    (h : ∀ a ∈ targets, (work a).CoveredBy (z a)) : (fanOut targets work).CoveredBy (Dialogue.fanOut targets z) := by
  refine ⟨?_, ?_⟩
  · rintro x ⟨tasks, htasks, hx⟩ scope hz
    refine hx.stays fun task htask => ?_
    obtain ⟨a, ha, hmay⟩ := exists_of_mem_forall₂ htasks htask
    exact (h a ha).stays task hmay scope (Dialogue.stays_of_collect hz (z a) (List.mem_map_of_mem ha))
  · rintro x ⟨tasks, htasks, hx⟩ logins merged hmerged
    obtain ⟨ends, hends, hmerges⟩ := hx.ends hmerged
    obtain ⟨lists, hlists, hlike⟩ : ∃ lists, List.Forall₂ (fun a list => (z a).Ends logins list) targets lists ∧
        List.Forall₂ List.Perm ends lists := by
      clear hx hmerges
      induction htasks generalizing ends with
      | nil => cases hends; exact ⟨[], .nil, .nil⟩
      | @cons a task targets tasks hmay _ ih =>
        obtain _ | ⟨hend, hrest⟩ := hends
        obtain ⟨list, hlist, hperm⟩ := (h a List.mem_cons_self).ends task hmay logins _ hend
        obtain ⟨lists, hlists, hlike⟩ := ih (fun b hb => h b (List.mem_cons_of_mem a hb)) _ hrest
        exact ⟨list :: lists, .cons hlist hlists, .cons hperm hlike⟩
    refine ⟨lists.flatten, Dialogue.ends_collect (List.forall₂_map_left_iff.2 hlists), ?_⟩
    exact hmerges.perm.trans (List.Perm.flatten_congr hlike)

theorem covered_session {operation host : String} {credentials : Credentials} {work : Concurrent (List Failure)}
    {z : Dialogue (List Failure)} (h : work.CoveredBy z) :
    (session operation host credentials work).CoveredBy (Dialogue.session operation host credentials z) := by
  refine covered_bind (covered_only (fun _ => rfl) _) ?_
  rintro answer _ rfl
  cases answer with
  | ok _ => exact h
  | error e => exact covered_pure (List.Perm.refl _)

theorem covered_stop {work following : Concurrent (List Failure)} {z y : Dialogue (List Failure)}
    (hwork : work.CoveredBy z) (hfollowing : following.CoveredBy y) :
    CoveredBy (do
      let errors ← work
      if !errors.isEmpty then return errors
      following) (do
        let errors ← z
        if !errors.isEmpty then return errors
        y) := by
  refine covered_bind hwork fun errors errors' hperm => ?_
  rw [hperm.isEmpty_eq]
  split
  · exact covered_pure hperm
  · exact hfollowing

/-! ### What is known under every schedule -/

/-- Whatever the schedule and whatever is answered, the work stays within the scope and ends with what satisfies `Q`. -/
def Within (scope : Scope) (Q : α → Prop) (work : Concurrent α) : Prop := ∀ x, work.MayBe x → x.Within scope Q

/-- Whatever the schedule and whatever is answered, the work stays within the scope. -/
abbrev Stays (scope : Scope) (work : Concurrent α) : Prop := work.Within scope fun _ => True

variable {scope : Scope} {work : Concurrent (List Failure)} {z : Dialogue (List Failure)}

/-- What a dialogue promises of all its failures, the work promises that it covers. -/
theorem Covered.within {P : Failure → Prop} (h : work.CoveredBy z)
    (hz : z.Within scope fun failures => ∀ f ∈ failures, P f) :
    work.Within scope fun failures => ∀ f ∈ failures, P f := by
  obtain ⟨hstays, hends⟩ := Dialogue.within_iff.1 hz
  refine fun x hx => Dialogue.within_iff.2 ⟨h.stays x hx scope hstays, fun failures hfailures f hf => ?_⟩
  obtain ⟨failures', hfailures', hperm⟩ := h.ends x hx _ failures hfailures
  exact hends failures' hfailures' f (hperm.mem_iff.1 hf)

theorem Covered.allStay (h : work.CoveredBy z) (hz : z.Stays scope) : work.Stays scope :=
  fun x hx => h.stays x hx scope hz

end Concurrent

end FabricProvision

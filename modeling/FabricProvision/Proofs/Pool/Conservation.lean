import FabricProvision.Proofs.Pool.Calls
import FabricProvision.Proofs.Pool.Steps

/-!
# Conservation

Nothing that is populated is ever lost, and nothing that an owner holds can be drawn.  This holds of every stock
of every pool, whatever calls were made before (`Pool.conserved`): of the empty stock trivially, and each step
keeps it.  The steps are made of four changes.  Staged units are new, so they are held by nobody.  A unit that
is taken out and given to an owner that held none stays accounted for.  An owner that gives a unit up returns it
unless someone else holds it.  And turning a held unit around changes nothing up to order.

The one detour is a link that exchanges its pair: the new pair is taken out before the old one is returned.
Since the two are different pairs, it can as well be taken out after (`takeAvailable_restored`).
-/

namespace FabricProvision.Stock

open Std (ExtTreeMap ExtTreeSet)

variable {k : Kind}

/-- Some owner holds the unit, in one of its orders. -/
def Bound (s : Stock k) (u : k.Unit) : Prop :=
  ∃ (owner : k.Owner) (held : k.Unit), s.used[owner]? = some held ∧ (held = u ∨ held = k.flip u)

/-- Populated units are in pooled form, and each of them is either available or bound. -/
structure Conserved (s : Stock k) : Prop where
  pooled : ∀ u ∈ s.populated, k.pooled u = u
  available_subset : ∀ u ∈ s.available, u ∈ s.populated
  not_bound : ∀ u ∈ s.available, ¬ s.Bound u
  bound : ∀ u ∈ s.populated, u ∉ s.available → s.Bound u

/-! ### Bound units -/

theorem bound_iff (s : Stock k) (u : k.Unit) :
    s.Bound u ↔ ∃ (owner : k.Owner) (held : k.Unit), s.used[owner]? = some held ∧ k.pooled held = k.pooled u := by
  simp only [Bound, Kind.pooled_eq_iff]

theorem bound_iff_holds (s : Stock k) (u : k.Unit) : s.Bound u ↔ s.holds u = true := by
  rw [bound_iff, holds_iff]

/-- After an owner was given a unit, that one is bound, and else what others hold. -/
private theorem bound_give (s : Stock k) (name : k.Owner) (unit u : k.Unit) :
    (s.give name unit).Bound u ↔
      k.pooled unit = k.pooled u ∨
        ∃ (owner : k.Owner) (held : k.Unit), owner ≠ name ∧ s.used[owner]? = some held ∧
          k.pooled held = k.pooled u := by
  rw [bound_iff]
  constructor
  · rintro ⟨owner, held, howner, hheld⟩
    by_cases hname : name = owner
    · subst hname
      rw [used_give_self] at howner
      cases howner
      exact .inl hheld
    · rw [used_give_of_ne _ _ hname] at howner
      exact .inr ⟨owner, held, Ne.symm hname, howner, hheld⟩
  · rintro (h | ⟨owner, held, hname, howner, hheld⟩)
    · exact ⟨name, unit, used_give_self _ _ _, h⟩
    · exact ⟨owner, held, by rw [used_give_of_ne _ _ (Ne.symm hname)]; exact howner, hheld⟩

private theorem bound_deleteUsed (s : Stock k) (name : k.Owner) (u : k.Unit) :
    (s.deleteUsed name).Bound u ↔
      ∃ (owner : k.Owner) (held : k.Unit), owner ≠ name ∧ s.used[owner]? = some held ∧
        k.pooled held = k.pooled u := by
  rw [bound_iff]
  constructor
  · rintro ⟨owner, held, howner, hheld⟩
    by_cases hname : name = owner
    · subst hname
      rw [used_deleteUsed_self] at howner
      cases howner
    · rw [used_deleteUsed_of_ne _ hname] at howner
      exact ⟨owner, held, Ne.symm hname, howner, hheld⟩
  · rintro ⟨owner, held, hname, howner, hheld⟩
    exact ⟨owner, held, by rw [used_deleteUsed_of_ne _ (Ne.symm hname)]; exact howner, hheld⟩

/-- What an owner holds is bound, be it by that owner or by another one. -/
private theorem bound_iff_of_used {s : Stock k} {name : k.Owner} {unit : k.Unit} (h : s.used[name]? = some unit)
    (u : k.Unit) :
    s.Bound u ↔ k.pooled unit = k.pooled u ∨ (s.deleteUsed name).Bound u := by
  rw [bound_deleteUsed, bound_iff]
  constructor
  · rintro ⟨owner, held, howner, hheld⟩
    by_cases hname : owner = name
    · subst hname
      rw [h] at howner
      cases howner
      exact .inl hheld
    · exact .inr ⟨owner, held, hname, howner, hheld⟩
  · rintro (hu | ⟨owner, held, -, howner, hheld⟩)
    · exact ⟨name, unit, h, hu⟩
    · exact ⟨owner, held, howner, hheld⟩

theorem bound_give_of_free {s : Stock k} {name : k.Owner} (h : s.used[name]? = none) (unit u : k.Unit) :
    (s.give name unit).Bound u ↔ k.pooled unit = k.pooled u ∨ s.Bound u := by
  rw [bound_give, bound_iff]
  constructor
  · rintro (hu | ⟨owner, held, -, howner, hheld⟩)
    · exact .inl hu
    · exact .inr ⟨owner, held, howner, hheld⟩
  · rintro (hu | ⟨owner, held, howner, hheld⟩)
    · exact .inl hu
    · refine .inr ⟨owner, held, ?_, howner, hheld⟩
      rintro rfl
      rw [h] at howner
      cases howner

private theorem bound_give_of_used {s : Stock k} {name : k.Owner} {held unit : k.Unit}
    (h : s.used[name]? = some held) (hsame : k.pooled held = k.pooled unit) (u : k.Unit) :
    (s.give name unit).Bound u ↔ s.Bound u := by
  rw [bound_give, bound_iff_of_used h, bound_deleteUsed, hsame]

/-! ### What the changes keep -/

/-- What waits to be handed out is what was added and is held by nobody. -/
theorem Conserved.mem_available {s : Stock k} (hs : s.Conserved) (u : k.Unit) :
    u ∈ s.available ↔ u ∈ s.populated ∧ ¬ s.Bound u := by
  constructor
  · exact fun hu => ⟨hs.available_subset u hu, hs.not_bound u hu⟩
  · rintro ⟨hu, hfree⟩
    by_cases h : u ∈ s.available
    · exact h
    · exact absurd (hs.bound u hu h) hfree

theorem conserved_empty : Conserved ({} : Stock k) where
  pooled := by simp
  available_subset := by simp
  not_bound := by simp
  bound := by simp

private theorem Conserved.stage {s : Stock k} (hs : s.Conserved) {units : List k.Unit} {staged : ExtTreeSet k.Unit}
    (h : s.stage ∅ units = .ok staged) :
    Conserved { s with populated := s.populated ∪ staged, available := s.available ∪ staged } := by
  obtain ⟨hmem, hnew⟩ := stage_ok h
  have hstaged : ∀ x, x ∈ staged ↔ ∃ u ∈ units, k.pooled u = x := by simpa using hmem
  refine ⟨fun u hu => ?_, fun u hu => ?_, fun u hu => ?_, fun u hu hfree => ?_⟩
  · rcases ExtTreeSet.mem_union_iff.1 hu with hu | hu
    · exact hs.pooled u hu
    · obtain ⟨v, -, rfl⟩ := (hstaged u).1 hu
      exact Kind.pooled_pooled v
  · rcases ExtTreeSet.mem_union_iff.1 hu with hu | hu
    · exact ExtTreeSet.mem_union_iff.2 (.inl (hs.available_subset u hu))
    · exact ExtTreeSet.mem_union_iff.2 (.inr hu)
  · show ¬ s.Bound u
    rcases ExtTreeSet.mem_union_iff.1 hu with hu | hu
    · exact hs.not_bound u hu
    · obtain ⟨v, hv, rfl⟩ := (hstaged u).1 hu
      rw [bound_iff_holds, holds_pooled, (hnew v hv).1]
      simp
  · show s.Bound u
    rcases ExtTreeSet.mem_union_iff.1 hu with hu | hu
    · exact hs.bound u hu fun h => hfree (ExtTreeSet.mem_union_iff.2 (.inl h))
    · exact absurd (ExtTreeSet.mem_union_iff.2 (.inr hu)) hfree

theorem mem_takeAvailable (s : Stock k) (u x : k.Unit) :
    x ∈ (s.takeAvailable u).available ↔ u ≠ x ∧ x ∈ s.available := by
  unfold takeAvailable
  simp only [ExtTreeSet.mem_erase, Std.LawfulEqOrd.compare_eq_iff_eq, ne_eq]

/-- A unit may be taken out and given to an owner that holds none. -/
private theorem Conserved.take_give {s : Stock k} (hs : s.Conserved) {name : k.Owner}
    (hname : s.used[name]? = none) {unit stored : k.Unit} (hstored : k.pooled stored = k.pooled unit) :
    ((s.takeAvailable (k.pooled unit)).give name stored).Conserved := by
  have hbound : ∀ u, ((s.takeAvailable (k.pooled unit)).give name stored).Bound u ↔
      k.pooled unit = k.pooled u ∨ s.Bound u := by
    intro u
    rw [bound_give_of_free (by exact hname), hstored]
    exact Iff.rfl
  refine ⟨hs.pooled, fun u hu => ?_, fun u hu => ?_, fun u hu hfree => ?_⟩
  · exact hs.available_subset u ((mem_takeAvailable s _ u).1 hu).2
  · obtain ⟨hne, hu⟩ := (mem_takeAvailable s _ u).1 hu
    rw [hbound]
    rintro (h | h)
    · rw [hs.pooled u (hs.available_subset u hu)] at h
      exact hne h
    · exact hs.not_bound u hu h
  · rw [hbound]
    by_cases h : k.pooled unit = u
    · exact .inl (by rw [← h, Kind.pooled_pooled])
    · exact .inr (hs.bound u hu fun hav => hfree ((mem_takeAvailable s _ u).2 ⟨h, hav⟩))

/-- An owner may turn around what it holds: a bound unit is not available, so taking it out does nothing. -/
private theorem Conserved.turn {s : Stock k} (hs : s.Conserved) {name : k.Owner} {held unit stored : k.Unit}
    (hheld : s.used[name]? = some held) (hsame : k.pooled held = k.pooled unit)
    (hstored : k.pooled stored = k.pooled unit) :
    ((s.takeAvailable (k.pooled unit)).give name stored).Conserved := by
  have hbound : ∀ u, ((s.takeAvailable (k.pooled unit)).give name stored).Bound u ↔ s.Bound u := by
    intro u
    rw [bound_give_of_used (by exact hheld) (hsame.trans hstored.symm)]
    exact Iff.rfl
  have hunit : s.Bound (k.pooled unit) := by
    rw [bound_iff]
    exact ⟨name, held, hheld, by rw [Kind.pooled_pooled, hsame]⟩
  refine ⟨hs.pooled, fun u hu => ?_, fun u hu => ?_, fun u hu hfree => ?_⟩
  · exact hs.available_subset u ((mem_takeAvailable s _ u).1 hu).2
  · rw [hbound]
    exact hs.not_bound u ((mem_takeAvailable s _ u).1 hu).2
  · rw [hbound]
    by_cases h : k.pooled unit = u
    · rw [← h]
      exact hunit
    · exact hs.bound u hu fun hav => hfree ((mem_takeAvailable s _ u).2 ⟨h, hav⟩)

section givingUp

variable {s : Stock k} {name : k.Owner} {unit : k.Unit} (hs : s.Conserved)
  (hbound : ∀ u, s.Bound u ↔ k.pooled unit = k.pooled u ∨ (s.deleteUsed name).Bound u)

include hs hbound

/-- A unit that someone else holds too stays bound. -/
private theorem conserved_of_shared (hshared : (s.deleteUsed name).Bound unit) :
    (s.deleteUsed name).Conserved := by
  obtain ⟨owner, other, howner, hother⟩ := (bound_iff _ unit).1 hshared
  have hsame : ∀ u, s.Bound u ↔ (s.deleteUsed name).Bound u := by
    intro u
    rw [hbound]
    constructor
    · rintro (h | h)
      · exact (bound_iff _ u).2 ⟨owner, other, howner, hother.trans h⟩
      · exact h
    · exact .inr
  exact ⟨hs.pooled, hs.available_subset, fun u hu h => hs.not_bound u hu ((hsame u).2 h),
    fun u hu hfree => (hsame u).1 (hs.bound u hu hfree)⟩

/-- A populated unit that nobody else holds is available again. -/
private theorem conserved_of_returned (hfree : ¬ (s.deleteUsed name).Bound (k.pooled unit))
    (hpop : k.pooled unit ∈ s.populated) :
    Conserved { s.deleteUsed name with available := s.available.insert (k.pooled unit) } := by
  have hmem : ∀ x, x ∈ s.available.insert (k.pooled unit) ↔ k.pooled unit = x ∨ x ∈ s.available := by
    intro x
    simp only [ExtTreeSet.mem_insert, Std.LawfulEqOrd.compare_eq_iff_eq]
  refine ⟨hs.pooled, fun u hu => ?_, fun u hu => ?_, fun u hu hout => ?_⟩
  · rcases (hmem u).1 hu with rfl | hu
    · exact hpop
    · exact hs.available_subset u hu
  · show ¬ (s.deleteUsed name).Bound u
    rcases (hmem u).1 hu with rfl | hu
    · exact hfree
    · exact fun h => hs.not_bound u hu ((hbound u).2 (.inr h))
  · show (s.deleteUsed name).Bound u
    have hu' : u ∉ s.available := fun h => hout ((hmem u).2 (.inr h))
    rcases (hbound u).1 (hs.bound u hu hu') with h | h
    · rw [hs.pooled u hu] at h
      exact absurd ((hmem u).2 (.inl h)) hout
    · exact h

/-- A unit from outside the populated ranges leaves nothing behind. -/
private theorem conserved_of_foreign (hforeign : k.pooled unit ∉ s.populated) : (s.deleteUsed name).Conserved := by
  refine ⟨hs.pooled, hs.available_subset, fun u hu h => hs.not_bound u hu ((hbound u).2 (.inr h)),
    fun u hu hfree => ?_⟩
  rcases (hbound u).1 (hs.bound u hu hfree) with h | h
  · rw [hs.pooled u hu] at h
    rw [h] at hforeign
    exact absurd hu hforeign
  · exact h

end givingUp

/-- An owner may give up what it holds, in whichever order it names it. -/
private theorem Conserved.giveUp {s : Stock k} (hs : s.Conserved) {name : k.Owner} {held unit : k.Unit}
    (hheld : s.used[name]? = some held) (hsame : k.pooled held = k.pooled unit) :
    ((s.deleteUsed name).restored unit).Conserved := by
  have hbound : ∀ u, s.Bound u ↔ k.pooled unit = k.pooled u ∨ (s.deleteUsed name).Bound u := by
    intro u
    rw [bound_iff_of_used hheld, hsame]
  unfold restored
  by_cases hshared : (s.deleteUsed name).holds unit = true
  · rw [if_pos hshared]
    exact conserved_of_shared hs hbound ((bound_iff_holds _ unit).2 hshared)
  rw [if_neg hshared]
  have hfree : ¬ (s.deleteUsed name).Bound (k.pooled unit) := by
    rw [bound_iff_holds, holds_pooled]
    exact hshared
  unfold restoreAvailable
  by_cases hpop : (s.deleteUsed name).populated.contains (k.pooled unit) = true
  · rw [if_pos hpop]
    exact conserved_of_returned hs hbound hfree (ExtTreeSet.contains_iff_mem.1 hpop)
  · rw [if_neg hpop]
    exact conserved_of_foreign hs hbound fun h => hpop (ExtTreeSet.contains_iff_mem.2 h)

/-- Taking one unit out and returning another one can be done in either order. -/
private theorem takeAvailable_restored (s : Stock k) (name : k.Owner) {held : k.Unit} {pooled : k.Unit}
    (h : k.pooled held ≠ pooled) :
    ((s.takeAvailable pooled).deleteUsed name).restored held =
      ((s.deleteUsed name).restored held).takeAvailable pooled := by
  have hholds : ((s.takeAvailable pooled).deleteUsed name).holds held = (s.deleteUsed name).holds held := rfl
  unfold restored
  rw [hholds]
  by_cases hheld : (s.deleteUsed name).holds held = true
  · rw [if_pos hheld, if_pos hheld]
    rfl
  rw [if_neg hheld, if_neg hheld]
  have hpop : ((s.takeAvailable pooled).deleteUsed name).populated = (s.deleteUsed name).populated := rfl
  unfold restoreAvailable
  rw [hpop]
  by_cases hin : (s.deleteUsed name).populated.contains (k.pooled held) = true
  · rw [if_pos hin, if_pos hin]
    simp only [takeAvailable, deleteUsed, set_insert_erase _ h]
  · rw [if_neg hin, if_neg hin]
    rfl

/-! ### What the steps keep -/

private theorem Conserved.populate {s : Stock k} (hs : s.Conserved) (range : String) (allowSmall : Bool) :
    ((populate range allowSmall).run.run s).2.Conserved := by
  rcases populate_cases s range allowSmall with ⟨e, -, h⟩ | ⟨units, staged, -, hstage, h⟩ <;> rw [h]
  · exact hs
  · exact hs.stage hstage

private theorem Conserved.draw {s : Stock k} (hs : s.Conserved) (owner : k.Owner) :
    ((draw owner).run.run s).2.Conserved := by
  rcases draw_cases s owner with ⟨held, -, h⟩ | ⟨-, -, h⟩ | ⟨u, hname, hmin, h⟩ <;> rw [h]
  · exact hs
  · exact hs
  · have hu : u ∈ s.available := (ExtTreeSet.min?_eq_some_iff_mem_and_forall.1 hmin).1
    have hpooled : k.pooled u = u := hs.pooled u (hs.available_subset u hu)
    have := hs.take_give hname (Kind.pooled_orient (k.canonical owner).2 u)
    rw [hpooled] at this
    exact this

private theorem Conserved.allocated {s : Stock k} (hs : s.Conserved) (owner : k.Owner) :
    ((allocated owner).run.run s).2.Conserved := by
  rcases allocated_cases s owner with ⟨held, -, h⟩ | ⟨-, h⟩ <;> rw [h] <;> exact hs

private theorem Conserved.reserve {s : Stock k} (hs : s.Conserved) (owner : k.Owner) (unit : k.Unit) :
    ((reserve owner unit).run.run s).2.Conserved := by
  have horient := Kind.pooled_orient (k.canonical owner).2 unit
  rcases reserve_cases s owner unit with ⟨-, h⟩ | ⟨e, -, h⟩ | ⟨hname, -, h⟩ |
    ⟨held, hname, -, hsame, h⟩ | ⟨held, hname, -, hother, -, h⟩ <;> rw [h]
  · exact hs
  · exact hs
  · exact hs.take_give hname horient
  · exact hs.turn hname hsame horient
  · rw [takeAvailable_restored _ _ hother]
    refine (hs.giveUp hname rfl).take_give ?_ horient
    rw [used_restored]
    exact used_deleteUsed_self _ _

private theorem Conserved.release {s : Stock k} (hs : s.Conserved) (owner : k.Owner) (unit : k.Unit) :
    ((release owner unit).run.run s).2.Conserved := by
  rcases release_cases s owner unit with ⟨hname, h⟩ | ⟨-, h⟩ <;> rw [h]
  · exact hs.giveUp hname (Kind.pooled_orient _ unit)
  · exact hs

/-- Every step keeps a stock conserved. -/
theorem Conserved.change {s s' : Stock k} (hs : s.Conserved) (h : Change s s') : s'.Conserved := by
  cases h with
  | populate range allowSmall => exact hs.populate range allowSmall
  | draw owner => exact hs.draw owner
  | allocated owner => exact hs.allocated owner
  | reserve owner unit => exact hs.reserve owner unit
  | release owner unit => exact hs.release owner unit

end FabricProvision.Stock

namespace FabricProvision.Pool

/-- After any calls that begin with an empty pool, every category of every fabric is conserved. -/
theorem conserved {k : Kind} (calls : List (Call k)) (fabric : FabricId) (category : String) :
    ((afterCalls calls).stock fabric category).Conserved :=
  afterCalls_invariant Stock.conserved_empty (fun _ _ hs h => hs.change h) calls fabric category

end FabricProvision.Pool

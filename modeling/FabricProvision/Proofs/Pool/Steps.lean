import FabricProvision.Proofs.Maps
import FabricProvision.Proofs.Pool.Records
import FabricProvision.Proofs.Step.Run

/-!
# What the steps on a stock do

One lemma for each step lists all it can do: under which condition, with which answer, and which stock it
leaves.  A failing step turns out to leave the stock as it was, although a reservation takes its unit out before
it may fail: then the unit was not there.
-/

namespace FabricProvision.Stock

open Std (ExtTreeMap ExtTreeSet)
open Step

variable {k : Kind}

/-- The stock after a unit became free: it is available again if it was populated and no owner is left. -/
def restored (s : Stock k) (unit : k.Unit) : Stock k :=
  if s.holds unit then s else s.restoreAvailable (k.pooled unit)

/-- The stock in which an owner holds a unit. -/
def give (s : Stock k) (name : k.Owner) (unit : k.Unit) : Stock k :=
  { s with used := s.used.insert name unit }

/-! ### Records of owners -/

theorem used_give_self (s : Stock k) (name : k.Owner) (unit : k.Unit) : (s.give name unit).used[name]? = some unit :=
  ExtTreeMap.getElem?_insert_self

theorem used_give_of_ne (s : Stock k) {name other : k.Owner} (unit : k.Unit) (h : other ≠ name) :
    (s.give other unit).used[name]? = s.used[name]? := by
  simp only [give, ExtTreeMap.getElem?_insert, Std.LawfulEqOrd.compare_eq_iff_eq, h, if_false]

theorem used_deleteUsed_self (s : Stock k) (name : k.Owner) : (s.deleteUsed name).used[name]? = none :=
  ExtTreeMap.getElem?_erase_self

theorem used_deleteUsed_of_ne (s : Stock k) {name other : k.Owner} (h : other ≠ name) :
    (s.deleteUsed other).used[name]? = s.used[name]? := by
  simp only [deleteUsed, ExtTreeMap.getElem?_erase, Std.LawfulEqOrd.compare_eq_iff_eq, h, if_false]

theorem used_restored (s : Stock k) (unit : k.Unit) : (s.restored unit).used = s.used := by
  unfold restored restoreAvailable
  split
  · rfl
  · split <;> rfl

theorem populated_restored (s : Stock k) (unit : k.Unit) : (s.restored unit).populated = s.populated := by
  unfold restored restoreAvailable
  split
  · rfl
  · split <;> rfl

/-! ### The steps -/

theorem takeAvailable_of_not_mem {s : Stock k} {u : k.Unit} (h : s.available.contains u = false) :
    s.takeAvailable u = s := by
  simp only [takeAvailable, set_erase_of_absent h]

private theorem run_bind_of_free {s : Stock k} {name : k.Owner} (unit : k.Unit) (h : s.used[name]? = none) :
    (bind name unit).run.run s = (.ok ⟨⟩, s.give name unit) := by
  have h' : s.used.contains name = false := by
    rw [ExtTreeMap.contains_eq_isSome_getElem?, h]; rfl
  simp only [bind, run_bind, run_get, insertUsed, h']
  rfl

/-- Populating fails on a text that is no range and on a unit that is not new; else it adds all units. -/
theorem populate_cases (s : Stock k) (range : String) (allowSmall : Bool) :
    (∃ e, ((∃ cause, e = .badRange cause) ∨ ∃ unit, e = .unitRecorded unit) ∧
        (populate range allowSmall).run.run s = (.error e, s)) ∨
      ∃ units staged, k.expand range allowSmall = .ok units ∧ s.stage ∅ units = .ok staged ∧
        (populate range allowSmall).run.run s =
          (.ok units.length,
            { s with populated := s.populated ∪ staged, available := s.available ∪ staged }) := by
  unfold populate insertAvailable
  rcases hx : k.expand range allowSmall with cause | units
  · exact .inl ⟨_, .inl ⟨cause, rfl⟩, rfl⟩
  · simp only [run_bind, run_get]
    rcases hs : s.stage ∅ units with unit | staged
    · exact .inl ⟨_, .inr ⟨unit, rfl⟩, rfl⟩
    · exact .inr ⟨units, staged, rfl, hs, rfl⟩

/-- A draw fails for an owner that holds a unit and if no unit is available; else the owner gets the first. -/
theorem draw_cases (s : Stock k) (owner : k.Owner) :
    let name := (k.canonical owner).1
    let swapped := (k.canonical owner).2
    (∃ held, s.used[name]? = some held ∧ (draw owner).run.run s = (.error (.occupied owner), s)) ∨
      (s.used[name]? = none ∧ s.available.min? = none ∧ (draw owner).run.run s = (.error .exhausted, s)) ∨
      ∃ u, s.used[name]? = none ∧ s.available.min? = some u ∧
        (draw owner).run.run s = (.ok u, (s.takeAvailable u).give name (k.orient swapped u)) := by
  unfold draw
  generalize k.canonical owner = name
  obtain ⟨name, swapped⟩ := name
  simp only [run_bind, run_get, findUsed, firstAvailable]
  rcases Option.eq_none_or_eq_some s.used[name]? with hu | ⟨held, hu⟩
  · right
    rcases Option.eq_none_or_eq_some s.available.min? with hm | ⟨u, hm⟩
    · refine .inl ⟨hu, hm, ?_⟩
      simp only [hu, Option.isSome_none, Bool.false_eq_true, if_false, run_bind, run_get, hm,
        run_throw]
    · refine .inr ⟨u, hu, hm, ?_⟩
      simp only [hu, Option.isSome_none, Bool.false_eq_true, if_false, run_pure, run_bind,
        run_get, hm, run_modify]
      rw [run_bind_of_free _ (by exact hu)]
  · refine .inl ⟨held, hu, ?_⟩
    simp only [hu, Option.isSome_some, if_true, run_bind, run_throw]

/-- A question for the unit of an owner changes nothing, and is answered in the order of the given name. -/
theorem allocated_cases (s : Stock k) (owner : k.Owner) :
    let name := (k.canonical owner).1
    let swapped := (k.canonical owner).2
    (∃ held, s.used[name]? = some held ∧ (allocated owner).run.run s = (.ok (k.orient swapped held), s)) ∨
      (s.used[name]? = none ∧ (allocated owner).run.run s = (.error (.notAllocated owner), s)) := by
  unfold allocated
  generalize k.canonical owner = name
  obtain ⟨name, swapped⟩ := name
  simp only [run_bind, run_get, findUsed]
  rcases Option.eq_none_or_eq_some s.used[name]? with hu | ⟨held, hu⟩
  · exact .inr ⟨hu, by simp only [hu, run_throw]⟩
  · exact .inl ⟨held, hu, by simp only [hu, run_pure]⟩

private theorem run_restoreIfFree (s : Stock k) (unit : k.Unit) :
    (restoreIfFree unit).run.run s = (.ok ⟨⟩, s.restored unit) := rfl

private theorem give_deleteUsed (s : Stock k) (name : k.Owner) (unit : k.Unit) :
    (s.deleteUsed name).give name unit = s.give name unit := by
  simp only [give, deleteUsed, insert_erase]

/-- The end of a reservation: the owner gives up what it holds and gets `stored`. -/
private def exchange (name : k.Owner) (stored pooled : k.Unit) (held : Option k.Unit) : StockM k Unit := do
  if let some previous := held then
    modify (·.deleteUsed name)
    if k.pooled previous ≠ pooled then restoreIfFree previous
  bind name stored

/-- What holds unless the owner holds the unit already is told along, and so is what holds if it holds any. -/
private theorem exchange_cases (s : Stock k) (name : k.Owner) (stored pooled : k.Unit) {may ready : Prop}
    (hmay : s.used[name]?.isSome → may)
    (hready : (s.used[name]?.any fun held => k.pooled held == pooled) = false → ready) :
    (s.used[name]? = none ∧ ready ∧
        (exchange name stored pooled s.used[name]?).run.run s = (.ok ⟨⟩, s.give name stored)) ∨
      (∃ held, s.used[name]? = some held ∧ may ∧ k.pooled held = pooled ∧
        (exchange name stored pooled s.used[name]?).run.run s = (.ok ⟨⟩, s.give name stored)) ∨
      ∃ held, s.used[name]? = some held ∧ may ∧ k.pooled held ≠ pooled ∧ ready ∧
        (exchange name stored pooled s.used[name]?).run.run s =
          (.ok ⟨⟩, ((s.deleteUsed name).restored held).give name stored) := by
  have hfree := s.used_deleteUsed_self name
  unfold exchange
  rcases Option.eq_none_or_eq_some s.used[name]? with hu | ⟨held, hu⟩
  · exact .inl ⟨hu, hready (by rw [hu]; rfl), by simp only [hu]; exact run_bind_of_free stored hu⟩
  right
  have hmay : may := hmay (by rw [hu]; rfl)
  by_cases hp : k.pooled held = pooled
  · refine .inl ⟨held, hu, hmay, hp, ?_⟩
    simp only [hu, run_bind, run_modify, hp, ne_eq, not_true, if_false]
    rw [run_bind_of_free stored hfree, give_deleteUsed]
  · refine .inr ⟨held, hu, hmay, hp, hready (by simpa [hu] using hp), ?_⟩
    simp only [hu, run_bind, run_modify, hp, ne_eq, not_false_iff, if_true, run_restoreIfFree]
    exact run_bind_of_free stored (by rw [used_restored]; exact hfree)

/-- A reservation changes nothing if the owner holds the unit as it is.  It fails if the owner holds another one
that it may not give up, and if the unit has to be available and is not.  Else the owner gets the unit, and one
it held before and may give up becomes free unless it is the same in the other order. -/
theorem reserve_cases (s : Stock k) (owner : k.Owner) (unit : k.Unit) :
    let name := (k.canonical owner).1
    let swapped := (k.canonical owner).2
    let stored := k.orient swapped unit
    let taken := s.takeAvailable (k.pooled unit)
    let ready := k.pooledReservation? owner unit = none ∨ k.pooled unit ∈ s.available
    (s.used[name]? = some stored ∧ (reserve owner unit).run.run s = (.ok ⟨⟩, s)) ∨
      (∃ e, (e = .occupied owner ∧ s.used[name]?.isSome ∨ (∃ link pair, e = .mismatch link pair) ∧ ¬ ready) ∧
        (reserve owner unit).run.run s = (.error e, s)) ∨
      (s.used[name]? = none ∧ ready ∧ (reserve owner unit).run.run s = (.ok ⟨⟩, taken.give name stored)) ∨
      (∃ held, s.used[name]? = some held ∧ k.replacesHeld ∧ k.pooled held = k.pooled unit ∧
        (reserve owner unit).run.run s = (.ok ⟨⟩, taken.give name stored)) ∨
      ∃ held, s.used[name]? = some held ∧ k.replacesHeld ∧ k.pooled held ≠ k.pooled unit ∧ ready ∧
        (reserve owner unit).run.run s =
          (.ok ⟨⟩, ((taken.deleteUsed name).restored held).give name stored) := by
  unfold reserve
  generalize k.canonical owner = name
  obtain ⟨name, swapped⟩ := name
  simp only [run_bind, run_get, findUsed]
  by_cases hstored : s.used[name]? = some (k.orient swapped unit)
  · exact .inl ⟨hstored, by simp only [hstored, if_true, run_pure]⟩
  right
  simp only [hstored, if_false]
  by_cases hkeep : s.used[name]?.isSome && !k.replacesHeld
  · exact .inl ⟨.occupied owner, .inl ⟨rfl, (Bool.and_eq_true_iff.1 hkeep).1⟩,
      by simp only [hkeep, if_true, run_bind, run_throw]⟩
  have hmay : s.used[name]?.isSome → k.replacesHeld := by
    intro hheld
    simpa [hheld] using hkeep
  simp only [hkeep, if_false, run_bind, run_get, run_modify, Bool.false_eq_true]
  have hrest {ready : Prop} := @exchange_cases k (s.takeAvailable (k.pooled unit)) name (k.orient swapped unit)
    (k.pooled unit) k.replacesHeld ready hmay
  by_cases hout : (!s.available.contains (k.pooled unit) &&
      !Option.any (fun held => k.pooled held == k.pooled unit) s.used[name]?) = true
  · simp only [hout, if_true]
    rcases k.pooledReservation? owner unit with _ | ⟨link, pair⟩
    · exact .inr (hrest fun _ => Or.inl rfl)
    · -- The unit was not available, so taking it out did nothing.
      rw [Bool.and_eq_true, Bool.not_eq_true'] at hout
      have hready : ¬ (some (link, pair) = none ∨ k.pooled unit ∈ s.available) := by
        rintro (hnone | hav)
        · cases hnone
        · rw [ExtTreeSet.contains_iff_mem.2 hav] at hout
          cases hout.1
      refine .inl ⟨.mismatch link pair, .inr ⟨⟨link, pair, rfl⟩, hready⟩, ?_⟩
      simp only [run_bind, run_throw, takeAvailable_of_not_mem hout.1]
  · simp only [hout, if_false, Bool.false_eq_true]
    refine .inr (hrest fun hother => Or.inr ?_)
    rw [show Option.any (fun held => k.pooled held == k.pooled unit) s.used[name]? = false from hother] at hout
    simpa using hout

/-- A release needs the owner to hold the unit, which then becomes free. -/
theorem release_cases (s : Stock k) (owner : k.Owner) (unit : k.Unit) :
    let name := (k.canonical owner).1
    let swapped := (k.canonical owner).2
    (s.used[name]? = some (k.orient swapped unit) ∧
        (release owner unit).run.run s = (.ok ⟨⟩, (s.deleteUsed name).restored unit)) ∨
      (s.used[name]? ≠ some (k.orient swapped unit) ∧
        (release owner unit).run.run s = (.error (.notAllocated owner), s)) := by
  unfold release
  generalize k.canonical owner = name
  obtain ⟨name, swapped⟩ := name
  simp only [run_bind, run_get, findUsed]
  by_cases h : s.used[name]? = some (k.orient swapped unit)
  · exact .inl ⟨h, by simp only [h, if_true, run_bind, run_modify, run_restoreIfFree]⟩
  · exact .inr ⟨h, by simp only [h, if_false, run_throw]⟩

end FabricProvision.Stock

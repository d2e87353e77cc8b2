import FabricProvision.Proofs.Pool.Conservation
import FabricProvision.Proofs.Pool.Isolation
import FabricProvision.Proofs.Pool.Owners
import FabricProvision.Proofs.Pool.Ranges

/-!
# What draws hand out

A draw never compares what was added with what is held: it takes the lowest unit that is available.  By conservation
these are the units that were added and that nobody holds, in any order (`Conserved.mem_available`).  So the owner gets
the lowest free unit, and the draw fails exactly when everything that was added is held (`draw_lowest`).

Once a range was added to a category in which nothing is free, the range is what is available.  Each draw takes the
first unit of the ascending list that is left, so draws for different owners read the range off from its start, and fail
from its end on (`answers_draws`).
-/

namespace FabricProvision

open Std (ExtTreeMap ExtTreeSet)

namespace Stock

variable {k : Kind}

/-- The unit was added, and nobody holds it in any of its orders. -/
def Free (s : Stock k) (u : k.Unit) : Prop := u ∈ s.populated ∧ ¬ s.Bound u

/-- The unit is free, and no free unit comes before it. -/
structure Lowest (s : Stock k) (u : k.Unit) : Prop where
  free : s.Free u
  first : ∀ v, s.Free v → (compare u v).isLE

/-! ### One draw -/

theorem Lowest.eq {s : Stock k} {u v : k.Unit} (hu : s.Lowest u) (hv : s.Lowest v) : u = v :=
  Std.LawfulEqOrd.eq_of_compare (Std.OrientedCmp.isLE_antisymm (hu.first v hv.free) (hv.first u hu.free))

/-- The first available unit of a conserved stock is its lowest free unit. -/
theorem Conserved.min?_eq_some {s : Stock k} (hs : s.Conserved) (u : k.Unit) :
    s.available.min? = some u ↔ s.Lowest u := by
  rw [ExtTreeSet.min?_eq_some_iff_mem_and_forall, hs.mem_available]
  simp only [hs.mem_available]
  exact ⟨fun h => ⟨h.1, h.2⟩, fun h => ⟨h.1, h.2⟩⟩

/-- A conserved stock has nothing available exactly when everything that was added is held. -/
theorem Conserved.min?_eq_none {s : Stock k} (hs : s.Conserved) :
    s.available.min? = none ↔ ∀ u ∈ s.populated, s.Bound u := by
  rw [ExtTreeSet.min?_eq_none_iff]
  constructor
  · intro hempty u hu
    refine hs.bound u hu ?_
    rw [hempty]
    simp
  · intro hbound
    refine ExtTreeSet.ext_mem fun u => iff_of_false (fun hu => ?_) (by simp)
    obtain ⟨hpop, hfree⟩ := (hs.mem_available u).1 hu
    exact hfree (hbound u hpop)

/-- An owner that holds nothing is handed the lowest free unit, or is told that every unit is held. -/
theorem Conserved.draw_lowest {s : Stock k} (hs : s.Conserved) {owner : k.Owner}
    (hname : s.used[(k.canonical owner).1]? = none) :
    (∃ u, s.Lowest u ∧ ((Stock.draw owner).run.run s).1 = .ok u) ∨
      ((∀ u ∈ s.populated, s.Bound u) ∧ ((Stock.draw owner).run.run s).1 = .error .exhausted) := by
  rcases draw_cases s owner with ⟨held, hheld, -⟩ | ⟨-, hmin, h⟩ | ⟨u, -, hmin, h⟩
  · rw [hname] at hheld
    cases hheld
  · exact .inr ⟨hs.min?_eq_none.1 hmin, by rw [h]⟩
  · exact .inl ⟨u, (hs.min?_eq_some u).1 hmin, by rw [h]⟩

/-! ### Filling a category -/

/-- The unit was added, or someone holds it in one of its orders. -/
def Recorded (s : Stock k) (u : k.Unit) : Prop := u ∈ s.populated ∨ s.Bound u

/-- Units that ascend are staged unless one of them is recorded already, and then such a unit is named. -/
private theorem stage_ascending {s : Stock k} {units : List k.Unit} {staged : ExtTreeSet k.Unit}
    (hunits : k.Ascending units) (hstaged : ∀ u ∈ units, u ∉ staged) :
    (∃ u ∈ units, s.Recorded u ∧ s.stage staged units = .error u) ∨
      (∀ u ∈ units, ¬ s.Recorded u) ∧ ∃ result, s.stage staged units = .ok result := by
  induction units generalizing staged with
  | nil => exact .inr ⟨nofun, staged, rfl⟩
  | cons u rest ih =>
    obtain ⟨hfirst, hrest⟩ := List.pairwise_cons.1 hunits.sorted
    have hpooled : k.pooled u = u := hunits.pooled u List.mem_cons_self
    have hrecorded : (s.holds u || s.populated.contains (k.pooled u) || staged.contains (k.pooled u)) = true ↔
        s.Recorded u := by
      have hout : u ∉ staged := hstaged u List.mem_cons_self
      simp only [hpooled, Bool.or_eq_true, ExtTreeSet.contains_iff_mem, ← bound_iff_holds, hout, or_false]
      exact or_comm
    unfold stage
    by_cases hu : s.Recorded u
    · exact .inl ⟨u, List.mem_cons_self, hu, if_pos (hrecorded.2 hu)⟩
    rw [if_neg fun h => hu (hrecorded.1 h), hpooled]
    have hlater : ∀ v ∈ rest, v ∉ staged.insert u := by
      intro v hv
      rw [ExtTreeSet.mem_insert]
      rintro (h | h)
      · rw [hfirst v hv] at h
        cases h
      · exact hstaged v (List.mem_cons_of_mem u hv) h
    rcases ih ⟨hrest, fun v hv => hunits.pooled v (List.mem_cons_of_mem u hv)⟩ hlater with
      ⟨v, hv, hrecorded, h⟩ | ⟨hnew, h⟩
    · exact .inl ⟨v, List.mem_cons_of_mem u hv, hrecorded, h⟩
    · exact .inr ⟨List.forall_mem_cons.2 ⟨hu, hnew⟩, h⟩

/-- A range is added exactly if none of its units is recorded already, and else such a unit is named and nothing is
added. -/
theorem populate_of_expand {range : String} {allowSmall : Bool} {units : List k.Unit}
    (hunits : k.expand range allowSmall = .ok units) (s : Stock k) :
    (∃ u ∈ units, s.Recorded u ∧ (populate range allowSmall).run.run s = (.error (.unitRecorded u), s)) ∨
      (∀ u ∈ units, ¬ s.Recorded u) ∧ ∃ staged : ExtTreeSet k.Unit, (∀ x, x ∈ staged ↔ x ∈ units) ∧
        (populate range allowSmall).run.run s =
          (.ok units.length, { s with populated := s.populated ∪ staged, available := s.available ∪ staged }) := by
  have hascending := Kind.ascending_expand hunits
  unfold populate insertAvailable
  rw [hunits]
  simp only [Step.run_bind, Step.run_get]
  have hempty : ∀ u ∈ units, u ∉ (∅ : ExtTreeSet k.Unit) := by simp
  rcases stage_ascending (s := s) hascending hempty with ⟨u, hu, hrecorded, h⟩ | ⟨hnew, staged, h⟩ <;> rw [h]
  · exact .inl ⟨u, hu, hrecorded, rfl⟩
  · refine .inr ⟨hnew, staged, fun x => ?_, rfl⟩
    have hstaged : x ∈ staged ↔ ∃ u ∈ units, k.pooled u = x := by simpa using (stage_ok h).1 x
    rw [hstaged]
    constructor
    · rintro ⟨u, hu, rfl⟩
      rwa [hascending.pooled u hu]
    · exact fun hx => ⟨x, hx, hascending.pooled x hx⟩

theorem not_recorded_empty (u : k.Unit) : ¬ ({} : Stock k).Recorded u := by
  simp [Recorded, Bound]

/-- A range can be added to a stock without records. -/
theorem populate_empty {range : String} {allowSmall : Bool} {units : List k.Unit}
    (hunits : k.expand range allowSmall = .ok units) :
    ((populate range allowSmall).run.run ({} : Stock k)).1 = .ok units.length := by
  rcases populate_of_expand hunits {} with ⟨u, -, hrecorded, -⟩ | ⟨-, staged, -, h⟩
  · exact absurd hrecorded (not_recorded_empty u)
  · rw [h]

/-! ### Listed units -/

/-- What is available are these units, and they ascend. -/
private structure Lists (s : Stock k) (units : List k.Unit) : Prop where
  sorted : units.Pairwise fun u v => compare u v = .lt
  mem : ∀ x, x ∈ s.available ↔ x ∈ units

/-- If nothing was free, then after a range was added its units are what is available. -/
private theorem Conserved.lists_populate {s : Stock k} (hs : s.Conserved) (hbound : ∀ u ∈ s.populated, s.Bound u)
    {range : String} {allowSmall : Bool} {units : List k.Unit} (hunits : k.expand range allowSmall = .ok units)
    {n : Nat} (hok : ((Stock.populate range allowSmall).run.run s).1 = .ok n) :
    ((Stock.populate range allowSmall).run.run s).2.Lists units := by
  have hascending := Kind.ascending_expand hunits
  rcases populate_of_expand hunits s with ⟨u, -, -, h⟩ | ⟨-, staged, hstaged, h⟩ <;> rw [h] at hok ⊢
  · cases hok
  refine ⟨hascending.sorted, fun x => ?_⟩
  have hnone : x ∉ s.available := by
    intro hx
    obtain ⟨hpop, hfree⟩ := (hs.mem_available x).1 hx
    exact hfree (hbound x hpop)
  rw [ExtTreeSet.mem_union_iff, hstaged]
  exact or_iff_right hnone

/-- The first of the listed units is the lowest one that is available. -/
private theorem Lists.min?_eq {s : Stock k} {units : List k.Unit} (hs : s.Lists units) :
    s.available.min? = units.head? := by
  cases units with
  | nil =>
    refine ExtTreeSet.min?_eq_none_iff.2 (ExtTreeSet.ext_mem fun x => iff_of_false (fun hx => ?_) (by simp))
    exact List.not_mem_nil ((hs.mem x).1 hx)
  | cons u later =>
    refine ExtTreeSet.min?_eq_some_iff_mem_and_forall.2 ⟨(hs.mem u).2 List.mem_cons_self, fun v hv => ?_⟩
    rcases List.mem_cons.1 ((hs.mem v).1 hv) with rfl | hlater
    · rw [Std.ReflOrd.compare_self]
      rfl
    · rw [(List.pairwise_cons.1 hs.sorted).1 v hlater]
      rfl

private theorem Lists.takeAvailable {s : Stock k} {u : k.Unit} {later : List k.Unit} (hs : s.Lists (u :: later)) :
    (s.takeAvailable u).Lists later := by
  obtain ⟨hfirst, hsorted⟩ := List.pairwise_cons.1 hs.sorted
  refine ⟨hsorted, fun x => ?_⟩
  rw [mem_takeAvailable, hs.mem, List.mem_cons]
  constructor
  · rintro ⟨hne, rfl | hx⟩
    · exact absurd rfl hne
    · exact hx
  · refine fun hx => ⟨?_, .inr hx⟩
    rintro rfl
    have hlt := hfirst u hx
    rw [Std.ReflOrd.compare_self] at hlt
    cases hlt

/-- A draw takes the first of the listed units, and tells when none is left. -/
private theorem Lists.draw {s : Stock k} {units : List k.Unit} (hs : s.Lists units) {owner : k.Owner}
    (hname : s.used[(k.canonical owner).1]? = none) :
    (units = [] ∧ (draw owner).run.run s = (.error .exhausted, s)) ∨
      ∃ u later s', units = u :: later ∧ (draw owner).run.run s = (.ok u, s') ∧ s'.Lists later ∧
        ∀ name, (k.canonical owner).1 ≠ name → s'.used[name]? = s.used[name]? := by
  have hmin? := hs.min?_eq
  rcases draw_cases s owner with ⟨held, hheld, -⟩ | ⟨-, hmin, h⟩ | ⟨u, -, hmin, h⟩
  · rw [hname] at hheld
    cases hheld
  · exact .inl ⟨List.head?_eq_none_iff.1 (hmin?.symm.trans hmin), h⟩
  · obtain ⟨later, rfl⟩ := List.head?_eq_some_iff.1 (hmin?.symm.trans hmin)
    have hlater := hs.takeAvailable
    exact .inr ⟨u, later, _, rfl, h, ⟨hlater.sorted, hlater.mem⟩, fun name hne => used_give_of_ne _ _ hne⟩

end Stock

namespace Pool

variable {k : Kind} {fabric : FabricId} {category : String}

/-! ### Draws one after the other -/

private theorem answer_draw (p : Pool k) (owner : k.Owner) :
    (Call.draw fabric category owner).answer p =
      (((Stock.draw owner).run.run (p.stock fabric category)).1.mapError (⟨k, fabric, category, ·⟩)).map .unit := by
  rw [Call.answer, draw, run_onStock]

private theorem stock_draw (p : Pool k) (owner : k.Owner) :
    ((Call.draw fabric category owner).after p).stock fabric category =
      ((Stock.draw owner).run.run (p.stock fabric category)).2 := by
  rw [Call.after, draw, stock_onStock, if_pos ⟨rfl, rfl⟩]

/-- Draws by different owners that hold nothing read the listed units off, and fail once none is left. -/
private theorem answers_draws {units : List k.Unit} {owners : List k.Owner} {p : Pool k}
    (hunits : (p.stock fabric category).Lists units)
    (hnames : (owners.map fun owner => (k.canonical owner).1).Nodup)
    (hfree : ∀ owner ∈ owners, (p.stock fabric category).used[(k.canonical owner).1]? = none) :
    (p.transcript (owners.map (.draw fabric category))).map (·.2) =
      (units.take owners.length).map (fun u => .ok (.unit u)) ++
        List.replicate (owners.length - units.length) (.error ⟨k, fabric, category, .exhausted⟩) := by
  induction owners generalizing units p with
  | nil => simp [transcript]
  | cons owner rest ih =>
    obtain ⟨hother, hnames⟩ := List.nodup_cons.1 hnames
    have hlast : ∀ o ∈ rest, (p.stock fabric category).used[(k.canonical o).1]? = none :=
      fun o ho => hfree o (List.mem_cons_of_mem owner ho)
    simp only [List.map_cons, transcript, answer_draw]
    rcases hunits.draw (hfree owner List.mem_cons_self) with ⟨rfl, h⟩ | ⟨u, later, s', rfl, h, hlater, hused⟩
    · -- The failure changes nothing, so all later draws fail as well.
      have hstock : ((Call.draw fabric category owner).after p).stock fabric category = p.stock fabric category := by
        rw [stock_draw, h]
      rw [ih (by rwa [hstock]) hnames (by rwa [hstock]), h]
      simp [List.replicate_succ, Except.mapError, Except.map]
    · have hstock : ((Call.draw fabric category owner).after p).stock fabric category = s' := by
        rw [stock_draw, h]
      have hlast' : ∀ o ∈ rest, s'.used[(k.canonical o).1]? = none := by
        intro o ho
        have hne : (k.canonical owner).1 ≠ (k.canonical o).1 := fun heq =>
          hother (List.mem_map.2 ⟨o, ho, heq.symm⟩)
        rw [hused _ hne]
        exact hlast o ho
      rw [ih (by rwa [hstock]) hnames (by rwa [hstock]), h]
      simp [Except.mapError, Except.map]

/-- A draw hands out the lowest free unit.  After any calls, an owner that holds nothing in a category is answered with
a unit exactly if it is the lowest of those that were added and that nobody holds in any order, is told that the
category is exhausted exactly if everything that was added is held, and is told one or the other.

So a range that is added to a category in which nothing is free is handed out in ascending order: `owners` that hold
nothing draw its units one by one, from the first to the last, and whoever draws then is told that the category is
exhausted.  A category without records takes every range. -/
theorem draws_lowest (calls : List (Call k)) (fabric : FabricId) (category : String) :
    let p := afterCalls calls
    let s := p.stock fabric category
    let exhausted : PoolError := ⟨k, fabric, category, .exhausted⟩
    (∀ owner : k.Owner, s.used[(k.canonical owner).1]? = none →
      let answer := ((draw fabric category owner).run.run p).1
      (∀ u, answer = .ok u ↔ s.Lowest u) ∧ (answer = .error exhausted ↔ ∀ u ∈ s.populated, s.Bound u) ∧
        ((∃ u, answer = .ok u) ∨ answer = .error exhausted)) ∧
    ∀ (range : String) (allowSmall : Bool) (units : List k.Unit), k.expand range allowSmall = .ok units →
      let filling : Call k := .populate fabric category range allowSmall
      (s = {} → filling.answer p = .ok (.counted units.length)) ∧
      (filling.error? p = none → (∀ u ∈ s.populated, s.Bound u) →
        units.Pairwise (fun u v => compare u v = .lt) ∧
        ∀ owners : List k.Owner, (owners.map fun owner => (k.canonical owner).1).Nodup →
          (∀ owner ∈ owners, s.used[(k.canonical owner).1]? = none) →
            ((filling.after p).transcript (owners.map (.draw fabric category))).map (·.2) =
              (units.take owners.length).map (fun u => .ok (.unit u)) ++
                List.replicate (owners.length - units.length) (.error exhausted)) := by
  intro p s exhausted
  have hs : s.Conserved :=
    afterCalls_invariant Stock.conserved_empty (fun _ _ hs h => hs.change h) calls fabric category
  refine ⟨fun owner hname => ?_, fun range allowSmall units hunits => ⟨fun hempty => ?_, fun hok hbound => ?_⟩⟩
  · have hanswer : ((draw fabric category owner).run.run p).1 =
        ((Stock.draw owner).run.run s).1.mapError (⟨k, fabric, category, ·⟩) := by rw [draw, run_onStock]
    rcases hs.draw_lowest hname with ⟨u, hu, h⟩ | ⟨hbound, h⟩ <;> simp only [hanswer, h, Except.mapError]
    · refine ⟨fun v => ⟨?_, fun hv => by rw [hu.eq hv]⟩, iff_of_false ?_ fun hbound => ?_, .inl ⟨u, rfl⟩⟩
      · rintro ⟨⟩
        exact hu
      · rintro ⟨⟩
      · exact hu.free.2 (hbound u hu.free.1)
    · refine ⟨fun v => iff_of_false ?_ fun hv => ?_, iff_of_true rfl hbound, .inr rfl⟩
      · rintro ⟨⟩
      · exact hv.free.2 (hbound v hv.free.1)
  · rw [Call.answer, populate, run_onStock, show p.stock fabric category = {} from hempty,
      Stock.populate_empty hunits]
    rfl
  · obtain ⟨n, hn⟩ : ∃ n, ((Stock.populate range allowSmall).run.run s).1 = .ok n := by
      rcases h : ((Stock.populate range allowSmall).run.run s).1 with e | n
      · rw [Call.error?, populate, run_onStock, h] at hok
        cases hok
      · exact ⟨n, rfl⟩
    have hstock : ((Call.populate fabric category range allowSmall).after p).stock fabric category =
        ((Stock.populate range allowSmall).run.run s).2 := by
      rw [Call.after, populate, stock_onStock, if_pos ⟨rfl, rfl⟩]
    refine ⟨(Kind.ascending_expand hunits).sorted, fun owners hnames hfree => answers_draws ?_ hnames ?_⟩
    · rw [hstock]
      exact hs.lists_populate hbound hunits hn
    · rw [hstock, Stock.used_populate]
      exact hfree

/-- The only number of the leaves is taken, so the next leaf is told so; then three leaves draw from another range of
two numbers. -/
theorem leaves_draw_range :
    let p : Pool .number := afterCalls [.populate 1 "Leaf" "64600" false, .reserve 1 "Leaf" 9 64600]
    let filling : Call .number := .populate 1 "Leaf" "64512-64513" false
    let exhausted : PoolError := ⟨.number, 1, "Leaf", .exhausted⟩
    ((draw 1 "Leaf" 3).run.run p).1 = .error exhausted ∧
      ((filling.after p).transcript ([3, 1, 2].map (.draw 1 "Leaf"))).map (·.2) =
        [.ok (.unit (64512 : UInt32)), .ok (.unit (64513 : UInt32)), .error exhausted] := by
  intro p filling exhausted
  obtain ⟨hdraw, hrange⟩ :=
    draws_lowest (k := .number) [.populate 1 "Leaf" "64600" false, .reserve 1 "Leaf" 9 64600] 1 "Leaf"
  have hfree : [(3 : UInt32), 1, 2].all fun owner => (p.stock 1 "Leaf").used[owner]?.isNone := by decide +kernel
  have hnone : ∀ owner ∈ [(3 : UInt32), 1, 2], (p.stock 1 "Leaf").used[owner]? = none := fun owner howner =>
    Option.isNone_iff_eq_none.1 (List.all_eq_true.1 hfree owner howner)
  have hbound : ∀ u ∈ (p.stock 1 "Leaf").populated, (p.stock 1 "Leaf").Bound u := by
    have hheld : (p.stock 1 "Leaf").populated.toList.all (p.stock 1 "Leaf").holds := by decide +kernel
    intro u hu
    rw [Stock.bound_iff_holds]
    exact List.all_eq_true.1 hheld u (ExtTreeSet.mem_toList.2 hu)
  have hexhausted : ((draw 1 "Leaf" 3).run.run p).1 = .error exhausted :=
    (hdraw 3 (hnone 3 List.mem_cons_self)).2.1.2 hbound
  refine ⟨hexhausted, ?_⟩
  obtain ⟨-, hanswers⟩ := hrange "64512-64513" false [64512, 64513] (by decide +kernel)
  exact (hanswers (Option.isNone_iff_eq_none.1 (by decide +kernel)) hbound).2 [3, 1, 2] (by decide) hnone

end Pool

end FabricProvision

import Mathlib
import FabricProvision.Proofs.Pool.Conservation
import FabricProvision.Proofs.Pool.Failures
import FabricProvision.Proofs.Pool.Owners

/-!
# Giving back

A release undoes what gave the unit to its owner, and leaves no trace of it (`Pool.release_undoes`).  An owner that
held nothing has its unit from a stock in which that unit was taken out and then recorded (`Pool.stock_of_gives`).  The
record goes again (`deleteUsed_give`).  Whether the unit becomes available again is decided anew by the release, and
the decision is right in each of three cases (`restored_takeAvailable`): a unit that others hold was not available
before, nor was one from outside the populated ranges, and any other unit was, by conservation.
-/

namespace FabricProvision

open Std (ExtTreeMap ExtTreeSet)

/-! ### Names -/

/-- A name of an owner with its unit as seen through that name: the given one, or the other name of a link whose ends
differ with the addresses exchanged. -/
inductive Kind.Alias : (k : Kind) → k.Owner → k.Unit → k.Owner → k.Unit → Prop
  | same {k : Kind} (owner : k.Owner) (unit : k.Unit) : Alias k owner unit owner unit
  | reversed {l : Link} (h : l.one ≠ l.two) (pair : AddressPair) : Alias .link l pair l.reversed pair.swap

/-- Through all its names, an owner is recorded in one place with one unit. -/
theorem Kind.Alias.recorded {k : Kind} {owner other : k.Owner} {unit unit' : k.Unit}
    (h : k.Alias owner unit other unit') :
    (k.canonical other).1 = (k.canonical owner).1 ∧
      k.orient (k.canonical other).2 unit' = k.orient (k.canonical owner).2 unit := by
  cases h with
  | same => exact ⟨rfl, rfl⟩
  | @reversed l hends pair =>
    rw [Kind.canonical_reversed hends]
    exact ⟨rfl, Kind.orient_not_swap _ pair⟩

/-! ### Records that come and go -/

namespace Stock

variable {k : Kind} {s : Stock k} {name : k.Owner}

/-- The stock after an owner that held nothing was given a unit. -/
def given (s : Stock k) (owner : k.Owner) (unit : k.Unit) : Stock k :=
  (s.takeAvailable (k.pooled unit)).give (k.canonical owner).1 (k.orient (k.canonical owner).2 unit)

/-- The record of an owner that held nothing comes and goes. -/
theorem deleteUsed_give (hname : s.used[name]? = none) (unit : k.Unit) : (s.give name unit).deleteUsed name = s := by
  simp only [give, deleteUsed, erase_insert, erase_of_getElem? hname]

/-- A unit that is taken out and becomes free again is available exactly if it was. -/
theorem Conserved.restored_takeAvailable (hs : s.Conserved) (unit : k.Unit) :
    (s.takeAvailable (k.pooled unit)).restored unit = s := by
  have hout (h : k.pooled unit ∉ s.available) : s.takeAvailable (k.pooled unit) = s := by
    refine takeAvailable_of_not_mem ?_
    rw [← Bool.not_eq_true, ExtTreeSet.contains_iff_mem]
    exact h
  have hholds : (s.takeAvailable (k.pooled unit)).holds unit = s.holds unit := rfl
  have hpopulated : (s.takeAvailable (k.pooled unit)).populated = s.populated := rfl
  unfold restored restoreAvailable
  rw [hholds, hpopulated]
  by_cases hheld : s.holds unit = true
  · -- Others hold the unit.
    rw [if_pos hheld]
    refine hout fun hav => hs.not_bound _ hav ?_
    rwa [bound_iff_holds, holds_pooled]
  rw [if_neg hheld]
  by_cases hpop : k.pooled unit ∈ s.populated
  · rw [if_pos (ExtTreeSet.contains_iff_mem.2 hpop)]
    have hav : k.pooled unit ∈ s.available := by
      refine (hs.mem_available _).2 ⟨hpop, ?_⟩
      rwa [bound_iff_holds, holds_pooled]
    simp only [takeAvailable, set_erase_again hav]
  · -- The unit is from outside the populated ranges.
    rw [if_neg fun h => hpop (ExtTreeSet.contains_iff_mem.1 h)]
    exact hout fun hav => hpop (hs.available_subset _ hav)

/-- What a release does once an owner that held nothing was given a unit: under any name of the owner, it leaves the
stock as it was before. -/
theorem Conserved.release_given (hs : s.Conserved) {owner other : k.Owner} {unit unit' : k.Unit}
    (hname : s.used[(k.canonical owner).1]? = none) (halias : k.Alias owner unit other unit') :
    (Stock.release other unit').run.run (s.given owner unit) = (.ok ⟨⟩, s) := by
  obtain ⟨hsame, hunit⟩ := halias.recorded
  have hpooled : k.pooled unit' = k.pooled unit := by
    rw [← Kind.pooled_orient (k.canonical other).2 unit', hunit, Kind.pooled_orient]
  rcases release_cases (s.given owner unit) other unit' with ⟨-, h⟩ | ⟨hheld, -⟩
  · rw [h, hsame, given, deleteUsed_give (by exact hname), ← hpooled, hs.restored_takeAvailable]
  · rw [hsame, hunit] at hheld
    exact absurd (used_give_self _ _ _) hheld

/-- A draw takes an available unit, which is in pooled form. -/
theorem Conserved.draw_gives (hs : s.Conserved) {owner : k.Owner} {unit : k.Unit}
    (h : ((Stock.draw owner).run.run s).1 = .ok unit) : ((Stock.draw owner).run.run s).2 = s.given owner unit := by
  rcases draw_cases s owner with ⟨held, -, hrun⟩ | ⟨-, -, hrun⟩ | ⟨u, -, hmin, hrun⟩ <;> rw [hrun] at h ⊢
  · cases h
  · cases h
  · cases h
    have hav : unit ∈ s.available := (ExtTreeSet.min?_eq_some_iff_mem_and_forall.1 hmin).1
    rw [given, hs.pooled unit (hs.available_subset unit hav)]

theorem reserve_gives {owner : k.Owner} {unit : k.Unit} (hname : s.used[(k.canonical owner).1]? = none)
    (h : Step.error? ((reserve owner unit).run.run s).1 = none) :
    ((reserve owner unit).run.run s).2 = s.given owner unit := by
  rcases reserve_cases s owner unit with ⟨hheld, -⟩ | ⟨e, -, hrun⟩ | ⟨-, -, hrun⟩ | ⟨held, hheld, -⟩ |
    ⟨held, hheld, -⟩
  · rw [hname] at hheld
    cases hheld
  · rw [hrun] at h
    cases h
  · rw [hrun, given]
  · rw [hname] at hheld
    cases hheld
  · rw [hname] at hheld
    cases hheld

/-- An owner that holds nothing may reserve a unit, unless it has to be available and is not. -/
theorem reserve_free {owner : k.Owner} {unit : k.Unit} (hname : s.used[(k.canonical owner).1]? = none)
    (hready : k.pooledReservation? owner unit = none ∨ k.pooled unit ∈ s.available) :
    (reserve owner unit).run.run s = (.ok ⟨⟩, s.given owner unit) := by
  have hok : Step.error? ((reserve owner unit).run.run s).1 = none := by
    rcases reserve_cases s owner unit with ⟨-, hrun⟩ | ⟨e, hcause, -⟩ | ⟨-, -, hrun⟩ | ⟨held, -, -, -, hrun⟩ |
      ⟨held, -, -, -, -, hrun⟩
    · rw [hrun]; rfl
    · rcases hcause with ⟨-, hheld⟩ | ⟨-, hout⟩
      · rw [hname] at hheld
        cases hheld
      · exact absurd hready hout
    all_goals rw [hrun]; rfl
  refine Prod.ext ?_ (reserve_gives hname hok)
  rcases h : ((reserve owner unit).run.run s).1 with e | _
  · rw [h] at hok
    cases hok
  · rfl

/-- Where an owner drew a unit it could have reserved it. -/
theorem reserve_of_draw {s' : Stock k} {owner : k.Owner} {unit : k.Unit}
    (h : (draw owner).run.run s = (.ok unit, s')) (hpooled : k.pooled unit = unit) :
    (reserve owner unit).run.run s = (.ok ⟨⟩, s') := by
  rcases draw_cases s owner with ⟨held, -, hrun⟩ | ⟨-, -, hrun⟩ | ⟨u, hname, hmin, hrun⟩ <;> rw [hrun] at h <;> cases h
  have hav : unit ∈ s.available := (ExtTreeSet.min?_eq_some_iff_mem_and_forall.1 hmin).1
  rw [reserve_free hname (.inr (hpooled.symm ▸ hav)), given, hpooled]

end Stock

/-! ### Calls that give and take back -/

namespace Pool

variable {k : Kind} {p : Pool k} {fabric : FabricId} {category : String} {owner : k.Owner} {unit : k.Unit}

/-- Be it drawn or reserved, the unit of an owner that held nothing is taken out and recorded, and the other categories
stay as they are. -/
theorem stock_of_gives {call : Call k} (hs : (p.stock fabric category).Conserved)
    (hname : (p.stock fabric category).used[(k.canonical owner).1]? = none)
    (h : call.Gives fabric category owner p unit) (f : FabricId) (c : String) :
    (call.after p).stock f c =
      if fabric = f ∧ category = c then (p.stock f c).given owner unit else p.stock f c := by
  cases h with
  | draw h =>
    rw [Call.after, draw, stock_onStock]
    rw [draw, run_onStock] at h
    refine ite_congr rfl (fun hkey => ?_) fun _ => rfl
    obtain ⟨rfl, rfl⟩ := hkey
    exact hs.draw_gives (Step.mapError_eq_ok.1 h)
  | reserve h =>
    rw [Call.after, reserve, stock_onStock]
    refine ite_congr rfl (fun hkey => ?_) fun _ => rfl
    obtain ⟨rfl, rfl⟩ := hkey
    exact Stock.reserve_gives hname ((error?_onStock _).1 h)

/-- A release undoes what gave a unit.  After any calls, let an owner that holds nothing in a category be given a unit,
by a draw or by a reservation, also of a unit that others hold or that was never added.  Then the release of that unit
succeeds, and the records of every category of every fabric are what they were before the unit was given.  A link whose
ends differ may release the pair under its other name, with the addresses exchanged. -/
theorem release_undoes (calls : List (Call k)) {fabric : FabricId} {category : String} {owner other : k.Owner}
    {unit unit' : k.Unit} {call : Call k}
    (hfree : ((afterCalls calls).stock fabric category).used[(k.canonical owner).1]? = none)
    (hgiven : call.Gives fabric category owner (afterCalls calls) unit) (halias : k.Alias owner unit other unit') :
    let given := call.after (afterCalls calls)
    let release : Call k := .release fabric category other unit'
    release.error? given = none ∧ (afterCalls calls).SameRecords (release.after given) := by
  intro given release
  have hs : ((afterCalls calls).stock fabric category).Conserved :=
    afterCalls_invariant Stock.conserved_empty (fun _ _ hs h => hs.change h) calls fabric category
  have hstock := stock_of_gives hs hfree hgiven
  have hrun : (Stock.release other unit').run.run (given.stock fabric category) =
      (.ok ⟨⟩, (afterCalls calls).stock fabric category) := by
    rw [hstock, if_pos ⟨rfl, rfl⟩]
    exact hs.release_given hfree halias
  refine ⟨(error?_onStock _).2 (by rw [hrun]; rfl), fun f c => ?_⟩
  rw [Call.after, Pool.release, stock_onStock]
  by_cases hkey : fabric = f ∧ category = c
  · obtain ⟨rfl, rfl⟩ := hkey
    rw [if_pos ⟨rfl, rfl⟩, hrun]
  · rw [if_neg hkey, hstock, if_neg hkey]

/-- A link that drew a pair gives it back under its other name; a leaf gives back a number that it shared with another
leaf, and one from outside the range. -/
theorem links_and_leaves_give_back :
    let l : Link := ⟨⟨2, 1⟩, ⟨1, 1⟩⟩
    let pair : AddressPair := ⟨.ofOctets 10 3 0 0, .ofOctets 10 3 0 1⟩
    let links : Pool .link := afterCalls [.populate 1 "P2P" "10.3.0.0/29" false]
    let leaves : Pool .number := afterCalls [.populate 1 "Leaf" "64512-64513" false, .reserve 1 "Leaf" 7 64513]
    links.SameRecords ((Call.release 1 "P2P" l.reversed pair.swap).after ((Call.draw 1 "P2P" l).after links)) ∧
      ∀ n ∈ [(64513 : UInt32), 65000],
        leaves.SameRecords ((Call.release 1 "Leaf" 8 n).after ((Call.reserve 1 "Leaf" 8 n).after leaves)) := by
  intro l pair links leaves
  refine ⟨?_, fun n hn => ?_⟩
  · have hdrawn : ((draw 1 "P2P" l).run.run links).1 = .ok pair := by
      simp only [l, pair, links]
      cbv
    have hgives : (Call.draw 1 "P2P" l).Gives 1 "P2P" l links pair := .draw hdrawn
    have hfree : (links.stock 1 "P2P").used[(Kind.link.canonical l).1]? = none :=
      Option.isNone_iff_eq_none.1 (by decide +kernel)
    have hends : l.one ≠ l.two := by decide
    exact (release_undoes _ hfree hgives (.reversed hends pair)).2
  · have hreserved : [(64513 : UInt32), 65000].all fun n =>
        ((Call.reserve 1 "Leaf" 8 n).error? leaves).isNone := by decide +kernel
    have hgives : (Call.reserve 1 "Leaf" 8 n).Gives 1 "Leaf" (8 : Kind.number.Owner) leaves n :=
      .reserve (Option.isNone_iff_eq_none.1 (List.all_eq_true.1 hreserved n hn))
    exact (release_undoes _ (Option.isNone_iff_eq_none.1 (by decide +kernel)) hgives (.same (k := .number) 8 n)).2

end Pool

end FabricProvision

import FabricProvision.Proofs.Pool.Calls
import FabricProvision.Proofs.Pool.Steps

/-!
# What owners hold

An owner keeps the unit it was given until it gives the unit up, gets another one, or its fabric is torn down
(`Undisturbed`), whatever else is done to the pool.  The steps turn a unit around on its way in and on its way out,
relative to the canonical name under which it is recorded.  The two turns undo each other (`orient_orient`), so a
question reads what was given (`Stock.allocated_eq_ok`), and through the other name of a link it reads the addresses
exchanged (`Pool.read_reversed`).
-/

namespace FabricProvision

open Std (ExtTreeMap)
open Step

/-! ### Names and orders -/

namespace Kind

variable {k : Kind}

/-- Two names of one owner. -/
def Same (k : Kind) (a b : k.Owner) : Prop := (k.canonical a).1 = (k.canonical b).1

private theorem orient_orient (swapped : Bool) (u : k.Unit) : k.orient swapped (k.orient swapped u) = u := by
  cases swapped with
  | false => rfl
  | true => cases k <;> rfl

/-- A turn more and an exchange undo each other. -/
theorem orient_not_swap (swapped : Bool) (pair : AddressPair) :
    link.orient (!swapped) pair.swap = link.orient swapped pair := by
  cases swapped <;> rfl

end Kind

/-! ### What the steps do to records -/

namespace Stock

variable {k : Kind} {s : Stock k} {name : k.Owner} {held : k.Unit}

/-- A question is answered with what is recorded, in the order of the given name. -/
theorem allocated_eq_ok (s : Stock k) (owner : k.Owner) (unit : k.Unit) :
    ((allocated owner).run.run s).1 = .ok unit ↔
      s.used[(k.canonical owner).1]? = some (k.orient (k.canonical owner).2 unit) := by
  rcases allocated_cases s owner with ⟨held, hheld, h⟩ | ⟨hheld, h⟩ <;> rw [h, hheld]
  · constructor
    · rintro ⟨⟩
      rw [Kind.orient_orient]
    · intro hu
      rw [Option.some.inj hu, Kind.orient_orient]
  · exact iff_of_false nofun nofun

theorem used_populate (s : Stock k) (range : String) (allowSmall : Bool) :
    ((populate range allowSmall).run.run s).2.used = s.used := by
  rcases populate_cases s range allowSmall with ⟨e, -, h⟩ | ⟨units, staged, -, -, h⟩ <;> rw [h]

theorem used_allocated (s : Stock k) (owner : k.Owner) : ((allocated owner).run.run s).2.used = s.used := by
  rcases allocated_cases s owner with ⟨held, -, h⟩ | ⟨-, h⟩ <;> rw [h]

/-- A draw gives something only to an owner that holds nothing. -/
theorem used_draw (hheld : s.used[name]? = some held) (owner : k.Owner) :
    ((draw owner).run.run s).2.used[name]? = some held := by
  rcases draw_cases s owner with ⟨other, -, h⟩ | ⟨-, -, h⟩ | ⟨u, hfree, -, h⟩ <;> rw [h]
  · exact hheld
  · exact hheld
  · have hne : (k.canonical owner).1 ≠ name := by
      rintro rfl
      rw [hheld] at hfree
      cases hfree
    exact (used_give_of_ne _ _ hne).trans hheld

theorem used_of_draw {owner : k.Owner} {unit : k.Unit} (h : ((draw owner).run.run s).1 = .ok unit) :
    ((draw owner).run.run s).2.used[(k.canonical owner).1]? = some (k.orient (k.canonical owner).2 unit) := by
  rcases draw_cases s owner with ⟨other, -, hrun⟩ | ⟨-, -, hrun⟩ | ⟨u, -, -, hrun⟩ <;> rw [hrun] at h ⊢
  · cases h
  · cases h
  · cases h
    exact used_give_self _ _ _

/-- A reservation that fails, or is for another owner, leaves what an owner holds. -/
theorem used_reserve {owner : k.Owner} {unit : k.Unit} (h : Step.error? ((reserve owner unit).run.run s).1 = none →
    (k.canonical owner).1 ≠ name) : ((reserve owner unit).run.run s).2.used[name]? = s.used[name]? := by
  rcases reserve_cases s owner unit with ⟨-, hrun⟩ | ⟨e, -, hrun⟩ | ⟨-, -, hrun⟩ | ⟨previous, -, -, -, hrun⟩ |
    ⟨previous, -, -, -, -, hrun⟩ <;> rw [hrun] at h ⊢
  · exact used_give_of_ne _ _ (h rfl)
  · exact used_give_of_ne _ _ (h rfl)
  · rw [used_give_of_ne _ _ (h rfl), used_restored]
    exact used_deleteUsed_of_ne _ (h rfl)

theorem used_of_reserve {owner : k.Owner} {unit : k.Unit}
    (h : Step.error? ((reserve owner unit).run.run s).1 = none) :
    ((reserve owner unit).run.run s).2.used[(k.canonical owner).1]? =
      some (k.orient (k.canonical owner).2 unit) := by
  rcases reserve_cases s owner unit with ⟨hheld, hrun⟩ | ⟨e, -, hrun⟩ | ⟨-, -, hrun⟩ | ⟨previous, -, -, -, hrun⟩ |
    ⟨previous, -, -, -, -, hrun⟩ <;> rw [hrun] at h ⊢
  · exact hheld
  · cases h
  · exact used_give_self _ _ _
  · exact used_give_self _ _ _
  · exact used_give_self _ _ _

/-- A release that fails, or is for another owner, leaves what an owner holds. -/
theorem used_release {owner : k.Owner} {unit : k.Unit} (h : Step.error? ((release owner unit).run.run s).1 = none →
    (k.canonical owner).1 ≠ name) : ((release owner unit).run.run s).2.used[name]? = s.used[name]? := by
  rcases release_cases s owner unit with ⟨-, hrun⟩ | ⟨-, hrun⟩ <;> rw [hrun] at h ⊢
  rw [used_restored]
  exact used_deleteUsed_of_ne _ (h rfl)

theorem used_of_release {owner : k.Owner} {unit : k.Unit}
    (h : Step.error? ((release owner unit).run.run s).1 = none) :
    ((release owner unit).run.run s).2.used[(k.canonical owner).1]? = none := by
  rcases release_cases s owner unit with ⟨-, hrun⟩ | ⟨-, hrun⟩ <;> rw [hrun] at h ⊢
  · rw [used_restored]
    exact used_deleteUsed_self _ _
  · cases h

end Stock

/-! ### Calls on one owner -/

namespace Call

variable {k : Kind} (fabric : FabricId) (category : String) (owner : k.Owner)

/-- The call gives a unit to an owner, be it a draw that answers with the unit or a reservation. -/
inductive Gives (p : Pool k) (unit : k.Unit) : Call k → Prop
  | draw (h : ((Pool.draw fabric category owner).run.run p).1 = .ok unit) : Gives p unit (.draw fabric category owner)
  | reserve (h : (reserve fabric category owner unit).error? p = none) :
      Gives p unit (.reserve fabric category owner unit)

/-- The call may end what an owner holds: a release or a reservation that succeeds, under any name of the owner, or
a teardown of the fabric. -/
def Disturbs (p : Pool k) : Call k → Prop
  | reserve f c other unit =>
    f = fabric ∧ c = category ∧ k.Same other owner ∧ (reserve f c other unit).error? p = none
  | release f c other unit =>
    f = fabric ∧ c = category ∧ k.Same other owner ∧ (release f c other unit).error? p = none
  | teardown f => f = fabric
  | _ => False

/-- None of the calls ends what the owner holds, each in the pool that the calls before it left. -/
def Undisturbed : Pool k → List (Call k) → Prop
  | _, [] => True
  | p, call :: later => ¬ call.Disturbs fabric category owner p ∧ Undisturbed (call.after p) later

end Call

namespace Pool

variable {k : Kind} {p : Pool k} {fabric : FabricId} {category : String} {owner : k.Owner} {unit : k.Unit}

/-- What a pool answers to the question for the unit of an owner. -/
def read (p : Pool k) (fabric : FabricId) (category : String) (owner : k.Owner) : Except PoolError k.Unit :=
  ((allocated fabric category owner).run.run p).1

/-- The unit is recorded for the owner. -/
def Records (p : Pool k) (fabric : FabricId) (category : String) (owner : k.Owner) (unit : k.Unit) : Prop :=
  (p.stock fabric category).used[(k.canonical owner).1]? = some (k.orient (k.canonical owner).2 unit)

theorem read_eq_ok : p.read fabric category owner = .ok unit ↔ p.Records fabric category owner unit := by
  unfold read Records
  rw [← Stock.allocated_eq_ok, allocated, run_onStock]
  exact mapError_eq_ok

theorem error?_onStock {α : Type} (step : StockM k α) :
    Step.error? ((onStock fabric category step).run.run p).1 = none ↔
      Step.error? (step.run.run (p.stock fabric category)).1 = none := by
  rw [run_onStock, error?_mapError, Option.map_eq_none_iff]

private theorem records_of_gives {call : Call k} (h : call.Gives fabric category owner p unit) :
    (call.after p).Records fabric category owner unit := by
  unfold Records
  cases h with
  | draw h =>
    rw [Call.after, draw, stock_onStock, if_pos ⟨rfl, rfl⟩]
    rw [draw, run_onStock] at h
    exact Stock.used_of_draw (mapError_eq_ok.1 h)
  | reserve h =>
    rw [Call.after, reserve, stock_onStock, if_pos ⟨rfl, rfl⟩]
    exact Stock.used_of_reserve ((error?_onStock _).1 h)

private theorem used_onStock {α : Type} {name : k.Owner} {held : k.Unit} {f : FabricId} {c : String}
    {step : StockM k α} (hheld : (p.stock fabric category).used[name]? = some held)
    (hstep : f = fabric → c = category → ((step.run.run (p.stock fabric category)).2).used[name]? = some held) :
    (((onStock f c step).run.run p).2.stock fabric category).used[name]? = some held := by
  rw [stock_onStock]
  split
  · rename_i hkey
    exact hstep hkey.1 hkey.2
  · exact hheld

/-- A call that does not end what the owner holds leaves its record. -/
private theorem records_after {call : Call k} (hcall : ¬ call.Disturbs fabric category owner p)
    (h : p.Records fabric category owner unit) : (call.after p).Records fabric category owner unit := by
  unfold Records at h ⊢
  cases call with
  | populate f c range allowSmall =>
    exact used_onStock h fun _ _ => by rw [Stock.used_populate]; exact h
  | draw f c other => exact used_onStock h fun _ _ => Stock.used_draw h other
  | allocated f c other => exact used_onStock h fun _ _ => by rw [Stock.used_allocated]; exact h
  | reserve f c other unit' =>
    refine used_onStock h fun hf hc => ?_
    subst hf hc
    rw [Stock.used_reserve fun hok hsame => hcall ⟨rfl, rfl, hsame, (error?_onStock _).2 hok⟩]
    exact h
  | release f c other unit' =>
    refine used_onStock h fun hf hc => ?_
    subst hf hc
    rw [Stock.used_release fun hok hsame => hcall ⟨rfl, rfl, hsame, (error?_onStock _).2 hok⟩]
    exact h
  | count f c unit' => exact h
  | teardown f =>
    rw [Call.after, stock_teardown_of_ne p (Ne.symm hcall)]
    exact h

private theorem records_undisturbed {later : List (Call k)} (hlater : Call.Undisturbed fabric category owner p later)
    (h : p.Records fabric category owner unit) :
    (later.foldl Call.after p).Records fabric category owner unit := by
  induction later generalizing p with
  | nil => exact h
  | cons call rest ih => exact ih hlater.2 (records_after hlater.1 h)

/-! ### Links from either end -/

/-- The other name of a link reads its addresses exchanged. -/
theorem read_reversed (p : Pool .link) (fabric : FabricId) (category : String) {l : Link} (hl : l.one ≠ l.two)
    (pair : AddressPair) :
    p.read fabric category l.reversed = .ok pair.swap ↔ p.read fabric category l = .ok pair := by
  rw [read_eq_ok, read_eq_ok]
  unfold Records
  rw [Kind.canonical_reversed hl, Kind.orient_not_swap]

/-- After a release, none of the names of the owner reads a unit. -/
private theorem read_released {other : k.Owner} (hsame : k.Same owner other)
    (h : (Call.release fabric category owner unit).error? p = none) (u : k.Unit) :
    ((Call.release fabric category owner unit).after p).read fabric category other ≠ .ok u := by
  rw [ne_eq, read_eq_ok]
  unfold Records
  rw [Call.after, release, stock_onStock, if_pos ⟨rfl, rfl⟩, ← hsame,
    Stock.used_of_release ((error?_onStock _).1 h)]
  exact nofun

/-- Owners keep their units.  What a draw answered with, or what was reserved, is what the owner reads after any
calls that do not end it, whatever else they do and whether they fail or not.  A link whose ends differ reads the
same from both ends, with its addresses exchanged, in every pool: so also after it was given a pair, or another one,
under either name.  And once a release under one name succeeded, the owner reads nothing under any. -/
theorem owners_keep_units :
    (∀ (k : Kind) (p : Pool k) (fabric : FabricId) (category : String) (owner : k.Owner) (unit : k.Unit)
      (given : Call k) (later : List (Call k)), given.Gives fabric category owner p unit →
        Call.Undisturbed fabric category owner (given.after p) later →
          (later.foldl Call.after (given.after p)).read fabric category owner = .ok unit) ∧
    (∀ (p : Pool .link) (fabric : FabricId) (category : String) (l : Link), l.one ≠ l.two →
      ∀ pair : AddressPair,
        p.read fabric category l.reversed = .ok pair.swap ↔ p.read fabric category l = .ok pair) ∧
    ∀ (k : Kind) (p : Pool k) (fabric : FabricId) (category : String) (owner other : k.Owner) (unit : k.Unit),
      k.Same owner other → (Call.release fabric category owner unit).error? p = none →
        ∀ u, ((Call.release fabric category owner unit).after p).read fabric category other ≠ .ok u := by
  refine ⟨fun k p fabric category owner unit given later hgiven hlater => ?_,
    fun p fabric category l hl pair => read_reversed p fabric category hl pair,
    fun k p fabric category owner other unit hsame hreleased u => read_released hsame hreleased u⟩
  exact read_eq_ok.2 (records_undisturbed hlater (records_of_gives hgiven))

/-- A link that reserved a pair under its other name keeps it while a release in the wrong order and a reservation
across two pairs fail, another fabric is torn down and another link draws; its canonical name reads the pair the
other way round. -/
theorem link_keeps_pair :
    let l : Link := ⟨⟨2, 1⟩, ⟨1, 1⟩⟩
    let address (last : Nat) : Ipv4 := .ofOctets 10 3 0 last
    let given : Call .link := .reserve 1 "P2P" l ⟨address 0, address 1⟩
    let later : List (Call .link) := [.release 1 "P2P" l ⟨address 1, address 0⟩,
      .reserve 1 "P2P" l ⟨address 1, address 2⟩, .teardown 2, .draw 1 "P2P" ⟨⟨1, 2⟩, ⟨3, 1⟩⟩]
    let p := later.foldl Call.after (given.after (afterCalls [.populate 1 "P2P" "10.3.0.0/29" false]))
    p.read 1 "P2P" l = .ok ⟨address 0, address 1⟩ ∧ p.read 1 "P2P" l.reversed = .ok ⟨address 1, address 0⟩ := by
  intro l address given later p
  have hkept : p.read 1 "P2P" l = .ok ⟨address 0, address 1⟩ := by
    refine owners_keep_units.1 .link _ _ _ _ _ _ _ (.reserve (Option.isNone_iff_eq_none.1 (by decide +kernel)))
      ⟨?_, ?_, nofun, id, trivial⟩
    · exact fun h => absurd h.2.2.2 (Option.ne_none_iff_isSome.2 (by decide +kernel))
    · exact fun h => absurd h.2.2.2 (Option.ne_none_iff_isSome.2 (by decide +kernel))
  exact ⟨hkept, (owners_keep_units.2.1 p 1 "P2P" l (by decide) ⟨address 0, address 1⟩).2 hkept⟩

end Pool

end FabricProvision

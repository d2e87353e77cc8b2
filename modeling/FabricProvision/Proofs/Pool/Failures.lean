import FabricProvision.Proofs.Pool.Calls
import FabricProvision.Proofs.Pool.Steps

/-!
# Calls that fail

A call does all it is to do or nothing.  The steps take units out and remove records before they are done, so a
failure on the way would lose something; but every failure comes before the first change, or after one that did
nothing (`Stock.Intact`).  In particular no step gives a unit to an owner that still has a record.  So a call that
fails leaves the records of every category as they were (`Pool.failed_call_intact`).
-/

namespace FabricProvision

open Step

namespace Stock

variable {k : Kind} {α : Type} {s : Stock k}

/-- A step on `s` that ends with a failure leaves `s`, and the failure is not that an owner has a record where none
is expected. -/
def Intact (s : Stock k) (result : Except (StockError k) α × Stock k) : Prop :=
  ∀ e, result.1 = .error e → result.2 = s ∧ ∀ name, e ≠ .ownerRecorded name

private theorem intact_ok (a : α) (s' : Stock k) : s.Intact (.ok a, s') := nofun

private theorem intact_error {e : StockError k} (h : ∀ name, e ≠ .ownerRecorded name) :
    s.Intact ((.error e, s) : Except (StockError k) α × Stock k) := by
  rintro _ ⟨⟩
  exact ⟨rfl, h⟩

theorem intact_populate (s : Stock k) (range : String) (allowSmall : Bool) :
    s.Intact ((populate range allowSmall).run.run s) := by
  rcases populate_cases s range allowSmall with ⟨e, ⟨cause, rfl⟩ | ⟨unit, rfl⟩, h⟩ | ⟨units, staged, -, -, h⟩ <;> rw [h]
  · exact intact_error nofun
  · exact intact_error nofun
  · exact intact_ok _ _

theorem intact_draw (s : Stock k) (owner : k.Owner) : s.Intact ((draw owner).run.run s) := by
  rcases draw_cases s owner with ⟨held, -, h⟩ | ⟨-, -, h⟩ | ⟨u, -, -, h⟩ <;> rw [h]
  · exact intact_error nofun
  · exact intact_error nofun
  · exact intact_ok _ _

theorem intact_allocated (s : Stock k) (owner : k.Owner) : s.Intact ((allocated owner).run.run s) := by
  rcases allocated_cases s owner with ⟨held, -, h⟩ | ⟨-, h⟩ <;> rw [h]
  · exact intact_ok _ _
  · exact intact_error nofun

theorem intact_reserve (s : Stock k) (owner : k.Owner) (unit : k.Unit) :
    s.Intact ((reserve owner unit).run.run s) := by
  rcases reserve_cases s owner unit with ⟨-, h⟩ | ⟨e, ⟨rfl, -⟩ | ⟨⟨link, pair, rfl⟩, -⟩, h⟩ | ⟨-, -, h⟩ |
    ⟨held, -, -, -, h⟩ | ⟨held, -, -, -, -, h⟩ <;> rw [h]
  · exact intact_ok _ _
  · exact intact_error nofun
  · exact intact_error nofun
  · exact intact_ok _ _
  · exact intact_ok _ _
  · exact intact_ok _ _

theorem intact_release (s : Stock k) (owner : k.Owner) (unit : k.Unit) :
    s.Intact ((release owner unit).run.run s) := by
  rcases release_cases s owner unit with ⟨-, h⟩ | ⟨-, h⟩ <;> rw [h]
  · exact intact_ok _ _
  · exact intact_error nofun

end Stock

namespace Pool

variable {k : Kind} {α : Type}

/-- The records of every category of every fabric are the same. -/
def SameRecords (p p' : Pool k) : Prop := ∀ fabric category, p'.stock fabric category = p.stock fabric category

private theorem intact_onStock {fabric : FabricId} {category : String} {step : StockM k α}
    (hstep : ∀ s : Stock k, s.Intact (step.run.run s)) {p : Pool k} {e : PoolError}
    (h : Step.error? ((onStock fabric category step).run.run p).1 = some e) :
    p.SameRecords ((onStock fabric category step).run.run p).2 ∧ ∀ owner, e.cause ≠ .ownerRecorded owner := by
  have hintact := hstep (p.stock fabric category)
  rw [run_onStock] at h
  rcases hanswer : (step.run.run (p.stock fabric category)).1 with cause | a <;> rw [hanswer] at h <;> cases h
  obtain ⟨hsame, hcause⟩ := hintact cause hanswer
  refine ⟨fun fabric' category' => ?_, hcause⟩
  rw [stock_onStock]
  split
  · rename_i hkey
    obtain ⟨rfl, rfl⟩ := hkey
    exact hsame
  · rfl

/-- A call that fails leaves the records of every category of every fabric as they were, and no call fails because
an owner has a record where none is expected. -/
theorem failed_call_intact (p : Pool k) (call : Call k) {e : PoolError} (h : call.error? p = some e) :
    p.SameRecords (call.after p) ∧ ∀ owner, e.cause ≠ .ownerRecorded owner := by
  cases call with
  | populate f c range allowSmall => exact intact_onStock (fun s => s.intact_populate range allowSmall) h
  | draw f c owner => exact intact_onStock (fun s => s.intact_draw owner) h
  | allocated f c owner => exact intact_onStock (fun s => s.intact_allocated owner) h
  | reserve f c owner unit => exact intact_onStock (fun s => s.intact_reserve owner unit) h
  | release f c owner unit => exact intact_onStock (fun s => s.intact_release owner unit) h
  | count f c unit => cases h
  | teardown f => cases h

/-- Leaves share one autonomous system number; another range that ends with it adds none of its numbers. -/
theorem overlapping_range_intact :
    let p : Pool .number := afterCalls [.populate 1 "Leaf" "64520" false, .reserve 1 "Leaf" 7 64520]
    let call : Call .number := .populate 1 "Leaf" "64512-64520" false
    (call.error? p).isSome ∧ p.SameRecords (call.after p) ∧ (call.after p).count 1 "Leaf" 64512 = 0 := by
  intro p call
  have hfails : (call.error? p).isSome := by decide +kernel
  obtain ⟨e, he⟩ := Option.isSome_iff_exists.1 hfails
  refine ⟨hfails, (failed_call_intact p call he).1, ?_⟩
  decide +kernel

end Pool

end FabricProvision

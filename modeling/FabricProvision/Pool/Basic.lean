import FabricProvision.Pool.Stock

/-!
# Pools

A pool keeps a stock for every category of every fabric; a category without records has the empty stock.  Each
operation works on the stock of one category, and its failure names the fabric, the category and the cause.
-/

namespace FabricProvision

open Std (ExtTreeMap)

/-- A category of a fabric. -/
structure CategoryKey where
  fabric : FabricId
  category : String
deriving DecidableEq, Repr

namespace CategoryKey

instance : Ord CategoryKey := ⟨compareLex (compareOn fabric) (compareOn category)⟩
instance : Std.TransOrd CategoryKey :=
  inferInstanceAs (Std.TransCmp (compareLex (compareOn fabric) (compareOn category)))
instance : Std.LawfulEqOrd CategoryKey :=
  lawfulEqCmp_compareLex fun ⟨_, _⟩ ⟨_, _⟩ h h' => by cases h; cases h'; rfl

end CategoryKey

/-- Why an operation on a pool fails. -/
structure PoolError where
  kind : Kind
  fabric : FabricId
  category : String
  cause : StockError kind

/-- The wording of a record that exists already; `entry` is its unit or owner in full. -/
def duplicateText (fabric : FabricId) (category entry : String) : String :=
  s!"duplicate entry {entry} for fabric {fabric.toNat} category {category}"

/-- The wording of a failure. -/
def PoolError.message (e : PoolError) : String :=
  let k := e.kind
  let initialization (reason : String) :=
    s!"{k.label} Pool Initialization Failed for {k.categoryNoun} {e.category}: {reason}"
  match e.cause with
  | .badRange cause => initialization cause.message
  | .unitRecorded unit => initialization (duplicateText e.fabric e.category (k.unitText unit))
  | .exhausted => s!"{k.label} Exhausted for {e.fabric.toNat}"
  | .notAllocated owner =>
    s!"{k.label} not present in the Used {k.label} Table for Fabric {e.fabric.toNat} {k.describe owner}"
  | .occupied owner => s!"{k.label} already allocated for Fabric {e.fabric.toNat} {k.describe owner}"
  | .mismatch link pair =>
    s!"IPPair({pair.first.text},{pair.second.text}) not present in the Used IP Table for Fabric " ++
      s!"{e.fabric.toNat} Device ({link.one.device.toNat},{link.two.device.toNat})"
  | .ownerRecorded owner => duplicateText e.fabric e.category (k.ownerText owner)

/-- The stocks of one kind of units. -/
structure Pool (k : Kind) where
  stocks : ExtTreeMap CategoryKey (Stock k) := ∅

/-- Steps on a pool: a failing step keeps what was done before it. -/
abbrev PoolM (k : Kind) := ExceptT PoolError (StateM (Pool k))

namespace Pool

variable {k : Kind}

instance : Inhabited (Pool k) := ⟨{}⟩

/-- The stock of a category. -/
def stock (p : Pool k) (fabric : FabricId) (category : String) : Stock k :=
  p.stocks.getD ⟨fabric, category⟩ {}

/-- Replaces the stock of a category. -/
def setStock (p : Pool k) (fabric : FabricId) (category : String) (s : Stock k) : Pool k :=
  ⟨p.stocks.insert ⟨fabric, category⟩ s⟩

/-- Drops all records of a fabric. -/
def teardown (p : Pool k) (fabric : FabricId) : Pool k :=
  ⟨p.stocks.filter fun key _ => key.fabric != fabric⟩

/-- Runs a step on the stock of one category. -/
def onStock {α : Type} (fabric : FabricId) (category : String) (step : StockM k α) : PoolM k α := do
  let (answer, s) := step.run.run ((← get).stock fabric category)
  modify (·.setStock fabric category s)
  match answer with
  | .ok a => return a
  | .error cause => throw ⟨k, fabric, category, cause⟩

/-- Adds the units of a range and counts them. -/
def populate (fabric : FabricId) (category range : String) (allowSmall : Bool) : PoolM k Nat :=
  onStock fabric category (Stock.populate range allowSmall)

/-- Hands the lowest available unit to an owner. -/
def draw (fabric : FabricId) (category : String) (owner : k.Owner) : PoolM k k.Unit :=
  onStock fabric category (Stock.draw owner)

/-- The unit that an owner holds. -/
def allocated (fabric : FabricId) (category : String) (owner : k.Owner) : PoolM k k.Unit :=
  onStock fabric category (Stock.allocated owner)

/-- Gives a chosen unit to an owner. -/
def reserve (fabric : FabricId) (category : String) (owner : k.Owner) (unit : k.Unit) : PoolM k Unit :=
  onStock fabric category (Stock.reserve owner unit)

/-- Takes back the unit that an owner holds. -/
def release (fabric : FabricId) (category : String) (owner : k.Owner) (unit : k.Unit) : PoolM k Unit :=
  onStock fabric category (Stock.release owner unit)

/-- How often a unit is available, in any order. -/
def count (p : Pool k) (fabric : FabricId) (category : String) (unit : k.Unit) : Nat :=
  (p.stock fabric category).countAvailable (k.pooled unit)

end Pool

end FabricProvision

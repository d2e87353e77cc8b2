import FabricProvision.Json.Record
import FabricProvision.Pool.Basic

/-!
# The pools of a fabric

The three pools together, and the ranges they are filled from.
-/

namespace FabricProvision

open Json (Encode Decode encode)

/-- One range to load into a pool. -/
structure PoolRange where
  category : String
  range : String
  allowSmall : Bool := false
deriving DecidableEq, Repr, Inhabited

instance : Encode PoolRange where
  encode r := .obj [("category", encode r.category), ("range", encode r.range),
    ("allow_small", encode r.allowSmall)]

instance : Decode PoolRange where
  decode? j := do
    let r ← Json.Record.ofJson? ["category", "range", "allow_small"] j
    return { category := ← r.get "category", range := ← r.get "range",
             allowSmall := ← r.getD "allow_small" false }

/-- The ranges of every pool. -/
structure PoolSettings where
  numbers : List PoolRange := []
  addresses : List PoolRange := []
  links : List PoolRange := []
deriving DecidableEq, Repr, Inhabited

instance : Encode PoolSettings where
  encode s := .obj [("asn", encode s.numbers), ("ip", encode s.addresses), ("ip_pair", encode s.links)]

instance : Decode PoolSettings where
  decode? j := do
    let r ← Json.Record.ofJson? ["asn", "ip", "ip_pair"] j
    return { numbers := ← r.getD "asn" [], addresses := ← r.getD "ip" [], links := ← r.getD "ip_pair" [] }

/-- The pool of each kind. -/
structure Pools where
  numbers : Pool .number := {}
  addresses : Pool .address := {}
  links : Pool .link := {}

instance : Inhabited Pools := ⟨{}⟩

/-- Steps on the pools: a failing step keeps what was done before it. -/
abbrev PoolsM := ExceptT PoolError (StateM Pools)

namespace Pools

/-- The pool of a kind. -/
def pool (p : Pools) : (k : Kind) → Pool k
  | .number => p.numbers
  | .address => p.addresses
  | .link => p.links

/-- Replaces the pool of a kind. -/
def setPool (p : Pools) : (k : Kind) → Pool k → Pools
  | .number, q => { p with numbers := q }
  | .address, q => { p with addresses := q }
  | .link, q => { p with links := q }

/-- Runs a step on the pool of one kind. -/
def onPool {α : Type} (k : Kind) (step : PoolM k α) : PoolsM α := do
  let (answer, q) := step.run.run ((← get).pool k)
  modify (·.setPool k q)
  match answer with
  | .ok a => return a
  | .error e => throw e

/-- Loads ranges of one kind in order, up to the first that fails. -/
def populateKind (k : Kind) (fabric : FabricId) (ranges : List PoolRange) : PoolsM Unit :=
  ranges.forM fun r => do
    let _ ← onPool k (Pool.populate fabric r.category r.range r.allowSmall)

/-- Loads every range in order, up to the first that fails. -/
def populate (fabric : FabricId) (settings : PoolSettings) : PoolsM Unit := do
  populateKind .number fabric settings.numbers
  populateKind .address fabric settings.addresses
  populateKind .link fabric settings.links

/-- Drops all records of a fabric. -/
def teardown (p : Pools) (fabric : FabricId) : Pools :=
  ⟨p.numbers.teardown fabric, p.addresses.teardown fabric, p.links.teardown fabric⟩

end Pools

end FabricProvision

import FabricProvision.Pool.Kind
import Std.Data.ExtTreeSet

/-!
# Records of one category

A stock holds what one category of one fabric has been given (`populated`), what of it waits to be handed out
(`available`), and what its owners hold (`used`).  Populated and available units are in pooled form, a held unit
is in the order of its owner's canonical name.

The first part is the table of records: each operation reads or changes one of the three parts.  The second
part hands units out and takes them back; these steps may fail, and a failing step keeps what was done before
it.
-/

namespace FabricProvision

open Std (ExtTreeMap ExtTreeSet)

/-- The records of one category. -/
structure Stock (k : Kind) where
  /-- Every unit that was ever added. -/
  populated : ExtTreeSet k.Unit := ∅
  /-- The units that wait to be handed out. -/
  available : ExtTreeSet k.Unit := ∅
  /-- What each owner holds. -/
  used : ExtTreeMap k.Owner k.Unit := ∅

namespace Stock

variable {k : Kind}

instance : Inhabited (Stock k) := ⟨{}⟩

/-! ### Records -/

/-- Whether an owner holds the unit, in any order. -/
def holds (s : Stock k) (unit : k.Unit) : Bool :=
  s.used.values.any fun held => k.pooled held == k.pooled unit

/-- The pooled forms of `units` besides those already `staged`; fails with the first unit that is held,
populated or staged before. -/
def stage (s : Stock k) (staged : ExtTreeSet k.Unit) : List k.Unit → Except k.Unit (ExtTreeSet k.Unit)
  | [] => .ok staged
  | unit :: rest =>
    if s.holds unit || s.populated.contains (k.pooled unit) || staged.contains (k.pooled unit) then .error unit
    else s.stage (staged.insert (k.pooled unit)) rest

/-- Adds every unit or none of them; fails with the first unit that is not new. -/
def insertAvailable (s : Stock k) (units : List k.Unit) : Except k.Unit (Stock k) := do
  let staged ← s.stage ∅ units
  return { s with populated := s.populated ∪ staged, available := s.available ∪ staged }

/-- The lowest available unit. -/
def firstAvailable (s : Stock k) : Option k.Unit := s.available.min?

/-- Takes a unit out of the available ones. -/
def takeAvailable (s : Stock k) (unit : k.Unit) : Stock k := { s with available := s.available.erase unit }

/-- Makes a populated unit available again; a unit that was never populated is dropped. -/
def restoreAvailable (s : Stock k) (unit : k.Unit) : Stock k :=
  if s.populated.contains unit then { s with available := s.available.insert unit } else s

/-- How often a unit is available, which is at most once. -/
def countAvailable (s : Stock k) (unit : k.Unit) : Nat := if s.available.contains unit then 1 else 0

/-- What an owner holds. -/
def findUsed (s : Stock k) (owner : k.Owner) : Option k.Unit := s.used[owner]?

/-- Records that an owner holds a unit; `none` if it holds one already. -/
def insertUsed (s : Stock k) (owner : k.Owner) (unit : k.Unit) : Option (Stock k) :=
  if s.used.contains owner then none else some { s with used := s.used.insert owner unit }

/-- Removes the record of an owner. -/
def deleteUsed (s : Stock k) (owner : k.Owner) : Stock k := { s with used := s.used.erase owner }

end Stock

/-! ### Handing out and taking back -/

/-- Why a step on a stock fails. -/
inductive StockError (k : Kind) where
  /-- The text is no range of units. -/
  | badRange (cause : RangeError)
  /-- A unit of the range is populated or held already. -/
  | unitRecorded (unit : k.Unit)
  /-- No unit is available. -/
  | exhausted
  /-- The owner does not hold the unit. -/
  | notAllocated (owner : k.Owner)
  /-- The owner holds another unit. -/
  | occupied (owner : k.Owner)
  /-- The pair is neither available nor held by the link. -/
  | mismatch (link : Link) (pair : AddressPair)
  /-- The owner has a record where none is expected. -/
  | ownerRecorded (owner : k.Owner)

/-- Steps on a stock. -/
abbrev StockM (k : Kind) := ExceptT (StockError k) (StateM (Stock k))

namespace Stock

variable {k : Kind}

/-- Adds the units of a range and counts them. -/
def populate (range : String) (allowSmall : Bool) : StockM k Nat := do
  match k.expand range allowSmall with
  | .error cause => throw (.badRange cause)
  | .ok units =>
    match (← get).insertAvailable units with
    | .error unit => throw (.unitRecorded unit)
    | .ok s =>
      set s
      return units.length

/-- Records that `owner`, a canonical name, holds a unit. -/
def bind (owner : k.Owner) (unit : k.Unit) : StockM k Unit := do
  match (← get).insertUsed owner unit with
  | none => throw (.ownerRecorded owner)
  | some s => set s

/-- Makes a unit available again unless it is still held: a shared unit waits for its last owner. -/
def restoreIfFree (unit : k.Unit) : StockM k Unit :=
  modify fun s => if s.holds unit then s else s.restoreAvailable (k.pooled unit)

/-- Hands the lowest available unit to an owner that holds none. -/
def draw (owner : k.Owner) : StockM k k.Unit := do
  let (name, swapped) := k.canonical owner
  if ((← get).findUsed name).isSome then throw (.occupied owner)
  match (← get).firstAvailable with
  | none => throw .exhausted
  | some unit =>
    modify (·.takeAvailable unit)
    bind name (k.orient swapped unit)
    return unit

/-- The unit of an owner, in the order of the name that was given. -/
def allocated (owner : k.Owner) : StockM k k.Unit := do
  let (name, swapped) := k.canonical owner
  match (← get).findUsed name with
  | none => throw (.notAllocated owner)
  | some unit => return k.orient swapped unit

/-- Gives a chosen unit to an owner.  The owner may hold that unit already; a link gives up another one it
holds. -/
def reserve (owner : k.Owner) (unit : k.Unit) : StockM k Unit := do
  let (name, swapped) := k.canonical owner
  let stored := k.orient swapped unit
  let pooled := k.pooled unit
  let held := (← get).findUsed name
  if held = some stored then return
  if held.isSome && !k.replacesHeld then throw (.occupied owner)
  let wasAvailable := (← get).available.contains pooled
  modify (·.takeAvailable pooled)
  if !wasAvailable && !(held.any fun previous => k.pooled previous == pooled) then
    if let some (link, pair) := k.pooledReservation? owner unit then throw (.mismatch link pair)
  if let some previous := held then
    modify (·.deleteUsed name)
    if k.pooled previous ≠ pooled then restoreIfFree previous
  bind name stored

/-- Takes back the unit that an owner holds. -/
def release (owner : k.Owner) (unit : k.Unit) : StockM k Unit := do
  let (name, swapped) := k.canonical owner
  if (← get).findUsed name = some (k.orient swapped unit) then
    modify (·.deleteUsed name)
    restoreIfFree unit
  else throw (.notAllocated owner)

end Stock

end FabricProvision

import FabricProvision.Address.Block
import FabricProvision.Text.Trim

/-!
# Ranges

A pool is filled from ranges in text form: `64512-64515` or a single number for autonomous system numbers, a
block for addresses and for the pairs of addresses of links.  `expandNumbers`, `expandAddresses` and
`expandPairs` list the units of a range in ascending order, which is the order they are handed out in.

A block has to hold four addresses, or two where small ranges are allowed.
-/

namespace FabricProvision

/-- The two addresses of a link. -/
structure AddressPair where
  first : Ipv4
  second : Ipv4
deriving DecidableEq, Repr, Inhabited

namespace AddressPair

instance : Ord AddressPair := ⟨compareLex (compareOn first) (compareOn second)⟩
instance : Std.TransOrd AddressPair :=
  inferInstanceAs (Std.TransCmp (compareLex (compareOn first) (compareOn second)))
instance : Std.LawfulEqOrd AddressPair :=
  lawfulEqCmp_compareLex fun ⟨_, _⟩ ⟨_, _⟩ h h' => by cases h; cases h'; rfl

/-- The pair with its addresses exchanged. -/
def swap (p : AddressPair) : AddressPair := ⟨p.second, p.first⟩

/-- The pair with its lower address first. -/
def sorted (p : AddressPair) : AddressPair := if p.first.bits ≤ p.second.bits then p else p.swap

end AddressPair

/-- Why a text is no range to allocate from. -/
inductive RangeError where
  | invalidNumber (text : String) (cause : Text.NumeralError)
  | reversed (range : String)
  | notABlock (range : String)
  | noRoom (range : String)
  | tooSmall (range : String) (size : Nat)
deriving DecidableEq, Repr

namespace Range

/-- The number of addresses a range has to hold unless small ranges are allowed. -/
def minSize : Nat := 4

/-- One bound of a range of numbers. -/
def readBound (cs : List Char) : Except RangeError UInt32 :=
  (Text.readUInt32 (Text.trim cs)).mapError fun cause =>
    .invalidNumber (String.ofList (Text.trim cs)) cause

/-- The two bounds of a range of numbers, which are one for a single number. -/
def readBounds (cs : List Char) : Except RangeError (UInt32 × UInt32) :=
  match Text.cut '-' cs with
  | some (low, high) => do return (← readBound low, ← readBound high)
  | none => do
    let n ← readBound cs
    return (n, n)

/-- The numbers from `low` to `high`. -/
def numbersFrom (low high : UInt32) : List UInt32 :=
  (List.range' low.toNat (high.toNat + 1 - low.toNat)).map UInt32.ofNat

/-- The block of a range of addresses, if it is large enough. -/
def readBlock (range : String) (allowSmall : Bool) : Except RangeError Block :=
  match Block.parse? (Text.trim range.toList) with
  | none => .error (.notABlock range)
  | some b =>
    if b.size < 2 then .error (.noRoom range)
    else if b.size < minSize ∧ ¬allowSmall then .error (.tooSmall range b.size)
    else .ok b

/-- Consecutive items two by two; an odd one at the end is left out. -/
def pairUp : List Ipv4 → List AddressPair
  | a :: b :: rest => ⟨a, b⟩ :: pairUp rest
  | _ => []

end Range

/-- The autonomous system numbers of a range. -/
def expandNumbers (range : String) : Except RangeError (List UInt32) := do
  let cs := Text.trim range.toList
  let (low, high) ← Range.readBounds cs
  if high < low then .error (.reversed (String.ofList cs))
  else .ok (Range.numbersFrom low high)

/-- The addresses of a range. -/
def expandAddresses (range : String) (allowSmall : Bool) : Except RangeError (List Ipv4) := do
  return (← Range.readBlock range allowSmall).addresses

/-- The address pairs of a range. -/
def expandPairs (range : String) (allowSmall : Bool) : Except RangeError (List AddressPair) := do
  return Range.pairUp (← expandAddresses range allowSmall)

/-- The wording of a failure. -/
def RangeError.message : RangeError → String
  | .invalidNumber text cause => s!"invalid ASN '{text}': {cause.message}"
  | .reversed range => s!"ASN range {range} has min greater than max"
  | .notABlock range => s!"IP range {range} is invalid: invalid IP address syntax"
  | .noRoom range => s!"IP range {range} has no room for allocation"
  | .tooSmall range size =>
    s!"IP range {range} holds {size} addresses, at least {Range.minSize} are required"

end FabricProvision

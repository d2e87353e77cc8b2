import FabricProvision.KeyOrder
import FabricProvision.Text.Numeral

/-!
# IPv4 addresses

An address is a 32-bit number, ordered as such, and is written as four decimal octets with points between.
-/

namespace FabricProvision

/-- An IPv4 address. -/
structure Ipv4 where
  bits : UInt32
deriving DecidableEq, Repr, Inhabited

namespace Ipv4

instance : Ord Ipv4 := ⟨compareOn bits⟩
instance : Std.TransOrd Ipv4 := inferInstanceAs (Std.TransCmp (compareOn bits))
instance : Std.LawfulEqOrd Ipv4 := lawfulEqCmp_compareOn fun ⟨_⟩ ⟨_⟩ h => congrArg mk h

/-- The address with this number. -/
def ofNat (n : Nat) : Ipv4 := ⟨UInt32.ofNat n⟩

/-- The number of an address. -/
def toNat (a : Ipv4) : Nat := a.bits.toNat

/-- The address with these octets, the first being the most significant. -/
def ofOctets (a b c d : Nat) : Ipv4 := ofNat (((a * 256 + b) * 256 + c) * 256 + d)

/-- The octets of an address, the most significant first. -/
def octets (a : Ipv4) : List Nat :=
  [a.toNat / 16777216 % 256, a.toNat / 65536 % 256, a.toNat / 256 % 256, a.toNat % 256]

/-- The dotted form of an address. -/
def text (a : Ipv4) : String := ".".intercalate (a.octets.map toString)

/-- Reads a number of at most `width` digits that is below `bound`, and gives what follows its digits. -/
def readField (width bound : Nat) (cs : List Char) : Option (Nat × List Char) :=
  let ds := cs.takeWhile Char.isDigit
  if ds.isEmpty ∨ width < ds.length then none
  else
    match Text.readDigits bound 0 ds with
    | .ok n => some (n, cs.dropWhile Char.isDigit)
    | .error _ => none

/-- Reads a point. -/
def readPoint : List Char → Option (List Char)
  | '.' :: rest => some rest
  | _ => none

/-- Reads the dotted form at the start of a text, and gives what follows it. -/
def read (cs : List Char) : Option (Ipv4 × List Char) := do
  let (a, cs) ← readField 3 256 cs
  let (b, cs) ← readField 3 256 (← readPoint cs)
  let (c, cs) ← readField 3 256 (← readPoint cs)
  let (d, cs) ← readField 3 256 (← readPoint cs)
  return (ofOctets a b c d, cs)

/-- The address that a text writes in dotted form. -/
def parse? (s : String) : Option Ipv4 :=
  match read s.toList with
  | some (a, []) => some a
  | _ => none

end Ipv4

end FabricProvision

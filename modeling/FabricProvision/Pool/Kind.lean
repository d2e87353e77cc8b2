import FabricProvision.Pool.Range

/-!
# Kinds of pools

Three kinds of units are handed out: autonomous system numbers to devices, addresses to interfaces, address
pairs to links.  The kinds differ in the owner a unit is bound to, in the forms a unit can take, and in what a
reservation may do.

A link may be named from either end, and then its pair is read in the opposite order.  `canonical` picks one of
the two names and says whether the given one was the other; `flip` exchanges the order of a unit, `pooled` is
the form in which a unit waits to be handed out.
-/

namespace FabricProvision

/-- The number of a fabric. -/
abbrev FabricId := UInt32

/-- An interface of a device, both by number. -/
structure InterfaceRef where
  device : UInt32
  interface : UInt32
deriving DecidableEq, Repr, Inhabited

namespace InterfaceRef

instance : Ord InterfaceRef := ⟨compareLex (compareOn device) (compareOn interface)⟩
instance : Std.TransOrd InterfaceRef :=
  inferInstanceAs (Std.TransCmp (compareLex (compareOn device) (compareOn interface)))
instance : Std.LawfulEqOrd InterfaceRef :=
  lawfulEqCmp_compareLex fun ⟨_, _⟩ ⟨_, _⟩ h h' => by cases h; cases h'; rfl

end InterfaceRef

/-- A link between two interfaces; the first address of its pair belongs to `one`. -/
structure Link where
  one : InterfaceRef
  two : InterfaceRef
deriving DecidableEq, Repr, Inhabited

namespace Link

instance : Ord Link := ⟨compareLex (compareOn one) (compareOn two)⟩
instance : Std.TransOrd Link := inferInstanceAs (Std.TransCmp (compareLex (compareOn one) (compareOn two)))
instance : Std.LawfulEqOrd Link :=
  lawfulEqCmp_compareLex fun ⟨_, _⟩ ⟨_, _⟩ h h' => by cases h; cases h'; rfl

/-- The same link seen from its other end. -/
def reversed (l : Link) : Link := ⟨l.two, l.one⟩

end Link

/-- The kinds of pools. -/
inductive Kind where
  | number
  | address
  | link
deriving DecidableEq, Repr, Inhabited

namespace Kind

/-- What a pool of this kind hands out. -/
abbrev Unit : Kind → Type
  | number => UInt32
  | address => Ipv4
  | link => AddressPair

/-- What a unit of this kind is bound to. -/
abbrev Owner : Kind → Type
  | number => UInt32
  | address => InterfaceRef
  | link => Link

instance : (k : Kind) → DecidableEq k.Unit
  | number => inferInstanceAs (DecidableEq UInt32)
  | address => inferInstanceAs (DecidableEq Ipv4)
  | link => inferInstanceAs (DecidableEq AddressPair)

instance : (k : Kind) → Ord k.Unit
  | number => inferInstanceAs (Ord UInt32)
  | address => inferInstanceAs (Ord Ipv4)
  | link => inferInstanceAs (Ord AddressPair)

instance : (k : Kind) → Std.TransOrd k.Unit
  | number => inferInstanceAs (Std.TransOrd UInt32)
  | address => inferInstanceAs (Std.TransOrd Ipv4)
  | link => inferInstanceAs (Std.TransOrd AddressPair)

instance : (k : Kind) → Std.LawfulEqOrd k.Unit
  | number => inferInstanceAs (Std.LawfulEqOrd UInt32)
  | address => inferInstanceAs (Std.LawfulEqOrd Ipv4)
  | link => inferInstanceAs (Std.LawfulEqOrd AddressPair)

instance : (k : Kind) → DecidableEq k.Owner
  | number => inferInstanceAs (DecidableEq UInt32)
  | address => inferInstanceAs (DecidableEq InterfaceRef)
  | link => inferInstanceAs (DecidableEq Link)

instance : (k : Kind) → Ord k.Owner
  | number => inferInstanceAs (Ord UInt32)
  | address => inferInstanceAs (Ord InterfaceRef)
  | link => inferInstanceAs (Ord Link)

instance : (k : Kind) → Std.TransOrd k.Owner
  | number => inferInstanceAs (Std.TransOrd UInt32)
  | address => inferInstanceAs (Std.TransOrd InterfaceRef)
  | link => inferInstanceAs (Std.TransOrd Link)

instance : (k : Kind) → Std.LawfulEqOrd k.Owner
  | number => inferInstanceAs (Std.LawfulEqOrd UInt32)
  | address => inferInstanceAs (Std.LawfulEqOrd InterfaceRef)
  | link => inferInstanceAs (Std.LawfulEqOrd Link)

/-! ### Forms of owners and units -/

/-- The units of a range in the order they are handed out. -/
def expand (k : Kind) (range : String) (allowSmall : Bool) : Except RangeError (List k.Unit) :=
  match k with
  | number => expandNumbers range
  | address => expandAddresses range allowSmall
  | link => expandPairs range allowSmall

/-- The name under which an owner is recorded, and whether it is the other one than given. -/
def canonical (k : Kind) (owner : k.Owner) : k.Owner × Bool :=
  match k with
  | number => (owner, false)
  | address => (owner, false)
  | link => if (compare owner.one owner.two).isLE then (owner, false) else (owner.reversed, true)

/-- The unit in the opposite order. -/
def flip (k : Kind) (unit : k.Unit) : k.Unit :=
  match k with
  | number => unit
  | address => unit
  | link => unit.swap

/-- The form in which a unit waits to be handed out. -/
def pooled (k : Kind) (unit : k.Unit) : k.Unit :=
  match k with
  | number => unit
  | address => unit
  | link => unit.sorted

/-- The unit as seen through an owner's other name, if `swapped`. -/
def orient (k : Kind) (swapped : Bool) (unit : k.Unit) : k.Unit :=
  if swapped then k.flip unit else unit

/-- Whether a reservation may take the place of the unit that its owner holds. -/
def replacesHeld : Kind → Bool
  | number => false
  | address => false
  | link => true

/-- A reservation that has to be for a unit that is available or held by its owner, as those of links
have to. -/
def pooledReservation? (k : Kind) (owner : k.Owner) (unit : k.Unit) : Option (Link × AddressPair) :=
  match k with
  | number => none
  | address => none
  | link => some (owner, unit)

/-! ### Wording -/

/-- What messages call a unit. -/
def label : Kind → String
  | number => "ASN"
  | address => "IP"
  | link => "IP"

/-- What messages call a category. -/
def categoryNoun : Kind → String
  | number => "Role"
  | address => "type"
  | link => "type"

/-- How messages name an owner. -/
def describe (k : Kind) (owner : k.Owner) : String :=
  match k with
  | number => s!"Device {owner.toNat}"
  | address => s!"Device {owner.device.toNat} Interface {owner.interface.toNat}"
  | link => s!"Device ({owner.one.device.toNat},{owner.two.device.toNat}) " ++
      s!"Interface ({owner.one.interface.toNat},{owner.two.interface.toNat})"

/-- The full form of a unit. -/
def unitText (k : Kind) (unit : k.Unit) : String :=
  match k with
  | number => toString unit.toNat
  | address => unit.text
  | link => s!"({unit.first.text}, {unit.second.text})"

/-- The full form of an owner. -/
def ownerText (k : Kind) (owner : k.Owner) : String :=
  match k with
  | number => toString owner.toNat
  | address => "IpBinding \x7b " ++
      s!"device_id: {owner.device.toNat}, interface_id: {owner.interface.toNat}" ++ " \x7d"
  | link => "PairBinding \x7b " ++
      s!"device_one: {owner.one.device.toNat}, interface_one: {owner.one.interface.toNat}, " ++
      s!"device_two: {owner.two.device.toNat}, interface_two: {owner.two.interface.toNat}" ++ " \x7d"

end Kind

end FabricProvision

import FabricProvision.Json.Basic

/-!
# Typed values as JSON

`Encode` and `Decode` tie a type to its JSON form.  A record is an object with one field per component; fields
that the record does not know are ignored, and a component with a default may be left out.  A record may also
be written as the array of its components in order, where only components with a default may be left out, at
the end.  An enumeration is the name of its value, and an alternative with a payload is an object with the
alternative's name as its only field.

Numbers are whole and within the range of their type; nothing is converted from text or between kinds.
-/

namespace FabricProvision.Json

/-- Types with a JSON form. -/
class Encode (α : Type) where
  encode : α → Json

/-- Types that are read from their JSON form. -/
class Decode (α : Type) where
  decode? : Json → Option α

export Encode (encode)
export Decode (decode?)

/-! ### Basic types -/

/-- A natural number below `bound`. -/
def natBelow? (bound : Nat) : Json → Option Nat
  | .int (.ofNat n) => if n < bound then some n else none
  | _ => none

instance : Encode Bool := ⟨.bool⟩
instance : Encode String := ⟨.str⟩
instance : Encode Nat := ⟨fun n => .int n⟩
instance : Encode UInt16 := ⟨fun n => .int n.toNat⟩
instance : Encode UInt32 := ⟨fun n => .int n.toNat⟩
instance : Encode UInt64 := ⟨fun n => .int n.toNat⟩
instance {α : Type} [Encode α] : Encode (Option α) := ⟨fun | none => .null | some a => encode a⟩
instance {α : Type} [Encode α] : Encode (List α) := ⟨fun xs => .arr (xs.map encode)⟩
instance : Encode Json := ⟨id⟩

instance : Decode Bool := ⟨fun | .bool b => some b | _ => none⟩
instance : Decode String := ⟨fun | .str s => some s | _ => none⟩
instance : Decode UInt16 := ⟨fun j => (natBelow? UInt16.size j).map UInt16.ofNat⟩
instance : Decode UInt32 := ⟨fun j => (natBelow? UInt32.size j).map UInt32.ofNat⟩
instance : Decode UInt64 := ⟨fun j => (natBelow? UInt64.size j).map UInt64.ofNat⟩
instance {α : Type} [Decode α] : Decode (Option α) := ⟨fun | .null => some none | j => (decode? j).map some⟩
instance {α : Type} [Decode α] : Decode (List α) := ⟨fun | .arr items => items.mapM decode? | _ => none⟩
instance : Decode Json := ⟨some⟩

/-! ### Records -/

/-- The components of a record as they were written. -/
structure Record where
  components : List (String × Json)
  /-- Whether the record was written as an array. -/
  positional : Bool

namespace Record

/-- Reads a record whose components have these names, in this order. -/
def ofJson? (names : List String) : Json → Option Record
  | .obj fields => some ⟨fields, false⟩
  | .arr items => if items.length ≤ names.length then some ⟨names.zip items, true⟩ else none
  | _ => none

/-- A component that has to be there. -/
def get {α : Type} [Decode α] (r : Record) (name : String) : Option α :=
  match r.components.lookup name with
  | some j => decode? j
  | none => none

/-- A component that may be left out, and is `default` then. -/
def getD {α : Type} [Decode α] (r : Record) (name : String) (default : α) : Option α :=
  match r.components.lookup name with
  | some j => decode? j
  | none => some default

/-- An optional component: an object may leave it out, an array may not. -/
def get? {α : Type} [Decode α] (r : Record) (name : String) : Option (Option α) :=
  match r.components.lookup name with
  | some j => decode? j
  | none => if r.positional then none else some none

end Record

/-! ### Enumerations and alternatives -/

/-- The components of an alternative, which are written as an object. -/
def components? : Option Json → Option Record
  | some (.obj fields) => some ⟨fields, false⟩
  | _ => none

/-- The value with the given name, among `values`. -/
def ofName? {α : Type} (name : α → String) (values : List α) : Json → Option α
  | .str s => values.find? fun a => name a == s
  | _ => none

/-- The name of an alternative and its payload, if one is written. -/
def alternative? : Json → Option (String × Option Json)
  | .str name => some (name, none)
  | .obj [(name, payload)] => some (name, some payload)
  | _ => none

/-- An alternative without payload: its name alone, or with `null`. -/
def bare? {α : Type} (a : α) : Option Json → Option α
  | none => some a
  | some .null => some a
  | some _ => none

end FabricProvision.Json

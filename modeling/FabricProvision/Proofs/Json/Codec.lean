import FabricProvision.Json.Record

/-!
# What is written is read back

A type is lawful if reading gives back what was written (`Lawful`).  An absent value is written as `null`, so
optional values are lawful only if no value is (`NonNull`).  Lists and optional values of lawful types are
lawful, and so are enumerations whose names differ.

A record is read component by component.  The lemmas on this are about one step and what follows it, and simplify
from the outside: the next component is looked up only when the value of the one before it is known.
-/

namespace FabricProvision.Json

/-- Reading gives back what was written. -/
class Lawful (α : Type) [Encode α] [Decode α] : Prop where
  decode?_encode (a : α) : decode? (encode a) = some a

export Lawful (decode?_encode)

/-- No value is written as `null`. -/
class NonNull (α : Type) [Encode α] : Prop where
  encode_ne_null (a : α) : encode a ≠ .null

export NonNull (encode_ne_null)

/-! ### Basic types -/

instance : Lawful Bool := ⟨fun _ => rfl⟩
instance : Lawful String := ⟨fun _ => rfl⟩

/-- A number below the bound is read as it is. -/
private theorem natBelow?_int {bound n : Nat} (h : n < bound) : natBelow? bound (.int n) = some n := if_pos h

instance : Lawful UInt16 where
  decode?_encode n := by
    show (natBelow? UInt16.size (.int n.toNat)).map UInt16.ofNat = some n
    rw [natBelow?_int n.toNat_lt_size, Option.map_some, UInt16.ofNat_toNat]

instance : Lawful UInt32 where
  decode?_encode n := by
    show (natBelow? UInt32.size (.int n.toNat)).map UInt32.ofNat = some n
    rw [natBelow?_int n.toNat_lt_size, Option.map_some, UInt32.ofNat_toNat]

instance : Lawful UInt64 where
  decode?_encode n := by
    show (natBelow? UInt64.size (.int n.toNat)).map UInt64.ofNat = some n
    rw [natBelow?_int n.toNat_lt_size, Option.map_some, UInt64.ofNat_toNat]

instance : NonNull String := ⟨nofun⟩
instance : NonNull UInt16 := ⟨nofun⟩

/-! ### Optional values and lists -/

section constructors

variable {α : Type} [Encode α] [Decode α] [Lawful α]

/-- Where no value is written as `null`, a value is read as one that is there. -/
theorem decode?_encode_some [NonNull α] (a : α) : (decode? (encode a) : Option (Option α)) = some (some a) := by
  have hread : ∀ j : Json, j ≠ .null → (decode? j : Option (Option α)) = (decode? j).map some := by
    intro j hj
    cases j with
    | null => exact absurd rfl hj
    | _ => rfl
  rw [hread _ (encode_ne_null a), decode?_encode, Option.map_some]

instance [NonNull α] : Lawful (Option α) where
  decode?_encode
    | none => rfl
    | some a => decode?_encode_some a

instance : Lawful (List α) where
  decode?_encode xs := by
    show (xs.map encode).mapM decode? = some xs
    induction xs with
    | nil => rfl
    | cons x rest ih => simp only [List.map_cons, List.mapM_cons, decode?_encode, ih]; rfl

end constructors

/-! ### Enumerations -/

/-- A value of an enumeration is found by its name, if no value before it has the same one. -/
theorem ofName?_name {α : Type} {name : α → String} {values : List α} {a : α} (hmem : a ∈ values)
    (hname : ∀ b ∈ values, name b = name a → b = a) : ofName? name values (.str (name a)) = some a := by
  show values.find? (fun b => name b == name a) = some a
  induction values with
  | nil => cases hmem
  | cons first rest ih =>
    rw [List.find?_cons]
    by_cases hfirst : name first = name a
    · rw [hfirst, beq_self_eq_true, hname first List.mem_cons_self hfirst]
    · rw [beq_eq_false_iff_ne.2 hfirst]
      rcases List.mem_cons.1 hmem with rfl | hrest
      · exact absurd rfl hfirst
      · exact ih hrest fun b hb => hname b (List.mem_cons_of_mem first hb)

/-! ### Steps of reading -/

section steps

-- These are about `>>=` as `do` leaves it and apply before the parts of a term are simplified.  Otherwise all that
-- follows a step is simplified first, once for each step before it.

variable {α β : Type} [Decode α]

omit [Decode α] in
@[simp ↓] theorem some_bind (a : α) (f : α → Option β) : (some a >>= f) = f a := rfl

@[simp ↓] theorem decode?_encode_bind [Encode α] [Lawful α] (a : α) (f : α → Option β) :
    (decode? (encode a) >>= f) = f a := by
  rw [decode?_encode, some_bind]

@[simp ↓] theorem decode?_encode_some_bind [Encode α] [Lawful α] [NonNull α] (a : α) (f : Option α → Option β) :
    (decode? (encode a) >>= f) = f (some a) := by
  rw [decode?_encode_some, some_bind]

@[simp ↓] theorem decode?_str_bind (s : String) (f : String → Option β) : (decode? (.str s) >>= f) = f s := rfl

namespace Record

variable {name other : String} {j : Json} {rest : List (String × Json)} {positional : Bool}

@[simp ↓] theorem ofJson?_obj_bind (names : List String) (fields : List (String × Json)) (f : Record → Option β) :
    (ofJson? names (.obj fields) >>= f) = f ⟨fields, false⟩ := rfl

@[simp ↓] theorem get_cons_self_bind (f : α → Option β) :
    (get ⟨(name, j) :: rest, positional⟩ name >>= f) = (decode? j >>= f) := by
  simp only [get, List.lookup_cons_self]

@[simp ↓] theorem get_cons_of_ne_bind (h : name ≠ other) (f : α → Option β) :
    (get ⟨(other, j) :: rest, positional⟩ name >>= f) = (get ⟨rest, positional⟩ name >>= f) := by
  simp only [get, List.lookup_cons, beq_eq_false_iff_ne.2 h]

@[simp ↓] theorem getD_cons_self_bind (default : α) (f : α → Option β) :
    (getD ⟨(name, j) :: rest, positional⟩ name default >>= f) = (decode? j >>= f) := by
  simp only [getD, List.lookup_cons_self]

@[simp ↓] theorem getD_cons_of_ne_bind (h : name ≠ other) (default : α) (f : α → Option β) :
    (getD ⟨(other, j) :: rest, positional⟩ name default >>= f) =
      (getD ⟨rest, positional⟩ name default >>= f) := by
  simp only [getD, List.lookup_cons, beq_eq_false_iff_ne.2 h]

@[simp ↓] theorem getD_nil_bind (default : α) (f : α → Option β) :
    (getD ⟨[], positional⟩ name default >>= f) = f default := rfl

@[simp ↓] theorem get?_cons_self_bind (f : Option α → Option β) :
    (get? ⟨(name, j) :: rest, positional⟩ name >>= f) = (decode? j >>= f) := by
  simp only [get?, List.lookup_cons_self]

@[simp ↓] theorem get?_cons_of_ne_bind (h : name ≠ other) (f : Option α → Option β) :
    (get? ⟨(other, j) :: rest, positional⟩ name >>= f) = (get? ⟨rest, positional⟩ name >>= f) := by
  simp only [get?, List.lookup_cons, beq_eq_false_iff_ne.2 h]

end Record

@[simp ↓] theorem components?_obj_bind (fields : List (String × Json)) (f : Record → Option β) :
    (components? (some (.obj fields)) >>= f) = f ⟨fields, false⟩ := rfl

@[simp ↓] theorem alternative?_str_bind (tag : String) (f : String × Option Json → Option β) :
    (alternative? (.str tag) >>= f) = f (tag, none) := rfl

@[simp ↓] theorem alternative?_obj_bind (tag : String) (payload : Json) (f : String × Option Json → Option β) :
    (alternative? (.obj [(tag, payload)]) >>= f) = f (tag, some payload) := rfl

omit [Decode α] in
@[simp] theorem bare?_none (a : α) : bare? a none = some a := rfl

end steps

end FabricProvision.Json

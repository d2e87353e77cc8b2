import FabricProvision.Address.Block

/-!
# Decimal texts

What may stand for a number or an address is said without the reader: a numeral is the digits of a number below a bound,
with a plus sign before them or not (`Text.Numeral`), a field is some such digits, not more than a few of them
(`Ipv4.Field`), an address is four octets with points between (`Ipv4.Dotted`), and a block is an address, a slash and a
length (`Block.Written`).  In all of them zeros may lead.  The reader accepts exactly these (`Text.readNumeral_eq_ok`,
`Ipv4.readField_eq_some`, `Ipv4.read_eq_some`, `Block.parse?_eq_some`).

So what is written in decimal reads back, a number below the bound of its reader (`Text.readDigits_toDigits`) and an
address (`Ipv4.parse?_text`), and different addresses are written differently (`Ipv4.text_injective`).
-/

namespace FabricProvision

/-! ### Numbers -/

namespace Text

theorem digit?_of_isDigit {c : Char} (h : c.isDigit) : digit? c = some (c.toNat - '0'.toNat) := by
  obtain ⟨hlow, hhigh⟩ := Bool.and_eq_true_iff.1 h
  exact if_pos ⟨of_decide_eq_true hlow, of_decide_eq_true hhigh⟩

theorem le_ofDigitChars (cs : List Char) (acc : Nat) : acc ≤ Nat.ofDigitChars 10 cs acc := by
  induction cs generalizing acc with
  | nil => exact Nat.le_refl acc
  | cons c rest ih =>
    rw [Nat.ofDigitChars_cons]
    have hrest := ih (10 * acc + (c.toNat - '0'.toNat))
    omega

/-- Digits are read unless their number is too large, and it is too large on the way only if it is at the end. -/
theorem readDigits_of_isDigit {bound acc : Nat} {cs : List Char} (hdigits : ∀ c ∈ cs, c.isDigit)
    (hbound : Nat.ofDigitChars 10 cs acc < bound) : readDigits bound acc cs = .ok (Nat.ofDigitChars 10 cs acc) := by
  induction cs generalizing acc with
  | nil => rfl
  | cons c rest ih =>
    rw [Nat.ofDigitChars_cons] at hbound ⊢
    have hle := le_ofDigitChars rest (10 * acc + (c.toNat - '0'.toNat))
    have hfirst : acc * 10 + (c.toNat - '0'.toNat) < bound := by omega
    rw [readDigits, digit?_of_isDigit (hdigits c List.mem_cons_self)]
    simp only [hfirst, if_true]
    rw [Nat.mul_comm acc 10]
    exact ih (fun d hd => hdigits d (List.mem_cons_of_mem c hd)) hbound

/-- Digits whose number is not below the bound are refused. -/
theorem readDigits_of_le {bound acc : Nat} {cs : List Char} (hdigits : ∀ c ∈ cs, c.isDigit) (hacc : acc < bound)
    (hbound : bound ≤ Nat.ofDigitChars 10 cs acc) : readDigits bound acc cs = .error .tooLarge := by
  induction cs generalizing acc with
  | nil => exact absurd hbound (Nat.not_le.2 hacc)
  | cons c rest ih =>
    rw [Nat.ofDigitChars_cons, Nat.mul_comm] at hbound
    rw [readDigits, digit?_of_isDigit (hdigits c List.mem_cons_self)]
    dsimp only
    split
    · rename_i hfirst
      exact ih (fun d hd => hdigits d (List.mem_cons_of_mem c hd)) hfirst hbound
    · rfl

private theorem isDigit_of_readDigits {bound acc n : Nat} {cs : List Char} (h : readDigits bound acc cs = .ok n) :
    ∀ c ∈ cs, c.isDigit := by
  induction cs generalizing acc with
  | nil => simp
  | cons c rest ih =>
    rw [readDigits] at h
    split at h
    · cases h
    · rename_i d hd
      split at h
      · have hc : c.isDigit := by
          unfold digit? at hd
          split at hd
          · rename_i hrange
            exact Bool.and_eq_true_iff.2 ⟨decide_eq_true hrange.1, decide_eq_true hrange.2⟩
          · cases hd
        exact List.forall_mem_cons.2 ⟨hc, ih h⟩
      · cases h

/-- Digits of a number below the bound are read, and nothing else is. -/
theorem readDigits_eq_ok {bound acc n : Nat} {cs : List Char} (hacc : acc < bound) :
    readDigits bound acc cs = .ok n ↔ (∀ c ∈ cs, c.isDigit) ∧ Nat.ofDigitChars 10 cs acc = n ∧ n < bound := by
  constructor
  · intro h
    have hdigits := isDigit_of_readDigits h
    by_cases hbound : Nat.ofDigitChars 10 cs acc < bound
    · rw [readDigits_of_isDigit hdigits hbound] at h
      cases h
      exact ⟨hdigits, rfl, hbound⟩
    · rw [readDigits_of_le hdigits hacc (Nat.not_lt.1 hbound)] at h
      cases h
  · rintro ⟨hdigits, rfl, hbound⟩
    exact readDigits_of_isDigit hdigits hbound

theorem isDigit_of_mem_toDigits {n : Nat} : ∀ c ∈ Nat.toDigits 10 n, c.isDigit :=
  fun _ hc => Nat.isDigit_of_mem_toDigits (by decide) (by decide) hc

theorem readDigits_toDigits {bound n : Nat} (h : n < bound) : readDigits bound 0 (Nat.toDigits 10 n) = .ok n := by
  rw [readDigits_of_isDigit isDigit_of_mem_toDigits (by rwa [Nat.ofDigitChars_ten_toDigits]),
    Nat.ofDigitChars_ten_toDigits]

/-- The text is a numeral below the bound: the decimal digits of a number, among which zeros may lead, after at most one
plus sign. -/
def Numeral (bound : Nat) (text : List Char) (n : Nat) : Prop :=
  ∃ digits, (text = digits ∨ text = '+' :: digits) ∧ digits ≠ [] ∧ (∀ c ∈ digits, c.isDigit) ∧
    Nat.ofDigitChars 10 digits 0 = n ∧ n < bound

/-- What reads as a number is a numeral. -/
theorem readNumeral_eq_ok {bound n : Nat} {cs : List Char} (hbound : 0 < bound) :
    readNumeral bound cs = .ok n ↔ Numeral bound cs n := by
  constructor
  · intro h
    unfold readNumeral at h
    split at h
    · cases h
    · cases h
    · rename_i digits hlone
      exact ⟨digits, .inr rfl, hlone, (readDigits_eq_ok hbound).1 h⟩
    · rename_i hnil _ _
      exact ⟨cs, .inl rfl, hnil, (readDigits_eq_ok hbound).1 h⟩
  · rintro ⟨digits, htext, hnil, hdigits⟩
    have hread : readDigits bound 0 digits = .ok n := (readDigits_eq_ok hbound).2 hdigits
    obtain ⟨c, rest, rfl⟩ := List.exists_cons_of_ne_nil hnil
    rcases htext with rfl | rfl
    · have hsign : c ≠ '+' := by
        rintro rfl
        exact absurd (hdigits.1 '+' List.mem_cons_self) (by decide)
      unfold readNumeral
      split
      · rename_i h
        cases h
      · rename_i h
        exact absurd (List.cons.inj h).1 hsign
      · rename_i h
        exact absurd (List.cons.inj h).1 hsign
      · exact hread
    · exact hread

theorem readUInt32_eq_ok {cs : List Char} {n : UInt32} : readUInt32 cs = .ok n ↔ Numeral UInt32.size cs n.toNat := by
  rw [← readNumeral_eq_ok (by decide), readUInt32]
  constructor
  · intro h
    cases hread : readNumeral UInt32.size cs with
    | error e =>
      rw [hread] at h
      cases h
    | ok m =>
      obtain ⟨-, -, -, -, -, hlt⟩ := (readNumeral_eq_ok (by decide)).1 hread
      rw [hread] at h
      cases h
      rw [UInt32.toNat_ofNat_of_lt' hlt]
  · intro h
    rw [h]
    exact congrArg Except.ok UInt32.ofNat_toNat

theorem numeral_toDigits (n : UInt32) : Numeral UInt32.size (Nat.toDigits 10 n.toNat) n.toNat :=
  ⟨_, .inl rfl, Nat.toDigits_ne_nil, isDigit_of_mem_toDigits, Nat.ofDigitChars_ten_toDigits, n.toNat_lt⟩

end Text

/-! ### Fields -/

namespace Ipv4

/-- The characters are the decimal digits of a number below the bound, at most `width` of them; zeros may lead. -/
structure Field (width bound : Nat) (digits : List Char) (n : Nat) : Prop where
  nonempty : digits ≠ []
  length_le : digits.length ≤ width
  isDigit : ∀ c ∈ digits, c.isDigit
  value : Nat.ofDigitChars 10 digits 0 = n
  lt : n < bound

/-- The text does not start with a digit. -/
def Stops (rest : List Char) : Prop := ∀ c ∈ rest.head?, c.isDigit = false

theorem stops_cons {c : Char} (rest : List Char) (h : c.isDigit = false) : Stops (c :: rest) := by
  rintro _ ⟨⟩
  exact h

theorem stops_nil : Stops [] := nofun

/-- The digits at the start of a text end where it stops. -/
private theorem span_digits {ds rest : List Char} (hds : ∀ c ∈ ds, c.isDigit) (hrest : Stops rest) :
    (ds ++ rest).takeWhile Char.isDigit = ds ∧ (ds ++ rest).dropWhile Char.isDigit = rest := by
  have hstop : rest.takeWhile Char.isDigit = [] ∧ rest.dropWhile Char.isDigit = rest := by
    cases rest with
    | nil => exact ⟨rfl, rfl⟩
    | cons c rest =>
      have hc := hrest c rfl
      exact ⟨List.takeWhile_cons_of_neg (by simp [hc]), List.dropWhile_cons_of_neg (by simp [hc])⟩
  constructor
  · rw [List.takeWhile_append_of_pos hds, hstop.1, List.append_nil]
  · rw [List.dropWhile_append_of_pos hds, hstop.2]

private theorem stops_dropWhile (cs : List Char) : Stops (cs.dropWhile Char.isDigit) := by
  intro c hc
  have hhead := List.head?_dropWhile_not Char.isDigit cs
  rw [hc] at hhead
  simpa using hhead

/-- A field is read up to what follows it, which is no digit, and nothing but a field is. -/
theorem readField_eq_some {width bound n : Nat} {cs rest : List Char} (hbound : 0 < bound) :
    readField width bound cs = some (n, rest) ↔ ∃ ds, cs = ds ++ rest ∧ Field width bound ds n ∧ Stops rest := by
  constructor
  · intro h
    unfold readField at h
    dsimp only at h
    split at h
    · cases h
    · rename_i hwidth
      have hdigits : ∀ c ∈ cs.takeWhile Char.isDigit, c.isDigit = true := List.all_eq_true.1 List.all_takeWhile
      simp only [List.isEmpty_iff, not_or, Nat.not_lt] at hwidth
      by_cases hlt : Nat.ofDigitChars 10 (cs.takeWhile Char.isDigit) 0 < bound
      · rw [Text.readDigits_of_isDigit hdigits hlt] at h
        cases h
        exact ⟨_, List.takeWhile_append_dropWhile.symm, ⟨hwidth.1, hwidth.2, hdigits, rfl, hlt⟩, stops_dropWhile cs⟩
      · rw [Text.readDigits_of_le hdigits hbound (Nat.not_lt.1 hlt)] at h
        cases h
  · rintro ⟨ds, rfl, hfield, hrest⟩
    obtain ⟨htake, hdrop⟩ := span_digits hfield.isDigit hrest
    have hread : Text.readDigits bound 0 ds = .ok n := by
      rw [Text.readDigits_of_isDigit hfield.isDigit (hfield.value ▸ hfield.lt), hfield.value]
    simp only [readField, htake, hdrop, List.isEmpty_iff, hfield.nonempty, Nat.not_lt.2 hfield.length_le, or_self,
      if_false, hread]

theorem field_octet {n : Nat} (hn : n < 256) : Field 3 256 (Nat.toDigits 10 n) n where
  nonempty := Nat.toDigits_ne_nil
  length_le := (Nat.length_toDigits_le_iff (by decide) (by decide)).2 (by omega)
  isDigit := Text.isDigit_of_mem_toDigits
  value := Nat.ofDigitChars_ten_toDigits
  lt := hn

/-! ### Addresses -/

/-- The text writes the address: four octets with points between. -/
def Dotted (text : List Char) (a : Ipv4) : Prop :=
  ∃ (ws xs ys zs : List Char) (w x y z : Nat),
    (Field 3 256 ws w ∧ Field 3 256 xs x ∧ Field 3 256 ys y ∧ Field 3 256 zs z) ∧
      text = ws ++ '.' :: (xs ++ '.' :: (ys ++ '.' :: zs)) ∧ a = ofOctets w x y z

/-- An address is written with digits and points. -/
theorem Dotted.isDigit_or {text : List Char} {a : Ipv4} (h : Dotted text a) : ∀ c ∈ text, c.isDigit ∨ c = '.' := by
  obtain ⟨ws, xs, ys, zs, w, x, y, z, ⟨hw, hx, hy, hz⟩, rfl, -⟩ := h
  intro c hc
  simp only [List.mem_append, List.mem_cons] at hc
  rcases hc with hc | rfl | hc | rfl | hc | rfl | hc
  · exact .inl (hw.isDigit c hc)
  · exact .inr rfl
  · exact .inl (hx.isDigit c hc)
  · exact .inr rfl
  · exact .inl (hy.isDigit c hc)
  · exact .inr rfl
  · exact .inl (hz.isDigit c hc)

theorem Dotted.ne_nil {text : List Char} {a : Ipv4} (h : Dotted text a) : text ≠ [] := by
  obtain ⟨ws, xs, ys, zs, w, x, y, z, -, rfl, -⟩ := h
  simp

private theorem readPoint_eq_some {cs rest : List Char} : readPoint cs = some rest ↔ cs = '.' :: rest := by
  unfold readPoint
  split
  · simp
  · rename_i hpoint
    constructor
    · nofun
    · rintro rfl
      exact absurd rfl (hpoint rest)

/-- An address is read up to what follows it, which is no digit, and nothing but an address is. -/
theorem read_eq_some {cs rest : List Char} {a : Ipv4} :
    read cs = some (a, rest) ↔ ∃ text, cs = text ++ rest ∧ Dotted text a ∧ Stops rest := by
  unfold read
  simp only [Option.bind_eq_bind, Option.bind_eq_some_iff, Prod.exists, readPoint_eq_some,
    readField_eq_some (show 0 < 256 by decide), Option.pure_def, Option.some.injEq, Prod.mk.injEq]
  constructor
  · rintro ⟨w, _, ⟨ws, rfl, hw, -⟩, _, rfl, x, _, ⟨xs, rfl, hx, -⟩, _, rfl, y, _, ⟨ys, rfl, hy, -⟩, _, rfl,
      z, _, ⟨zs, rfl, hz, hstops⟩, rfl, rfl⟩
    exact ⟨ws ++ '.' :: (xs ++ '.' :: (ys ++ '.' :: zs)), by simp, ⟨ws, xs, ys, zs, w, x, y, z, ⟨hw, hx, hy, hz⟩, rfl, rfl⟩,
      hstops⟩
  · rintro ⟨_, rfl, ⟨ws, xs, ys, zs, w, x, y, z, ⟨hw, hx, hy, hz⟩, rfl, rfl⟩, hstops⟩
    have hpoint (rest : List Char) : Stops ('.' :: rest) := stops_cons rest rfl
    exact ⟨w, _, ⟨ws, by simp, hw, hpoint _⟩, _, rfl, x, _, ⟨xs, rfl, hx, hpoint _⟩, _, rfl, y, _, ⟨ys, rfl, hy, hpoint _⟩,
      _, rfl, z, rest, ⟨zs, rfl, hz, hstops⟩, rfl, rfl⟩

theorem toList_text (a : Ipv4) :
    a.text.toList = Nat.toDigits 10 (a.toNat / 16777216 % 256) ++ '.' :: (Nat.toDigits 10 (a.toNat / 65536 % 256) ++
      '.' :: (Nat.toDigits 10 (a.toNat / 256 % 256) ++ '.' :: (Nat.toDigits 10 (a.toNat % 256) ++ []))) := by
  simp [text, octets, Nat.toString_eq_repr, Nat.toList_repr]

theorem ofOctets_octets (a : Ipv4) :
    ofOctets (a.toNat / 16777216 % 256) (a.toNat / 65536 % 256) (a.toNat / 256 % 256) (a.toNat % 256) = a := by
  have hbound : a.toNat < 4294967296 := a.bits.toNat_lt
  unfold ofOctets
  rw [show ((a.toNat / 16777216 % 256 * 256 + a.toNat / 65536 % 256) * 256 + a.toNat / 256 % 256) * 256 +
    a.toNat % 256 = a.toNat by omega]
  exact congrArg mk (UInt32.ofNat_toNat)

theorem dotted_text (a : Ipv4) : Dotted a.text.toList a := by
  have hoctet (n : Nat) : Field 3 256 (Nat.toDigits 10 (n % 256)) (n % 256) := field_octet (Nat.mod_lt n (by decide))
  exact ⟨_, _, _, _, _, _, _, _, ⟨hoctet _, hoctet _, hoctet _, hoctet _⟩, by rw [toList_text, List.append_nil],
    (ofOctets_octets a).symm⟩

/-- An address that was written is read. -/
theorem parse?_text (a : Ipv4) : parse? a.text = some a := by
  have hread : read a.text.toList = some (a, []) :=
    read_eq_some.2 ⟨_, (List.append_nil _).symm, dotted_text a, stops_nil⟩
  rw [parse?, hread]

theorem text_injective : Function.Injective text := fun a b h => by
  have hsame : some a = some b := by rw [← parse?_text, ← parse?_text, h]
  exact Option.some.inj hsame

end Ipv4

/-! ### Blocks -/

namespace Block

/-- The text writes the block: an address, a slash, and a length of one or two digits. -/
def Written (text : List Char) (b : Block) : Prop :=
  ∃ address length, Ipv4.Dotted address b.member ∧ Ipv4.Field 2 33 length b.length ∧ text = address ++ '/' :: length

/-- An address with the mask of a single one is a written block. -/
theorem written_text (a : Ipv4) : Written (a.text ++ "/32").toList ⟨a, 32, Nat.le_refl 32⟩ := by
  have hlength : Ipv4.Field 2 33 ['3', '2'] 32 := ⟨nofun, by decide, by simp, by decide, by decide⟩
  exact ⟨a.text.toList, ['3', '2'], Ipv4.dotted_text a, hlength, String.toList_append⟩

/-- What reads as a block is a written one. -/
theorem parse?_eq_some {cs : List Char} {b : Block} : parse? cs = some b ↔ Written cs b := by
  constructor
  · intro h
    unfold parse? at h
    split at h
    · rename_i member length hread
      obtain ⟨address, rfl, hdotted, -⟩ := Ipv4.read_eq_some.1 hread
      split at h
      · rename_i n hfield
        obtain ⟨digits, rfl, hfield, -⟩ := (Ipv4.readField_eq_some (by decide)).1 hfield
        split at h
        · cases h
          exact ⟨address, digits, hdotted, hfield, by rw [List.append_nil]⟩
        · cases h
      · cases h
    · cases h
  · rintro ⟨address, length, hdotted, hfield, rfl⟩
    have hread : Ipv4.read (address ++ '/' :: length) = some (b.member, '/' :: length) :=
      Ipv4.read_eq_some.2 ⟨address, rfl, hdotted, Ipv4.stops_cons _ rfl⟩
    have hlength : Ipv4.readField 2 33 length = some (b.length, []) :=
      (Ipv4.readField_eq_some (by decide)).2 ⟨length, (List.append_nil _).symm, hfield, Ipv4.stops_nil⟩
    simp only [parse?, hread, hlength, b.length_le, dite_true]

end Block

end FabricProvision

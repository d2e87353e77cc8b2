import FabricProvision.Proofs.Pool.Ranges
import FabricProvision.Proofs.Step.Run
import FabricProvision.Proofs.Text.Decimal
import FabricProvision.Proofs.Text.Trimmed
import Mathlib.Data.List.Sort

/-!
# Ranges of numbers

Which texts are ranges of numbers, and which numbers they list.  A range has a lower and an upper bound, written with a
dash between them, or one number for both; around everything there may be blanks (`Range.Bounds`).  Exactly the ranges
whose bounds are in order are expanded, into all numbers from the one bound to the other, both included and each once
(`expandNumbers_exact`).  The greatest number of 32 bits may be a bound like any other.
-/

namespace FabricProvision

namespace Range

/-! ### Bounds -/

/-- The text is the numeral of a number of 32 bits. -/
def Literal (text : List Char) (n : UInt32) : Prop := Text.Numeral UInt32.size text n.toNat

/-- The bounds that a text without blanks at its ends gives: one numeral is both, and otherwise there is a numeral on
each side of the first dash, with blanks around it or not. -/
inductive Bounds : List Char → UInt32 → UInt32 → Prop
  | single {text : List Char} {n : UInt32} (hdash : '-' ∉ text) (h : Literal text n) : Bounds text n n
  | double {before after left right : List Char} {low high : UInt32} (hdash : '-' ∉ before)
      (hleft : Text.Trimmed before left) (hlow : Literal left low) (hright : Text.Trimmed after right)
      (hhigh : Literal right high) : Bounds (before ++ '-' :: after) low high

theorem readBound_eq_ok {cs : List Char} {n : UInt32} :
    readBound cs = .ok n ↔ ∃ text, Text.Trimmed cs text ∧ Literal text n := by
  simp only [← Text.trim_eq_iff, exists_eq_left', readBound, Literal, ← Text.readUInt32_eq_ok, Step.mapError_eq_ok]

/-- What reads as the bounds of a text without blanks at its ends are its bounds. -/
theorem readBounds_eq_ok {text : List Char} (htrim : Text.Trimmed text text) {low high : UInt32} :
    readBounds text = .ok (low, high) ↔ Bounds text low high := by
  have hself {other : List Char} : Text.Trimmed text other ↔ other = text := by
    rw [← Text.trim_eq_iff, Text.trim_eq_iff.2 htrim, eq_comm]
  constructor
  · intro h
    unfold readBounds at h
    split at h
    · rename_i before after hcut
      obtain ⟨rfl, hdash⟩ := Text.cut_eq_some.1 hcut
      simp only [Step.bind_eq_ok, readBound_eq_ok] at h
      obtain ⟨_, ⟨left, hleft, hlow⟩, _, ⟨right, hright, hhigh⟩, ⟨⟩⟩ := h
      exact .double hdash hleft hlow hright hhigh
    · rename_i hcut
      simp only [Step.bind_eq_ok, readBound_eq_ok, hself] at h
      obtain ⟨_, ⟨_, rfl, hn⟩, ⟨⟩⟩ := h
      exact .single (Text.cut_eq_none.1 hcut) hn
  · intro h
    unfold readBounds
    cases h with
    | single hdash hn =>
      have hread : readBound text = .ok low := readBound_eq_ok.2 ⟨text, htrim, hn⟩
      rw [Text.cut_eq_none.2 hdash, hread]
      rfl
    | double hdash hleft hlow hright hhigh =>
      simp only [Text.cut_eq_some.2 ⟨rfl, hdash⟩, readBound_eq_ok.2 ⟨_, hleft, hlow⟩,
        readBound_eq_ok.2 ⟨_, hright, hhigh⟩]
      rfl

/-! ### Numbers between bounds -/

/-- The list holds the numbers from the one bound to the other, in ascending order and so each of them once. -/
structure Lists (ns : List UInt32) (low high : UInt32) : Prop where
  ascending : ns.Pairwise (· < ·)
  mem_iff : ∀ n, n ∈ ns ↔ low ≤ n ∧ n ≤ high

theorem lists_numbersFrom (low high : UInt32) : Lists (numbersFrom low high) low high where
  ascending := (sorted_numbersFrom low high).imp fun h => Std.compare_eq_lt.1 h
  mem_iff n := by
    have hhigh : high.toNat < UInt32.size := high.toNat_lt
    simp only [numbersFrom, List.mem_map, List.mem_range'_1, UInt32.le_iff_toNat_le]
    constructor
    · rintro ⟨m, hm, rfl⟩
      rw [UInt32.toNat_ofNat_of_lt' (by omega)]
      omega
    · intro hn
      exact ⟨n.toNat, by omega, UInt32.ofNat_toNat⟩

theorem Lists.eq {ns ns' : List UInt32} {low high : UInt32} (h : Lists ns low high) (h' : Lists ns' low high) :
    ns = ns' :=
  h.ascending.eq_of_mem_iff h'.ascending fun n => by rw [h.mem_iff, h'.mem_iff]

end Range

open Range

theorem expandNumbers_eq_ok {range : String} {ns : List UInt32} :
    expandNumbers range = .ok ns ↔
      ∃ text low high, Text.Trimmed range.toList text ∧ Bounds text low high ∧ low ≤ high ∧ Lists ns low high := by
  have htrim : Text.Trimmed (Text.trim range.toList) (Text.trim range.toList) :=
    (Text.trim_eq_iff.1 rfl).self
  simp only [expandNumbers, Step.bind_eq_ok, Prod.exists, readBounds_eq_ok htrim, ← Text.trim_eq_iff, exists_and_left,
    exists_eq_left']
  refine exists_congr fun low => exists_congr fun high => and_congr_right fun _ => ?_
  by_cases horder : high < low
  · have hnot : ¬ low ≤ high := UInt32.not_le.2 horder
    simp [horder, hnot]
  · have hle : low ≤ high := UInt32.not_lt.1 horder
    rw [if_neg horder, Except.ok.injEq, and_iff_right hle]
    exact ⟨fun h => h ▸ lists_numbersFrom low high, fun h => (lists_numbersFrom low high).eq h⟩

/-! ### Decimal bounds -/

/-- The text of a range with its bounds in decimal. -/
def Range.between (low high : UInt32) : String := toString low.toNat ++ "-" ++ toString high.toNat

private theorem toList_between (low high : UInt32) :
    (between low high).toList = Nat.toDigits 10 low.toNat ++ '-' :: Nat.toDigits 10 high.toNat := by
  simp [between, Nat.toString_eq_repr, Nat.toList_repr]

theorem bounds_between (low high : UInt32) :
    Text.Trimmed (between low high).toList (between low high).toList ∧ Bounds (between low high).toList low high := by
  have hdigits (n : UInt32) : ∀ c ∈ Nat.toDigits 10 n.toNat, Text.isBlank c = false := fun c hc =>
    Text.isBlank_of_isDigit (Text.isDigit_of_mem_toDigits c hc)
  have hdash : '-' ∉ Nat.toDigits 10 low.toNat := fun hmem =>
    absurd (Text.isDigit_of_mem_toDigits '-' hmem) (by decide)
  rw [toList_between]
  constructor
  · refine Text.trimmed_of_forall (List.forall_mem_append.2 ⟨hdigits low, List.forall_mem_cons.2 ⟨?_, hdigits high⟩⟩)
    decide
  · exact .double hdash (Text.trimmed_of_forall (hdigits low)) (Text.numeral_toDigits low)
      (Text.trimmed_of_forall (hdigits high)) (Text.numeral_toDigits high)

/-- Expanding a range of numbers is exact.  It succeeds exactly if the text gives bounds in order, and then lists all
numbers from the one to the other.  In particular the decimal text of two bounds is expanded if they are in order, and
refused as reversed if they are not. -/
theorem expandNumbers_exact :
    (∀ range, (∃ ns, expandNumbers range = .ok ns) ↔
      ∃ text low high, Text.Trimmed range.toList text ∧ Bounds text low high ∧ low ≤ high) ∧
    (∀ range ns, expandNumbers range = .ok ns ↔
      ∃ text low high, Text.Trimmed range.toList text ∧ Bounds text low high ∧ low ≤ high ∧ Lists ns low high) ∧
    ∀ low high : UInt32,
      (low ≤ high → ∃ ns, expandNumbers (between low high) = .ok ns ∧ Lists ns low high) ∧
      (high < low → expandNumbers (between low high) = .error (.reversed (between low high))) := by
  refine ⟨fun range => ?_, fun range ns => expandNumbers_eq_ok, fun low high => ⟨fun horder => ?_, fun horder => ?_⟩⟩
  · simp only [expandNumbers_eq_ok]
    constructor
    · rintro ⟨ns, text, low, high, htrim, hbounds, horder, -⟩
      exact ⟨text, low, high, htrim, hbounds, horder⟩
    · rintro ⟨text, low, high, htrim, hbounds, horder⟩
      exact ⟨numbersFrom low high, text, low, high, htrim, hbounds, horder, lists_numbersFrom low high⟩
  · obtain ⟨htrim, hbounds⟩ := bounds_between low high
    exact ⟨numbersFrom low high,
      expandNumbers_eq_ok.2 ⟨_, low, high, htrim, hbounds, horder, lists_numbersFrom low high⟩,
      lists_numbersFrom low high⟩
  · obtain ⟨htrim, hbounds⟩ := bounds_between low high
    have hread := (readBounds_eq_ok htrim).2 hbounds
    simp only [expandNumbers, Text.trim_eq_iff.2 htrim, hread, String.ofList_toList]
    exact if_pos horder

/-- The two greatest numbers are a range, and no range in reverse.  Signs, blanks and leading zeros do not matter. -/
theorem expandNumbers_of_greatest :
    (∃ ns, expandNumbers (between 4294967294 4294967295) = .ok ns ∧ 4294967294 ∈ ns ∧ 4294967295 ∈ ns) ∧
    expandNumbers (between 4294967295 4294967294) = .error (.reversed (between 4294967295 4294967294)) ∧
    ∃ ns, expandNumbers " +64512 - 064515 " = .ok ns ∧ Lists ns 64512 64515 := by
  obtain ⟨hok, hlists, hbetween⟩ := expandNumbers_exact
  refine ⟨?_, (hbetween 4294967295 4294967294).2 (by decide), ?_⟩
  · obtain ⟨ns, hns, hmem⟩ := (hbetween 4294967294 4294967295).1 (by decide)
    exact ⟨ns, hns, (hmem.mem_iff _).2 (by decide), (hmem.mem_iff _).2 (by decide)⟩
  · have htrim : Text.Trimmed " +64512 - 064515 ".toList "+64512 - 064515".toList := Text.trim_eq_iff.1 rfl
    have hbounds : Bounds "+64512 - 064515".toList 64512 64515 := (readBounds_eq_ok htrim.self).1 rfl
    exact ⟨numbersFrom 64512 64515, (hlists _ _).2 ⟨_, _, _, htrim, hbounds, by decide, lists_numbersFrom _ _⟩,
      lists_numbersFrom _ _⟩

end FabricProvision

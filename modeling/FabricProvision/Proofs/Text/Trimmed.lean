import FabricProvision.Text.Trim
import Mathlib.Data.List.DropRight

/-!
# Trimmed and cut texts

What it means for a text to be another one without the blanks at its ends is said without the function that removes
them (`Text.Trimmed`), and so is where a text is cut.  A text has exactly one trimmed form (`Text.trim_eq_iff`) and at
most one cut at a mark (`Text.cut_eq_some`).
-/

namespace FabricProvision.Text

variable {mark : Char} {cs text left right : List Char}

/-! ### Blanks -/

/-- The text is what is left of the other one without blanks at its two ends. -/
structure Trimmed (cs text : List Char) : Prop where
  padded : ∃ before after, cs = before ++ (text ++ after) ∧ (∀ c ∈ before, isBlank c) ∧ ∀ c ∈ after, isBlank c
  head : ∀ c ∈ text.head?, isBlank c = false
  last : ∀ c ∈ text.getLast?, isBlank c = false

/-- A trimmed text has no blanks left to remove. -/
theorem Trimmed.self (h : Trimmed cs text) : Trimmed text text :=
  ⟨⟨[], [], by simp, by simp, by simp⟩, h.head, h.last⟩

theorem trimmed_of_forall (h : ∀ c ∈ text, isBlank c = false) : Trimmed text text :=
  ⟨⟨[], [], by simp, by simp, by simp⟩, fun c hc => h c (List.mem_of_mem_head? hc),
    fun c hc => h c (List.mem_of_mem_getLast? hc)⟩

theorem isBlank_of_isDigit {c : Char} (h : c.isDigit) : isBlank c = false := by
  obtain ⟨hlow, hhigh⟩ := Bool.and_eq_true_iff.1 h
  have hlow : 48 ≤ c.toNat := of_decide_eq_true hlow
  have hhigh : c.toNat ≤ 57 := of_decide_eq_true hhigh
  simp only [isBlank, Bool.or_eq_false_iff, Bool.and_eq_false_iff, decide_eq_false_iff_not, beq_eq_false_iff_ne]
  omega

private theorem dropWhile_eq_self {p : Char → Bool} (h : ∀ c ∈ cs.head?, p c = false) : cs.dropWhile p = cs := by
  cases cs with
  | nil => rfl
  | cons c rest => exact List.dropWhile_cons_of_neg (by simp [h c rfl])

private theorem head?_dropWhile {p : Char → Bool} {c : Char} (hc : c ∈ (cs.dropWhile p).head?) : p c = false := by
  have hhead := List.head?_dropWhile_not p cs
  rw [hc] at hhead
  simpa using hhead

private theorem trimmed_trim (cs : List Char) : Trimmed cs (trim cs) := by
  have hsplit : trim cs ++ (cs.dropWhile isBlank).rtakeWhile isBlank = cs.dropWhile isBlank :=
    List.rdropWhile_append_rtakeWhile ..
  refine ⟨⟨cs.takeWhile isBlank, (cs.dropWhile isBlank).rtakeWhile isBlank, ?_, fun c hc => List.mem_takeWhile_imp hc,
    fun c hc => List.mem_rtakeWhile_imp hc⟩, fun c hc => ?_, fun c hc => ?_⟩
  · rw [hsplit, List.takeWhile_append_dropWhile]
  · -- Nothing was removed before it after the blanks at the front.
    have hfirst : c ∈ (cs.dropWhile isBlank).head? := by
      rw [← hsplit, List.head?_append, hc]
      rfl
    exact head?_dropWhile hfirst
  · rw [trim, List.getLast?_reverse] at hc
    exact head?_dropWhile hc

private theorem trim_of_trimmed (h : Trimmed cs text) : trim cs = text := by
  obtain ⟨⟨before, after, rfl, hbefore, hafter⟩, hhead, hlast⟩ := h
  have hafter' : ∀ c ∈ after.reverse, isBlank c := fun c hc => hafter c (List.mem_reverse.1 hc)
  rw [trim, List.dropWhile_append_of_pos hbefore]
  cases text with
  | nil =>
    rw [List.nil_append, List.dropWhile_eq_nil_iff.2 hafter]
    rfl
  | cons c rest =>
    have hfront : (c :: rest ++ after).dropWhile isBlank = c :: rest ++ after := dropWhile_eq_self hhead
    have hback : (c :: rest).reverse.dropWhile isBlank = (c :: rest).reverse :=
      dropWhile_eq_self (by rwa [List.head?_reverse])
    rw [hfront, List.reverse_append, List.dropWhile_append_of_pos hafter', hback, List.reverse_reverse]

/-- Trimming gives the trimmed form, and there is no other. -/
theorem trim_eq_iff : trim cs = text ↔ Trimmed cs text :=
  ⟨fun h => h ▸ trimmed_trim cs, trim_of_trimmed⟩

/-! ### Marks -/

private theorem cut_append (hleft : mark ∉ left) : cut mark (left ++ mark :: right) = some (left, right) := by
  have hall : ∀ c ∈ left, (c != mark) = true := fun c hc => by
    rw [bne_iff_ne]
    rintro rfl
    exact hleft hc
  simp [cut, List.dropWhile_append_of_pos hall, List.takeWhile_append_of_pos hall]

theorem cut_eq_none : cut mark cs = none ↔ mark ∉ cs := by
  constructor
  · intro h hmem
    obtain ⟨left, right, rfl, hleft⟩ := List.eq_append_cons_of_mem hmem
    rw [cut_append hleft] at h
    cases h
  · intro h
    have hall : ∀ c ∈ cs, (c != mark) = true := fun c hc => by
      rw [bne_iff_ne]
      rintro rfl
      exact h hc
    simp [cut, List.dropWhile_eq_nil_iff.2 hall]

/-- A text is cut at its first mark. -/
theorem cut_eq_some : cut mark cs = some (left, right) ↔ cs = left ++ mark :: right ∧ mark ∉ left := by
  constructor
  · intro h
    have hmem : mark ∈ cs := by
      by_contra habsent
      rw [cut_eq_none.2 habsent] at h
      cases h
    obtain ⟨left', right', rfl, hleft⟩ := List.eq_append_cons_of_mem hmem
    rw [cut_append hleft] at h
    cases h
    exact ⟨rfl, hleft⟩
  · rintro ⟨rfl, hleft⟩
    exact cut_append hleft

end FabricProvision.Text

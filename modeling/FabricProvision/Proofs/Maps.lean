import Std.Data.ExtTreeSet

/-!
# Maps and sets written twice

What a write, an insertion or an erasure leaves of an earlier one, and which of them leave a map or a set as it was.
Records of pools and configurations of switches are made of such maps and sets.
-/

namespace FabricProvision

open Std (ExtTreeMap ExtTreeSet)

variable {κ β : Type} [Ord κ] [Std.TransOrd κ] [Std.LawfulEqOrd κ]

/-! ### Maps -/

section maps

theorem insert_insert (m : ExtTreeMap κ β) (k : κ) (a b : β) : (m.insert k a).insert k b = m.insert k b := by
  apply ExtTreeMap.ext_getElem?
  intro other
  simp only [ExtTreeMap.getElem?_insert]
  split <;> rfl

theorem insertIfNew_insert (m : ExtTreeMap κ β) (k : κ) (a b : β) :
    (m.insertIfNew k a).insert k b = m.insert k b := by
  apply ExtTreeMap.ext_getElem?
  intro other
  simp only [ExtTreeMap.getElem?_insert, ExtTreeMap.getElem?_insertIfNew]
  grind

theorem insertIfNew_insertIfNew (m : ExtTreeMap κ β) (k : κ) (a b : β) :
    (m.insertIfNew k a).insertIfNew k b = m.insertIfNew k a := by
  apply ExtTreeMap.ext_getElem?
  intro other
  simp only [ExtTreeMap.getElem?_insertIfNew, ExtTreeMap.mem_insertIfNew]
  grind

theorem erase_insert (m : ExtTreeMap κ β) (k : κ) (a : β) : (m.insert k a).erase k = m.erase k := by
  apply ExtTreeMap.ext_getElem?
  intro other
  simp only [ExtTreeMap.getElem?_erase, ExtTreeMap.getElem?_insert]
  grind

theorem insert_erase (m : ExtTreeMap κ β) (k : κ) (a : β) : (m.erase k).insert k a = m.insert k a := by
  apply ExtTreeMap.ext_getElem?
  intro other
  simp only [ExtTreeMap.getElem?_insert, ExtTreeMap.getElem?_erase]
  split <;> rfl

variable {m : ExtTreeMap κ β} {k : κ}

/-- Writing what is there already changes nothing. -/
theorem insert_of_getElem? {a : β} (h : m[k]? = some a) : m.insert k a = m := by
  apply ExtTreeMap.ext_getElem?
  intro other
  rw [ExtTreeMap.getElem?_insert]
  split
  · rename_i hkey
    rw [← Std.LawfulEqOrd.compare_eq_iff_eq.1 hkey, h]
  · rfl

theorem erase_of_getElem? (h : m[k]? = none) : m.erase k = m := by
  apply ExtTreeMap.ext_getElem?
  intro other
  rw [ExtTreeMap.getElem?_erase]
  split
  · rename_i hkey
    rw [← Std.LawfulEqOrd.compare_eq_iff_eq.1 hkey, h]
  · rfl

theorem erase_of_absent (h : m.contains k = false) : m.erase k = m :=
  erase_of_getElem? (ExtTreeMap.getElem?_eq_none_of_contains_eq_false h)

end maps

/-! ### Sets -/

section sets

theorem set_insert_insert (s : ExtTreeSet κ) (a : κ) : (s.insert a).insert a = s.insert a := by
  apply ExtTreeSet.ext_mem
  intro x
  simp only [ExtTreeSet.mem_insert]
  grind

theorem set_insert_again (s : ExtTreeSet κ) (a b : κ) :
    ((s.insert a).insert b).insert a = (s.insert b).insert a := by
  apply ExtTreeSet.ext_mem
  intro x
  simp only [ExtTreeSet.mem_insert]
  grind

/-- An erasure and the insertion of something else can be done in either order. -/
theorem set_insert_erase (s : ExtTreeSet κ) {a b : κ} (h : a ≠ b) :
    (s.erase b).insert a = (s.insert a).erase b := by
  apply ExtTreeSet.ext_mem
  intro x
  simp only [ExtTreeSet.mem_insert, ExtTreeSet.mem_erase, Std.LawfulEqOrd.compare_eq_iff_eq, ne_eq]
  constructor
  · rintro (rfl | ⟨hx, hmem⟩)
    · exact ⟨Ne.symm h, .inl rfl⟩
    · exact ⟨hx, .inr hmem⟩
  · rintro ⟨hx, rfl | hmem⟩
    · exact .inl rfl
    · exact .inr ⟨hx, hmem⟩

variable {s : ExtTreeSet κ} {a : κ}

theorem set_insert_of_mem (h : a ∈ s) : s.insert a = s := by
  apply ExtTreeSet.ext_mem
  intro x
  rw [ExtTreeSet.mem_insert]
  constructor
  · rintro (hx | hx)
    · rw [← Std.LawfulEqOrd.compare_eq_iff_eq.1 hx]
      exact h
    · exact hx
  · exact .inr

theorem set_erase_of_absent (h : s.contains a = false) : s.erase a = s := by
  apply ExtTreeSet.ext_mem
  intro x
  rw [ExtTreeSet.mem_erase, ne_eq, Std.LawfulEqOrd.compare_eq_iff_eq, and_iff_right_iff_imp]
  rintro hx rfl
  rw [← ExtTreeSet.contains_iff_mem, h] at hx
  cases hx

/-- What was there is there again once it is erased and inserted. -/
theorem set_erase_again (h : a ∈ s) : (s.erase a).insert a = s := by
  apply ExtTreeSet.ext_mem
  intro x
  simp only [ExtTreeSet.mem_insert, ExtTreeSet.mem_erase, Std.LawfulEqOrd.compare_eq_iff_eq, ne_eq]
  grind

theorem set_erase_insert (h : a ∉ s) : (s.insert a).erase a = s := by
  apply ExtTreeSet.ext_mem
  intro x
  simp only [ExtTreeSet.mem_erase, ExtTreeSet.mem_insert, ne_eq, Std.LawfulEqOrd.compare_eq_iff_eq]
  grind

/-- A set has as many members as a list of them in which none is repeated. -/
theorem set_size_eq_length {l : List κ} (hl : l.Nodup) (h : ∀ x, x ∈ s ↔ x ∈ l) : s.size = l.length := by
  have hlist : s.toList.Nodup := s.distinct_toList.imp fun hne hsame => hne (Std.LawfulEqOrd.compare_eq_iff_eq.2 hsame)
  have hperm : s.toList.Perm l := (List.perm_ext_iff_of_nodup hlist hl).2 fun x => by
    rw [ExtTreeSet.mem_toList, h]
  rw [← ExtTreeSet.length_toList, hperm.length_eq]

end sets

/-! ### Sets and lists of names -/

section names

variable (s : ExtTreeSet String)

theorem set_insert_insertMany {x : String} {xs : List String} (hx : x ∈ xs) :
    (s.insert x).insertMany xs = s.insertMany xs := by
  apply ExtTreeSet.ext_mem
  intro y
  simp only [ExtTreeSet.mem_insertMany_list, ExtTreeSet.mem_insert]
  grind

theorem set_insertMany_insertMany (xs : List String) : (s.insertMany xs).insertMany xs = s.insertMany xs := by
  apply ExtTreeSet.ext_mem
  intro x
  simp only [ExtTreeSet.mem_insertMany_list]
  grind

theorem set_insertMany_again (xs ys : List String) :
    ((s.insertMany xs).insertMany ys).insertMany xs = (s.insertMany ys).insertMany xs := by
  apply ExtTreeSet.ext_mem
  intro x
  simp only [ExtTreeSet.mem_insertMany_list]
  grind

end names

end FabricProvision

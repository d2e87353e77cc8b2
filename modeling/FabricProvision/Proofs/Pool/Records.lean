import FabricProvision.Pool.Stock

/-!
# Records of a category

Facts about the forms of units and about the table of records that the proofs on pools rest on: two units are
the same up to their order exactly when their pooled forms agree (`pooled_eq_iff`), the two names of a link have
one canonical name (`canonical_reversed`), a unit is held exactly when
some owner has it in one of its orders (`holds_iff`), and staging a range either gives the pooled forms of all
its units, all of them new, or fails (`stage_ok`).
-/

namespace FabricProvision

open Std (ExtTreeMap ExtTreeSet TransCmp LawfulEqCmp)

/-! ### Forms of units -/

namespace AddressPair

theorem sorted_cases (p : AddressPair) : p.sorted = p ∨ p.sorted = p.swap := by
  unfold sorted
  split
  · exact .inl rfl
  · exact .inr rfl

private theorem sorted_swap (p : AddressPair) : p.swap.sorted = p.sorted := by
  obtain ⟨⟨a⟩, ⟨b⟩⟩ := p
  unfold sorted swap
  simp only
  split <;> split
  · have : a = b := UInt32.le_antisymm ‹_› ‹_›
    subst this; rfl
  · rfl
  · rfl
  · rename_i h h'
    exact absurd (UInt32.le_of_lt (UInt32.not_le.1 h)) h'

private theorem sorted_eq_iff (p q : AddressPair) : p.sorted = q.sorted ↔ p = q ∨ p = q.swap := by
  constructor
  · intro h
    have hswap : ∀ r : AddressPair, r.swap.swap = r := fun _ => rfl
    rcases sorted_cases p with hp | hp <;> rcases sorted_cases q with hq | hq <;> rw [hp, hq] at h
    · exact .inl h
    · exact .inr h
    · exact .inr (by rw [← h, hswap])
    · exact .inl (by rw [← hswap p, h, hswap])
  · rintro (rfl | rfl)
    · rfl
    · exact sorted_swap q

end AddressPair

namespace Kind

variable {k : Kind}

/-- Two units have the same pooled form exactly when they are the same up to their order. -/
theorem pooled_eq_iff (u v : k.Unit) : k.pooled u = k.pooled v ↔ u = v ∨ u = k.flip v := by
  cases k with
  | number => simp [pooled, flip]
  | address => simp [pooled, flip]
  | link => exact AddressPair.sorted_eq_iff u v

theorem pooled_flip (u : k.Unit) : k.pooled (k.flip u) = k.pooled u :=
  (pooled_eq_iff _ _).2 (.inr rfl)

theorem pooled_orient (swapped : Bool) (u : k.Unit) : k.pooled (k.orient swapped u) = k.pooled u := by
  cases swapped with
  | false => rfl
  | true => exact pooled_flip u

theorem pooled_pooled (u : k.Unit) : k.pooled (k.pooled u) = k.pooled u := by
  cases k with
  | number => rfl
  | address => rfl
  | link => rcases AddressPair.sorted_cases u with h | h <;> simp [pooled, h, AddressPair.sorted_swap]

/-! ### Names of links -/

private theorem compare_ends (l : Link) : compare l.two l.one = (compare l.one l.two).swap := Std.OrientedOrd.eq_swap

/-- The canonical name of a link is its own canonical name. -/
theorem canonical_canonical (l : Link) :
    (link.canonical (link.canonical l).1).1 = (link.canonical l).1 := by
  unfold canonical
  by_cases h : (compare l.one l.two).isLE = true
  · simp only [h, if_true]
  · have hother : (compare l.two l.one).isLE = true := by
      rw [compare_ends]
      revert h
      cases compare l.one l.two <;> decide
    simp only [h, if_false, Link.reversed, hother, if_true, Bool.false_eq_true]

/-- Of the two names of a link whose ends differ, one is canonical and the other one is not. -/
theorem canonical_reversed {l : Link} (h : l.one ≠ l.two) :
    link.canonical l.reversed = ((link.canonical l).1, !(link.canonical l).2) := by
  have hne : compare l.one l.two ≠ .eq := fun heq => h (Std.LawfulEqOrd.eq_of_compare heq)
  unfold canonical
  simp only [Link.reversed, compare_ends]
  cases hcmp : compare l.one l.two with
  | lt => rfl
  | eq => exact absurd hcmp hne
  | gt => rfl

end Kind

/-! ### Held units -/

/-- The values of a map are those found under its keys. -/
theorem mem_values {α β : Type} {cmp : α → α → Ordering} [TransCmp cmp] [LawfulEqCmp cmp]
    (t : ExtTreeMap α β cmp) (v : β) : v ∈ t.values ↔ ∃ key : α, t[key]? = some v := by
  have h : t.values = t.toList.map (·.2) := by
    obtain ⟨t⟩ := t
    refine Std.ExtDTreeMap.inductionOn t fun m => ?_
    show m.inner.values = (Std.DTreeMap.Internal.Impl.Const.toList m.inner).map (·.2)
    simp [Std.DTreeMap.Internal.Impl.values_eq_map_snd, Std.DTreeMap.Internal.Impl.Const.toList,
      Std.DTreeMap.Internal.Impl.foldr_eq_foldr]
  simp [h, ExtTreeMap.mem_toList_iff_getElem?_eq_some]

namespace Stock

variable {k : Kind}

theorem holds_iff (s : Stock k) (u : k.Unit) :
    s.holds u = true ↔
      ∃ (owner : k.Owner) (held : k.Unit), s.used[owner]? = some held ∧ k.pooled held = k.pooled u := by
  simp only [holds, List.any_eq_true, mem_values, beq_iff_eq]
  constructor
  · rintro ⟨held, ⟨owner, ho⟩, hp⟩
    exact ⟨owner, held, ho, hp⟩
  · rintro ⟨owner, held, ho, hp⟩
    exact ⟨held, ⟨owner, ho⟩, hp⟩

theorem holds_pooled (s : Stock k) (u : k.Unit) : s.holds (k.pooled u) = s.holds u := by
  simp only [holds, Kind.pooled_pooled]

/-! ### Staging -/

/-- What staging gives: besides what was staged before, the pooled forms of the units, none of which was held
or populated. -/
theorem stage_ok {s : Stock k} {units : List k.Unit} {staged result : ExtTreeSet k.Unit}
    (h : s.stage staged units = .ok result) :
    (∀ x, x ∈ result ↔ x ∈ staged ∨ ∃ u ∈ units, k.pooled u = x) ∧
      ∀ u ∈ units, s.holds u = false ∧ k.pooled u ∉ s.populated := by
  induction units generalizing staged with
  | nil =>
    cases h
    simp
  | cons u rest ih =>
    unfold stage at h
    split at h
    · cases h
    · rename_i hnew
      simp only [Bool.or_eq_true, not_or, Bool.not_eq_true] at hnew
      obtain ⟨⟨hheld, hpop⟩, -⟩ := hnew
      obtain ⟨hmem, hfresh⟩ := ih h
      constructor
      · intro x
        rw [hmem, ExtTreeSet.mem_insert]
        simp only [Std.LawfulEqOrd.compare_eq_iff_eq, List.mem_cons, exists_eq_or_imp]
        exact ⟨by rintro ((rfl | h) | h) <;> simp_all, by rintro (h | rfl | h) <;> simp_all⟩
      · intro v hv
        rcases List.mem_cons.1 hv with rfl | hv
        · exact ⟨hheld, by rw [← ExtTreeSet.contains_iff_mem, hpop]; simp⟩
        · exact hfresh v hv

end Stock

end FabricProvision

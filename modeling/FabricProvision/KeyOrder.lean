import Std.Data.ExtTreeMap

/-!
# Orders on keys

Records are kept in maps and sets ordered by key.  A key made of parts is compared part by part; the lemmas
here say that such a comparison is a lawful order when the comparisons of the parts are and the parts
determine the key.
-/

namespace FabricProvision

/-- Comparing by an image under `f` tells two values apart when `f` does. -/
theorem lawfulEqCmp_compareOn {α β : Type} [Ord β] [Std.LawfulEqOrd β] {f : α → β}
    (hf : ∀ a b, f a = f b → a = b) : Std.LawfulEqCmp (compareOn f) where
  compare_self {a} := (Std.ReflCmp.compare_self : compare (f a) (f a) = .eq)
  eq_of_compare {a b} h := hf a b (Std.LawfulEqCmp.eq_of_compare (h : compare (f a) (f b) = .eq))

/-- Comparing two parts in turn tells two values apart when the two parts together do. -/
theorem lawfulEqCmp_compareLex {α β γ : Type} [Ord β] [Std.LawfulEqOrd β] [Ord γ]
    [Std.LawfulEqOrd γ] {f : α → β} {g : α → γ}
    (hfg : ∀ a b, f a = f b → g a = g b → a = b) :
    Std.LawfulEqCmp (compareLex (compareOn f) (compareOn g)) where
  compare_self {a} := by
    rw [compareLex_eq_eq]
    exact ⟨(Std.ReflCmp.compare_self : compare (f a) (f a) = .eq),
      (Std.ReflCmp.compare_self : compare (g a) (g a) = .eq)⟩
  eq_of_compare {a b} h := by
    rw [compareLex_eq_eq] at h
    exact hfg a b (Std.LawfulEqCmp.eq_of_compare (h.1 : compare (f a) (f b) = .eq))
      (Std.LawfulEqCmp.eq_of_compare (h.2 : compare (g a) (g b) = .eq))

end FabricProvision

import FabricProvision.Proofs.Pool.Draws
import FabricProvision.Proofs.Pool.Returns

/-!
# Units handed out one after the other

Between two states of a stock, units were given to owners, some drawn and some reserved, while ranges were added and
nobody gave anything up (`Stock.Hands`).  Then a unit that was drawn was held by nobody at the start, and is none of
those given before it: these were still held when it was drawn.  Each draw, reservation and range does so much
(`Conserved.hands_draw`, `Conserved.hands_reserve`, `Conserved.hands_populate`), and it adds up (`Hands.append`).
-/

namespace FabricProvision.Stock

open Std (ExtTreeMap ExtTreeSet)

variable {k : Kind} {s s' s'' : Stock k}

/-- From `s` to `s'` units were given to owners, in this order and each with whether it was drawn, while ranges were
added and nobody gave anything up. -/
structure Hands (s s' : Stock k) (gifts : List (k.Unit × Bool)) : Prop where
  conservation : s'.Conserved
  populated : ∀ u ∈ s.populated, u ∈ s'.populated
  bound : ∀ u, s.Bound u → s'.Bound u
  held : ∀ g ∈ gifts, s'.Bound g.1
  drawn : ∀ g ∈ gifts, g.2 = true → g.1 ∈ s'.populated ∧ ¬ s.Bound g.1
  distinct : gifts.Pairwise fun earlier later => later.2 = true → later.1 ≠ earlier.1

theorem Hands.refl (hs : s.Conserved) : Hands s s [] where
  conservation := hs
  populated _ h := h
  bound _ h := h
  held := nofun
  drawn := nofun
  distinct := .nil

theorem Hands.append {gifts gifts' : List (k.Unit × Bool)} (h : Hands s s' gifts) (h' : Hands s' s'' gifts') :
    Hands s s'' (gifts ++ gifts') where
  conservation := h'.conservation
  populated u hu := h'.populated u (h.populated u hu)
  bound u hu := h'.bound u (h.bound u hu)
  held g hg := by
    rcases List.mem_append.1 hg with hg | hg
    · exact h'.bound _ (h.held g hg)
    · exact h'.held g hg
  drawn g hg hdrawn := by
    rcases List.mem_append.1 hg with hg | hg
    · obtain ⟨hpop, hfree⟩ := h.drawn g hg hdrawn
      exact ⟨h'.populated _ hpop, hfree⟩
    · obtain ⟨hpop, hfree⟩ := h'.drawn g hg hdrawn
      exact ⟨hpop, fun hbound => hfree (h.bound _ hbound)⟩
  distinct := by
    refine List.pairwise_append.2 ⟨h.distinct, h'.distinct, fun earlier hearlier later hlater hdrawn hsame => ?_⟩
    -- What was given before is still held when the later one is drawn.
    refine (h'.drawn later hlater hdrawn).2 ?_
    rw [hsame]
    exact h.held earlier hearlier

/-! ### Single steps -/

/-- A range gives nothing to anybody. -/
theorem Conserved.hands_populate (hs : s.Conserved) (range : String) (allowSmall : Bool) :
    Hands s ((Stock.populate range allowSmall).run.run s).2 [] where
  conservation := hs.change (.populate s range allowSmall)
  populated u hu := by
    rcases populate_cases s range allowSmall with ⟨e, -, h⟩ | ⟨units, staged, -, -, h⟩ <;> rw [h]
    · exact hu
    · exact ExtTreeSet.mem_union_iff.2 (.inl hu)
  bound u := by
    unfold Bound
    rw [used_populate]
    exact id
  held := nofun
  drawn := nofun
  distinct := .nil

/-- An owner that held nothing is given a unit, which is free if it is drawn. -/
private theorem hands_given {owner : k.Owner} {unit : k.Unit} {drawn : Bool}
    (hconserved : (s.given owner unit).Conserved) (hname : s.used[(k.canonical owner).1]? = none)
    (hdrawn : drawn = true → s.Free unit) : Hands s (s.given owner unit) [(unit, drawn)] := by
  have hbound : ∀ u, (s.given owner unit).Bound u ↔ k.pooled unit = k.pooled u ∨ s.Bound u := by
    intro u
    unfold Stock.given
    rw [bound_give_of_free (by exact hname), Kind.pooled_orient]
    exact Iff.rfl
  refine ⟨hconserved, fun _ hu => hu, fun u hu => (hbound u).2 (.inr hu), ?_, ?_, List.pairwise_singleton _ _⟩
  · intro g hg
    rw [List.mem_singleton.1 hg]
    exact (hbound unit).2 (.inl rfl)
  · intro g hg hg'
    rw [List.mem_singleton.1 hg] at hg' ⊢
    exact hdrawn hg'

/-- A draw gives a free unit. -/
theorem Conserved.hands_draw (hs : s.Conserved) {owner : k.Owner} {unit : k.Unit}
    (h : (Stock.draw owner).run.run s = (.ok unit, s')) : Hands s s' [(unit, true)] := by
  have hconserved : s'.Conserved := by
    have := hs.change (.draw s owner)
    rwa [h] at this
  have hgiven : s' = s.given owner unit := by
    rw [← hs.draw_gives (by rw [h]), h]
  rcases draw_cases s owner with ⟨held, -, hrun⟩ | ⟨-, -, hrun⟩ | ⟨u, hname, hmin, hrun⟩ <;> rw [hrun] at h
  · cases h
  · cases h
  · obtain rfl : u = unit := Except.ok.inj (congrArg Prod.fst h)
    rw [hgiven] at hconserved ⊢
    exact hands_given hconserved hname fun _ => ((hs.min?_eq_some u).1 hmin).free

/-- An owner that may not exchange what it holds reserves it again, or holds nothing. -/
private theorem held_of_reserve (hk : k.replacesHeld = false) {owner : k.Owner} {unit : k.Unit}
    (h : (reserve owner unit).run.run s = (.ok ⟨⟩, s')) :
    s.used[(k.canonical owner).1]? = none ∨
      s.used[(k.canonical owner).1]? = some (k.orient (k.canonical owner).2 unit) ∧ s' = s := by
  rcases reserve_cases s owner unit with ⟨hheld, hrun⟩ | ⟨e, -, hrun⟩ | ⟨hname, -⟩ | ⟨held, -, hmay, -⟩ |
    ⟨held, -, hmay, -⟩
  · rw [hrun] at h
    exact .inr ⟨hheld, (congrArg Prod.snd h).symm⟩
  · rw [hrun] at h
    cases h
  · exact .inl hname
  · rw [hk] at hmay
    cases hmay
  · rw [hk] at hmay
    cases hmay

/-- A reservation gives the unit that was chosen. -/
theorem Conserved.hands_reserve (hs : s.Conserved) (hk : k.replacesHeld = false) {owner : k.Owner} {unit : k.Unit}
    (h : (Stock.reserve owner unit).run.run s = (.ok ⟨⟩, s')) : Hands s s' [(unit, false)] := by
  rcases held_of_reserve hk h with hname | ⟨hheld, rfl⟩
  · have hgiven : s' = s.given owner unit := by
      rw [← reserve_gives hname (by rw [h]; rfl), h]
    have hconserved : s'.Conserved := by
      have := hs.change (.reserve s owner unit)
      rwa [h] at this
    rw [hgiven] at hconserved ⊢
    exact hands_given hconserved hname nofun
  · -- The owner held the unit before, so nothing changed.
    refine { Hands.refl hs with held := ?_, drawn := ?_, distinct := List.pairwise_singleton _ _ }
    · intro g hg
      rw [List.mem_singleton.1 hg, bound_iff]
      exact ⟨_, _, hheld, Kind.pooled_orient _ unit⟩
    · intro g hg hdrawn
      rw [List.mem_singleton.1 hg] at hdrawn
      cases hdrawn

end FabricProvision.Stock

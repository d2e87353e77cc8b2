import FabricProvision.Proofs.Pool.Conservation
import FabricProvision.Proofs.Pool.Ranges
import Mathlib.Data.Nat.Init

/-!
# Pairs of links

No address is in the pairs of two links (`Pool.links_separated`).  The records compare pairs as a whole, so this
rests on how pairs are cut out of blocks: a block that holds a pair begins at an even address, and so does each of
its pairs (`aligned_of_expandPairs`), and no address of it is left over (`expandPairs_eq_ok`).  Two aligned pairs with
an address in common are the same pair, whatever ranges they come from.  What is left is that two links never hold the
same pair: a link only takes a pair that is available, which by conservation nobody holds, or turns around its own.
-/

namespace FabricProvision

open Std (ExtTreeMap ExtTreeSet)

/-! ### Aligned pairs -/

namespace AddressPair

/-- The address is one of the two. -/
def Mentions (p : AddressPair) (a : Ipv4) : Prop := a = p.first ∨ a = p.second

/-- The two addresses in order. -/
def ends (p : AddressPair) : List Ipv4 := [p.first, p.second]

/-- The pair begins at an even address and goes on with the next one. -/
def Aligned (p : AddressPair) : Prop := p.first.toNat % 2 = 0 ∧ p.second.toNat = p.first.toNat + 1

/-- Aligned pairs with an address in common are the same. -/
theorem Aligned.eq_of_mentions {p q : AddressPair} (hp : p.Aligned) (hq : q.Aligned) {a : Ipv4} (hpa : p.Mentions a)
    (hqa : q.Mentions a) : p = q := by
  obtain ⟨hpeven, hpnext⟩ := hp
  obtain ⟨hqeven, hqnext⟩ := hq
  have hfirst : p.first.toNat = q.first.toNat := by
    rcases hpa with rfl | rfl <;> rcases hqa with h | h <;> have h := congrArg Ipv4.toNat h <;> omega
  have hsecond : p.second.toNat = q.second.toNat := by omega
  exact congr (congrArg AddressPair.mk (Ipv4.eq_of_toNat_eq hfirst)) (Ipv4.eq_of_toNat_eq hsecond)

theorem Aligned.sorted_eq {p : AddressPair} (hp : p.Aligned) : p.sorted = p := by
  have hle : p.first.toNat ≤ p.second.toNat := by have := hp.2; omega
  exact if_pos (UInt32.le_iff_toNat_le.2 hle)

theorem mentions_sorted (p : AddressPair) (a : Ipv4) : p.sorted.Mentions a ↔ p.Mentions a := by
  rcases p.sorted_cases with h | h <;> rw [h]
  exact or_comm

end AddressPair

/-! ### Pairs of a range -/

private theorem aligned_pairUp {start size : Nat} (heven : start % 2 = 0) (hbound : start + size ≤ UInt32.size) :
    ∀ p ∈ Range.pairUp ((List.range' start size).map Ipv4.ofNat), p.Aligned := by
  -- Two addresses at a time, as they are paired.
  induction size using Nat.twoStepInduction generalizing start with
  | zero => simp [Range.pairUp]
  | one => simp [Range.pairUp]
  | more size ih _ =>
    have hrest : ∀ p ∈ Range.pairUp ((List.range' (start + 2) size).map Ipv4.ofNat), p.Aligned :=
      ih (by omega) (by omega)
    simp only [List.range'_succ, List.map_cons, Range.pairUp, List.forall_mem_cons]
    refine ⟨⟨?_, ?_⟩, hrest⟩
    · rw [Ipv4.toNat_ofNat (by omega)]
      exact heven
    · rw [Ipv4.toNat_ofNat (by omega), Ipv4.toNat_ofNat (by omega)]

/-- A block with room for a pair holds an even number of addresses. -/
private theorem Block.size_eq_double {b : Block} (h : 2 ≤ b.size) : b.size = 2 * Nat.pow 2 (31 - b.length) := by
  have hlength : b.length < 32 := by
    refine Nat.lt_of_le_of_ne b.length_le fun hfull => ?_
    have hsize : b.size = 1 := by simp [size, hfull]
    omega
  rw [size, show 32 - b.length = 31 - b.length + 1 by omega]
  exact Nat.mul_comm _ 2

/-- A block with room for a pair begins at an even address. -/
private theorem Block.first_even {b : Block} (h : 2 ≤ b.size) : b.first % 2 = 0 := by
  rw [first, Block.size_eq_double h, Nat.mul_left_comm, Nat.mul_mod_right]

/-- A range of addresses has room for a pair. -/
private theorem two_le_size {range : String} {allowSmall : Bool} {b : Block}
    (h : Range.readBlock range allowSmall = .ok b) : 2 ≤ b.size := by
  have hfits := (Range.readBlock_eq_ok.1 h).2
  refine (b.twoPow_le_size 1).2 ?_
  unfold Block.Fits at hfits
  omega

theorem aligned_of_expandPairs {range : String} {allowSmall : Bool} {pairs : List AddressPair}
    (h : expandPairs range allowSmall = .ok pairs) : ∀ p ∈ pairs, p.Aligned := by
  unfold expandPairs expandAddresses at h
  rcases hblock : Range.readBlock range allowSmall with e | b <;> rw [hblock] at h <;> cases h
  exact aligned_pairUp (Block.first_even (two_le_size hblock)) b.end_le

/-- Of an even number of addresses, none is left over by pairs. -/
private theorem flatMap_pairUp {addresses : List Ipv4} (h : addresses.length % 2 = 0) :
    (Range.pairUp addresses).flatMap AddressPair.ends = addresses := by
  induction addresses using Range.pairUp.induct with
  | case1 first second rest ih =>
    have hrest : rest.length % 2 = 0 := by
      simp only [List.length_cons] at h
      omega
    rw [Range.pairUp, List.flatMap_cons, ih hrest]
    rfl
  | case2 addresses hshort =>
    obtain rfl : addresses = [] := by
      rcases addresses with _ | ⟨first, _ | ⟨second, rest⟩⟩
      · rfl
      · exact absurd h Nat.one_ne_zero
      · exact absurd rfl (hshort first second rest)
    rfl

private theorem pairUp_flatMap (pairs : List AddressPair) : Range.pairUp (pairs.flatMap AddressPair.ends) = pairs := by
  induction pairs with
  | nil => rfl
  | cons p rest ih =>
    rw [List.flatMap_cons]
    exact congrArg (p :: ·) ih

/-- The pairs of a range are cut out of its addresses, and none is left over. -/
theorem expandPairs_eq_ok {range : String} {allowSmall : Bool} {pairs : List AddressPair} :
    expandPairs range allowSmall = .ok pairs ↔
      expandAddresses range allowSmall = .ok (pairs.flatMap AddressPair.ends) := by
  unfold expandPairs
  constructor
  · intro h
    unfold expandAddresses at h ⊢
    rcases hblock : Range.readBlock range allowSmall with e | b <;> rw [hblock] at h <;> cases h
    have heven : b.addresses.length % 2 = 0 := by
      rw [Block.addresses, List.length_map, List.length_range', Block.size_eq_double (two_le_size hblock)]
      exact Nat.mul_mod_right 2 _
    exact congrArg Except.ok (flatMap_pairUp heven).symm
  · intro h
    rw [h]
    exact congrArg Except.ok (pairUp_flatMap pairs)

theorem mem_of_expandPairs {range : String} {allowSmall : Bool} {pairs : List AddressPair}
    (h : expandPairs range allowSmall = .ok pairs) :
    ∃ addresses, expandAddresses range allowSmall = .ok addresses ∧
      ∀ a, a ∈ addresses ↔ ∃ p ∈ pairs, p.Mentions a := by
  refine ⟨_, expandPairs_eq_ok.1 h, fun a => ?_⟩
  simp [AddressPair.ends, AddressPair.Mentions]

/-! ### What links hold -/

namespace Stock

/-- Populated pairs are aligned, links hold populated pairs under their canonical names, and no two links hold the
same pair. -/
structure Paired (s : Stock .link) : Prop where
  aligned : ∀ pair ∈ s.populated, AddressPair.Aligned pair
  named : ∀ (l : Link) (pair : AddressPair), s.used[l]? = some pair → (Kind.link.canonical l).1 = l
  populated : ∀ (l : Link) (pair : AddressPair), s.used[l]? = some pair → Kind.link.pooled pair ∈ s.populated
  unshared : ∀ (l l' : Link) (pair pair' : AddressPair), s.used[l]? = some pair → s.used[l']? = some pair' →
    Kind.link.pooled pair = Kind.link.pooled pair' → l = l'

/-- No address is in the pairs of two links: links hold populated pairs, in one of their orders, under their
canonical names, and the pairs of two of them have no address in common. -/
structure Separated (s : Stock .link) : Prop where
  named : ∀ (l : Link) (pair : AddressPair), s.used[l]? = some pair → (Kind.link.canonical l).1 = l
  populated : ∀ (l : Link) (pair : AddressPair), s.used[l]? = some pair →
    pair ∈ s.populated ∨ pair.swap ∈ s.populated
  disjoint : ∀ (l l' : Link) (pair pair' : AddressPair), s.used[l]? = some pair → s.used[l']? = some pair' →
    l ≠ l' → ∀ a, pair.Mentions a → ¬ pair'.Mentions a

theorem Paired.separated {s : Stock .link} (hs : s.Paired) : s.Separated where
  named := hs.named
  populated l pair h := by
    have hpopulated : pair.sorted ∈ s.populated := hs.populated l pair h
    rcases pair.sorted_cases with hsorted | hsorted <;> rw [hsorted] at hpopulated
    · exact .inl hpopulated
    · exact .inr hpopulated
  disjoint l l' pair pair' h h' hne a ha ha' := by
    refine hne (hs.unshared l l' pair pair' h h' ?_)
    exact (hs.aligned _ (hs.populated l pair h)).eq_of_mentions (hs.aligned _ (hs.populated l' pair' h'))
      ((pair.mentions_sorted a).2 ha) ((pair'.mentions_sorted a).2 ha')

private theorem paired_empty : Paired ({} : Stock .link) where
  aligned := by simp
  named := by simp
  populated := by simp
  unshared := by simp

variable {s s' : Stock .link}

/-- More may be populated, and links may give up what they hold. -/
private theorem Paired.of_sub (hs : s.Paired) (haligned : ∀ pair ∈ s'.populated, AddressPair.Aligned pair)
    (hpopulated : ∀ pair ∈ s.populated, pair ∈ s'.populated)
    (hused : ∀ (l : Link) (pair : AddressPair), s'.used[l]? = some pair → s.used[l]? = some pair) : s'.Paired where
  aligned := haligned
  named l pair h := hs.named l pair (hused l pair h)
  populated l pair h := hpopulated _ (hs.populated l pair (hused l pair h))
  unshared l l' pair pair' h h' := hs.unshared l l' pair pair' (hused l pair h) (hused l' pair' h')

/-- A link may get a populated pair that no other link holds. -/
private theorem Paired.of_given (hs : s.Paired) {name : Link} {stored : AddressPair}
    (hname : (Kind.link.canonical name).1 = name) (hstored : Kind.link.pooled stored ∈ s.populated)
    (hfree : ∀ (l : Link) (pair : AddressPair), l ≠ name → s.used[l]? = some pair →
      Kind.link.pooled pair ≠ Kind.link.pooled stored)
    (hpopulated : s'.populated = s.populated) (hself : s'.used[name]? = some stored)
    (hothers : ∀ l : Link, l ≠ name → s'.used[l]? = s.used[l]?) : s'.Paired := by
  have hcases : ∀ (l : Link) (pair : AddressPair), s'.used[l]? = some pair →
      l = name ∧ pair = stored ∨ l ≠ name ∧ s.used[l]? = some pair := by
    intro l pair h
    by_cases hl : l = name
    · subst hl
      exact .inl ⟨rfl, (Option.some.inj (hself.symm.trans h)).symm⟩
    · exact .inr ⟨hl, hothers l hl ▸ h⟩
  refine ⟨hpopulated ▸ hs.aligned, fun l pair h => ?_, fun l pair h => ?_, fun l l' pair pair' h h' hsame => ?_⟩
  · rcases hcases l pair h with ⟨rfl, -⟩ | ⟨-, h⟩
    · exact hname
    · exact hs.named l pair h
  · rw [hpopulated]
    rcases hcases l pair h with ⟨-, rfl⟩ | ⟨-, h⟩
    · exact hstored
    · exact hs.populated l pair h
  · rcases hcases l pair h with ⟨rfl, rfl⟩ | ⟨hl, h⟩ <;> rcases hcases l' pair' h' with ⟨rfl, rfl⟩ | ⟨hl', h'⟩
    · rfl
    · exact absurd hsame.symm (hfree l' pair' hl' h')
    · exact absurd hsame (hfree l pair hl h)
    · exact hs.unshared l l' pair pair' h h' hsame

/-! ### What the steps keep -/

/-- Nobody holds a pair that is available. -/
private theorem pooled_ne_of_available (hs : s.Conserved) {u : AddressPair} (hu : Kind.link.pooled u ∈ s.available)
    {l : Link} {pair : AddressPair} (h : s.used[l]? = some pair) : Kind.link.pooled pair ≠ Kind.link.pooled u := by
  intro hsame
  refine hs.not_bound _ hu ((bound_iff _ _).2 ⟨l, pair, h, ?_⟩)
  rw [Kind.pooled_pooled, hsame]

private theorem Paired.populate (hs : s.Paired) (range : String) (allowSmall : Bool) :
    ((populate range allowSmall).run.run s).2.Paired := by
  rcases populate_cases s range allowSmall with ⟨e, -, h⟩ | ⟨units, staged, hunits, hstage, h⟩ <;> rw [h]
  · exact hs
  · refine hs.of_sub (fun pair hpair => ?_) (fun pair hpair => ?_) fun _ _ h => h
    · rcases ExtTreeSet.mem_union_iff.1 hpair with hpair | hpair
      · exact hs.aligned pair hpair
      · obtain ⟨unit, hunit, rfl⟩ : ∃ u ∈ units, Kind.link.pooled u = pair := by
          simpa using ((stage_ok hstage).1 pair).1 hpair
        have haligned : unit.Aligned := aligned_of_expandPairs hunits unit hunit
        have hsorted : Kind.link.pooled unit = unit := haligned.sorted_eq
        rwa [hsorted]
    · exact ExtTreeSet.mem_union_iff.2 (.inl hpair)

/-- A link that holds nothing, or another pair, may take a pair that is available. -/
private theorem Paired.of_taken (hs : s.Paired) (hconserved : s.Conserved) {l : Link} {unit stored : AddressPair}
    (hready : Kind.link.pooled unit ∈ s.available) (hsame : Kind.link.pooled stored = Kind.link.pooled unit)
    (hpopulated : s'.populated = s.populated) (hself : s'.used[(Kind.link.canonical l).1]? = some stored)
    (hothers : ∀ l' : Link, l' ≠ (Kind.link.canonical l).1 → s'.used[l']? = s.used[l']?) : s'.Paired := by
  refine hs.of_given (Kind.canonical_canonical l) ?_ (fun l' pair _ h => ?_) hpopulated hself hothers
  · rw [hsame]
    exact hconserved.available_subset _ hready
  · rw [hsame]
    exact pooled_ne_of_available hconserved hready h

private theorem Paired.draw (hs : s.Paired) (hconserved : s.Conserved) (l : Link) :
    ((draw (k := .link) l).run.run s).2.Paired := by
  rcases draw_cases s l with ⟨held, -, h⟩ | ⟨-, -, h⟩ | ⟨u, -, hmin, h⟩ <;> rw [h]
  · exact hs
  · exact hs
  · have hu : u ∈ s.available := (ExtTreeSet.min?_eq_some_iff_mem_and_forall.1 hmin).1
    have hpooled : Kind.link.pooled u = u := hconserved.pooled u (hconserved.available_subset u hu)
    have hready : Kind.link.pooled u ∈ s.available := by rwa [hpooled]
    exact hs.of_taken hconserved hready (Kind.pooled_orient (Kind.link.canonical l).2 u) rfl (used_give_self _ _ _)
      fun l' hl' => used_give_of_ne _ _ hl'.symm

private theorem Paired.reserve (hs : s.Paired) (hconserved : s.Conserved) (l : Link) (unit : AddressPair) :
    ((reserve (k := .link) l unit).run.run s).2.Paired := by
  have horient := Kind.pooled_orient (k := .link) (Kind.link.canonical l).2 unit
  rcases reserve_cases s l unit with ⟨-, h⟩ | ⟨e, -, h⟩ | ⟨-, hready, h⟩ | ⟨held, hheld, -, hsame, h⟩ |
    ⟨held, hheld, -, -, hready, h⟩ <;> rw [h]
  · exact hs
  · exact hs
  · exact hs.of_taken hconserved (hready.resolve_left nofun) horient rfl (used_give_self _ _ _)
      fun l' hl' => used_give_of_ne _ _ hl'.symm
  · -- The link turns around its own pair.
    refine hs.of_given (Kind.canonical_canonical l) ?_ (fun l' pair hl' hpair hother => hl' ?_) rfl
      (used_give_self _ _ _) fun l' hl' => used_give_of_ne _ _ hl'.symm
    · rw [horient, ← hsame]
      exact hs.populated _ held hheld
    · exact hs.unshared l' _ pair held hpair hheld (hother.trans (horient.trans hsame.symm))
  · refine hs.of_taken hconserved (hready.resolve_left nofun) horient (populated_restored _ _)
      (used_give_self _ _ _) fun l' hl' => ?_
    rw [used_give_of_ne _ _ hl'.symm, used_restored]
    exact used_deleteUsed_of_ne _ hl'.symm

private theorem Paired.release (hs : s.Paired) (l : Link) (unit : AddressPair) :
    ((release (k := .link) l unit).run.run s).2.Paired := by
  rcases release_cases s l unit with ⟨-, h⟩ | ⟨-, h⟩ <;> rw [h]
  · have hpopulated := populated_restored (s.deleteUsed (Kind.link.canonical l).1) unit
    refine hs.of_sub (hpopulated ▸ hs.aligned) (fun pair hpair => hpopulated ▸ hpair) fun l' pair hpair => ?_
    rw [used_restored] at hpair
    by_cases hl' : (Kind.link.canonical l).1 = l'
    · rw [hl', used_deleteUsed_self] at hpair
      cases hpair
    · rwa [used_deleteUsed_of_ne _ hl'] at hpair
  · exact hs

private theorem Paired.change (hs : s.Paired) (hconserved : s.Conserved) (h : Change s s') : s'.Paired := by
  cases h with
  | populate range allowSmall => exact hs.populate range allowSmall
  | draw l => exact hs.draw hconserved l
  | allocated l =>
    rcases allocated_cases s l with ⟨held, -, h⟩ | ⟨-, h⟩ <;> rw [h] <;> exact hs
  | reserve l unit => exact hs.reserve hconserved l unit
  | release l unit => exact hs.release l unit

end Stock

/-- After any calls that begin with an empty pool, no address is in the pairs of two links of a category, and all
pairs that links hold are populated. -/
theorem Pool.links_separated (calls : List (Call .link)) (fabric : FabricId) (category : String) :
    ((afterCalls calls).stock fabric category).Separated := by
  -- What is available matters as well, so the stock is conserved along the way.
  have hinvariant := afterCalls_invariant (k := .link) (P := fun s => s.Conserved ∧ s.Paired)
    ⟨Stock.conserved_empty, Stock.paired_empty⟩ (fun _ _ hs h => ⟨hs.1.change h, hs.2.change hs.1 h⟩)
  exact (hinvariant calls fabric category).2.separated

end FabricProvision

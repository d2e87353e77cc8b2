import FabricProvision.Pool.Kind

/-!
# Units of a range

A range lists its units in ascending order, no unit twice, and each in the form in which it waits to be handed out
(`Kind.ascending_expand`).  Numbers and addresses are listed one after the other within the 32 bits they have, so
none of them wraps around (`Block.end_le`).  A block is expanded exactly if it is large enough (`Range.readBlock_eq_ok`).
Pairs are cut out of an ascending list of addresses two by two: within a pair and from pair to pair the addresses still
ascend.
-/

namespace FabricProvision

/-! ### Numbers of 32 bits -/

theorem Ipv4.toNat_ofNat {n : Nat} (h : n < UInt32.size) : (Ipv4.ofNat n).toNat = n :=
  UInt32.toNat_ofNat_of_lt' h

theorem Ipv4.eq_of_toNat_eq {a b : Ipv4} (h : a.toNat = b.toNat) : a = b := by
  obtain ⟨a⟩ := a
  obtain ⟨b⟩ := b
  exact congrArg Ipv4.mk (UInt32.toNat_inj.1 h)

/-- The addresses of a block do not wrap around. -/
theorem Block.end_le (b : Block) : b.first + b.size ≤ UInt32.size := by
  have hmul : 2 ^ b.length * b.size = UInt32.size := by
    show 2 ^ b.length * 2 ^ (32 - b.length) = UInt32.size
    rw [← Nat.pow_add, Nat.add_sub_cancel' b.length_le]
  have hmember : b.member.toNat < 2 ^ b.length * b.size := hmul ▸ b.member.bits.toNat_lt
  have hlt : b.member.toNat / b.size < 2 ^ b.length := Nat.div_lt_of_lt_mul (by rwa [Nat.mul_comm])
  calc b.first + b.size = (b.member.toNat / b.size + 1) * b.size := (Nat.succ_mul _ _).symm
    _ ≤ 2 ^ b.length * b.size := Nat.mul_le_mul_right _ hlt
    _ = UInt32.size := hmul

/-! ### Blocks that are large enough -/

/-- The block has room for what a range is allocated for: four addresses, or two where small ranges are allowed. -/
def Block.Fits (b : Block) (allowSmall : Bool) : Prop := b.length ≤ 30 ∨ b.length = 31 ∧ allowSmall = true

theorem Block.twoPow_le_size (b : Block) (k : Nat) : Nat.pow 2 k ≤ b.size ↔ k ≤ 32 - b.length :=
  Nat.pow_le_pow_iff_right (by decide)

theorem Range.readBlock_eq_ok {range : String} {allowSmall : Bool} {b : Block} :
    readBlock range allowSmall = .ok b ↔ Block.parse? (Text.trim range.toList) = some b ∧ b.Fits allowSmall := by
  unfold readBlock
  rcases hparse : Block.parse? (Text.trim range.toList) with _ | b'
  · exact ⟨nofun, nofun⟩
  have htwo : 2 ≤ b'.size ↔ 1 ≤ 32 - b'.length := b'.twoPow_le_size 1
  have hfour : minSize ≤ b'.size ↔ 2 ≤ 32 - b'.length := b'.twoPow_le_size 2
  dsimp only
  split
  · rename_i hroom
    refine ⟨nofun, ?_⟩
    rintro ⟨⟨⟩, hfits⟩
    unfold Block.Fits at hfits
    omega
  · split
    · rename_i hsmall
      refine ⟨nofun, ?_⟩
      rintro ⟨⟨⟩, hfits | ⟨-, hallowed⟩⟩
      · omega
      · exact absurd hallowed hsmall.2
    · rename_i hroom hsmall
      constructor
      · rintro ⟨⟩
        refine ⟨rfl, ?_⟩
        by_cases hallowed : allowSmall = true
        · simp only [Block.Fits, hallowed, and_true]
          omega
        · have hlarge : ¬ b.size < minSize := fun h => hsmall ⟨h, hallowed⟩
          exact .inl (by omega)
      · rintro ⟨⟨⟩, -⟩
        rfl

private theorem compare_ofNat_lt {m n : Nat} (hmn : m < n) (hn : n < UInt32.size) :
    compare (UInt32.ofNat m) (UInt32.ofNat n) = .lt := by
  rw [Std.compare_eq_lt, UInt32.lt_iff_toNat_lt, UInt32.toNat_ofNat_of_lt' hn,
    UInt32.toNat_ofNat_of_lt' (Nat.lt_trans hmn hn)]
  exact hmn

/-! ### Ascending lists -/

/-- Each unit comes before the later ones, and all are in pooled form. -/
structure Kind.Ascending (k : Kind) (units : List k.Unit) : Prop where
  sorted : units.Pairwise fun u v => compare u v = .lt
  pooled : ∀ u ∈ units, k.pooled u = u

/-- Consecutive numbers ascend as long as they do not wrap around. -/
private theorem pairwise_range' {α : Type} [Ord α] {f : Nat → α} {start size : Nat}
    (hf : ∀ {m n}, m < n → n < UInt32.size → compare (f m) (f n) = .lt) (hbound : start + size ≤ UInt32.size) :
    ((List.range' start size).map f).Pairwise fun u v => compare u v = .lt := by
  rw [List.pairwise_map]
  refine List.Pairwise.imp_of_mem (fun {m n} _ hn hmn => ?_) List.pairwise_lt_range'
  have hn' : n < start + size := by
    have := List.mem_range'_1.1 hn
    omega
  exact hf hmn (by omega)

theorem sorted_numbersFrom (low high : UInt32) :
    (Range.numbersFrom low high).Pairwise fun u v => compare u v = .lt := by
  have hhigh : high.toNat < UInt32.size := high.toNat_lt
  by_cases h : low.toNat ≤ high.toNat
  · exact pairwise_range' compare_ofNat_lt (by omega)
  · have hnone : high.toNat + 1 - low.toNat = 0 := by omega
    simp [Range.numbersFrom, hnone]

private theorem sorted_addresses (b : Block) : b.addresses.Pairwise fun u v => compare u v = .lt :=
  pairwise_range' (f := Ipv4.ofNat) compare_ofNat_lt b.end_le

/-- Pairs that are cut out of an ascending list: their ends are in it, they have their lower address first, and they
ascend as well. -/
private theorem sorted_pairUp {addresses : List Ipv4} (h : addresses.Pairwise fun u v => compare u v = .lt) :
    (∀ p ∈ Range.pairUp addresses, p.first ∈ addresses ∧ compare p.first p.second = .lt) ∧
      (Range.pairUp addresses).Pairwise fun u v => compare u v = .lt := by
  induction addresses using Range.pairUp.induct with
  | case1 a b rest ih =>
    obtain ⟨ha, hrest⟩ := List.pairwise_cons.1 h
    obtain ⟨hpairs, hsorted⟩ := ih (List.pairwise_cons.1 hrest).2
    refine ⟨?_, List.pairwise_cons.2 ⟨fun p hp => ?_, hsorted⟩⟩
    · rintro p hp
      rcases List.mem_cons.1 hp with rfl | hp
      · exact ⟨List.mem_cons_self, ha b List.mem_cons_self⟩
      · obtain ⟨hfirst, hends⟩ := hpairs p hp
        exact ⟨List.mem_cons_of_mem a (List.mem_cons_of_mem b hfirst), hends⟩
    · -- The first addresses decide.
      have hfirst : compare a p.first = .lt := ha _ (List.mem_cons_of_mem b (hpairs p hp).1)
      show (compare a p.first).then (compare b p.second) = .lt
      rw [hfirst]
      rfl
  | case2 addresses hshort =>
    have hnil : Range.pairUp addresses = [] := by
      unfold Range.pairUp
      split
      · exact absurd rfl (hshort _ _ _)
      · rfl
    rw [hnil]
    exact ⟨nofun, List.Pairwise.nil⟩

private theorem sorted_of_lt {p : AddressPair} (h : compare p.first p.second = .lt) : p.sorted = p := by
  have hlt : p.first.bits < p.second.bits := Std.compare_eq_lt.1 h
  exact if_pos (UInt32.le_of_lt hlt)

/-- A range lists its units in ascending order and in pooled form. -/
theorem Kind.ascending_expand {k : Kind} {range : String} {allowSmall : Bool} {units : List k.Unit}
    (h : k.expand range allowSmall = .ok units) : k.Ascending units := by
  cases k with
  | number =>
    change expandNumbers range = .ok units at h
    simp only [expandNumbers] at h
    rcases hbounds : Range.readBounds (Text.trim range.toList) with e | ⟨low, high⟩ <;> rw [hbounds] at h
    · cases h
    · by_cases horder : high < low
      · cases (if_pos horder).symm.trans h
      · cases (if_neg horder).symm.trans h
        exact ⟨sorted_numbersFrom low high, fun _ _ => rfl⟩
  | address =>
    change expandAddresses range allowSmall = .ok units at h
    unfold expandAddresses at h
    rcases hblock : Range.readBlock range allowSmall with e | b <;> rw [hblock] at h <;> cases h
    exact ⟨sorted_addresses b, fun _ _ => rfl⟩
  | link =>
    change expandPairs range allowSmall = .ok units at h
    unfold expandPairs expandAddresses at h
    rcases hblock : Range.readBlock range allowSmall with e | b <;> rw [hblock] at h <;> cases h
    obtain ⟨hpairs, hsorted⟩ := sorted_pairUp (sorted_addresses b)
    exact ⟨hsorted, fun p hp => sorted_of_lt (hpairs p hp).2⟩

end FabricProvision

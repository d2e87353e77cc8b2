import FabricProvision.Proofs.Pool.Links
import FabricProvision.Proofs.Step.Run
import FabricProvision.Proofs.Text.Decimal
import FabricProvision.Proofs.Text.Trimmed

/-!
# Ranges of addresses

Which texts are ranges of addresses, and which addresses they list.  A range is a block in decimal with blanks around it
or not (`Range.Writes`).  Exactly the blocks that are large enough are expanded, into as many consecutive addresses as
the bits that their members do not share can count, from the one where these bits are clear (`Block.Lists`).  So it does
not matter which of its members names a block.  The pairs of a range are the same addresses two by two, each pair an
even address and the next one (`expandAddresses_exact`).
-/

namespace FabricProvision

/-- The text is a block, with blanks around it or not. -/
def Range.Writes (range : String) (b : Block) : Prop :=
  ∃ text, Text.Trimmed range.toList text ∧ Block.Written text b

open Range (Writes)

/-! ### Addresses of a block -/

namespace Block

variable {b b' : Block} {as as' : List Ipv4}

/-- The list holds consecutive addresses, one for each value of the bits that the members do not share, and the first of
them is the member with these bits cleared. -/
def Lists (b : Block) (as : List Ipv4) : Prop :=
  ∃ first : Nat, as.map Ipv4.toNat = List.range' first (Nat.pow 2 (32 - b.length)) ∧
    ∀ i, first.testBit i = (decide (32 - b.length ≤ i) && b.member.toNat.testBit i)

theorem testBit_first (b : Block) (i : Nat) :
    b.first.testBit i = (decide (32 - b.length ≤ i) && b.member.toNat.testBit i) := by
  have hshift : b.first = b.member.toNat >>> (32 - b.length) <<< (32 - b.length) := by
    rw [Nat.shiftLeft_eq, Nat.shiftRight_eq_div_pow]
    rfl
  rw [hshift, Nat.testBit_shiftLeft, Nat.testBit_shiftRight]
  by_cases hi : 32 - b.length ≤ i
  · rw [Nat.add_sub_cancel' hi]
  · simp [hi]

theorem lists_addresses (b : Block) : b.Lists b.addresses := by
  refine ⟨b.first, ?_, b.testBit_first⟩
  rw [addresses, List.map_map]
  -- No address is past the last number.
  refine (List.map_congr_left fun n hn => ?_).trans (List.map_id _)
  have hlt : n < b.first + b.size := (List.mem_range'_1.1 hn).2
  exact Ipv4.toNat_ofNat (Nat.lt_of_lt_of_le hlt b.end_le)

theorem Lists.eq (h : b.Lists as) (h' : b.Lists as') : as = as' := by
  obtain ⟨first, hmap, hbits⟩ := h
  obtain ⟨first', hmap', hbits'⟩ := h'
  obtain rfl : first = first' := Nat.eq_of_testBit_eq fun i => by rw [hbits, hbits']
  exact List.map_injective_iff.2 (fun _ _ => Ipv4.eq_of_toNat_eq) (hmap.trans hmap'.symm)

/-- The addresses of a block are those that share the leading bits of its member. -/
theorem mem_addresses {a : Ipv4} : a ∈ b.addresses ↔ a.toNat / b.size = b.member.toNat / b.size := by
  have hsize : 0 < b.size := Nat.pow_pos (by decide)
  have hblock : a.toNat / b.size = b.member.toNat / b.size ↔ b.first ≤ a.toNat ∧ a.toNat < b.first + b.size := by
    rw [Nat.div_eq_iff hsize, Nat.le_sub_one_iff_lt (Nat.add_pos_right _ hsize)]
    rfl
  rw [hblock, addresses, List.mem_map]
  constructor
  · rintro ⟨n, hn, rfl⟩
    have hrange := List.mem_range'_1.1 hn
    rwa [Ipv4.toNat_ofNat (Nat.lt_of_lt_of_le hrange.2 b.end_le)]
  · intro hrange
    exact ⟨a.toNat, List.mem_range'_1.2 hrange, congrArg Ipv4.mk UInt32.ofNat_toNat⟩

theorem member_mem (b : Block) : b.member ∈ b.addresses := mem_addresses.2 rfl

/-- Every address of a block names it. -/
theorem addresses_congr (hlength : b'.length = b.length) (hmember : b'.member ∈ b.addresses) :
    b'.addresses = b.addresses := by
  have hsize : b'.size = b.size := by rw [size, size, hlength]
  have hfirst : b'.first = b.first := by rw [first, first, hsize, mem_addresses.1 hmember]
  rw [addresses, addresses, hfirst, hsize]

end Block

/-! ### Ranges -/

variable {range : String} {b b' : Block}

theorem Range.writes_iff : Writes range b ↔ Block.parse? (Text.trim range.toList) = some b := by
  simp only [Writes, ← Text.trim_eq_iff, exists_eq_left', Block.parse?_eq_some]

/-- A text writes one block at most. -/
theorem Range.Writes.unique (h : Writes range b) (h' : Writes range b') : b = b' :=
  Option.some.inj ((writes_iff.1 h).symm.trans (writes_iff.1 h'))

theorem expandAddresses_eq_ok {allowSmall : Bool} {as : List Ipv4} :
    expandAddresses range allowSmall = .ok as ↔ ∃ b, Writes range b ∧ b.Fits allowSmall ∧ b.addresses = as := by
  simp only [expandAddresses, Step.bind_eq_ok, Range.readBlock_eq_ok, Range.writes_iff, pure, Except.pure, Except.ok.injEq,
    and_assoc]

theorem exists_expandAddresses {allowSmall : Bool} :
    (∃ as, expandAddresses range allowSmall = .ok as) ↔ ∃ b, Writes range b ∧ b.Fits allowSmall := by
  simp only [expandAddresses_eq_ok]
  constructor
  · rintro ⟨_, b, hwrites, hfits, rfl⟩
    exact ⟨b, hwrites, hfits⟩
  · rintro ⟨b, hwrites, hfits⟩
    exact ⟨b.addresses, b, hwrites, hfits, rfl⟩

theorem exists_expandPairs {allowSmall : Bool} :
    (∃ pairs, expandPairs range allowSmall = .ok pairs) ↔ ∃ as, expandAddresses range allowSmall = .ok as := by
  constructor
  · rintro ⟨pairs, hpairs⟩
    exact ⟨_, expandPairs_eq_ok.1 hpairs⟩
  · rintro ⟨as, has⟩
    refine ⟨Range.pairUp as, ?_⟩
    rw [expandPairs, has]
    rfl

/-- Expanding a range of addresses is exact.  It succeeds exactly if the text writes a block that is large enough, and
then lists the addresses of the block, the one in the text among them.  Any other text that names the block by one of
its addresses has the same expansion.  Pairs are cut out of exactly these addresses in order, and each begins at an even
address and goes on with the next one. -/
theorem expandAddresses_exact (range : String) (allowSmall : Bool) :
    ((∃ as, expandAddresses range allowSmall = .ok as) ↔ ∃ b, Writes range b ∧ b.Fits allowSmall) ∧
    (∀ as, expandAddresses range allowSmall = .ok as ↔ ∃ b, Writes range b ∧ b.Fits allowSmall ∧ b.Lists as) ∧
    (∀ as b, expandAddresses range allowSmall = .ok as → Writes range b → b.member ∈ as ∧
      ∀ range' b', Writes range' b' → b'.length = b.length → b'.member ∈ as →
        expandAddresses range' allowSmall = .ok as) ∧
    ((∃ pairs, expandPairs range allowSmall = .ok pairs) ↔ ∃ as, expandAddresses range allowSmall = .ok as) ∧
    ∀ pairs, expandPairs range allowSmall = .ok pairs →
      expandAddresses range allowSmall = .ok (pairs.flatMap AddressPair.ends) ∧ ∀ p ∈ pairs, p.Aligned := by
  refine ⟨exists_expandAddresses, fun as => ?_, fun as b has hwrites => ⟨?_, fun range' b' hwrites' hlength hmember => ?_⟩,
    exists_expandPairs, fun pairs hpairs => ⟨expandPairs_eq_ok.1 hpairs, aligned_of_expandPairs hpairs⟩⟩
  · rw [expandAddresses_eq_ok]
    refine exists_congr fun b => and_congr_right fun _ => and_congr_right fun _ => ?_
    exact ⟨fun h => h ▸ b.lists_addresses, fun h => b.lists_addresses.eq h⟩
  · obtain ⟨b', hwrites', -, rfl⟩ := expandAddresses_eq_ok.1 has
    obtain rfl := hwrites.unique hwrites'
    exact b.member_mem
  · obtain ⟨b'', hwrites'', hfits, rfl⟩ := expandAddresses_eq_ok.1 has
    obtain rfl := hwrites.unique hwrites''
    exact expandAddresses_eq_ok.2 ⟨b', hwrites', by rwa [Block.Fits, hlength], Block.addresses_congr hlength hmember⟩

/-- Of `10.3.0.24/30`, another address in it has the same expansion, and it has pairs. -/
theorem expandAddresses_of_neighbor :
    ∃ as, expandAddresses "10.3.0.24/30" false = .ok as ∧ Ipv4.ofOctets 10 3 0 24 ∈ as ∧
      expandAddresses " 10.3.0.26/30 " false = .ok as ∧
      ∃ pairs, expandPairs "10.3.0.24/30" false = .ok pairs ∧ pairs.flatMap AddressPair.ends = as ∧
        ∀ p ∈ pairs, p.Aligned := by
  have hlength : 30 ≤ 32 := by decide
  have hwrites : Writes "10.3.0.24/30" ⟨.ofOctets 10 3 0 24, 30, hlength⟩ := Range.writes_iff.2 rfl
  have hneighbor : Writes " 10.3.0.26/30 " ⟨.ofOctets 10 3 0 26, 30, hlength⟩ := Range.writes_iff.2 rfl
  obtain ⟨hok, -, hmembers, hpairs, hcut⟩ := expandAddresses_exact "10.3.0.24/30" false
  obtain ⟨as, has⟩ := hok.2 ⟨_, hwrites, .inl (Nat.le_refl 30)⟩
  obtain ⟨pairs, hpairs⟩ := hpairs.2 ⟨as, has⟩
  obtain ⟨hmember, hsame⟩ := hmembers as _ has hwrites
  refine ⟨as, has, hmember, hsame _ _ hneighbor rfl ?_, pairs, hpairs, ?_, (hcut pairs hpairs).2⟩
  · obtain ⟨b, hb, -, rfl⟩ := expandAddresses_eq_ok.1 has
    obtain rfl := hb.unique hwrites
    have hleading : (Ipv4.ofOctets 10 3 0 26).toNat / 4 = (Ipv4.ofOctets 10 3 0 24).toNat / 4 := by decide
    exact Block.mem_addresses.2 hleading
  · exact Except.ok.inj ((hcut pairs hpairs).1.symm.trans has)

end FabricProvision

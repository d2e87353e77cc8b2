import FabricProvision.Address.Basic

/-!
# Blocks of addresses

A block `a.b.c.d/p` holds the addresses that share their first `p` bits with `a.b.c.d`: as many consecutive
addresses as the remaining bits can count, from the one where these bits are clear.
-/

namespace FabricProvision

/-- A block of addresses, given by any of its members. -/
structure Block where
  member : Ipv4
  /-- The number of shared bits. -/
  length : Nat
  length_le : length ≤ 32

namespace Block

/-- The number of addresses in the block. -/
def size (b : Block) : Nat := Nat.pow 2 (32 - b.length)

/-- The number of the block's first address. -/
def first (b : Block) : Nat := b.member.toNat / b.size * b.size

/-- The addresses of the block in ascending order. -/
def addresses (b : Block) : List Ipv4 := (List.range' b.first b.size).map Ipv4.ofNat

/-- Reads a block with nothing around it. -/
def parse? (cs : List Char) : Option Block :=
  match Ipv4.read cs with
  | some (member, '/' :: cs) =>
    match Ipv4.readField 2 33 cs with
    | some (length, []) => if h : length ≤ 32 then some ⟨member, length, h⟩ else none
    | _ => none
  | _ => none

end Block

end FabricProvision

import FabricProvision.Desired.Request
import FabricProvision.Proofs.Json.Codec

/-!
# Desired states are read back

Every type that a fabric description is made of is lawful, up to the request itself.  The names within each
enumeration differ, and each record is read component by component: a list, an optional donor and a set of update
bits are read back like any other component.
-/

namespace FabricProvision

open Json

/-! ### Vocabulary -/

instance : Lawful Change := ⟨fun c => by cases c <;> exact ofName?_name (by decide) (by decide)⟩
instance : Lawful Role := ⟨fun r => by cases r <;> exact ofName?_name (by decide) (by decide)⟩
instance : Lawful Topology := ⟨fun t => by cases t <;> exact ofName?_name (by decide) (by decide)⟩
instance : Lawful LinkAddressing := ⟨fun a => by cases a <;> exact ofName?_name (by decide) (by decide)⟩
instance : Lawful InterfaceKind := ⟨fun k => by cases k <;> exact ofName?_name (by decide) (by decide)⟩
instance : Lawful PeerKind := ⟨fun k => by cases k <;> exact ofName?_name (by decide) (by decide)⟩

instance : Lawful Credentials where
  decode?_encode c := by
    delta instEncodeCredentials instDecodeCredentials
    dsimp only
    simp

instance : Lawful Bfd where
  decode?_encode b := by
    delta instEncodeBfd instDecodeBfd
    dsimp only
    simp

instance : Lawful EvpnTimers where
  decode?_encode t := by
    delta instEncodeEvpnTimers instDecodeEvpnTimers
    dsimp only
    simp

/-! ### Clusters -/

instance : Lawful UpdateBits where
  decode?_encode a := by
    delta UpdateBits.instEncode UpdateBits.instDecode
    dsimp only
    rw [decode?_encode, Option.map_some]

instance : Lawful PeerInterface where
  decode?_encode p := by
    delta instEncodePeerInterface instDecodePeerInterface
    dsimp only
    simp

instance : Lawful ClusterNode where
  decode?_encode n := by
    delta instEncodeClusterNode instDecodeClusterNode
    dsimp only
    simp

instance : Lawful ClusterSpec where
  decode?_encode c := by
    delta ClusterSpec.instEncode ClusterSpec.instDecode
    dsimp only
    simp

instance : Lawful ClusterBatches where
  decode?_encode b := by
    delta ClusterBatches.instEncode ClusterBatches.instDecode
    dsimp only
    simp

instance : Lawful DataPlaneNode where
  decode?_encode n := by
    delta instEncodeDataPlaneNode instDecodeDataPlaneNode
    dsimp only
    simp

instance : Lawful DataPlaneSpec where
  decode?_encode d := by
    delta instEncodeDataPlaneSpec instDecodeDataPlaneSpec
    dsimp only
    simp

/-! ### Switches -/

instance : Lawful Donor where
  decode?_encode d := by
    delta instEncodeDonor instDecodeDonor
    dsimp only
    simp

instance : NonNull Donor := ⟨nofun⟩

instance : Lawful InterfaceSpec where
  decode?_encode i := by
    delta instEncodeInterfaceSpec instDecodeInterfaceSpec
    -- A donor that is not there is not written, and is read as the default.
    obtain ⟨name, kind, ip, donor, description, change⟩ := i
    cases donor <;> dsimp only [List.cons_append, List.nil_append] <;> simp

instance : Lawful NeighborSpec where
  decode?_encode n := by
    delta instEncodeNeighborSpec instDecodeNeighborSpec
    dsimp only
    simp

instance : Lawful BgpSpec where
  decode?_encode b := by
    delta instEncodeBgpSpec instDecodeBgpSpec
    dsimp only
    simp

instance : Lawful OverlaySpec where
  decode?_encode o := by
    delta instEncodeOverlaySpec instDecodeOverlaySpec
    dsimp only
    simp

instance : Lawful SwitchSpec where
  decode?_encode s := by
    delta SwitchSpec.instEncode SwitchSpec.instDecode
    dsimp only
    simp

/-! ### Requests -/

instance : Lawful FabricRequest where
  decode?_encode r := by
    delta FabricRequest.instEncode FabricRequest.instDecode
    dsimp only
    simp

end FabricProvision

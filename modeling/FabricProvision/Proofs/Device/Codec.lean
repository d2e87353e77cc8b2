import FabricProvision.Device.Network
import FabricProvision.Device.OperationJson
import FabricProvision.Proofs.Desired.Codec

/-!
# What devices exchange is read back

Operations and responses are alternatives: each is written under a name of its own, which leads back to it, and
the payload is read like a record.  With the objects that they carry, the seeds of devices and the requests for
fabrics, all that is written is read back as it was (`Json.values_read_back`).
-/

namespace FabricProvision

open Json

/-! ### Objects -/

instance : Lawful Redistribution := ⟨fun r => by cases r <;> exact ofName?_name (by decide) (by decide)⟩

instance : Lawful ClosBgp where
  decode?_encode b := by
    delta instEncodeClosBgp instDecodeClosBgp
    dsimp only
    simp

instance : Lawful NonClosBgp where
  decode?_encode b := by
    delta instEncodeNonClosBgp instDecodeNonClosBgp
    dsimp only
    simp

instance : Lawful BgpNeighbor where
  decode?_encode n := by
    delta instEncodeBgpNeighbor instDecodeBgpNeighbor
    dsimp only
    simp

instance : Lawful ClusterBinding where
  decode?_encode b := by
    delta instEncodeClusterBinding instDecodeClusterBinding
    dsimp only
    simp

instance : Lawful ClusterObject where
  decode?_encode c := by
    delta ClusterObject.instEncode ClusterObject.instDecode
    dsimp only
    simp

instance : NonNull ClusterObject := ⟨nofun⟩

instance : Lawful ClusterMember where
  decode?_encode m := by
    delta instEncodeClusterMember instDecodeClusterMember
    dsimp only
    simp

instance : Lawful ClusterStatus where
  decode?_encode s := by
    delta ClusterStatus.instEncode ClusterStatus.instDecode
    dsimp only
    simp

/-! ### Responses and seeds -/

instance : Lawful Response where
  decode?_encode r := by
    delta Response.instEncode Response.instDecode
    dsimp only
    cases r <;> simp only [alternative?_str_bind, alternative?_obj_bind] <;> simp

instance : Lawful Seed where
  decode?_encode s := by
    delta Seed.instEncode Seed.instDecode
    dsimp only
    simp

/-! ### Operations -/

namespace Operation

/-- The name and the payload of an operation lead back to it. -/
theorem ofPayload?_payload (op : Operation) : ofPayload? op.tag op.payload = some op := by
  delta ofPayload?
  -- The name selects the alternative, and each of its components is found under its own name.
  cases op <;> dsimp only [tag, payload] <;> simp

end Operation

instance : Lawful Operation where
  decode?_encode op := by
    -- The name is read on its own or as that of the only field, as it was written.
    have hread : (decode? (encode op) : Option Operation) = Operation.ofPayload? op.tag op.payload := by
      delta Operation.instEncode Operation.instDecode
      dsimp only
      cases op.payload <;> simp
    rw [hread, op.ofPayload?_payload]

/-- Operations, responses, seeds of devices and requests for fabrics are read back as they were written. -/
theorem Json.values_read_back :
    (∀ op : Operation, decode? (encode op) = some op) ∧ (∀ r : Response, decode? (encode r) = some r) ∧
      (∀ s : Seed, decode? (encode s) = some s) ∧ ∀ r : FabricRequest, decode? (encode r) = some r :=
  ⟨decode?_encode, decode?_encode, decode?_encode, decode?_encode⟩

end FabricProvision

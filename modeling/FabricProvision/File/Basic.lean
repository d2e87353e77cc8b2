import FabricProvision.Desired.Request
import FabricProvision.Device.Network
import FabricProvision.Duration.Reader
import FabricProvision.Pool.Group
import FabricProvision.Provision.Polling

/-!
# Fabric files

A fabric file names the fabric, the ranges of its pools, the desired state of its switches, and the changes to
its management clusters.  A state file lists what switches hold before a run.
-/

namespace FabricProvision

open Json (Encode Decode encode decode?)

/-- The settings of a fabric. -/
structure FabricSettings where
  name : String
  id : FabricId := 1
  topology : Topology := .clos
  polling : Polling := {}
deriving DecidableEq, Repr, Inhabited

instance : Encode FabricSettings where
  encode s := .obj [("name", encode s.name), ("id", encode s.id), ("fabric_type", encode s.topology),
    ("cluster_poll_interval", encode s.polling.interval), ("cluster_poll_timeout", encode s.polling.timeout)]

instance : Decode FabricSettings where
  decode? j := do
    let r ← Json.Record.ofJson? ["name", "id", "fabric_type", "cluster_poll_interval",
      "cluster_poll_timeout"] j
    return {
      name := ← r.get "name"
      id := ← r.getD "id" 1
      topology := ← r.getD "fabric_type" .clos
      polling := {
        interval := ← r.getD "cluster_poll_interval" (.ofSeconds 15)
        timeout := ← r.getD "cluster_poll_timeout" (.ofSeconds 90) } }

/-- The contents of a fabric file. -/
structure FabricFile where
  settings : FabricSettings
  pools : PoolSettings := {}
  switches : List SwitchSpec
  clusters : ClusterBatches := {}
deriving DecidableEq, Repr, Inhabited

instance : Decode FabricFile where
  decode? j := do
    let r ← Json.Record.ofJson? ["settings", "pools", "switches", "clusters"] j
    return {
      settings := ← r.get "settings"
      pools := ← r.getD "pools" {}
      switches := ← r.get "switches"
      clusters := ← r.getD "clusters" {} }

/-- What each switch holds before a run. -/
structure StateFile where
  seeds : List (String × Seed)
deriving DecidableEq, Repr, Inhabited

instance : Decode StateFile where
  decode? j := do
    let fields ← j.fields?
    return ⟨← fields.mapM fun (host, seed) => do return (host, ← decode? seed)⟩

/-- Seeds the switches of a network. -/
def StateFile.sow (f : StateFile) (n : Network) : Network :=
  f.seeds.foldl (fun n (host, seed) => n.seed host seed) n

end FabricProvision

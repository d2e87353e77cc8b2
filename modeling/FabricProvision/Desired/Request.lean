import FabricProvision.Desired.Switch

/-!
# Desired state of a fabric

A request names the fabric and lists its switches and the changes to its management clusters.
-/

namespace FabricProvision

open Json (Encode Decode encode)

/-- The desired state of a whole fabric. -/
structure FabricRequest where
  name : String
  topology : Topology := .clos
  switches : List SwitchSpec
  clusters : ClusterBatches := {}
deriving DecidableEq, Repr, Inhabited

namespace FabricRequest

/-- Every management address that a request names: the switches, the nodes of the clusters, and for each switch
the nodes of its data-plane clusters.  An address is listed as often as it is named. -/
def hosts (r : FabricRequest) : List String :=
  r.switches.map (·.host) ++ r.clusters.all.flatMap (·.hosts) ++
    r.switches.flatMap fun s => s.dataPlane.nodes.map (·.host) ++ s.staleDataPlane.nodes.map (·.host)

instance : Encode FabricRequest where
  encode r := .obj [("fabric_name", encode r.name), ("fabric_type", encode r.topology),
    ("switches", encode r.switches), ("clusters", encode r.clusters)]

instance : Decode FabricRequest where
  decode? j := do
    let r ← Json.Record.ofJson? ["fabric_name", "fabric_type", "switches", "clusters"] j
    return {
      name := ← r.get "fabric_name"
      topology := ← r.getD "fabric_type" .clos
      switches := ← r.get "switches"
      clusters := ← r.getD "clusters" {} }

end FabricRequest

end FabricProvision

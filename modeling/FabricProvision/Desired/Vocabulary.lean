import FabricProvision.Json.Record

/-!
# Vocabulary of the desired state

The small enumerations that a fabric description is written in, with their names in files and on devices.
-/

namespace FabricProvision

open Json (Encode Decode)

/-- What is to happen to one item of a switch: nothing is done for an item that is kept. -/
inductive Change where
  | create
  | update
  | delete
  | keep
deriving DecidableEq, Repr, Inhabited

namespace Change

/-- The name in a file. -/
def name : Change → String
  | create => "Create"
  | update => "Update"
  | delete => "Delete"
  | keep => "None"

instance : Encode Change := ⟨fun c => .str c.name⟩
instance : Decode Change := ⟨Json.ofName? name [create, update, delete, keep]⟩

end Change

/-- The role of a switch in its fabric. -/
inductive Role where
  | spine
  | leaf
  | rack
deriving DecidableEq, Repr, Inhabited

namespace Role

/-- The name of a role, which is also the category its numbers are drawn from. -/
def name : Role → String
  | spine => "Spine"
  | leaf => "Leaf"
  | rack => "Rack"

instance : Encode Role := ⟨fun r => .str r.name⟩
instance : Decode Role := ⟨Json.ofName? name [spine, leaf, rack]⟩

end Role

/-- The shape of a fabric: leaves under spines, or racks that peer with each other. -/
inductive Topology where
  | clos
  | nonClos
deriving DecidableEq, Repr, Inhabited

namespace Topology

/-- The name in a file. -/
def name : Topology → String
  | clos => "Clos"
  | nonClos => "NonClos"

/-- The role that carries the EVPN instance and the overlay gateway. -/
def overlayRole : Topology → Role
  | clos => .leaf
  | nonClos => .rack

instance : Encode Topology := ⟨fun t => .str t.name⟩
instance : Decode Topology := ⟨Json.ofName? name [clos, nonClos]⟩

end Topology

/-- How the links between switches are addressed. -/
inductive LinkAddressing where
  | numbered
  | unnumbered
deriving DecidableEq, Repr, Inhabited

namespace LinkAddressing

/-- The name in a file. -/
def name : LinkAddressing → String
  | numbered => "Numbered"
  | unnumbered => "Unnumbered"

instance : Encode LinkAddressing := ⟨fun a => .str a.name⟩
instance : Decode LinkAddressing := ⟨Json.ofName? name [numbered, unnumbered]⟩

end LinkAddressing

/-- The kinds of interfaces. -/
inductive InterfaceKind where
  | loopback
  | ethernet
  | ve
  | portChannel
deriving DecidableEq, Repr, Inhabited

namespace InterfaceKind

/-- The name in a file. -/
def name : InterfaceKind → String
  | loopback => "Loopback"
  | ethernet => "Ethernet"
  | ve => "Ve"
  | portChannel => "PortChannel"

/-- The name on a switch. -/
def text : InterfaceKind → String
  | loopback => "loopback"
  | ethernet => "ethernet"
  | ve => "ve"
  | portChannel => "port-channel"

instance : Encode InterfaceKind := ⟨fun k => .str k.name⟩
instance : Decode InterfaceKind := ⟨Json.ofName? name [loopback, ethernet, ve, portChannel]⟩

end InterfaceKind

/-- The kinds of BGP sessions; outside a Clos fabric the kind selects the peer group. -/
inductive PeerKind where
  | fabric
  | evpn
  | clusterLoopback
deriving DecidableEq, Repr, Inhabited

namespace PeerKind

/-- The name in a file. -/
def name : PeerKind → String
  | fabric => "Fabric"
  | evpn => "Evpn"
  | clusterLoopback => "MctL3Loopback"

instance : Encode PeerKind := ⟨fun k => .str k.name⟩
instance : Decode PeerKind := ⟨Json.ofName? name [fabric, evpn, clusterLoopback]⟩

end PeerKind

/-- What a session is opened with. -/
structure Credentials where
  username : String := ""
  password : String := ""
deriving DecidableEq, Repr, Inhabited

instance : Encode Credentials where
  encode c := .obj [("username", .str c.username), ("password", .str c.password)]

instance : Decode Credentials where
  decode? j := do
    let r ← Json.Record.ofJson? ["username", "password"] j
    return { username := ← r.getD "username" "", password := ← r.getD "password" "" }

/-- Settings of bidirectional forwarding detection. -/
structure Bfd where
  enabled : Bool := false
  tx : UInt32 := 0
  rx : UInt32 := 0
  multiplier : UInt32 := 0
deriving DecidableEq, Repr, Inhabited

instance : Encode Bfd where
  encode b := .obj [("enabled", Json.encode b.enabled), ("tx", Json.encode b.tx), ("rx", Json.encode b.rx),
    ("multiplier", Json.encode b.multiplier)]

instance : Decode Bfd where
  decode? j := do
    let r ← Json.Record.ofJson? ["enabled", "tx", "rx", "multiplier"] j
    return {
      enabled := ← r.getD "enabled" false
      tx := ← r.getD "tx" 0
      rx := ← r.getD "rx" 0
      multiplier := ← r.getD "multiplier" 0 }

/-- Ageing times of addresses and the limits of duplicate detection. -/
structure EvpnTimers where
  arpAging : UInt32 := 300
  macAging : UInt32 := 1800
  macAgingConversational : UInt32 := 300
  macMoveLimit : UInt32 := 20
  duplicateMacTimer : UInt32 := 5
  duplicateMacMaxCount : UInt32 := 3
deriving DecidableEq, Repr, Inhabited

instance : Encode EvpnTimers where
  encode t := .obj [("arp_aging_timeout", Json.encode t.arpAging), ("mac_aging_timeout", Json.encode t.macAging),
    ("mac_aging_conversational_timeout", Json.encode t.macAgingConversational),
    ("mac_move_limit", Json.encode t.macMoveLimit), ("duplicate_mac_timer", Json.encode t.duplicateMacTimer),
    ("duplicate_mac_timer_max_count", Json.encode t.duplicateMacMaxCount)]

instance : Decode EvpnTimers where
  decode? j := do
    let r ← Json.Record.ofJson? ["arp_aging_timeout", "mac_aging_timeout", "mac_aging_conversational_timeout",
      "mac_move_limit", "duplicate_mac_timer", "duplicate_mac_timer_max_count"] j
    return {
      arpAging := ← r.getD "arp_aging_timeout" 300
      macAging := ← r.getD "mac_aging_timeout" 1800
      macAgingConversational := ← r.getD "mac_aging_conversational_timeout" 300
      macMoveLimit := ← r.getD "mac_move_limit" 20
      duplicateMacTimer := ← r.getD "duplicate_mac_timer" 5
      duplicateMacMaxCount := ← r.getD "duplicate_mac_timer_max_count" 3 }

end FabricProvision

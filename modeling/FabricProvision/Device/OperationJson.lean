import FabricProvision.Device.Operation

/-!
# Operations as JSON

An operation is written as its name, or as an object whose only field is its name and holds its parameters.
-/

namespace FabricProvision

open Json (Encode Decode encode decode?)

namespace Operation

/-- The name of an operation in JSON. -/
def tag : Operation → String
  | .configureL2Mtu .. => "ConfigureSystemL2Mtu"
  | .configureIpMtu .. => "ConfigureSystemIpMtu"
  | .getAnycastGateway => "GetAnycastGateway"
  | .configureAnycastGateway .. => "ConfigureAnycastGateway"
  | .unconfigureAnycastGateway => "UnconfigureAnycastGateway"
  | .configureLoopback .. => "ConfigureInterfaceLoopback"
  | .deleteLoopback .. => "DeleteInterfaceLoopback"
  | .configureNumbered .. => "ConfigureInterfaceNumbered"
  | .unconfigureNumbered .. => "UnconfigureInterfaceNumbered"
  | .configureUnnumbered .. => "ConfigureInterfaceUnnumbered"
  | .unconfigureUnnumbered .. => "UnconfigureInterfaceUnnumbered"
  | .getInterface .. => "GetInterface"
  | .configureRouteMap => "ConfigureNumberedRouteMap"
  | .configureBgp .. => "ConfigureRouterBgp"
  | .configureNonClosBgp .. => "ConfigureNonClosRouterBgp"
  | .configureNeighbor .. => "ConfigureRouterBgpNeighbor"
  | .configureNonClosEvpnNeighbor .. => "ConfigureNonClosEvpnNeighbor"
  | .unconfigureNeighbor .. => "UnconfigureRouterBgpNeighbor"
  | .configureRouterId .. => "ConfigureRouterId"
  | .getNeighbors => "GetRouterBgp"
  | .getEncapsulation => "GetL2EvpnNeighborEncapType"
  | .configureL2EvpnNeighbor .. => "ConfigureL2EvpnNeighbor"
  | .unconfigureL2EvpnNeighbor .. => "UnconfigureL2EvpnNeighbor"
  | .configureMacAndArp .. => "ConfigureMacAndArp"
  | .getEvpnInstance => "GetEvpnInstance"
  | .createEvpnInstance .. => "CreateEvpnInstance"
  | .deleteEvpnInstance .. => "DeleteEvpnInstance"
  | .clearEvpnNeighbors => "ClearBgpEvpnNeighborAll"
  | .getOverlayGateway => "GetOverlayGateway"
  | .createOverlayGateway .. => "CreateOverlayGateway"
  | .deleteOverlayGateway .. => "DeleteOverlayGateway"
  | .persist => "PersistConfig"
  | .configureNodeId .. => "ConfigureNodeId"
  | .unconfigurePrincipalPriority .. => "UnconfigureNodePrincipalPriority"
  | .createControlVlan .. => "CreateClusterControlVlan"
  | .getControlVlan .. => "GetClusterControlVlan"
  | .deleteControlVe .. => "DeleteClusterControlVe"
  | .deleteControlVlan .. => "DeleteClusterControlVlan"
  | .createPortChannel .. => "CreateInterfacePo"
  | .addMember .. => "AddInterfaceToPo"
  | .deleteMember .. => "DeleteInterfaceFromPo"
  | .configureSpeed .. => "ConfigureInterfacePoSpeed"
  | .deletePortChannel .. => "DeleteInterfacePo"
  | .configureVe .. => "ConfigureInterfaceVe"
  | .getVe .. => "GetInterfaceVe"
  | .configureVeIp .. => "ConfigureInterfaceVeIp"
  | .unconfigureVeIp .. => "UnconfigureInterfaceVeIp"
  | .deleteVe .. => "DeleteInterfaceVe"
  | .configureRoute .. => "ConfigureIpRoute"
  | .deconfigureRoute .. => "DeconfigureIpRoute"
  | .createCluster .. => "CreateCluster"
  | .configureCluster .. => "ConfigureCluster"
  | .getCluster => "GetCluster"
  | .deleteCluster .. => "DeleteCluster"
  | .undeployCluster .. => "UndeployCluster"
  | .configurePeerIp .. => "ConfigureClusterPeerIp"
  | .unconfigurePeerIp .. => "UnconfigureClusterPeerIp"
  | .getClusterStatus => "GetManagementClusterStatus"

/-- The payload of an operation in JSON; `none` for an operation without one. -/
def payload : Operation → Option Json
  | .configureL2Mtu mtu => some (.obj [("mtu", encode mtu)])
  | .configureIpMtu mtu => some (.obj [("mtu", encode mtu)])
  | .configureAnycastGateway mac ipv6Mac =>
    some (.obj [("ipv4_mac", encode mac), ("ipv6_mac", encode ipv6Mac)])
  | .configureLoopback name ip => some (.obj [("name", encode name), ("ip", encode ip)])
  | .deleteLoopback name => some (.obj [("name", encode name)])
  | .configureNumbered kind name ip description =>
    some (.obj [("interface_type", encode kind), ("name", encode name), ("ip", encode ip),
      ("description", encode description)])
  | .unconfigureNumbered kind name ip =>
    some (.obj [("interface_type", encode kind), ("name", encode name), ("ip", encode ip)])
  | .configureUnnumbered kind name donorKind donorName =>
    some (.obj [("interface_type", encode kind), ("name", encode name), ("donor_type", encode donorKind),
      ("donor_name", encode donorName)])
  | .unconfigureUnnumbered kind name => some (.obj [("interface_type", encode kind), ("name", encode name)])
  | .getInterface kind name => some (.obj [("interface_type", encode kind), ("name", encode name)])
  | .configureBgp bgp => some (encode bgp)
  | .configureNonClosBgp bgp => some (encode bgp)
  | .configureNeighbor neighbor => some (encode neighbor)
  | .configureNonClosEvpnNeighbor address remoteAs peerGroup description sourceLoopback multihop =>
    some (.obj [("address", encode address), ("remote_as", encode remoteAs), ("peer_group", encode peerGroup),
      ("peer_group_description", encode description), ("update_source_loopback", encode sourceLoopback),
      ("multihop", encode multihop)])
  | .unconfigureNeighbor address remoteAs peerGroup =>
    some (.obj [("address", encode address), ("remote_as", encode remoteAs), ("peer_group", encode peerGroup)])
  | .configureRouterId routerId => some (.obj [("router_id", encode routerId)])
  | .configureL2EvpnNeighbor peerIp peerLoopbackIp loopbackNumber peerAsn encapsulation bfdEnabled =>
    some (.obj [("peer_ip", encode peerIp), ("peer_loopback_ip", encode peerLoopbackIp),
      ("loopback_number", encode loopbackNumber), ("peer_asn", encode peerAsn),
      ("encapsulation", encode encapsulation), ("bfd_enabled", encode bfdEnabled)])
  | .unconfigureL2EvpnNeighbor peerIp peerLoopbackIp =>
    some (.obj [("peer_ip", encode peerIp), ("peer_loopback_ip", encode peerLoopbackIp)])
  | .configureMacAndArp timers => some (encode timers)
  | .createEvpnInstance name duplicateMacTimer duplicateMacMaxCount =>
    some (.obj [("name", encode name), ("duplicate_mac_timer", encode duplicateMacTimer),
      ("duplicate_mac_timer_max_count", encode duplicateMacMaxCount)])
  | .deleteEvpnInstance name => some (.obj [("name", encode name)])
  | .createOverlayGateway name gatewayType loopbackId vniAutoMap =>
    some (.obj [("name", encode name), ("gateway_type", encode gatewayType), ("loopback_id", encode loopbackId),
      ("vni_auto_map", encode vniAutoMap)])
  | .deleteOverlayGateway name => some (.obj [("name", encode name)])
  | .configureNodeId nodeId => some (.obj [("node_id", encode nodeId)])
  | .unconfigurePrincipalPriority nodeId => some (.obj [("node_id", encode nodeId)])
  | .createControlVlan vlan ve description =>
    some (.obj [("vlan", encode vlan), ("ve", encode ve), ("description", encode description)])
  | .getControlVlan vlan => some (.obj [("vlan", encode vlan)])
  | .deleteControlVe vlan ve => some (.obj [("vlan", encode vlan), ("ve", encode ve)])
  | .deleteControlVlan vlan => some (.obj [("vlan", encode vlan)])
  | .createPortChannel name speed description controlVlan =>
    some (.obj [("name", encode name), ("speed", encode speed), ("description", encode description),
      ("control_vlan", encode controlVlan)])
  | .addMember member portChannel speed =>
    some (.obj [("member", encode member), ("port_channel", encode portChannel), ("speed", encode speed)])
  | .deleteMember member portChannel =>
    some (.obj [("member", encode member), ("port_channel", encode portChannel)])
  | .configureSpeed portChannel speed =>
    some (.obj [("port_channel", encode portChannel), ("speed", encode speed)])
  | .deletePortChannel name => some (.obj [("name", encode name)])
  | .configureVe ve ip bfd => some (.obj [("ve", encode ve), ("ip", encode ip), ("bfd", encode bfd)])
  | .getVe ve => some (.obj [("ve", encode ve)])
  | .configureVeIp ve ip => some (.obj [("ve", encode ve), ("ip", encode ip)])
  | .unconfigureVeIp ve ip => some (.obj [("ve", encode ve), ("ip", encode ip)])
  | .deleteVe ve => some (.obj [("ve", encode ve)])
  | .configureRoute destination nextHop =>
    some (.obj [("prefix", encode destination), ("next_hop", encode nextHop)])
  | .deconfigureRoute destination nextHop =>
    some (.obj [("prefix", encode destination), ("next_hop", encode nextHop)])
  | .createCluster name id peerKind peerName peerIp =>
    some (.obj [("name", encode name), ("id", encode id), ("peer_interface_type", encode peerKind),
      ("peer_interface_name", encode peerName), ("peer_ip", encode peerIp)])
  | .configureCluster binding => some (encode binding)
  | .deleteCluster name id => some (.obj [("name", encode name), ("id", encode id)])
  | .undeployCluster name id => some (.obj [("name", encode name), ("id", encode id)])
  | .configurePeerIp name id peerIp =>
    some (.obj [("name", encode name), ("id", encode id), ("peer_ip", encode peerIp)])
  | .unconfigurePeerIp name id peerIp =>
    some (.obj [("name", encode name), ("id", encode id), ("peer_ip", encode peerIp)])
  | _ => none

instance : Encode Operation where
  encode op :=
    match op.payload with
    | some payload => .obj [(op.tag, payload)]
    | none => .str op.tag

/-- The operation of a name and a payload. -/
def ofPayload? (tag : String) (payload : Option Json) : Option Operation :=
  match tag with
  | "ConfigureSystemL2Mtu" => do
    let r ← Json.components? payload
    return .configureL2Mtu (← r.get "mtu")
  | "ConfigureSystemIpMtu" => do
    let r ← Json.components? payload
    return .configureIpMtu (← r.get "mtu")
  | "GetAnycastGateway" => Json.bare? .getAnycastGateway payload
  | "ConfigureAnycastGateway" => do
    let r ← Json.components? payload
    return .configureAnycastGateway (← r.get "ipv4_mac") (← r.get "ipv6_mac")
  | "UnconfigureAnycastGateway" => Json.bare? .unconfigureAnycastGateway payload
  | "ConfigureInterfaceLoopback" => do
    let r ← Json.components? payload
    return .configureLoopback (← r.get "name") (← r.get "ip")
  | "DeleteInterfaceLoopback" => do
    let r ← Json.components? payload
    return .deleteLoopback (← r.get "name")
  | "ConfigureInterfaceNumbered" => do
    let r ← Json.components? payload
    return .configureNumbered (← r.get "interface_type") (← r.get "name") (← r.get "ip")
      (← r.get "description")
  | "UnconfigureInterfaceNumbered" => do
    let r ← Json.components? payload
    return .unconfigureNumbered (← r.get "interface_type") (← r.get "name") (← r.get "ip")
  | "ConfigureInterfaceUnnumbered" => do
    let r ← Json.components? payload
    return .configureUnnumbered (← r.get "interface_type") (← r.get "name") (← r.get "donor_type")
      (← r.get "donor_name")
  | "UnconfigureInterfaceUnnumbered" => do
    let r ← Json.components? payload
    return .unconfigureUnnumbered (← r.get "interface_type") (← r.get "name")
  | "GetInterface" => do
    let r ← Json.components? payload
    return .getInterface (← r.get "interface_type") (← r.get "name")
  | "ConfigureNumberedRouteMap" => Json.bare? .configureRouteMap payload
  | "ConfigureRouterBgp" => do return .configureBgp (← decode? (← payload))
  | "ConfigureNonClosRouterBgp" => do return .configureNonClosBgp (← decode? (← payload))
  | "ConfigureRouterBgpNeighbor" => do return .configureNeighbor (← decode? (← payload))
  | "ConfigureNonClosEvpnNeighbor" => do
    let r ← Json.components? payload
    return .configureNonClosEvpnNeighbor (← r.get "address") (← r.get "remote_as") (← r.get "peer_group")
      (← r.get "peer_group_description") (← r.get "update_source_loopback") (← r.get "multihop")
  | "UnconfigureRouterBgpNeighbor" => do
    let r ← Json.components? payload
    return .unconfigureNeighbor (← r.get "address") (← r.get "remote_as") (← r.get? "peer_group")
  | "ConfigureRouterId" => do
    let r ← Json.components? payload
    return .configureRouterId (← r.get "router_id")
  | "GetRouterBgp" => Json.bare? .getNeighbors payload
  | "GetL2EvpnNeighborEncapType" => Json.bare? .getEncapsulation payload
  | "ConfigureL2EvpnNeighbor" => do
    let r ← Json.components? payload
    return .configureL2EvpnNeighbor (← r.get "peer_ip") (← r.get "peer_loopback_ip")
      (← r.get "loopback_number") (← r.get "peer_asn") (← r.get "encapsulation") (← r.get "bfd_enabled")
  | "UnconfigureL2EvpnNeighbor" => do
    let r ← Json.components? payload
    return .unconfigureL2EvpnNeighbor (← r.get "peer_ip") (← r.get "peer_loopback_ip")
  | "ConfigureMacAndArp" => do return .configureMacAndArp (← decode? (← payload))
  | "GetEvpnInstance" => Json.bare? .getEvpnInstance payload
  | "CreateEvpnInstance" => do
    let r ← Json.components? payload
    return .createEvpnInstance (← r.get "name") (← r.get "duplicate_mac_timer")
      (← r.get "duplicate_mac_timer_max_count")
  | "DeleteEvpnInstance" => do
    let r ← Json.components? payload
    return .deleteEvpnInstance (← r.get "name")
  | "ClearBgpEvpnNeighborAll" => Json.bare? .clearEvpnNeighbors payload
  | "GetOverlayGateway" => Json.bare? .getOverlayGateway payload
  | "CreateOverlayGateway" => do
    let r ← Json.components? payload
    return .createOverlayGateway (← r.get "name") (← r.get "gateway_type") (← r.get "loopback_id")
      (← r.get "vni_auto_map")
  | "DeleteOverlayGateway" => do
    let r ← Json.components? payload
    return .deleteOverlayGateway (← r.get "name")
  | "PersistConfig" => Json.bare? .persist payload
  | "ConfigureNodeId" => do
    let r ← Json.components? payload
    return .configureNodeId (← r.get "node_id")
  | "UnconfigureNodePrincipalPriority" => do
    let r ← Json.components? payload
    return .unconfigurePrincipalPriority (← r.get "node_id")
  | "CreateClusterControlVlan" => do
    let r ← Json.components? payload
    return .createControlVlan (← r.get "vlan") (← r.get "ve") (← r.get "description")
  | "GetClusterControlVlan" => do
    let r ← Json.components? payload
    return .getControlVlan (← r.get "vlan")
  | "DeleteClusterControlVe" => do
    let r ← Json.components? payload
    return .deleteControlVe (← r.get "vlan") (← r.get "ve")
  | "DeleteClusterControlVlan" => do
    let r ← Json.components? payload
    return .deleteControlVlan (← r.get "vlan")
  | "CreateInterfacePo" => do
    let r ← Json.components? payload
    return .createPortChannel (← r.get "name") (← r.get "speed") (← r.get "description")
      (← r.get "control_vlan")
  | "AddInterfaceToPo" => do
    let r ← Json.components? payload
    return .addMember (← r.get "member") (← r.get "port_channel") (← r.get "speed")
  | "DeleteInterfaceFromPo" => do
    let r ← Json.components? payload
    return .deleteMember (← r.get "member") (← r.get "port_channel")
  | "ConfigureInterfacePoSpeed" => do
    let r ← Json.components? payload
    return .configureSpeed (← r.get "port_channel") (← r.get "speed")
  | "DeleteInterfacePo" => do
    let r ← Json.components? payload
    return .deletePortChannel (← r.get "name")
  | "ConfigureInterfaceVe" => do
    let r ← Json.components? payload
    return .configureVe (← r.get "ve") (← r.get "ip") (← r.get "bfd")
  | "GetInterfaceVe" => do
    let r ← Json.components? payload
    return .getVe (← r.get "ve")
  | "ConfigureInterfaceVeIp" => do
    let r ← Json.components? payload
    return .configureVeIp (← r.get "ve") (← r.get "ip")
  | "UnconfigureInterfaceVeIp" => do
    let r ← Json.components? payload
    return .unconfigureVeIp (← r.get "ve") (← r.get "ip")
  | "DeleteInterfaceVe" => do
    let r ← Json.components? payload
    return .deleteVe (← r.get "ve")
  | "ConfigureIpRoute" => do
    let r ← Json.components? payload
    return .configureRoute (← r.get "prefix") (← r.get "next_hop")
  | "DeconfigureIpRoute" => do
    let r ← Json.components? payload
    return .deconfigureRoute (← r.get "prefix") (← r.get "next_hop")
  | "CreateCluster" => do
    let r ← Json.components? payload
    return .createCluster (← r.get "name") (← r.get "id") (← r.get "peer_interface_type")
      (← r.get "peer_interface_name") (← r.get "peer_ip")
  | "ConfigureCluster" => do return .configureCluster (← decode? (← payload))
  | "GetCluster" => Json.bare? .getCluster payload
  | "DeleteCluster" => do
    let r ← Json.components? payload
    return .deleteCluster (← r.get "name") (← r.get "id")
  | "UndeployCluster" => do
    let r ← Json.components? payload
    return .undeployCluster (← r.get "name") (← r.get "id")
  | "ConfigureClusterPeerIp" => do
    let r ← Json.components? payload
    return .configurePeerIp (← r.get "name") (← r.get "id") (← r.get "peer_ip")
  | "UnconfigureClusterPeerIp" => do
    let r ← Json.components? payload
    return .unconfigurePeerIp (← r.get "name") (← r.get "id") (← r.get "peer_ip")
  | "GetManagementClusterStatus" => Json.bare? .getClusterStatus payload
  | _ => none

instance : Decode Operation where
  decode? j := do
    let (tag, payload) ← Json.alternative? j
    ofPayload? tag payload

end Operation

end FabricProvision

import FabricProvision.Device.Operation

/-!
# Unique objects

The objects of which a switch holds at most one, the operation that looks each up, and the one that deletes it.
-/

namespace FabricProvision

/-- An object of which a switch holds at most one. -/
inductive UniqueObject where
  | overlayGateway
  | evpnInstance
  | anycastGateway
deriving DecidableEq, Repr, Inhabited

namespace UniqueObject

/-- What messages call the object. -/
def noun : UniqueObject → String
  | overlayGateway => "Overlay gateway"
  | evpnInstance => "EVPN"
  | anycastGateway => "Anycast gateway MAC"

/-- The question for the object's name. -/
def lookup : UniqueObject → Operation
  | overlayGateway => .getOverlayGateway
  | evpnInstance => .getEvpnInstance
  | anycastGateway => .getAnycastGateway

/-- The deletion of the object that has the name `existing`. -/
def deletion (object : UniqueObject) (existing : String) : Operation :=
  match object with
  | overlayGateway => .deleteOverlayGateway existing
  | evpnInstance => .deleteEvpnInstance existing
  | anycastGateway => .unconfigureAnycastGateway

end UniqueObject

end FabricProvision

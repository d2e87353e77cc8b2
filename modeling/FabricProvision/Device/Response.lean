import FabricProvision.Device.Object
import FabricProvision.Text.Quoted

/-!
# Responses

What a switch answers to an operation, how an answer is read by whoever expects one of a certain form, and what
can go wrong in a session.
-/

namespace FabricProvision

open Json (Encode Decode encode decode?)

/-- The answer of a switch to an operation. -/
inductive Response where
  | ok
  /-- The name of an object that a switch holds at most one of. -/
  | named (name : Option String)
  /-- The address of an interface. -/
  | address (ip : Option String)
  | text (value : String)
  | neighbors (addresses : List String)
  | cluster (object : Option ClusterObject)
  /-- The VE bound to a control VLAN. -/
  | controlVe (ve : Option UInt16)
  | clusterStatus (status : ClusterStatus)
deriving DecidableEq, Repr, Inhabited

namespace Response

instance : Encode Response where
  encode
    | .ok => .str "Ok"
    | .named name => .obj [("Named", encode name)]
    | .address ip => .obj [("Address", encode ip)]
    | .text s => .obj [("Text", encode s)]
    | .neighbors addresses => .obj [("Neighbors", encode addresses)]
    | .cluster c => .obj [("Cluster", encode c)]
    | .controlVe ve => .obj [("ControlVe", encode ve)]
    | .clusterStatus status => .obj [("ClusterStatus", encode status)]

instance : Decode Response where
  decode? j := do
    let (tag, payload) ← Json.alternative? j
    match tag with
    | "Ok" => Json.bare? .ok payload
    | "Named" => do return .named (← decode? (← payload))
    | "Address" => do return .address (← decode? (← payload))
    | "Text" => do return .text (← decode? (← payload))
    | "Neighbors" => do return .neighbors (← decode? (← payload))
    | "Cluster" => do return .cluster (← decode? (← payload))
    | "ControlVe" => do return .controlVe (← decode? (← payload))
    | "ClusterStatus" => do return .clusterStatus (← decode? (← payload))
    | _ => none

/-! ### Full form -/

/-- A name with its payload in parentheses. -/
def applied (name payload : String) : String := name ++ "(" ++ payload ++ ")"

/-- A name with its fields in braces. -/
def record (name : String) (fields : List (String × String)) : String :=
  name ++ " \x7b " ++ ", ".intercalate (fields.map fun (field, value) => field ++ ": " ++ value) ++ " \x7d"

/-- Items in brackets. -/
def bracketed (items : List String) : String := "[" ++ ", ".intercalate items ++ "]"

/-- An optional item. -/
def optional {α : Type} (item : α → String) : Option α → String
  | some a => applied "Some" (item a)
  | none => "None"

/-- A cluster object in full. -/
def clusterText (c : ClusterObject) : String :=
  record "ClusterState" [("name", Text.quote c.name), ("id", toString c.id.toNat),
    ("control_vlan", optional (fun vlan => toString vlan.toNat) c.controlVlan),
    ("peer_interface_type", Text.quote c.peerKind), ("peer_interface_name", Text.quote c.peerName),
    ("peer_ip", Text.quote c.peerIp)]

/-- A member of a cluster in full. -/
def memberText (m : ClusterMember) : String :=
  record "ManagementClusterMember" [("mgmt_ip", Text.quote m.host), ("is_principal", toString m.isPrincipal)]

/-- The status of a cluster in full. -/
def statusText (s : ClusterStatus) : String :=
  record "ManagementClusterStatus" [("members", bracketed (s.members.map memberText))]

/-- A response in full, as messages about an unexpected one show it. -/
def fullText : Response → String
  | ok => "Ok"
  | named name => applied "Named" (optional Text.quote name)
  | address ip => applied "Address" (optional Text.quote ip)
  | text s => applied "Text" (Text.quote s)
  | neighbors addresses => applied "Neighbors" (bracketed (addresses.map Text.quote))
  | cluster c => applied "Cluster" (optional clusterText c)
  | controlVe ve => applied "ControlVe" (optional (fun ve => toString ve.toNat) ve)
  | clusterStatus status => applied "ClusterStatus" (statusText status)

end Response

/-! ### Failures -/

/-- What can go wrong between the library and a switch. -/
inductive DeviceError where
  /-- No session could be opened. -/
  | login (host reason : String)
  /-- The switch refused an operation. -/
  | rejected (operation reason : String)
  /-- The answer to an operation was of another form than expected. -/
  | unexpectedResponse (operation response : String)
deriving DecidableEq, Repr

/-- The wording of a failure. -/
def DeviceError.message : DeviceError → String
  | .login host reason => s!"login to {host} failed: {reason}"
  | .rejected operation reason => s!"{operation} failed: {reason}"
  | .unexpectedResponse operation response => s!"{operation} returned an unexpected response {response}"

namespace Response

/-! ### Reading a response as the form it should have -/

/-- The failure of a response to have the form that `operation` leads to. -/
def unexpected {α : Type} (r : Response) (operation : String) : Except DeviceError α :=
  .error (.unexpectedResponse operation r.fullText)

/-- A name; an empty one counts as absent. -/
def toName (r : Response) (operation : String) : Except DeviceError (Option String) :=
  match r with
  | named name => .ok (name.filter (!·.isEmpty))
  | r => r.unexpected operation

/-- An address; an empty one counts as absent. -/
def toAddress (r : Response) (operation : String) : Except DeviceError (Option String) :=
  match r with
  | address ip => .ok (ip.filter (!·.isEmpty))
  | r => r.unexpected operation

/-- A text. -/
def toText (r : Response) (operation : String) : Except DeviceError String :=
  match r with
  | text s => .ok s
  | r => r.unexpected operation

/-- The addresses of neighbors. -/
def toNeighbors (r : Response) (operation : String) : Except DeviceError (List String) :=
  match r with
  | neighbors addresses => .ok addresses
  | r => r.unexpected operation

/-- A cluster object. -/
def toCluster (r : Response) (operation : String) : Except DeviceError (Option ClusterObject) :=
  match r with
  | cluster c => .ok c
  | r => r.unexpected operation

/-- The VE of a control VLAN. -/
def toControlVe (r : Response) (operation : String) : Except DeviceError (Option UInt16) :=
  match r with
  | controlVe ve => .ok ve
  | r => r.unexpected operation

/-- The status of a cluster. -/
def toClusterStatus (r : Response) (operation : String) : Except DeviceError ClusterStatus :=
  match r with
  | clusterStatus status => .ok status
  | r => r.unexpected operation

end Response

end FabricProvision

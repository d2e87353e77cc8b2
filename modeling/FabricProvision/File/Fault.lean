import FabricProvision.File.Basic
import FabricProvision.File.Text
import FabricProvision.Provision.Cluster
import FabricProvision.Text.Quoted

/-!
# Faults of fabric files

A file that can be read may still ask for something impossible.  `FabricFile.faults` lists what is wrong with it
in the order of the file; `FabricFile.validate` reports the first of these faults.
-/

namespace FabricProvision

/-! ### Switches -/

/-- What is wrong with a switch. -/
inductive SwitchFault where
  | emptyHost
  | repeatedHost
  | anycastMac (mac : String)
  | ipv6AnycastMac (mac : String)
  | malformedAddress (interface : InterfaceSpec)
  | missingAddress (interface : InterfaceSpec)
deriving DecidableEq, Repr

/-- The wording of a fault. -/
def SwitchFault.message : SwitchFault → String
  | .emptyHost => "host cannot be empty"
  | .repeatedHost => "host is listed more than once"
  | .anycastMac mac => s!"anycast_mac {Text.quote mac} is not of the form xxxx.xxxx.xxxx"
  | .ipv6AnycastMac mac => s!"ipv6_anycast_mac {Text.quote mac} is not of the form xxxx.xxxx.xxxx"
  | .malformedAddress i => s!"interface {i.kind.text} {i.name} has malformed address {i.ip}"
  | .missingAddress i => s!"interface {i.kind.text} {i.name} needs an address or a donor"

/-- Whether the character is an ASCII hexadecimal digit. -/
def isHexDigit (c : Char) : Bool :=
  ('0' ≤ c && c ≤ '9') || ('a' ≤ c && c ≤ 'f') || ('A' ≤ c && c ≤ 'F')

/-- Whether the text is a MAC address: three groups of four hexadecimal digits with points between. -/
def isMac (mac : String) : Bool :=
  match mac.toList with
  | [a, b, c, d, '.', e, f, g, h, '.', i, j, k, l] => [a, b, c, d, e, f, g, h, i, j, k, l].all isHexDigit
  | _ => false

/-- What is wrong with the MAC addresses of an overlay. -/
def OverlaySpec.faults (o : OverlaySpec) : List SwitchFault :=
  if !o.enabled then []
  else
    (if isMac o.anycastMac then [] else [.anycastMac o.anycastMac]) ++
      if o.ipv6AnycastMac.isEmpty || isMac o.ipv6AnycastMac then [] else [.ipv6AnycastMac o.ipv6AnycastMac]

/-- What is wrong with an interface: without a donor, its address has to be well formed, and only a loopback may
be without one. -/
def InterfaceSpec.faults (i : InterfaceSpec) : List SwitchFault :=
  if i.donor.isSome then []
  else if i.ip.isEmpty then if i.kind = .loopback then [] else [.missingAddress i]
  else if (Block.parse? i.ip.toList).isSome then [] else [.malformedAddress i]

/-- What is wrong with a switch that is listed after the hosts `before`. -/
def SwitchSpec.faults (before : List String) (s : SwitchSpec) : List SwitchFault :=
  (if s.host.isEmpty then [.emptyHost] else []) ++ (if before.contains s.host then [.repeatedHost] else []) ++
    s.overlay.faults ++ s.interfaces.flatMap (·.faults)

/-! ### Clusters -/

/-- What is wrong with a management cluster. -/
inductive ClusterFault where
  | emptyName
  | noNodes
  | tooManyNodes
deriving DecidableEq, Repr

/-- The wording of a fault. -/
def ClusterFault.message : ClusterFault → String
  | .emptyName => "cluster name cannot be empty"
  | .noNodes => "cluster has no member nodes"
  | .tooManyNodes => ClusterSpec.tooManyNodes

/-- What is wrong with a management cluster. -/
def ClusterSpec.faults (c : ClusterSpec) : List ClusterFault :=
  (if c.name.isEmpty then [.emptyName] else []) ++ (if c.nodes.isEmpty then [.noNodes] else []) ++
    if ClusterSpec.maxNodes < c.nodes.length then [.tooManyNodes] else []

/-! ### Files -/

/-- What is wrong with a file. -/
inductive FileFault where
  | emptyName
  | polling (polling : Polling)
  | badRange (kind : Kind) (category : String) (cause : RangeError)
  | switch (host : String) (fault : SwitchFault)
  | cluster (name : String) (fault : ClusterFault)
deriving DecidableEq, Repr

namespace FileFault

/-- What faults of ranges call a pool. -/
def poolName : Kind → String
  | .number => "ASN"
  | .address => "IP"
  | .link => "IP pair"

/-- The wording of a fault. -/
def message : FileFault → String
  | emptyName => "Invalid fabric settings: fabric name cannot be empty"
  | polling p =>
    s!"Invalid fabric settings: cluster_poll_interval {p.interval.decimal} must be non-zero and not exceed " ++
      s!"cluster_poll_timeout {p.timeout.decimal}"
  | badRange kind category cause => s!"Invalid pool range: {poolName kind} {category}: {cause.message}"
  | switch host fault => s!"Invalid switch {host}: {fault.message}"
  | cluster name fault => s!"Invalid cluster {name}: {fault.message}"

end FileFault

namespace FabricSettings

/-- What is wrong with the settings. -/
def faults (s : FabricSettings) : List FileFault :=
  (if s.name.isEmpty then [.emptyName] else []) ++
    if s.polling.interval.nanos = 0 ∨ s.polling.timeout < s.polling.interval then [.polling s.polling] else []

end FabricSettings

namespace PoolSettings

/-- What is wrong with a range. -/
def rangeFaults (k : Kind) (r : PoolRange) : List FileFault :=
  match k.expand r.range r.allowSmall with
  | .ok _ => []
  | .error cause => [.badRange k r.category cause]

/-- What is wrong with the ranges. -/
def faults (s : PoolSettings) : List FileFault :=
  s.numbers.flatMap (rangeFaults .number) ++ s.addresses.flatMap (rangeFaults .address) ++
    s.links.flatMap (rangeFaults .link)

end PoolSettings

namespace FabricFile

/-- What is wrong with switches that are listed after the hosts `before`. -/
def switchFaults (before : List String) : List SwitchSpec → List FileFault
  | [] => []
  | s :: rest => (s.faults before).map (.switch s.host) ++ switchFaults (s.host :: before) rest

/-- What is wrong with a file, in the order of the file. -/
def faults (f : FabricFile) : List FileFault :=
  f.settings.faults ++ f.pools.faults ++ switchFaults [] f.switches ++
    f.clusters.all.flatMap fun c => c.faults.map (.cluster c.name)

/-- Accepts a file without faults, and otherwise reports the first fault. -/
def validate (f : FabricFile) : Except FileFault Unit :=
  match f.faults with
  | [] => .ok ⟨⟩
  | fault :: _ => .error fault

end FabricFile

/-- Why a fabric file cannot be used. -/
inductive LoadError where
  /-- The text holds no fabric file. -/
  | malformed
  | invalid (fault : FileFault)
deriving DecidableEq, Repr

/-- The wording of a failure to load a file. -/
def LoadError.message : LoadError → String
  | .malformed => "malformed fabric file"
  | .invalid fault => fault.message

/-- Reads and validates a fabric file. -/
def FabricFile.load (text : String) : Except LoadError FabricFile :=
  match (File.value? text).bind Json.decode? with
  | none => .error .malformed
  | some (f : FabricFile) =>
    match f.validate with
    | .ok _ => .ok f
    | .error fault => .error (.invalid fault)

/-- Reads a state file. -/
def StateFile.load? (text : String) : Option StateFile := (File.value? text).bind Json.decode?

end FabricProvision

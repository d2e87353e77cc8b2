import FabricProvision.File.Basic

/-!
# Allocation

A fabric file becomes a request by filling in what it leaves unset.  Switches are numbered from one in the
order of the file.  A switch without a number gets one from the pool of its role, and a given number is
reserved there; a loopback without an address gets one from the pool of loopbacks; empty fabric names become
the name of the fabric.
-/

namespace FabricProvision

/-- The category that the addresses of loopbacks are drawn from. -/
def loopbackCategory : String := "Loopback"

/-- The text, or `name` if it is empty. -/
def orName (name text : String) : String := if text.isEmpty then name else text

namespace InterfaceSpec

/-- The number of an interface of that name at that position: the number it is named by, if it is. -/
def number (position : Nat) (i : InterfaceSpec) : UInt32 :=
  match Text.readUInt32 i.name.toList with
  | .ok n => n
  | .error _ => UInt32.ofNat position

/-- Whether the interface is a loopback that waits for an address. -/
def needsAddress (i : InterfaceSpec) : Bool := i.kind == .loopback && i.ip.isEmpty

/-- Gives an address to a loopback that waits for one. -/
def allocate (fabric : FabricId) (device : UInt32) (position : Nat) (i : InterfaceSpec) :
    PoolsM InterfaceSpec := do
  if i.needsAddress then
    let owner : InterfaceRef := ⟨device, i.number position⟩
    let address : Ipv4 ← Pools.onPool .address (Pool.draw fabric loopbackCategory owner)
    return { i with ip := address.text ++ "/32" }
  else return i

/-- Gives addresses to the loopbacks of a device that wait for one; `position` is that of the first
interface. -/
def allocateAll (fabric : FabricId) (device : UInt32) (position : Nat) :
    List InterfaceSpec → PoolsM (List InterfaceSpec)
  | [] => return []
  | i :: rest => do
    let i ← i.allocate fabric device position
    let rest ← allocateAll fabric device (position + 1) rest
    return i :: rest

end InterfaceSpec

namespace SwitchSpec

/-- The number of the switch, which is drawn or reserved for a device. -/
def allocateNumber (fabric : FabricId) (device : UInt32) (s : SwitchSpec) : PoolsM UInt32 := do
  if s.bgp.localAsn = 0 then Pools.onPool .number (Pool.draw fabric s.role.name device)
  else
    Pools.onPool .number (Pool.reserve fabric s.role.name device s.bgp.localAsn)
    return s.bgp.localAsn

/-- The switch with its number and its interfaces filled in, and with the name of the fabric where it names none. -/
def fill (name : String) (localAsn : UInt32) (interfaces : List InterfaceSpec) (s : SwitchSpec) : SwitchSpec :=
  { s with
    fabric := orName name s.fabric
    bgp := { s.bgp with localAsn }
    interfaces
    dataPlane := { s.dataPlane with fabricName := orName name s.dataPlane.fabricName }
    staleDataPlane := { s.staleDataPlane with fabricName := orName name s.staleDataPlane.fabricName } }

/-- Fills in what a switch leaves unset, as device number `device`. -/
def allocate (fabric : FabricId) (name : String) (device : UInt32) (s : SwitchSpec) : PoolsM SwitchSpec := do
  let localAsn ← s.allocateNumber fabric device
  let interfaces ← InterfaceSpec.allocateAll fabric device 0 s.interfaces
  return s.fill name localAsn interfaces

/-- Fills in what switches leave unset; `device` is the number of the first. -/
def allocateAll (fabric : FabricId) (name : String) (device : Nat) : List SwitchSpec → PoolsM (List SwitchSpec)
  | [] => return []
  | s :: rest => do
    let s ← s.allocate fabric name (UInt32.ofNat device)
    let rest ← allocateAll fabric name (device + 1) rest
    return s :: rest

end SwitchSpec

namespace FabricFile

/-- The request that a file with these switches in place of its own makes. -/
def request (f : FabricFile) (switches : List SwitchSpec) : FabricRequest where
  name := f.settings.name
  topology := f.settings.topology
  switches := switches
  clusters := f.clusters.map fun c => { c with fabricName := orName f.settings.name c.fabricName }

/-- Loads the ranges of a file into the pools and makes its request. -/
def allocate (f : FabricFile) : PoolsM FabricRequest := do
  Pools.populate f.settings.id f.pools
  let switches ← SwitchSpec.allocateAll f.settings.id f.settings.name 1 f.switches
  return f.request switches

end FabricFile

end FabricProvision

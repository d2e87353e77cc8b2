import FabricProvision.Desired.Switch
import FabricProvision.Provision.Session

/-!
# Interfaces

How one interface of a switch is brought to its desired state.  An interface is numbered, with an address of its
own, or unnumbered, with a donor; updating one clears the other form first where that is needed.
-/

namespace FabricProvision.InterfaceSpec

open Dialogue

variable (host : String)

/-- Nothing to do. -/
def nothing : Dialogue (Except FailureCause Unit) := return .ok ⟨⟩

/-- The operation that clears the unnumbered form. -/
def clearUnnumbered (i : InterfaceSpec) : Operation := .unconfigureUnnumbered i.kind.text i.name

/-- The operation that gives the interface its address. -/
def configureNumbered (i : InterfaceSpec) : Operation :=
  .configureNumbered i.kind.text i.name i.ip i.description

/-- Brings a loopback to its desired state. -/
def provisionLoopback (i : InterfaceSpec) : Dialogue (Except FailureCause Unit) :=
  match i.change with
  | .create | .update => perform host (.configureLoopback i.name i.ip)
  | .delete => perform host (.deleteLoopback i.name)
  | .keep => nothing

/-- Brings an unnumbered interface to its desired state. -/
def provisionUnnumbered (i : InterfaceSpec) (donor : Donor) : Dialogue (Except FailureCause Unit) := do
  let configure := Operation.configureUnnumbered i.kind.text i.name donor.kind.text donor.name
  match i.change with
  | .create => perform host configure
  | .update =>
    attempt host i.clearUnnumbered
    perform host configure
  | .delete =>
    attempt host i.clearUnnumbered
    nothing
  | .keep => nothing

/-- Clears what a numbered interface holds unless it has its desired address: the address it has, and then a
donor, which would stand in the way of the new address. -/
def clearOther (i : InterfaceSpec) : Dialogue Unit := do
  let current ← query host (.getInterface i.kind.text i.name) Response.toAddress
  match current.toOption.join with
  | none => attempt host i.clearUnnumbered
  | some address =>
    if address != i.ip then
      attempt host (.unconfigureNumbered i.kind.text i.name address)
      attempt host i.clearUnnumbered

/-- Brings a numbered interface to its desired state. -/
def provisionNumbered (i : InterfaceSpec) : Dialogue (Except FailureCause Unit) := do
  match i.change with
  | .create => perform host i.configureNumbered
  | .update =>
    i.clearOther host
    perform host i.configureNumbered
  | .delete => perform host (.unconfigureNumbered i.kind.text i.name i.ip)
  | .keep => nothing

/-- Brings an interface to its desired state. -/
def provision (i : InterfaceSpec) : Dialogue (Except FailureCause Unit) :=
  if i.kind = .loopback then i.provisionLoopback host
  else
    match i.donor with
    | some donor => i.provisionUnnumbered host donor
    | none => i.provisionNumbered host

end FabricProvision.InterfaceSpec

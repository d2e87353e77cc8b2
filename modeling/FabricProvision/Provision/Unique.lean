import FabricProvision.Provision.Session

/-!
# Creating unique objects

A unique object is created under the desired name unless one with another name is there.  With `force` the other
one is deleted first.  A switch that does not say what it holds is taken to hold nothing, and a deletion that
fails is followed by the creation all the same, which the switch then decides about.
-/

namespace FabricProvision.UniqueObject

open Dialogue

/-- Creates a unique object by the operation `create`, which carries the name `desired`. -/
def ensure (host : String) (object : UniqueObject) (desired : String) (create : Operation) (force : Bool) :
    Dialogue (Except FailureCause Unit) := do
  let existing ← query host object.lookup Response.toName
  match existing.toOption.join.filter (· != desired) with
  | none => perform host create
  | some other =>
    if force then
      attempt host (object.deletion other)
      perform host create
    else return .error (.conflict object other)

end FabricProvision.UniqueObject

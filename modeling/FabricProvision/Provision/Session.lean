import FabricProvision.Device.Dialogue
import FabricProvision.Provision.Failure

/-!
# Work on switches

The pieces that the work on switches is made of: single operations and questions, work that needs a session, and
work on several targets whose failures are collected.

The tasks of a fan-out run at the same time, and a scheduler decides whose exchange is next.  Here they run in the order
of their list, each to its end, which is one of the schedules (`Dialogue.fanOut`); the work with all its schedules is
`Concurrent.fanOut`.
-/

namespace FabricProvision

namespace Dialogue

/-- Sends one operation whose answer does not matter. -/
def perform (host : String) (op : Operation) : Dialogue (Except FailureCause Unit) := do
  match ← send host op with
  | .ok _ => return .ok ⟨⟩
  | .error e => return .error (.step e)

/-- Sends one operation and reads its answer. -/
def query {α : Type} (host : String) (op : Operation) (read : Response → String → Except DeviceError α) :
    Dialogue (Except DeviceError α) := do
  match ← send host op with
  | .ok answer => return read answer op.name
  | .error e => return .error e

/-- Sends one operation and goes on whatever the answer is. -/
def attempt (host : String) (op : Operation) : Dialogue Unit := do
  let _ ← send host op

/-- Does a piece of work; its failure is one of the step called `operation`. -/
def step (operation host : String) (work : Dialogue (Except FailureCause Unit)) : Dialogue (List Failure) := do
  match ← work with
  | .ok _ => return []
  | .error cause => return [⟨operation, host, cause⟩]

/-- Sends one operation as the step called `operation`. -/
def performStep (operation host : String) (op : Operation) : Dialogue (List Failure) :=
  step operation host (perform host op)

/-- Does pieces of work one after the other and collects their failures: the steps of a session, or tasks of a fan-out
in list order. -/
def collect : List (Dialogue (List Failure)) → Dialogue (List Failure)
  | [] => return []
  | work :: rest => do
    let first ← work
    let later ← collect rest
    return first ++ later

/-- Does the same work on every target and collects the failures, under the list-order schedule: the task of a target
begins when that of the target before it is done.  Under any other schedule the tasks are one of
`Dialogue.Interleaves`. -/
def fanOut {α : Type} (targets : List α) (work : α → Dialogue (List Failure)) : Dialogue (List Failure) :=
  collect (targets.map work)

/-- Does work in a session.  If none can be opened, that is the failure of the step called `operation`. -/
def session (operation host : String) (credentials : Credentials) (work : Dialogue (List Failure)) :
    Dialogue (List Failure) := do
  match ← connect host credentials with
  | .ok _ => work
  | .error e => return [⟨operation, host, .login e⟩]

end Dialogue

end FabricProvision

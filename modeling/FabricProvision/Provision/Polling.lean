import FabricProvision.Duration.Basic
import FabricProvision.Provision.Session

/-!
# Polling

After a change to a management cluster its members are asked for the cluster's status until they report the
intended members.  A member is asked once per interval, and the time allowed for it bounds how often.
-/

namespace FabricProvision

/-- How often and how long a cluster's status is asked for. -/
structure Polling where
  interval : Duration := .ofSeconds 15
  timeout : Duration := .ofSeconds 90
deriving DecidableEq, Repr, Inhabited

/-- The number of questions that fit into the time allowed, which is one if there is no wait between them.
Waiting is counted in milliseconds, of which begun ones count in full. -/
def Polling.queries (p : Polling) : Nat :=
  if p.interval.ceilMillis = 0 then 1 else p.timeout.ceilMillis / p.interval.ceilMillis

namespace Dialogue

/-- Asks for the status up to `queries` times, until it shows the intended members. -/
def pollMembership (host : String) (intended : List String) :
    Nat → Dialogue (Except FailureCause Unit)
  | 0 => return .error .pollTimeout
  | queries + 1 => do
    match ← query host .getClusterStatus Response.toClusterStatus with
    | .ok status => if status.fits intended then return .ok ⟨⟩ else pollMembership host intended queries
    | .error _ => pollMembership host intended queries

end Dialogue

end FabricProvision

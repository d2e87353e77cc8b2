import FabricProvision.Desired.Cluster
import FabricProvision.Device.Response
import FabricProvision.Device.UniqueObject

/-!
# Failures

A failure names the host, the step of the work and the cause.  Failures never abort a run by themselves: they
are collected, and a report lists them by host, those of one host in the order they arose.
-/

namespace FabricProvision

/-- Why a step on a switch fails. -/
inductive FailureCause where
  /-- No session could be opened, so nothing else was done on the switch. -/
  | login (error : DeviceError)
  /-- Another unique object is there. -/
  | conflict (object : UniqueObject) (existing : String)
  /-- The switch refused an operation or answered in another form than expected. -/
  | step (error : DeviceError)
  /-- The update names no attribute. -/
  | unsupportedUpdate (bits : UpdateBits)
  | precondition (reason : String)
  /-- The cluster did not get its members in time. -/
  | pollTimeout
deriving DecidableEq, Repr

/-- The wording of a cause. -/
def FailureCause.message : FailureCause → String
  | .login error => error.message
  | .conflict object existing => s!"{object.noun} {existing} already configured on switch"
  | .step error => error.message
  | .unsupportedUpdate _ => "Unsupported Operation"
  | .precondition reason => reason
  | .pollTimeout => "Management Cluster is not operational. Polling timed out"

/-- A step that failed on a host. -/
structure Failure where
  /-- What the step is called. -/
  operation : String
  host : String
  cause : FailureCause
deriving DecidableEq, Repr

namespace Failure

/-- Whether no session could be opened. -/
def isLogin (f : Failure) : Bool :=
  match f.cause with
  | .login _ => true
  | _ => false

/-- The failure on one line. -/
def render (f : Failure) : String :=
  "\x7bHost=" ++ f.host ++ ",Operation=" ++ f.operation ++ ",Error=" ++ f.cause.message ++ "\x7d"

/-- Failures by host; those of one host keep their order. -/
def report (fs : List Failure) : List Failure := fs.mergeSort fun f g => !(compare f.host g.host).isGT

/-- Failures one after the other. -/
def renderAll (fs : List Failure) : String := "\n".intercalate (fs.map render)

end Failure

end FabricProvision

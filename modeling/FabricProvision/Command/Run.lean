import FabricProvision.Command.Arguments
import FabricProvision.Device.OperationJson
import FabricProvision.File.Allocation
import FabricProvision.File.Fault
import FabricProvision.Json.Writer
import FabricProvision.Provision.Fabric

/-!
# Runs

A run loads a fabric file, fills it in from fresh pools, and provisions a network in memory of all switches that
the request names.  It prints the plan: the operations that each switch received.  The outcome of a run is a
value; printing it is left to the program.
-/

namespace FabricProvision.Command

open Json (encode)

/-! ### Provisioning a network -/

/-- The network of the switches that a request names, with what they hold before the run. -/
def startNetwork (r : FabricRequest) (state : StateFile) : Network := state.sow (Network.ofHosts r.hosts)

/-- Provisions a network. -/
def provision (polling : Polling) (force save : Bool) (r : FabricRequest) (n : Network) :
    List Failure × Network :=
  (r.configure polling force save).run Network.adapter n

/-! ### Plans -/

/-- The operations that each switch received. -/
abbrev Plan := List (String × List Operation)

/-- The plan of a network after a run. -/
def planOf (n : Network) : Plan := n.devices.toList.map fun (host, d) => (host, d.journal)

/-- The plan as lines: each host, followed by the names of its operations. -/
def planText (p : Plan) : String :=
  String.join <| p.map fun (host, ops) =>
    host ++ ":\n" ++ String.join (ops.map fun op => "  " ++ op.name ++ "\n")

/-- The plan as JSON. -/
def planJson (p : Plan) : Json := .obj (p.map fun (host, ops) => (host, encode ops))

/-- The plan as it is printed. -/
def printedPlan (json : Bool) (p : Plan) : String :=
  if json then (planJson p).pretty ++ "\n" else planText p

/-! ### Outcomes -/

/-- How the command is used. -/
def usage : String :=
  "Usage: fabric-provision [OPTIONS] --config <CONFIG>\n\n" ++
    "  -c, --config <CONFIG>      Path of the fabric file\n" ++
    "      --force                Replace conflicting unique objects and clusters\n" ++
    "      --persist              Save the configurations after a successful run\n" ++
    "      --existing <EXISTING>  Path of a file with what switches hold before the run\n" ++
    "      --json                 Print the plan as JSON\n" ++
    "  -h, --help                 Print this text\n" ++
    "  -V, --version              Print the version\n"

/-- What a run leads to. -/
structure Outcome where
  exitCode : UInt32
  /-- The text for standard output. -/
  output : String := ""
  /-- The steps that failed. -/
  failures : List Failure := []
  /-- Why the run failed, the last being the innermost reason. -/
  causes : List String := []
deriving DecidableEq, Repr

namespace Outcome

/-- A run that could not provision. -/
def aborted (causes : List String) : Outcome := { exitCode := 1, causes }

/-- The outcome of a run that provisioned. -/
def completed (output fabric : String) : List Failure → Outcome
  | [] => { exitCode := 0, output }
  | failures => {
      exitCode := 1
      output
      failures
      causes := [s!"{failures.length} operation(s) failed on fabric {fabric}"] }

/-- The outcome of a command line that names no run: asking for help or for the version is no failure. -/
def ofArgumentError : ArgumentError → Outcome
  | .help => { exitCode := 0, output := usage }
  | .version => { exitCode := 0, output := "fabric-provision 0.1.0\n" }
  | _ => { exitCode := 2 }

end Outcome

/-- The contents of the file at a path, or why it cannot be read. -/
abbrev FileReader := String → Except String String

/-- What is said of a file that is not there. -/
def noSuchFile : String := "No such file or directory (os error 2)"

/-- Loads the fabric file of an invocation; fails with the causes. -/
def loadFabric (files : FileReader) (i : Invocation) : Except (List String) FabricFile :=
  let context := s!"Failed to load fabric configuration '{i.config}'"
  match files i.config with
  | .error reason => .error [context, reason]
  | .ok text => (FabricFile.load text).mapError fun e => [context, e.message]

/-- Makes the request of a fabric file from fresh pools; fails with the causes. -/
def makeRequest (f : FabricFile) : Except (List String) FabricRequest :=
  (f.allocate.run.run {}).1.mapError fun e => ["Failed to allocate fabric resources", e.message]

/-- Loads the state file of an invocation, if it names one; fails with the causes. -/
def loadState (files : FileReader) (i : Invocation) : Except (List String) StateFile :=
  match i.existing with
  | none => .ok ⟨[]⟩
  | some path =>
    let context := s!"Failed to load existing state '{path}'"
    match files path with
    | .error reason => .error [context, reason]
    | .ok text =>
      match StateFile.load? text with
      | none => .error [context, "malformed state file"]
      | some state => .ok state

/-- The outcome of an invocation. -/
def Invocation.run (files : FileReader) (i : Invocation) : Outcome :=
  let prepared : Except (List String) (FabricFile × FabricRequest × StateFile) := do
    let f ← loadFabric files i
    let r ← makeRequest f
    let state ← loadState files i
    return (f, r, state)
  match prepared with
  | .error causes => .aborted causes
  | .ok (f, r, state) =>
    let (failures, n) := provision f.settings.polling i.force i.persist r (startNetwork r state)
    .completed (printedPlan i.json (planOf n)) r.name failures

/-- The outcome of a command line. -/
def run (files : FileReader) (words : List String) : Outcome :=
  match Invocation.parse words with
  | .ok i => i.run files
  | .error e => .ofArgumentError e

end FabricProvision.Command

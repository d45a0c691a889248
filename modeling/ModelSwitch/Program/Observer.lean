import ModelSwitch.Program.Execution.Protocol

/-!
# The process observer

`DockerProcessObserver` of `process_observer.py`: one observation of one model of one deployment,
from a container listing, the inspect answer for the listed containers, the model's port and the
launcher process. What the ports answer is an input. Texts are decoded by libraries:
`str.splitlines`, `json.loads` and the regular expression and `datetime` of `canonical_utc` are
parameters or have been applied to the answers.
-/

namespace ModelSwitch

namespace Py.Json

/-- `item.get(key)` of an object; `None` for a missing key. -/
def get (key : String) : Json → Json
  | .obj members => (members.lookup key).getD .null
  | _ => .null

/-- `isinstance(value, str) and value`. -/
def text : Json → Option String
  | .str value => if value = "" then none else some value
  | _ => none

def isDict : Json → Bool
  | .obj _ => true
  | _ => false

/-- The members of an object whose values are all texts. -/
def texts : Json → Option (List (String × String))
  | .obj members => members.mapM fun
    | (key, .str value) => some (key, value)
    | _ => none
  | _ => none

def flag : Json → Option Bool
  | .bool value => some value
  | _ => none

/-- `type(value) is int and value >= 0`. -/
def exitCode : Json → Option ℤ
  | .int value => if value < 0 then none else some value
  | _ => none

end Py.Json

namespace Docker

open Py (Json)

/-- What an observation raises. The `OverflowError` of `canonical_utc`, for a start time at the edge
of the calendar, is left out. -/
structure ObservationError where
  message : String

inductive PortState
  | listening
  | closed
  | unknown

inductive SubprocessState
  | running
  | exited
  | absent
  | unknown
  deriving DecidableEq

inductive LaunchState
  | starting
  | completed
  | failed
  deriving DecidableEq

/-- The scheduler's own record of a supervised startup. A terminal operation has a terminal
timestamp, a starting one has none. -/
structure LaunchOperation where
  operationId : String
  fence : Fence
  startedAtMonotonic : Time
  state : LaunchState
  pid : Option ℕ := none
  processGroupId : Option ℕ := none
  terminalAtMonotonic : Option Time := none
  terminal : state = .starting ↔ terminalAtMonotonic = none

def LaunchOperation.isTerminal (launch : LaunchOperation) : Bool := launch.state ≠ .starting

/-- What to observe: a deployment and, when known, the exact instance. -/
structure ObservationTarget where
  deploymentId : String
  containerId : Option String := none
  processGroupId : Option ℕ := none

/-- `ports_v3.Observation`: the facts and the verdict over them. -/
structure Observation where
  state : Presence
  sampledAtMonotonic : Time
  sampledAtUtc : String
  portState : PortState
  subprocessState : SubprocessState
  instance' : Option InstanceIdentity
  launchOperation : Option LaunchOperation

/-- One container as reported by `docker inspect`. -/
structure ContainerFact where
  containerId : String
  imageDigest : String
  running : Bool
  status : String
  exitCode : ℤ
  startedAt : String
  labels : List (String × String)

/-! ### Reading the answers -/

/-- The value, or the error of the check that failed. -/
def require {α : Type} (value : Option α) (message : String) : Except ObservationError α :=
  match value with
  | some value => .ok value
  | none => .error ⟨message⟩

/-- `_container_fact`. -/
def containerFact (item : Json) : Except ObservationError ContainerFact := do
  let _ ← require (if item.isDict then some () else none) "docker inspect item must be an object"
  let config := item.get "Config"
  let state := item.get "State"
  let containerId ← require (item.get "Id").text "docker inspect item has no container id"
  let image ← require (config.get "Image").text "docker inspect item has no image reference"
  let _ ← require (if config.isDict && state.isDict then some () else none)
    "docker inspect item has no config or state"
  let labels ← require (config.get "Labels").texts "docker inspect item has unreadable labels"
  let running ← require (state.get "Running").flag "docker inspect item has no running flag"
  let status ← require (state.get "Status").text "docker inspect item has no status"
  let exitCode ← require (state.get "ExitCode").exitCode "docker inspect item has no exit code"
  let startedAt ← require (state.get "StartedAt").text "docker inspect item has no start time"
  return {
    containerId := containerId, imageDigest := image, running := running, status := status,
    exitCode := exitCode, startedAt := startedAt, labels := labels }

/-- `parse_inspect_payload`, after `json.loads`. -/
def parseInspectPayload : Except String Json → Except ObservationError (List ContainerFact)
  | .error e => .error ⟨"docker inspect returned invalid JSON: " ++ e⟩
  | .ok (.arr []) => .error ⟨"docker inspect returned no container object"⟩
  | .ok (.arr items) => items.mapM containerFact
  | .ok _ => .error ⟨"docker inspect returned no container object"⟩

/-- What `docker ps` answers: the exit code and the lines of its output. -/
structure PsAnswer where
  exitCode : ℤ
  lines : List String

/-- What `docker inspect` answers for the listed containers: the exit code, the decoded output and
the error text. -/
structure InspectAnswer where
  exitCode : ℤ
  payload : Except String Json
  stderr : String

/-- What the ports of an observer answer while it observes. -/
structure World where
  monotonic : Time
  utcNow : String
  /-- What `launch_lookup` returns for the target; `none` without a lookup. -/
  launch : Option LaunchOperation := none
  portState : ℕ → PortState
  ps : Except ObservationError PsAnswer
  inspect : List String → Except ObservationError InspectAnswer
  processState : ℕ → SubprocessState
  canonicalUtc : String → Option String

/-- `list_container_ids`: every container of the deployment and model. -/
def listContainerIds (w : World) : Except ObservationError (List String) := do
  let answer ← w.ps
  if answer.exitCode ≠ 0 then .error ⟨"the container listing failed"⟩
  else return (answer.lines.map fun l => .ofList (Py.strip l)).filter (· ≠ "")

/-- `inspect_container_ids`. -/
def inspectContainerIds (w : World) (ids : List String) :
    Except ObservationError (List ContainerFact) :=
  if ids.isEmpty then .ok []
  else do
    let answer ← w.inspect ids
    if answer.exitCode ≠ 0 then
      .error ⟨"docker inspect failed with exit code " ++ toString answer.exitCode ++ ": " ++
        .ofList (Py.strip answer.stderr)⟩
    else parseInspectPayload answer.payload

/-! ### The observer -/

/-- The container a target is bound to. -/
inductive Match
  | nothing
  | fact (f : ContainerFact)
  | ambiguous

/-- `stopped_is_proven`. A port held by an unknown process is `none`. -/
def stoppedIsProven (containerAbsent launchOperationTerminal subprocessExited : Bool)
    (portListening : Option Bool) : Bool :=
  containerAbsent && launchOperationTerminal && subprocessExited && portListening = some false

/-- `DockerProcessObserver`, built per model. -/
structure Observer where
  deploymentId : String
  modelId : ModelId
  port : ℕ
  deployment_ne : deploymentId ≠ ""
  model_ne : modelId ≠ ""
  port_range : 1 ≤ port ∧ port ≤ 65535

namespace Observer

variable (o : Observer) (w : World) (target : ObservationTarget)

def facts : Except ObservationError (List ContainerFact) := do
  let ids ← listContainerIds w
  inspectContainerIds w ids

/-- `_match`. With no explicit container id this boot's running instance is the candidate; with one
the listing must contain that id. -/
def matchTarget (facts : List ContainerFact) : Match :=
  match target.containerId with
  | some id =>
    match facts.filter (·.containerId = id) with
    | [] => .nothing
    | [f] => .fact f
    | _ => .ambiguous
  | none =>
    match facts.filter (·.running) with
    | [] => .nothing
    | [f] => .fact f
    | _ => .ambiguous

/-- The process whose end proves that the launcher has exited. -/
def launcherPid : Option ℕ :=
  match w.launch with
  | some launch => launch.pid
  | none => target.processGroupId

def subprocessState : SubprocessState :=
  match launcherPid w target with
  | none => .absent
  | some pid => w.processState pid

/-- The container carries the labels of the deployment and the model. -/
def owns (f : ContainerFact) : Bool :=
  f.labels.lookup "io.self-model-switch.deployment" = some o.deploymentId &&
    f.labels.lookup "io.self-model-switch.model" = some o.modelId

/-- `labels.get(key)`, where an empty text counts as missing. -/
def label (f : ContainerFact) (key : String) : Option String :=
  (f.labels.lookup key).filter (· ≠ "")

/-- `_identity`. -/
def identity (f : ContainerFact) : Option InstanceIdentity :=
  if o.owns f = false then none
  else do
    let runtime ← label f "io.self-model-switch.runtime"
    let digest ← (label f "io.self-model-switch.candidate-sha256").or
      (label f "io.self-model-switch.config-sha256")
    let startedAt ← w.canonicalUtc f.startedAt
    return {
      containerId := f.containerId, startedAt := startedAt, deploymentId := o.deploymentId,
      modelId := o.modelId, runtimeId := runtime, candidateDigest := digest,
      imageDigest := f.imageDigest }

/-- `_observation`. -/
def observation (state : Presence) (port : PortState) (process : SubprocessState)
    (identity : Option InstanceIdentity) : Observation where
  state := state
  sampledAtMonotonic := w.monotonic
  sampledAtUtc := w.utcNow
  portState := port
  subprocessState := process
  instance' := identity
  launchOperation := w.launch

def portListening : PortState → Option Bool
  | .listening => some true
  | .closed => some false
  | .unknown => none

/-- The verdict once the container of the target is known not to run. -/
def verdict (matched : Option ContainerFact) : Observation :=
  let port := w.portState o.port
  let process := subprocessState w target
  let terminal := (w.launch.map (·.isTerminal)).getD true
  if stoppedIsProven true terminal (process = .exited || process = .absent)
      (portListening port) then
    observation w .stopped port process (matched.bind (o.identity w))
  else observation w .unknown port process none

def observe (deadline : Time) : Except ObservationError Observation :=
  if target.deploymentId ≠ o.deploymentId then
    .error ⟨"the observation target belongs to another deployment"⟩
  else if deadline ≤ w.monotonic then .ok (observation w .unknown .unknown .unknown none)
  else
    match facts w with
    | .error _ => .ok (observation w .unknown .unknown .unknown none)
    | .ok facts =>
      let port := w.portState o.port
      let process := subprocessState w target
      match matchTarget target facts with
      | .ambiguous => .ok (observation w .unknown port process none)
      | .nothing => .ok (o.verdict w target none)
      | .fact f =>
        if f.running = false then .ok (o.verdict w target (some f))
        else
          match o.identity w f, port with
          | some identity, .listening => .ok (observation w .running port process (some identity))
          | _, _ => .ok (observation w .unknown port process none)

end Observer

end Docker

end ModelSwitch

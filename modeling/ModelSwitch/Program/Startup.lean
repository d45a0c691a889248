import ModelSwitch.Program.Book
import ModelSwitch.Program.Observer

/-!
# Startup reconciliation

`DeploymentRecovery` of `control_recovery.py` and `reconcile_startup` of `runtime.py`: admission is
closed, the leftover containers of the deployment are stopped by their ids, and the book is cleared
only if every model has then been observed stopped. The docker command, the clock and the observers
are ports over a state of the world outside; they may answer anything, and they may raise.
-/

namespace ModelSwitch.Startup

open Py (Json)
open Docker (ContainerFact ObservationError ObservationTarget parseInspectPayload)

inductive Raised
  | observationError (e : ObservationError)
  | book (e : Exc)
  /-- Any other exception. -/
  | other (name : String)

/-- The exit code and the two streams of a docker command. -/
structure Answer where
  exitCode : ℤ
  stdout : String
  stderr : String

/-- What `json.loads` raises: an error that `parse_inspect_payload` catches, or another one. -/
inductive LoadsError
  | caught (message : String)
  | other (name : String)

/-- The ports of `DeploymentRecovery`, and the library functions that read its texts. -/
structure Ports (σ : Type) where
  docker : List String → σ → Except Raised Answer × σ
  monotonic : σ → Time × σ
  splitlines : String → List String
  loads : String → Except LoadsError Json
  /-- `_STRUCTURED_NOT_FOUND.search(stderr) is not None`. -/
  notFound : String → Bool

/-- `observer.observe`. -/
abbrev Observe (σ : Type) := ObservationTarget → Time → σ → Except Raised Docker.Observation × σ

/-- What the ports have answered or raised, in order. -/
inductive Event
  | docker (argv : List String) (answer : Answer)
  | raised (argv : List String) (e : Raised)
  | observed (model : ModelId) (observation : Docker.Observation)

/-- The world outside, and what has been heard from it. -/
structure Scene (σ : Type) where
  outside : σ
  log : List Event := []

structure ReconcileOutcome where
  ok : Bool
  errorCode : Option String
  stopped : List String
  remaining : List String

structure StartupReconciliation where
  ok : Bool
  errorCode : Option String
  confirmedStopped : List ModelId
  unproven : List ModelId
  remaining : List String

/-- What `_inspect` makes of a container. -/
inductive Inspected
  | absent
  | unreadable
  | fact (f : ContainerFact)

variable {σ : Type} (p : Ports σ)

def Event.ofCall (argv : List String) : Except Raised Answer → Event
  | .ok a => .docker argv a
  | .error e => .raised argv e

def Ports.call (argv : List String) (s : Scene σ) : Except Raised Answer × Scene σ :=
  let (res, outside) := p.docker argv s.outside
  (res, ⟨outside, s.log ++ [.ofCall argv res]⟩)

def Ports.now (s : Scene σ) : Time × Scene σ :=
  let (now, outside) := p.monotonic s.outside
  (now, { s with outside := outside })

/-! ### `DeploymentRecovery` -/

def listArgv (deploymentId : String) : List String :=
  ["docker", "ps", "--all", "--quiet", "--no-trunc", "--filter",
    "label=io.self-model-switch.deployment=" ++ deploymentId]

def inspectArgv (id : String) : List String := ["docker", "inspect", id]

def stopArgv (id : String) : List String := ["docker", "stop", "--time", "30", id]

/-- The containers that a listing names. -/
def Ports.listed (a : Answer) : List String :=
  ((p.splitlines a.stdout).map fun line => .ofList (Py.strip line)).filter (· ≠ "")

/-- `list_container_ids` of a deployment. -/
def Ports.listContainerIds (deploymentId : String) (s : Scene σ) :
    Except Raised (List String) × Scene σ :=
  match p.call (listArgv deploymentId) s with
  | (.error e, s) => (.error e, s)
  | (.ok a, s) =>
    if a.exitCode ≠ 0 then
      (.error (.observationError ⟨"the container listing failed"⟩), s)
    else (.ok (p.listed a), s)

/-- How `_inspect` reads the answer for a container. -/
def Ports.readInspect (id : String) (a : Answer) : Except Raised Inspected :=
  if a.exitCode ≠ 0 then .ok (if p.notFound a.stderr then .absent else .unreadable)
  else
    match p.loads a.stdout with
    | .error (.other name) => .error (.other name)
    | .error (.caught _) => .ok .unreadable
    | .ok payload =>
      match parseInspectPayload (.ok payload) with
      | .ok [f] => .ok (if f.containerId = id then .fact f else .unreadable)
      | _ => .ok .unreadable

/-- `_inspect`. -/
def Ports.inspect (id : String) (s : Scene σ) : Except Raised Inspected × Scene σ :=
  match p.call (inspectArgv id) s with
  | (.error e, s) => (.error e, s)
  | (.ok a, s) => (p.readInspect id a, s)

/-- `_verified_stop`. -/
def Ports.verifiedStop (deploymentId id : String) (s : Scene σ) :
    Except Raised (Bool × Option String) × Scene σ :=
  match p.inspect id s with
  | (.error e, s) => (.error e, s)
  | (.ok .absent, s) => (.ok (true, none), s)
  | (.ok .unreadable, s) => (.ok (false, some "docker_unavailable"), s)
  | (.ok (.fact f), s) =>
    if f.containerId ≠ id ∨
        f.labels.lookup "io.self-model-switch.deployment" ≠ some deploymentId then
      (.ok (false, some "foreign_instance"), s)
    else if f.running = false then (.ok (true, none), s)
    else
      match p.call (stopArgv id) s with
      | (.error e, s) => (.error e, s)
      | (.ok a, s) =>
        if a.exitCode ≠ 0 then (.ok (false, some "stop_failed"), s)
        else
          match p.inspect id s with
          | (.error e, s) => (.error e, s)
          | (.ok .absent, s) => (.ok (true, none), s)
          | (.ok .unreadable, s) => (.ok (false, some "stop_not_verified"), s)
          | (.ok (.fact f), s) =>
            if f.running = false then (.ok (true, none), s)
            else (.ok (false, some "stop_not_verified"), s)

/-- The loop of `reconcile` over the listed containers. -/
def Ports.stopAll (deploymentId : String) (deadline : Time) :
    List String → List String → List String → Option String → Scene σ →
      Except Raised ReconcileOutcome × Scene σ
  | [], stopped, remaining, code, s => (.ok ⟨remaining.isEmpty, code, stopped, remaining⟩, s)
  | id :: ids, stopped, remaining, code, s =>
    let (now, s) := p.now s
    if deadline ≤ now then
      stopAll deploymentId deadline ids stopped (remaining ++ [id])
        (code.or (some "recovery_timeout")) s
    else
      match p.verifiedStop deploymentId id s with
      | (.error e, s) => (.error e, s)
      | (.ok (true, _), s) =>
        stopAll deploymentId deadline ids (stopped ++ [id]) remaining code s
      | (.ok (false, failure), s) =>
        stopAll deploymentId deadline ids stopped (remaining ++ [id]) (code.or failure) s

/-- `DeploymentRecovery.reconcile`. -/
def Ports.reconcile (deploymentId : String) (closeAdmission : Book → Book) (deadline : Time)
    (b : Book) (s : Scene σ) : Except Raised ReconcileOutcome × Book × Scene σ :=
  let b := closeAdmission b
  let (now, s) := p.now s
  if deadline ≤ now then (.ok ⟨false, some "recovery_timeout", [], []⟩, b, s)
  else
    match p.listContainerIds deploymentId s with
    | (.error (.observationError _), s) =>
      (.ok ⟨false, some "container_listing_failed", [], []⟩, b, s)
    | (.error e, s) => (.error e, b, s)
    | (.ok ids, s) =>
      let (outcome, s) := p.stopAll deploymentId deadline ids [] [] none s
      (outcome, b, s)

/-! ### `reconcile_startup` -/

/-- The loop over the observers: the models that are confirmed stopped, and those that are not. -/
def observeAll (specs : List ModelId) (target : ObservationTarget) (deadline : Time) :
    List (ModelId × Observe σ) → List ModelId → List ModelId → Scene σ →
      Except Raised (List ModelId × List ModelId) × Scene σ
  | [], confirmed, unproven, s => (.ok (confirmed, unproven), s)
  | (m, observe) :: rest, confirmed, unproven, s =>
    if m ∉ specs then observeAll specs target deadline rest confirmed (unproven ++ [m]) s
    else
      match observe target deadline s.outside with
      | (.error e, outside) => (.error e, { s with outside := outside })
      | (.ok o, outside) =>
        let s : Scene σ := ⟨outside, s.log ++ [.observed m o]⟩
        if o.state = .stopped then
          observeAll specs target deadline rest (confirmed ++ [m]) unproven s
        else observeAll specs target deadline rest confirmed (unproven ++ [m]) s

def reconcileStartup (deploymentId : String) (observers : Dict ModelId (Observe σ))
    (deadline : Time) (b : Book) (s : Scene σ) :
    Except Raised StartupReconciliation × Book × Scene σ :=
  match b.beginRecovery with
  | (b, .error e) => (.error (.book e), b, s)
  | (b, .ok epoch) =>
    match p.reconcile deploymentId (·.beginRecovery.1) deadline b s with
    | (.error e, b, s) => (.error e, b, s)
    | (.ok outcome, b, s) =>
      let missing := b.specs.keys.filter (· ∉ observers.keys)
      match observeAll b.specs.keys { deploymentId := deploymentId } deadline observers.entries []
          missing s with
      | (.error e, s) => (.error e, b, s)
      | (.ok (confirmed, unproven), s) =>
        if outcome.ok = false then
          (.ok ⟨false, outcome.errorCode, confirmed, unproven, outcome.remaining⟩, b, s)
        else if unproven ≠ [] then
          (.ok ⟨false, some "unproven_stop", confirmed, unproven, []⟩, b, s)
        else
          match b.finishRecovery epoch confirmed with
          | (b, .error e) => (.error (.book e), b, s)
          | (b, .ok ()) => (.ok ⟨true, none, confirmed, [], []⟩, b, s)

end ModelSwitch.Startup

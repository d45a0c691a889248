import ModelSwitch.Lib.Dict
import Mathlib.Data.Rat.Floor
import Mathlib.Algebra.Order.Floor.Ring

/-!
# Contracts

The framework-free data shared by the scheduler and its adapters (`contracts.py`,
`contracts_v2.py`): model states, registrations, leases, operations and backend answers.

Identifiers drawn from `uuid4` are natural numbers: the `n`-th call of a run draws `n`, so every
drawn identifier is fresh. Times are rational seconds of the monotonic clock.
-/

namespace ModelSwitch

abbrev ModelId := String

abbrev RequestId := String

abbrev SessionId := String

/-- What `uuid4` draws. -/
abbrev Uuid := ℕ

abbrev Time := ℚ

inductive State
  | unknown
  | unloaded
  | loading
  | ready
  | evicting
  | error
  deriving DecidableEq, Repr

inductive Outcome
  | success
  | rejected
  | aborted
  deriving DecidableEq, Repr

inductive Presence
  | running
  | stopped
  | unknown
  deriving DecidableEq, Repr

/-- A legacy v1 registration (`contracts.ModelSpec`). -/
structure ModelSpec where
  modelId : ModelId
  reservedBytes : ℤ
  priority : ℤ := 0
  maxConcurrency : ℤ := 1
  pinned : Bool := false
  evictable : Bool := true
  preload : Bool := false
  ttlSeconds : ℚ := 0
  deriving DecidableEq

/-- A v2 registration (`contracts_v2.ModelSpec`); `maxParallel` is its envelope's. -/
structure RegisteredModelSpec where
  modelId : ModelId
  maxParallel : ℤ
  reservedBytes : ℤ
  physicalResidentPeakBytes : Option ℤ
  deriving DecidableEq

inductive Registration
  | v1 (spec : ModelSpec)
  | v2 (spec : RegisteredModelSpec)
  deriving DecidableEq

def Registration.modelId : Registration → ModelId
  | .v1 spec => spec.modelId
  | .v2 spec => spec.modelId

structure MemorySample where
  totalBytes : ℤ
  availableBytes : ℤ
  sampledAt : Time
  deriving DecidableEq

structure Lease where
  leaseId : Uuid
  requestId : RequestId
  modelId : ModelId
  generation : ℕ
  deriving DecidableEq

structure Operation where
  operationId : Uuid
  modelId : ModelId
  generation : ℕ
  epoch : ℕ
  deriving DecidableEq

/-- A backend's answer to `load` or `stop`. -/
structure Observation where
  presence : Presence
  healthy : Bool
  detailCode : Option String := none
  deriving DecidableEq

/-- The answer of the root-owned recovery helper. -/
structure RecoveryResult where
  ok : Bool
  errorCode : Option String
  stoppedModels : List ModelId
  deriving DecidableEq

/-- The exceptions that cross the modelled functions. `external` stands for whatever a port raises
on its own account. -/
inductive Exc
  | keyError (key : String)
  | valueError (message : String)
  | overflowError (message : String)
  | attributeError (name : String)
  | contractError (message : String)
  | conflict (message : String)
  | staleOperation (operation : Option Uuid)
  | queueFull (message : String)
  | modelUnavailable (code : String)
  | sessionConflict (code : String)
  | sessionNotFound (session : SessionId)
  | timeoutError (message : String)
  | executionError (code message : String)
  | blobStoreError (code message : String)
  | notDispatched (code message : String)
  | cancelledError
  | external (name : String)
  deriving DecidableEq, Repr

/-! ### Reserved bytes -/

/-- `_positive_int`. -/
def positiveInt (value : ℤ) (field : String) : Except Exc ℤ :=
  if value ≤ 0 then .error (.contractError (field ++ ": must be a positive integer")) else .ok value

/-- `ceil(physical_resident_peak * 1.15)` in exact integer arithmetic. -/
def physicalReservedBytesFromPeak (peak : ℤ) : Except Exc ℤ :=
  match positiveInt peak "physical_resident_peak_bytes" with
  | .error e => .error e
  | .ok peak => .ok ((peak * 115 + 100 - 1) / 100)

/-- The single internal reservation figure: a v2 figure is taken as it is, a v1 peak gets the
legacy margin exactly once. The ceiling is that of the exact product. The source takes `math.ceil`
of a product of floats, which may lie above it: 441, not 440, for 400 bytes and a margin of 0.1. -/
def effectiveReservedBytes (reservedBytes : ℤ) (legacyV1Margin : Option ℚ) : Except Exc ℤ :=
  match positiveInt reservedBytes "reserved_bytes" with
  | .error e => .error e
  | .ok reserved =>
    match legacyV1Margin with
    | none => .ok reserved
    | some margin =>
      if 0 ≤ margin ∧ margin ≤ 1 then .ok ⌈(reserved : ℚ) * (1 + margin)⌉
      else .error (.contractError "legacy_v1_margin: must be within 0..1")

end ModelSwitch

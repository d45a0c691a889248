import ModelSwitch.Program.Execution.Protocol
import ModelSwitch.Program.Scheduler.State

/-!
# Execution records and the service state

The data of `execution_service.py` and `idempotency.py`, and the parts of the service that run
without an `await`: settling decisions, local termination and the view of a record.

The service lock is held across an `await` only while ports are told of a cancellation. `lock` then
names the task that holds it and the execution whose end the section is still to decide, if any.
-/

namespace ModelSwitch.Execution

/-! ### Inputs, outputs and leases -/

/-- The bytes of a result. -/
abbrev Body := List UInt8

/-- Exactly one of an inline document, as canonical JSON, or a blob reference. -/
inductive ExecutionInput
  | inline (document : String)
  | blob (ref : BlobRef)
  deriving DecidableEq

/-- An output slot that the blob store keeps for one execution. -/
structure OutputReservation where
  blobId : String
  owner : String
  mediaType : String
  limitBytes : ℕ
  fence : Fence
  deriving DecidableEq

/-- The columns of a published blob that the service reads. -/
structure PublishedBlob where
  blobId : String
  owner : String
  sha256 : String
  sizeBytes : ℕ
  mediaType : String
  deriving DecidableEq

def PublishedBlob.ref (b : PublishedBlob) : BlobRef where
  blobId := b.blobId
  owner := b.owner
  sha256 := b.sha256
  sizeBytes := b.sizeBytes
  mediaType := b.mediaType

structure ExecutionHandle where
  executionId : ExecutionId
  identity : InstanceIdentity
  deriving DecidableEq

/-- An entered read lease of an input blob. -/
abbrev InputContext := Uuid

/-! ### Idempotency -/

inductive IdempotencyState
  | pending
  | completed
  | failed
  deriving DecidableEq, Repr

/-- The payload a key is bound to. The keyed hash of the source stands for the payload itself. -/
structure SubmitPayload where
  sessionId : SessionId
  operation : String
  input : ExecutionInput
  parameters : String
  deriving DecidableEq

structure IdempotencyRecord where
  owner : String
  key : String
  fingerprint : SubmitPayload
  state : IdempotencyState := .pending
  createdAt : Time := 0
  completedAt : Option Time := none
  status : Option ℕ := none
  resourceId : Option ExecutionId := none
  activeUntil : Option Time := none

/-- The registry of the route `execution.create`. Records are objects: `objects` holds every record
that was claimed, `records` names the one filed under an owner and a key. -/
structure IdempotencyStore where
  objects : Dict Uuid IdempotencyRecord := Dict.empty
  records : Dict (String × String) Uuid := Dict.empty

namespace IdempotencyStore

variable (store : IdempotencyStore)

/-- Claim the key, or replay or refuse; `fresh` is the identity of a new record. -/
def begin (fresh : Uuid) (owner key : String) (payload : SubmitPayload) (now : Time) :
    IdempotencyStore × Except Exc Uuid :=
  let claim : IdempotencyStore × Except Exc Uuid :=
    ({ objects := store.objects.set fresh
                    { owner := owner, key := key, fingerprint := payload, createdAt := now },
       records := store.records.set (owner, key) fresh }, .ok fresh)
  match store.records.get? (owner, key) with
  | none => claim
  | some i =>
    match store.objects.get? i with
    | none => claim
    | some existing =>
      if existing.fingerprint ≠ payload then
        (store, .error (.executionError "idempotency_conflict"
          "the key was used with different input"))
      else
        match existing.state with
        | .pending => (store, .error (.executionError "busy" "the first attempt is still running"))
        | .completed => (store, .ok i)
        | .failed => claim

def complete (i : Uuid) (status : ℕ) (resource : ExecutionId) (activeUntil : Option Time)
    (now : Time) : IdempotencyStore :=
  match store.objects.get? i with
  | none => store
  | some r =>
    let r := { r with state := .completed, status := some status, resourceId := some resource,
                      completedAt := some now,
                      activeUntil := if activeUntil.isSome then activeUntil else r.activeUntil }
    { store with objects := store.objects.set i r }

/-- A failed attempt releases the key. -/
def fail (i : Uuid) : IdempotencyStore :=
  match store.objects.get? i with
  | none => store
  | some r => { store with records := store.records.erase (r.owner, r.key) }

def stateOf (i : Uuid) : Option IdempotencyState := (store.objects.get? i).map (·.state)

/-- Whether a sweep at `moment` leaves the record in its place; `completed_at or created_at` takes
the second where the first is zero. -/
def retained (retention : ℚ) (moment : Time) (r : IdempotencyRecord) : Bool :=
  r.state = .pending || r.activeUntil.any (moment < ·) ||
    moment - (if r.completedAt.any (· ≠ 0) then r.completedAt.getD 0 else r.createdAt) < retention

/-- Drop finished records older than the retention window. -/
def sweep (retention : ℚ) (moment : Time) : IdempotencyStore :=
  { store with records := store.records.filter fun p =>
      (store.objects.get? p.2).any (retained retention moment) }

end IdempotencyStore

/-! ### Records -/

/-- One execution's whole service-side state. -/
structure Record where
  executionId : ExecutionId
  sessionId : SessionId
  modelId : ModelId
  owner : String
  operation : String
  input : ExecutionInput
  parameters : String
  deadline : Time
  fence : Fence
  outputBlobId : String
  state : ExecState := .queued
  error : Option ErrorDetail := none
  terminalCode : Option String := none
  terminalMessage : String := ""
  result : Option BlobRef := none
  evidence : Option TerminationEvidence := none
  outputPending : Option Body := none
  publishing : Bool := false
  dispatchState : DispatchState := .notStarted
  dispatchStarted : Bool := false
  dispatchClaimed : Bool := false
  identity : Option InstanceIdentity := none
  lease : Option Lease := none
  leaseReleased : Bool := false
  reservation : Option OutputReservation := none
  inputCtx : Option InputContext := none
  inputClosed : Bool := false
  cancelPending : Bool := false
  settled : Bool := false
  awaitingQuiescence : Bool := false
  expectedInstance : Option InstanceIdentity := none
  idempotency : Option Uuid := none

namespace Record

variable (r : Record)

def terminal : Bool := r.state.terminal

def document : ViewDocument where
  executionId := uuidHex r.executionId
  state := r.state
  dispatchState := r.dispatchState
  computeQuiescent := if r.terminal then some true else none
  result := r.result
  error := r.error
  identity := r.identity
  fence := r.fence.document

/-- An invalid view must never escape the service. -/
def view (fromIsoformat : String → Option (Option ℤ)) : Except Exc ViewDocument :=
  (Protocol.parseExecutionView fromIsoformat r.document).map fun _ => r.document

/-- The first reason to end an execution wins. -/
def markReason (code message : String) : Record :=
  if r.terminalCode.isNone then { r with terminalCode := some code, terminalMessage := message }
  else r

/-- `if not record.terminal: record.state = CANCELLING`. -/
def markCancelling : Record := if r.terminal then r else { r with state := .cancelling }

/-- `a or b` of two texts. -/
def orText (a b : String) : String := if a = "" then b else a

/-- The error a reason materializes to. -/
def reasonError : ErrorDetail :=
  errorDetail (orText (r.terminalCode.getD "") "backend_failed")
    (orText r.terminalMessage "the execution ended without a result")

/-- The evidence of a request that never started. -/
def notStarted (code : { code : String // code ≠ "" }) : TerminationEvidence :=
  ⟨{ fence := r.fence, dispatchState := .notStarted, deviceSynchronized := false,
     reason := some code.1 }, by simp [EvidenceFields.checked, code.2]⟩

end Record

lemma queue_timeout_ne : "queue_timeout" ≠ "" := by decide

/-- `_CANCEL_CODES`. -/
def cancelCode (code : String) : Bool :=
  ["queue_timeout", "session_expired", "session_not_active"].contains code

/-- `_BLOB_CODES`. -/
def blobCode : String → Option String
  | "not_found" => some "not_found"
  | "expired" => some "reference_expired"
  | "too_large" => some "payload_too_large"
  | "quota_exceeded" => some "quota_exceeded"
  | "storage" => some "storage_unavailable"
  | "forbidden" => some "contract_violation"
  | "unsupported_media_type" => some "unsupported_media_type"
  | _ => none

/-- `blob_owner_for`. -/
def blobOwnerFor (owner : String) : String :=
  String.ofList (owner.toList.map fun c => if c = ':' then '-' else c)

/-! ### The service -/

/-- The arguments of `ExecutionService.__init__`. `backends` lists the models an adapter is
registered for. -/
structure ServiceConfig where
  bootId : String
  queueCapacity : ℕ := 128
  waitSeconds : ℚ := 1800
  pollSeconds : ℚ := 1
  outputLimitBytes : ℕ := maxBlobBytes
  outputMediaType : String := "application/json"
  tokens : Bool := true
  idempotent : Bool := true
  managedTermination : Bool := false
  stopGraceSeconds : ℚ := 30
  cancelSeconds : ℚ := 10
  retentionSeconds : ℚ := 86400
  fromIsoformat : String → Option (Option ℤ)
  backends : List ModelId

/-- What the service reads of its surroundings: the scheduler's sessions and book, the capability
names of the registrations, the adapters' synchronous answers and the clocks. -/
structure Env where
  sessions : SessionManager
  book : Book
  capabilities : Dict ModelId (List String) := Dict.empty
  claimsDeviceQuiescence : ModelId → Bool := fun _ => false
  currentIdentity : ModelId → Option InstanceIdentity := fun _ => none
  now : Time := 0
  wallClock : Time := 0

/-- What the service does with leases, read leases, the backend and the instances. -/
inductive Event
  | granted (execution : ExecutionId) (lease : Lease)
  | release (lease : Lease) (outcome : Outcome)
  | opened (execution : ExecutionId) (ctx : InputContext)
  | closed (ctx : InputContext)
  | execute (execution : ExecutionId) (fence : Fence) (blobPath : Option String)
  | unload (model : ModelId)
  | unloaded (model : ModelId)
  deriving DecidableEq

structure Service where
  cfg : ServiceConfig
  env : Env
  records : Dict ExecutionId Record := Dict.empty
  dispatchers : Dict SessionId (Option TaskId) := Dict.empty
  pendingCleanup : List String := []
  quiescing : List ModelId := []
  quiescers : Dict ModelId TaskId := Dict.empty
  publishInflight : List ExecutionId := []
  idempotency : IdempotencyStore := {}
  lock : Option (TaskId × Option ExecutionId) := none
  uuids : Uuid := 0
  log : List Event := []

namespace Service

variable (s : Service)

/-- The record of an execution; the service never drops one. -/
def get (id : ExecutionId) : Record :=
  (s.records.get? id).getD
    { executionId := id, sessionId := "", modelId := "", owner := "", operation := "",
      input := .inline "", parameters := "", deadline := 0, outputBlobId := "",
      fence := { bootId := "", modelId := "", generation := 0, operationId := 0,
                 executionId := none, attempt := none } }

/-- Mutate a record in place. -/
def update (id : ExecutionId) (f : Record → Record) : Service :=
  match s.records.get? id with
  | none => s
  | some r => { s with records := s.records.set id (f r) }

def note (e : Event) : Service := { s with log := s.log ++ [e] }

def addCleanup (blob : String) : Service :=
  if s.pendingCleanup.contains blob then s
  else { s with pendingCleanup := blob :: s.pendingCleanup }

def discardCleanup (blob : String) : Service :=
  { s with pendingCleanup := s.pendingCleanup.filter (· ≠ blob) }

def unlock : Service := { s with lock := none }

/-! ### Settling decisions -/

/-- The registry keeps a settled outcome only if the record has a valid view. -/
def finishIdempotency (id : ExecutionId) : Service :=
  match (s.get id).idempotency with
  | none => s
  | some i =>
    match (s.get id).view s.cfg.fromIsoformat with
    | .error _ => s
    | .ok _ =>
      if s.cfg.idempotent then
        { s with idempotency := s.idempotency.complete i 200 id none s.env.wallClock }
      else s

def markSettled (id : ExecutionId) (state : ExecState) : Service :=
  (s.update id fun r => { r with state := state, settled := true }).finishIdempotency id

/-- Settle with an error. -/
def settleError (id : ExecutionId) (error : ErrorDetail) (state : ExecState) : Service :=
  (s.update id fun r => { r with error := some error }).markSettled id state

/-- A never-dispatched execution terminates with `not_started` proof and no fake identity. -/
def terminateLocal (id : ExecutionId) (code : { code : String // code ≠ "" }) (message : String) :
    Service :=
  (s.update id fun r => { r with evidence := some (r.notStarted code) }).settleError id
    (errorDetail code.1 message) (if cancelCode code.1 then .cancelled else .failed)

/-- Decide whether a terminal settles now; true means fully settled. -/
def evaluate (id : ExecutionId) : Service × Bool :=
  let r := s.get id
  if r.settled || r.evidence.isNone then (s, false)
  else if r.cancelPending || r.terminalCode.isSome then
    (s.settleError id r.reasonError (if r.cancelPending then .cancelled else .failed), true)
  else if r.outputPending.isSome then
    if r.reservation.isNone then
      (s.settleError id (errorDetail "backend_failed" "a result cannot publish without dispatch")
        .failed, true)
    else (s.update id fun r => { r with publishing := true }, false)
  else (s, false)

end Service

end ModelSwitch.Execution

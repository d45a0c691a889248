import ModelSwitch.Program.Contracts
import ModelSwitch.Lib.Json
import Mathlib.Data.List.Infix

/-!
# The control protocol of executions

The part of `control_protocol_v1.py` and `ports_v3.py` that the execution service uses: the closed
error table, fences with the writeback rule, terminal evidence, and the strict parser that every
execution view has to pass.

Texts are sequences of Unicode scalar values, so the UTF-8 test of the parser is always passed and
only its test for NUL remains. `datetime.fromisoformat` is a parameter.
-/

namespace ModelSwitch

/-- What `uuid4().hex` draws for an execution. -/
abbrev ExecutionId := Uuid

/-! ### The error table -/

/-- Code, HTTP status and `retryable`. -/
def errorTable : List (String × ℕ × Bool) :=
  [("malformed_json", 400, false), ("unsupported_protocol", 400, false),
   ("peer_forbidden", 403, false), ("not_found", 404, false), ("stale_token", 409, false),
   ("session_expired", 409, false), ("idempotency_conflict", 409, false), ("busy", 409, true),
   ("blob_in_use", 409, true), ("reference_expired", 410, false),
   ("payload_too_large", 413, false), ("unsupported_media_type", 415, false),
   ("contract_violation", 422, false), ("envelope_exceeded", 422, false),
   ("capability_mismatch", 422, false), ("queue_full", 429, true), ("quota_exceeded", 429, true),
   ("backend_failed", 502, false), ("instance_unknown", 503, true),
   ("storage_unavailable", 503, true), ("resource_unavailable", 503, true),
   ("temporarily_unavailable", 503, true), ("queue_timeout", 504, true),
   ("execution_timeout", 504, false)]

/-- `code in ERROR_STATUS`. -/
def knownError (code : String) : Bool := errorTable.any (·.1 = code)

/-- `code in RETRYABLE_ERROR_CODES`. -/
def retryableError (code : String) : Bool := errorTable.any fun row => row.1 = code && row.2.2

structure ErrorDetail where
  code : String
  message : String
  retryable : Bool
  deriving DecidableEq

/-- `_error`. -/
def errorDetail (code message : String) : ErrorDetail :=
  { code := code, message := message, retryable := retryableError code }

/-! ### Texts of exceptions -/

namespace Exc

/-- `str(exc.args[0])`, empty without arguments. The argument of `StaleOperation` is an identifier
that no test below can match, and is dropped. -/
def detail : Exc → String
  | .keyError key => key
  | .valueError message | .overflowError message | .contractError message | .conflict message
  | .queueFull message | .timeoutError message => message
  | .attributeError name => name
  | .modelUnavailable code | .sessionConflict code => code
  | .sessionNotFound session => session
  | .executionError code message | .blobStoreError code message | .notDispatched code message =>
    if message = "" then code else message
  | .external name => name
  | .staleOperation _ | .cancelledError => ""

/-- `str(exc)`. -/
def text : Exc → String
  | .keyError key => "'" ++ key ++ "'"
  | e => e.detail

/-- `type(exc).__name__`. -/
def typeName : Exc → String
  | .keyError _ => "KeyError"
  | .valueError _ => "ValueError"
  | .overflowError _ => "OverflowError"
  | .attributeError _ => "AttributeError"
  | .contractError _ => "ContractError"
  | .conflict _ => "Conflict"
  | .staleOperation _ => "StaleOperation"
  | .queueFull _ => "QueueFull"
  | .modelUnavailable _ => "ModelUnavailable"
  | .sessionConflict _ => "SessionConflict"
  | .sessionNotFound _ => "SessionNotFound"
  | .timeoutError _ => "TimeoutError"
  | .executionError _ _ => "ExecutionError"
  | .blobStoreError _ _ => "BlobStoreError"
  | .notDispatched _ _ => "NotDispatched"
  | .cancelledError => "CancelledError"
  | .external name => name

end Exc

/-! ### Identifiers -/

def hexDigit (n : ℕ) : Char := "0123456789abcdef".toList.getD (n % 16) '0'

/-- The 32 lowercase digits of `uuid4().hex`. -/
def uuidHex (n : Uuid) : String :=
  String.ofList ((List.range 32).map fun i => hexDigit (n / 16 ^ (31 - i)))

/-- `[a-z0-9]`. -/
def idChar (c : Char) : Bool := c.isLower || c.isDigit

/-- `[a-z0-9._-]`. -/
def idInner (c : Char) : Bool := idChar c || c = '.' || c = '_' || c = '-'

/-- `_ID_RE.fullmatch`: at most 63 characters, the first and the last of them alphanumeric. -/
def isId (value : String) : Bool :=
  match value.toList with
  | [] => false
  | first :: rest =>
    idChar first &&
      (rest.isEmpty ||
        (rest.length ≤ 62 && rest.dropLast.all idInner && rest.getLast?.any idChar))

def isHexChar (c : Char) : Bool := c.isDigit || (c.isLower && c ≤ 'f')

/-- `_SHA256_RE.fullmatch`. -/
def isSha256 (value : String) : Bool := value.toList.length = 64 && value.toList.all isHexChar

def mediaChar (c : Char) : Bool := idChar c || c = '.' || c = '+' || c = '-'

/-- One side of a media type. -/
def isMediaPart : List Char → Bool
  | [] => false
  | first :: rest => idChar first && rest.all mediaChar

/-- `_MEDIA_TYPE_RE.fullmatch`. -/
def isMediaType (value : String) : Bool :=
  let parts := value.toList.span (· ≠ '/')
  isMediaPart parts.1 && parts.2.head?.isSome && isMediaPart parts.2.tail

/-- `_IMAGE_DIGEST_RE.fullmatch`. -/
def isImageDigest (value : String) : Bool :=
  let parts := value.toList.span (· ≠ '@')
  !parts.1.isEmpty && parts.1.all (!Py.isSpace ·) && parts.2.take 8 = "@sha256:".toList &&
    (parts.2.drop 8).length = 64 && (parts.2.drop 8).all isHexChar

/-! ### Fences and evidence -/

/-- Non-execution operations carry no execution and no attempt. -/
structure Fence where
  bootId : String
  modelId : ModelId
  generation : ℕ
  operationId : Uuid
  executionId : Option ExecutionId
  attempt : Option ℕ
  deriving DecidableEq

/-- The verdict of `writeback_decision`: `none` accepts, otherwise the reason. -/
def writebackDecision (current incoming : Fence) : Option String :=
  if incoming.bootId ≠ current.bootId then some "stale_boot"
  else if incoming.modelId ≠ current.modelId then some "foreign_model"
  else if incoming.generation ≠ current.generation then some "stale_generation"
  else if incoming.operationId ≠ current.operationId then some "stale_operation"
  else if current.executionId.isSome ∧ incoming.executionId ≠ current.executionId then
    some "foreign_execution"
  else if current.attempt.isNone ≠ incoming.attempt.isNone then some "attempt_mismatch"
  else
    match current.attempt, incoming.attempt with
    | some c, some i => if i < c then some "stale_attempt" else none
    | _, _ => none

structure InstanceIdentity where
  containerId : String
  startedAt : String
  deploymentId : String
  modelId : String
  runtimeId : String
  candidateDigest : String
  imageDigest : String
  deriving DecidableEq

inductive DispatchState
  | notStarted
  | dispatched
  deriving DecidableEq, Repr

/-- The fields of `TerminationEvidence`; `compute_quiescent` is always true. -/
structure EvidenceFields where
  fence : Fence
  dispatchState : DispatchState
  deviceSynchronized : Bool
  reason : Option String := none
  identity : Option InstanceIdentity := none

/-- `__post_init__`: dispatched evidence names its execution, its instance and a reason; evidence of
a request that never started names no instance. -/
def EvidenceFields.checked (e : EvidenceFields) : Bool :=
  match e.dispatchState with
  | .dispatched =>
    e.fence.executionId.isSome && e.fence.attempt.isSome && e.identity.isSome &&
      e.reason.any (· ≠ "")
  | .notStarted => e.identity.isNone && e.reason.all (· ≠ "")

/-- Terminal proof: only fields that pass `__post_init__` make evidence. -/
abbrev TerminationEvidence := { e : EvidenceFields // e.checked = true }

/-- The evidence of a dispatched execution whose instance was seen to be stopped. -/
def EvidenceFields.independent (e : EvidenceFields) : Bool :=
  e.dispatchState = .dispatched && e.reason = some "independent_STOPPED"

/-! ### Execution views -/

inductive ExecState
  | queued
  | running
  | succeeded
  | failed
  | cancelling
  | cancelled
  deriving DecidableEq, Repr

/-- `EXECUTION_TERMINAL_STATES`. -/
def ExecState.terminal : ExecState → Bool
  | .succeeded | .failed | .cancelled => true
  | .queued | .running | .cancelling => false

def ExecState.name : ExecState → String
  | .queued => "queued"
  | .running => "running"
  | .succeeded => "succeeded"
  | .failed => "failed"
  | .cancelling => "cancelling"
  | .cancelled => "cancelled"

structure BlobRef where
  blobId : String
  owner : String
  sha256 : String
  sizeBytes : ℤ
  mediaType : String
  deriving DecidableEq

/-- `fence_document`. -/
structure FenceDocument where
  bootId : String
  modelId : String
  generation : ℤ
  operationId : String
  executionId : Option String
  attempt : Option ℤ
  deriving DecidableEq

def Fence.document (f : Fence) : FenceDocument where
  bootId := f.bootId
  modelId := f.modelId
  generation := f.generation
  operationId := uuidHex f.operationId
  executionId := f.executionId.map uuidHex
  attempt := f.attempt.map (↑)

/-- The document of an execution view; a parsed `ExecutionView` has the same fields. -/
structure ViewDocument where
  executionId : String
  state : ExecState
  dispatchState : DispatchState
  computeQuiescent : Option Bool
  result : Option BlobRef
  error : Option ErrorDetail
  identity : Option InstanceIdentity
  fence : FenceDocument
  deriving DecidableEq

/-- `1024**3`. -/
def maxBlobBytes : ℕ := 1073741824

namespace Protocol

/-- A check that fails with a `ContractError`. -/
def require (condition : Bool) (message : String) : Except Exc Unit :=
  if condition then .ok () else .error (.contractError message)

/-- `_check_utf8_text`. -/
def plainText (value : String) : Bool := !value.toList.contains (Char.ofNat 0)

/-- `_text`. -/
def text (value loc : String) : Except Exc Unit := do
  require (value ≠ "") (loc ++ ": must be a non-empty string")
  require (plainText value) (loc ++ ": must not contain NUL")

/-- `_id_field`. -/
def idField (value key loc : String) : Except Exc Unit := do
  text value (loc ++ "." ++ key)
  require (isId value) (loc ++ ": " ++ key ++ " must be a lowercase opaque id: '" ++ value ++ "'")

def intAtLeast (value minimum : ℤ) (key loc : String) : Except Exc Unit :=
  require (minimum ≤ value) (loc ++ ": " ++ key ++ " must be >= " ++ toString minimum)

def intAtMost (value maximum : ℤ) (key loc : String) : Except Exc Unit :=
  require (value ≤ maximum) (loc ++ ": " ++ key ++ " must be <= " ++ toString maximum)

/-- `_sha256_field`. -/
def sha256Field (value loc : String) : Except Exc Unit :=
  require (isSha256 value) (loc ++ ": must be a lowercase 64-hex SHA-256")

def parseErrorDetail (d : ErrorDetail) (loc : String) : Except Exc Unit := do
  text d.code (loc ++ ".code")
  require (knownError d.code) (loc ++ ": unknown error code: '" ++ d.code ++ "'")
  text d.message (loc ++ ".message")
  require (d.retryable = retryableError d.code)
    (loc ++ ": retryable does not match the error table for '" ++ d.code ++ "'")

def parseBlobRef (b : BlobRef) (loc : String) : Except Exc Unit := do
  idField b.blobId "blob_id" loc
  text b.owner (loc ++ ".owner")
  sha256Field b.sha256 (loc ++ ".sha256")
  intAtLeast b.sizeBytes 1 "size_bytes" loc
  intAtMost b.sizeBytes maxBlobBytes "size_bytes" loc
  text b.mediaType (loc ++ ".media_type")
  require (isMediaType b.mediaType)
    (loc ++ ": media_type must be a lowercase type/subtype without parameters")

def parseFence (f : FenceDocument) (loc : String) : Except Exc Unit := do
  text f.bootId (loc ++ ".boot_id")
  idField f.modelId "model_id" loc
  intAtLeast f.generation 1 "generation" loc
  idField f.operationId "operation_id" loc
  require (f.executionId.isNone = f.attempt.isNone)
    (loc ++ ": execution_id and attempt must be null together")
  require (f.executionId.all isId) (loc ++ ": execution_id must be a lowercase opaque id")
  require (f.attempt.all (1 ≤ ·)) (loc ++ ": an execution fence requires attempt >= 1")

/-- `_utc_timestamp_field`; `fromIsoformat` is `none` where the source's raises, and then the UTC
offset in seconds, if the timestamp carries one. -/
def utcTimestampField (fromIsoformat : String → Option (Option ℤ)) (value key loc : String) :
    Except Exc Unit := do
  text value (loc ++ "." ++ key)
  require (fromIsoformat value).isSome (loc ++ ": " ++ key ++ " must be an ISO-8601 timestamp")
  require (fromIsoformat value = some (some 0)) (loc ++ ": " ++ key ++ " must carry a UTC offset")

def parseInstanceIdentity (fromIsoformat : String → Option (Option ℤ)) (i : InstanceIdentity)
    (loc : String) : Except Exc Unit := do
  text i.containerId (loc ++ ".container_id")
  utcTimestampField fromIsoformat i.startedAt "started_at" loc
  idField i.deploymentId "deployment_id" loc
  idField i.modelId "model_id" loc
  idField i.runtimeId "runtime_id" loc
  sha256Field i.candidateDigest (loc ++ ".candidate_digest")
  text i.imageDigest (loc ++ ".image_digest")
  require (isImageDigest i.imageDigest) (loc ++ ": image_digest must be name@sha256:<64-hex>")

/-- A field that may be null is parsed where it is not. -/
def nullable {α : Type} (value : Option α) (parse : α → Except Exc Unit) : Except Exc Unit :=
  match value with
  | none => .ok ()
  | some a => parse a

/-- What the state asks of `compute_quiescent`, the result and the error. -/
def parseOutcome (d : ViewDocument) (loc : String) : Except Exc Unit :=
  if d.state.terminal then do
    require (d.computeQuiescent = some true)
      (loc ++ ": a terminal execution must report compute_quiescent=true")
    if d.state = .succeeded then do
      require d.result.isSome (loc ++ ": a succeeded execution requires a result")
      require d.error.isNone (loc ++ ": a succeeded execution must not carry an error")
    else do
      require d.error.isSome (loc ++ ": a " ++ d.state.name ++ " execution requires an error")
      require d.result.isNone
        (loc ++ ": a " ++ d.state.name ++ " execution must not carry a result")
  else do
    require d.computeQuiescent.isNone
      (loc ++ ": a non-terminal execution must report compute_quiescent=null")
    require d.result.isNone (loc ++ ": a non-terminal execution must not carry a result")
    require d.error.isNone (loc ++ ": a non-terminal execution must not carry an error")

/-- `parse_execution_view` of a document with exactly the keys of a view. -/
def parseExecutionView (fromIsoformat : String → Option (Option ℤ)) (d : ViewDocument) :
    Except Exc Unit := do
  let loc := "execution_view"
  idField d.executionId "execution_id" loc
  parseFence d.fence (loc ++ ".fence")
  require (d.fence.executionId = some d.executionId && d.fence.attempt.isSome)
    (loc ++ ": fence must identify this execution with attempt >= 1")
  nullable d.identity (parseInstanceIdentity fromIsoformat · (loc ++ ".instance"))
  match d.dispatchState with
  | .dispatched =>
    require d.identity.isSome
      (loc ++ ": a dispatched execution requires a full instance identity")
  | .notStarted =>
    require d.identity.isNone
      (loc ++ ": a not_started execution must not carry a container identity")
  nullable d.result (parseBlobRef · (loc ++ ".result"))
  nullable d.error (parseErrorDetail · (loc ++ ".error"))
  parseOutcome d loc

end Protocol

end ModelSwitch

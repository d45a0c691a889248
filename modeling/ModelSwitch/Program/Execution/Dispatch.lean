import ModelSwitch.Program.Execution.Settle

/-!
# Dispatching an execution

`submit`, the dispatch loop of a session, `_run` and the coroutines it awaits.
-/

namespace ModelSwitch.Execution

/-- `4 * 1024 * 1024`. -/
def maxInlineInputBytes : ℕ := 4194304

namespace Record

variable (r : Record)

/-- The fence of the same operation under another generation. -/
def refence (bootId : String) (generation : ℕ) : Fence where
  bootId := bootId
  modelId := r.modelId
  generation := generation
  operationId := r.fence.operationId
  executionId := some r.executionId
  attempt := r.fence.attempt

/-- Evidence that the instance has finished; `__post_init__` may refuse it. -/
def dispatchedEvidence (reason : String) (identity : InstanceIdentity) :
    Except Exc TerminationEvidence :=
  let fields : EvidenceFields :=
    { fence := r.fence, dispatchState := .dispatched, deviceSynchronized := true,
      reason := some reason, identity := some identity }
  if h : fields.checked = true then .ok ⟨fields, h⟩
  else .error
    (.contractError "termination.fence: a dispatched execution requires an execution fence")

end Record

namespace Service

variable (s : Service)

def ensureQuiescer (v : TaskView) (model : ModelId) : Service × List Spawn :=
  if (s.quiescers.get? model).all v.ended then
    ({ s with quiescers := s.quiescers.set model v.fresh }, [.quiesceModel model])
  else (s, [])

def ensureDispatcher (v : TaskView) (session : SessionId) : Service × List Spawn :=
  if ((s.dispatchers.get? session).getD none).all v.ended then
    ({ s with dispatchers := s.dispatchers.set session (some v.fresh) }, [.dispatchLoop session])
  else (s, [])

end Service

/-- End a coroutine that may owe the model a stop. -/
def quiesceIf {α : Type} (needed : Bool) (v : TaskView) (id : ExecutionId) (s : Service) :
    Effect α Unit :=
  if needed then
    let ensured := s.ensureQuiescer v (s.get id).modelId
    { next := ensured.1, spawn := ensured.2, ctl := .ret () }
  else .ret s ()

/-! ### `_on_timeout` -/

namespace OnTimeout

inductive Pc
  | enter
  | effects (pc : CancelSideEffects.Pc)
  | tearing (pc : Teardown.Pc)
  deriving DecidableEq

variable (s : Service) (v : TaskView) (id : ExecutionId)

def concluded (s : Service) : Except Exc Unit → Effect Pc Unit
  | .ok () =>
    if (s.conclude id).2 then
      (Teardown.start (s.conclude id).1 id).bind .tearing fun s r => { next := s, ctl := .done r }
    else .ret (s.conclude id).1 ()
  | .error e => .raise s.unlock e

def enter : Effect Pc Unit :=
  if (s.get id).settled then .ret s ()
  else
    let s := { s with lock := some (v.self, some id) }.mark id true "execution_timeout"
      "execution deadline elapsed"
    (CancelSideEffects.start s id).bind .effects fun s r => concluded id s r

def step : Pc → Input → Option (Effect Pc Unit)
  | .enter, inp => withLock s (enter s v id) inp
  | .effects pc, inp =>
    (CancelSideEffects.step s id pc inp).map (·.bind .effects fun s r => concluded id s r)
  | .tearing pc, inp =>
    (Teardown.step s id pc inp).map (·.bind .tearing fun s r => { next := s, ctl := .done r })

def thrown : Pc → Service
  | .effects _ => s.unlock
  | _ => s

end OnTimeout

/-! ### `_terminate_uncertain` -/

namespace TerminateUncertain

inductive Pc
  | enter (message : String)
  | effects (needQuiesce : Bool) (pc : CancelSideEffects.Pc)
  | tearing (needQuiesce : Bool) (pc : Teardown.Pc)
  deriving DecidableEq

variable (s : Service) (v : TaskView) (id : ExecutionId)

def torn (needQuiesce : Bool) (s : Service) : Except Exc Unit → Effect Pc Unit
  | .ok () => quiesceIf needQuiesce v id s
  | .error e => .raise s e

def concluded (needQuiesce : Bool) (s : Service) : Except Exc Unit → Effect Pc Unit
  | .ok () =>
    if (s.conclude id).2 then
      (Teardown.start (s.conclude id).1 id).bind (.tearing needQuiesce)
        fun s r => torn v id needQuiesce s r
    else quiesceIf needQuiesce v id (s.conclude id).1
  | .error e => .raise s.unlock e

/-- A broken stream of a managed model waits for the shared stop. -/
def awaitStop (s : Service) : Except Exc (Service × Bool) :=
  let r := s.get id
  if s.cfg.managedTermination ∧ r.dispatchStarted = true then
    let s := s.update id fun r => { r with awaitingQuiescence := true }
    if r.identity.isSome then .ok (s, true)
    else if s.cfg.backends.contains r.modelId then
      let expected := s.env.currentIdentity r.modelId
      .ok (s.update id fun r => { r with expectedInstance := expected }, true)
    else .error (.keyError r.modelId)
  else .ok (s, false)

/-- No terminal is invented: the lease and the budget stay. -/
def enter (message : String) : Effect Pc Unit :=
  if (s.get id).settled then .ret s ()
  else
    let s := { s with lock := some (v.self, some id) }.mark id false "backend_failed" message
    match awaitStop id s with
    | .error e =>
      .raise (s.update id fun r => { r with awaitingQuiescence := true }).unlock e
    | .ok (s, needQuiesce) =>
      (CancelSideEffects.start s id).bind (.effects needQuiesce)
        fun s r => concluded v id needQuiesce s r

def step : Pc → Input → Option (Effect Pc Unit)
  | .enter message, inp => withLock s (enter s v id message) inp
  | .effects needQuiesce pc, inp =>
    (CancelSideEffects.step s id pc inp).map
      (·.bind (.effects needQuiesce) fun s r => concluded v id needQuiesce s r)
  | .tearing needQuiesce pc, inp =>
    (Teardown.step s id pc inp).map
      (·.bind (.tearing needQuiesce) fun s r => torn v id needQuiesce s r)

def thrown : Pc → Service
  | .effects _ _ => s.unlock
  | _ => s

end TerminateUncertain

/-! ### `_after_execute` -/

namespace AfterExecute

inductive Pc
  | localEnd (code message : String)
  | tearing (pc : Teardown.Pc)
  | settle (handle : ExecutionHandle) (body : Option Body)
  | dropping (handle : ExecutionHandle) (pc : CancelSideEffects.Pc)
  | advancing (needQuiesce cancelPending : Bool) (pc : Advance.Pc)
  | cancelling
  | uncertain (pc : TerminateUncertain.Pc)
  deriving DecidableEq

variable (s : Service) (v : TaskView) (id : ExecutionId)

/-- `f"{type(exc).__name__}: {exc}" if str(exc) else type(exc).__name__`. -/
def failureText (e : Exc) : String :=
  if e.text = "" then e.typeName else e.typeName ++ ": " ++ e.text

/-- The task of the backend call has ended; `body` is what `take_result` delivers. -/
def start (body : Option Body) : Except Exc ExecutionHandle → Effect Pc Unit
  | .error (.notDispatched code message) =>
    .goto s (.localEnd code (Exc.notDispatched code message).text)
  | .error .cancelledError => .goto s (.uncertain (.enter "the execution task was cancelled"))
  | .error e =>
    .goto s (.uncertain (.enter
      ("the backend raised without a trusted terminal (" ++ failureText e ++ ")")))
  | .ok handle =>
    if s.cfg.backends.contains (s.get id).modelId then .goto s (.settle handle body)
    else .raise s (.keyError (s.get id).modelId)

def localEnd (code message : String) : Effect Pc Unit :=
  if (s.get id).settled then .ret s ()
  else if h : code = "" then
    .raise s (.contractError "termination.reason: must be a non-empty string")
  else
    (Teardown.start (s.terminateLocal id ⟨code, h⟩ message) id).bind .tearing
      fun s r => { next := s, ctl := .done r }

/-- The last part of `_after_execute`: the stop that is owed, then the backend's own cancel. -/
def finish (needQuiesce cancelPending : Bool) (s : Service) : Except Exc Unit → Effect Pc Unit
  | .error e => .raise s e
  | .ok () =>
    let ensured := if needQuiesce then s.ensureQuiescer v (s.get id).modelId else (s, [])
    { next := ensured.1, spawn := ensured.2,
      ctl := if cancelPending then .goto .cancelling else .ret () }

/-- A managed execution settles at once only where the adapter claims a trusted protocol. -/
def quiescence (s : Service) (handle : ExecutionHandle) : Except Exc (Service × Bool) :=
  if s.cfg.managedTermination then
    if s.env.claimsDeviceQuiescence (s.get id).modelId then
      if (s.get id).evidence.isNone then
        match (s.get id).dispatchedEvidence "request_protocol_terminated" handle.identity with
        | .error e => .error e
        | .ok evidence =>
          .ok (s.update id fun r => { r with evidence := some evidence }, false)
      else .ok (s, false)
    else .ok (s.update id fun r => { r with awaitingQuiescence := true }, true)
  else .ok (s, false)

/-- The end of the section under the lock. -/
def resolve (s : Service) (handle : ExecutionHandle) : Effect Pc Unit :=
  match quiescence id s handle with
  | .error e => .raise s.unlock e
  | .ok (s, needQuiesce) =>
    let settled := (s.conclude id).2
    let s := (s.conclude id).1
    let cancelPending := (s.get id).cancelPending && !(s.get id).settled
    (Advance.start s id settled).bind (.advancing needQuiesce cancelPending)
      fun s r => finish v id needQuiesce cancelPending s r

def dropped (handle : ExecutionHandle) (s : Service) : Except Exc Unit → Effect Pc Unit
  | .ok () => resolve v id s handle
  | .error e => .raise s.unlock e

/-- A late body is dropped, and one that comes during a publish is ignored. -/
def deliver (handle : ExecutionHandle) (s : Service) : Option Body → Effect Pc Unit
  | none => resolve v id s handle
  | some body =>
    if (s.get id).cancelPending then
      let s := s.update id fun r => { r with outputPending := none }
      (CancelSideEffects.cancelReservation s id).bind (.dropping handle)
        fun s r => dropped v id handle s r
    else if (s.get id).publishing then resolve v id s handle
    else resolve v id (s.update id fun r => { r with outputPending := some body }) handle

def settle (handle : ExecutionHandle) (body : Option Body) : Effect Pc Unit :=
  if (s.get id).settled then .ret s ()
  else
    let s := { s with lock := some (v.self, none) }.update id fun r =>
      { r with identity := some handle.identity, dispatchState := .dispatched }
    deliver v id handle s body

def step : Pc → Input → Option (Effect Pc Unit)
  | .localEnd code message, inp => withLock s (localEnd s id code message) inp
  | .tearing pc, inp =>
    (Teardown.step s id pc inp).map (·.bind .tearing fun s r => { next := s, ctl := .done r })
  | .settle handle body, inp => withLock s (settle s v id handle body) inp
  | .dropping handle pc, inp =>
    (CancelSideEffects.step s id pc inp).map
      (·.bind (.dropping handle) fun s r => dropped v id handle s r)
  | .advancing needQuiesce cancelPending pc, inp =>
    (Advance.step s id pc inp).map
      (·.bind (.advancing needQuiesce cancelPending)
        fun s r => finish v id needQuiesce cancelPending s r)
  | .cancelling, .answer _ => some (.ret s ())
  | .uncertain pc, inp =>
    (TerminateUncertain.step s v id pc inp).map
      (·.bind .uncertain fun s r => { next := s, ctl := .done r })
  | _, _ => none

def thrown : Pc → Service
  | .dropping _ _ => s.unlock
  | .advancing _ _ pc => Advance.thrown s id pc
  | .uncertain pc => TerminateUncertain.thrown s pc
  | _ => s

end AfterExecute

/-! ### `_run` -/

namespace Run

inductive Pc
  | guard
  | refuse (code : { code : String // code ≠ "" }) (message : String)
  | openInput
  | inputFailed (code : { code : String // code ≠ "" })
  | storeInput (ctx : InputContext) (path : String)
  | acquiring (path : Option String)
  | admitFailed (code : { code : String // code ≠ "" }) (message : String)
  | retry
  | handOver (path : Option String) (lease : Lease)
  | reserving (path : Option String) (fence : Fence)
  | dispatch (path : Option String) (fence : Fence) (reservation : OutputReservation)
  | discardCancel
  | discardAbandon
  | tearing (pc : Teardown.Pc)
  | executing
  | after (pc : AfterExecute.Pc)
  | timingOut (pc : OnTimeout.Pc)
  | uncertain (pc : TerminateUncertain.Pc)
  deriving DecidableEq

variable (s : Service) (v : TaskView) (id : ExecutionId)

/-- `except Exception` of `_run`: never strand a record or a lease. -/
def failed (e : Exc) : Effect Pc Unit :=
  if e = .cancelledError then .raise s e
  else .goto s (.uncertain (.enter ("service failure: " ++ e.text)))

/-- What an awaited coroutine raises reaches the handler of `_run`. -/
def guarded (s : Service) : Except Exc Unit → Effect Pc Unit
  | .ok () => .ret s ()
  | .error e => failed s e

/-- Tear down and return. -/
def teardown : Effect Pc Unit := (Teardown.start s id).bind .tearing guarded

/-- Settle an execution that was not dispatched, unless it is settled, and tear it down. -/
def settleLocal (code : { code : String // code ≠ "" }) (message : String) : Effect Pc Unit :=
  teardown (if (s.get id).settled then s else s.terminateLocal id code message) id

/-- `_pre_dispatch_guard`: re-validate session, capability, protocol limits and generation. -/
def guard : Effect Pc Unit :=
  let r := s.get id
  if r.settled then .ret s ()
  else
    match s.env.sessions.records.get? r.sessionId with
    | none => .goto s (.refuse ⟨"session_not_active", by decide⟩ "the session is gone")
    | some session =>
      if session.phase ≠ .active ∨ s.env.sessions.isLive r.sessionId s.env.now = false then
        .goto s (.refuse ⟨"session_expired", by decide⟩ "the session is no longer live")
      else
        match s.env.capabilities.get? r.modelId with
        | none => failed s (.keyError r.modelId)
        | some capabilities =>
          if capabilities.contains r.operation = false then
            .goto s (.refuse ⟨"capability_mismatch", by decide⟩
              "the model no longer registers this operation")
          else
            match r.input, s.env.book.runtime.get? r.modelId with
            | .inline document, runtime =>
              if maxInlineInputBytes < document.utf8ByteSize then
                .goto s (.refuse ⟨"payload_too_large", by decide⟩
                  "the inline input exceeds the protocol limit")
              else
                match runtime with
                | none => failed s (.keyError r.modelId)
                | some runtime =>
                  .goto (s.update id fun r => { r with
                    fence := if runtime.generation ≠ r.fence.generation then
                        r.refence s.cfg.bootId runtime.generation else r.fence }) (.acquiring none)
            | .blob _, none => failed s (.keyError r.modelId)
            | .blob _, some runtime =>
              .goto (s.update id fun r => { r with
                fence := if runtime.generation ≠ r.fence.generation then
                    r.refence s.cfg.bootId runtime.generation else r.fence }) .openInput

/-- The guard refused; the settle is a section of its own. -/
def refuse (code : { code : String // code ≠ "" }) (message : String) : Effect Pc Unit :=
  if (s.get id).settled then .ret s () else settleLocal s id code message

/-- `_BLOB_CODES.get(exc.code, "not_found")`. -/
def inputCode (code : String) : { code : String // code ≠ "" } :=
  if h : (blobCode code).getD "not_found" = "" then ⟨"not_found", by decide⟩
  else ⟨(blobCode code).getD "not_found", h⟩

/-- The read lease of the input is entered, or refused. -/
def opened : Except Exc String → Effect Pc Unit
  | .ok path =>
    .goto ({ s with uuids := s.uuids + 1 }.note (.opened id s.uuids)) (.storeInput s.uuids path)
  | .error (.blobStoreError code _) => .goto s (.inputFailed (inputCode code))
  | .error e => failed s e

/-- The code of a refused admission. -/
def admitCode (detail : String) : { code : String // code ≠ "" } :=
  if h : knownError detail = true ∧ detail ≠ "" then ⟨detail, h.2⟩
  else if "storage".toList <:+: detail.toList then ⟨"storage_unavailable", by decide⟩
  else ⟨"temporarily_unavailable", by decide⟩

/-- The code of a session conflict, which need not be in the error table. -/
def conflictCode (detail : String) : { code : String // code ≠ "" } :=
  if h : knownError detail = true ∧ detail ≠ "" then ⟨detail, h.2⟩
  else ⟨"session_not_active", by decide⟩

/-- `_admit`: one lease from the single authority. -/
def acquired (path : Option String) : Except Exc Lease → Effect Pc Unit
  | .ok lease => .goto (s.note (.granted id lease)) (.handOver path lease)
  | .error (.timeoutError _) =>
    .goto s (.admitFailed ⟨"queue_timeout", queue_timeout_ne⟩ "queue deadline elapsed")
  | .error (.sessionConflict code) =>
    .goto s (.admitFailed (conflictCode code) "the session is no longer active")
  | .error e =>
    if e = .cancelledError then .raise s e
    else if e.detail = "session_slots_exhausted" then .goto s .retry
    else .goto s (.admitFailed (admitCode e.detail) "admission refused the execution")

/-- The lease is filed with its record, unless the execution was settled in the meantime. -/
def handOver (path : Option String) (lease : Lease) : Effect Pc Unit :=
  if (s.get id).settled then teardown s id
  else
    let s := s.update id fun r => { r with
      lease := some lease,
      fence := if lease.generation ≠ r.fence.generation then
          r.refence s.cfg.bootId lease.generation else r.fence }
    .goto s (.reserving path (s.get id).fence)

/-- `_execute` up to the wait for the backend. -/
def execute (path : Option String) : Effect Pc Unit :=
  if s.cfg.backends.contains (s.get id).modelId then
    .goto (s.note (.execute id (s.get id).fence path)) .executing
  else failed s (.keyError (s.get id).modelId)

def dispatch (path : Option String) (fence : Fence) (reservation : OutputReservation) :
    Effect Pc Unit :=
  if (s.get id).settled = true ∨ (s.get id).fence ≠ fence then .goto s .discardCancel
  else
    execute (s.update id fun r => { r with
      reservation := some reservation, dispatchStarted := true,
      state := if r.terminal then r.state else .running }) id path

def step : Pc → Input → Option (Effect Pc Unit)
  | .guard, inp => withLock s (guard s id) inp
  | .refuse code message, inp => withLock s (refuse s id code message) inp
  | .openInput, .opened r => some (opened s id r)
  | .inputFailed code, inp =>
    withLock s (settleLocal s id code "the blob input is not readable") inp
  | .storeInput ctx path, inp =>
    withLock s (.goto (s.update id fun r => { r with inputCtx := some ctx })
      (.acquiring (some path))) inp
  | .acquiring path, .acquired r => some (acquired s id path r)
  | .admitFailed code message, inp => withLock s (settleLocal s id code message) inp
  | .retry, inp =>
    withLock s (.ret (s.update id fun r => { r with dispatchClaimed := false }) ()) inp
  | .handOver path lease, inp => withLock s (handOver s id path lease) inp
  | .reserving path fence, .reserved (.ok reservation) =>
    some (.goto s (.dispatch path fence reservation))
  | .reserving _ _, .reserved (.error e) => some (failed s e)
  | .dispatch path fence reservation, inp => withLock s (dispatch s id path fence reservation) inp
  | .discardCancel, .flag (.ok _) => some (.goto s .discardAbandon)
  | .discardCancel, .flag (.error _) => some (teardown s id)
  | .discardAbandon, .answer _ => some (teardown s id)
  | .tearing pc, inp => (Teardown.step s id pc inp).map (·.bind .tearing guarded)
  | .executing, .executed r body =>
    some ((AfterExecute.start s id body r).bind .after guarded)
  | .executing, .timeout =>
    if s.env.now < (s.get id).deadline then none else some (.goto s (.timingOut .enter))
  | .after pc, inp => (AfterExecute.step s v id pc inp).map (·.bind .after guarded)
  | .timingOut pc, inp =>
    (OnTimeout.step s v id pc inp).map (·.bind .timingOut fun s r =>
      match r with
      | .ok () => { next := s, spawn := [.lateExecute id], ctl := .ret () }
      | .error e => failed s e)
  | .uncertain pc, inp =>
    (TerminateUncertain.step s v id pc inp).map
      (·.bind .uncertain fun s r => { next := s, ctl := .done r })
  | _, _ => none

/-- `except asyncio.CancelledError: raise`. -/
def thrown : Pc → Service
  | .after pc => AfterExecute.thrown s id pc
  | .timingOut pc => OnTimeout.thrown s pc
  | .uncertain pc => TerminateUncertain.thrown s pc
  | _ => s

end Run

/-! ### The late end of a backend call -/

namespace LateExecute

inductive Pc
  | waiting
  | after (pc : AfterExecute.Pc)

variable (s : Service) (v : TaskView) (id : ExecutionId)

def step : Pc → Input → Option (Effect Pc Unit)
  | .waiting, .executed r body =>
    some ((AfterExecute.start s id body r).bind .after fun s r => { next := s, ctl := .done r })
  | .after pc, inp =>
    (AfterExecute.step s v id pc inp).map
      (·.bind .after fun s r => { next := s, ctl := .done r })
  | _, _ => none

def thrown : Pc → Service
  | .waiting => s
  | .after pc => AfterExecute.thrown s id pc

end LateExecute

/-! ### `_dispatch_loop` -/

namespace DispatchLoop

inductive Pc
  | begin
  | scan
  | sleeping (wake : Time)

variable (s : Service) (session : SessionId)

/-- The queued executions of the session that no dispatch has claimed. -/
def waiting : List Record :=
  s.records.values.filter fun r =>
    r.sessionId = session && !r.settled && !r.dispatchStarted && !r.dispatchClaimed &&
      r.state = .queued && !s.quiescing.contains r.modelId

def expired : List Record := (waiting s session).filter (·.deadline ≤ s.env.now)

def heads : List Record := (waiting s session).filter (s.env.now < ·.deadline)

def expire (s : Service) (r : Record) : Service :=
  s.terminateLocal r.executionId ⟨"queue_timeout", queue_timeout_ne⟩ "queue deadline elapsed"

def claim (s : Service) (r : Record) : Service :=
  s.update r.executionId fun r => { r with dispatchClaimed := true }

/-- `finally: self._dispatchers[session_id] = None`. -/
def clear (s : Service) : Service := { s with dispatchers := s.dispatchers.set session none }

def scan : Effect Pc Unit :=
  let expired := expired s session
  let heads := heads s session
  let s := heads.foldl claim (expired.foldl expire s)
  let unsettled := s.records.values.any fun r => r.sessionId = session && !r.settled
  if expired.isEmpty && heads.isEmpty && !unsettled then .ret (clear session s) ()
  else
    { next := s, spawn := heads.map (.run ·.executionId),
      ctl := .goto (.sleeping (s.env.now + s.cfg.pollSeconds)) }

def step : Pc → Input → Option (Effect Pc Unit)
  | .begin, .go => some (.goto s .scan)
  | .scan, inp => withLock s (scan s session) inp
  | .sleeping wake, .timeout => if s.env.now < wake then none else some (.goto s .scan)
  | _, _ => none

/-- A task that never ran has not entered the `try`. -/
def thrown : Pc → Service
  | .begin => s
  | _ => clear session s

end DispatchLoop

/-! ### `submit` -/

structure SubmitCall where
  sessionId : SessionId
  owner : String
  operation : String
  input : ExecutionInput
  parameters : String
  idempotencyKey : String
  /-- What the token authority says of the session token. -/
  token : Except (String × String) Unit

namespace Submit

variable (s : Service) (v : TaskView) (c : SubmitCall)

def payload : SubmitPayload where
  sessionId := c.sessionId
  operation := c.operation
  input := c.input
  parameters := c.parameters

/-- The checks between the claim of the key and the new record. -/
def refusal (session : SessionRecord) : Except Exc ℕ :=
  if session.phase ≠ .active then
    .error (.executionError "session_not_active" "only an ACTIVE session may submit")
  else if s.env.sessions.isLive c.sessionId s.env.now = false then
    .error (.executionError "session_expired" "the session is no longer live")
  else
    match s.env.capabilities.get? session.modelId with
    | none => .error (.keyError session.modelId)
    | some capabilities =>
      if capabilities.contains c.operation = false then
        .error (.executionError "capability_mismatch"
          "the model does not register this operation")
      else if s.cfg.queueCapacity ≤ (s.records.values.filter fun r =>
          r.sessionId = c.sessionId && r.state = .queued).length then
        .error (.executionError "queue_full" "the session execution queue is full")
      else
        match s.env.book.runtime.get? session.modelId with
        | none => .error (.keyError session.modelId)
        | some runtime =>
          if runtime.generation < 1 then
            .error (.executionError "session_not_active"
              "the session model has no live generation")
          else .ok runtime.generation

/-- The record of a new execution; its two identifiers are drawn one after the other. -/
def newRecord (session : SessionRecord) (generation : ℕ) (idem : Option Uuid) : Record where
  executionId := s.uuids
  sessionId := c.sessionId
  modelId := session.modelId
  owner := c.owner
  operation := c.operation
  input := c.input
  parameters := c.parameters
  deadline := min (s.env.now + s.cfg.waitSeconds) session.hardDeadline
  fence := { bootId := s.cfg.bootId, modelId := session.modelId, generation := generation,
             operationId := s.uuids + 1, executionId := some s.uuids, attempt := some 1 }
  outputBlobId := "o-" ++ uuidHex s.uuids
  idempotency := idem

/-- `except ExecutionError`: a refusal must not strand the key. -/
def refused (s : Service) (idem : Option Uuid) (e : Exc) : Effect Empty Value :=
  match e, idem with
  | .executionError _ _, some i =>
    if s.idempotency.stateOf i = some .pending then
      .raise { s with idempotency := s.idempotency.fail i } e
    else .raise s e
  | _, _ => .raise s e

/-- File the record, bind the key to it and wake the dispatcher. -/
def create (s : Service) (session : SessionRecord) (generation : ℕ) (idem : Option Uuid) :
    Effect Empty Value :=
  let r := newRecord s c session generation idem
  let s := { s with records := s.records.set r.executionId r, uuids := s.uuids + 2 }
  match r.view s.cfg.fromIsoformat with
  | .error e => refused s idem e
  | .ok view =>
    let s := match idem with
      | none => s
      | some i =>
        { s with idempotency :=
            s.idempotency.complete i 202 r.executionId (some r.deadline) s.env.wallClock }
    let ensured := s.ensureDispatcher v c.sessionId
    { next := ensured.1, spawn := ensured.2, ctl := .ret (.view view) }

/-- The part of `submit` after the key is claimed. -/
def claimed (s : Service) (session : SessionRecord) (idem : Option Uuid) : Effect Empty Value :=
  match refusal s c session with
  | .error e => refused s idem e
  | .ok generation => create v c s session generation idem

def begin : Effect Empty Value :=
  match s.env.sessions.records.get? c.sessionId with
  | none => .raise s (.executionError "not_found" "unknown session")
  | some session =>
    match c.token, s.cfg.tokens, c.input with
    | .error e, true, _ => .raise s (.executionError e.1 e.2)
    | _, _, input =>
      let foreign := match input with
        | .inline _ => false
        | .blob ref => decide (ref.owner ≠ blobOwnerFor c.owner)
      if foreign then
        .raise s (.executionError "not_found"
          "the blob reference does not belong to this owner")
      else if s.cfg.idempotent then
        let begun := s.idempotency.begin s.uuids c.owner c.idempotencyKey (payload c)
          s.env.wallClock
        let s := { s with idempotency := begun.1, uuids := s.uuids + 1 }
        match begun.2 with
        | .error e => .raise s e
        | .ok i =>
          if s.idempotency.stateOf i = some .completed then
            -- a replay returns the object's current state
            match (s.idempotency.objects.get? i).bind (·.resourceId) with
            | none => .raise s (.executionError "not_found"
                "the replayed object is gone with its session")
            | some id =>
              match s.records.get? id with
              | none => .raise s (.executionError "not_found"
                  "the replayed object is gone with its session")
              | some _ => returnView s id
          else claimed v c s session (some i)
      else claimed v c s session none

def step (inp : Input) : Option (Effect Empty Value) := withLock s (begin s v c) inp

end Submit

end ModelSwitch.Execution

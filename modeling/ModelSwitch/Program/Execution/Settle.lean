import ModelSwitch.Program.Execution.Record

/-!
# Settling an execution

The coroutines of `execution_service.py` that end an execution: the teardown of its resources, the
side effects of a cancellation, the publication of its result, and the public calls `cancel`,
`report_output` and `report_terminal`.

A coroutine is a program counter with a step, as in the scheduler. The entry of the service lock is
a suspension; the step that follows it needs the lock to be free. What an awaited coroutine returns
is handled in the same section, so the continuation of `Effect.bind` gets the service.
-/

namespace ModelSwitch.Execution

/-- A task that a section starts. -/
inductive Spawn
  | dispatchLoop (session : SessionId)
  | run (id : ExecutionId)
  | lateExecute (id : ExecutionId)
  | quiesceModel (model : ModelId)

/-- What a step of a coroutine does: the service after it, the tasks it started and where it
stands. -/
structure Effect (α ρ : Type) where
  next : Service
  spawn : List Spawn := []
  ctl : Ctl α ρ

namespace Effect

variable {α β ρ τ : Type}

def goto (s : Service) (pc : α) : Effect α ρ := { next := s, ctl := .goto pc }

def ret (s : Service) (v : ρ) : Effect α ρ := { next := s, ctl := .ret v }

def raise (s : Service) (e : Exc) : Effect α ρ := { next := s, ctl := .raise e }

/-- `await` of a nested coroutine: when it ends, its caller goes on in the same section. -/
def bind (e : Effect α ρ) (wrap : α → β) (k : Service → Except Exc ρ → Effect β τ) : Effect β τ :=
  match e.ctl with
  | .goto pc => { next := e.next, spawn := e.spawn, ctl := .goto (wrap pc) }
  | .done r =>
    let e' := k e.next r
    { e' with spawn := e.spawn ++ e'.spawn }

end Effect

/-- What the event loop delivers: the turn of the coroutine, a timeout, or the answer of a port. -/
inductive Input
  | go
  | timeout
  | answer (r : Except Exc Unit)
  | flag (r : Except Exc Bool)
  | acquired (r : Except Exc Lease)
  | opened (r : Except Exc String)
  | reserved (r : Except Exc OutputReservation)
  | written (r : Except Exc PublishedBlob)
  | executed (r : Except Exc ExecutionHandle) (body : Option Body)

/-- What a coroutine sees of the tasks: its own identity, the identity a new task would get, and
which tasks have ended. -/
structure TaskView where
  self : TaskId
  fresh : TaskId
  ended : TaskId → Bool

/-- The section that follows the entry of the service lock. -/
def withLock {α ρ : Type} (s : Service) (section_ : Effect α ρ) : Input → Option (Effect α ρ)
  | .go => if s.lock.isNone then some section_ else none
  | _ => none

/-! ### `_teardown` -/

namespace Teardown

inductive Pc
  | releasing
  | closing
  | cancelling
  | abandoning
  deriving DecidableEq

variable (s : Service) (id : ExecutionId)

/-- A non-success settle must return the ceiling. -/
def output : Effect Pc Unit :=
  if (s.get id).reservation.isSome ∧ (s.get id).state ≠ .succeeded then .goto s .cancelling
  else .ret s ()

def input : Effect Pc Unit :=
  match (s.get id).inputCtx with
  | none => output s id
  | some ctx =>
    if (s.get id).inputClosed then output s id
    else .goto ((s.update id fun r => { r with inputClosed := true }).note (.closed ctx)) .closing

def outcome (r : Record) : Outcome := if r.state = .succeeded then .success else .rejected

def start : Effect Pc Unit :=
  match (s.get id).lease with
  | none => input s id
  | some lease =>
    if (s.get id).leaseReleased then input s id
    else
      .goto ((s.update id fun r => { r with leaseReleased := true }).note
        (.release lease (outcome (s.get id)))) .releasing

def step : Pc → Input → Option (Effect Pc Unit)
  | .releasing, .answer (.ok ()) => some (input s id)
  | .releasing, .answer (.error e) => some (.raise s e)
  | .closing, .answer _ => some (output s id)
  | .cancelling, .flag (.ok _) => some (.goto s .abandoning)
  | .cancelling, .flag (.error _) => some (.ret (s.addCleanup (s.get id).outputBlobId) ())
  | .abandoning, .answer (.ok ()) => some (.ret (s.discardCleanup (s.get id).outputBlobId) ())
  | .abandoning, .answer (.error _) => some (.ret (s.addCleanup (s.get id).outputBlobId) ())
  | _, _ => none

end Teardown

/-! ### `_cancel_reservation` and `_cancel_side_effects` -/

namespace CancelSideEffects

inductive Pc
  | lease
  | output
  deriving DecidableEq

variable (s : Service) (id : ExecutionId)

/-- `_cancel_reservation`. -/
def cancelReservation : Effect Pc Unit :=
  if (s.get id).reservation.isNone ∨ (s.get id).result.isSome then .ret s () else .goto s .output

def start : Effect Pc Unit :=
  if (s.get id).lease.isSome then .goto s .lease else cancelReservation s id

/-- Exceptions of the ports are swallowed. -/
def step : Pc → Input → Option (Effect Pc Unit)
  | .lease, .answer _ => some (cancelReservation s id)
  | .output, .flag (.ok true) => some (.ret (s.addCleanup (s.get id).outputBlobId) ())
  | .output, .flag _ => some (.ret s ())
  | _, _ => none

end CancelSideEffects

/-! ### `_publish_and_settle` -/

namespace PublishAndSettle

inductive Pc
  | writing
  | settle (failure : Option String) (published : Option PublishedBlob)
  | tearing (pc : Teardown.Pc)
  deriving DecidableEq

variable (s : Service) (id : ExecutionId)

def start : Effect Pc Unit :=
  if (s.get id).outputPending.isNone ∨ (s.get id).reservation.isNone then
    .goto s (.settle (some "backend_failed") none)
  else .goto s .writing

/-- What an exception of `write_output` becomes. -/
def failure : Exc → String
  | .blobStoreError code _ =>
    if code = "cancelled" then "cancelled" else (blobCode code).getD "backend_failed"
  | _ => "storage_unavailable"

def written : Except Exc PublishedBlob → Pc
  | .ok blob => .settle none (some blob)
  | .error e => .settle (some (failure e)) none

/-- The settlement of an execution whose publish has ended, under the lock. -/
def outcome (failure : Option String) (published : Option PublishedBlob) : Service :=
  match failure, published with
  | some failure, _ =>
    if failure = "cancelled" then
      let late := errorDetail "execution_timeout" "a late result is never published"
      let s := s.update id fun r => { r with cancelPending := true }
      (s.addCleanup (s.get id).outputBlobId).settleError id ((s.get id).error.getD late) .cancelled
    else
      (s.addCleanup (s.get id).outputBlobId).settleError id
        (errorDetail failure "the result could not be published") .failed
  | none, some blob =>
    (s.update id fun r => { r with result := some blob.ref }).markSettled id .succeeded
  | none, none => s.settleError id (errorDetail "backend_failed" "publish returned nothing") .failed

def settle (failure : Option String) (published : Option PublishedBlob) : Effect Pc Unit :=
  let s := s.update id fun r => { r with publishing := false, outputPending := none }
  if (s.get id).settled then .ret s ()
  else
    (Teardown.start (outcome s id failure published) id).bind .tearing fun s r =>
      { next := s, ctl := .done r }

def step : Pc → Input → Option (Effect Pc Unit)
  | .writing, .written r => some (.goto s (written r))
  | .settle failure published, inp => withLock s (settle s id failure published) inp
  | .tearing pc, inp =>
    (Teardown.step s id pc inp).map (·.bind .tearing fun s r => { next := s, ctl := .done r })
  | _, _ => none

end PublishAndSettle

/-! ### `_advance` -/

namespace Advance

inductive Pc
  | publishing (pc : PublishAndSettle.Pc)
  | tearing (pc : Teardown.Pc)
  deriving DecidableEq

variable (s : Service) (id : ExecutionId)

def teardown (settled : Bool) : Effect Pc Unit :=
  if settled then
    (Teardown.start s id).bind .tearing fun s r => { next := s, ctl := .done r }
  else .ret s ()

/-- `finally: self._publish_inflight.discard(...)`. -/
def discard : Service := { s with publishInflight := s.publishInflight.filter (· ≠ id) }

/-- The publish has ended. -/
def published : Except Exc Unit → Effect Pc Unit
  | .error e => .raise (discard s id) e
  | .ok () => teardown (discard s id) id ((discard s id).get id).settled

def start (settled : Bool) : Effect Pc Unit :=
  if (s.get id).publishing ∧ s.publishInflight.contains id = false then
    let s := { s with publishInflight := id :: s.publishInflight }
    (PublishAndSettle.start s id).bind .publishing fun s r => published s id r
  else teardown s id settled

def step : Pc → Input → Option (Effect Pc Unit)
  | .publishing pc, inp =>
    (PublishAndSettle.step s id pc inp).map (·.bind .publishing fun s r => published s id r)
  | .tearing pc, inp =>
    (Teardown.step s id pc inp).map (·.bind .tearing fun s r => { next := s, ctl := .done r })

/-- The service after an exception is delivered at the current `await`. -/
def thrown : Pc → Service
  | .publishing _ => discard s id
  | .tearing _ => s

end Advance

/-! ### Ending an execution that runs

`cancel`, a timeout, a drain and an uncertain failure record a reason, run the side effects under
the lock and evaluate. -/

/-- Record why an execution ends. -/
def Service.mark (s : Service) (id : ExecutionId) (cancel : Bool) (code message : String) :
    Service :=
  s.update id fun r =>
    ({ r with cancelPending := r.cancelPending || cancel }.markReason code message).markCancelling

/-- The side effects have run: evaluate and leave the lock. -/
def Service.conclude (s : Service) (id : ExecutionId) : Service × Bool :=
  let evaluated := s.evaluate id
  (evaluated.1.unlock, evaluated.2)

/-- The answer of a public call. -/
inductive Value
  | unit
  | view (document : ViewDocument)
  | rejected

/-- `return entry.view()`. -/
def returnView {α : Type} (s : Service) (id : ExecutionId) : Effect α Value :=
  match (s.get id).view s.cfg.fromIsoformat with
  | .ok document => .ret s (.view document)
  | .error e => .raise s e

/-- A call that ends with `_advance` returns the view then. -/
def advanced {α : Type} (id : ExecutionId) (s : Service) : Except Exc Unit → Effect α Value
  | .ok () => returnView s id
  | .error e => .raise s e

def unknownExecution : Exc := .executionError "not_found" "unknown execution"

/-! ### `cancel` -/

structure CancelCall where
  executionId : ExecutionId
  owner : String
  /-- What the token authority says of the session token, if one is given. -/
  token : Option (Except (String × String) Unit)

namespace Cancel

inductive Pc
  | enter
  | effects (pc : CancelSideEffects.Pc)
  | advancing (pc : Advance.Pc)

variable (s : Service) (v : TaskView) (c : CancelCall)

/-- Why the call is refused. -/
def refusal : Option Exc :=
  match s.records.get? c.executionId with
  | none => some unknownExecution
  | some r =>
    if r.owner ≠ c.owner then
      some (.executionError "not_found" "the execution does not belong to this owner")
    else
      match c.token with
      | some (.error e) => if s.cfg.tokens then some (.executionError e.1 e.2) else none
      | _ => none

def advance (settled : Bool) : Effect Pc Value :=
  (Advance.start s c.executionId settled).bind .advancing (advanced c.executionId)

def concluded (s : Service) : Except Exc Unit → Effect Pc Value
  | .ok () => advance (s.conclude c.executionId).1 c (s.conclude c.executionId).2
  | .error e => .raise s.unlock e

def enter : Effect Pc Value :=
  let id := c.executionId
  match refusal s c with
  | some e => .raise s e
  | none =>
    if (s.get id).settled then returnView s id
    else if (s.get id).dispatchStarted = false then
      advance
        (s.terminateLocal id ⟨"queue_timeout", queue_timeout_ne⟩ "cancelled before dispatch") c true
    else
      let s :=
        { s with lock := some (v.self, some id) }.mark id true "execution_timeout" "cancelled"
      (CancelSideEffects.start s id).bind .effects fun s r => concluded c s r

def step : Pc → Input → Option (Effect Pc Value)
  | .enter, inp => withLock s (enter s v c) inp
  | .effects pc, inp =>
    (CancelSideEffects.step s c.executionId pc inp).map
      (·.bind .effects fun s r => concluded c s r)
  | .advancing pc, inp =>
    (Advance.step s c.executionId pc inp).map (·.bind .advancing (advanced c.executionId))

/-- The service after an exception is delivered at the current `await`. -/
def thrown : Pc → Service
  | .enter => s
  | .effects _ => s.unlock
  | .advancing pc => Advance.thrown s c.executionId pc

end Cancel

/-! ### `report_output` -/

namespace ReportOutput

inductive Pc
  | enter
  | dropping (pc : CancelSideEffects.Pc)
  | advancing (pc : Advance.Pc)

variable (s : Service) (v : TaskView) (id : ExecutionId) (body : Body)

def dropped (s : Service) : Except Exc Unit → Effect Pc Value
  | .ok () => returnView s.unlock id
  | .error e => .raise s.unlock e

def enter : Effect Pc Value :=
  match s.records.get? id with
  | none => .raise s unknownExecution
  | some r =>
    if r.settled then returnView s id
    else if r.cancelPending then
      -- a late output is never published
      let s := { s with lock := some (v.self, none) }.update id fun r =>
        { r with outputPending := none }
      (CancelSideEffects.cancelReservation s id).bind .dropping fun s r => dropped id s r
    else if r.publishing then
      .raise s (.executionError "busy" "a publish is already in flight for this execution")
    else
      let s := s.update id fun r => { r with outputPending := some body }
      (Advance.start (s.evaluate id).1 id (s.evaluate id).2).bind .advancing (advanced id)

def step : Pc → Input → Option (Effect Pc Value)
  | .enter, inp => withLock s (enter s v id body) inp
  | .dropping pc, inp =>
    (CancelSideEffects.step s id pc inp).map (·.bind .dropping fun s r => dropped id s r)
  | .advancing pc, inp => (Advance.step s id pc inp).map (·.bind .advancing (advanced id))

def thrown : Pc → Service
  | .enter => s
  | .dropping _ => s.unlock
  | .advancing pc => Advance.thrown s id pc

end ReportOutput

/-! ### `report_terminal` -/

namespace ReportTerminal

inductive Pc
  | enter
  | advancing (pc : Advance.Pc)

variable (s : Service) (id : ExecutionId) (evidence : TerminationEvidence)

/-- File accepted evidence; dispatched evidence names the instance. -/
def accept (r : Record) : Record :=
  let r := { r with evidence := some evidence }
  if evidence.1.dispatchState = .dispatched then
    { r with dispatchState := .dispatched, identity := evidence.1.identity }
  else r

def enter : Effect Pc Value :=
  match s.records.get? id with
  | none => .raise s unknownExecution
  | some r =>
    if (writebackDecision r.fence evidence.1.fence).isSome then .ret s .rejected
    else if evidence.1.dispatchState = .notStarted ∧ r.dispatchState = .dispatched then
      .ret s .rejected
    else if r.evidence.isSome then returnView s id
    else
      let s := s.update id (accept evidence)
      (Advance.start (s.evaluate id).1 id (s.evaluate id).2).bind .advancing (advanced id)

def step : Pc → Input → Option (Effect Pc Value)
  | .enter, inp => withLock s (enter s id evidence) inp
  | .advancing pc, inp => (Advance.step s id pc inp).map (·.bind .advancing (advanced id))

def thrown : Pc → Service
  | .enter => s
  | .advancing pc => Advance.thrown s id pc

end ReportTerminal

end ModelSwitch.Execution

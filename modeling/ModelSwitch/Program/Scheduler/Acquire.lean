import ModelSwitch.Program.Scheduler.State

/-!
# Acquiring a lease, loading a model, recovering

The coroutines `acquire`, `_finish_load`, `recover` and `_recover_after_unverified_load`. Each has
its program counter `Pc`, the sections of its code, `step`, and `throw`, which says where an
exception delivered at the current `await` leads.
-/

namespace ModelSwitch

/-- `value or default` on an optional text. -/
def textOr (value : Option String) (default : String) : String :=
  match value with
  | none => default
  | some text => if text = "" then default else text

def Book.priorityOf (b : Book) (m : ModelId) : ℤ := ((b.ledger.get? m).map (·.priority)).getD 0

/-- The arguments of `acquire`. -/
structure AcquireCall where
  modelId : ModelId
  requestId : RequestId
  deadline : Time
  sessionId : Option SessionId := none
  deriving DecidableEq

namespace Acquire

inductive Pc
  | enter
  | snapshot
  | admission (sample : MemorySample)
  | decide (sample : MemorySample) (admitted : Bool)
  | load (sample : MemorySample) (admitted : Bool)
  | sleep
  | asleep (wake : Time)
  | closing (out : Except Exc Lease)
  deriving DecidableEq

variable (s : Scheduler) (v : TaskView) (c : AcquireCall)

def start : Ctl Pc Lease :=
  if s.book.specs.contains c.modelId = false then .raise (.keyError c.modelId)
  else if c.deadline ≤ s.now then .raise (.timeoutError "queue deadline elapsed")
  else .goto .enter

/-- Why a request of `session` is refused at the door. -/
def sessionRefusal (session : SessionId) : Option Exc :=
  match s.sessions.records.get? session with
  | none => some (.sessionNotFound session)
  | some record =>
    if record.modelId ≠ c.modelId ∨ record.phase ≠ .active then
      some (.sessionConflict "session_not_active")
    else if s.sessions.isLive session s.now = false then
      some (.sessionConflict "session_expired")
    else if (s.book.runtimeOf c.modelId).state = .ready
        ∧ s.book.maxConcurrency c.modelId ≤ ((s.book.runtimeOf c.modelId).leases.size : ℤ) then
      some (.conflict "session_slots_exhausted")
    else none

def refusal : Option Exc :=
  if s.shuttingDown then some (.modelUnavailable "service_shutting_down")
  else if s.storageUnavailable then some (.modelUnavailable "storage_unavailable")
  else
    match c.sessionId with
    | some session => sessionRefusal s c session
    -- a session is being granted or holds the model exclusively
    | none => if s.sessionFreeze.isSome then some (.conflict "session_exclusive") else none

def kind : WaitKind := if c.sessionId.isSome then .session else .interactive

/-- The first section: check the caller and file the waiter. -/
def enter : Effect Pc Lease :=
  match refusal s c with
  | some e => .raise s e
  | none =>
    match s.queue.enqueue c.requestId c.modelId (s.book.priorityOf c.modelId) c.deadline s.now
        (kind c) with
    | (queue, .ok _) => .goto { s with queue := queue } .snapshot
    | (queue, .error (.valueError _)) =>
      .raise { s with queue := queue } (.conflict "duplicate waiter")
    | (queue, .error (.overflowError _)) =>
      .raise { s with queue := queue } (.queueFull "queue_full")
    | (queue, .error e) => .raise { s with queue := queue } e

/-- The grant itself, for the waiter at the head of the queue. -/
def grant (sample : MemorySample) (admitted : Bool) : Book × Except Exc Lease :=
  if admitted = false ∨ s.book.canAdmitReady c.modelId sample s.now = false then
    (s.book, .error (.conflict "ready admission blocked"))
  else s.book.acquireReady c.modelId c.requestId s.now

def needsSample : Bool :=
  (s.book.runtimeOf c.modelId).state = .unloaded && !s.loads.contains c.modelId
    && s.eviction.isNone && s.switchIntent.all (·.requestId = c.requestId)
    && (s.nextSwitchAttempt.get? c.modelId).getD 0 ≤ s.now

/-- The scheduler once `lease` is granted: the waiter is claimed, a session's lease noted. -/
def granted (book : Book) (lease : Lease) : Scheduler :=
  let s := { s with book := book, queue := (s.queue.remove c.requestId .claimed).1 }
  match c.sessionId with
  | none => s
  | some session => s.noteSessionLease session lease

/-- The decision for the waiter at the head of the queue. -/
def decideHead (sample : MemorySample) (admitted : Bool) : Effect Pc Lease :=
  match grant s c sample admitted with
  | (book, .ok lease) => .goto (granted s c book lease) (.closing (.ok lease))
  | (book, .error (.conflict _)) =>
    let s := { s with book := book }
    let r := s.book.runtimeOf c.modelId
    if r.state = .error then
      .goto s (.closing (.error (.modelUnavailable (textOr r.lastError "model_error"))))
    else if needsSample s c then .goto s (.load sample admitted)
    else .goto s .sleep
  | (book, .error e) => .goto { s with book := book } (.closing (.error e))

/-- The grant decision. -/
def decide (sample : MemorySample) (admitted : Bool) : Effect Pc Lease :=
  let s := s.expireSwitchIntent
  if s.shuttingDown then
    .goto s (.closing (.error (.modelUnavailable "service_shutting_down")))
  else if s.storageUnavailable then
    .goto s (.closing (.error (.modelUnavailable "storage_unavailable")))
  else if c.deadline ≤ s.now ∨ s.queue.contains c.requestId = false then
    .goto { s with queue := (s.queue.remove c.requestId .expired).1 }
      (.closing (.error (.timeoutError "queue deadline elapsed")))
  else
    let head := s.queue.isHead c.requestId s.now s.coldRequestEligible none
    let s := { s with queue := head.1 }
    if head.2 then decideHead s c sample admitted else .goto s .sleep

/-- The section that begins a load or a switch. A started operation loops without waiting. -/
def load (sample : MemorySample) (admitted : Bool) : Effect Pc Lease :=
  if admitted = true ∧ (s.book.runtimeOf c.modelId).state = .unloaded
      ∧ s.loads.contains c.modelId = false then
    if s.book.canLoad c.modelId sample s.now then
      match s.book.beginLoad c.modelId sample s.now with
      | (book, .ok op) =>
        { next := { s with book := book, loads := s.loads.set c.modelId v.fresh },
          spawn := some (.finishLoad op c.deadline), ctl := .goto .snapshot }
      | (book, .error e) => .goto { s with book := book } (.closing (.error e))
    else if s.eviction.isNone then
      match s.establishOrAdvanceSwitch v c.requestId c.modelId sample c.deadline with
      | ((s, spawn), .ok started) =>
        { next := s, spawn := spawn, ctl := .goto (if started then .snapshot else .sleep) }
      | ((s, spawn), .error e) =>
        { next := s, spawn := spawn, ctl := .goto (.closing (.error e)) }
    else .goto s .sleep
  else .goto s .sleep

def sleep : Pc :=
  if c.deadline - s.now ≤ 0 then .closing (.error (.timeoutError "queue deadline elapsed"))
  else .asleep (s.now + min (c.deadline - s.now) s.cfg.pollIntervalSeconds)

/-- The `finally` block. -/
def close (out : Except Exc Lease) : Effect Pc Lease :=
  { next := ({ s with queue := (s.queue.remove c.requestId).1 } : Scheduler).cancelSwitchIntent
      c.requestId,
    ctl := .done out }

def step : Pc → Input → Option (Effect Pc Lease)
  | .enter, .go => some (enter s c)
  | .snapshot, .snapshot (.ok sample) => some (.goto s (.admission sample))
  | .snapshot, .snapshot (.error e) => some (.goto s (.closing (.error e)))
  | .admission sample, .guard answer => some (.goto s (.decide sample (s.admissionAllowed answer)))
  | .decide sample admitted, .go => some (decide s c sample admitted)
  | .load sample admitted, .go => some (load s v c sample admitted)
  | .sleep, .go => some (.goto s (sleep s c))
  | .asleep _, .go => some (.goto s .snapshot)
  | .asleep wake, .timeout =>
    if s.now < wake then none
    else if c.deadline ≤ s.now then
      some (.goto s (.closing (.error (.timeoutError "queue deadline elapsed"))))
    else some (.goto s .snapshot)
  | .closing out, .go => some (close s c out)
  | _, _ => none

def throw (e : Exc) : Pc → Ctl Pc Lease
  | .enter => .raise e
  -- at the lock of the `finally` block the exception replaces the outcome
  | .closing _ => .raise e
  | _ => .goto (.closing (.error e))

end Acquire

/-! ### `_finish_load` -/

namespace FinishLoad

inductive Pc
  | loading
  | verdict (obs : Observation)
  | failing (exc : Exc)
  | closing (recover : Bool) (out : Except Exc Unit)
  deriving DecidableEq

variable (s : Scheduler) (v : TaskView) (op : Operation) (deadline : Time)

/-- `self.recovery is not None and not self.book.recovering`. -/
def wantsRecovery (book : Book) : Bool := s.cfg.recovery && !book.recovering

def verdict (obs : Observation) : Effect Pc Unit :=
  if obs.presence = .running ∧ obs.healthy = true then
    match s.book.loaded op s.now with
    | (book, .ok ()) =>
      .goto ({ s with book := book } : Scheduler).recordColdLoad (.closing false (.ok ()))
    -- a late success for a superseded operation must not move the books
    | (book, .error (.staleOperation _)) => .goto { s with book := book } (.closing false (.ok ()))
    | (book, .error e) => .goto { s with book := book } (.failing e)
  else
    match s.book.failed op (some (textOr obs.detailCode "load_unverified")) with
    | (book, .ok ()) =>
      .goto { s with book := book } (.closing (wantsRecovery s book) (.ok ()))
    | (book, .error e) => .goto { s with book := book } (.failing e)

/-- A cancellation is raised again once it is written down; any other failure is swallowed. -/
def reraise (exc : Exc) : Except Exc Unit :=
  if exc = .cancelledError then .error exc else .ok ()

def failing (exc : Exc) : Effect Pc Unit :=
  match s.book.failed op (some "load_failed") with
  | (book, .ok ()) =>
    .goto { s with book := book } (.closing (wantsRecovery s book) (reraise exc))
  | (book, .error (.staleOperation _)) =>
    .goto { s with book := book } (.closing false (reraise exc))
  | (book, .error e) => .goto { s with book := book } (.closing false (.error e))

def close (recover : Bool) (out : Except Exc Unit) : Effect Pc Unit :=
  let s := { s with loads := s.loads.erase op.modelId }
  let started := if recover then s.startRecovery v deadline else (s, none)
  { next := started.1, spawn := started.2, ctl := .done out }

def step : Pc → Input → Option (Effect Pc Unit)
  | .loading, .backend (.ok obs) => some (.goto s (.verdict obs))
  | .loading, .backend (.error e) => some (.goto s (.failing e))
  | .verdict obs, .go => some (verdict s op obs)
  | .failing exc, .go => some (failing s op exc)
  | .closing recover out, .go => some (close s v op deadline recover out)
  | _, _ => none

def throw (e : Exc) : Pc → Ctl Pc Unit
  | .loading | .verdict _ => .goto (.failing e)
  | .failing _ => .goto (.closing false (.error e))
  | .closing _ _ => .raise e

end FinishLoad

/-! ### `recover` -/

namespace Recover

inductive Pc
  | begin
  | port (epoch : ℕ)
  | finish (epoch : ℕ) (result : RecoveryResult)
  deriving DecidableEq

variable (s : Scheduler)

def start : Ctl Pc Unit :=
  if s.cfg.recovery then .goto .begin else .raise (.modelUnavailable "control_recovery_unavailable")

def begin : Effect Pc Unit :=
  if s.book.recovering then .raise s (.conflict "recovery_in_progress")
  else if s.book.anyLeases then .raise s (.conflict "recovery_has_leases")
  else
    match s.book.beginRecovery with
    | (book, .ok epoch) => .goto { s with book := book } (.port epoch)
    | (book, .error e) => .raise { s with book := book } e

def finish (epoch : ℕ) (result : RecoveryResult) : Effect Pc Unit :=
  if result.ok = false then
    .raise s (.modelUnavailable (textOr result.errorCode "control_recovery_failed"))
  else
    match s.book.finishRecovery epoch result.stoppedModels with
    | (book, .ok ()) => .ret { s with book := book } ()
    | (book, .error (.conflict _)) =>
      .raise { s with book := book } (.modelUnavailable "control_recovery_incomplete")
    | (book, .error e) => .raise { s with book := book } e

def step : Pc → Input → Option (Effect Pc Unit)
  | .begin, .go => some (begin s)
  | .port epoch, .recovered (.ok result) => some (.goto s (.finish epoch result))
  | .port _, .recovered (.error e) => some (.raise s e)
  | .finish epoch result, .go => some (finish s epoch result)
  | _, _ => none

def throw (e : Exc) (_ : Pc) : Ctl Pc Unit := .raise e

end Recover

/-! ### `_recover_after_unverified_load` -/

namespace RecoverAfterUnverifiedLoad

inductive Pc
  | drain
  | draining (wake : Time)
  | recovering (pc : Recover.Pc)
  | closing (out : Except Exc Unit)
  deriving DecidableEq

variable (s : Scheduler) (deadline : Time)

/-- The failed model remains `ERROR` where the recovery is refused. -/
def recovered : Except Exc Unit → Ctl Pc Unit
  | .ok () => .goto (.closing (.ok ()))
  | .error (.conflict _) => .goto (.closing (.ok ()))
  | .error (.modelUnavailable _) => .goto (.closing (.ok ()))
  | .error e => .goto (.closing (.error e))

/-- The head of the drain loop; once no lease is left it calls `recover`. -/
def drain : Effect Pc Unit :=
  if s.book.anyLeases then
    if deadline - s.now ≤ 0 then
      { next := { s with book := s.book.abortLeases s.now },
        ctl := (Recover.start s).bind .recovering recovered }
    else .goto s (.draining deadline)
  else { next := s, ctl := (Recover.start s).bind .recovering recovered }

def step : Pc → Input → Option (Effect Pc Unit)
  | .drain, .go => some (drain s deadline)
  | .draining _, .go => some (drain s deadline)
  | .draining wake, .timeout => if s.now < wake then none else some (drain s deadline)
  | .recovering pc, inp => (Recover.step s pc inp).map (·.bind .recovering recovered)
  | .closing out, .go => some { next := { s with recoveryTask := none }, ctl := .done out }
  | _, _ => none

def throw (e : Exc) : Pc → Ctl Pc Unit
  | .drain | .draining _ => .goto (.closing (.error e))
  | .recovering pc => (Recover.throw e pc).bind .recovering recovered
  | .closing _ => .raise e

end RecoverAfterUnverifiedLoad

end ModelSwitch

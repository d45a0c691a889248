import ModelSwitch.Program.Scheduler.Lifecycle

/-!
# The public calls

`release`, `cancel`, `unload`, `sweep_ttl`, `shutdown`, the storage transitions and the session
calls of `ModelScheduler`.
-/

namespace ModelSwitch

/-! ### Leases -/

namespace Release

/-- The arguments of `release`. -/
structure Args where
  lease : Lease
  outcome : ModelSwitch.Outcome
  tokens : Book.TokenCount := .absent
  deriving DecidableEq

def step (s : Scheduler) (a : Args) : Input → Option (Effect Unit Unit)
  | .go =>
    match s.book.release a.lease a.outcome s.now a.tokens with
    | (book, .error e) => some (.raise { s with book := book } e)
    | (book, .ok _) =>
      some (.ret (({ s with book := book } : Scheduler).forgetSessionLease a.lease.leaseId) ())
  | _ => none

end Release

namespace CancelLease

def step (s : Scheduler) (lease : Lease) : Input → Option (Effect Unit Bool)
  | .go =>
    match s.book.beginCancel lease with
    | (book, .error e) => some (.raise { s with book := book } e)
    | (book, .ok accepted) => some (.ret { s with book := book } accepted)
  | _ => none

end CancelLease

/-! ### Stopping on demand -/

/-- A call that starts or joins a stop batch and awaits it. -/
inductive StopPc
  | begin
  | awaiting (task : TaskId)
  deriving DecidableEq

/-- Join the batch in flight or stop every idle `READY` or `ERROR` model. -/
def Scheduler.stopAll {α : Type} (s : Scheduler) (v : TaskView) (deadline : Time)
    (awaiting : TaskId → α) : Effect α (List ModelId) :=
  match s.eviction with
  | some task => .goto s (awaiting task)
  | none =>
    match s.book.runtime.keys.filter s.book.stoppable with
    | [] => .ret s []
    | ms =>
      match s.book.beginCleanup ms with
      | (book, .error e) => .raise { s with book := book } e
      | (book, .ok ops) =>
        let started := s.startEviction v book ops deadline
        { next := started.1, spawn := started.2, ctl := .goto (awaiting v.fresh) }

namespace Unload

variable (s : Scheduler) (v : TaskView) (m : ModelId) (deadline : Time)

def pinned : Bool := ((s.book.ledger.get? m).map (·.pinned)).getD false

def begin : Effect StopPc Unit :=
  let r := s.book.runtimeOf m
  if s.book.specs.contains m = false then .raise s (.keyError m)
  else if pinned s m then .raise s (.conflict "model_pinned")
  else if r.state = .unloaded then .ret s ()
  else if s.eviction.isSome ∨ r.hasLeases ∨ r.operationId.isSome ∨ r.state ≠ .ready then
    .raise s (.conflict "model_busy")
  else
    match s.book.beginEviction [m] false with
    | (book, .error e) => .raise { s with book := book } e
    | (book, .ok ops) =>
      let started := s.startEviction v book ops deadline
      { next := started.1, spawn := started.2, ctl := .goto (.awaiting v.fresh) }

def stopped : Except Exc (List ModelId) → Ctl StopPc Unit
  | .ok ms => if m ∈ ms then .ret () else .raise (.modelUnavailable "stop_unverified")
  | .error e => .raise e

def step : StopPc → Input → Option (Effect StopPc Unit)
  | .begin, .go => some (begin s v m deadline)
  | .awaiting task, .go => (v.batch task).map fun r => { next := s, ctl := stopped m r }
  | _, _ => none

end Unload

namespace SweepTtl

variable (s : Scheduler) (v : TaskView) (asOf deadline : Time)

/-- The models whose idle time is due and that no waiter asks for. -/
def due : List ModelId :=
  s.book.specs.keys.filter fun m => m ∉ s.queue.waitingModels && s.book.ttlDue m asOf

/-- `asOf` is the clock read before the lock was entered. -/
def begin : Effect StopPc (List ModelId) :=
  if s.eviction.isSome then .ret s []
  else
    match due s asOf with
    | [] => .ret s []
    | ms =>
      match s.book.beginEviction ms with
      | (book, .error e) => .raise { s with book := book } e
      | (book, .ok ops) =>
        let started := s.startEviction v book ops deadline
        { next := started.1, spawn := started.2, ctl := .goto (.awaiting v.fresh) }

def step : StopPc → Input → Option (Effect StopPc (List ModelId))
  | .begin, .go => some (begin s v asOf deadline)
  | .awaiting task, .go => (v.batch task).map fun r => { next := s, ctl := .done r }
  | _, _ => none

end SweepTtl

namespace Shutdown

inductive Pc
  | begin
  | hooks (sessions : List SessionId)
  | drain
  | draining (wake : Time)
  | awaiting (task : TaskId)
  deriving DecidableEq

variable (s : Scheduler) (v : TaskView) (deadline : Time)

/-- Drain one session and drop its freeze. -/
def drainOne (s : Scheduler) (session : SessionId) : Scheduler :=
  match s.sessions.beginDrain session s.now "service_shutdown" with
  | .error _ => s
  | .ok sessions => ({ s with sessions := sessions } : Scheduler).releaseSessionFreeze session

def openSessions : List SessionId :=
  (s.sessions.records.entries.filter fun p => p.2.phase ≠ .closed).map (·.1)

def begin : Effect Pc (List ModelId) :=
  let open' := openSessions s
  let s := { s with shuttingDown := true, queue := s.queue.clear }
  let s := open'.foldl drainOne s
  .goto s (if s.cfg.executionHook = true ∧ open' ≠ [] then .hooks open' else .drain)

/-- What follows the drain loop: abort the leases that are left, then stop. -/
def stop : Effect Pc (List ModelId) :=
  ({ s with book := s.book.abortLeases s.now } : Scheduler).stopAll v deadline .awaiting

def drain : Effect Pc (List ModelId) :=
  if s.book.anyLeases = true ∧ s.now < deadline then .goto s (.draining deadline)
  else stop s v deadline

def step : Pc → Input → Option (Effect Pc (List ModelId))
  | .begin, .go => some (begin s)
  | .hooks sessions, .go =>
    some (.goto s (if sessions.tail = [] then .drain else .hooks sessions.tail))
  | .drain, .go => some (drain s v deadline)
  | .draining _, .go => some (drain s v deadline)
  | .draining wake, .timeout => if s.now < wake then none else some (stop s v deadline)
  | .awaiting task, .go => (v.batch task).map fun r => { next := s, ctl := .done r }
  | _, _ => none

end Shutdown

/-! ### Storage -/

namespace StorageLost

variable (s : Scheduler) (v : TaskView) (deadline : Time)

def begin : Effect StopPc (List ModelId) :=
  if s.storageUnavailable then .ret s []
  else
    let s := { s with storageUnavailable := true, queue := s.queue.clear,
                      book := s.book.abortLeases s.now }
    s.stopAll v deadline .awaiting

def step : StopPc → Input → Option (Effect StopPc (List ModelId))
  | .begin, .go => some (begin s v deadline)
  | .awaiting task, .go => (v.batch task).map fun r => { next := s, ctl := .done r }
  | _, _ => none

end StorageLost

namespace StorageRecovered

inductive Pc
  | admission
  | check
  | recovering (pc : Recover.Pc)
  | reopen
  | preloading (pc : Preload.Pc)
  deriving DecidableEq

variable (s : Scheduler) (v : TaskView) (deadline : Time)

def recovered : Except Exc Unit → Ctl Pc (List ModelId)
  | .ok () => .goto .reopen
  | .error e => .raise e

def preloaded (r : Except Exc (List ModelId)) : Ctl Pc (List ModelId) := .done r

def check : Effect Pc (List ModelId) :=
  if s.storageUnavailable then { next := s, ctl := (Recover.start s).bind .recovering recovered }
  else .ret s []

def reopen : Effect Pc (List ModelId) :=
  let s := { s with storageUnavailable := false }
  { next := s, ctl := (Preload.start s).bind .preloading preloaded }

def step : Pc → Input → Option (Effect Pc (List ModelId))
  | .admission, .guard answer =>
    some (if s.admissionAllowed answer then .goto s .check
      else .raise s (.modelUnavailable "storage_unavailable"))
  | .check, .go => some (check s)
  | .recovering pc, inp => (Recover.step s pc inp).map (·.bind .recovering recovered)
  | .reopen, .go => some (reopen s)
  | .preloading pc, inp => (Preload.step s v deadline pc inp).map (·.bind .preloading preloaded)
  | _, _ => none

def throw (e : Exc) : Pc → Ctl Pc (List ModelId)
  | .recovering pc => (Recover.throw e pc).bind .recovering recovered
  | .preloading pc => (Preload.throw e pc).bind .preloading preloaded
  | _ => .raise e

end StorageRecovered

namespace MonitorStorageOnce

inductive Pc
  | admission
  | losing (pc : StopPc)
  deriving DecidableEq

variable (s : Scheduler) (v : TaskView) (deadline : Time)

def lost : Except Exc (List ModelId) → Ctl Pc Bool
  | .ok _ => .ret false
  | .error e => .raise e

def step : Pc → Input → Option (Effect Pc Bool)
  | .admission, .guard answer =>
    some (if s.admissionAllowed answer then .ret s (!s.storageUnavailable)
      else .goto s (.losing .begin))
  | .losing pc, inp => (StorageLost.step s v deadline pc inp).map (·.bind .losing lost)
  | _, _ => none

end MonitorStorageOnce

/-! ### Sessions -/

/-- The arguments of `register_session`. -/
structure SessionArgs where
  modelId : ModelId
  clientId : String
  sessionId : SessionId
  priority : ℤ := 0
  hardDeadlineSeconds : Option ℚ := none
  deriving DecidableEq

namespace RegisterSession

variable (s : Scheduler) (v : TaskView) (a : SessionArgs)

/-- Why a registration is refused before the manager sees it. -/
def refusal : Option Exc :=
  if s.book.specs.contains a.modelId = false then some (.keyError a.modelId)
  else if s.shuttingDown then some (.modelUnavailable "service_shutting_down")
  else if s.storageUnavailable then some (.modelUnavailable "storage_unavailable")
  else s.exclusiveConflict.map .sessionConflict

def begin {α : Type} (k : Ctl α Unit) : Effect α Unit :=
  match refusal s a with
  | some e => .raise s e
  | none =>
    match s.sessions.create a.sessionId a.modelId a.clientId s.now s.queue a.priority
        a.hardDeadlineSeconds with
    | (queue, .error e) => .raise { s with queue := queue } e
    | (queue, .ok sessions) =>
      let ensured := ({ s with queue := queue, sessions := sessions } :
        Scheduler).ensureSessionWorker v
      { next := ensured.1, spawn := ensured.2, ctl := k }

def step : Input → Option (Effect Unit Unit)
  | .go => some (begin s v a (.ret ()))
  | _ => none

end RegisterSession

namespace OpenSession

inductive Pc
  | register
  | fetch
  | poll (waitUntil : Time)
  | asleep (waitUntil wake : Time)
  deriving DecidableEq

variable (s : Scheduler) (v : TaskView) (a : SessionArgs) (deadline : Option Time)

def fetch : Effect Pc Unit :=
  match s.sessions.records.get? a.sessionId with
  | none => .raise s (.sessionNotFound a.sessionId)
  | some record =>
    .goto s (.poll (match deadline with
      | none => record.waitDeadline
      | some deadline => min record.waitDeadline deadline))

def poll (waitUntil : Time) : Effect Pc Unit :=
  match s.sessions.records.get? a.sessionId with
  | none => .raise s (.sessionNotFound a.sessionId)
  | some record =>
    let remaining := min waitUntil record.preparationExpiredAt - s.now
    if record.phase = .active then .ret s ()
    else if record.phase = .closed then .raise s (.sessionConflict "session_closed")
    else if record.phase = .blocked then .raise s (.modelUnavailable "session_blocked")
    else if remaining ≤ 0 then .raise s (.timeoutError "session_wait_deadline")
    else .goto s (.asleep waitUntil (s.now + min remaining s.cfg.pollIntervalSeconds))

def step : Pc → Input → Option (Effect Pc Unit)
  | .register, .go => some (RegisterSession.begin s v a (.goto .fetch))
  | .fetch, .go => some (fetch s a deadline)
  | .poll waitUntil, .go => some (poll s a waitUntil)
  | .asleep waitUntil _, .go => some (.goto s (.poll waitUntil))
  | .asleep waitUntil wake, .timeout =>
    if s.now < wake then none else some (.goto s (.poll waitUntil))
  | _, _ => none

end OpenSession

namespace HeartbeatSession

def step (s : Scheduler) (session : SessionId) : Input → Option (Effect Unit Unit)
  | .go =>
    match s.sessions.heartbeat session s.now with
    | .error e => some (.raise s e)
    | .ok sessions => some (.ret { s with sessions := sessions } ())
  | _ => none

end HeartbeatSession

namespace CloseSession

inductive Pc
  | begin
  | hook
  | poll
  | asleep (wake : Time)
  deriving DecidableEq

variable (s : Scheduler) (v : TaskView) (session : SessionId) (reason : String)
  (deadline : Option Time)

def begin : Effect Pc Unit :=
  match s.sessions.records.get? session with
  | none => .raise s (.sessionNotFound session)
  | some record =>
    if record.phase = .closed then .ret s ()
    else
      match s.sessions.beginDrain session s.now reason with
      | .error e => .raise s e
      | .ok sessions =>
        let ensured := ({ s with sessions := sessions, queue := (s.queue.remove session).1 } :
          Scheduler).ensureSessionWorker v
        { next := ensured.1, spawn := ensured.2,
          ctl := .goto (if s.cfg.executionHook then .hook else .poll) }

def poll : Effect Pc Unit :=
  match s.sessions.records.get? session with
  | none => .raise s (.sessionNotFound session)
  | some record =>
    if record.phase = .closed ∨ record.phase = .blocked then .ret s ()
    else if deadline.any (· ≤ s.now) then .ret s ()
    else .goto s (.asleep (s.now + s.cfg.pollIntervalSeconds))

def step : Pc → Input → Option (Effect Pc Unit)
  | .begin, .go => some (begin s v session reason)
  | .hook, .go => some (.goto s .poll)
  | .poll, .go => some (poll s session deadline)
  | .asleep _, .go => some (.goto s .poll)
  | .asleep wake, .timeout => if s.now < wake then none else some (.goto s .poll)
  | _, _ => none

end CloseSession

end ModelSwitch

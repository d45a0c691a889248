import ModelSwitch.Program.Sessions
import ModelSwitch.Program.Eviction

/-!
# The scheduler object

`scheduler.py`: the fields of `ModelScheduler`, its synchronous helpers, and the shape of a step of
one of its coroutines.

A coroutine is a program counter together with a step function. The counter names the `await` the
coroutine is suspended at; entering the condition's lock is such a point. A step runs the code from
there to the next suspension, so it is one critical section at most, and every interleaving of
critical sections and of port answers is an order of such steps.
-/

namespace ModelSwitch

/-- The identity of an `asyncio` task. -/
abbrev TaskId := ℕ

/-- What a finished task returned, for whoever awaits it. -/
inductive Value
  | unit
  | flag (b : Bool)
  | lease (lease : Lease)
  | models (ms : List ModelId)
  deriving DecidableEq

abbrev Result := Except Exc Value

structure SwitchIntent where
  requestId : RequestId
  targetId : ModelId
  frozenModels : List ModelId
  expiresAt : Time

/-- The keyword arguments of `ModelScheduler.__init__`. The Boolean fields say which optional ports
were injected: the control recovery, the admission guard, the execution hook, and whether the
backend offers `observe`. -/
structure SchedulerConfig where
  queueCapacity : ℤ := 128
  priorityAgingSeconds : ℚ := 30
  pollIntervalSeconds : ℚ := 1
  maxEvictions : ℕ := 8
  switchDrainTimeoutSeconds : ℚ := 30
  switchRetrySeconds : ℚ := 30
  switchWindowSeconds : ℚ := 10
  maxSwitchesInWindow : ℕ := 3
  cooldownSeconds : ℚ := 15
  loadRetryLimit : ℤ := 3
  recovery : Bool := false
  admissionGuard : Bool := false
  executionHook : Bool := false
  observable : Bool := false

/-- The state of a `ModelScheduler`. `now` is what its clock reads. -/
structure Scheduler where
  cfg : SchedulerConfig
  book : Book
  queue : RequestQueue
  sessions : SessionManager
  loads : Dict ModelId TaskId := Dict.empty
  loadRetries : Dict ModelId ℤ := Dict.empty
  eviction : Option TaskId := none
  shuttingDown : Bool := false
  storageUnavailable : Bool := false
  switchIntent : Option SwitchIntent := none
  nextSwitchAttempt : Dict ModelId Time := Dict.empty
  switchSuccesses : List Time := []
  coldLoadNotBefore : Time := 0
  recoveryTask : Option TaskId := none
  sessionWorker : Option TaskId := none
  sessionLeases : Dict SessionId (List Uuid) := Dict.empty
  sessionFreeze : Option SessionId := none
  now : Time

namespace Book

/-- `self.book.runtime[model_id]` for a model the caller has checked against `specs`. -/
def runtimeOf (b : Book) (m : ModelId) : Runtime := (b.runtime.get? m).getD {}

/-- An idle `READY` or `ERROR` model, which a cleanup batch may take. -/
def stoppable (b : Book) (m : ModelId) : Bool :=
  ((b.runtimeOf m).state = .ready || (b.runtimeOf m).state = .error) && !(b.runtimeOf m).hasLeases

/-- Every lease the book holds, model by model. -/
def allLeases (b : Book) : List Lease := b.runtime.values.flatMap (·.leases.values)

/-- Release every lease as aborted. -/
def abortLeases (b : Book) (now : Time) : Book :=
  b.allLeases.foldl (fun b lease => (b.release lease .aborted now .absent).1) b

end Book

namespace Scheduler

def init (cfg : SchedulerConfig) (book : Book) (sessions : SessionManager) (now : Time) :
    Except Exc Scheduler :=
  if cfg.pollIntervalSeconds ≤ 0 ∨ cfg.switchDrainTimeoutSeconds ≤ 0 ∨ cfg.switchRetrySeconds ≤ 0
      ∨ cfg.switchWindowSeconds ≤ 0 ∨ cfg.cooldownSeconds ≤ 0 ∨ cfg.maxSwitchesInWindow < 1 then
    .error (.valueError "scheduler intervals must be positive")
  else if cfg.loadRetryLimit < 0 then
    .error (.valueError "the load retry limit must not be negative")
  else if cfg.maxEvictions < 1 then .error (.valueError "max_evictions must be positive")
  else
    match RequestQueue.init cfg.queueCapacity cfg.priorityAgingSeconds with
    | .error e => .error e
    | .ok queue =>
      .ok { cfg := cfg, book := book, queue := queue, sessions := sessions, now := now }

variable (s : Scheduler)

/-! ### Leases of sessions -/

def noteSessionLease (session : SessionId) (lease : Lease) : Scheduler :=
  let leases := (s.sessionLeases.get? session).getD []
  let leases := if lease.leaseId ∈ leases then leases else lease.leaseId :: leases
  { s with sessionLeases := s.sessionLeases.set session leases,
           sessions := { s.sessions with
             inFlight := s.sessions.inFlight.set session leases.length } }

def forgetSessionLease (lease : Uuid) : Scheduler :=
  match s.sessionLeases.entries.find? (fun p => lease ∈ p.2) with
  | none => s
  | some (session, leases) =>
    let leases := leases.erase lease
    { s with sessionLeases := s.sessionLeases.set session leases,
             sessions := { s.sessions with
               inFlight := s.sessions.inFlight.set session leases.length } }

def releaseSessionFreeze (session : SessionId) : Scheduler :=
  if s.sessionFreeze = some session then { s with sessionFreeze := none } else s

/-- Pinned or preloaded registrations conflict with exclusive residency. -/
def exclusiveConflict : Option String :=
  if s.book.ledger.values.any (fun entry => entry.pinned || entry.preload) then
    some "pinned_or_preload_conflict"
  else none

/-! ### Switching -/

/-- `_cold_request_eligible`: the waiters a grant decision looks at. -/
def coldRequestEligible (item : QueuedRequest) : Bool :=
  if item.kind = .interactive ∧ s.sessionFreeze.isSome then false
  else
    match (s.book.runtimeOf item.modelId).state with
    | .loading | .evicting => false
    | .unloaded =>
      s.coldLoadNotBefore ≤ s.now ∧ (s.nextSwitchAttempt.get? item.modelId).getD 0 ≤ s.now
    | _ => true

def cancelSwitchIntent (request : RequestId) : Scheduler :=
  match s.switchIntent with
  | none => s
  | some intent =>
    if intent.requestId = request then
      { s with book := (s.book.unfreezeSwitch intent.frozenModels).1, switchIntent := none }
    else s

def expireSwitchIntent : Scheduler :=
  match s.switchIntent with
  | none => s
  | some intent =>
    if intent.expiresAt ≤ s.now ∨ s.queue.contains intent.requestId = false then
      { s with book := (s.book.unfreezeSwitch intent.frozenModels).1,
               nextSwitchAttempt :=
                 s.nextSwitchAttempt.set intent.targetId (s.now + s.cfg.switchRetrySeconds),
               switchIntent := none }
    else s

def loadDeficit (m : ModelId) (sample : MemorySample) : ℤ :=
  let required := s.book.required m
  max 0 (max (s.book.policy.freeFloor + required - sample.availableBytes)
    (s.book.committed + required - s.book.policy.modelBudget))

/-- Drop the successes that have left the window; the deque is oldest first. -/
def trimSuccesses (now : Time) (window : ℚ) : List Time → List Time
  | [] => []
  | t :: ts => if window < now - t then trimSuccesses now window ts else t :: ts

def recordColdLoad : Scheduler :=
  let successes := trimSuccesses s.now s.cfg.switchWindowSeconds (s.switchSuccesses ++ [s.now])
  let s := { s with switchSuccesses := successes }
  match successes with
  | [] => s
  | oldest :: _ =>
    let cooled := max (s.now + s.cfg.cooldownSeconds) (oldest + s.cfg.switchWindowSeconds)
    if s.cfg.maxSwitchesInWindow ≤ successes.length then
      { s with coldLoadNotBefore := max s.coldLoadNotBefore cooled }
    else s

end Scheduler

/-! ### Steps of a coroutine -/

/-- A coroutine that `asyncio.create_task` starts inside a section. -/
inductive Spawn
  | finishLoad (op : Operation) (deadline : Time)
  | runEviction (ops : List Operation) (deadline : Time)
  | recoverAfterUnverifiedLoad (deadline : Time)
  | sessionLifecycle

/-- Where a coroutine stands after a step: suspended again, or ended. -/
inductive Ctl (α ρ : Type)
  | goto (pc : α)
  | done (r : Except Exc ρ)

/-- What a step of a coroutine does: the scheduler after it, the task it started and where it
stands. A section starts at most one task. -/
structure Effect (α ρ : Type) where
  next : Scheduler
  spawn : Option Spawn := none
  ctl : Ctl α ρ

namespace Ctl

variable {α β ρ τ : Type}

def ret (v : ρ) : Ctl α ρ := .done (.ok v)

def raise (e : Exc) : Ctl α ρ := .done (.error e)

/-- `await` of a nested coroutine: while it is suspended so is its caller, and when it ends the
caller goes on with its result. -/
def bind (c : Ctl α ρ) (wrap : α → β) (k : Except Exc ρ → Ctl β τ) : Ctl β τ :=
  match c with
  | .goto pc => .goto (wrap pc)
  | .done r => k r

end Ctl

namespace Effect

variable {α β ρ τ : Type}

def goto (s : Scheduler) (pc : α) : Effect α ρ := { next := s, ctl := .goto pc }

def ret (s : Scheduler) (v : ρ) : Effect α ρ := { next := s, ctl := .ret v }

def raise (s : Scheduler) (e : Exc) : Effect α ρ := { next := s, ctl := .raise e }

def bind (e : Effect α ρ) (wrap : α → β) (k : Except Exc ρ → Ctl β τ) : Effect β τ :=
  { next := e.next, spawn := e.spawn, ctl := e.ctl.bind wrap k }

end Effect

/-- What a coroutine sees of the other tasks: the identity a task created now would get, and the
results of the tasks that have ended. -/
structure TaskView where
  fresh : TaskId
  result : TaskId → Option Result

/-- `task is None or task.done()`. -/
def TaskView.idle (v : TaskView) : Option TaskId → Bool
  | none => true
  | some t => (v.result t).isSome

/-- What the event loop delivers when it resumes a coroutine: nothing but its turn, the timeout of
a `wait_for`, or the answer of a port. -/
inductive Input
  | go
  | timeout
  | snapshot (r : Except Exc MemorySample)
  | guard (answer : Except Exc Bool)
  | backend (r : Except Exc Observation)
  | witness (r : Except Exc Observation)
  | recovered (r : Except Exc RecoveryResult)

namespace Scheduler

variable (s : Scheduler)

def startRecovery (v : TaskView) (deadline : Time) : Scheduler × Option Spawn :=
  if v.idle s.recoveryTask then
    ({ s with recoveryTask := some v.fresh }, some (.recoverAfterUnverifiedLoad deadline))
  else (s, none)

def ensureSessionWorker (v : TaskView) : Scheduler × Option Spawn :=
  if v.idle s.sessionWorker then
    ({ s with sessionWorker := some v.fresh }, some .sessionLifecycle)
  else (s, none)

/-- Start the task that stops a batch and file it in the eviction slot. -/
def startEviction (v : TaskView) (book : Book) (ops : List Operation) (deadline : Time) :
    Scheduler × Option Spawn :=
  ({ s with book := book, eviction := some v.fresh }, some (.runEviction ops deadline))

/-- `_admission_allowed`: no guard admits; a guard that raises or answers anything but `True` does
not. -/
def admissionAllowed (answer : Except Exc Bool) : Bool :=
  if s.cfg.admissionGuard then
    match answer with
    | .ok value => value
    | .error _ => false
  else true

/-- The second half of `_establish_or_advance_switch`: stop the frozen set once it has drained. -/
def advanceSwitch (v : TaskView) (intent : SwitchIntent) (request : RequestId) (deadline : Time) :
    (Scheduler × Option Spawn) × Except Exc Bool :=
  if intent.requestId ≠ request then ((s, none), .ok false)
  else if intent.frozenModels.any (fun m => (s.book.runtimeOf m).hasLeases) then
    ((s, none), .ok false)
  else
    match s.book.beginEviction intent.frozenModels with
    | (_, .error (.conflict _)) => ((s.cancelSwitchIntent intent.requestId, none), .ok false)
    | (book, .error e) => (({ s with book := book }, none), .error e)
    | (book, .ok ops) =>
      (({ s with switchIntent := none } : Scheduler).startEviction v book ops deadline, .ok true)

/-- Freeze one complete eviction set, then stop it only after it drains. The Boolean says whether
an eviction was started. -/
def establishOrAdvanceSwitch (v : TaskView) (request : RequestId) (m : ModelId)
    (sample : MemorySample) (deadline : Time) : (Scheduler × Option Spawn) × Except Exc Bool :=
  match s.switchIntent with
  | some intent => s.advanceSwitch v intent request deadline
  | none =>
    match EvictionPolicy.choose s.book s.cfg.maxEvictions (s.loadDeficit m sample) s.now true with
    | .error e => ((s, none), .error e)
    | .ok [] => ((s, none), .ok false)
    | .ok candidates =>
      let models := candidates.map (·.modelId)
      match s.book.freezeForSwitch models with
      | (_, .error (.conflict _)) => ((s, none), .ok false)
      | (book, .error e) => (({ s with book := book }, none), .error e)
      | (book, .ok ()) =>
        let intent : SwitchIntent :=
          ⟨request, m, models, min deadline (s.now + s.cfg.switchDrainTimeoutSeconds)⟩
        ({ s with book := book, switchIntent := some intent } : Scheduler).advanceSwitch v intent
          request deadline

end Scheduler

end ModelSwitch

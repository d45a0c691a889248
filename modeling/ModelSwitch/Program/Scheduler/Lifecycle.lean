import ModelSwitch.Program.Scheduler.Residency

/-!
# The session worker

`_run_session_lifecycle` and the coroutines it awaits. One task runs them one after the other, so
the lifecycle of all sessions is serialized; the counter of the worker holds the counter of the
coroutine it is in.
-/

namespace ModelSwitch

/-! ### `_stop_models` and `_stop_other_models` -/

namespace StopModels

inductive Pc
  | begin
  | awaiting (task : TaskId) (borrowed : Bool)
  | check
  deriving DecidableEq

variable (s : Scheduler) (v : TaskView) (models : List ModelId) (deadline : Time)

def targets : List ModelId := models.filter s.book.stoppable

/-- Join the batch in flight, or start one. -/
def begin : Effect Pc Bool :=
  match s.eviction with
  | some task => .goto s (.awaiting task true)
  | none =>
    match targets s models with
    | [] => .ret s true
    | ms =>
      match s.book.beginCleanup ms with
      | (book, .error e) => .raise { s with book := book } e
      | (book, .ok ops) =>
        let started := s.startEviction v book ops deadline
        { next := started.1, spawn := started.2, ctl := .goto (.awaiting v.fresh false) }

/-- A borrowed batch owns the stop; the next attempt re-checks. -/
def joined (borrowed : Bool) : Except Exc (List ModelId) → Ctl Pc Bool
  | .error e => .raise e
  | .ok _ => if borrowed then .ret true else .goto .check

/-- Every model of the batch is proven stopped. -/
def confirmed : Bool := models.all fun m => (s.book.runtimeOf m).state = .unloaded

def step : Pc → Input → Option (Effect Pc Bool)
  | .begin, .go => some (begin s v models deadline)
  | .awaiting task borrowed, .go =>
    (v.batch task).map fun r => { next := s, ctl := joined borrowed r }
  | .check, .go => some (.ret s (confirmed s models))
  | _, _ => none

def throw (e : Exc) (_ : Pc) : Ctl Pc Bool := .raise e

end StopModels

namespace StopOtherModels

inductive Pc
  | list
  | stopping (models : List ModelId) (pc : StopModels.Pc)
  deriving DecidableEq

variable (s : Scheduler) (v : TaskView) (keep : ModelId) (deadline : Time)

def targets : List ModelId :=
  s.book.runtime.keys.filter fun m => m ≠ keep && s.book.stoppable m

def list : Effect Pc Unit :=
  match targets s keep with
  | [] => .ret s ()
  | models => .goto s (.stopping models .begin)

def stopped : Except Exc Bool → Ctl Pc Unit
  | .ok true => .ret ()
  | .ok false => .raise (.modelUnavailable "stop_unconfirmed")
  | .error e => .raise e

def step : Pc → Input → Option (Effect Pc Unit)
  | .list, .go => some (list s keep)
  | .list, _ => none
  | .stopping models pc, inp =>
    (StopModels.step s v models deadline pc inp).map (·.bind (.stopping models) stopped)

def throw (e : Exc) : Pc → Ctl Pc Unit
  | .list => .raise e
  | .stopping models pc => (StopModels.throw e pc).bind (.stopping models) stopped

end StopOtherModels

/-! ### Waiting for leases -/

/-- The two loops that wait for leases poll in the same way and differ in their condition. -/
inductive WaitPc
  | check
  | asleep (wake : Time)
  deriving DecidableEq

namespace WaitPc

variable (s : Scheduler)

/-- One round of a wait loop: the condition holds, the deadline has passed, or another turn. -/
def round (drained : Bool) (deadline : Time) : Effect WaitPc Bool :=
  if drained then .ret s true
  else if deadline ≤ s.now then .ret s false
  else .goto s (.asleep (s.now + s.cfg.pollIntervalSeconds))

def step (drained : Bool) (deadline : Time) : WaitPc → Input → Option (Effect WaitPc Bool)
  | .check, .go => some (round s drained deadline)
  | .asleep _, .go => some (.goto s .check)
  | .asleep wake, .timeout => if s.now < wake then none else some (.goto s .check)
  | _, _ => none

def throw (e : Exc) (_ : WaitPc) : Ctl WaitPc Bool := .raise e

end WaitPc

def waitForLeasesToDrain (s : Scheduler) (deadline : Time) :
    WaitPc → Input → Option (Effect WaitPc Bool) :=
  WaitPc.step s (!s.book.anyLeases) deadline

/-- The session's own leases and every other lease of its model are gone. -/
def sessionLeasesDrained (s : Scheduler) (session : SessionId) (model : ModelId) : Bool :=
  ((s.sessionLeases.get? session).getD []).isEmpty && !(s.book.runtimeOf model).hasLeases

def waitForSessionLeases (s : Scheduler) (session : SessionId) (deadline : Time) :
    WaitPc → Input → Option (Effect WaitPc Bool) :=
  match s.sessions.records.get? session with
  | some record => WaitPc.step s (sessionLeasesDrained s session record.modelId) deadline
  | none => fun pc inp =>
    match pc, inp with
    | .check, .go => some (.raise s (.sessionNotFound session))
    | pc, inp => WaitPc.step s false deadline pc inp

/-! ### `_expire_session` -/

namespace ExpireSession

inductive Pc
  | begin
  | hook
  deriving DecidableEq

variable (s : Scheduler) (session : SessionId)

def begin : Effect Pc Unit :=
  match s.sessions.records.get? session with
  | none => .raise s (.sessionNotFound session)
  | some record =>
    if record.phase = .preparing then
      let s := { s with queue := (s.queue.remove session .expired).1 }
      match s.sessions.markClosed session s.now with
      | .error e => .raise s e
      | .ok sessions =>
        .ret (({ s with sessions := sessions } : Scheduler).releaseSessionFreeze session) ()
    else
      match s.sessions.beginDrain session s.now "expired" with
      | .error e => .raise s e
      | .ok sessions =>
        let s := { s with sessions := sessions }
        if s.cfg.executionHook then .goto s .hook else .ret s ()

/-- The hook's own exceptions are swallowed. -/
def step : Pc → Input → Option (Effect Pc Unit)
  | .begin, .go => some (begin s session)
  | .hook, .go => some (.ret s ())
  | _, _ => none

def throw (e : Exc) (_ : Pc) : Ctl Pc Unit := .raise e

end ExpireSession

/-! ### `_prepare_session` -/

namespace PrepareSession

inductive Pc
  | begin
  | draining (model : ModelId) (prepareDeadline drainDeadline : Time) (pc : WaitPc)
  | yielding
  | stopping (model : ModelId) (prepareDeadline deadline : Time) (pc : StopOtherModels.Pc)
  | preloading (model : ModelId) (deadline : Time) (pc : PreloadOne.Pc)
  | blocking
  | activate
  | stoppingLate (model : ModelId) (deadline : Time) (pc : StopModels.Pc)
  | closeLate
  deriving DecidableEq

variable (s : Scheduler) (v : TaskView) (session : SessionId)

def begin : Effect Pc Unit :=
  match s.sessions.records.get? session with
  | none => .raise s (.sessionNotFound session)
  | some record =>
    if record.phase ≠ .preparing then .ret s ()
    else
      .goto { s with sessionFreeze := some session }
        (.draining record.modelId record.preparationExpiredAt
          (s.now + s.sessions.policy.drainSeconds) .check)

/-- Stop the others within the cleanup budget, or undo the freeze. -/
def drained (model : ModelId) (prepareDeadline : Time) : Except Exc Bool → Ctl Pc Unit
  | .ok true =>
    .goto (.stopping model prepareDeadline
      (min prepareDeadline (s.now + s.sessions.policy.cleanupSeconds)) .list)
  | .ok false => .goto .yielding
  | .error e => .raise e

/-- `except (Conflict, ModelUnavailable, TimeoutError)`. -/
def unconfirmed : Exc → Ctl Pc Unit
  | .conflict _ | .modelUnavailable _ | .timeoutError _ => .goto .blocking
  | e => .raise e

def stopped (model : ModelId) (prepareDeadline : Time) : Except Exc Unit → Ctl Pc Unit
  | .ok () =>
    .goto (.preloading model (min prepareDeadline (s.now + s.sessions.policy.prepareSeconds))
      (.check false))
  | .error e => unconfirmed e

def preloaded : Except Exc Unit → Ctl Pc Unit
  | .ok () => .goto .activate
  | .error e => unconfirmed e

/-- Keep the waiter, retry after the backoff. -/
def yielding : Effect Pc Unit :=
  match s.sessions.yieldPrepare session s.now with
  | .error e => .raise s e
  | .ok sessions =>
    .ret (({ s with sessions := sessions } : Scheduler).releaseSessionFreeze session) ()

def blocking : Effect Pc Unit :=
  match s.sessions.markBlocked session s.now "prepare_unconfirmed" with
  | .error e => .raise s e
  | .ok sessions => .ret { s with sessions := sessions } ()

def activate : Effect Pc Unit :=
  match s.sessions.records.get? session with
  | none => .raise s (.sessionNotFound session)
  | some record =>
    if record.phase = .preparing then
      match s.sessions.markActive session s.now with
      | .error e => .raise s e
      | .ok sessions =>
        .ret { s with sessions := sessions, queue := (s.queue.remove session .granted).1 } ()
    else
      -- the session ended while its model was still loading
      .goto s (.stoppingLate record.modelId (s.now + s.sessions.policy.stopGraceSeconds) .begin)

/-- The late branch drops the answer of `_stop_models`. -/
def stoppedLate : Except Exc Bool → Ctl Pc Unit
  | .ok _ => .goto .closeLate
  | .error e => .raise e

def closeLate : Effect Pc Unit :=
  match s.sessions.markClosed session s.now with
  | .error e => .raise s e
  | .ok sessions =>
    .ret (({ s with sessions := sessions } : Scheduler).releaseSessionFreeze session) ()

def step : Pc → Input → Option (Effect Pc Unit)
  | .begin, .go => some (begin s session)
  | .draining model prepareDeadline drainDeadline pc, inp =>
    (waitForLeasesToDrain s drainDeadline pc inp).map
      (·.bind (.draining model prepareDeadline drainDeadline) (drained s model prepareDeadline))
  | .yielding, .go => some (yielding s session)
  | .stopping model prepareDeadline deadline pc, inp =>
    (StopOtherModels.step s v model deadline pc inp).map
      (·.bind (.stopping model prepareDeadline deadline) (stopped s model prepareDeadline))
  | .preloading model deadline pc, inp =>
    (PreloadOne.step s v model deadline pc inp).map (·.bind (.preloading model deadline) preloaded)
  | .blocking, .go => some (blocking s session)
  | .activate, .go => some (activate s session)
  | .stoppingLate model deadline pc, inp =>
    (StopModels.step s v [model] deadline pc inp).map
      (·.bind (.stoppingLate model deadline) stoppedLate)
  | .closeLate, .go => some (closeLate s session)
  | _, _ => none

def throw (e : Exc) : Pc → Ctl Pc Unit
  | .draining model prepareDeadline drainDeadline pc =>
    (WaitPc.throw e pc).bind (.draining model prepareDeadline drainDeadline)
      (drained s model prepareDeadline)
  | .stopping model prepareDeadline deadline pc =>
    (StopOtherModels.throw e pc).bind (.stopping model prepareDeadline deadline)
      (stopped s model prepareDeadline)
  | .preloading model deadline pc =>
    (PreloadOne.throw e pc).bind (.preloading model deadline) preloaded
  | .stoppingLate model deadline pc =>
    (StopModels.throw e pc).bind (.stoppingLate model deadline) stoppedLate
  | _ => .raise e

end PrepareSession

/-! ### `_drain_session` -/

namespace DrainSession

inductive Pc
  | begin
  | waiting (model : ModelId) (cancelDeadline cleanupDeadline : Time) (pc : WaitPc)
  | stopping (model : ModelId) (cleanupDeadline : Time) (pc : StopModels.Pc)
  | finish (confirmed : Bool)
  deriving DecidableEq

variable (s : Scheduler) (v : TaskView) (session : SessionId)

def begin : Effect Pc Unit :=
  match s.sessions.records.get? session with
  | none => .raise s (.sessionNotFound session)
  | some record =>
    .goto s (.waiting record.modelId (s.now + s.sessions.policy.cancelSeconds)
      (s.now + s.sessions.policy.stopGraceSeconds) .check)

/-- Whether the leases drained in time makes no difference. -/
def waited (model : ModelId) (cleanupDeadline : Time) : Except Exc Bool → Ctl Pc Unit
  | .ok _ => .goto (.stopping model cleanupDeadline .begin)
  | .error e => .raise e

def stopped : Except Exc Bool → Ctl Pc Unit
  | .ok confirmed => .goto (.finish confirmed)
  | .error e => .raise e

def finish (confirmed : Bool) : Effect Pc Unit :=
  if confirmed then
    match s.sessions.markClosed session s.now with
    | .error e => .raise s e
    | .ok sessions =>
      .ret (({ s with sessions := sessions } : Scheduler).releaseSessionFreeze session) ()
  else
    match s.sessions.markBlocked session s.now "stop_unconfirmed" with
    | .error e => .raise s e
    | .ok sessions => .ret { s with sessions := sessions } ()

def step : Pc → Input → Option (Effect Pc Unit)
  | .begin, .go => some (begin s session)
  | .waiting model cancelDeadline cleanupDeadline pc, inp =>
    (waitForSessionLeases s session cancelDeadline pc inp).map
      (·.bind (.waiting model cancelDeadline cleanupDeadline) (waited model cleanupDeadline))
  | .stopping model cleanupDeadline pc, inp =>
    (StopModels.step s v [model] cleanupDeadline pc inp).map
      (·.bind (.stopping model cleanupDeadline) stopped)
  | .finish confirmed, .go => some (finish s session confirmed)
  | _, _ => none

def throw (e : Exc) : Pc → Ctl Pc Unit
  | .waiting model cancelDeadline cleanupDeadline pc =>
    (WaitPc.throw e pc).bind (.waiting model cancelDeadline cleanupDeadline)
      (waited model cleanupDeadline)
  | .stopping model cleanupDeadline pc =>
    (StopModels.throw e pc).bind (.stopping model cleanupDeadline) stopped
  | _ => .raise e

end DrainSession

/-! ### The worker loop -/

/-- What the worker does next. -/
inductive SessionPlan
  | expire (session : SessionId)
  | prepare (session : SessionId)
  | close (session : SessionId)
  | reconcile (session : SessionId)

namespace SessionLifecycle

inductive Pc
  | plan
  | idle
  | idling (wake : Time)
  | expiring (session : SessionId) (pc : ExpireSession.Pc)
  | preparing (session : SessionId) (pc : PrepareSession.Pc)
  | draining (session : SessionId) (pc : DrainSession.Pc)
  | closing (out : Except Exc Unit)
  deriving DecidableEq

variable (s : Scheduler) (v : TaskView)

/-- The queue after `_next_session_plan` and its answer. -/
def nextSessionPlan : RequestQueue × Option SessionPlan :=
  match s.sessions.expired s.now with
  | record :: _ =>
    (if record.phase = .preparing then (s.queue.remove record.sessionId .expired).1 else s.queue,
      some (.expire record.sessionId))
  | [] =>
    match s.sessions.blockedDue s.now with
    | record :: _ => (s.queue, some (.reconcile record.sessionId))
    | [] =>
      match s.queue.head s.now (fun item => (s.sessions.candidate item.requestId s.now).isSome)
          (some .session) with
      | (queue, some item) => (queue, some (.prepare item.requestId))
      | (queue, none) =>
        (queue, (s.sessions.records.values.find? fun record => record.phase = .draining).map
          fun record => .close record.sessionId)

/-- `close` and `reconcile` share the same cleanup path. -/
def enact : Option SessionPlan → Pc
  | none => .idle
  | some (.expire session) => .expiring session .begin
  | some (.prepare session) => .preparing session .begin
  | some (.close session) => .draining session .begin
  | some (.reconcile session) => .draining session .begin

def plan : Effect Pc Unit :=
  .goto { s with queue := (nextSessionPlan s).1 } (enact (nextSessionPlan s).2)

def idle : Pc :=
  if s.sessions.pending then .idling (s.now + s.cfg.pollIntervalSeconds) else .closing (.ok ())

/-- A step that returns is followed by the next plan; an exception ends the worker. -/
def stepped : Except Exc Unit → Ctl Pc Unit
  | .ok () => .goto .plan
  | .error e => .goto (.closing (.error e))

def step : Pc → Input → Option (Effect Pc Unit)
  | .plan, .go => some (plan s)
  | .idle, .go => some (.goto s (idle s))
  | .idling _, .go => some (.goto s .plan)
  | .idling wake, .timeout => if s.now < wake then none else some (.goto s .plan)
  | .expiring session pc, inp =>
    (ExpireSession.step s session pc inp).map (·.bind (.expiring session) stepped)
  | .preparing session pc, inp =>
    (PrepareSession.step s v session pc inp).map (·.bind (.preparing session) stepped)
  | .draining session pc, inp =>
    (DrainSession.step s v session pc inp).map (·.bind (.draining session) stepped)
  | .closing out, .go => some { next := { s with sessionWorker := none }, ctl := .done out }
  | _, _ => none

def throw (e : Exc) : Pc → Ctl Pc Unit
  | .plan | .idle | .idling _ => .goto (.closing (.error e))
  | .expiring session pc => (ExpireSession.throw e pc).bind (.expiring session) stepped
  | .preparing session pc => (PrepareSession.throw s e pc).bind (.preparing session) stepped
  | .draining session pc => (DrainSession.throw e pc).bind (.draining session) stepped
  | .closing _ => .raise e

end SessionLifecycle

end ModelSwitch

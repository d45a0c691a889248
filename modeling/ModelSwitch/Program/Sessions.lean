import ModelSwitch.Program.Queue

/-!
# Exclusive sessions

`session_manager.py`: one model, one client, one serialized lifecycle. The manager is a pure state
machine; every method takes the caller's clock reading. A method that raises leaves the manager as
it was, so a transition is an `Except` whose value is the manager after it.
-/

namespace ModelSwitch

inductive Phase
  | preparing
  | active
  | draining
  | closed
  | blocked
  deriving DecidableEq, Repr

/-- A session that holds or is releasing the model keeps its slot and budget. -/
def Phase.holding : Phase → Bool
  | .active | .draining | .blocked => true
  | .preparing | .closed => false

structure SessionRecord where
  sessionId : SessionId
  modelId : ModelId
  clientId : String
  priority : ℤ
  createdAt : Time
  waitDeadline : Time
  prepareDeadline : Time
  hardDeadline : Time
  ttlSeconds : ℚ
  phase : Phase := .preparing
  heartbeatAt : Option Time := none
  activatedAt : Option Time := none
  drainingAt : Option Time := none
  drainingReason : Option String := none
  closedAt : Option Time := none
  blockedAt : Option Time := none
  blockedReason : Option String := none
  retryAt : Time := 0
  sequence : ℕ := 0

namespace SessionRecord

variable (r : SessionRecord)

/-- The last activity the soft time to live counts from. -/
def activity : Time := r.heartbeatAt.getD (r.activatedAt.getD r.createdAt)

/-- Soft TTL from the last activity, never beyond the hard deadline. -/
def expiresAt : Time := min r.hardDeadline (r.activity + r.ttlSeconds)

def preparationExpiredAt : Time := min r.waitDeadline r.prepareDeadline

end SessionRecord

/-- The keyword arguments of `SessionManager.__init__`. -/
structure SessionPolicy where
  maxSessions : ℕ := 128
  waitSeconds : ℚ := 1800
  hardDeadlineSeconds : ℚ := 3600
  heartbeatSeconds : ℚ := 10
  ttlSeconds : ℚ := 30
  prepareSeconds : ℚ := 900
  drainSeconds : ℚ := 30
  retrySeconds : ℚ := 30
  cleanupSeconds : ℚ := 60
  cancelSeconds : ℚ := 10
  stopGraceSeconds : ℚ := 30
  reconcileSeconds : ℚ := 5

/-- No policy value is zero or negative. -/
def SessionPolicy.positive (p : SessionPolicy) : Bool :=
  0 < p.maxSessions && [p.waitSeconds, p.hardDeadlineSeconds, p.heartbeatSeconds, p.ttlSeconds,
    p.prepareSeconds, p.drainSeconds, p.retrySeconds, p.cleanupSeconds, p.cancelSeconds,
    p.stopGraceSeconds, p.reconcileSeconds].all (0 < ·)

/-- The single owner of session state. -/
structure SessionManager where
  policy : SessionPolicy := {}
  records : Dict SessionId SessionRecord := Dict.empty
  activeId : Option SessionId := none
  inFlight : Dict SessionId ℕ := Dict.empty

namespace SessionManager

def init (policy : SessionPolicy) : Except Exc SessionManager :=
  if policy.positive then .ok { policy := policy }
  else .error (.valueError "session policy values must be positive")

variable (sm : SessionManager)

/-! ### Lifecycle -/

/-- The record `create` files once its checks have passed. -/
def newRecord (session : SessionId) (model : ModelId) (client : String) (now : Time)
    (priority : ℤ) (hard : ℚ) : SessionRecord :=
  { sessionId := session, modelId := model, clientId := client, priority := priority,
    createdAt := now, waitDeadline := min (now + sm.policy.waitSeconds) (now + hard),
    prepareDeadline := min (now + sm.policy.prepareSeconds) (now + hard),
    hardDeadline := now + hard, ttlSeconds := sm.policy.ttlSeconds }

/-- Register one `PREPARING` waiter; the queue owns its position. What `enqueue` raises passes
through, and the queue it leaves behind is kept. -/
def create (session : SessionId) (model : ModelId) (client : String) (now : Time)
    (queue : RequestQueue) (priority : ℤ) (hardDeadlineSeconds : Option ℚ) :
    RequestQueue × Except Exc SessionManager :=
  if sm.records.contains session then (queue, .error (.sessionConflict "duplicate_session"))
  else if sm.policy.maxSessions ≤ sm.records.size then
    (queue, .error (.sessionConflict "session_capacity"))
  else
    let hard := match hardDeadlineSeconds with
      | none => sm.policy.hardDeadlineSeconds
      | some hard => min hard sm.policy.hardDeadlineSeconds
    if hard ≤ 0 then (queue, .error (.sessionConflict "invalid_hard_deadline"))
    else
      let record := sm.newRecord session model client now priority hard
      match queue.enqueue session model priority record.waitDeadline now .session with
      | (queue, .error e) => (queue, .error e)
      | (queue, .ok waiter) =>
        (queue, .ok { sm with
          records := sm.records.set session { record with sequence := waiter.sequence },
          inFlight := sm.inFlight.set session 0 })

/-- `get`, with the continuation of the caller. -/
def withRecord {α : Type} (session : SessionId) (k : SessionRecord → Except Exc α) :
    Except Exc α :=
  match sm.records.get? session with
  | none => .error (.sessionNotFound session)
  | some record => k record

def setRecord (session : SessionId) (record : SessionRecord) : SessionManager :=
  { sm with records := sm.records.set session record }

/-- `if self.active_id == session_id: self.active_id = None`. -/
def clearActive (session : SessionId) : SessionManager :=
  if sm.activeId = some session then { sm with activeId := none } else sm

/-- An `ACTIVE` session is live only inside its soft TTL and hard deadline. -/
def isLive (session : SessionId) (now : Time) : Bool :=
  match sm.records.get? session with
  | none => false
  | some record => record.phase = .active ∧ now < record.expiresAt

def heartbeat (session : SessionId) (now : Time) : Except Exc SessionManager :=
  sm.withRecord session fun record =>
    if ¬ (record.phase = .preparing ∨ record.phase = .active) then
      .error (.sessionConflict "session_not_open")
    else if record.phase = .active ∧ record.expiresAt ≤ now then
      .error (.sessionConflict "session_expired")
    else .ok (sm.setRecord session { record with heartbeatAt := some now })

def markActive (session : SessionId) (now : Time) : Except Exc SessionManager :=
  sm.withRecord session fun record =>
    if record.phase = .active then .error (.sessionConflict "session_already_active")
    else if record.phase ≠ .preparing then .error (.sessionConflict "session_not_preparing")
    else if sm.activeId.isSome ∧ sm.activeId ≠ some session then
      .error (.sessionConflict "session_already_active")
    else .ok { sm.setRecord session { record with phase := .active, activatedAt := some now,
                                                  heartbeatAt := some now, retryAt := 0 } with
               activeId := some session }

def beginDrain (session : SessionId) (now : Time) (reason : String) :
    Except Exc SessionManager :=
  sm.withRecord session fun record =>
    if record.phase = .closed then .ok sm
    else .ok ((sm.setRecord session { record with phase := .draining, drainingAt := some now,
                                                  drainingReason := some reason }).clearActive
                session)

/-- The only phase that releases the slot; idempotent. -/
def markClosed (session : SessionId) (now : Time) : Except Exc SessionManager :=
  sm.withRecord session fun record =>
    if record.phase = .closed then .ok sm
    else
      let sm' := (sm.setRecord session { record with phase := .closed, closedAt := some now,
                                                     retryAt := 0 }).clearActive session
      .ok { sm' with inFlight := sm'.inFlight.set session 0 }

def markBlocked (session : SessionId) (now : Time) (reason : String) :
    Except Exc SessionManager :=
  sm.withRecord session fun record =>
    if record.phase = .closed then .error (.sessionConflict "session_closed")
    else .ok ((sm.setRecord session
                { record with phase := .blocked, blockedAt := some now,
                              blockedReason := some reason,
                              retryAt := now + sm.policy.reconcileSeconds }).clearActive session)

/-- Undo a freeze without losing the waiter: it retries after the backoff. -/
def yieldPrepare (session : SessionId) (now : Time) : Except Exc SessionManager :=
  sm.withRecord session fun record =>
    if record.phase ≠ .preparing then .error (.sessionConflict "session_not_preparing")
    else .ok (sm.setRecord session { record with retryAt := now + sm.policy.retrySeconds })

/-! ### Decisions -/

/-- The session that currently holds (or is releasing) the model, if any. -/
def holdingId : Option SessionId :=
  (sm.records.entries.find? fun p => p.2.phase.holding).map (·.1)

/-- The record if it may start preparing now. -/
def candidate (session : SessionId) (now : Time) : Option SessionRecord :=
  match sm.records.get? session with
  | none => none
  | some record =>
    if record.phase ≠ .preparing then none
    else if now < record.retryAt ∨ record.preparationExpiredAt ≤ now ∨ record.hardDeadline ≤ now
    then none
    else if sm.holdingId.isSome then none
    else some record

/-- Sessions whose budget ran out. -/
def expired (now : Time) : List SessionRecord :=
  sm.records.values.filter fun record =>
    (record.phase = .preparing && record.preparationExpiredAt ≤ now)
      || (record.phase = .active && record.expiresAt ≤ now)

def blockedDue (now : Time) : List SessionRecord :=
  sm.records.values.filter fun record => record.phase = .blocked && record.retryAt ≤ now

def pending : Bool := sm.records.values.any fun record => record.phase ≠ .closed

end SessionManager

/-! ### Sequences of calls -/

/-- A call of the manager. The queue is the caller's. -/
inductive SessionOp
  | create (session : SessionId) (model : ModelId) (client : String) (queue : RequestQueue)
      (priority : ℤ) (hardDeadlineSeconds : Option ℚ)
  | heartbeat (session : SessionId)
  | markActive (session : SessionId)
  | beginDrain (session : SessionId) (reason : String)
  | markBlocked (session : SessionId) (reason : String)
  | markClosed (session : SessionId)
  | yieldPrepare (session : SessionId)

namespace SessionOp

def call (sm : SessionManager) (now : Time) : SessionOp → Except Exc SessionManager
  | .create session model client queue priority hard =>
    (sm.create session model client now queue priority hard).2
  | .heartbeat session => sm.heartbeat session now
  | .markActive session => sm.markActive session now
  | .beginDrain session reason => sm.beginDrain session now reason
  | .markBlocked session reason => sm.markBlocked session now reason
  | .markClosed session => sm.markClosed session now
  | .yieldPrepare session => sm.yieldPrepare session now

end SessionOp

/-- The manager and the time of its last call. -/
structure ClockedSessions where
  manager : SessionManager
  now : Time

/-- A call at a time that is not before the last one. A call that raises changes nothing. -/
def ClockedSessions.step (w : ClockedSessions) : Time × SessionOp → Option ClockedSessions
  | (now, op) =>
    if now < w.now then none
    else
      match op.call w.manager now with
      | .ok sm => some { manager := sm, now := now }
      | .error _ => some { w with now := now }

end ModelSwitch

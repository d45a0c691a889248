import ModelSwitch.Program.Contracts

/-!
# The request queue

`request_queue.py`: bounded, dynamically aged request ordering. Lease requests and session
registrations wait in the same queue under the same order; only the grant decision differs.
-/

namespace ModelSwitch

inductive WaitState
  | waiting
  | granted
  | claimed
  | cancelled
  | expired
  deriving DecidableEq, Repr

inductive WaitKind
  | interactive
  | session
  deriving DecidableEq, Repr

structure QueuedRequest where
  requestId : RequestId
  modelId : ModelId
  priority : ℤ
  enqueuedAt : Time
  deadline : Time
  sequence : ℕ
  state : WaitState := .waiting
  kind : WaitKind := .interactive
  deriving DecidableEq

structure RequestQueue where
  capacity : ℤ := 128
  agingSeconds : ℚ := 30
  items : Dict RequestId QueuedRequest := Dict.empty
  sequence : ℕ := 0

namespace RequestQueue

variable (q : RequestQueue)

def init (capacity : ℤ) (agingSeconds : ℚ) : Except Exc RequestQueue :=
  if capacity < 1 ∨ agingSeconds ≤ 0 then .error (.valueError "invalid queue policy")
  else .ok { capacity := capacity, agingSeconds := agingSeconds }

/-- Drop the waiters whose deadline has passed. The tuple of dropped items that `expire` and
`clear` return is read by no caller. -/
def expire (now : Time) : RequestQueue :=
  { q with items := q.items.filter fun p => ¬ p.2.deadline ≤ now }

def contains (request : RequestId) : Bool := q.items.contains request

/-- The queue `enqueue` leaves behind and the waiter it filed. -/
def enqueue (request : RequestId) (model : ModelId) (priority : ℤ) (deadline now : Time)
    (kind : WaitKind) : RequestQueue × Except Exc QueuedRequest :=
  let q := q.expire now
  if q.contains request then (q, .error (.valueError "duplicate waiter"))
  else if q.capacity ≤ (q.items.size : ℤ) then (q, .error (.overflowError "queue full"))
  else
    let item : QueuedRequest :=
      { requestId := request, modelId := model, priority := priority, enqueuedAt := now,
        deadline := deadline, sequence := q.sequence + 1, kind := kind }
    ({ q with sequence := q.sequence + 1, items := q.items.set request item }, .ok item)

/-- Return a retained waiter to the queue without refreshing its identity. -/
def requeue (item : QueuedRequest) : RequestQueue × Except Exc QueuedRequest :=
  if q.contains item.requestId then (q, .error (.valueError "duplicate waiter"))
  else if q.capacity ≤ (q.items.size : ℤ) then (q, .error (.overflowError "queue full"))
  else
    let item := { item with state := .waiting }
    ({ q with items := q.items.set item.requestId item }, .ok item)

/-- Remove a waiter; the removed item carries the state it ended in. -/
def remove (request : RequestId) (state : WaitState := .cancelled) :
    RequestQueue × Option QueuedRequest :=
  ({ q with items := q.items.erase request },
    (q.items.get? request).map fun item => { item with state := state })

def clear : RequestQueue := { q with items := Dict.empty }

/-- The waiting time counted in whole ageing periods. -/
def age (item : QueuedRequest) (now : Time) : ℤ :=
  ⌊max 0 (now - item.enqueuedAt) / q.agingSeconds⌋

/-- `_priority`: the registered priority plus one for every ageing period waited. -/
def rank (item : QueuedRequest) (now : Time) : ℤ := item.priority + q.age item now

/-- `a` comes before `b` in the order `(-priority, sequence)`. -/
def before (now : Time) (a b : QueuedRequest) : Bool :=
  q.rank b now < q.rank a now ∨ (q.rank a now = q.rank b now ∧ a.sequence < b.sequence)

/-- `min` over the candidates: the first one no other comes before. -/
def best (now : Time) : List QueuedRequest → Option QueuedRequest
  | [] => none
  | item :: items =>
    some (items.foldl (fun acc x => if q.before now x acc then x else acc) item)

/-- The waiters a head decision looks at. -/
def candidates (eligible : QueuedRequest → Bool) (kind : Option WaitKind) : List QueuedRequest :=
  q.items.values.filter fun item => (kind.all (item.kind = ·)) && eligible item

/-- `head` expires the queue first, so it returns the queue it leaves behind too. -/
def head (now : Time) (eligible : QueuedRequest → Bool) (kind : Option WaitKind) :
    RequestQueue × Option QueuedRequest :=
  let q := q.expire now
  (q, q.best now (q.candidates eligible kind))

def isHead (request : RequestId) (now : Time) (eligible : QueuedRequest → Bool)
    (kind : Option WaitKind) : RequestQueue × Bool :=
  let (q', item) := q.head now eligible kind
  (q', item.any (·.requestId = request))

def waitingModels : List ModelId := q.items.values.map (·.modelId)

end RequestQueue

end ModelSwitch

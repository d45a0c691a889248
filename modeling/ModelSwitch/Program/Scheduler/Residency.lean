import ModelSwitch.Program.Scheduler.Acquire

/-!
# Stopping, preloading and releasing models

The coroutines that move residency: the stop batches, the reclaims of failed, lost and phantom
runtimes, `_preload_one`, and the public calls built on them.
-/

namespace ModelSwitch

/-! ### `_finish_eviction` and `_run_eviction` -/

/-- `_rollback_pending`: undo what was never sent; a superseded operation is passed over. -/
def rollbackPending (b : Book) : List Operation → Book × Except Exc Unit
  | [] => (b, .ok ())
  | op :: ops =>
    match b.rollbackUnsent op with
    | (b, .ok ()) => rollbackPending b ops
    | (b, .error (.staleOperation _)) => rollbackPending b ops
    | (b, .error e) => (b, .error e)

namespace FinishEviction

inductive Pc
  | stopping (stopped : List ModelId) (op : Operation) (rest : List Operation)
  | writeback (stopped : List ModelId) (op : Operation) (rest : List Operation)
      (obs : Option Observation)
  | cancelled (op : Operation) (rest : List Operation) (exc : Exc)
  deriving DecidableEq

variable (s : Scheduler)

/-- The loop over the batch. -/
def next (stopped : List ModelId) : List Operation → Ctl Pc (List ModelId)
  | [] => .ret stopped
  | op :: rest => .goto (.stopping stopped op rest)

def start (ops : List Operation) : Ctl Pc (List ModelId) := next [] ops

/-- Write an unproven stop down and undo the rest of the batch; the caller ends with `out`. -/
def abandon (op : Operation) (rest : List Operation) (code : Option String)
    (out : Except Exc (List ModelId)) : Effect Pc (List ModelId) :=
  match s.book.failed op code with
  | (book, .error e) => .raise { s with book := book } e
  | (book, .ok ()) =>
    match rollbackPending book rest with
    | (book, .error e) => .raise { s with book := book } e
    | (book, .ok ()) => { next := { s with book := book }, ctl := .done out }

def writeback (stopped : List ModelId) (op : Operation) (rest : List Operation) :
    Option Observation → Effect Pc (List ModelId)
  | none => abandon s op rest (some "stop_unverified") (.ok stopped)
  | some obs =>
    if obs.presence = .stopped then
      match s.book.stopped op (some s.now) with
      | (book, .ok ()) =>
        { next := { s with book := book }, ctl := next (stopped ++ [op.modelId]) rest }
      | (book, .error (.staleOperation _)) =>
        { next := { s with book := book }, ctl := next stopped rest }
      | (book, .error e) => .raise { s with book := book } e
    else abandon s op rest obs.detailCode (.ok stopped)

def step : Pc → Input → Option (Effect Pc (List ModelId))
  | .stopping stopped op rest, .backend (.ok obs) =>
    some (.goto s (.writeback stopped op rest (some obs)))
  | .stopping stopped op rest, .backend (.error _) =>
    some (.goto s (.writeback stopped op rest none))
  | .writeback stopped op rest obs, .go => some (writeback s stopped op rest obs)
  | .cancelled op rest exc, .go =>
    some (abandon s op rest (some "stop_unverified") (.error exc))
  | _, _ => none

def throw (e : Exc) : Pc → Ctl Pc (List ModelId)
  | .stopping _ op rest => .goto (.cancelled op rest e)
  | .writeback _ _ _ _ | .cancelled _ _ _ => .raise e

end FinishEviction

namespace RunEviction

inductive Pc
  | running (pc : FinishEviction.Pc)
  | closing (out : Except Exc (List ModelId))
  deriving DecidableEq

variable (s : Scheduler)

def finished (r : Except Exc (List ModelId)) : Ctl Pc (List ModelId) := .goto (.closing r)

def start : List Operation → Pc
  | [] => .closing (.ok [])
  | op :: rest => .running (.stopping [] op rest)

def step : Pc → Input → Option (Effect Pc (List ModelId))
  | .running pc, inp => (FinishEviction.step s pc inp).map (·.bind .running finished)
  | .closing out, .go => some { next := { s with eviction := none }, ctl := .done out }
  | .closing _, _ => none

def throw (e : Exc) : Pc → Ctl Pc (List ModelId)
  | .running pc => (FinishEviction.throw e pc).bind .running finished
  | .closing _ => .raise e

end RunEviction

/-- What `await task` of a stop batch yields once the batch has ended. -/
def TaskView.batch (v : TaskView) (t : TaskId) : Option (Except Exc (List ModelId)) :=
  (v.result t).map fun
    | .ok (.models ms) => .ok ms
    | .ok _ => .ok []
    | .error e => .error e

/-! ### Reclaiming -/

namespace ReclaimFailedModel

inductive Pc
  | begin
  | stopping (pc : FinishEviction.Pc)
  deriving DecidableEq

variable (s : Scheduler) (m : ModelId)

def reclaimed : Except Exc (List ModelId) → Ctl Pc Unit
  | .ok _ => .ret ()
  | .error e => .raise e

/-- Each attempt is counted, which keeps a model that keeps failing from retrying forever. -/
def begin : Effect Pc Unit :=
  let r := s.book.runtimeOf m
  if r.state ≠ .error ∨ r.hasLeases = true ∨ r.operationId.isSome = true then .ret s ()
  else
    match s.book.beginCleanup [m] with
    | (book, .error (.conflict _)) =>
      .raise { s with book := book } (.modelUnavailable "retry_reclaim_refused")
    | (book, .error e) => .raise { s with book := book } e
    | (book, .ok ops) =>
      { next := { s with book := book,
                         loadRetries := s.loadRetries.set m ((s.loadRetries.get? m).getD 0 + 1) },
        ctl := (FinishEviction.start ops).bind .stopping reclaimed }

def step : Pc → Input → Option (Effect Pc Unit)
  | .begin, .go => some (begin s m)
  | .begin, _ => none
  | .stopping pc, inp => (FinishEviction.step s pc inp).map (·.bind .stopping reclaimed)

def throw (e : Exc) : Pc → Ctl Pc Unit
  | .begin => .raise e
  | .stopping pc => (FinishEviction.throw e pc).bind .stopping reclaimed

end ReclaimFailedModel

/-- One independent presence fact about a `READY` model. -/
inductive Verdict
  | unwitnessed
  | alive
  | gone
  | unknown

/-- `_observe_runtime`: the scheduler normalises the vocabularies of its backends. -/
def Scheduler.observeRuntime (s : Scheduler) (answer : Except Exc Observation) :
    Except Exc Verdict :=
  if s.cfg.observable = false then .ok .unwitnessed
  else
    match answer with
    | .error _ => .error (.modelUnavailable "runtime_observation_failed")
    | .ok obs =>
      match obs.presence with
      | .running => .ok (if obs.healthy then .alive else .unknown)
      | .stopped => .ok .gone
      | .unknown => .ok .unknown

/-- The record moved on while it was being observed. -/
def Runtime.movedOn (r : Runtime) : Bool :=
  r.state ≠ .ready || r.hasLeases || r.operationId.isSome

namespace ReclaimLostRuntime

inductive Pc
  | observe
  | reclaim
  deriving DecidableEq

variable (s : Scheduler) (m : ModelId)

def observed (answer : Except Exc Observation) : Ctl Pc Bool :=
  match s.observeRuntime answer with
  | .error e => .raise e
  | .ok .unwitnessed | .ok .alive => .ret false
  | .ok .unknown => .raise (.modelUnavailable "runtime_unverified")
  | .ok .gone => .goto .reclaim

def reclaim : Effect Pc Bool :=
  if (s.book.runtimeOf m).movedOn then .ret s false
  else
    match s.book.beginEviction [m] false with
    | (book, .error (.conflict _)) =>
      .raise { s with book := book } (.modelUnavailable "runtime_reclaim_refused")
    | (book, .error e) => .raise { s with book := book } e
    | (book, .ok []) => .raise { s with book := book } (.external "IndexError")
    | (book, .ok (op :: _)) =>
      match book.stopped op (some s.now) with
      | (book, .error e) => .raise { s with book := book } e
      | (book, .ok ()) => .ret { s with book := book } true

def step : Pc → Input → Option (Effect Pc Bool)
  | .observe, .witness answer => some { next := s, ctl := observed s answer }
  | .reclaim, .go => some (reclaim s m)
  | _, _ => none

def throw (e : Exc) (_ : Pc) : Ctl Pc Bool := .raise e

end ReclaimLostRuntime

namespace ReclaimPhantomResidents

inductive Pc
  | observe (m : ModelId) (rest : List ModelId) (reclaimed : Bool)
  | reclaim (m : ModelId) (rest : List ModelId) (reclaimed : Bool)
  deriving DecidableEq

variable (s : Scheduler) (keep : ModelId)

/-- A resident model that may have lost its runtime. -/
def suspect (m : ModelId) : Bool :=
  let r := s.book.runtimeOf m
  m ≠ keep && 0 < r.reservation && !r.hasLeases && r.operationId.isNone && r.state = .ready

/-- The loop over the models of the book, to the next one that has to be observed. -/
def scan (reclaimed : Bool) : List ModelId → Ctl Pc Bool
  | [] => .ret reclaimed
  | m :: rest => if suspect s keep m then .goto (.observe m rest reclaimed) else scan reclaimed rest

def start : Ctl Pc Bool := scan s keep false s.book.runtime.keys

def observed (m : ModelId) (rest : List ModelId) (reclaimed : Bool)
    (answer : Except Exc Observation) : Ctl Pc Bool :=
  match s.observeRuntime answer with
  | .error e => .raise e
  | .ok .gone => .goto (.reclaim m rest reclaimed)
  | .ok _ => scan s keep reclaimed rest

def reclaim (m : ModelId) (rest : List ModelId) (reclaimed : Bool) : Effect Pc Bool :=
  if (s.book.runtimeOf m).movedOn then { next := s, ctl := scan s keep reclaimed rest }
  else
    match s.book.beginEviction [m] false with
    | (_, .error (.conflict _)) => { next := s, ctl := scan s keep reclaimed rest }
    | (book, .error e) => .raise { s with book := book } e
    | (book, .ok []) => .raise { s with book := book } (.external "IndexError")
    | (book, .ok (op :: _)) =>
      match book.stopped op (some s.now) with
      | (book, .error e) => .raise { s with book := book } e
      | (book, .ok ()) =>
        let s := { s with book := book }
        { next := s, ctl := scan s keep true rest }

def step : Pc → Input → Option (Effect Pc Bool)
  | .observe m rest reclaimed, .witness answer =>
    some { next := s, ctl := observed s keep m rest reclaimed answer }
  | .reclaim m rest reclaimed, .go => some (reclaim s keep m rest reclaimed)
  | _, _ => none

def throw (e : Exc) (_ : Pc) : Ctl Pc Bool := .raise e

end ReclaimPhantomResidents

/-! ### `_preload_one` -/

namespace PreloadOne

inductive Pc
  | check (loadedHere : Bool)
  | reclaimFailed (loadedHere : Bool) (pc : ReclaimFailedModel.Pc)
  | verify (loadedHere : Bool) (pc : ReclaimLostRuntime.Pc)
  | snapshot (loadedHere : Bool)
  | admission (loadedHere : Bool) (sample : MemorySample)
  | load (loadedHere : Bool) (sample : MemorySample) (admitted : Bool)
  | phantom (loadedHere : Bool) (sample : MemorySample) (pc : ReclaimPhantomResidents.Pc)
  | evict (loadedHere : Bool) (sample : MemorySample)
  | sleep (loadedHere : Bool)
  | asleep (loadedHere : Bool) (wake : Time)
  deriving DecidableEq

variable (s : Scheduler) (v : TaskView) (m : ModelId) (deadline : Time)

/-- `UNLOADED` with no load and no stop batch in flight. -/
def clear : Bool :=
  (s.book.runtimeOf m).state = .unloaded && s.loads.entries.isEmpty && s.eviction.isNone

def check (loadedHere : Bool) : Effect Pc Unit :=
  if s.storageUnavailable then .raise s (.modelUnavailable "storage_unavailable")
  else
    match (s.book.runtimeOf m).state with
    | .ready =>
      let s := { s with loadRetries := s.loadRetries.erase m }
      if loadedHere then .ret s () else .goto s (.verify loadedHere .observe)
    | .error =>
      if s.cfg.loadRetryLimit ≤ (s.loadRetries.get? m).getD 0 then
        .raise s (.modelUnavailable (textOr (s.book.runtimeOf m).lastError "preload_failed"))
      else .goto s (.reclaimFailed loadedHere .begin)
    | _ => .goto s (if clear s m then .snapshot loadedHere else .sleep loadedHere)

def failedReclaimed (loadedHere : Bool) : Except Exc Unit → Ctl Pc Unit
  | .ok () => .goto (.check loadedHere)
  | .error e => .raise e

def verified (loadedHere : Bool) : Except Exc Bool → Ctl Pc Unit
  | .ok true => .goto (.check loadedHere)
  | .ok false => .ret ()
  | .error e => .raise e

def phantomsReclaimed (loadedHere : Bool) (sample : MemorySample) : Except Exc Bool → Ctl Pc Unit
  | .ok true => .goto (.check loadedHere)
  | .ok false => .goto (.evict loadedHere sample)
  | .error e => .raise e

def load (loadedHere : Bool) (sample : MemorySample) (admitted : Bool) : Effect Pc Unit :=
  if admitted = true ∧ clear s m = true then
    if s.book.canLoad m sample s.now then
      match s.book.beginLoad m sample s.now with
      | (book, .ok op) =>
        { next := { s with book := book, loads := s.loads.set m v.fresh },
          spawn := some (.finishLoad op deadline), ctl := .goto (.check true) }
      | (book, .error e) => .raise { s with book := book } e
    else
      -- reclaim a phantom reservation before spending an eviction
      { next := s, ctl := (ReclaimPhantomResidents.start s m).bind (.phantom loadedHere sample)
                            (phantomsReclaimed loadedHere sample) }
  else .goto s (.sleep loadedHere)

def evict (loadedHere : Bool) (sample : MemorySample) : Effect Pc Unit :=
  if clear s m = true then
    match EvictionPolicy.choose s.book s.cfg.maxEvictions (s.loadDeficit m sample) s.now false with
    | .error e => .raise s e
    | .ok [] => .goto s (.sleep loadedHere)
    | .ok candidates =>
      match s.book.beginEviction (candidates.map (·.modelId)) with
      | (book, .error e) => .raise { s with book := book } e
      | (book, .ok ops) =>
        let started := s.startEviction v book ops deadline
        { next := started.1, spawn := started.2, ctl := .goto (.check loadedHere) }
  else .goto s (.sleep loadedHere)

def sleep (loadedHere : Bool) : Ctl Pc Unit :=
  if deadline - s.now ≤ 0 then .raise (.timeoutError "preload deadline elapsed")
  else .goto (.asleep loadedHere (s.now + min (deadline - s.now) s.cfg.pollIntervalSeconds))

def step : Pc → Input → Option (Effect Pc Unit)
  | .check lh, .go => some (check s m lh)
  | .reclaimFailed lh pc, inp =>
    (ReclaimFailedModel.step s m pc inp).map (·.bind (.reclaimFailed lh) (failedReclaimed lh))
  | .verify lh pc, inp =>
    (ReclaimLostRuntime.step s m pc inp).map (·.bind (.verify lh) (verified lh))
  | .snapshot lh, .snapshot (.ok sample) => some (.goto s (.admission lh sample))
  | .snapshot _, .snapshot (.error e) => some (.raise s e)
  | .admission lh sample, .guard answer =>
    some (.goto s (.load lh sample (s.admissionAllowed answer)))
  | .load lh sample admitted, .go => some (load s v m deadline lh sample admitted)
  | .phantom lh sample pc, inp =>
    (ReclaimPhantomResidents.step s m pc inp).map
      (·.bind (.phantom lh sample) (phantomsReclaimed lh sample))
  | .evict lh sample, .go => some (evict s v m deadline lh sample)
  | .sleep lh, .go => some { next := s, ctl := sleep s deadline lh }
  | .asleep lh _, .go => some (.goto s (.check lh))
  | .asleep lh wake, .timeout =>
    if s.now < wake then none
    else if deadline ≤ s.now then some (.raise s (.timeoutError "preload deadline elapsed"))
    else some (.goto s (.check lh))
  | _, _ => none

def throw (e : Exc) : Pc → Ctl Pc Unit
  | .reclaimFailed lh pc =>
    (ReclaimFailedModel.throw e pc).bind (.reclaimFailed lh) (failedReclaimed lh)
  | .verify lh pc => (ReclaimLostRuntime.throw e pc).bind (.verify lh) (verified lh)
  | .phantom lh sample pc =>
    (ReclaimPhantomResidents.throw e pc).bind (.phantom lh sample) (phantomsReclaimed lh sample)
  | _ => .raise e

end PreloadOne

/-! ### `preload` -/

namespace Preload

/-- The model being brought up, the registrations behind it and the models already `READY`. -/
structure Pc where
  model : ModelId
  rest : List (ModelId × Registration)
  ready : List ModelId
  pc : PreloadOne.Pc
  deriving DecidableEq

/-- The loop over the registrations; a v2 registration has no `preload` attribute. -/
def next (ready : List ModelId) : List (ModelId × Registration) → Ctl Pc (List ModelId)
  | [] => .ret ready
  | (_, .v2 _) :: _ => .raise (.attributeError "preload")
  | (m, .v1 spec) :: rest =>
    if spec.preload then .goto ⟨m, rest, ready, .check false⟩ else next ready rest

def start (s : Scheduler) : Ctl Pc (List ModelId) := next [] s.book.specs.entries

def loaded (p : Pc) : Except Exc Unit → Ctl Pc (List ModelId)
  | .ok () => next (p.ready ++ [p.model]) p.rest
  | .error e => .raise e

def step (s : Scheduler) (v : TaskView) (deadline : Time) (p : Pc) (inp : Input) :
    Option (Effect Pc (List ModelId)) :=
  (PreloadOne.step s v p.model deadline p.pc inp).map
    (·.bind (fun pc => { p with pc := pc }) (loaded p))

def throw (e : Exc) (p : Pc) : Ctl Pc (List ModelId) :=
  (PreloadOne.throw e p.pc).bind (fun pc => { p with pc := pc }) (loaded p)

end Preload

end ModelSwitch

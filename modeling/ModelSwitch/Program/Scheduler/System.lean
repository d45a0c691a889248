import ModelSwitch.Program.Scheduler.Calls

/-!
# The running system

The scheduler together with its `asyncio` tasks. An action lets time pass, starts a public call,
resumes one task with what its `await` delivers, or cancels a task. Which action comes next is
free, so a run is any interleaving of the tasks with the clients and the ports.
-/

namespace ModelSwitch

/-- A coroutine in the state it is suspended in. -/
inductive Co
  | acquire (c : AcquireCall) (pc : Acquire.Pc)
  | finishLoad (op : Operation) (deadline : Time) (pc : FinishLoad.Pc)
  | recoverAfterUnverifiedLoad (deadline : Time) (pc : RecoverAfterUnverifiedLoad.Pc)
  | runEviction (pc : RunEviction.Pc)
  | sessionLifecycle (pc : SessionLifecycle.Pc)
  | recover (pc : Recover.Pc)
  | warm (m : ModelId) (deadline : Time) (pc : PreloadOne.Pc)
  | preload (deadline : Time) (pc : Preload.Pc)
  | unload (m : ModelId) (deadline : Time) (pc : StopPc)
  | sweepTtl (asOf deadline : Time) (pc : StopPc)
  | shutdown (deadline : Time) (pc : Shutdown.Pc)
  | storageLost (deadline : Time) (pc : StopPc)
  | storageRecovered (deadline : Time) (pc : StorageRecovered.Pc)
  | monitorStorageOnce (deadline : Time) (pc : MonitorStorageOnce.Pc)
  | release (a : Release.Args)
  | cancel (lease : Lease)
  | registerSession (a : SessionArgs)
  | openSession (a : SessionArgs) (deadline : Option Time) (pc : OpenSession.Pc)
  | heartbeatSession (session : SessionId)
  | closeSession (session : SessionId) (reason : String) (deadline : Option Time)
      (pc : CloseSession.Pc)
  deriving DecidableEq

/-- The coroutine of a task started inside a section. -/
def Spawn.co : Spawn → Co
  | .finishLoad op deadline => .finishLoad op deadline .loading
  | .runEviction ops _ => .runEviction (RunEviction.start ops)
  | .recoverAfterUnverifiedLoad deadline => .recoverAfterUnverifiedLoad deadline .drain
  | .sessionLifecycle => .sessionLifecycle .plan

namespace Ctl

variable {α ρ : Type}

/-- The control of a coroutine as the control of its task. -/
def lift (c : Ctl α ρ) (wrap : α → Co) (value : ρ → Value) : Ctl Co Value :=
  c.bind wrap fun r => .done (r.map value)

end Ctl

namespace Effect

variable {α ρ : Type}

def lift (e : Effect α ρ) (wrap : α → Co) (value : ρ → Value) : Effect Co Value :=
  { next := e.next, spawn := e.spawn, ctl := e.ctl.lift wrap value }

end Effect

/-- The value of a coroutine that returns nothing. -/
def Value.none (_ : Unit) : Value := .unit

namespace Co

/-- One step of a task. -/
def step (s : Scheduler) (v : TaskView) : Co → Input → Option (Effect Co Value)
  | .acquire c pc, inp => (Acquire.step s v c pc inp).map (·.lift (.acquire c) .lease)
  | .finishLoad op deadline pc, inp =>
    (FinishLoad.step s v op deadline pc inp).map (·.lift (.finishLoad op deadline) .none)
  | .recoverAfterUnverifiedLoad deadline pc, inp =>
    (RecoverAfterUnverifiedLoad.step s deadline pc inp).map
      (·.lift (.recoverAfterUnverifiedLoad deadline) .none)
  | .runEviction pc, inp => (RunEviction.step s pc inp).map (·.lift .runEviction .models)
  | .sessionLifecycle pc, inp =>
    (SessionLifecycle.step s v pc inp).map (·.lift .sessionLifecycle .none)
  | .recover pc, inp => (Recover.step s pc inp).map (·.lift .recover .none)
  | .warm m deadline pc, inp =>
    (PreloadOne.step s v m deadline pc inp).map (·.lift (.warm m deadline) .none)
  | .preload deadline pc, inp =>
    (Preload.step s v deadline pc inp).map (·.lift (.preload deadline) .models)
  | .unload m deadline pc, inp =>
    (Unload.step s v m deadline pc inp).map (·.lift (.unload m deadline) .none)
  | .sweepTtl asOf deadline pc, inp =>
    (SweepTtl.step s v asOf deadline pc inp).map (·.lift (.sweepTtl asOf deadline) .models)
  | .shutdown deadline pc, inp =>
    (Shutdown.step s v deadline pc inp).map (·.lift (.shutdown deadline) .models)
  | .storageLost deadline pc, inp =>
    (StorageLost.step s v deadline pc inp).map (·.lift (.storageLost deadline) .models)
  | .storageRecovered deadline pc, inp =>
    (StorageRecovered.step s v deadline pc inp).map (·.lift (.storageRecovered deadline) .models)
  | .monitorStorageOnce deadline pc, inp =>
    (MonitorStorageOnce.step s v deadline pc inp).map (·.lift (.monitorStorageOnce deadline) .flag)
  | .release a, inp => (Release.step s a inp).map (·.lift (fun _ => .release a) .none)
  | .cancel lease, inp => (CancelLease.step s lease inp).map (·.lift (fun _ => .cancel lease) .flag)
  | .registerSession a, inp =>
    (RegisterSession.step s v a inp).map (·.lift (fun _ => .registerSession a) .none)
  | .openSession a deadline pc, inp =>
    (OpenSession.step s v a deadline pc inp).map (·.lift (.openSession a deadline) .none)
  | .heartbeatSession session, inp =>
    (HeartbeatSession.step s session inp).map (·.lift (fun _ => .heartbeatSession session) .none)
  | .closeSession session reason deadline pc, inp =>
    (CloseSession.step s v session reason deadline pc inp).map
      (·.lift (.closeSession session reason deadline) .none)

/-- Where an exception delivered at the current `await` leads. The coroutines that catch nothing
end with it. -/
def throw (s : Scheduler) (e : Exc) : Co → Ctl Co Value
  | .acquire c pc => (Acquire.throw e pc).lift (.acquire c) .lease
  | .finishLoad op deadline pc => (FinishLoad.throw e pc).lift (.finishLoad op deadline) .none
  | .recoverAfterUnverifiedLoad deadline pc =>
    (RecoverAfterUnverifiedLoad.throw e pc).lift (.recoverAfterUnverifiedLoad deadline) .none
  | .runEviction pc => (RunEviction.throw e pc).lift .runEviction .models
  | .sessionLifecycle pc => (SessionLifecycle.throw s e pc).lift .sessionLifecycle .none
  | .warm m deadline pc => (PreloadOne.throw e pc).lift (.warm m deadline) .none
  | .preload deadline pc => (Preload.throw e pc).lift (.preload deadline) .models
  | .storageRecovered deadline pc =>
    (StorageRecovered.throw e pc).lift (.storageRecovered deadline) .models
  | _ => .raise e

/-- The task this coroutine awaits, which a cancellation is passed on to. -/
def awaits : Co → Option TaskId
  | .sessionLifecycle (.preparing _ (.stopping _ _ _ (.stopping _ (.awaiting t _)))) => some t
  | .sessionLifecycle (.preparing _ (.stoppingLate _ _ (.awaiting t _))) => some t
  | .sessionLifecycle (.draining _ (.stopping _ _ (.awaiting t _))) => some t
  | .unload _ _ (.awaiting t) => some t
  | .sweepTtl _ _ (.awaiting t) => some t
  | .shutdown _ (.awaiting t) => some t
  | .storageLost _ (.awaiting t) => some t
  | .monitorStorageOnce _ (.losing (.awaiting t)) => some t
  | _ => none

end Co

/-- A task has not run yet, is suspended, or has ended. A task that is cancelled before it ran
never enters its coroutine. -/
inductive Task
  | running (started : Bool) (co : Co)
  | done (r : Result)
  deriving DecidableEq

def Ctl.task : Ctl Co Value → Task
  | .goto co => .running true co
  | .done r => .done r

/-- A public call with its arguments. -/
inductive ApiCall
  | acquire (c : AcquireCall)
  | recover
  | warm (m : ModelId) (deadline : Time)
  | preload (deadline : Time)
  | unload (m : ModelId) (deadline : Time)
  | sweepTtl (deadline : Time)
  | shutdown (deadline : Time)
  | storageLost (deadline : Time)
  | storageRecovered (deadline : Time)
  | monitorStorageOnce (deadline : Time)
  | release (a : Release.Args)
  | cancel (lease : Lease)
  | registerSession (a : SessionArgs)
  | openSession (a : SessionArgs) (deadline : Option Time)
  | heartbeatSession (session : SessionId)
  | closeSession (session : SessionId) (reason : String) (deadline : Option Time)

/-- What a call does before its first `await`; it changes nothing yet. -/
def ApiCall.start (s : Scheduler) : ApiCall → Ctl Co Value
  | .acquire c => (Acquire.start s c).lift (.acquire c) .lease
  | .recover => (Recover.start s).lift .recover .none
  | .warm m deadline =>
    if s.book.specs.contains m then .goto (.warm m deadline (.check false))
    else .raise (.keyError m)
  | .preload deadline => (Preload.start s).lift (.preload deadline) .models
  | .unload m deadline => .goto (.unload m deadline .begin)
  | .sweepTtl deadline => .goto (.sweepTtl s.now deadline .begin)
  | .shutdown deadline => .goto (.shutdown deadline .begin)
  | .storageLost deadline => .goto (.storageLost deadline .begin)
  | .storageRecovered deadline => .goto (.storageRecovered deadline .admission)
  | .monitorStorageOnce deadline => .goto (.monitorStorageOnce deadline .admission)
  | .release a => .goto (.release a)
  | .cancel lease => .goto (.cancel lease)
  | .registerSession a => .goto (.registerSession a)
  | .openSession a deadline => .goto (.openSession a deadline .register)
  | .heartbeatSession session => .goto (.heartbeatSession session)
  | .closeSession session reason deadline => .goto (.closeSession session reason deadline .begin)

/-- A port answers or raises an `Exception`; `CancelledError` is delivered by a cancellation. -/
def Input.legal : Input → Bool
  | .snapshot (.error e) | .guard (.error e) | .backend (.error e) | .witness (.error e)
  | .recovered (.error e) => e ≠ .cancelledError
  | _ => true

inductive Act
  | tick (d : ℚ)
  | call (c : ApiCall)
  | resume (t : TaskId) (inp : Input)
  | cancel (t : TaskId)

structure System where
  sched : Scheduler
  tasks : Dict TaskId Task := Dict.empty
  nextTask : TaskId := 0

namespace System

variable (w : System)

def view : TaskView where
  fresh := w.nextTask
  result t :=
    match w.tasks.get? t with
    | some (.done r) => some r
    | _ => none

/-- Task `t` has taken a step. -/
def commit (t : TaskId) (e : Effect Co Value) : System :=
  let tasks := w.tasks.set t e.ctl.task
  match e.spawn with
  | none => { w with sched := e.next, tasks := tasks }
  | some sp =>
    { sched := e.next, tasks := tasks.set w.nextTask (.running false sp.co),
      nextTask := w.nextTask + 1 }

def resume (t : TaskId) (inp : Input) : Option System :=
  match w.tasks.get? t with
  | some (.running true co) => (co.step w.sched w.view inp).map (w.commit t)
  | some (.running false co) =>
    match inp with
    | .go => some { w with tasks := w.tasks.set t (.running true co) }
    | _ => none
  | _ => none

/-- The task a cancellation of `t` lands on: a task that awaits another passes it on. -/
def cancelTarget (t : TaskId) : TaskId :=
  match w.tasks.get? t with
  | some (.running true co) =>
    match co.awaits with
    | some u => if (w.view.result u).isSome then t else u
    | none => t
  | _ => t

/-- Deliver `CancelledError` at the current `await` of `t`. -/
def deliver (t : TaskId) : Option System :=
  match w.tasks.get? t with
  | some (.running true co) =>
    some { w with tasks := w.tasks.set t (co.throw w.sched .cancelledError).task }
  | some (.running false _) =>
    some { w with tasks := w.tasks.set t (.done (.error .cancelledError)) }
  | _ => none

def step : Act → Option System
  | .tick d =>
    if d < 0 then none else some { w with sched := { w.sched with now := w.sched.now + d } }
  | .call c =>
    some { w with tasks := w.tasks.set w.nextTask (c.start w.sched).task,
                  nextTask := w.nextTask + 1 }
  | .resume t inp => if inp.legal then w.resume t inp else none
  | .cancel t => w.deliver (w.cancelTarget t)

/-- A system whose scheduler has just been built over a book, with no task yet. -/
def Starts (w : System) : Prop :=
  ∃ policy specs book sessionPolicy sessions cfg now s,
    Book.Reachable policy specs book ∧ SessionManager.init sessionPolicy = .ok sessions ∧
    Scheduler.init cfg book sessions now = .ok s ∧ w = { sched := s }

/-- The systems reached by steps that all meet `ok`. -/
def Reach (ok : System → Act → Prop) (w : System) : Prop :=
  ∃ w₀, Starts w₀ ∧ Run System.step ok w₀ w

end System

end ModelSwitch

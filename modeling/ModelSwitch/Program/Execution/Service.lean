import ModelSwitch.Program.Execution.Quiesce

/-!
# The running execution service

The service together with its `asyncio` tasks. The sessions and the book belong to the scheduler and
change as they like between two sections. Public calls, sweeps of the idempotency registry, the
turns of the tasks, the answers of the ports and cancellations interleave freely.
-/

namespace ModelSwitch.Execution

/-- A coroutine in the state it is suspended in. -/
inductive Co
  | submit (c : SubmitCall)
  | cancel (c : CancelCall) (pc : Cancel.Pc)
  | reportOutput (id : ExecutionId) (body : Body) (pc : ReportOutput.Pc)
  | reportTerminal (id : ExecutionId) (evidence : TerminationEvidence) (pc : ReportTerminal.Pc)
  | onSessionDraining (session : SessionId) (pc : Drain.Pc)
  | dispatchLoop (session : SessionId) (pc : DispatchLoop.Pc)
  | run (id : ExecutionId) (pc : Run.Pc)
  | lateExecute (id : ExecutionId) (pc : LateExecute.Pc)
  | quiesceModel (model : ModelId) (pc : QuiesceModel.Pc)

def Spawn.co : Spawn → Co
  | .dispatchLoop session => .dispatchLoop session .begin
  | .run id => .run id .guard
  | .lateExecute id => .lateExecute id .waiting
  | .quiesceModel model => .quiesceModel model .begin

namespace Effect

variable {α ρ : Type}

/-- The effect of a coroutine as the effect of its task. -/
def lift (e : Effect α ρ) (wrap : α → Co) (value : ρ → Value) : Effect Co Value :=
  e.bind wrap fun s r => { next := s, ctl := .done (r.map value) }

end Effect

/-- The value of a coroutine that returns nothing. -/
def Value.none (_ : Unit) : Value := .unit

namespace Co

variable (s : Service)

/-- One step of a task. -/
def step (v : TaskView) : Co → Input → Option (Effect Co Value)
  | .submit c, inp => (Submit.step s v c inp).map (·.lift (fun _ => .submit c) fun v => v)
  | .cancel c pc, inp => (Cancel.step s v c pc inp).map (·.lift (.cancel c) fun v => v)
  | .reportOutput id body pc, inp =>
    (ReportOutput.step s v id body pc inp).map (·.lift (.reportOutput id body) fun v => v)
  | .reportTerminal id evidence pc, inp =>
    (ReportTerminal.step s id evidence pc inp).map (·.lift (.reportTerminal id evidence) fun v => v)
  | .onSessionDraining session pc, inp =>
    (Drain.step v session s pc inp).map (·.lift (.onSessionDraining session) .none)
  | .dispatchLoop session pc, inp =>
    (DispatchLoop.step s session pc inp).map (·.lift (.dispatchLoop session) .none)
  | .run id pc, inp => (Run.step s v id pc inp).map (·.lift (.run id) .none)
  | .lateExecute id pc, inp =>
    (LateExecute.step s v id pc inp).map (·.lift (.lateExecute id) .none)
  | .quiesceModel model pc, inp =>
    (QuiesceModel.step s model pc inp).map (·.lift (.quiesceModel model) .none)

/-- The service after a cancellation at the current `await`. No coroutine of the service catches
`CancelledError`, so the task ends with it; `finally` blocks run and the lock is left. -/
def thrown : Co → Service
  | .submit _ => s
  | .cancel c pc => Cancel.thrown s c pc
  | .reportOutput id _ pc => ReportOutput.thrown s id pc
  | .reportTerminal id _ pc => ReportTerminal.thrown s id pc
  | .onSessionDraining _ pc => Drain.thrown s pc
  | .dispatchLoop session pc => DispatchLoop.thrown s session pc
  | .run id pc => Run.thrown s id pc
  | .lateExecute id pc => LateExecute.thrown s id pc
  | .quiesceModel _ pc => QuiesceModel.thrown s pc

end Co

/-- A public call, or the drain hook that the scheduler calls. -/
inductive ApiCall
  | submit (c : SubmitCall)
  | cancel (c : CancelCall)
  | reportOutput (id : ExecutionId) (body : Body)
  | reportTerminal (id : ExecutionId) (evidence : TerminationEvidence)
  | onSessionDraining (session : SessionId)

/-- Every call begins with the entry of the lock. -/
def ApiCall.co : ApiCall → Co
  | .submit c => .submit c
  | .cancel c => .cancel c .enter
  | .reportOutput id body => .reportOutput id body .enter
  | .reportTerminal id evidence => .reportTerminal id evidence .enter
  | .onSessionDraining session => .onSessionDraining session .enter

/-- `view`, which has no `await`. -/
def Service.view (s : Service) (id : ExecutionId) (owner : String) : Except Exc ViewDocument :=
  match s.records.get? id with
  | none => .error unknownExecution
  | some r =>
    if r.owner ≠ owner then
      .error (.executionError "not_found" "the execution does not belong to this owner")
    else r.view s.cfg.fromIsoformat

inductive Task
  | running (co : Co)
  | done (r : Except Exc Value)

def Task.ended : Task → Bool
  | .running _ => false
  | .done _ => true

def taskOf : Ctl Co Value → Task
  | .goto co => .running co
  | .done r => .done r

/-- The lease has been handed out before. -/
def Service.isGranted (s : Service) (lease : Lease) : Bool :=
  s.log.any fun
    | .granted _ l => l = lease
    | _ => false

/-- The ports answer or raise an `Exception`; only the task of a backend call may have been
cancelled. The scheduler grants every lease once. -/
def Input.legal (s : Service) : Input → Bool
  | .answer (.error e) | .flag (.error e) | .opened (.error e) | .reserved (.error e)
  | .written (.error e) | .acquired (.error e) => e ≠ .cancelledError
  | .acquired (.ok lease) => !s.isGranted lease
  | _ => true

inductive Act
  | env (e : Env)
  | sweep (moment : Option Time)
  | call (c : ApiCall)
  | resume (t : TaskId) (inp : Input)
  | cancel (t : TaskId)

structure System where
  svc : Service
  tasks : Dict TaskId Task := Dict.empty
  nextTask : TaskId := 0

/-- The tasks of a section are started in order. -/
def startTasks : List Spawn → Dict TaskId Task × TaskId → Dict TaskId Task × TaskId
  | [], p => p
  | sp :: rest, (tasks, next) => startTasks rest (tasks.set next (.running sp.co), next + 1)

namespace System

variable (w : System)

def view (t : TaskId) : TaskView where
  self := t
  fresh := w.nextTask
  ended u := ((w.tasks.get? u).map Task.ended).getD true

/-- Task `t` has taken a step. -/
def commit (t : TaskId) (e : Effect Co Value) : System :=
  let started := startTasks e.spawn (w.tasks.set t (taskOf e.ctl), w.nextTask)
  { svc := e.next, tasks := started.1, nextTask := started.2 }

def step : Act → Option System
  | .env e => if e.now < w.svc.env.now then none else some { w with svc := { w.svc with env := e } }
  | .sweep moment =>
    let store := w.svc.idempotency.sweep w.svc.cfg.retentionSeconds
      (moment.getD w.svc.env.wallClock)
    some { w with svc := { w.svc with idempotency := store } }
  | .call c =>
    some { w with tasks := w.tasks.set w.nextTask (.running c.co), nextTask := w.nextTask + 1 }
  | .resume t inp =>
    match w.tasks.get? t with
    | some (.running co) =>
      if inp.legal w.svc then (co.step w.svc (w.view t) inp).map (w.commit t) else none
    | _ => none
  | .cancel t =>
    match w.tasks.get? t with
    | some (.running co) =>
      some { w with
        svc := co.thrown w.svc, tasks := w.tasks.set t (.done (.error .cancelledError)) }
    | _ => none

end System

/-- `ExecutionService.__init__`. -/
def Service.init (cfg : ServiceConfig) (env : Env) : Except Exc Service :=
  if cfg.queueCapacity < 1 ∨ cfg.waitSeconds ≤ 0 ∨ cfg.pollSeconds ≤ 0 ∨ cfg.outputLimitBytes ≤ 0 ∨
      cfg.stopGraceSeconds ≤ 0 then
    .error (.valueError "execution policy values must be positive")
  else if cfg.retentionSeconds ≤ 0 then .error (.valueError "retention must be positive")
  else
    let cfg := { cfg with outputLimitBytes := min cfg.outputLimitBytes maxBlobBytes }
    .ok { cfg := cfg, env := env }

namespace System

/-- A service that has just been built, with no task yet. -/
def Starts (w : System) : Prop := ∃ cfg env s, Service.init cfg env = .ok s ∧ w = { svc := s }

/-- The systems reached by steps that all meet `ok`. -/
def Reach (ok : System → Act → Prop) (w : System) : Prop :=
  ∃ w₀, Starts w₀ ∧ ModelSwitch.Run System.step ok w₀ w

end System

end ModelSwitch.Execution

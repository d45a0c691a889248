import ModelSwitch.Program.Execution.Dispatch

/-!
# Shared stops and session drains

`_quiesce_model`, by which one proven stop of an instance ends every execution that waits for it,
and `_on_session_draining`, which the scheduler calls when a session closes or expires.
-/

namespace ModelSwitch.Execution

/-! ### `_quiesce_model` -/

namespace QuiesceModel

inductive Pc
  | begin
  | scan (graceUntil : Time)
  | release (graceUntil : Time) (todo rest : List ExecutionId)
  | releasing (graceUntil : Time) (todo rest : List ExecutionId)
  | unloading (graceUntil : Time) (todo : List ExecutionId)
  | settle (graceUntil : Time) (rest : List ExecutionId)
  | advancing (graceUntil : Time) (rest : List ExecutionId) (id : ExecutionId) (pc : Advance.Pc)
  | sleeping (graceUntil wake : Time)

variable (s : Service) (model : ModelId) (graceUntil : Time)

/-- Everything that may still touch the instance. -/
def inflight : List Record :=
  s.records.values.filter fun r =>
    r.modelId = model && !r.settled && !r.awaitingQuiescence &&
      (r.dispatchStarted || r.dispatchClaimed || r.lease.isSome)

def batch : List Record :=
  s.records.values.filter fun r =>
    r.modelId = model && !r.settled && r.dispatchStarted && r.awaitingQuiescence

/-- The end of a round: never invent a terminal. -/
def rest : Effect Pc Unit :=
  if graceUntil ≤ s.env.now then .ret s ()
  else .goto s (.sleeping graceUntil (s.env.now + s.cfg.pollSeconds))

def unload (todo : List ExecutionId) : Effect Pc Unit :=
  .goto (s.note (.unload model)) (.unloading graceUntil todo)

/-- Go on with the leases of the batch, then with the shared stop. -/
def releaseNext (todo : List ExecutionId) : List ExecutionId → Effect Pc Unit
  | [] => unload s model graceUntil todo
  | rest => .goto s (.release graceUntil todo rest)

def scan : Effect Pc Unit :=
  if (batch s model).isEmpty ∧ (inflight s model).isEmpty then
    .ret { s with quiescing := s.quiescing.filter (· ≠ model) } ()
  else
    let todo := if (inflight s model).isEmpty then (batch s model).map (·.executionId) else []
    let s := { s with quiescing := if s.quiescing.contains model then s.quiescing
                                   else model :: s.quiescing }
    if todo.isEmpty then rest s graceUntil else releaseNext s model graceUntil todo todo

/-- `_release_quiescence_lease`. -/
def release (todo : List ExecutionId) : List ExecutionId → Effect Pc Unit
  | [] => unload s model graceUntil todo
  | id :: rest =>
    match (s.get id).lease with
    | none => releaseNext s model graceUntil todo rest
    | some lease =>
      if (s.get id).leaseReleased then releaseNext s model graceUntil todo rest
      else
        let outcome : Outcome :=
          if (s.get id).error.isNone ∧ (s.get id).cancelPending = false then .success else .rejected
        .goto ((s.update id fun r => { r with leaseReleased := true }).note
          (.release lease outcome)) (.releasing graceUntil todo rest)

def settleNext : List ExecutionId → Effect Pc Unit
  | [] => rest s graceUntil
  | ids => .goto s (.settle graceUntil ids)

def advanced (ids : List ExecutionId) (s : Service) : Except Exc Unit → Effect Pc Unit
  | .ok () => settleNext s graceUntil ids
  | .error e => .raise s e

/-- `_settle_with_stopped_proof`. -/
def settle : List ExecutionId → Effect Pc Unit
  | [] => rest s graceUntil
  | id :: ids =>
    let r := s.get id
    if r.settled || r.evidence.isSome then settleNext s graceUntil ids
    else
      match r.identity.or r.expectedInstance with
      | none => settleNext s graceUntil ids
      | some identity =>
        match r.dispatchedEvidence "independent_STOPPED" identity with
        | .error e => .raise s e
        | .ok evidence =>
          let s := s.update id fun r => { r with
            evidence := some evidence, dispatchState := .dispatched,
            identity := if r.dispatchState ≠ .dispatched then some identity else r.identity }
          (Advance.start (s.evaluate id).1 id (s.evaluate id).2).bind (.advancing graceUntil ids id)
            fun s r => advanced graceUntil ids s r

def step : Pc → Input → Option (Effect Pc Unit)
  | .begin, .go => some (.goto s (.scan (s.env.now + s.cfg.stopGraceSeconds)))
  | .scan graceUntil, inp => withLock s (scan s model graceUntil) inp
  | .release graceUntil todo rest, inp => withLock s (release s model graceUntil todo rest) inp
  | .releasing graceUntil todo rest, .answer (.ok ()) =>
    some (releaseNext s model graceUntil todo rest)
  | .releasing _ _ _, .answer (.error e) => some (.raise s e)
  | .unloading graceUntil todo, .answer (.ok ()) =>
    some (settleNext (s.note (.unloaded model)) graceUntil todo)
  | .unloading graceUntil _, .answer (.error _) => some (rest s graceUntil)
  | .settle graceUntil ids, inp => withLock s (settle s graceUntil ids) inp
  | .advancing graceUntil ids id pc, inp =>
    (Advance.step s id pc inp).map (·.bind (.advancing graceUntil ids id)
      fun s r => advanced graceUntil ids s r)
  | .sleeping graceUntil wake, .timeout =>
    if s.env.now < wake then none else some (.goto s (.scan graceUntil))
  | _, _ => none

def thrown : Pc → Service
  | .advancing _ _ id pc => Advance.thrown s id pc
  | _ => s

end QuiesceModel

/-! ### `_on_session_draining` -/

namespace Drain

inductive Pc
  | enter
  | effects (id : ExecutionId) (todo settled : List ExecutionId) (pc : CancelSideEffects.Pc)
  | tearing (id : ExecutionId) (rest : List ExecutionId) (pc : Teardown.Pc)

variable (v : TaskView) (session : SessionId)

/-- The settled executions are torn down one after the other; an exception ends the hook. -/
def teardown (s : Service) : List ExecutionId → Effect Pc Unit
  | [] => .ret s ()
  | id :: rest =>
    (Teardown.start s id).bind (.tearing id rest) fun s r =>
      match r with
      | .ok () => teardown s rest
      | .error e => .raise s e

/-- The loop over the records, under the lock. -/
def loop (s : Service) (settled : List ExecutionId) : List ExecutionId → Effect Pc Unit
  | [] => teardown s.unlock settled
  | id :: todo =>
    let r := s.get id
    if r.sessionId ≠ session ∨ r.settled = true then loop s settled todo
    else if r.dispatchStarted = false then
      loop (s.terminateLocal id ⟨"queue_timeout", queue_timeout_ne⟩
        "the session closed before dispatch")
        (settled ++ [id]) todo
    else
      let s := { s with lock := some (v.self, some id) }.mark id true "session_expired"
        "the session closed while the execution ran"
      (CancelSideEffects.start s id).bind (.effects id todo settled) fun s r =>
        match r with
        | .ok () =>
          loop (s.conclude id).1 (if (s.conclude id).2 then settled ++ [id] else settled) todo
        | .error e => .raise s.unlock e

variable (s : Service)

def step : Pc → Input → Option (Effect Pc Unit)
  | .enter, inp => withLock s (loop v session s [] s.records.keys) inp
  | .effects id todo settled pc, inp =>
    (CancelSideEffects.step s id pc inp).map (·.bind (.effects id todo settled) fun s r =>
      match r with
      | .ok () =>
        loop v session (s.conclude id).1
          (if (s.conclude id).2 then settled ++ [id] else settled) todo
      | .error e => .raise s.unlock e)
  | .tearing id rest pc, inp =>
    (Teardown.step s id pc inp).map (·.bind (.tearing id rest) fun s r =>
      match r with
      | .ok () => teardown s rest
      | .error e => .raise s e)

def thrown : Pc → Service
  | .effects _ _ _ _ => s.unlock
  | _ => s

end Drain

end ModelSwitch.Execution

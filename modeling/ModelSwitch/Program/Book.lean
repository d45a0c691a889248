import ModelSwitch.Program.Contracts
import ModelSwitch.Lib.Run

/-!
# The accounting book

`model_registry.py`: atomic, I/O-free state transitions for model residency, leases and the two
ledgers. A transition returns the book it leaves behind together with its result, so a call that
raises is a result too and keeps whatever it had already changed.
-/

namespace ModelSwitch

/-- One model's runtime record. -/
structure Runtime where
  state : State := .unknown
  generation : ℕ := 0
  operationId : Option Uuid := none
  leases : Dict Uuid Lease := Dict.empty
  admissionBlocked : Bool := false
  reservation : ℤ := 0
  idleSince : Option Time := none
  lastError : Option String := none
  heatValue : ℚ := 0
  heatUpdatedAt : Time := 0
  totalRequests : ℕ := 0
  totalTokens : ℤ := 0
  usageUnknownRequests : ℕ := 0
  stoppedAt : Option Time := none
  cancelling : Dict Uuid Lease := Dict.empty

/-- `bool(runtime.leases)`. -/
def Runtime.hasLeases (r : Runtime) : Bool := !r.leases.entries.isEmpty

/-- The single internal registration shape the book accounts for. -/
structure LedgerSpec where
  modelId : ModelId
  effectiveReservedBytes : ℤ
  physicalReservedBytes : Option ℤ := none
  maxConcurrency : ℤ := 1
  pinned : Bool := false
  evictable : Bool := true
  preload : Bool := false
  ttlSeconds : ℚ := 0
  priority : ℤ := 0

def LedgerSpec.fromRegistration (reg : Registration) (legacyV1Margin : ℚ) :
    Except Exc LedgerSpec :=
  match reg with
  | .v2 spec =>
    match ModelSwitch.effectiveReservedBytes spec.reservedBytes none with
    | .error e => .error e
    | .ok reserved =>
      match spec.physicalResidentPeakBytes with
      | none =>
        .ok { modelId := spec.modelId, effectiveReservedBytes := reserved,
              maxConcurrency := spec.maxParallel }
      | some peak =>
        match physicalReservedBytesFromPeak peak with
        | .error e => .error e
        | .ok figure =>
          .ok { modelId := spec.modelId, effectiveReservedBytes := reserved,
                physicalReservedBytes := some figure, maxConcurrency := spec.maxParallel }
  | .v1 spec =>
    match ModelSwitch.effectiveReservedBytes spec.reservedBytes (some legacyV1Margin) with
    | .error e => .error e
    | .ok reserved =>
      .ok { modelId := spec.modelId, effectiveReservedBytes := reserved,
            maxConcurrency := spec.maxConcurrency, pinned := spec.pinned,
            evictable := spec.evictable, preload := spec.preload,
            ttlSeconds := spec.ttlSeconds, priority := spec.priority }

/-- The keyword arguments of `Book.__init__`. `halfPow x` is `math.pow(0.5, x)`. -/
structure BookPolicy where
  modelBudget : ℤ
  freeFloor : ℤ
  margin : ℚ := 3 / 20
  maxSampleAge : ℚ := 2
  halfLife : ℚ := 1800
  requestWeight : ℚ := 1
  tokenWeight : ℚ := 1 / 10000
  halfPow : ℚ → ℚ

/-- The one authoritative accounting book for all managed models. `uuids` counts the identifiers
drawn so far. -/
structure Book where
  policy : BookPolicy
  specs : Dict ModelId Registration
  ledger : Dict ModelId LedgerSpec
  runtime : Dict ModelId Runtime
  physicalEnforced : Bool
  epoch : ℕ := 0
  recovering : Bool := false
  uuids : ℕ := 0

namespace Book

def init (policy : BookPolicy) (specs : Dict ModelId Registration) : Except Exc Book :=
  if policy.modelBudget ≤ 0 ∨ policy.freeFloor < 0 ∨ ¬ (0 ≤ policy.margin ∧ policy.margin ≤ 1) then
    .error (.valueError "invalid memory policy")
  else if policy.maxSampleAge ≤ 0 ∨ policy.halfLife ≤ 0 ∨ policy.requestWeight < 0
      ∨ policy.tokenWeight < 0 then
    .error (.valueError "invalid time or heat policy")
  else if specs.entries.isEmpty || specs.entries.any (fun p => p.1 ≠ p.2.modelId) then
    .error (.valueError "invalid model spec")
  else
    match specs.mapValM fun _ spec => LedgerSpec.fromRegistration spec policy.margin with
    | .error e => .error e
    | .ok ledger =>
      if ledger.values.any (fun entry => entry.maxConcurrency ≤ 0) then
        .error (.valueError "invalid model spec")
      else
        .ok { policy := policy, specs := specs, ledger := ledger,
              runtime := ledger.mapVal fun _ entry =>
                { reservation := entry.effectiveReservedBytes },
              physicalEnforced := ledger.values.any fun entry =>
                entry.physicalReservedBytes.isSome }

variable (b : Book)

def setRuntime (m : ModelId) (r : Runtime) : Book := { b with runtime := b.runtime.set m r }

/-- `runtime = self.runtime[model_id]`, which raises `KeyError` on an unknown model. -/
def withRuntime {α : Type} (m : ModelId) (k : Runtime → Book × Except Exc α) :
    Book × Except Exc α :=
  match b.runtime.get? m with
  | none => (b, .error (.keyError m))
  | some r => k r

/-! ### Reading the ledgers -/

def required (m : ModelId) : ℤ := ((b.ledger.get? m).map (·.effectiveReservedBytes)).getD 0

def physicalRequired (m : ModelId) : Option ℤ :=
  (b.ledger.get? m).bind (·.physicalReservedBytes)

def maxConcurrency (m : ModelId) : ℤ := ((b.ledger.get? m).map (·.maxConcurrency)).getD 0

def committed : ℤ := b.runtime.sum fun _ r => r.reservation

/-- The static physical gate; a legacy book has no physical ledger to check. -/
def physicalAdmissible (m : ModelId) : Bool :=
  if b.physicalEnforced then
    match b.physicalRequired m with
    | none => false
    | some figure =>
      let others := b.runtime.sum fun other r =>
        if other ≠ m ∧ 0 < r.reservation then (b.physicalRequired other).getD 0 else 0
      others + figure ≤ b.policy.modelBudget
  else true

def sampleValid (sample : MemorySample) (now : Time) : Bool :=
  0 ≤ now - sample.sampledAt ∧ now - sample.sampledAt ≤ b.policy.maxSampleAge
    ∧ 0 < sample.totalBytes ∧ 0 ≤ sample.availableBytes ∧ sample.availableBytes ≤ sample.totalBytes

/-- A sample that predates the last proven stop cannot admit a load. -/
def sampleAfterStop (r : Runtime) (sample : MemorySample) : Bool :=
  match r.stoppedAt with
  | none => true
  | some stoppedAt => stoppedAt ≤ sample.sampledAt

/-- `can_load` of a model whose runtime record is `r`. -/
def canLoadWith (m : ModelId) (r : Runtime) (sample : MemorySample) (now : Time) : Bool :=
  !b.recovering && r.state = .unloaded && !r.hasLeases && !r.admissionBlocked
    && b.sampleValid sample now && sampleAfterStop r sample
    && b.policy.freeFloor + b.required m ≤ sample.availableBytes
    && b.committed + b.required m ≤ b.policy.modelBudget
    && b.physicalAdmissible m

def canLoad (m : ModelId) (sample : MemorySample) (now : Time) : Bool :=
  match b.runtime.get? m with
  | none => false
  | some r => b.canLoadWith m r sample now

def canAdmitReady (m : ModelId) (sample : MemorySample) (now : Time) : Bool :=
  match b.runtime.get? m with
  | none => false
  | some r =>
    !b.recovering && r.state = .ready && !r.admissionBlocked
      && (r.leases.size : ℤ) < b.maxConcurrency m
      && b.sampleValid sample now && b.policy.freeFloor ≤ sample.availableBytes

def ttlDue (m : ModelId) (now : Time) : Bool :=
  match b.runtime.get? m, b.ledger.get? m with
  | some r, some spec =>
    r.state = .ready && !r.hasLeases && !r.admissionBlocked && !spec.pinned && spec.evictable
      && 0 < spec.ttlSeconds
      && (match r.idleSince with
          | none => false
          | some idle => spec.ttlSeconds ≤ now - idle)
  | _, _ => false

/-- `any(runtime.leases for runtime in self.runtime.values())`. -/
def anyLeases : Bool := b.runtime.values.any (·.hasLeases)

/-! ### Heat -/

def heatOf (r : Runtime) (now : Time) : ℚ :=
  r.heatValue * b.policy.halfPow (max 0 (now - r.heatUpdatedAt) / b.policy.halfLife)

def heat (m : ModelId) (now : Time) : ℚ := ((b.runtime.get? m).map (b.heatOf · now)).getD 0

def addHeat (r : Runtime) (now : Time) (amount : ℚ) : Runtime :=
  { r with heatValue := b.heatOf r now + amount, heatUpdatedAt := now }

/-! ### Transitions -/

def bootstrapStopped (m : ModelId) : Book × Except Exc Unit :=
  b.withRuntime m fun r =>
    if r.state ≠ .unknown ∨ r.operationId.isSome ∨ r.hasLeases then
      (b, .error (.conflict "not a bootstrap state"))
    else (b.setRuntime m { r with state := .unloaded, reservation := 0 }, .ok ())

def beginLoad (m : ModelId) (sample : MemorySample) (now : Time) : Book × Except Exc Operation :=
  b.withRuntime m fun r =>
    if b.canLoadWith m r sample now then
      let r' := { r with generation := r.generation + 1, state := .loading,
                         reservation := b.required m, operationId := some b.uuids,
                         idleSince := none, lastError := none }
      ({ b.setRuntime m r' with uuids := b.uuids + 1 },
        .ok ⟨b.uuids, m, r.generation + 1, b.epoch⟩)
    else (b, .error (.conflict "load not admissible"))

/-- The operation token is current. -/
def isCurrent (r : Runtime) (op : Operation) : Bool :=
  op.epoch = b.epoch ∧ r.generation = op.generation ∧ r.operationId = some op.operationId

/-- `_operation`: continue with the record of a current operation, or raise `StaleOperation`. -/
def withOperation (op : Operation) (k : Runtime → Book × Except Exc Unit) :
    Book × Except Exc Unit :=
  b.withRuntime op.modelId fun r =>
    if b.isCurrent r op then k r else (b, .error (.staleOperation (some op.operationId)))

def loaded (op : Operation) (now : Time) : Book × Except Exc Unit :=
  b.withOperation op fun r =>
    if r.state ≠ .loading then (b, .error (.conflict "not loading"))
    else (b.setRuntime op.modelId { r with state := .ready, operationId := none,
                                           admissionBlocked := false, idleSince := some now },
          .ok ())

def failed (op : Operation) (code : Option String) : Book × Except Exc Unit :=
  b.withOperation op fun r =>
    (b.setRuntime op.modelId { r with state := .error, operationId := none,
                                      admissionBlocked := true, lastError := code }, .ok ())

/-- A request already owns a lease somewhere in the book. -/
def ownsLease (request : RequestId) : Bool :=
  b.runtime.values.any fun candidate => candidate.leases.values.any (·.requestId = request)

def acquireReady (m : ModelId) (request : RequestId) (now : Time) : Book × Except Exc Lease :=
  b.withRuntime m fun r =>
    if b.recovering ∨ r.state ≠ .ready ∨ r.admissionBlocked
        ∨ b.maxConcurrency m ≤ (r.leases.size : ℤ) then
      (b, .error (.conflict "model not admissible"))
    else if b.ownsLease request then (b, .error (.conflict "request already owns a lease"))
    else
      let lease : Lease := ⟨b.uuids, request, m, r.generation⟩
      let r' := { r with leases := r.leases.set lease.leaseId lease,
                         totalRequests := r.totalRequests + 1, idleSince := none }
      ({ b.setRuntime m (b.addHeat r' now b.policy.requestWeight) with uuids := b.uuids + 1 },
        .ok lease)

/-- The `tokens` argument of `release`: absent, an `int`, or a value of another type. -/
inductive TokenCount
  | absent
  | count (n : ℤ)
  | notInt
  deriving DecidableEq

def TokenCount.valid : TokenCount → Bool
  | .absent => true
  | .count n => 0 ≤ n
  | .notInt => false

/-- The record after its request ended with `outcome`, before `idle_since` is set. Heat is exact and
total here: the float product `tokens * token_weight` of the source raises an `OverflowError` for a
count beyond its range. -/
def settleOutcome (r : Runtime) (outcome : Outcome) (now : Time) (tokens : TokenCount) : Runtime :=
  match outcome with
  | .success =>
    match tokens with
    | .count n =>
      b.addHeat { r with totalTokens := r.totalTokens + n } now (n * b.policy.tokenWeight)
    | _ => { r with usageUnknownRequests := r.usageUnknownRequests + 1 }
  | .aborted =>
    { r with state := .error, admissionBlocked := true, lastError := some "request_aborted" }
  | .rejected => r

/-- The lease is held by this record under the current generation. -/
def holds (r : Runtime) (lease : Lease) : Bool :=
  r.leases.get? lease.leaseId = some lease ∧ r.generation = lease.generation

/-- The record once `lease` is released. -/
def releaseRuntime (r : Runtime) (lease : Lease) (outcome : Outcome) (now : Time)
    (tokens : TokenCount) : Runtime :=
  let r₁ := { r with leases := r.leases.erase lease.leaseId,
                     cancelling := r.cancelling.erase lease.leaseId }
  let r₂ := b.settleOutcome r₁ outcome now tokens
  if r₂.hasLeases then r₂ else { r₂ with idleSince := some now }

def release (lease : Lease) (outcome : Outcome) (now : Time) (tokens : TokenCount) :
    Book × Except Exc Bool :=
  b.withRuntime lease.modelId fun r =>
    if ¬ holds r lease then (b, .ok false)
    else if ¬ tokens.valid then
      (b, .error (.valueError "tokens must be a nonnegative integer"))
    else (b.setRuntime lease.modelId (b.releaseRuntime r lease outcome now tokens), .ok true)

/-- Accept one cancel; the lease and its budget stay until the terminal proof. -/
def beginCancel (lease : Lease) : Book × Except Exc Bool :=
  b.withRuntime lease.modelId fun r =>
    if ¬ holds r lease then (b, .ok false)
    else (b.setRuntime lease.modelId
            { r with cancelling := r.cancelling.set lease.leaseId lease }, .ok true)

/-- Check every model of a batch before anything changes; the first refusal is raised. -/
def validateBatch (refuses : Runtime → LedgerSpec → Bool) (message : String) :
    List ModelId → Except Exc Unit
  | [] => .ok ()
  | m :: ms =>
    match b.runtime.get? m, b.ledger.get? m with
    | some r, some spec =>
      if refuses r spec then .error (.conflict message) else validateBatch refuses message ms
    | _, _ => .error (.keyError m)

/-- Mark a validated batch `EVICTING`, one fresh operation each. -/
def markEvicting (b : Book) : List ModelId → Book × List Operation
  | [] => (b, [])
  | m :: ms =>
    match b.runtime.get? m with
    | none => (b, [])
    | some r =>
      let r' := { r with state := .evicting, admissionBlocked := true,
                         operationId := some b.uuids }
      let (b', ops) := ({ b.setRuntime m r' with uuids := b.uuids + 1 } : Book).markEvicting ms
      (b', ⟨b.uuids, m, r.generation, b.epoch⟩ :: ops)

/-- A batch the book refuses to look at: recovering, empty or naming a model twice. -/
def invalidBatch (ms : List ModelId) : Bool := b.recovering || ms.isEmpty || ¬ ms.Nodup

/-- What `begin_eviction` refuses of one candidate. -/
def evictionRefuses (automatic : Bool) (r : Runtime) (spec : LedgerSpec) : Bool :=
  r.state ≠ .ready || r.hasLeases || r.operationId.isSome || spec.pinned
    || (automatic && !spec.evictable)

def beginEviction (ms : List ModelId) (automatic : Bool := true) :
    Book × Except Exc (List Operation) :=
  if b.invalidBatch ms then (b, .error (.conflict "invalid eviction batch"))
  else
    match b.validateBatch (evictionRefuses automatic) "protected or changed candidate" ms with
    | .error e => (b, .error e)
    | .ok () => ((b.markEvicting ms).1, .ok (b.markEvicting ms).2)

/-- What `freeze_for_switch` refuses of one candidate. -/
def freezeRefuses (r : Runtime) (spec : LedgerSpec) : Bool :=
  r.state ≠ .ready || r.admissionBlocked || r.operationId.isSome || spec.pinned || !spec.evictable

/-- Block admission of a validated batch. -/
def blockAll (b : Book) : List ModelId → Book
  | [] => b
  | m :: ms =>
    match b.runtime.get? m with
    | none => b
    | some r => (b.setRuntime m { r with admissionBlocked := true }).blockAll ms

/-- Prevent new leases while a cold target waits for these models to drain. -/
def freezeForSwitch (ms : List ModelId) : Book × Except Exc Unit :=
  if b.invalidBatch ms then (b, .error (.conflict "invalid switch freeze"))
  else
    match b.validateBatch freezeRefuses "switch candidate changed" ms with
    | .error e => (b, .error e)
    | .ok () => (b.blockAll ms, .ok ())

/-- Release a previously established switch intent without changing leases. An unknown model
raises after the models before it have been unblocked. -/
def unfreezeSwitch (b : Book) : List ModelId → Book × Except Exc Unit
  | [] => (b, .ok ())
  | m :: ms =>
    match b.runtime.get? m with
    | none => (b, .error (.keyError m))
    | some r =>
      if r.state = .ready ∧ r.operationId = none then
        (b.setRuntime m { r with admissionBlocked := false }).unfreezeSwitch ms
      else b.unfreezeSwitch ms

/-- What `begin_cleanup` refuses of one candidate. -/
def cleanupRefuses (r : Runtime) (_spec : LedgerSpec) : Bool :=
  !(r.state = .ready || r.state = .error) || r.hasLeases || r.operationId.isSome

/-- Stop idle `READY` or `ERROR` models during recovery or process shutdown. -/
def beginCleanup (ms : List ModelId) : Book × Except Exc (List Operation) :=
  if b.invalidBatch ms then (b, .error (.conflict "invalid cleanup batch"))
  else
    match b.validateBatch cleanupRefuses "cleanup candidate changed" ms with
    | .error e => (b, .error e)
    | .ok () => ((b.markEvicting ms).1, .ok (b.markEvicting ms).2)

def rollbackUnsent (op : Operation) : Book × Except Exc Unit :=
  b.withOperation op fun r =>
    if r.state ≠ .evicting ∨ r.hasLeases then (b, .error (.conflict "cannot roll back"))
    else (b.setRuntime op.modelId { r with state := .ready, admissionBlocked := false,
                                           operationId := none }, .ok ())

/-- Release both ledgers only here: `now` records when the stop was proven. -/
def stopped (op : Operation) (now : Option Time) : Book × Except Exc Unit :=
  b.withOperation op fun r =>
    if r.state ≠ .evicting ∨ r.hasLeases then (b, .error (.conflict "not safely stopping"))
    else (b.setRuntime op.modelId { r with state := .unloaded, operationId := none,
                                           reservation := 0, admissionBlocked := false,
                                           idleSince := none, lastError := none,
                                           stoppedAt := now }, .ok ())

/-- One record entering recovery. -/
def recoverRuntime (r : Runtime) : Runtime :=
  if r.state = .unloaded then { r with operationId := none, admissionBlocked := true }
  else { r with operationId := none, admissionBlocked := true, state := .error,
                lastError := some "control_recovering" }

def beginRecovery : Book × Except Exc ℕ :=
  if b.recovering then (b, .ok b.epoch)
  else ({ b with epoch := b.epoch + 1, recovering := true,
                 runtime := b.runtime.mapVal fun _ r => recoverRuntime r }, .ok (b.epoch + 1))

/-- One record leaving recovery. -/
def resetRuntime (r : Runtime) : Runtime :=
  { r with state := .unloaded, reservation := 0, operationId := none, admissionBlocked := false,
           idleSince := none, lastError := none }

/-- `confirmed_stopped == frozenset(self.specs)`. -/
def confirmsAll (confirmed : List ModelId) : Bool :=
  b.specs.keys.all (· ∈ confirmed) && confirmed.all (· ∈ b.specs.keys)

def finishRecovery (epoch : ℕ) (confirmed : List ModelId) : Book × Except Exc Unit :=
  if ¬ b.recovering ∨ epoch ≠ b.epoch then (b, .error (.staleOperation none))
  else if ¬ b.confirmsAll confirmed ∨ b.anyLeases then
    (b, .error (.conflict "recovery lacks stop evidence"))
  else ({ b with runtime := b.runtime.mapVal fun _ r => resetRuntime r, recovering := false },
    .ok ())

/-! ### Calls -/

/-- A call of a public transition with its arguments. -/
inductive Call
  | bootstrapStopped (m : ModelId)
  | beginLoad (m : ModelId) (sample : MemorySample) (now : Time)
  | loaded (op : Operation) (now : Time)
  | failed (op : Operation) (code : Option String)
  | acquireReady (m : ModelId) (request : RequestId) (now : Time)
  | release (lease : Lease) (outcome : Outcome) (now : Time) (tokens : TokenCount)
  | beginCancel (lease : Lease)
  | beginEviction (ms : List ModelId) (automatic : Bool)
  | freezeForSwitch (ms : List ModelId)
  | unfreezeSwitch (ms : List ModelId)
  | beginCleanup (ms : List ModelId)
  | rollbackUnsent (op : Operation)
  | stopped (op : Operation) (now : Option Time)
  | beginRecovery
  | finishRecovery (epoch : ℕ) (confirmed : List ModelId)

/-- The book a call leaves behind, whether it returns or raises. -/
def apply (b : Book) : Call → Book
  | .bootstrapStopped m => (b.bootstrapStopped m).1
  | .beginLoad m sample now => (b.beginLoad m sample now).1
  | .loaded op now => (b.loaded op now).1
  | .failed op code => (b.failed op code).1
  | .acquireReady m request now => (b.acquireReady m request now).1
  | .release lease outcome now tokens => (b.release lease outcome now tokens).1
  | .beginCancel lease => (b.beginCancel lease).1
  | .beginEviction ms automatic => (b.beginEviction ms automatic).1
  | .freezeForSwitch ms => (b.freezeForSwitch ms).1
  | .unfreezeSwitch ms => (b.unfreezeSwitch ms).1
  | .beginCleanup ms => (b.beginCleanup ms).1
  | .rollbackUnsent op => (b.rollbackUnsent op).1
  | .stopped op now => (b.stopped op now).1
  | .beginRecovery => b.beginRecovery.1
  | .finishRecovery epoch confirmed => (b.finishRecovery epoch confirmed).1

/-- What a call answers: the operations it hands out, or what it raises. -/
def answer (b : Book) : Call → Except Exc (List Operation)
  | .bootstrapStopped m => (b.bootstrapStopped m).2.map fun _ => []
  | .beginLoad m sample now => (b.beginLoad m sample now).2.map fun op => [op]
  | .loaded op now => (b.loaded op now).2.map fun _ => []
  | .failed op code => (b.failed op code).2.map fun _ => []
  | .acquireReady m request now => (b.acquireReady m request now).2.map fun _ => []
  | .release lease outcome now tokens => (b.release lease outcome now tokens).2.map fun _ => []
  | .beginCancel lease => (b.beginCancel lease).2.map fun _ => []
  | .beginEviction ms automatic => (b.beginEviction ms automatic).2
  | .freezeForSwitch ms => (b.freezeForSwitch ms).2.map fun _ => []
  | .unfreezeSwitch ms => (b.unfreezeSwitch ms).2.map fun _ => []
  | .beginCleanup ms => (b.beginCleanup ms).2
  | .rollbackUnsent op => (b.rollbackUnsent op).2.map fun _ => []
  | .stopped op now => (b.stopped op now).2.map fun _ => []
  | .beginRecovery => b.beginRecovery.2.map fun _ => []
  | .finishRecovery epoch confirmed => (b.finishRecovery epoch confirmed).2.map fun _ => []

/-- One call of a public transition, as a step of a run. -/
def callStep (b : Book) (c : Call) : Option Book := some (b.apply c)

/-- `b` is reached from a freshly built book by some sequence of calls. -/
def Reachable (policy : BookPolicy) (specs : Dict ModelId Registration) (b : Book) : Prop :=
  ∃ b₀, init policy specs = .ok b₀ ∧ Run callStep (fun _ _ => True) b₀ b

end Book

end ModelSwitch

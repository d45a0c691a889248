import ModelSwitch.Program.Execution.Service
import Mathlib.Logic.Relation

/-!
# Elementary moves of the execution service

Every section of every coroutine is a sequence of elementary moves: an edit of one record, the
settlement of an execution, the grant or the release of a lease, entering or leaving the lock. A
section also runs up debts: whoever settles an execution owes the return of what it holds, and a
debt is paid once nothing is left to return.

What a coroutine may do beyond that depends on what it has been given, which its `Licence` says.
-/

namespace ModelSwitch.Execution

/-! ### Records -/

namespace Service

variable {s : Service} {id id' : ExecutionId} {f g : Record → Record}

lemma get_of_get? {r : Record} (h : s.records.get? id = some r) : s.get id = r := by
  simp only [get, h, Option.getD_some]

lemma update_of_none (h : s.records.get? id = none) : s.update id f = s := by
  simp only [update, h]

lemma update_of_some {r : Record} (h : s.records.get? id = some r) :
    s.update id f = { s with records := s.records.set id (f r) } := by
  simp only [update, h]

lemma get?_update (s : Service) (id id' : ExecutionId) (f : Record → Record) :
    (s.update id f).records.get? id' =
      if id' = id then (s.records.get? id).map f else s.records.get? id' := by
  cases h : s.records.get? id with
  | none =>
    rw [update_of_none h]
    split
    · next heq => rw [heq, h]; rfl
    · rfl
  | some r =>
    rw [update_of_some h]
    simp only [Dict.get?_set, Option.map_some]

lemma isSome_update (s : Service) (id id' : ExecutionId) (f : Record → Record) :
    ((s.update id f).records.get? id').isSome = (s.records.get? id').isSome := by
  rw [get?_update]
  split
  · next heq => rw [heq, Option.isSome_map]
  · rfl

lemma get_update_ne (h : id' ≠ id) : (s.update id f).get id' = s.get id' := by
  simp only [get, get?_update, if_neg h]

lemma get_update_self {r : Record} (h : s.records.get? id = some r) :
    (s.update id f).get id = f (s.get id) := by
  simp only [get, get?_update, if_true, h, Option.map_some, Option.getD_some]

lemma get_note (s : Service) (e : Event) (id : ExecutionId) : (s.note e).get id = s.get id := rfl

/-- A record either is as it was, or is the edited one. -/
lemma get_update_cases (s : Service) (id id' : ExecutionId) (f : Record → Record) :
    (s.update id f).get id' = s.get id' ∨
      id' = id ∧ (s.update id f).get id' = f (s.get id) := by
  by_cases hid : id' = id
  · subst hid
    cases h : s.records.get? id' with
    | none => exact .inl (by rw [update_of_none h])
    | some r => exact .inr ⟨rfl, get_update_self h⟩
  · exact .inl (get_update_ne hid)

lemma update_update (s : Service) (id : ExecutionId) (f g : Record → Record) :
    (s.update id f).update id g = s.update id fun r => g (f r) := by
  cases h : s.records.get? id with
  | none => simp only [update_of_none h]
  | some r =>
    have h' : (s.update id f).records.get? id = some (f r) := by
      rw [get?_update, if_pos rfl, h, Option.map_some]
    rw [update_of_some h', update_of_some h, update_of_some h]
    simp only [Dict.set_set]

lemma update_congr (h : f (s.get id) = g (s.get id)) : s.update id f = s.update id g := by
  cases hr : s.records.get? id with
  | none => rw [update_of_none hr, update_of_none hr]
  | some r =>
    rw [get_of_get? hr] at h
    rw [update_of_some hr, update_of_some hr, h]

variable (s id f)

@[simp] lemma update_cfg : (s.update id f).cfg = s.cfg := by
  simp only [update]; split <;> rfl

@[simp] lemma update_env : (s.update id f).env = s.env := by
  simp only [update]; split <;> rfl

@[simp] lemma update_lock : (s.update id f).lock = s.lock := by
  simp only [update]; split <;> rfl

@[simp] lemma update_log : (s.update id f).log = s.log := by
  simp only [update]; split <;> rfl

@[simp] lemma update_uuids : (s.update id f).uuids = s.uuids := by
  simp only [update]; split <;> rfl

@[simp] lemma update_quiescing : (s.update id f).quiescing = s.quiescing := by
  simp only [update]; split <;> rfl

@[simp] lemma update_quiescers : (s.update id f).quiescers = s.quiescers := by
  simp only [update]; split <;> rfl

@[simp] lemma update_idempotency : (s.update id f).idempotency = s.idempotency := by
  simp only [update]; split <;> rfl

end Service

/-! ### Debts -/

/-- What a settled execution has to give back. -/
inductive Debt
  | lease (id : ExecutionId)
  | input (id : ExecutionId)
  deriving DecidableEq

/-- The execution is settled and still holds what it has to give back. -/
def Service.Unpaid (s : Service) : Debt → Prop
  | .lease id => (s.get id).settled = true ∧ (s.get id).lease.isSome = true ∧
      (s.get id).leaseReleased = false
  | .input id => (s.get id).settled = true ∧ (s.get id).inputCtx.isSome = true ∧
      (s.get id).inputClosed = false

instance (s : Service) : (δ : Debt) → Decidable (s.Unpaid δ)
  | .lease _ => inferInstanceAs (Decidable (_ ∧ _))
  | .input _ => inferInstanceAs (Decidable (_ ∧ _))

namespace Record

variable (r : Record)

/-- A reason to end the execution has been recorded. -/
def Marked : Prop := r.cancelPending = true ∨ r.terminalCode.isSome = true

/-- The section has decided whether the execution ends, or has nothing to decide. -/
def Decided : Prop := r.settled = true ∨ r.evidence = none ∨ ¬ r.Marked

/-- The record without the fields that no invariant below speaks of. -/
def core : Record := { r with outputPending := none, reservation := none }

end Record

/-! ### Well-formed data -/

/-- A text that `_text` accepts. -/
def TextOk (value : String) : Prop := value ≠ "" ∧ Protocol.plainText value = true

instance (value : String) : Decidable (TextOk value) := inferInstanceAs (Decidable (_ ∧ _))

structure ErrorOk (e : ErrorDetail) : Prop where
  known : knownError e.code = true
  message : TextOk e.message
  retryable : e.retryable = retryableError e.code

def BlobOk (b : PublishedBlob) : Prop :=
  Protocol.parseBlobRef b.ref "execution_view.result" = .ok ()

lemma Record.dispatchedEvidence_independent {r : Record} {reason : String}
    {identity : InstanceIdentity} {evidence : TerminationEvidence}
    (h : r.dispatchedEvidence reason identity = .ok evidence) :
    evidence.1.independent = decide (reason = "independent_STOPPED") := by
  simp only [Record.dispatchedEvidence] at h
  split at h
  · cases h
    simp [EvidenceFields.independent]
  · cases h

/-! ### Licences -/

/-- What a coroutine has been given, and whether the data it works on are known to be
well formed. -/
structure Licence where
  /-- What it sees of the tasks. -/
  view : TaskView
  /-- Texts, codes and blobs are well formed. -/
  strict : Prop
  /-- Instance identities it may name. -/
  named : InstanceIdentity → Prop
  /-- Executions whose result it publishes. -/
  publisher : ExecutionId → Prop
  /-- Executions whose fence it may renew. -/
  fences : ExecutionId → Prop
  /-- Leases it is being granted. -/
  grants : ExecutionId → Lease → Prop
  /-- Leases it may file with their execution. -/
  hands : ExecutionId → Lease → Prop
  /-- Input contexts it enters. -/
  opens : ExecutionId → InputContext → Prop
  /-- Input contexts it may file with their execution. -/
  stores : ExecutionId → InputContext → Prop
  /-- Executions it may return to the queue. -/
  retries : ExecutionId → Prop
  /-- Executions it may leave undecided, by whether they are being published. -/
  undecided : ExecutionId → Bool → Prop
  /-- Debts it may leave behind. -/
  forgets : Debt → Prop
  /-- Executions for which it may call the backend. -/
  dispatches : ExecutionId → Prop
  /-- Models whose stop it runs. -/
  thaws : ModelId → Prop
  /-- Executions whose instance it may declare to be stopped. -/
  proves : ExecutionId → Prop
  /-- It answers a `submit`. -/
  submits : Prop

/-! ### Moves -/

/-- Edits of a record that settle nothing. -/
inductive Edit (L : Licence) (id : ExecutionId) : Record → Record → Prop
  | quiet {r r' : Record} (h : r'.core = r.core) : Edit L id r r'
  | running {r : Record} (reservation : OutputReservation) (hs : r.settled = false)
      (hc : r.dispatchClaimed = true) : Edit L id r { r with
        reservation := some reservation, dispatchStarted := true,
        state := if r.terminal then r.state else .running }
  | fence {r : Record} (bootId : String) (generation : ℕ) (h : L.fences id)
      (hok : L.strict → TextOk bootId ∧ 1 ≤ generation) :
      Edit L id r { r with fence := r.refence bootId generation }
  | retry {r : Record} (h : L.retries id) : Edit L id r { r with dispatchClaimed := false }
  | handOver {r : Record} (lease : Lease) (h : L.hands id lease) (hs : r.settled = false)
      (hc : r.dispatchClaimed = true) : Edit L id r { r with lease := some lease }
  | awaiting {r : Record} : Edit L id r { r with awaitingQuiescence := true }
  | expected {r : Record} (i : Option InstanceIdentity) (h : ∀ i' ∈ i, L.named i') :
      Edit L id r { r with expectedInstance := i }
  | names {r : Record} (i : InstanceIdentity)
      (h : L.named i ∨ r.identity = some i ∨ r.expectedInstance = some i) :
      Edit L id r { r with identity := some i, dispatchState := .dispatched }
  | evidence {r : Record} (e : TerminationEvidence) (h : r.evidence = none)
      (hp : e.1.independent = true → L.proves id) :
      Edit L id r { r with evidence := some e }
  | publish {r : Record} (hs : r.settled = false) (he : r.evidence.isSome = true)
      (hm : ¬ r.Marked) : Edit L id r { r with publishing := true }
  | published {r : Record} : Edit L id r { r with publishing := false, outputPending := none }

/-- The ways a record is settled without a result. -/
inductive Settlement (L : Licence) (id : ExecutionId) : Record → Record → Prop
  /-- An execution that never was dispatched ends locally. -/
  | ended {r : Record} (code : { code : String // code ≠ "" }) (message : String)
      (hs : r.settled = false)
      (hok : L.strict → ErrorOk (errorDetail code.1 message)) :
      Settlement L id r { r with
        evidence := some (r.notStarted code), error := some (errorDetail code.1 message),
        state := if cancelCode code.1 then .cancelled else .failed, settled := true }
  /-- The recorded reason materializes. -/
  | reason {r : Record} (hs : r.settled = false) (he : r.evidence.isSome = true) (hm : r.Marked) :
      Settlement L id r { r with
        error := some r.reasonError, state := if r.cancelPending then .cancelled else .failed,
        settled := true }
  /-- A terminal with evidence, or a publish, ends without a result. -/
  | failed {r : Record} (error : ErrorDetail) (cancelPending : Bool) (state : ExecState)
      (hs : r.settled = false) (he : r.evidence.isSome = true ∨ L.publisher id)
      (hc : r.cancelPending = true → cancelPending = true)
      (hst : state = .failed ∨ state = .cancelled)
      (hok : L.strict → r.error = some error ∨ ErrorOk error) :
      Settlement L id r { r with
        cancelPending := cancelPending, error := some error, state := state, settled := true }

/-- A record that has just been made for a request. -/
structure Record.New (L : Licence) (r : Record) : Prop where
  state : r.state = .queued
  settled : r.settled = false
  error : r.error = none
  result : r.result = none
  evidence : r.evidence = none
  publishing : r.publishing = false
  marked : ¬ r.Marked
  message : r.terminalMessage = ""
  lease : r.lease = none
  inputCtx : r.inputCtx = none
  inputClosed : r.inputClosed = false
  leaseReleased : r.leaseReleased = false
  unclaimed : r.dispatchClaimed = false
  unstarted : r.dispatchStarted = false
  unawaited : r.awaitingQuiescence = false
  identity : r.identity = none
  expected : r.expectedInstance = none
  dispatchState : r.dispatchState = .notStarted
  fence : r.fence.executionId = some r.executionId ∧ r.fence.attempt = some 1 ∧
    r.fence.modelId = r.modelId
  ok : L.strict → isId r.modelId = true ∧ TextOk r.fence.bootId ∧ 1 ≤ r.fence.generation

/-- What leaves records, leases, the lock and the registries alone. -/
structure Frame (s s' : Service) : Prop where
  cfg : s'.cfg = s.cfg
  env : s'.env = s.env
  records : s'.records = s.records
  lock : s'.lock = s.lock
  log : s'.log = s.log
  quiescing : s'.quiescing = s.quiescing
  quiescers : s'.quiescers = s.quiescers
  idempotency : s'.idempotency = s.idempotency
  uuids : s.uuids ≤ s'.uuids

/-- An event that moves no lease and no input context. -/
def Event.Plain (L : Licence) : Event → Prop
  | .execute id _ _ => L.dispatches id
  | .unload m | .unloaded m => L.thaws m
  | _ => False

/-- One elementary move, with the debts before and after it. -/
inductive Move (L : Licence) : List Debt × Service → List Debt × Service → Prop
  | frame {d : List Debt} {s s' : Service} (h : Frame s s') : Move L (d, s) (d, s')
  | edit {d : List Debt} {s : Service} (id : ExecutionId) (f : Record → Record)
      (h : Edit L id (s.get id) (f (s.get id))) : Move L (d, s) (d, s.update id f)
  | claim {d : List Debt} {s : Service} (id : ExecutionId)
      (hq : (s.get id).modelId ∉ s.quiescing) (hs : (s.get id).settled = false)
      (hc : (s.get id).dispatchClaimed = false) :
      Move L (d, s) (d, s.update id fun r => { r with dispatchClaimed := true })
  | mark {d : List Debt} {s : Service} (id : ExecutionId) (cancel : Bool)
      (code message : String) (hs : (s.get id).settled = false)
      (hlock : ∃ t, s.lock = some (t, some id))
      (hok : L.strict → knownError code = true ∧ TextOk message) :
      Move L (d, s) (d, s.mark id cancel code message)
  | settle {d : List Debt} {s : Service} (id : ExecutionId) (f : Record → Record)
      (h : Settlement L id (s.get id) (f (s.get id))) :
      Move L (d, s) (.lease id :: .input id :: d, s.update id f)
  | succeed {d : List Debt} {s : Service} (id : ExecutionId) (blob : PublishedBlob)
      (hs : (s.get id).settled = false) (hlock : s.lock = none) (hp : L.publisher id)
      (hok : L.strict → BlobOk blob) :
      Move L (d, s) (.lease id :: .input id :: d, s.update id fun r =>
        { r with result := some blob.ref, state := .succeeded, settled := true })
  | finish {d : List Debt} {s : Service} (id : ExecutionId) :
      Move L (d, s) (d, s.finishIdempotency id)
  | grant {d : List Debt} {s : Service} (id : ExecutionId) (lease : Lease)
      (h : L.grants id lease) (hfresh : s.isGranted lease = false) :
      Move L (d, s) (d, s.note (.granted id lease))
  | release {d : List Debt} {s : Service} (id : ExecutionId) (lease : Lease)
      (outcome : Outcome) (hl : (s.get id).lease = some lease)
      (hr : (s.get id).leaseReleased = false) :
      Move L (d, s)
        (d, (s.update id fun r => { r with leaseReleased := true }).note (.release lease outcome))
  | enter {d : List Debt} {s : Service} (id : ExecutionId) (ctx : InputContext) (n : Uuid)
      (h : L.opens id ctx) (hctx : s.uuids ≤ ctx) (hn : ctx < n) :
      Move L (d, s) (d, { s with uuids := n }.note (.opened id ctx))
  | store {d : List Debt} {s : Service} (id : ExecutionId) (ctx : InputContext)
      (h : L.stores id ctx) :
      Move L (d, s) (.input id :: d, s.update id fun r => { r with inputCtx := some ctx })
  | close {d : List Debt} {s : Service} (id : ExecutionId) (ctx : InputContext)
      (hc : (s.get id).inputCtx = some ctx) (ho : (s.get id).inputClosed = false)
      (hs : (s.get id).settled = true) :
      Move L (d, s)
        (d, (s.update id fun r => { r with inputClosed := true }).note (.closed ctx))
  | note {d : List Debt} {s : Service} (e : Event) (h : e.Plain L) : Move L (d, s) (d, s.note e)
  | take {d : List Debt} {s : Service} (t : TaskId) (x : Option ExecutionId)
      (h : s.lock = none) : Move L (d, s) (d, { s with lock := some (t, x) })
  | free {d : List Debt} {s : Service}
      (h : ∀ t id, s.lock = some (t, some id) →
        (s.get id).Decided ∨ L.undecided id (s.get id).publishing) :
      Move L (d, s) (d, s.unlock)
  | freeze {d : List Debt} {s : Service} (m : ModelId) :
      Move L (d, s) (d, { s with quiescing := m :: s.quiescing })
  | thaw {d : List Debt} {s : Service} (m : ModelId) (h : L.thaws m) :
      Move L (d, s) (d, { s with quiescing := s.quiescing.filter (· ≠ m) })
  | hire {d : List Debt} {s : Service} (m : ModelId)
      (h : (s.quiescers.get? m).all L.view.ended = true) :
      Move L (d, s) (d, { s with quiescers := s.quiescers.set m L.view.fresh })
  | register {d : List Debt} {s : Service} (store : IdempotencyStore) (h : L.submits) :
      Move L (d, s) (d, { s with idempotency := store })
  | create {d : List Debt} {s : Service} (r : Record) (n : Uuid) (h : L.submits)
      (hr : r.New L) (hnew : s.records.get? r.executionId = none) (hn : r.executionId < n)
      (hle : s.uuids ≤ n) :
      Move L (d, s) (d, { s with records := s.records.set r.executionId r, uuids := n })
  | pay {d : List Debt} {s : Service} (δ : Debt) (h : ¬ s.Unpaid δ ∨ L.forgets δ) :
      Move L (d, s) (d.filter (· ≠ δ), s)
  | owe {d d' : List Debt} {s : Service} (h : d ⊆ d') : Move L (d, s) (d', s)

/-! ### What a move does to one record -/

/-- How one move changes the record of an execution. -/
inductive Change (L : Licence) (s : Service) (id : ExecutionId) : Record → Record → Prop
  | same {r : Record} : Change L s id r r
  | edit {r r' : Record} (h : Edit L id r r') : Change L s id r r'
  | claim {r : Record} (hq : r.modelId ∉ s.quiescing) (hs : r.settled = false)
      (hc : r.dispatchClaimed = false) : Change L s id r { r with dispatchClaimed := true }
  | mark {r : Record} (cancel : Bool) (code message : String) (hs : r.settled = false)
      (hlock : ∃ t, s.lock = some (t, some id))
      (hok : L.strict → knownError code = true ∧ TextOk message) :
      Change L s id r
        ({ r with cancelPending := r.cancelPending || cancel }.markReason code
          message).markCancelling
  | settle {r r' : Record} (h : Settlement L id r r') : Change L s id r r'
  | succeed {r : Record} (blob : PublishedBlob) (hs : r.settled = false) (hlock : s.lock = none)
      (hp : L.publisher id) (hok : L.strict → BlobOk blob) :
      Change L s id r { r with result := some blob.ref, state := .succeeded, settled := true }
  | release {r : Record} (lease : Lease) (hl : r.lease = some lease)
      (hr : r.leaseReleased = false) : Change L s id r { r with leaseReleased := true }
  | store {r : Record} (ctx : InputContext) (h : L.stores id ctx) :
      Change L s id r { r with inputCtx := some ctx }
  | close {r : Record} (ctx : InputContext) (hc : r.inputCtx = some ctx)
      (ho : r.inputClosed = false) (hs : r.settled = true) :
      Change L s id r { r with inputClosed := true }
  | create {r r' : Record} (hr : r'.New L) (hid : r'.executionId = id)
      (hnew : s.records.get? id = none) : Change L s id r r'

/-- The registry of idempotency keys is all that `_finish_idempotency` touches. -/
lemma Service.finishIdempotency_eq (s : Service) (id : ExecutionId) :
    ∃ store, s.finishIdempotency id = { s with idempotency := store } := by
  simp only [finishIdempotency]
  split
  · exact ⟨_, rfl⟩
  · split
    · exact ⟨_, rfl⟩
    · split
      · exact ⟨_, rfl⟩
      · exact ⟨_, rfl⟩

lemma Change.of_update {L : Licence} {s : Service} {id id' : ExecutionId} {f : Record → Record}
    (h : Change L s id (s.get id) (f (s.get id))) :
    Change L s id' (s.get id') ((s.update id f).get id') := by
  rcases s.get_update_cases id id' f with heq | ⟨rfl, heq⟩
  · rw [heq]; exact .same
  · rw [heq]; exact h

lemma Move.change {L : Licence} {p p' : List Debt × Service} (h : Move L p p')
    (id : ExecutionId) : Change L p.2 id (p.2.get id) (p'.2.get id) := by
  cases h with
  | frame h => simp only [Service.get, h.records]; exact .same
  | edit id' f h => exact .of_update (.edit h)
  | claim id' hq hs hc => exact .of_update (.claim hq hs hc)
  | mark id' cancel code message hs hlock hok =>
    exact .of_update (f := fun r => ({ r with
      cancelPending := r.cancelPending || cancel }.markReason code message).markCancelling)
      (.mark cancel code message hs hlock hok)
  | settle id' f h => exact .of_update (.settle h)
  | succeed id' blob hs hlock hp hok => exact .of_update (.succeed blob hs hlock hp hok)
  | @finish d s id' =>
    obtain ⟨store, heq⟩ := s.finishIdempotency_eq id'
    rw [heq]
    exact .same
  | release id' lease outcome hl hr =>
    exact .of_update (f := fun r => { r with leaseReleased := true }) (.release lease hl hr)
  | store id' ctx h => exact .of_update (.store ctx h)
  | close id' ctx hc ho hs =>
    exact .of_update (f := fun r => { r with inputClosed := true }) (.close ctx hc ho hs)
  | @create d s r n hL hr hnew hn hle =>
    by_cases hid : id = r.executionId
    · subst hid
      have hget : Service.get { s with records := s.records.set r.executionId r, uuids := n }
          r.executionId = r := Service.get_of_get? (by simp only [Dict.get?_set, if_true])
      rw [hget]
      exact .create hr rfl hnew
    · have hget : Service.get { s with records := s.records.set r.executionId r, uuids := n } id =
          s.get id := by simp only [Service.get, Dict.get?_set, if_neg hid]
      rw [hget]
      exact .same
  | _ => exact .same

/-- A record that is on file after a move was on file before it, or is new. -/
lemma Move.record {L : Licence} {p p' : List Debt × Service} (h : Move L p p') {id : ExecutionId}
    {r' : Record} (hr' : p'.2.records.get? id = some r') :
    (∃ r, p.2.records.get? id = some r ∧ Change L p.2 id r r') ∨ r'.New L := by
  cases hr : p.2.records.get? id with
  | some r =>
    have hchange := h.change id
    rw [Service.get_of_get? hr, Service.get_of_get? hr'] at hchange
    exact .inl ⟨r, rfl, hchange⟩
  | none =>
    -- only a new record comes on file
    have hsome : (p'.2.records.get? id).isSome = (p.2.records.get? id).isSome → False := by
      rw [hr, hr']
      nofun
    cases h with
    | frame h => exact (hsome (by rw [h.records])).elim
    | @finish d s id' =>
      obtain ⟨store, heq⟩ := s.finishIdempotency_eq id'
      exact (hsome (by rw [heq])).elim
    | create r n hL hnew hnone hn hle =>
      simp only [Dict.get?_set] at hr'
      split at hr'
      · cases hr'
        exact .inr hnew
      · rw [hr] at hr'
        cases hr'
    | edit | claim | mark | settle | succeed | release | store | close =>
      exact (hsome (Service.isSome_update ..)).elim
    | _ => exact (hsome rfl).elim

/-- Records stay on file. -/
lemma Move.isSome {L : Licence} {p p' : List Debt × Service} (h : Move L p p') {id : ExecutionId}
    (hid : (p.2.records.get? id).isSome = true) : (p'.2.records.get? id).isSome = true := by
  cases h with
  | frame h => rw [h.records]; exact hid
  | @finish d s id' =>
    obtain ⟨store, heq⟩ := s.finishIdempotency_eq id'
    rw [heq]
    exact hid
  | create r n hL hr hnew hn hle =>
    simp only [Dict.get?_set]
    split
    · rfl
    · exact hid
  | edit | claim | settle | succeed | store => rw [Service.isSome_update]; exact hid
  | mark | release | close => exact (Service.isSome_update ..).trans hid
  | _ => exact hid

lemma Record.mark_settled (r : Record) (code message : String) :
    (r.markReason code message).markCancelling.settled = r.settled := by
  simp only [markReason, markCancelling]
  split <;> split <;> rfl

/-- A settled execution stays settled. -/
lemma Change.settled {L : Licence} {s : Service} {id : ExecutionId} {r' : Record}
    (h : Change L s id (s.get id) r') (hs : (s.get id).settled = true) : r'.settled = true := by
  cases h with
  | edit h =>
    cases h with
    | quiet h => exact (congrArg (·.settled) h).trans hs
    | _ => exact hs
  | mark => rw [Record.mark_settled]; exact hs
  | settle h => cases h <;> rfl
  | succeed => rfl
  | create hr hid hnone =>
    simp only [Service.get, hnone] at hs
    cases hs
  | _ => exact hs

lemma Move.cfg {L : Licence} {p p' : List Debt × Service} (h : Move L p p') :
    p'.2.cfg = p.2.cfg := by
  cases h with
  | frame h => exact h.cfg
  | @finish d s id =>
    obtain ⟨store, heq⟩ := s.finishIdempotency_eq id
    rw [heq]
  | edit | claim | mark | settle | succeed | release | store | close => exact Service.update_cfg ..
  | _ => rfl

end ModelSwitch.Execution

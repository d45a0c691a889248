import ModelSwitch.Proofs.Scheduler.Grants

/-!
# Who is granted

Lease requests, cold requests and session registrations wait in one order. A request is granted
only at the head of that order, among the waiters that `_cold_request_eligible` lets compete, and
that predicate does not ask whether a waiter could be granted at all.
-/

namespace ModelSwitch

lemma Book.canAdmitReady_eq_true {b : Book} {m : ModelId} {sample : MemorySample} {now : Time}
    (h : b.canAdmitReady m sample now = true) :
    ∃ r, b.runtime.get? m = some r ∧ b.recovering = false ∧ r.state = .ready ∧
      r.admissionBlocked = false ∧ (r.leases.size : ℤ) < b.maxConcurrency m := by
  simp only [canAdmitReady] at h
  split at h
  · cases h
  · rename_i r hr
    simp only [Bool.and_eq_true, Bool.not_eq_true', decide_eq_true_eq] at h
    exact ⟨r, hr, h.1.1.1.1.1, h.1.1.1.1.2, h.1.1.1.2, h.1.1.2⟩

/-- A model that admits grants to any request that holds no lease yet. -/
lemma Book.acquireReady_of_canAdmitReady {b : Book} {m : ModelId} {sample : MemorySample}
    {now : Time} {request : RequestId} (h : b.canAdmitReady m sample now = true)
    (hown : b.ownsLease request = false) :
    ∃ b' lease, b.acquireReady m request now = (b', .ok lease) := by
  obtain ⟨r, hr, hrec, hstate, hblocked, hslots⟩ := canAdmitReady_eq_true h
  simp only [acquireReady, withRuntime, hr]
  rw [if_neg (by simp [hrec, hstate, hblocked, hslots]), if_neg (by simp [hown])]
  exact ⟨_, _, rfl⟩

lemma Scheduler.expireSwitchIntent_queue (s : Scheduler) :
    s.expireSwitchIntent.queue = s.queue := by
  simp only [expireSwitchIntent]
  split
  · rfl
  · split_ifs <;> rfl

namespace Acquire

variable {s : Scheduler} {c : AcquireCall} {sample : MemorySample} {item : QueuedRequest}

/-- The request could be granted now: it waits in time, its model is `READY`, unfrozen and below its
concurrency, the sample is valid, and no freeze applies to it. -/
structure Grantable (s : Scheduler) (c : AcquireCall) (sample : MemorySample)
    (item : QueuedRequest) : Prop where
  running : s.shuttingDown = false
  storage : s.storageUnavailable = false
  inTime : s.now < c.deadline
  waiting : s.queue.items.get? c.requestId = some item
  model : item.modelId = c.modelId
  deadline : item.deadline = c.deadline
  admits : s.book.canAdmitReady c.modelId sample s.now = true
  unowned : s.book.ownsLease c.requestId = false
  unfrozen : item.kind = .interactive → s.sessionFreeze = none

instance : Decidable (Grantable s c sample item) :=
  decidable_of_iff
    (s.shuttingDown = false ∧ s.storageUnavailable = false ∧ s.now < c.deadline ∧
      s.queue.items.get? c.requestId = some item ∧ item.modelId = c.modelId ∧
      item.deadline = c.deadline ∧ s.book.canAdmitReady c.modelId sample s.now = true ∧
      s.book.ownsLease c.requestId = false ∧ (item.kind = .interactive → s.sessionFreeze = none))
    ⟨fun ⟨h₁, h₂, h₃, h₄, h₅, h₆, h₇, h₈, h₉⟩ => ⟨h₁, h₂, h₃, h₄, h₅, h₆, h₇, h₈, h₉⟩,
     fun ⟨h₁, h₂, h₃, h₄, h₅, h₆, h₇, h₈, h₉⟩ => ⟨h₁, h₂, h₃, h₄, h₅, h₆, h₇, h₈, h₉⟩⟩

lemma Grantable.eligible (h : Grantable s c sample item) : s.coldRequestEligible item = true := by
  obtain ⟨r, hr, -, hstate, -⟩ := Book.canAdmitReady_eq_true h.admits
  have hfreeze : ¬ (item.kind = .interactive ∧ s.sessionFreeze.isSome = true) := by
    rintro ⟨hkind, hfrozen⟩
    simp [h.unfrozen hkind] at hfrozen
  simp only [Scheduler.coldRequestEligible, if_neg hfreeze, h.model, Book.runtimeOf_eq hr, hstate]

/-- At the head of the queue it is granted. -/
lemma Grantable.decideHead (h : Grantable s c sample item) (q : RequestQueue) :
    ∃ lease,
      (decideHead { s with queue := q } c sample true).ctl = .goto (.closing (.ok lease)) := by
  obtain ⟨book, lease, hgrant⟩ := Book.acquireReady_of_canAdmitReady h.admits h.unowned
  refine ⟨lease, ?_⟩
  simp only [Acquire.decideHead, grant, h.admits, Bool.true_eq_false, or_self, if_false, hgrant]
  rfl

/-- The decision for a waiter that is the head of the queue. -/
lemma decide_of_head {d : Scheduler} {admitted : Bool} (hd : s.expireSwitchIntent = d)
    (hrunning : d.shuttingDown = false) (hstorage : d.storageUnavailable = false)
    (hwait : ¬ (c.deadline ≤ d.now ∨ d.queue.contains c.requestId = false))
    (hhead : (d.queue.isHead c.requestId d.now d.coldRequestEligible none).2 = true) :
    Acquire.decide s c sample admitted =
      Acquire.decideHead { d with queue := d.queue.expire d.now } c sample admitted := by
  rw [Acquire.decide, hd]
  dsimp only
  rw [if_neg (by simp [hrunning]), if_neg (by simp [hstorage]), if_neg hwait, if_pos hhead,
    RequestQueue.isHead_fst]

/-- A request that could be granted now is selected and granted exactly if
`_cold_request_eligible` rejects every waiter ahead of it. -/
theorem granted_iff_nobody_ahead_eligible (hq : s.queue.Inv)
    (h : Grantable s.expireSwitchIntent c sample item) :
    ((s.queue.isHead c.requestId s.now s.expireSwitchIntent.coldRequestEligible none).2 = true ∧
      ∃ lease, (Acquire.decide s c sample true).ctl = .goto (.closing (.ok lease))) ↔
    ∀ other ∈ s.queue.items.values, s.now < other.deadline →
      s.queue.before s.now other item = true →
      s.expireSwitchIntent.coldRequestEligible other = false := by
  have hqueue := s.expireSwitchIntent_queue
  have hnow : s.expireSwitchIntent.now = s.now :=
    (s.expireSwitchIntent_turn (by decide) : Turn default [.unblock] {} _ _ _).within.now
  have hwait := h.waiting
  have hlive : s.expireSwitchIntent.now < item.deadline := by
    rw [h.deadline]
    exact h.inTime
  rw [← hqueue] at hq ⊢
  rw [← hnow, ← RequestQueue.isHead_iff hq hwait hlive h.eligible, and_iff_left_iff_imp]
  intro hhead
  have hin : ¬ (c.deadline ≤ s.expireSwitchIntent.now ∨
      s.expireSwitchIntent.queue.contains c.requestId = false) := by
    rintro (hle | hout)
    · exact absurd h.inTime (not_lt.mpr hle)
    · rw [RequestQueue.not_contains_iff.mp hout] at hwait
      cases hwait
  rw [decide_of_head rfl h.running h.storage hin hhead]
  exact h.decideHead _

end Acquire

namespace System

/-- The request "r" for "chat", as it waits behind `ahead` earlier waiters. -/
def chatWaiter (ahead : ℕ) : QueuedRequest :=
  { requestId := "r", modelId := "chat", priority := 0, enqueuedAt := 0, deadline := 60,
    sequence := ahead + 2, kind := .session }

/-- Task `t` has its first turn, a sample and the consent of the guard. -/
def arrive (t : TaskId) : List Act := [go t, .resume t plenty, .resume t (.guard (.ok true))]

/-- The request "e" that waits for "embed" without a session. -/
def embedWaiter : QueuedRequest :=
  { requestId := "e", modelId := "embed", priority := 0, enqueuedAt := 0, deadline := 60,
    sequence := 1, kind := .interactive }

/-- Model "chat" is warm, "e" has begun to load "embed", and "r" has come after it. -/
def loadEmbed : List Act :=
  [.call (.warm "chat" 60)] ++ arrive 0 ++ [go 0, go 1,
    .resume 1 (.backend (.ok ⟨.running, true, none⟩)), go 1, go 1, go 0,
    .call (.acquire { modelId := "embed", requestId := "e", deadline := 60 })] ++
    arrive 2 ++ [go 2, go 2, .call (.acquire { chatRequest "r" with sessionId := none })] ++
    arrive 4

/-- The better-ranked waiter "e" has to wait for a model that is `LOADING`, and "r" is granted. -/
theorem granted_iff_nobody_ahead_eligible_loading :
    ∃ (w : System) (c : AcquireCall) (item : QueuedRequest) (lease : Lease),
      Reach (fun _ _ => True) w ∧
      Acquire.Grantable w.sched.expireSwitchIntent c ⟨4000, 4000, 0⟩ item ∧
      w.sched.queue.items.get? "e" = some embedWaiter ∧ w.stateOf "embed" = .loading ∧
      w.sched.now < embedWaiter.deadline ∧
      w.sched.queue.before w.sched.now embedWaiter item = true ∧
      (Acquire.decide w.sched c ⟨4000, 4000, 0⟩ true).ctl = .goto (.closing (.ok lease)) := by
  obtain ⟨w, w', hreach, -, hgrantable, hnobody, hahead⟩ := exists_step loadEmbed (a := go 4)
    (P := fun w _ => Acquire.Grantable w.sched.expireSwitchIntent
        { chatRequest "r" with sessionId := none } ⟨4000, 4000, 0⟩
        { chatWaiter 0 with kind := .interactive } ∧
      (∀ other ∈ w.sched.queue.items.values, w.sched.now < other.deadline →
        w.sched.queue.before w.sched.now other { chatWaiter 0 with kind := .interactive } = true →
        w.sched.expireSwitchIntent.coldRequestEligible other = false) ∧
      w.sched.queue.items.get? "e" = some embedWaiter ∧ w.stateOf "embed" = .loading ∧
      w.sched.now < embedWaiter.deadline ∧
      w.sched.queue.before w.sched.now embedWaiter
        { chatWaiter 0 with kind := .interactive } = true) (by decide +kernel)
  obtain ⟨-, lease, hlease⟩ :=
    (Acquire.granted_iff_nobody_ahead_eligible hreach.queue_inv hgrantable).mpr hnobody
  obtain ⟨hwaits, hstate, hlive, hbefore⟩ := hahead
  exact ⟨w, _, _, lease, hreach, hgrantable, hwaits, hstate, hlive, hbefore, hlease⟩

/-- Session "A" is `ACTIVE` and its request could be granted at once, but session "B" registered
before it, waits for the same model and is ahead. The request is not granted, although the only
waiter ahead of it is a registration. -/
theorem active_session_blocked_by_registration :
    ∃ w w', Reach (fun _ _ => True) w ∧ w.step (go 4) = some w' ∧
      w.phaseOf "A" = some .active ∧
      Acquire.Grantable w.sched.expireSwitchIntent (chatRequest "r") ⟨4000, 4000, 0⟩
        (chatWaiter 1) ∧
      (∀ other ∈ w.sched.queue.items.values,
        w.sched.queue.before w.sched.now other (chatWaiter 1) = true →
        w.phaseOf other.requestId = some .preparing) ∧
      w'.tasks.get? 4 = some (.running true (.acquire (chatRequest "r") .sleep)) :=
  exists_step (activateChat ++
    [.call (.registerSession { modelId := "chat", clientId := "bob", sessionId := "B" }), go 3,
     .call (.acquire (chatRequest "r")), go 4, .resume 4 plenty, .resume 4 (.guard (.ok true))])
    (by decide +kernel)

end System

end ModelSwitch

import ModelSwitch.Proofs.Scheduler.Worker

/-!
# The slots of a session

A registration needs a session slot and a queue slot. The manager counts every record it has ever
filed against its capacity, so the slot of a session that is `CLOSED` never comes back. The waiter
of a session leaves the queue when the session leaves `PREPARING`, unless its preparation is
blocked.
-/

namespace ModelSwitch

variable {s s' : Scheduler} {v : TaskView} {inp : Input} {co : Co} {session : SessionId}

/-! ### Registering -/

@[simp] lemma RequestQueue.capacity_expire (q : RequestQueue) (now : Time) :
    (q.expire now).capacity = q.capacity := rfl

lemma RequestQueue.room_of_enqueue {q q' : RequestQueue} {request : RequestId} {model : ModelId}
    {priority : ℤ} {deadline now : Time} {kind : WaitKind} {item : QueuedRequest}
    (h : q.enqueue request model priority deadline now kind = (q', .ok item)) :
    ((q.expire now).items.size : ℤ) < q.capacity := by
  simp only [enqueue] at h
  split_ifs at h with hdup hcap
  · cases h
  · cases h
  · exact not_le.mp hcap

/-- The registration of a fresh session is accepted exactly when there is room for one more record
and for one more waiter. -/
lemma SessionManager.create_ok_iff {sm : SessionManager} {queue : RequestQueue} {now : Time}
    {hard : Option ℚ} (model : ModelId) (client : String) (priority : ℤ)
    (hpolicy : 0 < sm.policy.hardDeadlineSeconds) (hhard : ∀ x ∈ hard, 0 < x)
    (hfresh : sm.records.contains session = false)
    (hwaiter : (queue.expire now).contains session = false) :
    (∃ queue' sm', sm.create session model client now queue priority hard = (queue', .ok sm')) ↔
      sm.records.size < sm.policy.maxSessions ∧
        ((queue.expire now).items.size : ℤ) < queue.capacity := by
  constructor
  · rintro ⟨queue', sm', h⟩
    simp only [create] at h
    split_ifs at h with hdup hcap
    · cases h
    · cases h
    · cases h
    · split at h
      · cases h
      · rename_i heq
        exact ⟨not_le.mp hcap, RequestQueue.room_of_enqueue heq⟩
  · rintro ⟨hsize, hroom⟩
    unfold create
    rw [if_neg (by simp [hfresh]), if_neg (not_le.mpr hsize)]
    dsimp only
    split_ifs with hneg
    · -- the deadline is the smaller of two positive numbers
      cases hard with
      | none => exact absurd hneg (not_le.mpr hpolicy)
      | some x => exact absurd hneg (not_le.mpr (lt_min (hhard x rfl) hpolicy))
    · simp only [RequestQueue.enqueue, hwaiter, RequestQueue.capacity_expire, not_le.mpr hroom,
        Bool.false_eq_true, if_false]
      exact ⟨_, _, rfl⟩

namespace System

variable {w w' : System} {a : Act} {ok : System → Act → Prop}

lemma Reach.policy_positive (h : Reach ok w) : w.sched.sessions.policy.positive = true := by
  refine h.sched_invariant (J := fun s => s.sessions.policy.positive = true) ?_
    (fun _ _ hI _ => hI) ?_
  · intro s hs
    obtain ⟨policy, hpos, heq⟩ := hs.sessions
    rw [heq]
    exact hpos
  · intro w t inp co e _ hI _ _ he
    rw [(Co.step_within he).policy]
    exact hI

end System

/-! ### The waiter of a session -/

lemma RecordMove.sequence {r r' : SessionRecord}
    (h : RecordMove s co session r r') : r'.sequence = r.sequence := by
  cases h <;> rfl

/-- A session does not return to `PREPARING`. -/
lemma Touch.not_preparing {sm' : SessionManager} (h : Touch s co sm')
    (hr : ∃ r, s.sessions.records.get? session = some r ∧ r.phase ≠ .preparing) :
    ∃ r', sm'.records.get? session = some r' ∧ r'.phase ≠ .preparing := by
  obtain ⟨r, hr, hp⟩ := hr
  obtain ⟨r', hr', -⟩ := h.keeps session r hr
  refine ⟨r', hr', ?_⟩
  rcases h.move hr hr' with heq | heq | hm
  · rw [heq]
    exact hp
  · simp [heq]
  · cases hm with
    | heartbeat => exact hp
    | yield hprep => exact absurd hprep hp
    | _ => exact nofun

/-- The session whose end the worker has noticed while its model was loading. -/
def SessionLifecycle.Pc.late : SessionLifecycle.Pc → Option SessionId
  | .preparing session (.stoppingLate _ _ _) => some session
  | .preparing session .closeLate => some session
  | _ => none

namespace System

variable {w w' : System} {a : Act} {ok : System → Act → Prop}

lemma Reach.late (h : Reach ok w) : ∀ t pc, w.Suspended t (.sessionLifecycle pc) →
    ∀ session ∈ pc.late, ∃ r, w.sched.sessions.records.get? session = some r ∧
      r.phase ≠ .preparing := by
  refine h.worker_fact (K := fun w pc => ∀ session ∈ pc.late,
    ∃ r, w.sched.sessions.records.get? session = some r ∧ r.phase ≠ .preparing) ?_ ?_ ?_ ?_
  · rintro w session ⟨⟩
  · intro w w' t inp pc e pc' hreach hok hw ht he hc hw' hK session hlate
    rcases SessionLifecycle.step_goto he hc with ⟨-, rfl, -⟩ | ⟨u, p, p', rfl, rfl, hrec⟩ |
      ⟨u, p, p', -, rfl, -⟩ | hfree
    · generalize (SessionLifecycle.nextSessionPlan w.sched).2 = plan at hlate
      rcases plan with _ | ⟨_ | _ | _ | _⟩ <;> cases hlate
    · have hbefore : ∃ r, w.sched.sessions.records.get? session = some r ∧
          r.phase ≠ .preparing := by
        obtain ⟨⟨s', sp, ctl⟩, he', rfl⟩ := Option.map_eq_some_iff.mp he
        rcases Ctl.bind_goto hc with ⟨p₁, hp₁, hwrap⟩ | ⟨r, -, hr⟩
        · cases hwrap
          cases hp₁
          cases PrepareSession.step_goes he' with
          | late r hr hp =>
            cases hlate
            exact ⟨r, hr, hp⟩
          | stoppingLate | stoppedLate => exact hK session hlate
          | _ => cases hlate
        · cases SessionLifecycle.stepped_free hr
      rw [hw', commit_sched]
      exact hrec ▸ hbefore
    · cases hlate
    · cases pc' with
      | preparing => cases hfree
      | _ => cases hlate
  · intro w w' t pc pc' _ _ hs hthrow hK session hlate
    rcases SessionLifecycle.throw_goto hthrow with ⟨u, p, p', rfl, rfl⟩ | hfree
    · rcases Ctl.bind_goto hthrow with ⟨p₁, hp₁, hwrap⟩ | ⟨r, -, hr⟩
      · cases hwrap
        rcases PrepareSession.throw_goto hp₁ with ⟨m, deadline, q, q', -, rfl, -⟩ | rfl <;>
          cases hlate
      · cases SessionLifecycle.stepped_free hr
    · cases pc' with
      | preparing => cases hfree
      | _ => cases hlate
  · intro w w' a t pc hreach hok hw hs hK session hlate
    cases hw with
    | resume t' inp co e ht he =>
      rw [commit_sched]
      exact (Co.step_touch he).not_preparing (hK session hlate)
    | _ => exact hK session hlate

end System

/-- The waiter that was filed with a session stands in the queue only while the session is
`PREPARING`. A waiter that a later request filed under the same name has another number. -/
structure Scheduler.Slots (s : Scheduler) : Prop where
  drawn : ∀ session r, s.sessions.records.get? session = some r → r.sequence ≤ s.queue.sequence
  left : ∀ session r item, s.sessions.records.get? session = some r →
    s.queue.items.get? session = some item → item.sequence = r.sequence → r.phase = .preparing

namespace Scheduler.Slots

/-- A record whose session did not leave `PREPARING` in a step that moved the queue. -/
lemma left_of_moves {who : Option RequestId} {q' : RequestQueue} (h : s.Slots)
    (hq : RequestQueue.Moves who s.queue q') {r : SessionRecord} {item : QueuedRequest}
    (hr : s.sessions.records.get? session = some r) (hitem : q'.items.get? session = some item)
    (hseq : item.sequence = r.sequence) : r.phase = .preparing := by
  rcases hq.fresh session item hitem with hold | hlt
  · exact h.left session r item hr hold hseq
  · have := h.drawn session r hr
    omega

lemma of_records {who : Option RequestId} (h : s.Slots)
    (hq : RequestQueue.Moves who s.queue s'.queue)
    (hr : s'.sessions.records = s.sessions.records) : s'.Slots := by
  refine ⟨fun session r hget => ?_, fun session r item hget hitem hseq => ?_⟩
  · exact (h.drawn session r (hr ▸ hget)).trans hq.sequence
  · exact h.left_of_moves hq (hr ▸ hget) hitem hseq

lemma congr (h : s.Slots) (hq : s'.queue = s.queue)
    (hr : s'.sessions.records = s.sessions.records) : s'.Slots := by
  obtain ⟨hdrawn, hleft⟩ := h
  rw [← hq, ← hr] at hdrawn hleft
  exact ⟨hdrawn, hleft⟩

/-- One record moves and, if it leaves `PREPARING`, its waiter leaves the queue. -/
lemma of_update {who : Option RequestId} {r r' : SessionRecord} (h : s.Slots)
    (hq : RequestQueue.Moves who s.queue s'.queue)
    (hu : SessionManager.Update s.sessions s'.sessions session r r')
    (hseq : r'.sequence = r.sequence)
    (hleft : r.phase = .preparing → r'.phase ≠ .preparing →
      s'.queue.items.get? session = none) : s'.Slots := by
  refine ⟨fun u x hx => ?_, fun u x item hx hitem hsame => ?_⟩
  · rw [hu.records, Dict.get?_set] at hx
    split_ifs at hx with heq
    · cases hx
      rw [hseq]
      exact (h.drawn session r hu.get).trans hq.sequence
    · exact (h.drawn u x hx).trans hq.sequence
  · rw [hu.records, Dict.get?_set] at hx
    split_ifs at hx with heq
    · subst heq
      cases hx
      by_contra hp
      have hprep := h.left_of_moves hq hu.get hitem (hsame.trans hseq)
      rw [hleft hprep hp] at hitem
      cases hitem
    · exact h.left_of_moves hq hx hitem hsame

end Scheduler.Slots

@[simp] lemma Scheduler.ensureSessionWorker_queue (s : Scheduler) (v : TaskView) :
    (s.ensureSessionWorker v).1.queue = s.queue := by
  simp only [ensureSessionWorker]
  split_ifs <;> rfl

@[simp] lemma Scheduler.releaseSessionFreeze_queue (s : Scheduler) (session : SessionId) :
    (s.releaseSessionFreeze session).queue = s.queue := by
  simp only [releaseSessionFreeze]
  split_ifs <;> rfl

lemma RequestQueue.get?_remove_self (q : RequestQueue) (request : RequestId) (state : WaitState) :
    (q.remove request state).1.items.get? request = none := by
  rw [get?_remove, if_pos rfl]

lemma CloseSession.begin_waiter {reason : String} {r : SessionRecord}
    (hr : s.sessions.records.get? session = some r) (hopen : r.phase ≠ .closed) :
    (begin s v session reason).next.queue.items.get? session = none := by
  simp only [begin, hr, if_neg hopen, SessionManager.beginDrain, SessionManager.withRecord,
    Scheduler.ensureSessionWorker_queue, RequestQueue.get?_remove_self]

lemma ExpireSession.begin_waiter {r : SessionRecord} (hr : s.sessions.records.get? session = some r)
    (hprep : r.phase = .preparing) : (begin s session).next.queue.items.get? session = none := by
  simp only [begin, hr, if_pos hprep]
  split <;> simp only [Effect.raise, Effect.ret, Scheduler.releaseSessionFreeze_queue,
    RequestQueue.get?_remove_self]

lemma PrepareSession.activate_waiter {r r' : SessionRecord}
    (hr : s.sessions.records.get? session = some r) (hprep : r.phase = .preparing)
    (hr' : (activate s session).next.sessions.records.get? session = some r')
    (hact : r'.phase = .active) : (activate s session).next.queue.items.get? session = none := by
  simp only [activate, hr, if_pos hprep] at hr' ⊢
  split <;> rename_i heq
  · rw [heq] at hr'
    cases hr.symm.trans hr'
    cases hprep.symm.trans hact
  · exact RequestQueue.get?_remove_self s.queue session .granted

/-- The waiter of a session that leaves `PREPARING` leaves the queue, unless the session is
blocked. -/
lemma RecordMove.waiter_gone {e : Effect Co Value} {r r' : SessionRecord}
    (hm : RecordMove s co session r r') (h : co.step s v inp = some e)
    (hu : SessionManager.Update s.sessions e.next.sessions session r r')
    (hexp : ∀ pc, co = .sessionLifecycle pc → SessionLifecycle.Expects s.sessions pc)
    (hlate : ∀ pc, co = .sessionLifecycle pc → ∀ session ∈ pc.late,
      ∃ r, s.sessions.records.get? session = some r ∧ r.phase ≠ .preparing)
    (hp : r.phase = .preparing) (hp' : r'.phase ≠ .preparing) :
    e.next.queue.items.get? session = none ∨
      co = .sessionLifecycle (.preparing session .blocking) := by
  have hfinish : ∀ confirmed, co ≠ .sessionLifecycle (.draining session (.finish confirmed)) := by
    rintro confirmed rfl
    obtain ⟨r₀, hr₀, hphase⟩ := hexp _ rfl
    cases hu.get.symm.trans hr₀
    rcases hphase with h | h <;> cases hp.symm.trans h
  cases hm with
  | heartbeat => exact absurd hp hp'
  | close hopen =>
    obtain ⟨e', he', rfl⟩ := Option.map_eq_some_iff.mp h
    cases inp <;> cases he'
    exact .inl (CloseSession.begin_waiter hu.get hopen)
  | expireWaiting hprep =>
    obtain ⟨e', he', rfl⟩ := Option.map_eq_some_iff.mp h
    obtain ⟨e'', he'', rfl⟩ := Option.map_eq_some_iff.mp he'
    cases inp <;> cases he''
    exact .inl (ExpireSession.begin_waiter hu.get hprep)
  | expire hprep hopen => exact absurd hp hprep
  | yield hprep => exact absurd hprep hp'
  | block hopen => exact .inr rfl
  | activate hprep =>
    obtain ⟨e', he', rfl⟩ := Option.map_eq_some_iff.mp h
    obtain ⟨e'', he'', rfl⟩ := Option.map_eq_some_iff.mp he'
    cases inp <;> cases he''
    exact .inl (PrepareSession.activate_waiter hu.get hprep hu.get_new rfl)
  | closeLate hopen =>
    obtain ⟨r₀, hr₀, hphase⟩ := hlate _ rfl session rfl
    cases hu.get.symm.trans hr₀
    exact absurd hp hphase
  | finishClosed hopen => exact absurd rfl (hfinish true)
  | finishBlocked hopen => exact absurd rfl (hfinish false)

/-- The record that `create` files carries the number of its waiter. -/
lemma SessionManager.create_sequence {sm sm' : SessionManager} {model : ModelId} {client : String}
    {now : Time} {queue queue' : RequestQueue} {priority : ℤ} {hard : Option ℚ} {r : SessionRecord}
    (h : sm.create session model client now queue priority hard = (queue', .ok sm'))
    (hr : sm'.records.get? session = some r) : r.sequence = queue'.sequence := by
  simp only [create] at h
  split_ifs at h
  · cases h
  · cases h
  · cases h
  split at h
  · cases h
  · rename_i q item heq
    cases h
    simp only [Dict.get?_set_self, Option.some.injEq] at hr
    subst hr
    simp only [RequestQueue.enqueue] at heq
    split_ifs at heq <;> cases heq
    rfl

lemma RegisterSession.begin_slots {args : SessionArgs} {α : Type} (k : Ctl α Unit)
    (hI : s.Slots) : (begin s v args k).next.Slots := by
  simp only [begin]
  split
  · exact hI
  · split <;> rename_i heq
    · exact hI.of_records (SessionManager.create_moves heq) rfl
    · rename_i queue sm
      have hq := SessionManager.create_moves heq
      obtain ⟨record, -, hrec, -, -, hprep, -⟩ := SessionManager.create_ok heq
      have hseq : record.sequence = queue.sequence :=
        SessionManager.create_sequence heq (by rw [hrec]; exact Dict.get?_set_self _ _ _)
      refine Scheduler.Slots.congr (s := { s with queue := queue, sessions := sm }) ?_
        (Scheduler.ensureSessionWorker_queue _ v)
        (congrArg _ (Touch.ensureSessionWorker_sessions _ v))
      refine ⟨fun u r hr => ?_, fun u r item hr hitem hsame => ?_⟩ <;>
        rw [hrec, Dict.get?_set] at hr <;> split_ifs at hr
      · cases hr
        exact hseq.le
      · exact (hI.drawn u r hr).trans hq.sequence
      · cases hr
        exact hprep
      · exact hI.left_of_moves hq hr hitem hsame

lemma SessionManager.Drained.sequence {sm sm' : SessionManager} (h : SessionManager.Drained sm sm')
    {r' : SessionRecord} (hr' : sm'.records.get? session = some r') :
    ∃ r, sm.records.get? session = some r ∧ r.sequence = r'.sequence := by
  induction h generalizing r' with
  | refl => exact ⟨r', hr', rfl⟩
  | tail _ hs ih =>
    obtain ⟨u, x, now, reason, -, hu⟩ := hs
    rw [hu.records, Dict.get?_set] at hr'
    split_ifs at hr' with heq
    · subst heq
      cases hr'
      obtain ⟨r, hr, hseq⟩ := ih hu.get
      exact ⟨r, hr, hseq⟩
    · exact ih hr'

lemma Shutdown.drainAll_queue (sessions : List SessionId) (s : Scheduler) :
    (sessions.foldl drainOne s).queue = s.queue := by
  induction sessions generalizing s with
  | nil => rfl
  | cons session sessions ih =>
    rw [List.foldl_cons, ih, drainOne]
    split
    · rfl
    · exact Scheduler.releaseSessionFreeze_queue _ _

lemma Shutdown.begin_slots (hI : s.Slots) : (begin s).next.Slots := by
  have hqueue : (begin s).next.queue = s.queue.clear := drainAll_queue _ _
  refine ⟨fun session r hr => ?_, fun session r item hr hitem => ?_⟩
  · obtain ⟨r₀, hr₀, hseq⟩ := SessionManager.Drained.sequence
      (Touch.drainAll _ { s with shuttingDown := true, queue := s.queue.clear }) hr
    rw [hqueue, ← hseq]
    exact hI.drawn session r₀ hr₀
  · rw [hqueue] at hitem
    cases hitem

/-- Every step but a blocked preparation keeps the waiters with the sessions that are
`PREPARING`. -/
theorem Co.step_slots {e : Effect Co Value} (h : co.step s v inp = some e) (hI : s.Slots)
    (hexp : ∀ pc, co = .sessionLifecycle pc → SessionLifecycle.Expects s.sessions pc)
    (hlate : ∀ pc, co = .sessionLifecycle pc → ∀ session ∈ pc.late,
      ∃ r, s.sessions.records.get? session = some r ∧ r.phase ≠ .preparing)
    (hblock : ∀ session, co = .sessionLifecycle (.preparing session .blocking) →
      s.queue.contains session = false) : e.next.Slots := by
  have hq := (Co.step_within h).queue
  cases Co.step_touch h with
  | same hr ha hp => exact hI.of_records hq hr
  | create args hco queue queue' hcreate =>
    cases hco <;> obtain ⟨e', he', rfl⟩ := Option.map_eq_some_iff.mp h <;> cases inp <;> cases he'
    · exact RegisterSession.begin_slots _ hI
    · exact RegisterSession.begin_slots _ hI
  | moved session r r' hm hu =>
    refine hI.of_update hq hu hm.sequence fun hp hp' => ?_
    rcases hm.waiter_gone h hu hexp hlate hp hp' with hgone | rfl
    · exact hgone
    · obtain ⟨e', he', rfl⟩ := Option.map_eq_some_iff.mp h
      obtain ⟨e'', he'', rfl⟩ := Option.map_eq_some_iff.mp he'
      cases inp <;> cases he''
      have hsame : (PrepareSession.blocking s session).next.queue = s.queue := by
        simp only [PrepareSession.blocking]
        split <;> rfl
      change (PrepareSession.blocking s session).next.queue.items.get? session = none
      rw [hsame]
      exact RequestQueue.not_contains_iff.mp (hblock session rfl)
  | shutdown deadline hco hdrained =>
    subst hco
    obtain ⟨e', he', rfl⟩ := Option.map_eq_some_iff.mp h
    cases inp <;> cases he'
    exact Shutdown.begin_slots hI

/-! ### Capacity -/

namespace System

variable {w w' : System} {a : Act}

/-- The steps after which the waiter of a session that has left `PREPARING` is gone: where the
worker blocks a session, its waiter has left the queue already. -/
def waiterGone (w : System) : Act → Bool
  | .resume t _ =>
    match w.tasks.get? t with
    | some (.running true (.sessionLifecycle (.preparing session .blocking))) =>
      !w.sched.queue.contains session
    | _ => true
  | _ => true

theorem Reach.slots (h : Reach (fun w a => waiterGone w a = true) w) : w.sched.Slots := by
  refine h.sched_invariant (J := Scheduler.Slots) ?_ (fun _ _ hI _ => hI.congr rfl rfl) ?_
  · intro s hs
    obtain ⟨policy, -, heq⟩ := hs.sessions
    constructor <;> rw [heq]
    · rintro _ _ ⟨⟩
    · rintro _ _ _ ⟨⟩
  · intro w t inp co e hreach hI hok ht he
    refine Co.step_slots he hI ?_ ?_ ?_
    · rintro pc rfl
      exact hreach.expected t _ ⟨true, ht⟩ pc rfl
    · rintro pc rfl
      exact hreach.late t pc ⟨true, ht⟩
    · rintro session rfl
      simpa [waiterGone, ht] using hok

/-- Task `t` is about to register a fresh session for a known model, with the service open. -/
structure MayRegister (w : System) (t : TaskId) (args : SessionArgs) : Prop where
  task : w.tasks.get? t = some (.running true (.registerSession args))
  model : w.sched.book.specs.contains args.modelId = true
  running : w.sched.shuttingDown = false
  storage : w.sched.storageUnavailable = false
  exclusive : w.sched.exclusiveConflict = none
  fresh : w.sched.sessions.records.contains args.sessionId = false
  absent : w.sched.queue.contains args.sessionId = false
  hard : ∀ x ∈ args.hardDeadlineSeconds, 0 < x

/-- The registration of a fresh session for a known model, with the service open, is accepted
exactly when fewer than `max_sessions` sessions were ever filed and the waiters leave room in the
queue. While no preparation is blocked, a session that is `CLOSED` holds no place in the queue. -/
theorem registration_accepted_iff (hreach : Reach (fun _ _ => True) w) :
    (∀ t args w', w.MayRegister t args → w.step (go t) = some w' →
      (w'.tasks.get? t = some (.done (.ok .unit)) ↔
        w.sched.sessions.records.size < w.sched.sessions.policy.maxSessions ∧
          ((w.sched.queue.expire w.sched.now).items.size : ℤ) < w.sched.queue.capacity)) ∧
      (Reach (fun w a => waiterGone w a = true) w → ∀ session r item,
        w.sched.sessions.records.get? session = some r → r.phase = .closed →
        w.sched.queue.items.get? session = some item → item.sequence ≠ r.sequence) := by
  constructor
  · intro t args w' hreg hstep
    have hpolicy : 0 < w.sched.sessions.policy.hardDeadlineSeconds := by
      have := hreach.policy_positive
      simp only [SessionPolicy.positive, List.all_cons, Bool.and_eq_true, decide_eq_true_eq] at this
      exact this.2.2.1
    rw [← SessionManager.create_ok_iff args.modelId args.clientId args.priority hpolicy hreg.hard
      hreg.fresh (RequestQueue.contains_expire hreg.absent)]
    obtain ⟨e, he, -, htask⟩ := hreach.step_resume_task hstep hreg.task
    cases he
    have hrefusal : RegisterSession.refusal w.sched args = none := by
      simp [RegisterSession.refusal, hreg.model, hreg.running, hreg.storage, hreg.exclusive]
    rw [htask]
    simp only [Effect.lift, RegisterSession.begin, hrefusal]
    split <;> rename_i heq
    · simp [heq, Effect.raise, Ctl.raise, Ctl.lift, Ctl.bind, Ctl.task, Except.map]
    · simp [heq, Ctl.ret, Ctl.lift, Ctl.bind, Ctl.task, Except.map, Value.none]
  · intro hgone session r item hr hclosed hitem hseq
    cases (hgone.slots.left session r item hr hitem hseq).symm.trans hclosed

/-- The small deployment admits `n` sessions. -/
def capped (n : ℕ) : System :=
  { deployed with sched := { deployed.sched with sessions := { policy := { maxSessions := n } } } }

lemma capped_starts {n : ℕ} (hn : 0 < n) : Starts (capped n) := by
  refine ⟨deployedPolicy, deployedSpecs, deployedBook, { maxSessions := n },
    { policy := { maxSessions := n } }, {}, 0, (capped n).sched,
    deployedBook_reachable, ?_, ?_, rfl⟩
  · simp [SessionManager.init, SessionPolicy.positive, hn]
  · norm_num [Scheduler.init, RequestQueue.init, capped, deployed]

/-- The registration of session `session` for "chat". -/
def registersChat (session : SessionId) : SessionArgs :=
  { modelId := "chat", clientId := "alice", sessionId := session }

/-- Session "A" is registered and closed, and "B" comes to register. -/
def closeFirst : List Act :=
  [.call (.registerSession (registersChat "A")), go 0, .call (.closeSession "A" "done" none), go 2,
   go 1, go 1, go 1, go 1, go 1, go 1, .call (.registerSession (registersChat "B"))]

/-- Of two sessions the first is `CLOSED` and out of the queue. The second registration is accepted,
and takes the last session slot. -/
theorem registration_accepted_iff_second :
    ∃ (w w' : System) (r : SessionRecord), w.step (go 3) = some w' ∧
      w.sched.sessions.policy.maxSessions = 2 ∧
      w.sched.sessions.records.get? "A" = some r ∧ r.phase = .closed ∧
      (∀ item, w.sched.queue.items.get? "A" = some item → item.sequence ≠ r.sequence) ∧
      w'.tasks.get? 3 = some (.done (.ok .unit)) := by
  obtain ⟨w, w', hgone, hstep, ⟨ht, hmodel, hrun, hstorage, hexclusive, hfresh, habsent⟩,
      hmax, hsize, hroom, hclosed⟩ :=
    (capped_starts Nat.two_pos).exists_step_under waiterGone closeFirst (a := go 3)
    (P := fun w _ => (w.tasks.get? 3 = some (.running true (.registerSession (registersChat "B"))) ∧
        w.sched.book.specs.contains "chat" = true ∧ w.sched.shuttingDown = false ∧
        w.sched.storageUnavailable = false ∧ w.sched.exclusiveConflict = none ∧
        w.sched.sessions.records.contains "B" = false ∧ w.sched.queue.contains "B" = false) ∧
      w.sched.sessions.policy.maxSessions = 2 ∧ w.sched.sessions.records.size = 1 ∧
      ((w.sched.queue.expire w.sched.now).items.size : ℤ) < w.sched.queue.capacity ∧
      w.phaseOf "A" = some .closed) (by decide +kernel)
  obtain ⟨r, hr, hphase⟩ := Option.map_eq_some_iff.mp hclosed
  obtain ⟨haccepted, hqueue⟩ := registration_accepted_iff (hgone.mono fun _ _ _ => trivial)
  refine ⟨w, w', r, hstep, hmax, hr, hphase, fun item => hqueue hgone "A" r item hr hphase, ?_⟩
  exact (haccepted 3 _ w' ⟨ht, hmodel, hrun, hstorage, hexclusive, hfresh, habsent, by rintro x ⟨⟩⟩
    hstep).mpr ⟨by omega, hroom⟩

/-- The one session of the deployment is registered and closed. No session is open and nobody waits,
and yet the next registration is refused for want of a session slot. -/
theorem closed_session_keeps_slot :
    ∃ w w', Reach (fun _ _ => True) w ∧ w.step (go 3) = some w' ∧
      w.tasks.get? 3 = some (.running true (.registerSession (registersChat "B"))) ∧
      w.phaseOf "A" = some .closed ∧ w.sched.sessions.pending = false ∧
      w.sched.queue.items.size = 0 ∧ w.sched.sessions.policy.maxSessions = 1 ∧
      (w.sched.shuttingDown = false ∧ w.sched.storageUnavailable = false) ∧
      w.sched.exclusiveConflict = none ∧
      w'.tasks.get? 3 = some (.done (.error (.sessionConflict "session_capacity"))) :=
  (capped_starts Nat.one_pos).exists_step closeFirst (by decide +kernel)

end System

end ModelSwitch

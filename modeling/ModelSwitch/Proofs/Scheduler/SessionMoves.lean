import ModelSwitch.Proofs.Scheduler.Footprint

/-!
# What a step does to the sessions

`RecordMove` lists the record changes each coroutine makes and `Touch` what a step does to the
manager as a whole; `Co.step_touch` proves it for every coroutine. Invariants of the sessions are
proved over these cases: every task but the session worker only registers, refreshes or drains.
-/

namespace ModelSwitch

variable {session : SessionId}

/-! ### The manager -/

namespace SessionManager

variable {sm sm' : SessionManager}

/-- The invariant of the session manager. -/
structure Inv (sm : SessionManager) : Prop where
  sessionId : ∀ session record, sm.records.get? session = some record → record.sessionId = session
  ttl : ∀ session record, sm.records.get? session = some record → 0 < record.ttlSeconds
  policy : 0 < sm.policy.ttlSeconds
  active : ∀ session, sm.activeId = some session ↔
    ∃ record, sm.records.get? session = some record ∧ record.phase = .active

/-- No session holds the model actively. -/
def NoActive (sm : SessionManager) : Prop :=
  ∀ session record, sm.records.get? session = some record → record.phase ≠ .active

lemma Update.inv {record record' : SessionRecord} (h : Update sm sm' session record record')
    (hinv : sm.Inv) : sm'.Inv where
  sessionId u r hr := by
    rw [h.records, Dict.get?_set] at hr
    split_ifs at hr with heq
    · cases hr
      rw [h.sessionId, heq, hinv.sessionId session record h.get]
    · exact hinv.sessionId u r hr
  ttl u r hr := by
    rw [h.records, Dict.get?_set] at hr
    split_ifs at hr with heq
    · cases hr
      rw [h.ttl]
      exact hinv.ttl session record h.get
    · exact hinv.ttl u r hr
  policy := by
    rw [h.policy]
    exact hinv.policy
  active u := by
    rw [h.records]
    by_cases heq : u = session
    · subst heq
      simp only [Dict.get?_set_self, Option.some.injEq, exists_eq_left']
      constructor
      · intro hact
        rcases h.active_stays hact with hp | ⟨hold, hp⟩
        · exact hp
        · obtain ⟨r, hr, hphase⟩ := (hinv.active u).mp hold
          cases hr.symm.trans h.get
          rw [hp, hphase]
      · intro hp
        rcases h.active_set hp with hact | ⟨hsame, hphase⟩
        · exact hact
        · rw [hsame]
          exact (hinv.active u).mpr ⟨record, h.get, hphase⟩
    · rw [h.active_other u heq, Dict.get?_set_ne _ _ heq]
      exact hinv.active u

lemma init_inv {policy : SessionPolicy} (h : policy.positive = true) :
    Inv { policy := policy } := by
  refine ⟨?_, ?_, ?_, fun session => ⟨?_, ?_⟩⟩
  · rintro _ _ ⟨⟩
  · rintro _ _ ⟨⟩
  · simp only [SessionPolicy.positive, Bool.and_eq_true, List.all_cons, decide_eq_true_eq] at h
    exact h.2.2.2.2.1
  · rintro ⟨⟩
  · rintro ⟨_, ⟨⟩, _⟩

lemma create_inv {model : ModelId} {client : String} {now : Time} {queue queue' : RequestQueue}
    {priority : ℤ} {hardSeconds : Option ℚ}
    (h : sm.create session model client now queue priority hardSeconds = (queue', .ok sm'))
    (hinv : sm.Inv) : sm'.Inv := by
  obtain ⟨record, hnone, hrec, hid, -, hphase, httl, -, hact, hpol⟩ := create_ok h
  refine ⟨?_, ?_, ?_, ?_⟩
  · intro u r hr
    rw [hrec, Dict.get?_set] at hr
    split_ifs at hr with heq
    · cases hr
      rw [hid, heq]
    · exact hinv.sessionId u r hr
  · intro u r hr
    rw [hrec, Dict.get?_set] at hr
    split_ifs at hr with heq
    · cases hr
      rw [httl]
      exact hinv.policy
    · exact hinv.ttl u r hr
  · rw [hpol]
    exact hinv.policy
  · intro u
    rw [hact, hrec, hinv.active u]
    by_cases heq : u = session
    · subst heq
      simp [hnone, hphase]
    · rw [Dict.get?_set_ne _ _ heq]

/-- Records and the active session are all that the invariant reads. -/
lemma Inv.congr (hinv : sm.Inv) (hr : sm'.records = sm.records)
    (ha : sm'.activeId = sm.activeId) (hp : sm'.policy = sm.policy) : sm'.Inv :=
  ⟨by rw [hr]; exact hinv.sessionId, by rw [hr]; exact hinv.ttl, by rw [hp]; exact hinv.policy,
    by rw [hr, ha]; exact hinv.active⟩

end SessionManager

/-! ### What a step does to the sessions -/

namespace SessionRecord

variable (r : SessionRecord) (now : Time)

def drained (reason : String) : SessionRecord :=
  { r with phase := .draining, drainingAt := some now, drainingReason := some reason }

def closed : SessionRecord := { r with phase := .closed, closedAt := some now, retryAt := 0 }

def blocked (reason : String) (retryAt : Time) : SessionRecord :=
  { r with phase := .blocked, blockedAt := some now, blockedReason := some reason,
           retryAt := retryAt }

def activated : SessionRecord :=
  { r with phase := .active, activatedAt := some now, heartbeatAt := some now, retryAt := 0 }

end SessionRecord

/-- The record changes each coroutine makes, with the phase it makes them in. -/
inductive RecordMove (s : Scheduler) : Co → SessionId → SessionRecord → SessionRecord → Prop
  | heartbeat {session : SessionId} {r : SessionRecord}
      (h : r.phase = .preparing ∨ (r.phase = .active ∧ s.now < r.expiresAt)) :
      RecordMove s (.heartbeatSession session) session r { r with heartbeatAt := some s.now }
  | close {session : SessionId} {reason : String} {deadline : Option Time} {r : SessionRecord}
      (h : r.phase ≠ .closed) :
      RecordMove s (.closeSession session reason deadline .begin) session r (r.drained s.now reason)
  | expireWaiting {session : SessionId} {r : SessionRecord} (h : r.phase = .preparing) :
      RecordMove s (.sessionLifecycle (.expiring session .begin)) session r (r.closed s.now)
  | expire {session : SessionId} {r : SessionRecord} (h : r.phase ≠ .preparing)
      (hc : r.phase ≠ .closed) :
      RecordMove s (.sessionLifecycle (.expiring session .begin)) session r
        (r.drained s.now "expired")
  | yield {session : SessionId} {r : SessionRecord} (h : r.phase = .preparing) :
      RecordMove s (.sessionLifecycle (.preparing session .yielding)) session r
        { r with retryAt := s.now + s.sessions.policy.retrySeconds }
  | block {session : SessionId} {r : SessionRecord} (h : r.phase ≠ .closed) :
      RecordMove s (.sessionLifecycle (.preparing session .blocking)) session r
        (r.blocked s.now "prepare_unconfirmed" (s.now + s.sessions.policy.reconcileSeconds))
  | activate {session : SessionId} {r : SessionRecord} (h : r.phase = .preparing) :
      RecordMove s (.sessionLifecycle (.preparing session .activate)) session r (r.activated s.now)
  | closeLate {session : SessionId} {r : SessionRecord} (h : r.phase ≠ .closed) :
      RecordMove s (.sessionLifecycle (.preparing session .closeLate)) session r (r.closed s.now)
  | finishClosed {session : SessionId} {r : SessionRecord} (h : r.phase ≠ .closed) :
      RecordMove s (.sessionLifecycle (.draining session (.finish true))) session r
        (r.closed s.now)
  | finishBlocked {session : SessionId} {r : SessionRecord} (h : r.phase ≠ .closed) :
      RecordMove s (.sessionLifecycle (.draining session (.finish false))) session r
        (r.blocked s.now "stop_unconfirmed" (s.now + s.sessions.policy.reconcileSeconds))

/-- The coroutine registers the session that `a` describes. -/
inductive Registers (a : SessionArgs) : Co → Prop
  | register : Registers a (.registerSession a)
  | openSession {deadline : Option Time} : Registers a (.openSession a deadline .register)

/-- Some sessions that were not `CLOSED` are drained. -/
def SessionManager.Drained : SessionManager → SessionManager → Prop :=
  Relation.ReflTransGen fun sm sm' => ∃ session r now reason, r.phase ≠ .closed ∧
    SessionManager.Update sm sm' session r (r.drained now reason)

/-- What a step of `co` does to the session manager. -/
inductive Touch (s : Scheduler) (co : Co) (sm' : SessionManager) : Prop
  | same (hr : sm'.records = s.sessions.records) (ha : sm'.activeId = s.sessions.activeId)
      (hp : sm'.policy = s.sessions.policy)
  | create (a : SessionArgs) (hco : Registers a co) (queue queue' : RequestQueue)
      (h : s.sessions.create a.sessionId a.modelId a.clientId s.now queue a.priority
        a.hardDeadlineSeconds = (queue', .ok sm'))
  | moved (session : SessionId) (r r' : SessionRecord) (hm : RecordMove s co session r r')
      (hu : SessionManager.Update s.sessions sm' session r r')
  | shutdown (deadline : Time) (hco : co = .shutdown deadline .begin)
      (h : SessionManager.Drained s.sessions sm')

@[simp] lemma Scheduler.releaseSessionFreeze_sessions (s : Scheduler) (session : SessionId) :
    (s.releaseSessionFreeze session).sessions = s.sessions := by
  simp only [releaseSessionFreeze]
  split_ifs <;> rfl

namespace Touch

variable {s : Scheduler} {v : TaskView} {inp : Input} {co : Co}

lemma refl (s : Scheduler) (co : Co) : Touch s co s.sessions := .same rfl rfl rfl

lemma of_within {fp : Footprint} {s' : Scheduler} (h : Within fp s s') (hfp : fp.sessions = false) :
    Touch s co s'.sessions :=
  .same (h.sessions hfp).1 (h.sessions hfp).2 h.policy

lemma ensureSessionWorker_sessions (s : Scheduler) (v : TaskView) :
    (s.ensureSessionWorker v).1.sessions = s.sessions := by
  unfold Scheduler.ensureSessionWorker
  split_ifs <;> rfl

lemma expire :
    Touch s (.sessionLifecycle (.expiring session .begin))
      (ExpireSession.begin s session).next.sessions := by
  unfold ExpireSession.begin
  split
  · exact .refl s _
  · rename_i r hr
    split_ifs with hprep
    · dsimp only
      split
      · exact .refl s _
      · rename_i sm heq
        simp only [Effect.ret, Scheduler.releaseSessionFreeze_sessions]
        obtain ⟨r', ⟨-, -, rfl⟩ | ⟨-, hu⟩⟩ := SessionManager.markClosed_ok heq
        · exact .refl s _
        · cases hr.symm.trans hu.get
          exact .moved session r _ (.expireWaiting hprep) hu
    · split
      · exact .refl s _
      · rename_i sm heq
        have ht : Touch s (.sessionLifecycle (.expiring session .begin)) sm := by
          obtain ⟨r', ⟨-, -, rfl⟩ | ⟨hc, hu⟩⟩ := SessionManager.beginDrain_ok heq
          · exact .refl s _
          · cases hr.symm.trans hu.get
            exact .moved session r _ (.expire hprep hc) hu
        dsimp only
        split_ifs <;> exact ht

lemma yielding :
    Touch s (.sessionLifecycle (.preparing session .yielding))
      (PrepareSession.yielding s session).next.sessions := by
  unfold PrepareSession.yielding
  split
  · exact .refl s _
  · rename_i sm heq
    simp only [Effect.ret, Scheduler.releaseSessionFreeze_sessions]
    obtain ⟨r, hp, hu⟩ := SessionManager.yieldPrepare_ok heq
    exact .moved session r _ (.yield hp) hu

lemma blocking :
    Touch s (.sessionLifecycle (.preparing session .blocking))
      (PrepareSession.blocking s session).next.sessions := by
  unfold PrepareSession.blocking
  split
  · exact .refl s _
  · rename_i sm heq
    obtain ⟨r, hp, hu⟩ := SessionManager.markBlocked_ok heq
    exact .moved session r _ (.block hp) hu

lemma activate :
    Touch s (.sessionLifecycle (.preparing session .activate))
      (PrepareSession.activate s session).next.sessions := by
  unfold PrepareSession.activate
  split
  · exact .refl s _
  · split_ifs
    · split
      · exact .refl s _
      · rename_i sm heq
        obtain ⟨r, hp, hu⟩ := SessionManager.markActive_ok heq
        exact .moved session r _ (.activate hp) hu
    · exact .refl s _

lemma closeLate :
    Touch s (.sessionLifecycle (.preparing session .closeLate))
      (PrepareSession.closeLate s session).next.sessions := by
  unfold PrepareSession.closeLate
  split
  · exact .refl s _
  · rename_i sm heq
    simp only [Effect.ret, Scheduler.releaseSessionFreeze_sessions]
    obtain ⟨r, ⟨-, -, rfl⟩ | ⟨hc, hu⟩⟩ := SessionManager.markClosed_ok heq
    · exact .refl s _
    · exact .moved session r _ (.closeLate hc) hu

lemma finish (confirmed : Bool) :
    Touch s (.sessionLifecycle (.draining session (.finish confirmed)))
      (DrainSession.finish s session confirmed).next.sessions := by
  unfold DrainSession.finish
  cases confirmed with
  | true =>
    rw [if_pos rfl]
    split
    · exact .refl s _
    · rename_i sm heq
      simp only [Effect.ret, Scheduler.releaseSessionFreeze_sessions]
      obtain ⟨r, ⟨-, -, rfl⟩ | ⟨hc, hu⟩⟩ := SessionManager.markClosed_ok heq
      · exact .refl s _
      · exact .moved session r _ (.finishClosed hc) hu
  | false =>
    rw [if_neg nofun]
    split
    · exact .refl s _
    · rename_i sm heq
      obtain ⟨r, hc, hu⟩ := SessionManager.markBlocked_ok heq
      exact .moved session r _ (.finishBlocked hc) hu

lemma register {a : SessionArgs} {α : Type} {k : Ctl α Unit} (hco : Registers a co) :
    Touch s co (RegisterSession.begin s v a k).next.sessions := by
  unfold RegisterSession.begin
  split
  · exact .refl s _
  · split
    · exact .refl s _
    · rename_i queue sm heq
      simp only [ensureSessionWorker_sessions]
      exact .create a hco _ _ heq

lemma heartbeat {e : Effect Unit Unit} (h : HeartbeatSession.step s session inp = some e) :
    Touch s (.heartbeatSession session) e.next.sessions := by
  unfold HeartbeatSession.step at h
  split at h
  · split at h <;> rename_i heq <;> cases h
    · exact .refl s _
    · obtain ⟨r, hp, hu⟩ := SessionManager.heartbeat_ok heq
      exact .moved session r _ (.heartbeat hp) hu
  · cases h

lemma close {reason : String} {deadline : Option Time} :
    Touch s (.closeSession session reason deadline .begin)
      (CloseSession.begin s v session reason).next.sessions := by
  unfold CloseSession.begin
  split
  · exact .refl s _
  · split
    · exact .refl s _
    · split
      · exact .refl s _
      · rename_i sm heq
        simp only [ensureSessionWorker_sessions]
        obtain ⟨r, ⟨-, -, rfl⟩ | ⟨hc, hu⟩⟩ := SessionManager.beginDrain_ok heq
        · exact .refl s _
        · exact .moved session r _ (.close hc) hu

lemma drainAll (sessions : List SessionId) (s : Scheduler) :
    SessionManager.Drained s.sessions (sessions.foldl Shutdown.drainOne s).sessions := by
  induction sessions generalizing s with
  | nil => exact .refl
  | cons session sessions ih =>
    have hone : SessionManager.Drained s.sessions (Shutdown.drainOne s session).sessions := by
      unfold Shutdown.drainOne
      split
      · exact .refl
      · rename_i sm heq
        rw [Scheduler.releaseSessionFreeze_sessions]
        obtain ⟨r, ⟨-, -, rfl⟩ | ⟨hc, hu⟩⟩ := SessionManager.beginDrain_ok heq
        · exact .refl
        · exact .single ⟨session, r, _, _, hc, hu⟩
    exact hone.trans (ih _)

lemma beginShutdown {deadline : Time} :
    Touch s (.shutdown deadline .begin) (Shutdown.begin s).next.sessions :=
  .shutdown deadline rfl (drainAll _ { s with shuttingDown := true, queue := s.queue.clear })

lemma lifecycle {pc : SessionLifecycle.Pc} {e : Effect SessionLifecycle.Pc Unit}
    (h : SessionLifecycle.step s v pc inp = some e) :
    Touch s (.sessionLifecycle pc) e.next.sessions := by
  have hw := (SessionLifecycle.step_turn h).within
  unfold SessionLifecycle.step at h
  split at h
  · exact of_within hw rfl
  · exact of_within hw rfl
  · exact of_within hw rfl
  · exact of_within hw rfl
  · obtain ⟨e', he', rfl⟩ := Option.map_eq_some_iff.mp h
    unfold ExpireSession.step at he'
    split at he' <;> cases he'
    · exact expire
    · exact .refl s _
  · obtain ⟨e', he', rfl⟩ := Option.map_eq_some_iff.mp h
    unfold PrepareSession.step at he'
    split at he'
    · exact of_within hw rfl
    · exact of_within hw rfl
    · cases he'; exact yielding
    · exact of_within hw rfl
    · exact of_within hw (PreloadOne.footprint_sessions _)
    · cases he'; exact blocking
    · cases he'; exact activate
    · exact of_within hw rfl
    · cases he'; exact closeLate
    · cases he'
  · obtain ⟨e', he', rfl⟩ := Option.map_eq_some_iff.mp h
    unfold DrainSession.step at he'
    split at he'
    · exact of_within hw rfl
    · exact of_within hw rfl
    · exact of_within hw rfl
    · cases he'; exact finish _
    · cases he'
  · exact of_within hw rfl
  · cases h

end Touch

/-- **What a step does to the sessions.** -/
theorem Co.step_touch {s : Scheduler} {v : TaskView} {inp : Input} {co : Co} {e : Effect Co Value}
    (h : co.step s v inp = some e) : Touch s co e.next.sessions := by
  have hw := Co.step_within h
  cases co with
  | sessionLifecycle pc =>
    obtain ⟨e', he', rfl⟩ := Option.map_eq_some_iff.mp h
    exact .lifecycle he'
  | shutdown deadline pc =>
    cases pc with
    | begin =>
      obtain ⟨e', he', rfl⟩ := Option.map_eq_some_iff.mp h
      cases inp <;> cases he'
      exact .beginShutdown
    | _ => exact .of_within hw rfl
  | registerSession a =>
    obtain ⟨e', he', rfl⟩ := Option.map_eq_some_iff.mp h
    cases inp <;> cases he'
    exact .register .register
  | openSession a deadline pc =>
    cases pc with
    | register =>
      obtain ⟨e', he', rfl⟩ := Option.map_eq_some_iff.mp h
      cases inp <;> cases he'
      exact .register .openSession
    | _ => exact .of_within hw rfl
  | heartbeatSession session =>
    obtain ⟨e', he', rfl⟩ := Option.map_eq_some_iff.mp h
    exact .heartbeat he'
  | closeSession session reason deadline pc =>
    cases pc with
    | begin =>
      obtain ⟨e', he', rfl⟩ := Option.map_eq_some_iff.mp h
      cases inp <;> cases he'
      exact .close
    | _ => exact .of_within hw rfl
  | acquire c pc => cases pc <;> exact .of_within hw rfl
  | warm m deadline pc | preload deadline pc =>
    exact .of_within hw (PreloadOne.footprint_sessions _)
  | storageRecovered deadline pc =>
    cases pc with
    | preloading pc => exact .of_within hw (PreloadOne.footprint_sessions _)
    | _ => exact .of_within hw rfl
  | _ => exact .of_within hw rfl

/-! ### Consequences -/

namespace SessionManager

variable {sm sm' sm'' : SessionManager}

/-- A record stays on file and keeps its model. -/
def Keeps (sm sm' : SessionManager) : Prop :=
  ∀ session r, sm.records.get? session = some r →
    ∃ r', sm'.records.get? session = some r' ∧ r'.modelId = r.modelId

/-- No session is closed or activated: a record keeps its phase or is drained, and a new one waits
or is drained. -/
def Mild (sm sm' : SessionManager) : Prop :=
  Keeps sm sm' ∧ ∀ session r', sm'.records.get? session = some r' →
    (sm.records.get? session = none ∧ (r'.phase = .preparing ∨ r'.phase = .draining)) ∨
      ∃ r, sm.records.get? session = some r ∧
        (r'.phase = r.phase ∨ (r'.phase = .draining ∧ r.phase ≠ .closed))

lemma Keeps.trans (h : Keeps sm sm') (h' : Keeps sm' sm'') : Keeps sm sm'' := by
  intro session r hr
  obtain ⟨r₁, hr₁, hm₁⟩ := h session r hr
  obtain ⟨r₂, hr₂, hm₂⟩ := h' session r₁ hr₁
  exact ⟨r₂, hr₂, hm₂.trans hm₁⟩

lemma Keeps.of_records (h : sm'.records = sm.records) : Keeps sm sm' :=
  fun session r hr => ⟨r, by rw [h]; exact hr, rfl⟩

lemma Mild.of_records (h : sm'.records = sm.records) : Mild sm sm' :=
  ⟨.of_records h,
    fun session r hr => .inr ⟨r, by rw [← h]; exact hr, .inl rfl⟩⟩

lemma Mild.trans (h : Mild sm sm') (h' : Mild sm' sm'') : Mild sm sm'' := by
  refine ⟨h.1.trans h'.1, ?_⟩
  intro session r₂ hr₂
  rcases h'.2 session r₂ hr₂ with ⟨hnone, hp⟩ | ⟨r₁, hr₁, hp⟩
  · refine .inl ⟨?_, hp⟩
    rw [Option.eq_none_iff_forall_ne_some]
    intro r hr
    obtain ⟨r₁, hr₁, -⟩ := h.1 session r hr
    rw [hnone] at hr₁
    cases hr₁
  · rcases h.2 session r₁ hr₁ with ⟨hnone, hp₁⟩ | ⟨r, hr, hp₁⟩
    · rcases hp with hp | ⟨hp, -⟩
      · exact .inl ⟨hnone, hp ▸ hp₁⟩
      · exact .inl ⟨hnone, .inr hp⟩
    · refine .inr ⟨r, hr, ?_⟩
      rcases hp with hp | ⟨hp, hc⟩
      · exact hp ▸ hp₁
      · rcases hp₁ with hp₁ | ⟨-, hc₁⟩
        · exact .inr ⟨hp, hp₁ ▸ hc⟩
        · exact .inr ⟨hp, hc₁⟩

lemma Update.keeps {r r' : SessionRecord} (h : Update sm sm' session r r') : Keeps sm sm' := by
  intro u x hx
  rw [h.records, Dict.get?_set]
  split_ifs with heq
  · rw [heq, h.get] at hx
    cases hx
    exact ⟨r', rfl, h.modelId⟩
  · exact ⟨x, hx, rfl⟩

lemma Update.mild {r r' : SessionRecord} (h : Update sm sm' session r r')
    (hp : r'.phase = r.phase ∨ (r'.phase = .draining ∧ r.phase ≠ .closed)) : Mild sm sm' := by
  refine ⟨h.keeps, ?_⟩
  intro u x hx
  rw [h.records, Dict.get?_set] at hx
  split_ifs at hx with heq
  · cases hx
    exact .inr ⟨r, heq ▸ h.get, hp⟩
  · exact .inr ⟨x, hx, .inl rfl⟩

lemma create_mild {model : ModelId} {client : String} {now : Time} {queue queue' : RequestQueue}
    {priority : ℤ} {hardSeconds : Option ℚ}
    (h : sm.create session model client now queue priority hardSeconds = (queue', .ok sm')) :
    Mild sm sm' := by
  obtain ⟨record, hnone, hrec, -, -, hphase, -, -, -, -⟩ := create_ok h
  constructor
  · intro u x hx
    have hne : u ≠ session := by
      rintro rfl
      rw [hnone] at hx
      cases hx
    exact ⟨x, by rw [hrec, Dict.get?_set_ne _ _ hne]; exact hx, rfl⟩
  · intro u x hx
    rw [hrec, Dict.get?_set] at hx
    split_ifs at hx with heq
    · cases hx
      exact .inl ⟨heq ▸ hnone, .inl hphase⟩
    · exact .inr ⟨x, hx, .inl rfl⟩

lemma Drained.mild (h : Drained sm sm') : Mild sm sm' := by
  induction h with
  | refl => exact .of_records rfl
  | tail _ hs ih =>
    obtain ⟨session, r, now, reason, hc, hu⟩ := hs
    exact ih.trans (hu.mild (.inr ⟨rfl, hc⟩))

lemma Drained.inv (h : Drained sm sm') (hinv : sm.Inv) : sm'.Inv := by
  induction h with
  | refl => exact hinv
  | tail _ hs ih =>
    obtain ⟨session, r, now, reason, hc, hu⟩ := hs
    exact hu.inv ih

/-- What is mild keeps a session in any set of phases that draining does not leave. -/
lemma Mild.phase (h : Mild sm sm') {P : Phase → Prop} (hP : ∀ p, P p → p ≠ .closed → P .draining)
    (hr : ∃ r, sm.records.get? session = some r ∧ P r.phase) :
    ∃ r, sm'.records.get? session = some r ∧ P r.phase := by
  obtain ⟨r, hr, hp⟩ := hr
  obtain ⟨r', hr', -⟩ := h.1 session r hr
  refine ⟨r', hr', ?_⟩
  rcases h.2 session r' hr' with ⟨hnone, -⟩ | ⟨r₀, hr₀, hphase⟩
  · rw [hnone] at hr
    cases hr
  · cases hr.symm.trans hr₀
    rcases hphase with hsame | ⟨hdrain, hc⟩
    · rw [hsame]
      exact hp
    · rw [hdrain]
      exact hP _ hp hc

/-- What is mild makes no session `ACTIVE`. -/
lemma Mild.noActive (h : Mild sm sm') (hno : sm.NoActive) : sm'.NoActive := by
  intro session r' hr'
  rcases h.2 session r' hr' with ⟨-, hp | hp⟩ | ⟨r, hr, hp | ⟨hp, -⟩⟩
  · simp [hp]
  · simp [hp]
  · rw [hp]
    exact hno session r hr
  · simp [hp]

end SessionManager

namespace Touch

variable {s : Scheduler} {co : Co} {sm' : SessionManager}

lemma inv (h : Touch s co sm') (hinv : s.sessions.Inv) : sm'.Inv := by
  cases h with
  | same hr ha hp => exact hinv.congr hr ha hp
  | create a hco queue queue' h => exact SessionManager.create_inv h hinv
  | moved session r r' hm hu => exact hu.inv hinv
  | shutdown deadline hco h => exact h.inv hinv

lemma keeps (h : Touch s co sm') : SessionManager.Keeps s.sessions sm' := by
  cases h with
  | same hr ha hp => exact (SessionManager.Mild.of_records hr).1
  | create a hco queue queue' h => exact (SessionManager.create_mild h).1
  | moved session r r' hm hu => exact hu.keeps
  | shutdown deadline hco h => exact h.mild.1

/-- Every task but the session worker is mild with the sessions. -/
lemma mild (h : Touch s co sm') (hco : ∀ pc, co ≠ .sessionLifecycle pc) :
    SessionManager.Mild s.sessions sm' := by
  cases h with
  | same hr ha hp => exact .of_records hr
  | create a hco queue queue' h => exact SessionManager.create_mild h
  | shutdown deadline hco h => exact h.mild
  | moved session r r' hm hu =>
    cases hm with
    | heartbeat h => exact hu.mild (.inl rfl)
    | close h => exact hu.mild (.inr ⟨rfl, h⟩)
    | _ => exact absurd rfl (hco _)

/-- A record is new, keeps its phase, is drained, or makes one of the listed moves. -/
lemma origin (h : Touch s co sm') {r' : SessionRecord} (hr' : sm'.records.get? session = some r') :
    (s.sessions.records.get? session = none ∧ (r'.phase = .preparing ∨ r'.phase = .draining)) ∨
      ∃ r, s.sessions.records.get? session = some r ∧
        (r'.phase = r.phase ∨ r'.phase = .draining ∨ RecordMove s co session r r') := by
  have hmild : SessionManager.Mild s.sessions sm' →
      (s.sessions.records.get? session = none ∧ (r'.phase = .preparing ∨ r'.phase = .draining)) ∨
        ∃ r, s.sessions.records.get? session = some r ∧
          (r'.phase = r.phase ∨ r'.phase = .draining ∨ RecordMove s co session r r') := by
    intro hm
    rcases hm.2 session r' hr' with hnew | ⟨r, hr, hp | ⟨hp, -⟩⟩
    · exact .inl hnew
    · exact .inr ⟨r, hr, .inl hp⟩
    · exact .inr ⟨r, hr, .inr (.inl hp)⟩
  cases h with
  | same hrec ha hp => exact hmild (.of_records hrec)
  | create a hco queue queue' h => exact hmild (SessionManager.create_mild h)
  | shutdown deadline hco h => exact hmild h.mild
  | moved u r₀ r₁ hm hu =>
    by_cases heq : session = u
    · subst heq
      cases hr'.symm.trans hu.get_new
      exact .inr ⟨r₀, hu.get, .inr (.inr hm)⟩
    · rw [hu.records, Dict.get?_set_ne _ _ heq] at hr'
      exact .inr ⟨r', hr', .inl rfl⟩

/-- A record on file keeps its phase, is drained, or makes one of the listed moves. -/
lemma move (h : Touch s co sm') {r r' : SessionRecord}
    (hr : s.sessions.records.get? session = some r) (hr' : sm'.records.get? session = some r') :
    r'.phase = r.phase ∨ r'.phase = .draining ∨ RecordMove s co session r r' := by
  rcases h.origin hr' with ⟨hnone, -⟩ | ⟨r₀, hr₀, hp⟩
  · rw [hnone] at hr
    cases hr
  · cases hr.symm.trans hr₀
    exact hp

/-- Only the worker's activation makes a session `ACTIVE`. -/
lemma activated (h : Touch s co sm') {r' : SessionRecord} (hr' : sm'.records.get? session = some r')
    (hact : r'.phase = .active)
    (hbefore : ∀ r, s.sessions.records.get? session = some r → r.phase ≠ .active) :
    co = .sessionLifecycle (.preparing session .activate) := by
  rcases h.origin hr' with ⟨-, hp | hp⟩ | ⟨r, hr, hp | hp | hm⟩
  · cases hp.symm.trans hact
  · cases hp.symm.trans hact
  · exact absurd (hp.symm.trans hact) (hbefore r hr)
  · cases hp.symm.trans hact
  · cases hm with
    | heartbeat h => exact absurd hact (hbefore r hr)
    | yield h => cases h.symm.trans hact
    | activate h => rfl
    | _ => cases hact

end Touch

end ModelSwitch

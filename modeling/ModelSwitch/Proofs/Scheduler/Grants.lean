import ModelSwitch.Proofs.Scheduler.Worker

/-!
# Leases of sessions

`acquire` checks its session once, when it files the waiter, and the grant may come many turns
later. The session is live at the grant if it stays live while its request waits.
-/

namespace ModelSwitch

/-! ### Live sessions -/

namespace SessionManager

variable {sm sm' : SessionManager} {session : SessionId} {now : Time}

lemma isLive_congr (h : sm'.records.get? session = sm.records.get? session) :
    sm'.isLive session now = sm.isLive session now := by
  simp only [isLive, h]

lemma not_isLive_of_le {now' : Time} (h : sm.isLive session now = false) (hle : now ≤ now') :
    sm.isLive session now' = false := by
  rw [← Bool.not_eq_true, isLive_iff] at h ⊢
  rintro ⟨r, hr, hact, hexp⟩
  exact h ⟨r, hr, hact, lt_of_le_of_lt hle hexp⟩

/-- Draining makes no session live. -/
lemma Drained.isLive (h : Drained sm sm') (hlive : sm'.isLive session now = true) :
    sm.isLive session now = true := by
  induction h with
  | refl => exact hlive
  | tail _ hs ih =>
    obtain ⟨u, r, _, _, -, hu⟩ := hs
    apply ih
    by_cases heq : session = u
    · subst heq
      obtain ⟨r', hr', hact, -⟩ := isLive_iff.mp hlive
      cases hr'.symm.trans hu.get_new
      cases hact
    · exact (isLive_congr (by rw [hu.records, Dict.get?_set_ne _ _ heq])).symm.trans hlive

end SessionManager

/-- A heartbeat renews a live session. -/
lemma SessionRecord.lt_expiresAt_heartbeat {r : SessionRecord} {now : Time}
    (httl : 0 < r.ttlSeconds) (hlive : now < r.expiresAt) :
    now < ({ r with heartbeatAt := some now } : SessionRecord).expiresAt := by
  simp only [expiresAt, activity, Option.getD_some, lt_min_iff] at hlive ⊢
  exact ⟨hlive.1, by linarith⟩

namespace Touch

variable {s : Scheduler} {co : Co} {sm' : SessionManager} {session : SessionId}

/-- A live session stays live unless it is closed, the scheduler shuts down, or the worker
expires it. -/
lemma isLive (h : Touch s co sm') (hinv : s.sessions.Inv)
    (hlive : s.sessions.isLive session s.now = true)
    (hclose : ∀ reason deadline, co ≠ .closeSession session reason deadline .begin)
    (hshut : ∀ deadline, co ≠ .shutdown deadline .begin)
    (hworker : ∀ pc, co = .sessionLifecycle pc → SessionLifecycle.Expects s.sessions pc)
    (hexpire : co ≠ .sessionLifecycle (.expiring session .begin)) :
    sm'.isLive session s.now = true := by
  obtain ⟨r, hr, hact, hexp⟩ := SessionManager.isLive_iff.mp hlive
  have hother : sm'.records.get? session = s.sessions.records.get? session →
      sm'.isLive session s.now = true := by
    intro heq
    rw [SessionManager.isLive_congr heq]
    exact hlive
  cases h with
  | same hrec ha hp => exact hother (by rw [hrec])
  | create a hco queue queue' h =>
    obtain ⟨r', hnone, hrec, -⟩ := SessionManager.create_ok h
    apply hother
    rw [hrec, Dict.get?_set_ne]
    rintro rfl
    rw [hnone] at hr
    cases hr
  | shutdown deadline hco h => exact absurd hco (hshut deadline)
  | moved u r₀ r₁ hm hu =>
    by_cases heq : session = u
    · subst heq
      cases hr.symm.trans hu.get
      -- the moves of the worker are made in other phases
      cases hm with
      | heartbeat h =>
        refine SessionManager.isLive_iff.mpr ⟨_, hu.get_new, hact, ?_⟩
        exact SessionRecord.lt_expiresAt_heartbeat (hinv.ttl session r hr) hexp
      | close h => exact absurd rfl (hclose _ _)
      | expireWaiting h => cases h.symm.trans hact
      | expire h hc => exact absurd rfl hexpire
      | yield h | activate h => cases h.symm.trans hact
      | block h | closeLate h =>
        obtain ⟨-, r₀, hr₀, hp⟩ := hworker _ rfl
        cases hr.symm.trans hr₀
        rcases hp with hp | hp <;> cases hp.symm.trans hact
      | finishClosed h | finishBlocked h =>
        obtain ⟨r₀, hr₀, hp⟩ := hworker _ rfl
        cases hr.symm.trans hr₀
        rcases hp with hp | hp <;> cases hp.symm.trans hact
    · exact hother (by rw [hu.records, Dict.get?_set_ne _ _ heq])

/-- Only the worker makes a session live. -/
lemma isLive_of_isLive (h : Touch s co sm') (hco : ∀ pc, co ≠ .sessionLifecycle pc)
    (hlive : sm'.isLive session s.now = true) : s.sessions.isLive session s.now = true := by
  cases h with
  | same hrec ha hp => exact (SessionManager.isLive_congr (by rw [hrec])).symm.trans hlive
  | shutdown deadline hco h => exact h.isLive hlive
  | create a hreg queue queue' h =>
    obtain ⟨r', -, hrec, -, -, hphase, -⟩ := SessionManager.create_ok h
    by_cases heq : session = a.sessionId
    · subst heq
      obtain ⟨r, hr, hact, -⟩ := SessionManager.isLive_iff.mp hlive
      rw [hrec, Dict.get?_set_self] at hr
      cases hr
      cases hphase.symm.trans hact
    · exact (SessionManager.isLive_congr (by rw [hrec, Dict.get?_set_ne _ _ heq])).symm.trans hlive
  | moved u r₀ r₁ hm hu =>
    by_cases heq : session = u
    · subst heq
      obtain ⟨r, hr, hact, -⟩ := SessionManager.isLive_iff.mp hlive
      cases hr.symm.trans hu.get_new
      cases hm with
      | heartbeat h =>
        rcases h with h | ⟨h, hexp⟩
        · cases h.symm.trans hact
        · exact SessionManager.isLive_iff.mpr ⟨r₀, hu.get, h, hexp⟩
      | close h => cases hact
      | _ => exact absurd rfl (hco _)
    · refine (SessionManager.isLive_congr ?_).symm.trans hlive
      rw [hu.records, Dict.get?_set_ne _ _ heq]

end Touch

namespace SessionLifecycle

variable {s : Scheduler} {session : SessionId}

lemma enact_expiring {plan : Option SessionPlan} {pc : ExpireSession.Pc}
    (h : enact plan = .expiring session pc) : plan = some (.expire session) := by
  rcases plan with _ | ⟨_ | _ | _ | _⟩ <;> cases h
  rfl

/-- The plan expires a session that is not live. -/
lemma plan_not_live (hinv : s.sessions.Inv)
    (h : (nextSessionPlan s).2 = some (.expire session)) :
    s.sessions.isLive session s.now = false := by
  simp only [nextSessionPlan] at h
  split at h
  · rename_i r rest heq
    cases h
    obtain ⟨⟨u, hu⟩, hp⟩ := SessionManager.mem_expired (heq ▸ List.mem_cons_self)
    rw [← Bool.not_eq_true, SessionManager.isLive_iff, hinv.sessionId u r hu]
    rintro ⟨r', hr', hact, hexp⟩
    cases hu.symm.trans hr'
    rcases hp with hp | ⟨-, hp⟩
    · cases hp.symm.trans hact
    · exact absurd hexp (not_lt.mpr hp)
  · split at h
    · cases h
    · split at h
      · cases h
      · obtain ⟨_, -, heq⟩ := Option.map_eq_some_iff.mp h
        cases heq

end SessionLifecycle

/-! ### Requests that wait -/

/-- `acquire` has filed its waiter and has not decided yet. -/
def Acquire.Pc.undecided : Acquire.Pc → Bool
  | .enter | .closing _ => false
  | _ => true

namespace Acquire

variable {s : Scheduler} {v : TaskView} {inp : Input} {c : AcquireCall}

/-- A request that waits was let in at the door, or waited before. -/
lemma step_undecided {pc pc' : Pc} {e : Effect Pc Lease} (h : step s v c pc inp = some e)
    (hc : e.ctl = .goto pc') :
    (pc = .enter ∧ refusal s c = none) ∨ pc.undecided = true := by
  cases pc with
  | enter =>
    cases inp <;> cases h
    refine .inl ⟨rfl, ?_⟩
    simp only [enter] at hc
    split at hc
    · cases hc
    · assumption
  | closing out =>
    cases inp <;> cases h
    cases hc
  | _ => exact .inr rfl

lemma grant_cases (sample : MemorySample) (admitted : Bool) :
    (∃ x, grant s c sample admitted = (s.book, .error x)) ∨
    ∃ book lease, grant s c sample admitted = (book, .ok lease) ∧
      lease.requestId = c.requestId ∧
      ∀ m k l, book.Held m k l → s.book.Held m k l ∨ l = lease := by
  simp only [grant]
  split_ifs
  · exact .inl ⟨_, rfl⟩
  · exact s.book.acquireReady_cases c.modelId c.requestId s.now

lemma granted_book (book : Book) (lease : Lease) : (granted s c book lease).book = book := by
  simp only [granted]
  split <;> rfl

/-- The decision for the head of the queue adds the lease it goes on to return, or none. -/
lemma decideHead_grants (sample : MemorySample) (admitted : Bool) {m : ModelId} {k : Uuid}
    {l : Lease} (hnew : (decideHead s c sample admitted).next.book.Held m k l)
    (hold : ¬ s.book.Held m k l) :
    l.requestId = c.requestId ∧
      (decideHead s c sample admitted).ctl = .goto (.closing (.ok l)) := by
  rcases grant_cases (s := s) (c := c) sample admitted with ⟨x, heq⟩ | ⟨book, lease, heq, hr, hheld⟩
  · refine absurd ?_ hold
    simp only [decideHead, heq] at hnew
    split at hnew
    · cases ‹_ = (_, Except.ok _)›
    · rename_i heq'
      cases heq'
      split_ifs at hnew <;> exact hnew
    · rename_i heq'
      cases heq'
      exact hnew
  · simp only [decideHead, heq, Effect.goto, granted_book] at hnew ⊢
    obtain rfl := (hheld m k l hnew).resolve_left hold
    exact ⟨hr, rfl⟩

/-- A lease is added to the book by the grant decision, which goes on to return it, and not while
the scheduler shuts down. -/
lemma step_grants {pc : Pc} {e : Effect Pc Lease} {m : ModelId} {k : Uuid} {l : Lease}
    (h : step s v c pc inp = some e) (hnew : e.next.book.Held m k l)
    (hold : ¬ s.book.Held m k l) :
    (∃ sample admitted, pc = .decide sample admitted) ∧ s.shuttingDown = false ∧
      l.requestId = c.requestId ∧ e.ctl = .goto (.closing (.ok l)) := by
  have hw := (step_turn h).within
  have hno : ∀ {fp : Footprint} {s' : Scheduler}, Within fp s s' → fp.grant = false →
      ¬ s'.book.Held m k l := by
    intro fp s' hw hfp hheld
    refine hold (hw.path.held (fun edge hallowed hgrant => ?_) hheld)
    have := hallowed.2 hgrant
    simp [hfp] at this
  cases pc with
  | decide sample admitted =>
    refine ⟨⟨sample, admitted, rfl⟩, ?_⟩
    cases inp <;> cases h
    have hexp : Within {} s s.expireSwitchIntent :=
      (s.expireSwitchIntent_turn (by decide) : Turn v [.unblock] _ _ _ _).within
    rw [← hexp.shutdown rfl]
    have hold' := hno hexp rfl
    simp only [Acquire.decide] at hnew ⊢
    split_ifs at hnew with hdown hstorage hlate hhead
    · exact absurd hnew hold'
    · exact absurd hnew hold'
    · exact absurd hnew hold'
    · rw [if_neg hdown, if_neg hstorage, if_neg hlate, if_pos hhead]
      exact ⟨by simpa using hdown, decideHead_grants sample admitted hnew hold'⟩
    · exact absurd hnew hold'
  | _ => exact absurd hnew (hno hw rfl)

/-- The door lets in requests of live sessions. -/
lemma isLive_of_refusal {session : SessionId} (hc : c.sessionId = some session)
    (h : refusal s c = none) : s.sessions.isLive session s.now = true := by
  simp only [refusal, hc] at h
  split at h
  · cases h
  · split at h
    · cases h
    · simp only [sessionRefusal] at h
      split at h
      · cases h
      · split at h
        · cases h
        · split at h
          · cases h
          · rename_i hlive
            simpa using hlive

end Acquire

namespace System

variable {w w' : System} {a : Act} {t : TaskId} {inp : Input} {ok : System → Act → Prop}

/-- The sessions whose requests wait for a grant. -/
def waitingSessions (w : System) : List SessionId :=
  w.tasks.values.filterMap fun
    | .running _ (.acquire c pc) => if pc.undecided then c.sessionId else none
    | _ => none

lemma mem_waitingSessions {c : AcquireCall} {pc : Acquire.Pc} {session : SessionId}
    (hs : w.Suspended t (.acquire c pc)) (hpc : pc.undecided = true)
    (hc : c.sessionId = some session) : session ∈ w.waitingSessions := by
  obtain ⟨started, ht⟩ := hs
  refine List.mem_filterMap.mpr ⟨_, Dict.mem_values_iff.mpr ⟨t, ht⟩, ?_⟩
  simp [hpc, hc]

/-- No session is closed, and none runs out, while one of its requests waits. -/
def sessionsOutlive (w : System) : Act → Bool
  | .tick d => w.waitingSessions.all fun session =>
      w.sched.shuttingDown || w.sched.sessions.isLive session (w.sched.now + d)
  | .resume t _ =>
    match w.tasks.get? t with
    | some (.running true (.closeSession session _ _ .begin)) =>
      w.sched.shuttingDown || !w.waitingSessions.contains session
    | _ => true
  | _ => true

/-- The session that the worker is about to expire is not live. -/
lemma Reach.expiring_not_live (h : Reach ok w) :
    AllTasks (fun s _ co => ∀ session, co = .sessionLifecycle (.expiring session .begin) →
      s.sessions.isLive session s.now = false) w := by
  refine h.invariant (fun w hw => allTasks_starts hw) ?_
  intro w a w' hreach hall _ hw
  refine hall.step hw ?_ ?_ ?_ ?_ ?_ ?_
  · intro d t co _ hd _ hK session hco
    exact SessionManager.not_isLive_of_le (hK session hco) (by simpa using hd)
  · rintro c co - hc session rfl
    exact (ApiCall.start_lifecycle hc).elim
  · rintro t inp co e co' - ht he hK hc session rfl
    obtain ⟨pc, e', rfl, he', hgoto, rfl⟩ := Co.step_lifecycle he hc
    rcases SessionLifecycle.step_goto he' hgoto with ⟨-, hplan, hsame⟩ | ⟨_, _, _, -, hp, -⟩ |
      ⟨_, _, _, -, hp, -⟩ | hfree
    · have hnow := (Co.step_within he).now
      rw [hnow]
      change e'.next.sessions.isLive session w.sched.now = false
      rw [hsame]
      exact SessionLifecycle.plan_not_live hreach.sessions_inv
        (SessionLifecycle.enact_expiring hplan.symm)
    · cases hp
    · cases hp
    · cases hfree
  · rintro t inp co e sp - - - - session hsp
    cases sp <;> cases hsp
  · rintro t inp co e t' co' - ht he hne hs hK session rfl
    have hother : ∀ pc, co ≠ .sessionLifecycle pc := by
      rintro pc rfl
      exact hne (hreach.worker_unique hs ⟨true, ht⟩)
    have hnow := (Co.step_within he).now
    rw [← Bool.not_eq_true, hnow]
    intro hlive
    have hold := (Co.step_touch he).isLive_of_isLive hother hlive
    rw [hK session rfl] at hold
    cases hold
  · rintro t co co' - ht hK hc session rfl
    obtain ⟨pc, rfl, hthrow⟩ := Co.throw_lifecycle hc
    rcases SessionLifecycle.throw_goto hthrow with ⟨_, _, _, -, hp⟩ | hfree
    · cases hp
    · cases hfree

/-- In a run in which sessions outlive their requests, a request that waits belongs to a live
session. -/
theorem Reach.waiting_live (h : Reach (fun w a => sessionsOutlive w a = true) w) :
    AllTasks (fun s _ co => ∀ c pc session, co = .acquire c pc → pc.undecided = true →
      c.sessionId = some session →
      s.shuttingDown = true ∨ s.sessions.isLive session s.now = true) w := by
  refine h.invariant (fun w hw => allTasks_starts hw) ?_
  intro w a w' hreach hall hok hw
  refine hall.step hw ?_ ?_ ?_ ?_ ?_ ?_
  · rintro d t co rfl hd hs hK c pc session rfl hpc hc
    simp only [sessionsOutlive, List.all_eq_true, Bool.or_eq_true] at hok
    exact hok session (mem_waitingSessions hs hpc hc)
  · rintro c co - hstart c' pc session rfl hpc
    obtain ⟨-, rfl⟩ := ApiCall.start_acquire hstart
    cases hpc
  · rintro t inp co e co' - ht he hK hgoto c pc' session rfl hpc hc
    obtain ⟨pc, e', rfl, he', hgoto', rfl⟩ := Co.step_acquire he hgoto
    -- `acquire` itself leaves the sessions alone
    have hw := (Acquire.step_turn he').within
    have hsame : e'.next.sessions.isLive session e'.next.now =
        w.sched.sessions.isLive session w.sched.now := by
      rw [hw.now]
      exact SessionManager.isLive_congr (by rw [(hw.sessions (by cases pc <;> rfl)).1])
    change e'.next.shuttingDown = true ∨ e'.next.sessions.isLive session e'.next.now = true
    rw [hsame, hw.shutdown (by cases pc <;> rfl)]
    rcases Acquire.step_undecided he' hgoto' with ⟨rfl, hdoor⟩ | hold
    · exact .inr (Acquire.isLive_of_refusal hc hdoor)
    · exact hK c pc session rfl hold hc
  · rintro t inp co e sp - - - - c pc session hsp
    cases sp <;> cases hsp
  · rintro t inp co e t' co' rfl ht he hne hs hK c pc session rfl hpc hc
    rcases Co.step_shuttingDown he with ⟨hshut, -⟩ | ⟨hshut, hco⟩
    · exact .inl hshut
    rw [hshut, (Co.step_within he).now]
    rcases hK c pc session rfl hpc hc with hdown | hlive
    · exact .inl hdown
    by_cases hdown : w.sched.shuttingDown = true
    · exact .inl hdown
    refine .inr ((Co.step_touch he).isLive hreach.sessions_inv hlive ?_ hco ?_ ?_)
    · rintro reason deadline rfl
      have hnot : session ∉ w.waitingSessions := by
        simpa [sessionsOutlive, ht, hdown] using hok
      exact hnot (mem_waitingSessions hs hpc hc)
    · rintro pc rfl
      exact hreach.expected t _ ⟨true, ht⟩ pc rfl
    · rintro rfl
      rw [hreach.expiring_not_live t _ ⟨true, ht⟩ session rfl] at hlive
      cases hlive
  · rintro t co co' - ht hK hthrow c pc' session rfl hpc
    obtain ⟨pc, rfl, hthrow'⟩ := Co.throw_acquire hthrow
    cases pc <;> cases hthrow' <;> cases hpc

/-- A step of `acquire` that adds a lease to the book adds it for a live session, and that session
is the one that is `ACTIVE`. -/
theorem lease_granted_to_live_session {c : AcquireCall} {pc : Acquire.Pc} {session : SessionId}
    {m : ModelId} {k : Uuid} {l : Lease}
    (hreach : Reach (fun w a => sessionsOutlive w a = true) w)
    (ht : w.tasks.get? t = some (.running true (.acquire c pc))) (hc : c.sessionId = some session)
    (hstep : w.step (.resume t inp) = some w')
    (hnew : w'.sched.book.Held m k l) (hold : ¬ w.sched.book.Held m k l) :
    w'.sched.sessions.isLive session w'.sched.now = true ∧
      ∀ u r, w'.sched.sessions.records.get? u = some r → r.phase = .active → u = session := by
  obtain ⟨e, he, rfl⟩ := step_resume hstep ht
  obtain ⟨e', he', rfl⟩ := Option.map_eq_some_iff.mp he
  rw [commit_sched] at hnew ⊢
  have hw := (Acquire.step_turn he').within
  have hrec := (hw.sessions (by cases pc <;> rfl)).1
  obtain ⟨⟨sample, admitted, rfl⟩, hup, -⟩ := Acquire.step_grants he' hnew hold
  have hlive : w.sched.sessions.isLive session w.sched.now = true :=
    (hreach.waiting_live t _ ⟨true, ht⟩ c _ session rfl rfl hc).resolve_left (by simp [hup])
  constructor
  · change e'.next.sessions.isLive session e'.next.now = true
    rw [hw.now]
    exact (SessionManager.isLive_congr (by rw [hrec])).trans hlive
  · intro u r hr hact
    change e'.next.sessions.records.get? u = some r at hr
    rw [hrec] at hr
    obtain ⟨r', hr', hact', -⟩ := SessionManager.isLive_iff.mp hlive
    have hu := (hreach.sessions_inv.active u).mpr ⟨r, hr, hact⟩
    have hs := (hreach.sessions_inv.active session).mpr ⟨r', hr', hact'⟩
    exact Option.some.inj (hu.symm.trans hs)

/-- A request for "chat" through session "A". -/
def chatRequest (request : RequestId) : AcquireCall :=
  { modelId := "chat", requestId := request, deadline := 60, sessionId := some "A" }

/-- The first request of session "A" is granted while "A" is live. -/
theorem lease_granted_to_live_session_chat :
    ∃ (w w' : System) (k : Uuid) (l : Lease), w.step (go 3) = some w' ∧
      ¬ w.sched.book.Held "chat" k l ∧ w'.sched.book.Held "chat" k l ∧
      w'.sched.sessions.isLive "A" w'.sched.now = true := by
  obtain ⟨w, w', hreach, hstep, ht, hold, hnew⟩ := exists_step_under sessionsOutlive
    (activateChat ++
      [.call (.acquire (chatRequest "r")), go 3, .resume 3 plenty, .resume 3 (.guard (.ok true))])
    (a := go 3)
    (P := fun w w' => w.tasks.get? 3 =
        some (.running true (.acquire (chatRequest "r") (.decide ⟨4000, 4000, 0⟩ true))) ∧
      (w.sched.book.runtimeOf "chat").hasLeases = false ∧
      (w'.sched.book.runtimeOf "chat").hasLeases = true) (by decide +kernel)
  obtain ⟨k, l, hheld⟩ := Book.held_of_hasLeases hnew
  have hnot := Book.not_held_of_hasLeases hold k l
  exact ⟨w, w', k, l, hstep, hnot, hheld,
    (lease_granted_to_live_session hreach ht rfl hstep hheld hnot).1⟩

/-- Two requests of session "A" wait for the one slot of "chat". The first is granted, "A" is
closed, the first lease is released, and the second request is granted although "A" is draining. -/
theorem lease_granted_to_draining_session :
    ∃ w w', Reach (fun _ _ => True) w ∧ w.step (go 4) = some w' ∧
      w.tasks.get? 4 =
        some (.running true (.acquire (chatRequest "q") (.decide ⟨4000, 4000, 0⟩ true))) ∧
      w.phaseOf "A" = some .draining ∧ (w.sched.book.runtimeOf "chat").hasLeases = false ∧
      (w'.sched.book.runtimeOf "chat").hasLeases = true ∧
      w'.sched.sessions.isLive "A" w'.sched.now = false :=
  exists_step (activateChat ++
    [.call (.acquire (chatRequest "r")), .call (.acquire (chatRequest "q")), go 3, go 4,
     .resume 3 plenty, .resume 3 (.guard (.ok true)), go 3, go 3,
     .call (.closeSession "A" "client_close" none), go 5,
     .call (.release { lease := ⟨1, "r", "chat", 1⟩, outcome := .success }), go 6,
     .resume 4 plenty, .resume 4 (.guard (.ok true))]) (by decide +kernel)

end System

end ModelSwitch

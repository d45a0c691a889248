import ModelSwitch.Proofs.Scheduler.Worker

/-!
# Activation and the deadlines of a session

A session that waits has until the earliest of its wait, preparation and hard deadline. The worker
looks at the clock when it picks the session and when `_preload_one` goes to sleep, and not when it
finds the model `READY` or marks the session `ACTIVE`. The session becomes `ACTIVE` in time if the
worker finds the model `READY` in time and is not held up before the mark.
-/

namespace ModelSwitch

/-- The moment from which on the session must not become `ACTIVE`. -/
def SessionRecord.dueAt (r : SessionRecord) : Time := min r.preparationExpiredAt r.hardDeadline

lemma SessionRecord.lt_dueAt_iff {r : SessionRecord} {now : Time} : now < r.dueAt ↔
    now < r.waitDeadline ∧ now < r.prepareDeadline ∧ now < r.hardDeadline := by
  simp only [dueAt, preparationExpiredAt, lt_min_iff, and_assoc]

lemma RecordMove.dueAt {s : Scheduler} {co : Co} {session : SessionId} {r r' : SessionRecord}
    (h : RecordMove s co session r r') : r'.dueAt = r.dueAt := by
  cases h <;> rfl

/-- A record keeps its deadlines. -/
def SessionManager.KeepsDue (sm sm' : SessionManager) : Prop :=
  ∀ session r, sm.records.get? session = some r →
    ∃ r', sm'.records.get? session = some r' ∧ r'.dueAt = r.dueAt

namespace SessionManager

variable {sm sm' : SessionManager}

lemma KeepsDue.of_records (h : sm'.records = sm.records) : KeepsDue sm sm' :=
  fun _ r hr => ⟨r, h ▸ hr, rfl⟩

lemma Update.keepsDue {session : SessionId} {r r' : SessionRecord}
    (h : Update sm sm' session r r') (hdue : r'.dueAt = r.dueAt) : KeepsDue sm sm' := by
  intro u x hx
  rw [h.records, Dict.get?_set]
  split_ifs with heq
  · rw [heq, h.get] at hx
    cases hx
    exact ⟨r', rfl, hdue⟩
  · exact ⟨x, hx, rfl⟩

lemma Drained.keepsDue (h : Drained sm sm') : KeepsDue sm sm' := by
  induction h with
  | refl => exact .of_records rfl
  | tail _ hs ih =>
    obtain ⟨u, r, _, _, -, hu⟩ := hs
    intro session x hx
    obtain ⟨x₁, hx₁, hdue₁⟩ := ih session x hx
    obtain ⟨x₂, hx₂, hdue₂⟩ := hu.keepsDue rfl session x₁ hx₁
    exact ⟨x₂, hx₂, hdue₂.trans hdue₁⟩

end SessionManager

lemma Touch.keepsDue {s : Scheduler} {co : Co} {sm' : SessionManager} (h : Touch s co sm') :
    SessionManager.KeepsDue s.sessions sm' := by
  cases h with
  | same hr ha hp => exact .of_records hr
  | moved session r r' hm hu => exact hu.keepsDue hm.dueAt
  | shutdown deadline hco h => exact h.keepsDue
  | create a hco queue queue' h =>
    obtain ⟨record, hnone, hrec, -⟩ := SessionManager.create_ok h
    intro u x hx
    have hne : u ≠ a.sessionId := by
      rintro rfl
      rw [hnone] at hx
      cases hx
    exact ⟨x, by rw [hrec, Dict.get?_set_ne _ _ hne]; exact hx, rfl⟩

/-- `_preload_one` returns when it finds the model `READY` after its own load, or after it has
witnessed the runtime. -/
lemma PreloadOne.step_ret {s : Scheduler} {v : TaskView} {inp : Input} {m : ModelId}
    {deadline : Time} {pc : Pc} {e : Effect Pc Unit} (h : step s v m deadline pc inp = some e)
    (hc : e.ctl = .ret ()) :
    (∃ lh, pc = .check lh ∧ (s.book.runtimeOf m).state = .ready) ∨ ∃ lh p, pc = .verify lh p := by
  cases pc with
  | check lh =>
    cases inp <;> cases h
    simp only [check] at hc
    split at hc
    · cases hc
    · split at hc
      · exact .inl ⟨lh, rfl, ‹_›⟩
      · split at hc <;> cases hc
      · cases hc
  | verify lh p => exact .inr ⟨lh, p, rfl⟩
  | reclaimFailed lh p =>
    obtain ⟨⟨s', sp, ctl⟩, he', rfl⟩ := Option.map_eq_some_iff.mp h
    rcases ctl with p' | (x | ⟨⟨⟩⟩) <;> cases hc
  | snapshot lh =>
    cases inp with
    | snapshot r => cases r <;> cases h <;> cases hc
    | _ => cases h
  | admission lh sample =>
    cases inp <;> cases h
    cases hc
  | load lh sample admitted =>
    cases inp <;> cases h
    simp only [load] at hc
    split at hc
    · split at hc
      · split at hc <;> cases hc
      · generalize ReclaimPhantomResidents.start s m = ctl at hc
        rcases ctl with p' | (x | ⟨_ | _⟩) <;> cases hc
    · cases hc
  | phantom lh sample p =>
    obtain ⟨⟨s', sp, ctl⟩, he', rfl⟩ := Option.map_eq_some_iff.mp h
    rcases ctl with p' | (x | ⟨_ | _⟩) <;> cases hc
  | evict lh sample =>
    cases inp <;> cases h
    simp only [evict] at hc
    split at hc
    · split at hc
      · cases hc
      · cases hc
      · split at hc <;> cases hc
    · cases hc
  | sleep lh =>
    cases inp <;> cases h
    simp only [sleep] at hc
    split at hc <;> cases hc
  | asleep lh wake =>
    cases inp <;> simp only [step] at h
    all_goals try (cases h; done)
    · cases h
      cases hc
    · split_ifs at h <;> cases h <;> cases hc

namespace System

variable {w w' : System} {a : Act}

/-- The deadlines of `session`, if it is on file, lie ahead of `now`. -/
def inTime (w : System) (session : SessionId) (now : Time) : Bool :=
  (w.sched.sessions.records.get? session).all fun r => now < r.dueAt

/-- The steps under which a session becomes `ACTIVE` in time. When `_preload_one` finds the model of
the session `READY` or witnesses its runtime, the deadlines of the session lie ahead, and the clock
does not pass them while the worker waits for the lock to mark the session. -/
def foundInTime (w : System) : Act → Bool
  | .tick d =>
    match w.workerPc with
    | some (.preparing session .activate) => w.inTime session (w.sched.now + d)
    | _ => true
  | .resume t _ =>
    match w.tasks.get? t with
    | some (.running true (.sessionLifecycle (.preparing session (.preloading m _ pc)))) =>
      match pc with
      | .check _ => w.stateOf m ≠ .ready || w.inTime session w.sched.now
      | .verify _ _ => w.inTime session w.sched.now
      | _ => true
    | _ => true
  | _ => true

/-- What the worker knows of the clock when it is about to mark the session. -/
def Timely (w : System) : SessionLifecycle.Pc → Prop
  | .preparing session .activate =>
    ∃ r, w.sched.sessions.records.get? session = some r ∧ w.sched.now < r.dueAt
  | _ => True

lemma timely_of_ne {pc : SessionLifecycle.Pc} (h : ∀ session, pc ≠ .preparing session .activate) :
    w.Timely pc := by
  cases pc with
  | preparing session p =>
    cases p with
    | activate => exact absurd rfl (h session)
    | _ => trivial
  | _ => trivial

lemma Timely.keepsDue {pc : SessionLifecycle.Pc} (h : w.Timely pc)
    (hk : SessionManager.KeepsDue w.sched.sessions w'.sched.sessions)
    (hnow : w'.sched.now = w.sched.now) : w'.Timely pc := by
  cases pc with
  | preparing session p =>
    cases p with
    | activate =>
      obtain ⟨r, hr, hlt⟩ := h
      obtain ⟨r', hr', hdue⟩ := hk session r hr
      exact ⟨r', hr', by rw [hnow, hdue]; exact hlt⟩
    | _ => trivial
  | _ => trivial

lemma foundInTime_preload {t : TaskId} {inp : Input} {session : SessionId} {m : ModelId}
    {deadline : Time} {q : PreloadOne.Pc} {e : Effect PreloadOne.Pc Unit}
    (hok : foundInTime w (.resume t inp) = true)
    (ht : w.tasks.get? t = some (.running true
      (.sessionLifecycle (.preparing session (.preloading m deadline q)))))
    (he : PreloadOne.step w.sched w.view m deadline q inp = some e) (hc : e.ctl = .ret ()) :
    w.inTime session w.sched.now = true := by
  rcases PreloadOne.step_ret he hc with ⟨lh, rfl, hready⟩ | ⟨lh, p, rfl⟩
  · simp only [foundInTime, ht] at hok
    simpa [stateOf, hready] using hok
  · simpa only [foundInTime, ht] using hok

/-- The worker that is about to mark a session is in time. -/
theorem Reach.timely (h : Reach (fun w a => foundInTime w a = true) w) :
    ∀ t pc, w.Suspended t (.sessionLifecycle pc) → w.Timely pc := by
  refine h.worker_fact (K := fun w pc => w.Timely pc) (fun _ => trivial) ?_ ?_ ?_
  · intro w w' t inp pc e pc' hreach hok hw ht he hc hw' hK
    by_cases hact : ∃ session, pc' = .preparing session .activate
    · obtain ⟨session, rfl⟩ := hact
      rcases SessionLifecycle.step_goto he hc with ⟨-, hplan, -⟩ | ⟨u, p, p', rfl, heq, hrec⟩ |
        ⟨u, p, p', -, heq, -⟩ | hfree
      · generalize (SessionLifecycle.nextSessionPlan w.sched).2 = plan at hplan
        rcases plan with _ | ⟨_ | _ | _ | _⟩ <;> cases hplan
      · cases heq
        obtain ⟨⟨s', sp, ctl⟩, he', rfl⟩ := Option.map_eq_some_iff.mp he
        rcases Ctl.bind_goto hc with ⟨p₁, hp₁, hwrap⟩ | ⟨r, -, hr⟩
        · cases hwrap
          cases hp₁
          have hexp := hreach.expected t _ ⟨true, ht⟩ _ rfl
          obtain ⟨-, r, hr, -⟩ := hexp
          cases PrepareSession.step_goes he' with
          | preloaded m deadline q e he'' hc' =>
            have hin := foundInTime_preload hok ht he'' hc'
            have hlt : w.sched.now < r.dueAt := by simpa [inTime, hr] using hin
            have hnow : w'.sched.now = w.sched.now := by
              rw [hw', commit_sched]
              exact (PreloadOne.step_turn he'').within.now
            refine ⟨r, ?_, by rw [hnow]; exact hlt⟩
            rw [hw', commit_sched]
            exact hrec ▸ hr
        · cases SessionLifecycle.stepped_free hr
      · cases heq
      · cases hfree
    · exact timely_of_ne fun session heq => hact ⟨session, heq⟩
  · intro w w' t pc pc' _ _ hs hthrow hK
    refine timely_of_ne ?_
    rintro session rfl
    rcases SessionLifecycle.throw_goto hthrow with ⟨u, p, p', rfl, heq⟩ | hfree
    · cases heq
      rcases Ctl.bind_goto hthrow with ⟨p₁, hp₁, hwrap⟩ | ⟨r, -, hr⟩
      · cases hwrap
        rcases PrepareSession.throw_goto hp₁ with ⟨m, deadline, q, q', -, heq, -⟩ | heq <;>
          cases heq
      · cases SessionLifecycle.stepped_free hr
    · cases hfree
  · intro w w' a t pc hreach hok hw hs hK
    cases hw with
    | tick d hd =>
      have hpc := hreach.workerPc_eq hs
      by_cases hact : ∃ session, pc = .preparing session .activate
      · obtain ⟨session, rfl⟩ := hact
        obtain ⟨r, hr, -⟩ := hK
        refine ⟨r, hr, ?_⟩
        simp only [foundInTime, hpc] at hok
        simpa [inTime, hr] using hok
      · exact timely_of_ne fun session heq => hact ⟨session, heq⟩
    | resume t' inp co e ht he =>
      exact hK.keepsDue (by rw [commit_sched]; exact (Co.step_touch he).keepsDue)
        (by rw [commit_sched]; exact (Co.step_within he).now)
    | _ => exact hK.keepsDue (.of_records rfl) rfl

/-- At the step that makes a session `ACTIVE`, whichever task takes it, the clock is strictly before
the wait deadline, the preparation deadline and the hard deadline of the session. -/
theorem session_activated_in_time {session : SessionId} {r' : SessionRecord}
    (hreach : Reach (fun w a => foundInTime w a = true) w) (hstep : w.step a = some w')
    (hbefore : w.phaseOf session ≠ some .active)
    (hr' : w'.sched.sessions.records.get? session = some r') (hact : r'.phase = .active) :
    w'.sched.now < r'.waitDeadline ∧ w'.sched.now < r'.prepareDeadline ∧
      w'.sched.now < r'.hardDeadline := by
  have hinactive : ∀ r, w.sched.sessions.records.get? session = some r → r.phase ≠ .active := by
    intro r hr hp
    exact hbefore (by simp [phaseOf, hr, hp])
  cases took_of_step hstep with
  | resume t inp co e ht he =>
    rw [commit_sched] at hr' ⊢
    have htouch := Co.step_touch he
    cases htouch.activated hr' hact hinactive
    obtain ⟨r, hr, hlt⟩ := hreach.timely t _ ⟨true, ht⟩
    obtain ⟨r₁, hr₁, hdue⟩ := htouch.keepsDue session r hr
    cases hr'.symm.trans hr₁
    rw [(Co.step_within he).now, ← SessionRecord.lt_dueAt_iff, hdue]
    exact hlt
  | _ => exact absurd hact (hinactive _ hr')

/-- Session "A" becomes `ACTIVE` a second after it was registered. -/
theorem session_activated_in_time_chat :
    ∃ (w w' : System) (r' : SessionRecord), w.step (go 1) = some w' ∧
      w.phaseOf "A" = some .preparing ∧ w'.sched.sessions.records.get? "A" = some r' ∧
      r'.phase = .active ∧ w'.sched.now = 1 ∧ w'.sched.now < r'.waitDeadline ∧
      w'.sched.now < r'.prepareDeadline ∧ w'.sched.now < r'.hardDeadline := by
  obtain ⟨w, w', hreach, hstep, hphase, hphase', hnow⟩ := exists_step_under foundInTime
    (.call (.registerSession { modelId := "chat", clientId := "alice", sessionId := "A" }) ::
      go 0 :: .tick 1 :: (activateChat.drop 2).dropLast) (a := go 1)
    (P := fun w w' => w.phaseOf "A" = some .preparing ∧ w'.phaseOf "A" = some .active ∧
      w'.sched.now = 1) (by decide +kernel)
  obtain ⟨r', hr', hact⟩ := Option.map_eq_some_iff.mp hphase'
  refine ⟨w, w', r', hstep, hphase, hr', hact, hnow, ?_⟩
  exact session_activated_in_time hreach hstep (by simp [hphase]) hr' hact

/-- Session "A" may live for two seconds. A client holds a lease on "chat" until the third second,
so the worker waits in its drain window; then it finds "chat" `READY` and marks "A" `ACTIVE`, a
second after all its deadlines. -/
theorem session_activated_late :
    ∃ w w', Reach (fun _ _ => True) w ∧ w.step (go 3) = some w' ∧
      w.phaseOf "A" = some .preparing ∧ w'.phaseOf "A" = some .active ∧
      (w'.sched.sessions.records.get? "A").any (fun r => r.waitDeadline < w'.sched.now &&
        r.prepareDeadline < w'.sched.now && r.hardDeadline < w'.sched.now) = true :=
  exists_step
    [.call (.acquire { modelId := "chat", requestId := "r", deadline := 60 }), go 0,
     .resume 0 plenty, .resume 0 (.guard (.ok true)), go 0, go 0,
     go 1, .resume 1 (.backend (.ok ⟨.running, true, none⟩)), go 1, go 1,
     .resume 0 plenty, .resume 0 (.guard (.ok true)), go 0, go 0,
     .call (.registerSession { modelId := "chat", clientId := "alice", sessionId := "A",
                               hardDeadlineSeconds := some 2 }), go 2, go 3, go 3, go 3, go 3,
     .tick 1, .resume 3 .timeout, go 3, .tick 1, .resume 3 .timeout, go 3, .tick 1,
     .call (.release { lease := ⟨1, "r", "chat", 1⟩, outcome := .success }), go 4,
     go 3, go 3, go 3, go 3, .resume 3 (.witness (.ok ⟨.running, true, none⟩))]
    (by decide +kernel)

end System

end ModelSwitch

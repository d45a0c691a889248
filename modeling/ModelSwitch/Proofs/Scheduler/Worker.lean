import ModelSwitch.Proofs.Scheduler.Trace
import ModelSwitch.Proofs.Scheduler.SessionMoves

/-!
# The session worker along a run

Three facts that hold in every run: the manager names the one `ACTIVE` session, one task at most
runs the session lifecycle, and the phase of the session that task works on is the one its
coroutine expects. They are what serializes the sessions.
-/

namespace ModelSwitch

variable {s : Scheduler} {v : TaskView} {inp : Input}

/-! ### Coroutines keep their kind -/

lemma Ctl.lift_goto {α ρ : Type} {c : Ctl α ρ} {wrap : α → Co} {value : ρ → Value} {co : Co}
    (h : c.lift wrap value = .goto co) : ∃ pc, c = .goto pc ∧ co = wrap pc := by
  cases c with
  | goto pc =>
    cases h
    exact ⟨pc, rfl, rfl⟩
  | done r => cases h

lemma Ctl.bind_goto {α β ρ τ : Type} {c : Ctl α ρ} {wrap : α → β} {k : Except Exc ρ → Ctl β τ}
    {pc : β} (h : c.bind wrap k = .goto pc) :
    (∃ pc', c = .goto pc' ∧ pc = wrap pc') ∨ ∃ r, c = .done r ∧ k r = .goto pc := by
  cases c with
  | goto pc' =>
    cases h
    exact .inl ⟨pc', rfl, rfl⟩
  | done r => exact .inr ⟨r, rfl, h⟩

lemma Co.step_ctorIdx {co co' : Co} {e : Effect Co Value} (h : co.step s v inp = some e)
    (hc : e.ctl = .goto co') : co'.ctorIdx = co.ctorIdx := by
  cases co <;> obtain ⟨e', -, rfl⟩ := Option.map_eq_some_iff.mp h <;>
    obtain ⟨pc, -, rfl⟩ := Ctl.lift_goto hc <;> rfl

lemma Co.throw_ctorIdx {x : Exc} {co co' : Co} (h : co.throw s x = .goto co') :
    co'.ctorIdx = co.ctorIdx := by
  cases co <;> first
    | (obtain ⟨pc, -, rfl⟩ := Ctl.lift_goto h; rfl)
    | cases h

/-- A call starts no worker. -/
lemma ApiCall.start_lifecycle {c : ApiCall} {pc : SessionLifecycle.Pc}
    (h : c.start s = .goto (.sessionLifecycle pc)) : False := by
  cases c with
  | acquire c | recover | preload deadline =>
    obtain ⟨_, -, heq⟩ := Ctl.lift_goto h
    cases heq
  | warm m deadline =>
    simp only [ApiCall.start] at h
    split at h <;> cases h
  | _ => cases h

/-- A step of the worker, as a step of its lifecycle. -/
lemma Co.step_lifecycle {co : Co} {e : Effect Co Value} {pc' : SessionLifecycle.Pc}
    (h : co.step s v inp = some e) (hc : e.ctl = .goto (.sessionLifecycle pc')) :
    ∃ pc e', co = .sessionLifecycle pc ∧ SessionLifecycle.step s v pc inp = some e' ∧
      e'.ctl = .goto pc' ∧ e = e'.lift .sessionLifecycle .none := by
  have hidx := Co.step_ctorIdx h hc
  cases co <;> try (cases hidx; done)
  rename_i pc
  obtain ⟨e', he', rfl⟩ := Option.map_eq_some_iff.mp h
  obtain ⟨pc₁, hpc₁, heq⟩ := Ctl.lift_goto hc
  cases heq
  exact ⟨pc, e', rfl, he', hpc₁, rfl⟩

lemma Co.throw_lifecycle {x : Exc} {co : Co} {pc' : SessionLifecycle.Pc}
    (h : co.throw s x = .goto (.sessionLifecycle pc')) :
    ∃ pc, co = .sessionLifecycle pc ∧ SessionLifecycle.throw s x pc = .goto pc' := by
  have hidx := Co.throw_ctorIdx h
  cases co <;> try (cases hidx; done)
  rename_i pc
  obtain ⟨pc₁, hpc₁, heq⟩ := Ctl.lift_goto h
  cases heq
  exact ⟨pc, rfl, hpc₁⟩

/-- A step of `acquire`, as a step of its task. -/
lemma Co.step_acquire {co : Co} {e : Effect Co Value} {c : AcquireCall} {pc' : Acquire.Pc}
    (h : co.step s v inp = some e) (hc : e.ctl = .goto (.acquire c pc')) :
    ∃ pc e', co = .acquire c pc ∧ Acquire.step s v c pc inp = some e' ∧
      e'.ctl = .goto pc' ∧ e = e'.lift (.acquire c) .lease := by
  have hidx := Co.step_ctorIdx h hc
  cases co <;> try (cases hidx; done)
  rename_i c₀ pc
  obtain ⟨e', he', rfl⟩ := Option.map_eq_some_iff.mp h
  obtain ⟨pc₁, hpc₁, heq⟩ := Ctl.lift_goto hc
  cases heq
  exact ⟨pc, e', rfl, he', hpc₁, rfl⟩

lemma Co.throw_acquire {x : Exc} {co : Co} {c : AcquireCall} {pc' : Acquire.Pc}
    (h : co.throw s x = .goto (.acquire c pc')) :
    ∃ pc, co = .acquire c pc ∧ Acquire.throw x pc = .goto pc' := by
  have hidx := Co.throw_ctorIdx h
  cases co <;> try (cases hidx; done)
  rename_i c₀ pc
  obtain ⟨pc₁, hpc₁, heq⟩ := Ctl.lift_goto h
  cases heq
  exact ⟨pc, rfl, hpc₁⟩

lemma ApiCall.start_acquire {call : ApiCall} {c : AcquireCall} {pc : Acquire.Pc}
    (h : call.start s = .goto (.acquire c pc)) : call = .acquire c ∧ pc = .enter := by
  cases call with
  | acquire c₀ =>
    obtain ⟨pc₀, hpc, heq⟩ := Ctl.lift_goto h
    cases heq
    refine ⟨rfl, ?_⟩
    simp only [Acquire.start] at hpc
    split at hpc
    · cases hpc
    · split at hpc <;> cases hpc
      rfl
  | recover | preload deadline =>
    obtain ⟨_, -, heq⟩ := Ctl.lift_goto h
    cases heq
  | warm m deadline =>
    simp only [ApiCall.start] at h
    split at h <;> cases h
  | _ => cases h

/-! ### The worker's slot -/

/-- What a step that starts `sp` does to `_session_worker`. -/
inductive WorkerMove (v : TaskView) (s s' : Scheduler) (sp : Option Spawn) (co : Co) : Prop
  | same (h : s'.sessionWorker = s.sessionWorker)
  | started (hidle : v.idle s.sessionWorker = true) (h : s'.sessionWorker = some v.fresh)
      (hsp : sp = some .sessionLifecycle)
  | ended (out : Except Exc Unit) (hco : co = .sessionLifecycle (.closing out))
      (h : s'.sessionWorker = none)

lemma WorkerMove.of_eq {s s₀ s' : Scheduler} {sp : Option Spawn} {co : Co}
    (h : WorkerMove v s₀ s' sp co) (hs : s₀.sessionWorker = s.sessionWorker) :
    WorkerMove v s s' sp co := by
  cases h with
  | same h => exact .same (h.trans hs)
  | started hidle h hsp => exact .started (hs ▸ hidle) h hsp
  | ended out hco h => exact .ended out hco h

lemma ensureSessionWorker_move (s : Scheduler) (v : TaskView) (co : Co) :
    WorkerMove v s (s.ensureSessionWorker v).1 (s.ensureSessionWorker v).2 co := by
  unfold Scheduler.ensureSessionWorker
  split_ifs with hidle
  · exact .started hidle rfl rfl
  · exact .same rfl

lemma RegisterSession.begin_move {a : SessionArgs} {α : Type} (k : Ctl α Unit) (co : Co) :
    WorkerMove v s (begin s v a k).next (begin s v a k).spawn co := by
  unfold begin
  split
  · exact .same rfl
  · split
    · exact .same rfl
    · exact (ensureSessionWorker_move _ v co).of_eq rfl

lemma CloseSession.begin_move {session : SessionId} {reason : String} (co : Co) :
    WorkerMove v s (begin s v session reason).next (begin s v session reason).spawn co := by
  unfold begin
  split
  · exact .same rfl
  · split
    · exact .same rfl
    · split
      · exact .same rfl
      · exact (ensureSessionWorker_move _ v co).of_eq rfl

theorem Co.step_worker {s : Scheduler} {v : TaskView} {inp : Input} {co : Co}
    {e : Effect Co Value} (h : co.step s v inp = some e) : WorkerMove v s e.next e.spawn co := by
  have hw := Co.step_within h
  cases co with
  | sessionLifecycle pc =>
    cases pc with
    | closing out =>
      obtain ⟨e', he', rfl⟩ := Option.map_eq_some_iff.mp h
      cases inp <;> cases he'
      exact .ended out rfl rfl
    | preparing session pc =>
      cases pc with
      | preloading m deadline pc => exact .same (hw.worker (PreloadOne.footprint_worker _))
      | _ => exact .same (hw.worker rfl)
    | expiring session pc | draining session pc => cases pc <;> exact .same (hw.worker rfl)
    | _ => exact .same (hw.worker rfl)
  | registerSession a =>
    obtain ⟨e', he', rfl⟩ := Option.map_eq_some_iff.mp h
    cases inp <;> cases he'
    exact RegisterSession.begin_move _ _
  | openSession a deadline pc =>
    cases pc with
    | register =>
      obtain ⟨e', he', rfl⟩ := Option.map_eq_some_iff.mp h
      cases inp <;> cases he'
      exact RegisterSession.begin_move _ _
    | _ => exact .same (hw.worker rfl)
  | closeSession session reason deadline pc =>
    cases pc with
    | begin =>
      obtain ⟨e', he', rfl⟩ := Option.map_eq_some_iff.mp h
      cases inp <;> cases he'
      exact CloseSession.begin_move _
    | _ => exact .same (hw.worker rfl)
  | acquire c pc | shutdown deadline pc => cases pc <;> exact .same (hw.worker rfl)
  | warm m deadline pc | preload deadline pc =>
    exact .same (hw.worker (PreloadOne.footprint_worker _))
  | storageRecovered deadline pc =>
    cases pc with
    | preloading pc => exact .same (hw.worker (PreloadOne.footprint_worker _))
    | _ => exact .same (hw.worker rfl)
  | _ => exact .same (hw.worker rfl)

namespace System

variable {w w' : System} {a : Act} {ok : System → Act → Prop}

/-! ### The manager along a run -/

lemma Reach.sessions_inv (h : Reach ok w) : w.sched.sessions.Inv := by
  refine h.sched_invariant (J := fun s => s.sessions.Inv) ?_ (fun _ _ hI _ => hI) ?_
  · intro s hs
    obtain ⟨policy, hpos, heq⟩ := hs.sessions
    rw [heq]
    exact SessionManager.init_inv hpos
  · intro w t inp co e _ hI _ _ he
    exact (Co.step_touch he).inv hI

/-- No action takes a session off file or moves it to another model. -/
lemma Took.keeps (h : Took w a w') :
    SessionManager.Keeps w.sched.sessions w'.sched.sessions := by
  refine sched_step (J := fun s => SessionManager.Keeps w.sched.sessions s.sessions)
    (.of_records rfl) h (fun _ _ _ => .of_records rfl) ?_
  intro t inp co e _ _ he
  exact (Co.step_touch he).keeps

/-! ### One worker at most -/

lemma view_result_of_suspended {t : TaskId} {co : Co} (h : w.Suspended t co) :
    w.view.result t = none := by
  obtain ⟨started, ht⟩ := h
  simp [view, ht]

/-- The task that runs the session lifecycle is the one on file. -/
def OnFile (s : Scheduler) (t : TaskId) (co : Co) : Prop :=
  ∀ pc, co = .sessionLifecycle pc → s.sessionWorker = some t

lemma Reach.worker (h : Reach ok w) : AllTasks OnFile w := by
  refine h.invariant (fun w hw => allTasks_starts hw) ?_
  intro w a w' _ hall _ hw
  refine hall.step hw (fun _ _ _ _ _ _ hK => hK) ?_ ?_ ?_ ?_ ?_
  · rintro c co - hc pc rfl
    exact (ApiCall.start_lifecycle hc).elim
  · rintro t inp co e co' - ht he hK hc pc' rfl
    obtain ⟨pc, e', rfl, he', hgoto, -⟩ := Co.step_lifecycle he hc
    cases Co.step_worker he with
    | same h => exact h.trans (hK pc rfl)
    | started hidle h =>
      -- the worker itself is not done, so nobody starts another one
      rw [hK pc rfl] at hidle
      simp [TaskView.idle, view_result_of_suspended ⟨true, ht⟩] at hidle
    | ended out hco h =>
      cases hco
      cases inp <;> cases he'
      cases hgoto
  · rintro t inp co e sp - ht he hsp pc hpc
    cases sp <;> cases hpc
    cases Co.spawned_of_spawn he hsp with
    | worker hidle hw h => exact hw
  · rintro t inp co e t' co' - ht he hne hs hK pc' rfl
    cases Co.step_worker he with
    | same h => exact h.trans (hK pc' rfl)
    | started hidle h =>
      rw [hK pc' rfl] at hidle
      simp [TaskView.idle, view_result_of_suspended hs] at hidle
    | ended out hco h =>
      have ho := hall t co ⟨true, ht⟩ _ hco
      rw [hK pc' rfl] at ho
      exact absurd (Option.some.inj ho) hne
  · rintro t co co' - ht hK hc pc' rfl
    obtain ⟨pc, rfl, -⟩ := Co.throw_lifecycle hc
    exact hK pc rfl

/-- Two tasks that run the lifecycle are one. -/
lemma Reach.worker_unique (h : Reach ok w) {t t' : TaskId} {pc pc' : SessionLifecycle.Pc}
    (ht : w.Suspended t (.sessionLifecycle pc)) (ht' : w.Suspended t' (.sessionLifecycle pc')) :
    t = t' := by
  have h₁ := h.worker t _ ht pc rfl
  have h₂ := h.worker t' _ ht' pc' rfl
  exact Option.some.inj (h₁.symm.trans h₂)

end System

/-! ### The phase of the session in hand -/

/-- The only suspension inside an expiry is the hook. -/
lemma ExpireSession.step_goto {session : SessionId} {pc pc' : Pc} {e : Effect Pc Unit}
    (h : step s session pc inp = some e) (hc : e.ctl = .goto pc') : pc' = .hook := by
  simp only [step] at h
  split at h <;> cases h
  · simp only [begin] at hc
    split at hc
    · cases hc
    · split at hc
      · split at hc <;> cases hc
      · split at hc
        · cases hc
        · split at hc <;> cases hc
          rfl
  · cases hc

/-- An exception does not make a preload return. -/
lemma PreloadOne.throw_ne_ret {x : Exc} (pc : PreloadOne.Pc) : throw x pc ≠ .ret () := by
  intro h
  cases pc with
  | reclaimFailed lh p =>
    cases p with
    | begin => cases h
    | stopping p => cases p <;> cases h
  | _ => cases h

/-- Where `_prepare_session` goes on: the scheduler after the step, the task it started and the next
suspension. -/
inductive PrepareSession.Goes (s : Scheduler) (v : TaskView) (session : SessionId) (inp : Input) :
    Pc → Scheduler → Option Spawn → Pc → Prop
  | begin (r : SessionRecord) (hr : s.sessions.records.get? session = some r)
      (hp : r.phase = .preparing) :
      Goes s v session inp .begin { s with sessionFreeze := some session } none
        (.draining r.modelId r.preparationExpiredAt (s.now + s.sessions.policy.drainSeconds) .check)
  | draining (m : ModelId) (prepareDeadline drainDeadline : Time) (q q' : WaitPc)
      (e : Effect WaitPc Bool) (he : waitForLeasesToDrain s drainDeadline q inp = some e)
      (hc : e.ctl = .goto q') :
      Goes s v session inp (.draining m prepareDeadline drainDeadline q) e.next e.spawn
        (.draining m prepareDeadline drainDeadline q')
  | drained (m : ModelId) (prepareDeadline drainDeadline : Time) (q : WaitPc)
      (e : Effect WaitPc Bool) (he : waitForLeasesToDrain s drainDeadline q inp = some e)
      (hc : e.ctl = .ret true) :
      Goes s v session inp (.draining m prepareDeadline drainDeadline q) e.next e.spawn
        (.stopping m prepareDeadline
          (min prepareDeadline (s.now + s.sessions.policy.cleanupSeconds)) .list)
  | timedOut (m : ModelId) (prepareDeadline drainDeadline : Time) (q : WaitPc)
      (e : Effect WaitPc Bool) (he : waitForLeasesToDrain s drainDeadline q inp = some e)
      (hc : e.ctl = .ret false) :
      Goes s v session inp (.draining m prepareDeadline drainDeadline q) e.next e.spawn .yielding
  | stopping (m : ModelId) (prepareDeadline deadline : Time) (q q' : StopOtherModels.Pc)
      (e : Effect StopOtherModels.Pc Unit) (he : StopOtherModels.step s v m deadline q inp = some e)
      (hc : e.ctl = .goto q') :
      Goes s v session inp (.stopping m prepareDeadline deadline q) e.next e.spawn
        (.stopping m prepareDeadline deadline q')
  | stopped (m : ModelId) (prepareDeadline deadline : Time) (q : StopOtherModels.Pc)
      (e : Effect StopOtherModels.Pc Unit) (he : StopOtherModels.step s v m deadline q inp = some e)
      (hc : e.ctl = .ret ()) :
      Goes s v session inp (.stopping m prepareDeadline deadline q) e.next e.spawn
        (.preloading m (min prepareDeadline (s.now + s.sessions.policy.prepareSeconds))
          (.check false))
  | unstopped (m : ModelId) (prepareDeadline deadline : Time) (q : StopOtherModels.Pc) (x : Exc)
      (e : Effect StopOtherModels.Pc Unit) (he : StopOtherModels.step s v m deadline q inp = some e)
      (hc : e.ctl = .raise x) :
      Goes s v session inp (.stopping m prepareDeadline deadline q) e.next e.spawn .blocking
  | preloading (m : ModelId) (deadline : Time) (q q' : PreloadOne.Pc)
      (e : Effect PreloadOne.Pc Unit) (he : PreloadOne.step s v m deadline q inp = some e)
      (hc : e.ctl = .goto q') :
      Goes s v session inp (.preloading m deadline q) e.next e.spawn (.preloading m deadline q')
  | preloaded (m : ModelId) (deadline : Time) (q : PreloadOne.Pc)
      (e : Effect PreloadOne.Pc Unit) (he : PreloadOne.step s v m deadline q inp = some e)
      (hc : e.ctl = .ret ()) :
      Goes s v session inp (.preloading m deadline q) e.next e.spawn .activate
  | unloadable (m : ModelId) (deadline : Time) (q : PreloadOne.Pc) (x : Exc)
      (e : Effect PreloadOne.Pc Unit) (he : PreloadOne.step s v m deadline q inp = some e)
      (hc : e.ctl = .raise x) :
      Goes s v session inp (.preloading m deadline q) e.next e.spawn .blocking
  | late (r : SessionRecord) (hr : s.sessions.records.get? session = some r)
      (hp : r.phase ≠ .preparing) :
      Goes s v session inp .activate s none
        (.stoppingLate r.modelId (s.now + s.sessions.policy.stopGraceSeconds) .begin)
  | stoppingLate (m : ModelId) (deadline : Time) (q q' : StopModels.Pc)
      (e : Effect StopModels.Pc Bool) (he : StopModels.step s v [m] deadline q inp = some e)
      (hc : e.ctl = .goto q') :
      Goes s v session inp (.stoppingLate m deadline q) e.next e.spawn (.stoppingLate m deadline q')
  | stoppedLate (m : ModelId) (deadline : Time) (q : StopModels.Pc) (confirmed : Bool)
      (e : Effect StopModels.Pc Bool) (he : StopModels.step s v [m] deadline q inp = some e)
      (hc : e.ctl = .ret confirmed) :
      Goes s v session inp (.stoppingLate m deadline q) e.next e.spawn .closeLate

lemma PrepareSession.unconfirmed_goto {x : Exc} {pc : Pc} (h : unconfirmed x = .goto pc) :
    pc = .blocking := by
  cases x <;> cases h <;> rfl

lemma PrepareSession.step_goes {s s' : Scheduler} {session : SessionId} {pc pc' : Pc}
    {sp : Option Spawn} (h : step s v session pc inp = some ⟨s', sp, .goto pc'⟩) :
    Goes s v session inp pc s' sp pc' := by
  suffices hgoes : ∀ e, step s v session pc inp = some e → e.ctl = .goto pc' →
      Goes s v session inp pc e.next e.spawn pc' from hgoes _ h rfl
  clear h
  intro e h hc
  cases pc with
  | begin =>
    cases inp <;> cases h
    simp only [begin] at hc ⊢
    split at hc
    · cases hc
    · rename_i r hr
      split at hc <;> cases hc
      rename_i hp
      rw [if_neg hp]
      exact .begin r hr (not_not.mp hp)
  | draining m prepareDeadline drainDeadline q =>
    obtain ⟨e', he', rfl⟩ := Option.map_eq_some_iff.mp h
    rcases Ctl.bind_goto hc with ⟨q', hq, rfl⟩ | ⟨r, hr, hk⟩
    · exact .draining m _ _ q q' e' he' hq
    · rcases r with x | ⟨_ | _⟩ <;> cases hk
      · exact .timedOut m _ _ q e' he' hr
      · exact .drained m _ _ q e' he' hr
  | yielding =>
    cases inp <;> cases h
    simp only [yielding] at hc
    split at hc <;> cases hc
  | stopping m prepareDeadline deadline q =>
    obtain ⟨e', he', rfl⟩ := Option.map_eq_some_iff.mp h
    rcases Ctl.bind_goto hc with ⟨q', hq, rfl⟩ | ⟨r, hr, hk⟩
    · exact .stopping m _ _ q q' e' he' hq
    · rcases r with x | ⟨⟨⟩⟩
      · cases unconfirmed_goto hk
        exact .unstopped m _ _ q x e' he' hr
      · cases hk
        exact .stopped m _ _ q e' he' hr
  | preloading m deadline q =>
    obtain ⟨e', he', rfl⟩ := Option.map_eq_some_iff.mp h
    rcases Ctl.bind_goto hc with ⟨q', hq, rfl⟩ | ⟨r, hr, hk⟩
    · exact .preloading m _ q q' e' he' hq
    · rcases r with x | ⟨⟨⟩⟩
      · cases unconfirmed_goto hk
        exact .unloadable m _ q x e' he' hr
      · cases hk
        exact .preloaded m _ q e' he' hr
  | blocking =>
    cases inp <;> cases h
    simp only [blocking] at hc
    split at hc <;> cases hc
  | activate =>
    cases inp <;> cases h
    simp only [activate] at hc ⊢
    split at hc
    · cases hc
    · rename_i r hr
      split at hc
      · split at hc <;> cases hc
      · rename_i hp
        cases hc
        rw [if_neg hp]
        exact .late r hr hp
  | stoppingLate m deadline q =>
    obtain ⟨e', he', rfl⟩ := Option.map_eq_some_iff.mp h
    rcases Ctl.bind_goto hc with ⟨q', hq, rfl⟩ | ⟨r, hr, hk⟩
    · exact .stoppingLate m _ q q' e' he' hq
    · rcases r with x | b <;> cases hk
      exact .stoppedLate m _ q b e' he' hr
  | closeLate =>
    cases inp <;> cases h
    simp only [closeLate] at hc
    split at hc <;> cases hc

/-- Preparing moves the session only as its last action. -/
lemma PrepareSession.step_goto {session : SessionId} {pc pc' : Pc} {e : Effect Pc Unit}
    (h : step s v session pc inp = some e)
    (hc : e.ctl = .goto pc') : e.next.sessions.records = s.sessions.records := by
  have hw := (step_turn h).within
  obtain ⟨s', sp, ctl⟩ := e
  cases hc
  cases step_goes h with
  | preloading m deadline q | preloaded m deadline q | unloadable m deadline q =>
    exact (hw.sessions (PreloadOne.footprint_sessions q)).1
  | late r hr hp => rfl
  | _ => exact (hw.sessions rfl).1

/-- An exception that is delivered while a session is prepared is handled inside the preload, or it
blocks the session. -/
lemma PrepareSession.throw_goto {x : Exc} {pc pc' : Pc} (h : throw s x pc = .goto pc') :
    (∃ m deadline q q', pc = .preloading m deadline q ∧ pc' = .preloading m deadline q' ∧
      PreloadOne.throw x q = .goto q') ∨ pc' = .blocking := by
  cases pc with
  | preloading m deadline q =>
    rcases Ctl.bind_goto h with ⟨q', hq, rfl⟩ | ⟨r, hr, hk⟩
    · exact .inl ⟨m, deadline, q, q', rfl, rfl, hq⟩
    · rcases r with x | ⟨⟨⟩⟩
      · exact .inr (unconfirmed_goto hk)
      · exact absurd hr (PreloadOne.throw_ne_ret q)
  | stopping m prepareDeadline deadline q =>
    right
    cases q <;> exact unconfirmed_goto h
  | _ => cases h

/-- So does draining. -/
lemma DrainSession.step_goto {session : SessionId} {pc pc' : Pc} {e : Effect Pc Unit}
    (h : step s v session pc inp = some e)
    (hc : e.ctl = .goto pc') : e.next.sessions.records = s.sessions.records := by
  have hw := (step_turn h).within
  cases pc with
  | finish confirmed =>
    cases inp <;> cases h
    simp only [finish] at hc
    split_ifs at hc
    · split at hc <;> cases hc
    · split at hc <;> cases hc
  | _ => exact (hw.sessions rfl).1

namespace SessionLifecycle

/-- What the worker may rely on about the session it works on, whatever the other tasks do. A
session is prepared only while none is `ACTIVE`. -/
def Expects (sm : SessionManager) : Pc → Prop
  | .expiring session .begin => ∃ r, sm.records.get? session = some r ∧ r.phase ≠ .closed
  | .preparing session _ => sm.NoActive ∧
      ∃ r, sm.records.get? session = some r ∧ (r.phase = .preparing ∨ r.phase = .draining)
  | .draining session _ =>
      ∃ r, sm.records.get? session = some r ∧ (r.phase = .draining ∨ r.phase = .blocked)
  | _ => True

/-- The points where the worker has no session in hand. -/
def Free : Pc → Prop
  | .plan | .idle | .idling _ | .closing _ | .expiring _ .hook => True
  | _ => False

lemma Free.expects {pc : Pc} (h : Free pc) (sm : SessionManager) : Expects sm pc := by
  cases pc with
  | expiring session pc =>
    cases pc with
    | begin => cases h
    | hook => trivial
  | preparing session pc | draining session pc => cases h
  | _ => trivial

lemma stepped_free {r : Except Exc Unit} {pc : Pc} (h : stepped r = .goto pc) : Free pc := by
  rcases r with x | ⟨⟨⟩⟩ <;> cases h <;> trivial

lemma Expects.mild {sm sm' : SessionManager} {pc : Pc} (h : Expects sm pc)
    (hm : SessionManager.Mild sm sm') : Expects sm' pc := by
  cases pc with
  | expiring session pc =>
    cases pc with
    | begin => exact hm.phase (P := (· ≠ .closed)) (by simp) h
    | hook => trivial
  | preparing session pc =>
    refine ⟨hm.noActive h.1, ?_⟩
    exact hm.phase (P := fun p => p = .preparing ∨ p = .draining) (by simp) h.2
  | draining session pc =>
    exact hm.phase (P := fun p => p = .draining ∨ p = .blocked) (by simp) h
  | _ => trivial

/-- The plan is made from the records as they are. -/
lemma plan_expects (hinv : s.sessions.Inv) :
    Expects s.sessions (enact (nextSessionPlan s).2) := by
  have hget : ∀ {r : SessionRecord}, (∃ u, s.sessions.records.get? u = some r) →
      s.sessions.records.get? r.sessionId = some r := by
    rintro r ⟨u, hu⟩
    rw [hinv.sessionId u r hu]
    exact hu
  simp only [nextSessionPlan]
  split
  · rename_i r rest heq
    obtain ⟨hr, hp⟩ := SessionManager.mem_expired (heq ▸ List.mem_cons_self)
    refine ⟨r, hget hr, ?_⟩
    rcases hp with hp | hp <;> simp [hp]
  · split
    · rename_i r rest heq
      obtain ⟨hr, hp⟩ := SessionManager.mem_blockedDue (heq ▸ List.mem_cons_self)
      exact ⟨r, hget hr, .inr hp⟩
    · split
      · rename_i queue item heq
        obtain ⟨-, -, hc⟩ := RequestQueue.head_eq_some heq
        obtain ⟨⟨r, hr, hp⟩, hfree⟩ := SessionManager.candidate_isSome hc
        refine ⟨?_, r, hr, .inl hp⟩
        intro u r' hr' hact
        simpa [hact, Phase.holding] using hfree u r' hr'
      · cases hf : s.sessions.records.values.find? fun record => record.phase = .draining with
        | none => trivial
        | some r =>
          have hp := List.find?_some hf
          have hr := hget (Dict.mem_values_iff.mp (List.mem_of_find?_eq_some hf))
          exact ⟨r, hr, .inl (by simpa using hp)⟩

/-- Where the worker goes on: a fresh plan, the same coroutine over the same session with no
session moved, or a point where it has no session in hand. -/
lemma step_goto {pc pc' : Pc} {e : Effect Pc Unit} (h : step s v pc inp = some e)
    (hc : e.ctl = .goto pc') :
    (pc = .plan ∧ pc' = enact (nextSessionPlan s).2 ∧ e.next.sessions = s.sessions) ∨
    (∃ session p p', pc = .preparing session p ∧ pc' = .preparing session p' ∧
      e.next.sessions.records = s.sessions.records) ∨
    (∃ session p p', pc = .draining session p ∧ pc' = .draining session p' ∧
      e.next.sessions.records = s.sessions.records) ∨
    Free pc' := by
  cases pc with
  | plan =>
    cases inp <;> cases h
    cases hc
    exact .inl ⟨rfl, rfl, rfl⟩
  | idle =>
    cases inp <;> cases h
    cases hc
    refine .inr (.inr (.inr ?_))
    simp only [idle]
    split_ifs <;> trivial
  | idling wake =>
    refine .inr (.inr (.inr ?_))
    cases inp <;> simp only [step] at h
    all_goals try (cases h; done)
    · cases h
      cases hc
      trivial
    · split_ifs at h
      cases h
      cases hc
      trivial
  | expiring session p =>
    obtain ⟨e', he', rfl⟩ := Option.map_eq_some_iff.mp h
    refine .inr (.inr (.inr ?_))
    rcases Ctl.bind_goto hc with ⟨p', hp', rfl⟩ | ⟨r, -, hr⟩
    · cases ExpireSession.step_goto he' hp'
      trivial
    · exact stepped_free hr
  | preparing session p =>
    obtain ⟨e', he', rfl⟩ := Option.map_eq_some_iff.mp h
    rcases Ctl.bind_goto hc with ⟨p', hp', rfl⟩ | ⟨r, -, hr⟩
    · exact .inr (.inl ⟨session, p, p', rfl, rfl, PrepareSession.step_goto he' hp'⟩)
    · exact .inr (.inr (.inr (stepped_free hr)))
  | draining session p =>
    obtain ⟨e', he', rfl⟩ := Option.map_eq_some_iff.mp h
    rcases Ctl.bind_goto hc with ⟨p', hp', rfl⟩ | ⟨r, -, hr⟩
    · exact .inr (.inr (.inl ⟨session, p, p', rfl, rfl, DrainSession.step_goto he' hp'⟩))
    · exact .inr (.inr (.inr (stepped_free hr)))
  | closing out =>
    cases inp <;> cases h
    cases hc

lemma throw_goto {x : Exc} {pc pc' : Pc} (h : throw s x pc = .goto pc') :
    (∃ session p p', pc = .preparing session p ∧ pc' = .preparing session p') ∨
      Free pc' := by
  cases pc with
  | preparing session p =>
    rcases Ctl.bind_goto h with ⟨p', -, rfl⟩ | ⟨r, -, hr⟩
    · exact .inl ⟨session, p, p', rfl, rfl⟩
    · exact .inr (stepped_free hr)
  | expiring session p => exact .inr (stepped_free (r := .error x) h)
  | draining session p =>
    refine .inr (stepped_free (r := .error x) ?_)
    cases p <;> exact h
  | closing out => cases h
  | _ =>
    cases h
    exact .inr trivial

end SessionLifecycle

namespace System

variable {w w' : System} {a : Act} {ok : System → Act → Prop}

/-- The worker finds the session it works on in a phase it expects. -/
def Expected (s : Scheduler) (_ : TaskId) (co : Co) : Prop :=
  ∀ pc, co = .sessionLifecycle pc → SessionLifecycle.Expects s.sessions pc

lemma Reach.expected (h : Reach ok w) : AllTasks Expected w := by
  refine h.invariant (fun w hw => allTasks_starts hw) ?_
  intro w a w' hreach hall _ hw
  refine hall.step hw (fun _ _ _ _ _ _ hK => hK) ?_ ?_ ?_ ?_ ?_
  · rintro c co - hc pc rfl
    exact (ApiCall.start_lifecycle hc).elim
  · rintro t inp co e co' - ht he hK hc pc' rfl
    obtain ⟨pc, e', rfl, he', hgoto, rfl⟩ := Co.step_lifecycle he hc
    change SessionLifecycle.Expects e'.next.sessions pc'
    have hold := hK pc rfl
    rcases SessionLifecycle.step_goto he' hgoto with ⟨-, rfl, hsame⟩ |
      ⟨session, p, p', rfl, rfl, hsame⟩ | ⟨session, p, p', rfl, rfl, hsame⟩ | hfree
    · rw [hsame]
      exact SessionLifecycle.plan_expects hreach.sessions_inv
    · exact SessionLifecycle.Expects.mild hold (.of_records hsame)
    · exact SessionLifecycle.Expects.mild hold (.of_records hsame)
    · exact hfree.expects _
  · rintro t inp co e sp - - - - pc hpc
    cases sp <;> cases hpc
    trivial
  · rintro t inp co e t' co' - ht he hne hs hK pc' rfl
    -- another task is not the worker, and so it is mild with the sessions
    have hother : ∀ pc, co ≠ .sessionLifecycle pc := by
      rintro pc rfl
      exact hne (hreach.worker_unique hs ⟨true, ht⟩)
    exact (hK pc' rfl).mild ((Co.step_touch he).mild hother)
  · rintro t co co' - ht hK hc pc' rfl
    obtain ⟨pc, rfl, hthrow⟩ := Co.throw_lifecycle hc
    rcases SessionLifecycle.throw_goto hthrow with ⟨session, p, p', rfl, rfl⟩ | hfree
    · exact hK (.preparing session p) rfl
    · exact hfree.expects _

/-- The point the session worker is suspended at. -/
def workerPc (w : System) : Option SessionLifecycle.Pc :=
  match w.sched.sessionWorker with
  | none => none
  | some t =>
    match w.tasks.get? t with
    | some (.running _ (.sessionLifecycle pc)) => some pc
    | _ => none

lemma Reach.workerPc_eq (h : Reach ok w) {t : TaskId} {pc : SessionLifecycle.Pc}
    (ht : w.Suspended t (.sessionLifecycle pc)) : w.workerPc = some pc := by
  have hfile := h.worker t _ ht pc rfl
  obtain ⟨started, ht⟩ := ht
  simp [workerPc, hfile, ht]

/-- The rule for a fact about the point the session worker is suspended at: it holds of a new
worker, after the worker's own step and after an exception thrown into it, and the steps of the
other tasks keep it. -/
theorem Reach.worker_fact {K : System → SessionLifecycle.Pc → Prop} (h : Reach ok w)
    (plan : ∀ w, K w .plan)
    (self : ∀ {w w' t inp pc e pc'}, Reach ok w → ok w (.resume t inp) →
      Took w (.resume t inp) w' → w.tasks.get? t = some (.running true (.sessionLifecycle pc)) →
      SessionLifecycle.step w.sched w.view pc inp = some e → e.ctl = .goto pc' →
      w' = w.commit t (e.lift .sessionLifecycle .none) → K w pc → K w' pc')
    (throw : ∀ {w w' t pc pc'}, ok w (.cancel t) →
      w.tasks.get? (w.cancelTarget t) = some (.running true (.sessionLifecycle pc)) →
      w'.sched = w.sched →
      SessionLifecycle.throw w.sched .cancelledError pc = .goto pc' → K w pc → K w' pc')
    (stable : ∀ {w w' a t pc}, Reach ok w → ok w a → Took w a w' →
      w.Suspended t (.sessionLifecycle pc) → K w pc → K w' pc) :
    ∀ t pc, w.Suspended t (.sessionLifecycle pc) → K w pc := by
  have hall : ∀ t co, w.Suspended t co → ∀ pc, co = .sessionLifecycle pc → K w pc := by
    refine h.invariant
      (I := fun w => ∀ t co, w.Suspended t co → ∀ pc, co = .sessionLifecycle pc → K w pc)
      (fun w hw => ?_) ?_
    · intro t co hs
      exact (allTasks_starts (K := fun _ _ _ => False) hw t co hs).elim
    intro w a w' hreach hall hok hw
    refine suspended_step (K := fun w _ co => ∀ pc, co = .sessionLifecycle pc → K w pc) hall hw
      ?_ ?_ ?_ ?_ ?_
    · rintro c co - hc pc rfl
      exact (ApiCall.start_lifecycle hc).elim
    · rintro t inp co e co' rfl ht he hK hc pc' rfl
      obtain ⟨pc, e', rfl, he', hgoto, rfl⟩ := Co.step_lifecycle he hc
      exact self hreach hok hw ht he' hgoto (took_resume hw ht he) (hK pc rfl)
    · rintro t inp co e sp - - - - pc hpc
      cases sp <;> cases hpc
      exact plan _
    · rintro t co co' rfl ht hK hc pc' rfl
      obtain ⟨pc, rfl, hthrow⟩ := Co.throw_lifecycle hc
      refine throw hok ht ?_ hthrow (hK pc rfl)
      cases hw <;> rfl
    · rintro t co hs - - hK pc rfl
      exact stable hreach hok hw hs (hK pc rfl)
  exact fun t pc hs => hall t _ hs pc rfl

end System

end ModelSwitch

import ModelSwitch.Proofs.Scheduler.Worker

/-!
# Closing a session

What the worker does to the models when it drains a session. It stops the session's model without
looking at the other sessions, and it takes an answer of `_stop_models` for a proven stop that may
only say that there was nothing it could stop.
-/

namespace ModelSwitch

variable {s : Scheduler} {v : TaskView} {inp : Input}

/-! ### `_stop_models` -/

namespace StopModels

variable {models : List ModelId} {deadline : Time}

/-- The four ways `_stop_models` begins. -/
inductive Begins (s : Scheduler) (v : TaskView) (models : List ModelId) (deadline : Time) :
    Effect Pc Bool → Prop
  | joined (t : TaskId) (h : s.eviction = some t) :
      Begins s v models deadline (.goto s (.awaiting t true))
  | nothing (h : s.eviction = none) (ht : targets s models = []) :
      Begins s v models deadline (.ret s true)
  | refused (x : Exc) (h : s.eviction = none) (ht : targets s models ≠ [])
      (hb : s.book.beginCleanup (targets s models) = (s.book, .error x)) :
      Begins s v models deadline (.raise s x)
  | started (book : Book) (ops : List Operation) (h : s.eviction = none)
      (ht : targets s models ≠ []) (hb : s.book.beginCleanup (targets s models) = (book, .ok ops)) :
      Begins s v models deadline
        { next := { s with book := book, eviction := some v.fresh },
          spawn := some (.runEviction ops deadline), ctl := .goto (.awaiting v.fresh false) }

lemma begin_begins (s : Scheduler) (v : TaskView) (models : List ModelId) (deadline : Time) :
    Begins s v models deadline (begin s v models deadline) := by
  simp only [begin]
  split
  · exact .joined _ ‹_›
  · rename_i hfree
    split
    · exact .nothing hfree ‹_›
    · rename_i hne
      rcases Book.beginCleanup_cases s.book (targets s models) with ⟨x, heq⟩ | ⟨-, heq⟩
      · rw [heq]
        exact .refused x hfree (fun hnil => hne hnil) heq
      · rw [heq]
        exact .started _ _ hfree (fun hnil => hne hnil) heq

lemma mem_targets {m : ModelId} (h : m ∈ targets s models) :
    m ∈ models ∧ s.book.stoppable m = true := List.mem_filter.mp h

end StopModels

/-! ### The book under the worker -/

/-- The worker touches the book only while it prepares a session or begins a stop for one it
drains. -/
lemma SessionLifecycle.step_book {pc : SessionLifecycle.Pc} {e : Effect SessionLifecycle.Pc Unit}
    (h : step s v pc inp = some e) (hprep : ∀ session p, pc ≠ .preparing session p)
    (hstop : ∀ session m deadline, pc ≠ .draining session (.stopping m deadline .begin)) :
    e.next.book = s.book := by
  have hp := (step_turn h).path
  cases pc with
  | preparing session p => exact absurd rfl (hprep session p)
  | draining session p =>
    cases p with
    | stopping m deadline p =>
      cases p with
      | begin => exact absurd rfl (hstop session m deadline)
      | _ => exact hp.eq_of_nil
    | _ => exact hp.eq_of_nil
  | _ => exact hp.eq_of_nil

/-! ### The model of another session -/

namespace System

variable {w w' : System} {t : TaskId}

/-- When the worker is about to stop the model of a session it drains, the model is busy or no
`ACTIVE` session names it. -/
def drainSpares (w : System) : Act → Bool
  | .resume t _ =>
    match w.tasks.get? t with
    | some (.running true (.sessionLifecycle (.draining _ (.stopping m _ .begin)))) =>
      w.sched.eviction.isSome || (w.sched.book.runtimeOf m).hasLeases
        || w.sched.sessions.records.values.all fun r => r.phase ≠ .active || r.modelId ≠ m
    | _ => true
  | _ => true

/-- A step of the worker never touches the record of the model of an `ACTIVE` session, whichever
session it drains. -/
theorem worker_spares_active_model {pc : SessionLifecycle.Pc} {session : SessionId}
    {r : SessionRecord} (hreach : Reach (fun w a => drainSpares w a = true) w)
    (hok : drainSpares w (.resume t inp) = true)
    (ht : w.tasks.get? t = some (.running true (.sessionLifecycle pc)))
    (hstep : w.step (.resume t inp) = some w')
    (hr : w.sched.sessions.records.get? session = some r) (hact : r.phase = .active) :
    w'.sched.book.runtime.get? r.modelId = w.sched.book.runtime.get? r.modelId := by
  obtain ⟨e, he, rfl⟩ := step_resume hstep ht
  obtain ⟨e', he', rfl⟩ := Option.map_eq_some_iff.mp he
  rw [commit_sched]
  have hexp := hreach.expected t _ ⟨true, ht⟩ pc rfl
  by_cases hprep : ∃ u p, pc = .preparing u p
  · -- a session is prepared only while none is `ACTIVE`
    obtain ⟨u, p, rfl⟩ := hprep
    exact absurd hact (hexp.1 session r hr)
  by_cases hstop : ∃ u m deadline, pc = .draining u (.stopping m deadline .begin)
  · obtain ⟨u, m, deadline, rfl⟩ := hstop
    obtain ⟨e₁, he₁, rfl⟩ := Option.map_eq_some_iff.mp he'
    obtain ⟨e₂, he₂, rfl⟩ := Option.map_eq_some_iff.mp he₁
    simp only [drainSpares, ht, Bool.or_eq_true, List.all_eq_true] at hok
    cases inp <;> cases he₂
    have hbegin := StopModels.begin_begins w.sched w.view [m] deadline
    change (StopModels.begin w.sched w.view [m] deadline).next.book.runtime.get? r.modelId = _
    generalize StopModels.begin w.sched w.view [m] deadline = e₂ at hbegin
    cases hbegin with
    | started book ops hfree _ hb =>
      have hm : r.modelId ∉ StopModels.targets w.sched [m] := by
        intro hmem
        obtain ⟨hin, hst⟩ := StopModels.mem_targets hmem
        rw [List.mem_singleton.mp hin] at hst
        simp only [Book.stoppable, Bool.and_eq_true, Bool.not_eq_true'] at hst
        rcases hok with (hslot | hbusy) | hnone
        · simp [hfree] at hslot
        · simp [hst.2] at hbusy
        · have := hnone r (Dict.mem_values_iff.mpr ⟨session, hr⟩)
          simp [hact, List.mem_singleton.mp hin] at this
      have hother := Book.beginCleanup_get?_of_notMem (b := w.sched.book) hm
      rw [hb] at hother
      exact hother
    | _ => rfl
  · have hbook := SessionLifecycle.step_book he' (fun u p hp => hprep ⟨u, p, hp⟩)
      fun u m deadline hp => hstop ⟨u, m, deadline, hp⟩
    exact congrArg (fun b : Book => b.runtime.get? r.modelId) hbook

/-- While session "B", which waits for the model of session "A", is drained, "A" holds a lease on
it, and the model is left alone. -/
theorem worker_spares_active_model_busy :
    ∃ (w w' : System) (r : SessionRecord), w.sched.sessions.records.get? "A" = some r ∧
      r.phase = .active ∧
      w.step (go 1) = some w' ∧ w.stateOf "chat" = .ready ∧
      w'.sched.book.runtime.get? r.modelId = w.sched.book.runtime.get? r.modelId := by
  obtain ⟨w, w', hreach, hstep, hpc, hok, hphase, hstate⟩ := exists_step_under drainSpares
    (activateChat ++
      [.call (.acquire { modelId := "chat", requestId := "r", deadline := 60,
                         sessionId := some "A" }),
       go 3, .resume 3 plenty, .resume 3 (.guard (.ok true)), go 3, go 3,
       .call (.registerSession { modelId := "chat", clientId := "bob", sessionId := "B" }), go 4,
       .call (.closeSession "B" "client_close" none), go 5, go 1, go 1, go 1, .tick 11,
       .resume 1 .timeout, go 1]) (a := go 1)
    (P := fun w _ => (w.lifecycleAt 1).isSome = true ∧ drainSpares w (go 1) = true ∧
      w.phaseOf "A" = some .active ∧ w.stateOf "chat" = .ready) (by decide +kernel)
  obtain ⟨pc, hpc⟩ := Option.isSome_iff_exists.mp hpc
  obtain ⟨r, hr, hact⟩ := Option.map_eq_some_iff.mp hphase
  exact ⟨w, w', r, hr, hact, hstep, hstate,
    worker_spares_active_model hreach hok (lifecycleAt_eq_some hpc) hstep hr hact⟩

/-- Session "B" waits for the same model and is closed before it ever holds it. Then the worker
stops the model of session "A", which is `ACTIVE` and idle. -/
theorem worker_stops_active_model :
    ∃ w w', Reach (fun _ _ => True) w ∧ w.step (go 1) = some w' ∧
      w.sched.sessionWorker = some 1 ∧ w.phaseOf "A" = some .active ∧
      w.phaseOf "B" = some .draining ∧
      (w.sched.sessions.records.get? "B").all (·.activatedAt.isNone) = true ∧
      w.stateOf "chat" = .ready ∧ w'.phaseOf "A" = some .active ∧
      w'.stateOf "chat" = .evicting :=
  exists_step (activateChat ++
    [.call (.registerSession { modelId := "chat", clientId := "bob", sessionId := "B" }), go 3,
     .call (.closeSession "B" "client_close" none), go 4, go 1, go 1, go 1]) (by decide +kernel)

end System

/-! ### The model of a session -/

namespace System

variable {w w' : System} {a : Act} {t : TaskId}

/-- Session `session` is on file for model `m`. -/
def Names (w : System) (session : SessionId) (m : ModelId) : Prop :=
  ∃ r, w.sched.sessions.records.get? session = some r ∧ r.modelId = m

lemma Names.keeps {session : SessionId} {m : ModelId} (h : w.Names session m)
    (hk : SessionManager.Keeps w.sched.sessions w'.sched.sessions) : w'.Names session m := by
  obtain ⟨r, hr, rfl⟩ := h
  obtain ⟨r', hr', hm⟩ := hk session r hr
  exact ⟨r', hr', hm⟩

end System

end ModelSwitch

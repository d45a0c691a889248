import ModelSwitch.Proofs.Scheduler.Closing

/-!
# Exclusive residency

`_prepare_session` stops the other models, loads the session's own and marks the session `ACTIVE`.
It lists the models to stop once, and lists only those that are `READY` or `ERROR` and idle at that
moment. The others are `UNLOADED` at the activation if nothing escaped that list and no load of
another model begins before it.
-/

namespace ModelSwitch

/-! ### The models that may be resident -/

/-- Every registered model outside `models` is `UNLOADED`. -/
def Book.ResidentsIn (b : Book) (models : List ModelId) : Prop :=
  ∀ m ∈ b.runtime.keys, m ∈ models ∨ (b.runtimeOf m).state = .unloaded

namespace Book.ResidentsIn

variable {s s' : Scheduler} {m : ModelId} {models : List ModelId}

/-- A step that loads only within `models` makes no other model resident. -/
lemma within {fp : Footprint} (h : s.book.ResidentsIn models) (hw : Within fp s s')
    (hinv : s.book.Inv) (hload : ∀ x, fp.load = some x → x ∈ models) :
    s'.book.ResidentsIn models := by
  intro x hx
  rw [hw.path.keys] at hx
  rcases h x hx with hin | hun
  · exact .inl hin
  · by_cases hx' : fp.load = some x
    · exact .inl (hload x hx')
    · exact .inr (hw.unloaded hinv x hx' hun)

/-- Listed models that are `UNLOADED` can be dropped from the list. -/
lemma drop (h : s.book.ResidentsIn (m :: models))
    (hun : ∀ x ∈ models, (s.book.runtimeOf x).state = .unloaded) : s.book.ResidentsIn [m] := by
  intro x hx
  rcases h x hx with hin | hx'
  · rcases List.mem_cons.mp hin with rfl | hin
    · exact .inl List.mem_cons_self
    · exact .inr (hun x hin)
  · exact .inr hx'

end Book.ResidentsIn

namespace StopOtherModels

variable {s : Scheduler} {v : TaskView} {inp : Input} {m : ModelId} {deadline : Time}

/-- A list that nothing escapes names every other resident model. -/
lemma targets_residents (h : ∀ x ∈ s.book.runtime.keys,
      x = m ∨ (s.book.runtimeOf x).state = .unloaded ∨ s.book.stoppable x = true) :
    s.book.ResidentsIn (m :: targets s m) := by
  intro x hx
  by_cases hm : x = m
  · exact .inl (hm ▸ List.mem_cons_self)
  · rcases h x hx with heq | hun | hstop
    · exact absurd heq hm
    · exact .inr hun
    · exact .inl (List.mem_cons_of_mem _ (List.mem_filter.mpr ⟨hx, by simp [hm, hstop]⟩))

/-- When the listed models are to be stopped, the slot is free, and one of them can be stopped or
all are `UNLOADED` already. -/
structure Ready (s : Scheduler) (models : List ModelId) : Prop where
  free : s.eviction = none
  stops : (∃ x ∈ models, s.book.stoppable x = true) ∨
    ∀ x ∈ models, (s.book.runtimeOf x).state = .unloaded

lemma Ready.unloaded {models : List ModelId} (h : Ready s models)
    (ht : StopModels.targets s models = []) : ∀ x ∈ models,
      (s.book.runtimeOf x).state = .unloaded := by
  rcases h.stops with ⟨x, hx, hstop⟩ | hun
  · have hmem : x ∈ StopModels.targets s models := List.mem_filter.mpr ⟨hx, hstop⟩
    rw [ht] at hmem
    cases hmem
  · exact hun

/-- The wait goes on for a batch of its own. -/
lemma stopping_goto {models : List ModelId} {p : StopModels.Pc} {q' : Pc} {e : Effect Pc Unit}
    (he : step s v m deadline (.stopping models p) inp = some e) (hc : e.ctl = .goto q')
    (hready : p = .begin → Ready s models) (hown : ∀ t, p ≠ .awaiting t true) :
    ∃ p', q' = .stopping models p' ∧ ∀ t, p' ≠ .awaiting t true := by
  obtain ⟨e', he', rfl⟩ := Option.map_eq_some_iff.mp he
  rcases Ctl.bind_goto hc with ⟨p', hp', rfl⟩ | ⟨r, -, hr⟩
  · refine ⟨p', rfl, ?_⟩
    cases p with
    | begin =>
      cases inp <;> cases he'
      have hbegin := StopModels.begin_begins s v models deadline
      generalize StopModels.begin s v models deadline = e at hbegin hp'
      cases hbegin with
      | joined t h =>
        rw [(hready rfl).free] at h
        cases h
      | started book ops h ht hb =>
        cases hp'
        rintro t ⟨⟩
      | _ => cases hp'
    | awaiting t borrowed =>
      cases inp with
      | go =>
        obtain ⟨r, -, rfl⟩ := Option.map_eq_some_iff.mp he'
        rcases r with x | ms
        · cases hp'
        · cases borrowed <;> cases hp'
          rintro t ⟨⟩
      | _ => cases he'
    | check =>
      cases inp <;> cases he'
      cases hp'
  · rcases r with x | ⟨_ | _⟩ <;> cases hr

/-- It ends well only once every listed model is `UNLOADED`. -/
lemma stopping_ret {models : List ModelId} {p : StopModels.Pc} {e : Effect Pc Unit}
    (he : step s v m deadline (.stopping models p) inp = some e) (hc : e.ctl = .ret ())
    (hready : p = .begin → Ready s models) (hown : ∀ t, p ≠ .awaiting t true) :
    ∀ x ∈ models, (e.next.book.runtimeOf x).state = .unloaded := by
  obtain ⟨e', he', rfl⟩ := Option.map_eq_some_iff.mp he
  have hret : e'.ctl = .ret true := by
    obtain ⟨s', sp, ctl⟩ := e'
    rcases ctl with p' | (x | ⟨_ | _⟩) <;> cases hc
    rfl
  cases p with
  | begin =>
    cases inp <;> cases he'
    have hbegin := StopModels.begin_begins s v models deadline
    simp only [Effect.bind]
    generalize StopModels.begin s v models deadline = e at hbegin hret ⊢
    cases hbegin with
    | nothing h ht => exact (hready rfl).unloaded ht
    | _ => cases hret
  | awaiting t borrowed =>
    cases inp with
    | go =>
      obtain ⟨r, -, rfl⟩ := Option.map_eq_some_iff.mp he'
      rcases r with x | ms
      · cases hret
      · cases borrowed with
        | false => cases hret
        | true => exact absurd rfl (hown t)
    | _ => cases he'
  | check =>
    cases inp <;> cases he'
    intro x hx
    have hconf : StopModels.confirmed s models = true := by
      injection hret with h
      injection h
    exact of_decide_eq_true (List.all_eq_true.mp hconf x hx)

end StopOtherModels

/-- The model the worker makes room for, from the moment the others are listed until the session is
`ACTIVE`. -/
def SessionLifecycle.Pc.exclusiveModel (sm : SessionManager) : SessionLifecycle.Pc → Option ModelId
  | .preparing _ (.stopping m _ _ (.stopping _ _)) => some m
  | .preparing _ (.preloading m _ _) => some m
  | .preparing session .activate => (sm.records.get? session).map (·.modelId)
  | _ => none

namespace System

variable {w w' : System} {a : Act} {t : TaskId} {inp : Input}

/-- The steps that keep residency exclusive. When the worker lists the models to stop, every other
model is `UNLOADED` or on the list; when it begins to stop them, the eviction slot is free, and one
of them can be stopped or all are `UNLOADED` already; and from the list to the activation no load
of another model begins. -/
def residencyKept (w : System) : Act → Bool
  | .resume t _ =>
    match w.tasks.get? t with
    | some (.running true co) =>
      ((co.footprint w.sched).load.all fun x =>
        (w.workerPc.bind (·.exclusiveModel w.sched.sessions)).all (· = x)) &&
      match co with
      | .sessionLifecycle (.preparing _ (.stopping m _ _ .list)) =>
        w.sched.book.runtime.keys.all fun x =>
          x = m || w.stateOf x = .unloaded || w.sched.book.stoppable x
      | .sessionLifecycle (.preparing _ (.stopping _ _ _ (.stopping models .begin))) =>
        w.sched.eviction.isNone &&
          (models.any w.sched.book.stoppable || models.all fun x => w.stateOf x = .unloaded)
      | _ => true
    | _ => true
  | _ => true

/-- What the worker knows of the other models while it prepares a session. -/
def Clears (w : System) : SessionLifecycle.Pc → Prop
  | .preparing session (.draining m _ _ _) => w.Names session m
  | .preparing session (.stopping m _ _ .list) => w.Names session m
  | .preparing session (.stopping m _ _ (.stopping models p)) =>
    w.Names session m ∧ w.sched.book.ResidentsIn (m :: models) ∧ ∀ t, p ≠ .awaiting t true
  | .preparing session (.preloading m _ _) =>
    w.Names session m ∧ w.sched.book.ResidentsIn [m]
  | .preparing session .activate => ∃ m, w.Names session m ∧ w.sched.book.ResidentsIn [m]
  | _ => True

lemma Clears.stable {pc : SessionLifecycle.Pc} (h : w.Clears pc)
    (hk : SessionManager.Keeps w.sched.sessions w'.sched.sessions)
    (hres : ∀ m models, pc.exclusiveModel w.sched.sessions = some m →
      w.sched.book.ResidentsIn (m :: models) → w'.sched.book.ResidentsIn (m :: models)) :
    w'.Clears pc := by
  cases pc with
  | preparing session p =>
    cases p with
    | draining m _ _ _ => exact Names.keeps h hk
    | stopping m _ _ q =>
      cases q with
      | list => exact Names.keeps h hk
      | stopping models p => exact ⟨h.1.keeps hk, hres m models rfl h.2.1, h.2.2⟩
    | preloading m _ _ => exact ⟨h.1.keeps hk, hres m [] rfl h.2⟩
    | activate =>
      obtain ⟨m, ⟨r, hr, rfl⟩, hin⟩ := h
      exact ⟨r.modelId, Names.keeps ⟨r, hr, rfl⟩ hk,
        hres r.modelId [] (by simp [SessionLifecycle.Pc.exclusiveModel, hr]) hin⟩
    | _ => trivial
  | _ => trivial

/-- What the condition says about the loads a step begins. -/
lemma residencyKept_load {co : Co} {m x : ModelId} (h : residencyKept w (.resume t inp) = true)
    (ht : w.tasks.get? t = some (.running true co))
    (hm : w.workerPc.bind (·.exclusiveModel w.sched.sessions) = some m)
    (hx : (co.footprint w.sched).load = some x) : x = m := by
  simp only [residencyKept, ht, Bool.and_eq_true, hx, hm] at h
  simpa using (of_decide_eq_true h.1).symm

lemma residencyKept_list {session : SessionId} {m : ModelId} {prepareDeadline deadline : Time}
    (h : residencyKept w (.resume t inp) = true)
    (ht : w.tasks.get? t = some (.running true (.sessionLifecycle
      (.preparing session (.stopping m prepareDeadline deadline .list))))) :
    w.sched.book.ResidentsIn (m :: StopOtherModels.targets w.sched m) := by
  simp only [residencyKept, ht, Bool.and_eq_true] at h
  refine StopOtherModels.targets_residents fun x hx => ?_
  have hx' := List.all_eq_true.mp h.2 x hx
  simp only [Bool.or_eq_true, decide_eq_true_eq, or_assoc] at hx'
  exact hx'

lemma residencyKept_begin {session : SessionId} {m : ModelId} {prepareDeadline deadline : Time}
    {models : List ModelId} (h : residencyKept w (.resume t inp) = true)
    (ht : w.tasks.get? t = some (.running true (.sessionLifecycle (.preparing session
      (.stopping m prepareDeadline deadline (.stopping models .begin)))))) :
    StopOtherModels.Ready w.sched models := by
  simp only [residencyKept, ht, Bool.and_eq_true] at h
  simp only [Option.isNone_iff_eq_none, Bool.or_eq_true, List.any_eq_true, List.all_eq_true,
    decide_eq_true_eq] at h
  exact ⟨h.2.1, h.2.2⟩

/-- What preparing learns in one step. -/
lemma Clears.preparing {session : SessionId} {p p' : PrepareSession.Pc} {s' : Scheduler}
    {sp : Option Spawn} (h : w.Clears (.preparing session p))
    (hok : residencyKept w (.resume t inp) = true)
    (ht : w.tasks.get? t = some (.running true (.sessionLifecycle (.preparing session p))))
    (he : PrepareSession.step w.sched w.view session p inp = some ⟨s', sp, .goto p'⟩)
    (hs : w'.sched = s')
    (hres : ∀ m models, SessionLifecycle.Pc.exclusiveModel w.sched.sessions
        (.preparing session p) = some m →
      w.sched.book.ResidentsIn (m :: models) → w'.sched.book.ResidentsIn (m :: models)) :
    w'.Clears (.preparing session p') := by
  have hkeeps : SessionManager.Keeps w.sched.sessions w'.sched.sessions := by
    rw [hs]
    exact .of_records (PrepareSession.step_goto he rfl)
  cases PrepareSession.step_goes he with
  | begin r hr hp => exact Names.keeps ⟨r, hr, rfl⟩ hkeeps
  | draining m _ _ q q' e he' hc | drained m _ _ q e he' hc => exact Names.keeps h hkeeps
  | stopping m prepareDeadline deadline q q' e he' hc =>
    cases q with
    | list =>
      have hlist := residencyKept_list hok ht
      cases inp <;> cases he'
      simp only [StopOtherModels.list] at hc hs
      split at hc <;> cases hc
      refine ⟨Names.keeps h hkeeps, ?_, by rintro t ⟨⟩⟩
      split at hs
      · contradiction
      · rw [hs]
        exact hlist
    | stopping models q =>
      obtain ⟨hn, hin, hown⟩ := h
      obtain ⟨q₁, rfl, hown'⟩ := StopOtherModels.stopping_goto he' hc
        (fun hq => residencyKept_begin hok (hq ▸ ht)) hown
      exact ⟨hn.keeps hkeeps, hres m models rfl hin, hown'⟩
  | stopped m prepareDeadline deadline q e he' hc =>
    cases q with
    | list =>
      have hlist := residencyKept_list hok ht
      cases inp <;> cases he'
      simp only [StopOtherModels.list] at hc hs
      split at hc <;> cases hc
      rename_i hnone
      refine ⟨Names.keeps h hkeeps, ?_⟩
      simp only [hnone] at hs hlist
      rw [hs]
      exact hlist
    | stopping models q =>
      obtain ⟨hn, hin, hown⟩ := h
      have hun := StopOtherModels.stopping_ret he' hc
        (fun hq => residencyKept_begin hok (hq ▸ ht)) hown
      refine ⟨hn.keeps hkeeps, (hres m models rfl hin).drop ?_⟩
      rw [hs]
      exact hun
  | preloading m deadline q q' e he' hc => exact ⟨h.1.keeps hkeeps, hres m [] rfl h.2⟩
  | preloaded m deadline q e he' hc => exact ⟨m, h.1.keeps hkeeps, hres m [] rfl h.2⟩
  | _ => trivial

lemma clears_enact (plan : Option SessionPlan) : w.Clears (SessionLifecycle.enact plan) := by
  rcases plan with _ | ⟨_ | _ | _ | _⟩ <;> trivial

lemma clears_of_free {pc : SessionLifecycle.Pc} (h : SessionLifecycle.Free pc) : w.Clears pc := by
  cases pc with
  | preparing session p => cases h
  | _ => trivial

/-- What the worker knows after its own step. -/
lemma Clears.self {pc pc' : SessionLifecycle.Pc} {e : Effect SessionLifecycle.Pc Unit}
    (h : w.Clears pc) (hok : residencyKept w (.resume t inp) = true)
    (ht : w.tasks.get? t = some (.running true (.sessionLifecycle pc)))
    (he : SessionLifecycle.step w.sched w.view pc inp = some e) (hc : e.ctl = .goto pc')
    (hs : w'.sched = e.next)
    (hres : ∀ m models, pc.exclusiveModel w.sched.sessions = some m →
      w.sched.book.ResidentsIn (m :: models) → w'.sched.book.ResidentsIn (m :: models)) :
    w'.Clears pc' := by
  rcases SessionLifecycle.step_goto he hc with ⟨-, rfl, -⟩ | ⟨session, p, p', rfl, rfl, -⟩ |
    ⟨session, p, p', rfl, rfl, -⟩ | hfree
  · exact clears_enact _
  · obtain ⟨⟨s', sp, ctl⟩, he', rfl⟩ := Option.map_eq_some_iff.mp he
    rcases Ctl.bind_goto hc with ⟨p₁, hp₁, hwrap⟩ | ⟨r, -, hr⟩
    · cases hwrap
      cases hp₁
      exact h.preparing hok ht he' hs hres
    · cases SessionLifecycle.stepped_free hr
  · trivial
  · exact clears_of_free hfree

/-- What the worker knows when an exception is thrown into it: the preload handles it, or the
session is given up. -/
lemma Clears.throw {x : Exc} {pc pc' : SessionLifecycle.Pc} (h : w.Clears pc)
    (hx : SessionLifecycle.throw w.sched x pc = .goto pc') (hs : w'.sched = w.sched) :
    w'.Clears pc' := by
  rcases SessionLifecycle.throw_goto hx with ⟨session, p, p', rfl, rfl⟩ | hfree
  · rcases Ctl.bind_goto hx with ⟨p₁, hp₁, hwrap⟩ | ⟨r, -, hr⟩
    · cases hwrap
      rcases PrepareSession.throw_goto hp₁ with ⟨m, deadline, q, q', rfl, rfl, -⟩ | rfl
      · simp only [Clears, Names, hs] at h ⊢
        exact h
      · trivial
    · cases SessionLifecycle.stepped_free hr
  · exact clears_of_free hfree

/-- What the worker knows holds in every run in which residency is kept. -/
theorem Reach.clears (h : Reach (fun w a => residencyKept w a = true) w) :
    ∀ t pc, w.Suspended t (.sessionLifecycle pc) → w.Clears pc := by
  -- no step makes a model resident that the worker has ruled out
  have hres : ∀ {w w' a t pc}, Reach (fun w a => residencyKept w a = true) w →
      residencyKept w a = true → Took w a w' → w.Suspended t (.sessionLifecycle pc) →
      ∀ m models, pc.exclusiveModel w.sched.sessions = some m →
      w.sched.book.ResidentsIn (m :: models) → w'.sched.book.ResidentsIn (m :: models) := by
    intro w w' a t pc hreach hok hw hs m models hm hin
    refine sched_step (J := fun s => s.book.ResidentsIn (m :: models)) hin hw
      (fun _ _ _ => hin) ?_
    rintro t' inp co e rfl ht he
    refine hin.within (Co.step_within he) hreach.book_inv fun x hx => ?_
    have hbind : w.workerPc.bind (·.exclusiveModel w.sched.sessions) = some m := by
      rw [hreach.workerPc_eq hs]
      exact hm
    exact residencyKept_load hok ht hbind hx ▸ List.mem_cons_self
  refine h.worker_fact (K := fun w pc => w.Clears pc) (fun _ => trivial) ?_ ?_ ?_
  · intro w w' t inp pc e pc' hreach hok hw ht he hc hw' hK
    exact hK.self hok ht he hc (hw' ▸ commit_sched _ _) (hres hreach hok hw ⟨true, ht⟩)
  · intro w w' t pc pc' _ _ hs hthrow hK
    exact hK.throw hthrow hs
  · intro w w' a t pc hreach hok hw hs hK
    exact hK.stable hw.keeps (hres hreach hok hw hs)

/-- Model "embed" is loaded by a call of `warm`: task 0 is the call and task 1 the load. -/
def warmEmbed : List Act :=
  [.call (.warm "embed" 60), go 0, .resume 0 plenty, .resume 0 (.guard (.ok true)), go 0,
   go 1, .resume 1 (.backend (.ok ⟨.running, true, none⟩)), go 1, go 1]

/-- At the step that makes a session `ACTIVE`, whichever task takes it, every registered model other
than the session's own is `UNLOADED`. -/
theorem active_session_resides_alone {session : SessionId} {r' : SessionRecord}
    (hreach : Reach (fun w a => residencyKept w a = true) w) (hstep : w.step a = some w')
    (hbefore : w.phaseOf session ≠ some .active)
    (hr' : w'.sched.sessions.records.get? session = some r') (hact : r'.phase = .active) :
    ∀ m r, w'.sched.book.runtime.get? m = some r → m ≠ r'.modelId → r.state = .unloaded := by
  have hinactive : ∀ r, w.sched.sessions.records.get? session = some r → r.phase ≠ .active := by
    intro r hr hp
    exact hbefore (by simp [phaseOf, hr, hp])
  have hw := took_of_step hstep
  have hkeeps := hw.keeps
  cases hw with
  | resume t inp co e ht he =>
    rw [commit_sched] at hr' hkeeps ⊢
    cases (Co.step_touch he).activated hr' hact hinactive
    obtain ⟨m₀, ⟨r₀, hr₀, rfl⟩, hin⟩ := hreach.clears t _ ⟨true, ht⟩
    obtain ⟨r₁, hr₁, hmodel⟩ := hkeeps session r₀ hr₀
    cases hr'.symm.trans hr₁
    have hin' : e.next.book.ResidentsIn [r₀.modelId] :=
      hin.within (Co.step_within he) hreach.book_inv (by rintro x ⟨⟩)
    intro m r hr hne
    rcases hin' m (Dict.mem_keys_iff.mpr ⟨r, hr⟩) with hm | hun
    · exact absurd ((List.mem_singleton.mp hm).trans hmodel.symm) hne
    · rwa [Book.runtimeOf_eq hr] at hun
  | _ => exact absurd hact (hinactive _ hr')

/-- Model "embed" is `READY` when session "A" is prepared for "chat"; it is stopped before "A"
becomes `ACTIVE`. -/
theorem active_session_resides_alone_embed :
    ∃ (w w' : System) (r' : SessionRecord), w.step (go 3) = some w' ∧
      w.phaseOf "A" = some .preparing ∧ w'.sched.sessions.records.get? "A" = some r' ∧
      r'.phase = .active ∧
      ∀ m r, w'.sched.book.runtime.get? m = some r → m ≠ r'.modelId → r.state = .unloaded := by
  obtain ⟨w, w', hreach, hstep, hphase, hphase'⟩ := exists_step_under residencyKept
    (warmEmbed ++ [go 0, .call (.registerSession
        { modelId := "chat", clientId := "alice", sessionId := "A" }),
      go 2, go 3, go 3, go 3, go 3, go 3, go 3,
      go 4, .resume 4 (.backend (.ok ⟨.stopped, true, none⟩)), go 4, go 4, go 3, go 3, go 3,
      .resume 3 plenty, .resume 3 (.guard (.ok true)), go 3,
      go 5, .resume 5 (.backend (.ok ⟨.running, true, none⟩)), go 5, go 5, go 3]) (a := go 3)
    (P := fun w w' => w.phaseOf "A" = some .preparing ∧ w'.phaseOf "A" = some .active)
    (by decide +kernel)
  obtain ⟨r', hr', hact⟩ := Option.map_eq_some_iff.mp hphase'
  refine ⟨w, w', r', hstep, hphase, hr', hact, ?_⟩
  exact active_session_resides_alone hreach hstep (by simp [hphase]) hr' hact

/-- Model "embed" is still `LOADING` when the others are listed, so nothing is stopped. The load
ends while the worker waits for its turn to load "chat", and session "A" becomes `ACTIVE` beside
a `READY` "embed". -/
theorem active_session_beside_ready_model :
    ∃ w w', Reach (fun _ _ => True) w ∧ w.step (go 3) = some w' ∧
      w.phaseOf "A" = some .preparing ∧ w'.phaseOf "A" = some .active ∧
      (w'.sched.sessions.records.get? "A").map (·.modelId) = some "chat" ∧
      w'.stateOf "embed" = .ready :=
  exists_step (warmEmbed.take 5 ++ [.call (.registerSession
      { modelId := "chat", clientId := "alice", sessionId := "A" }),
    go 2, go 3, go 3, go 3, go 3, go 3, go 3] ++ warmEmbed.drop 5 ++ [go 3, go 3, go 3,
    .resume 3 plenty, .resume 3 (.guard (.ok true)), go 3,
    go 4, .resume 4 (.backend (.ok ⟨.running, true, none⟩)), go 4, go 4, go 3]) (by decide +kernel)

end System

end ModelSwitch

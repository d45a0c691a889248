import ModelSwitch.Proofs.Scheduler.Footprint

/-!
# Runs of the system

`System.Took` lists what one action can do, and `System.AllTasks.step` is the rule by which a fact
about every suspended coroutine is carried through a run: what a coroutine's own step, another
task's step, a call, a tick and a cancellation have to preserve.
-/

namespace ModelSwitch

namespace System

variable {w w' : System} {a : Act}

/-- What one action does. -/
inductive Took (w : System) : Act → System → Prop
  | tick (d : ℚ) (hd : 0 ≤ d) :
      Took w (.tick d) { w with sched := { w.sched with now := w.sched.now + d } }
  | call (c : ApiCall) :
      Took w (.call c) { w with tasks := w.tasks.set w.nextTask (c.start w.sched).task,
                                nextTask := w.nextTask + 1 }
  | start (t : TaskId) (co : Co) (ht : w.tasks.get? t = some (.running false co)) :
      Took w (.resume t .go) { w with tasks := w.tasks.set t (.running true co) }
  | resume (t : TaskId) (inp : Input) (co : Co) (e : Effect Co Value)
      (ht : w.tasks.get? t = some (.running true co))
      (he : co.step w.sched w.view inp = some e) : Took w (.resume t inp) (w.commit t e)
  | drop (t : TaskId) (co : Co)
      (ht : w.tasks.get? (w.cancelTarget t) = some (.running false co)) :
      Took w (.cancel t)
        { w with tasks := w.tasks.set (w.cancelTarget t) (.done (.error .cancelledError)) }
  | throw (t : TaskId) (co : Co)
      (ht : w.tasks.get? (w.cancelTarget t) = some (.running true co)) :
      Took w (.cancel t)
        { w with tasks := w.tasks.set (w.cancelTarget t)
                            (co.throw w.sched .cancelledError).task }

theorem took_of_step (h : w.step a = some w') : Took w a w' := by
  cases a with
  | tick d =>
    simp only [step] at h
    split_ifs at h with hd
    cases h
    exact .tick d (not_lt.mp hd)
  | call c =>
    cases h
    exact .call c
  | resume t inp =>
    simp only [step, resume] at h
    split_ifs at h
    split at h
    · rename_i co ht
      obtain ⟨e, he, rfl⟩ := Option.map_eq_some_iff.mp h
      exact .resume t inp co e ht he
    · rename_i co ht
      split at h <;> cases h
      exact .start t co ht
    · cases h
  | cancel t =>
    simp only [step, deliver] at h
    split at h <;> cases h
    · exact .throw t _ ‹_›
    · exact .drop t _ ‹_›

/-- A resumed coroutine that has started takes its step. -/
lemma took_resume {t : TaskId} {inp : Input} {co : Co} {e : Effect Co Value}
    (h : Took w (.resume t inp) w') (ht : w.tasks.get? t = some (.running true co))
    (he : co.step w.sched w.view inp = some e) : w' = w.commit t e := by
  cases h with
  | start _ co' ht' =>
    rw [ht] at ht'
    cases ht'
  | resume _ _ co' e' ht' he' =>
    cases ht.symm.trans ht'
    cases he.symm.trans he'
    rfl

/-- The step of a started coroutine, as a step of the system. -/
lemma step_resume {t : TaskId} {inp : Input} {co : Co} (h : w.step (.resume t inp) = some w')
    (ht : w.tasks.get? t = some (.running true co)) :
    ∃ e, co.step w.sched w.view inp = some e ∧ w' = w.commit t e := by
  cases took_of_step h with
  | start _ co' ht' =>
    rw [ht] at ht'
    cases ht'
  | resume _ _ co' e ht' he =>
    cases ht.symm.trans ht'
    exact ⟨e, he, rfl⟩

/-- A run is carried by what every action preserves. -/
theorem Reach.invariant {ok : System → Act → Prop} {I : System → Prop}
    (hstart : ∀ w, Starts w → I w)
    (hstep : ∀ w a w', Reach ok w → I w → ok w a → Took w a w' → I w') (h : Reach ok w) : I w := by
  obtain ⟨w₀, h₀, hrun⟩ := h
  have hboth : Reach ok w ∧ I w := by
    refine hrun.invariant (I := fun w => Reach ok w ∧ I w) ?_ ⟨⟨w₀, h₀, .refl _⟩, hstart w₀ h₀⟩
    rintro w a w' ⟨⟨w₁, h₁, hr₁⟩, hI⟩ hok hst
    exact ⟨⟨w₁, h₁, .tail a hr₁ hok hst⟩, hstep w a w' ⟨w₁, h₁, hr₁⟩ hI hok (took_of_step hst)⟩
  exact hboth.2

lemma Reach.mono {ok ok' : System → Act → Prop} (hok : ∀ w a, ok w a → ok' w a)
    (h : Reach ok w) : Reach ok' w := by
  obtain ⟨w₀, h₀, hrun⟩ := h
  exact ⟨w₀, h₀, hrun.mono hok⟩

lemma Reach.run {ok ok' : System → Act → Prop} {w₀ : System} (h : Reach ok w₀)
    (hrun : Run System.step ok' w₀ w) : Reach (fun _ _ => True) w := by
  obtain ⟨w₁, h₁, hr₁⟩ := h
  exact ⟨w₁, h₁, (hr₁.mono fun _ _ _ => trivial).trans (hrun.mono fun _ _ _ => trivial)⟩

lemma Reach.step {ok : System → Act → Prop} (h : Reach ok w) (hstep : w.step a = some w') :
    Reach (fun _ _ => True) w' := by
  have hrun : Run System.step (fun _ _ => True) w w' := .tail a (.refl w) trivial hstep
  exact h.run hrun

/-! ### The tasks after a step -/

/-- Task `t` is suspended in `co`, or about to start there. -/
def Suspended (w : System) (t : TaskId) (co : Co) : Prop :=
  ∃ started, w.tasks.get? t = some (.running started co)

lemma task_running {c : Ctl Co Value} {started : Bool} {co : Co}
    (h : c.task = .running started co) : c = .goto co := by
  cases c with
  | goto co' =>
    cases h
    rfl
  | done r => cases h

/-- The coroutines after a step: the one that took it, the one it started, and the others. -/
lemma suspended_commit {t t' : TaskId} {e : Effect Co Value} {co' : Co}
    (h : (w.commit t e).Suspended t' co') :
    (t' = t ∧ e.ctl = .goto co') ∨ (∃ sp, e.spawn = some sp ∧ t' = w.nextTask ∧ co' = sp.co) ∨
      (t' ≠ t ∧ w.Suspended t' co') := by
  have hself : ∀ started, (w.tasks.set t e.ctl.task).get? t' = some (.running started co') →
      (t' = t ∧ e.ctl = .goto co') ∨ (t' ≠ t ∧ w.Suspended t' co') := by
    intro started h
    by_cases heq : t' = t
    · rw [heq, Dict.get?_set_self] at h
      exact .inl ⟨heq, task_running (Option.some.inj h)⟩
    · rw [Dict.get?_set_ne _ _ heq] at h
      exact .inr ⟨heq, started, h⟩
  obtain ⟨started, h⟩ := h
  unfold commit at h
  dsimp only at h
  split at h
  · rcases hself started h with h | h
    · exact .inl h
    · exact .inr (.inr h)
  · rename_i sp hsp
    dsimp only at h
    by_cases heq : t' = w.nextTask
    · rw [heq, Dict.get?_set_self] at h
      cases h
      exact .inr (.inl ⟨sp, hsp, heq, rfl⟩)
    · rw [Dict.get?_set_ne _ _ heq] at h
      rcases hself started h with h | h
      · exact .inl h
      · exact .inr (.inr h)

lemma commit_sched (t : TaskId) (e : Effect Co Value) : (w.commit t e).sched = e.next := by
  unfold commit
  dsimp only
  split <;> rfl

lemma suspended_set {t t' : TaskId} {task : Task} {co : Co} {tasks : Dict TaskId Task}
    (h : ∃ started, (tasks.set t task).get? t' = some (.running started co)) :
    (t' = t ∧ ∃ started, task = .running started co) ∨
      (t' ≠ t ∧ ∃ started, tasks.get? t' = some (.running started co)) := by
  obtain ⟨started, h⟩ := h
  by_cases heq : t' = t
  · rw [heq, Dict.get?_set_self] at h
    exact .inl ⟨heq, started, Option.some.inj h⟩
  · rw [Dict.get?_set_ne _ _ heq] at h
    exact .inr ⟨heq, started, h⟩

/-! ### Facts about every coroutine -/

/-- The rule for a fact about every suspended coroutine: it holds of the one a call starts, of the
one that took the step, of the one that step started and of the one an exception was thrown into,
and it is stable for the others. -/
theorem suspended_step {K : System → TaskId → Co → Prop}
    (hall : ∀ t co, w.Suspended t co → K w t co) (h : Took w a w')
    (call : ∀ c co, a = .call c → c.start w.sched = .goto co → K w' w.nextTask co)
    (self : ∀ t inp co e co', a = .resume t inp → w.tasks.get? t = some (.running true co) →
      co.step w.sched w.view inp = some e → K w t co → e.ctl = .goto co' → K w' t co')
    (spawn : ∀ t inp co e sp, a = .resume t inp → w.tasks.get? t = some (.running true co) →
      co.step w.sched w.view inp = some e → e.spawn = some sp → K w' w.nextTask sp.co)
    (throw : ∀ t co co', a = .cancel t →
      w.tasks.get? (w.cancelTarget t) = some (.running true co) → K w (w.cancelTarget t) co →
      co.throw w.sched .cancelledError = .goto co' → K w' (w.cancelTarget t) co')
    (stable : ∀ t co, w.Suspended t co →
      (∀ inp co', a = .resume t inp → w.tasks.get? t ≠ some (.running true co')) →
      (∀ t', a = .cancel t' → w.cancelTarget t' ≠ t) → K w t co → K w' t co) :
    ∀ t co, w'.Suspended t co → K w' t co := by
  intro t' co' hs
  cases h with
  | tick d hd =>
    exact stable t' co' hs (by rintro _ _ ⟨⟩) (by rintro _ ⟨⟩) (hall t' co' hs)
  | call c =>
    rcases suspended_set hs with ⟨rfl, started, hst⟩ | ⟨-, hs⟩
    · exact call c co' rfl (task_running hst)
    · exact stable t' co' hs (by rintro _ _ ⟨⟩) (by rintro _ ⟨⟩) (hall t' co' hs)
  | start t co ht =>
    have hsame : w.Suspended t' co' := by
      rcases suspended_set hs with ⟨rfl, started, hst⟩ | ⟨-, hs⟩
      · cases hst
        exact ⟨false, ht⟩
      · exact hs
    refine stable t' co' hsame ?_ (by rintro _ ⟨⟩) (hall t' co' hsame)
    intro inp co'' heq hrun
    cases heq
    rw [ht] at hrun
    cases hrun
  | resume t inp co e ht he =>
    rcases suspended_commit hs with ⟨rfl, hc⟩ | ⟨sp, hsp, rfl, rfl⟩ | ⟨hne, hs⟩
    · exact self _ inp co e co' rfl ht he (hall _ co ⟨true, ht⟩) hc
    · exact spawn t inp co e sp rfl ht he hsp
    · refine stable t' co' hs ?_ (by rintro _ ⟨⟩) (hall t' co' hs)
      intro inp' co'' heq
      cases heq
      exact absurd rfl hne
  | drop t co ht =>
    rcases suspended_set hs with ⟨rfl, started, hst⟩ | ⟨hne, hs⟩
    · cases hst
    · refine stable t' co' hs (by rintro _ _ ⟨⟩) ?_ (hall t' co' hs)
      intro u hu
      cases hu
      exact hne.symm
  | throw t co ht =>
    rcases suspended_set hs with ⟨rfl, started, hst⟩ | ⟨hne, hs⟩
    · exact throw t co co' rfl ht (hall _ co ⟨true, ht⟩) (task_running hst)
    · refine stable t' co' hs (by rintro _ _ ⟨⟩) ?_ (hall t' co' hs)
      intro u hu
      cases hu
      exact hne.symm

/-- `K` holds of every suspended coroutine. -/
def AllTasks (K : Scheduler → TaskId → Co → Prop) (w : System) : Prop :=
  ∀ t co, w.Suspended t co → K w.sched t co

/-- The rule for a fact about every coroutine that reads the scheduler only. -/
theorem AllTasks.step {K : Scheduler → TaskId → Co → Prop} (hall : AllTasks K w) (h : Took w a w')
    (tick : ∀ d t co, a = .tick d → 0 ≤ d → w.Suspended t co → K w.sched t co →
      K { w.sched with now := w.sched.now + d } t co)
    (call : ∀ c co, a = .call c → c.start w.sched = .goto co → K w.sched w.nextTask co)
    (self : ∀ t inp co e co', a = .resume t inp → w.tasks.get? t = some (.running true co) →
      co.step w.sched w.view inp = some e → K w.sched t co → e.ctl = .goto co' → K e.next t co')
    (spawn : ∀ t inp co e sp, a = .resume t inp → w.tasks.get? t = some (.running true co) →
      co.step w.sched w.view inp = some e → e.spawn = some sp → K e.next w.nextTask sp.co)
    (other : ∀ t inp co e t' co', a = .resume t inp → w.tasks.get? t = some (.running true co) →
      co.step w.sched w.view inp = some e → t' ≠ t → w.Suspended t' co' → K w.sched t' co' →
      K e.next t' co')
    (throw : ∀ t co co', a = .cancel t →
      w.tasks.get? (w.cancelTarget t) = some (.running true co) → K w.sched (w.cancelTarget t) co →
      co.throw w.sched .cancelledError = .goto co' → K w.sched (w.cancelTarget t) co') :
    AllTasks K w' := by
  refine suspended_step (K := fun w t co => K w.sched t co) hall h ?_ ?_ ?_ ?_ ?_
  · rintro c co rfl hc
    cases h
    exact call c co rfl hc
  · rintro t inp co e co' rfl ht he hK hc
    rw [took_resume h ht he, commit_sched]
    exact self t inp co e co' rfl ht he hK hc
  · rintro t inp co e sp rfl ht he hsp
    rw [took_resume h ht he, commit_sched]
    exact spawn t inp co e sp rfl ht he hsp
  · rintro t co co' rfl ht hK hc
    cases h <;> exact throw t co co' rfl ht hK hc
  · intro t co hs hne _ hK
    cases h with
    | tick d hd => exact tick d t co rfl hd hs hK
    | resume t₀ inp co₀ e ht he =>
      rw [commit_sched]
      refine other t₀ inp co₀ e t co rfl ht he ?_ hs hK
      rintro rfl
      exact hne inp co₀ rfl ht
    | _ => exact hK

lemma allTasks_starts {K : Scheduler → TaskId → Co → Prop} (h : Starts w) : AllTasks K w := by
  obtain ⟨_, _, _, _, _, _, _, _, -, -, -, rfl⟩ := h
  rintro t co ⟨started, ht⟩
  cases ht

/-- A fact about the scheduler alone is carried by ticks and by steps of coroutines. -/
lemma sched_step {J : Scheduler → Prop} (hJ : J w.sched) (h : Took w a w')
    (tick : ∀ d, a = .tick d → 0 ≤ d → J { w.sched with now := w.sched.now + d })
    (resume : ∀ t inp co e, a = .resume t inp → w.tasks.get? t = some (.running true co) →
      co.step w.sched w.view inp = some e → J e.next) : J w'.sched := by
  cases h with
  | tick d hd => exact tick d rfl hd
  | resume t inp co e ht he =>
    rw [commit_sched]
    exact resume t inp co e rfl ht he
  | _ => exact hJ

/-- A scheduler that has just been built. -/
structure Fresh (s : Scheduler) : Prop where
  book : ∃ policy specs, Book.Reachable policy specs s.book
  sessions : ∃ policy : SessionPolicy, policy.positive = true ∧ s.sessions = { policy := policy }
  queue : RequestQueue.init s.cfg.queueCapacity s.cfg.priorityAgingSeconds = .ok s.queue
  limit : 0 < s.cfg.maxSwitchesInWindow
  successes : s.switchSuccesses = []

lemma Starts.fresh (h : Starts w) : Fresh w.sched := by
  obtain ⟨policy, specs, _, _, sessions, _, _, _, hb, hsm, hs, rfl⟩ := h
  simp only [SessionManager.init] at hsm
  simp only [Scheduler.init] at hs
  split_ifs at hsm hs with hpos hcfg
  cases hsm
  split at hs <;> cases hs
  simp only [not_or, not_lt] at hcfg
  exact ⟨⟨policy, specs, hb⟩, ⟨_, hpos, rfl⟩, ‹_›, hcfg.2.2.2.2.2, rfl⟩

variable {ok : System → Act → Prop}

/-- The invariant rule for a fact about the scheduler alone. -/
theorem Reach.sched_invariant {J : Scheduler → Prop} (start : ∀ s, Fresh s → J s)
    (tick : ∀ s d, J s → 0 ≤ d → J { s with now := s.now + d })
    (resume : ∀ w t inp co e, Reach ok w → J w.sched → ok w (.resume t inp) →
      w.tasks.get? t = some (.running true co) → co.step w.sched w.view inp = some e → J e.next)
    (h : Reach ok w) : J w.sched := by
  refine h.invariant (I := fun w => J w.sched) (fun w hw => start _ hw.fresh) ?_
  intro w a w' hreach hJ hok hw
  refine sched_step hJ hw (fun d _ hd => tick _ d hJ hd) ?_
  rintro t inp co e rfl ht he
  exact resume w t inp co e hreach hJ hok ht he

/-! ### The book and the identities of tasks -/

lemma Reach.book_inv (h : Reach ok w) : w.sched.book.Inv := by
  refine h.sched_invariant (J := fun s => s.book.Inv) ?_ (fun _ _ hI _ => hI) ?_
  · intro s hs
    obtain ⟨_, _, hb⟩ := hs.book
    exact hb.inv
  · intro w t inp co e _ hI _ _ he
    exact (Co.step_within he).path.inv hI

lemma Reach.queue_inv (h : Reach ok w) : w.sched.queue.Inv := by
  refine h.sched_invariant (J := fun s => s.queue.Inv) ?_ (fun _ _ hI _ => hI) ?_
  · exact fun s hs => RequestQueue.init_inv hs.queue
  · intro w t inp co e _ hI _ _ he
    exact (Co.step_within he).queue.inv hI

/-- Every task has an identity that was drawn. -/
lemma Reach.task_lt (h : Reach ok w) {t : TaskId} {task : Task} (ht : w.tasks.get? t = some task) :
    t < w.nextTask := by
  refine h.invariant (I := fun w => ∀ t task, w.tasks.get? t = some task → t < w.nextTask)
    ?_ ?_ t task ht
  · rintro w ⟨_, _, _, _, _, _, _, _, -, -, -, rfl⟩ t task ht
    cases ht
  · intro w a w' _ hI _ hw t' task' ht'
    have hset : ∀ {u : TaskId} {task task₀ : Task}, w.tasks.get? u = some task₀ →
        (w.tasks.set u task).get? t' = some task' → t' < w.nextTask := by
      intro u task task₀ hu hget
      by_cases heq : t' = u
      · exact heq ▸ hI u task₀ hu
      · rw [Dict.get?_set_ne _ _ heq] at hget
        exact hI t' task' hget
    cases hw with
    | tick d hd => exact hI t' task' ht'
    | call c =>
      by_cases heq : t' = w.nextTask
      · exact heq ▸ Nat.lt_succ_self _
      · simp only [Dict.get?_set_ne _ _ heq] at ht'
        exact Nat.lt_succ_of_lt (hI t' task' ht')
    | start t co ht => exact hset ht ht'
    | resume t inp co e ht he =>
      unfold commit at ht' ⊢
      dsimp only at ht' ⊢
      split at ht'
      · exact hset ht ht'
      · dsimp only at ht' ⊢
        by_cases heq : t' = w.nextTask
        · exact heq ▸ Nat.lt_succ_self _
        · rw [Dict.get?_set_ne _ _ heq] at ht'
          exact Nat.lt_succ_of_lt (hset ht ht')
    | drop t co ht | throw t co ht => exact hset ht ht'

/-- How an action moves the task `t`. -/
inductive TaskMove (w : System) (a : Act) (t : TaskId) : Task → Task → Prop
  | same (task : Task) : TaskMove w a t task task
  | start (co : Co) : TaskMove w a t (.running false co) (.running true co)
  | resume (inp : Input) (co : Co) (e : Effect Co Value) (ha : a = .resume t inp)
      (he : co.step w.sched w.view inp = some e) : TaskMove w a t (.running true co) e.ctl.task
  | drop (u : TaskId) (co : Co) (ha : a = .cancel u) (hu : w.cancelTarget u = t) :
      TaskMove w a t (.running false co) (.done (.error .cancelledError))
  | throw (u : TaskId) (co : Co) (ha : a = .cancel u) (hu : w.cancelTarget u = t) :
      TaskMove w a t (.running true co) (co.throw w.sched .cancelledError).task

lemma Took.task (h : Took w a w') {t : TaskId} {task : Task} (hlt : t < w.nextTask)
    (ht : w.tasks.get? t = some task) :
    ∃ task', w'.tasks.get? t = some task' ∧ TaskMove w a t task task' := by
  cases h with
  | tick d hd => exact ⟨task, ht, .same task⟩
  | call c =>
    refine ⟨task, ?_, .same task⟩
    rw [Dict.get?_set_ne _ _ hlt.ne]
    exact ht
  | start u co hu =>
    by_cases heq : t = u
    · subst heq
      cases ht.symm.trans hu
      exact ⟨_, Dict.get?_set_self _ _ _, .start co⟩
    · exact ⟨task, by rw [Dict.get?_set_ne _ _ heq]; exact ht, .same task⟩
  | resume u inp co e hu he =>
    have hset : (w.commit u e).tasks.get? t = (w.tasks.set u e.ctl.task).get? t := by
      simp only [commit]
      split
      · rfl
      · exact Dict.get?_set_ne _ _ hlt.ne
    rw [hset]
    by_cases heq : t = u
    · subst heq
      cases ht.symm.trans hu
      exact ⟨_, Dict.get?_set_self _ _ _, .resume inp co e rfl he⟩
    · exact ⟨task, by rw [Dict.get?_set_ne _ _ heq]; exact ht, .same task⟩
  | drop u co hu =>
    by_cases heq : t = w.cancelTarget u
    · subst heq
      cases ht.symm.trans hu
      exact ⟨_, Dict.get?_set_self _ _ _, .drop u co rfl rfl⟩
    · exact ⟨task, by rw [Dict.get?_set_ne _ _ heq]; exact ht, .same task⟩
  | throw u co hu =>
    by_cases heq : t = w.cancelTarget u
    · subst heq
      cases ht.symm.trans hu
      exact ⟨_, Dict.get?_set_self _ _ _, .throw u co rfl rfl⟩
    · exact ⟨task, by rw [Dict.get?_set_ne _ _ heq]; exact ht, .same task⟩

/-- The step of a started coroutine, with the task after it. -/
lemma Reach.step_resume_task (h : Reach ok w) {t : TaskId} {inp : Input} {co : Co}
    (hstep : w.step (.resume t inp) = some w') (ht : w.tasks.get? t = some (.running true co)) :
    ∃ e, co.step w.sched w.view inp = some e ∧ w' = w.commit t e ∧
      w'.tasks.get? t = some e.ctl.task := by
  obtain ⟨e, he, rfl⟩ := step_resume hstep ht
  refine ⟨e, he, rfl, ?_⟩
  simp only [commit]
  split
  · exact Dict.get?_set_self _ _ _
  · rw [Dict.get?_set_ne _ _ (h.task_lt ht).ne]
    exact Dict.get?_set_self _ _ _

/-! ### A small deployment

Two models that fit together; "chat" serves one request at a time. -/

def deployedSpecs : Dict ModelId Registration :=
  ⟨[("chat", .v1 { modelId := "chat", reservedBytes := 400 }),
    ("embed", .v1 { modelId := "embed", reservedBytes := 300 })], by decide⟩

def deployedPolicy : BookPolicy :=
  { modelBudget := 1000, freeFloor := 10, margin := 0, halfPow := fun _ => 1 }

def deployedBook : Book :=
  [.bootstrapStopped "chat", .bootstrapStopped "embed"].foldl Book.apply
    (Book.built deployedPolicy deployedSpecs)

lemma deployedBook_reachable : Book.Reachable deployedPolicy deployedSpecs deployedBook :=
  Book.built_reachable (by decide +kernel) _

/-- The small deployment under the configuration `cfg`, as it starts with both models stopped. -/
def deployedWith (cfg : SchedulerConfig) : System where
  sched := { cfg := cfg, book := deployedBook, queue := {}, sessions := {}, now := 0 }

lemma deployedWith_starts {cfg : SchedulerConfig}
    (h : Scheduler.init cfg deployedBook {} 0 = .ok (deployedWith cfg).sched) :
    Starts (deployedWith cfg) := by
  refine ⟨deployedPolicy, deployedSpecs, deployedBook, {}, {}, cfg, 0, (deployedWith cfg).sched,
    deployedBook_reachable, ?_, h, rfl⟩
  simp [SessionManager.init, SessionPolicy.positive]

/-- The small deployment with the default configuration. -/
def deployed : System where
  sched := { cfg := {}, book := deployedBook, queue := {}, sessions := {}, now := 0 }

lemma deployed_starts : Starts deployed :=
  deployedWith_starts (by norm_num [Scheduler.init, RequestQueue.init, deployedWith])

/-- A list of actions executed from a start, with one more step that passes a test. -/
lemma Starts.exists_step_under {w₀ : System} (h₀ : Starts w₀) (ok : System → Act → Bool)
    (acts : List Act) {a : Act} {P : System → System → Prop} [∀ w w', Decidable (P w w')]
    (h : ((execUnder System.step ok w₀ acts).any fun w =>
      (w.step a).any fun w' => P w w') = true) :
    ∃ w w', Reach (fun w a => ok w a = true) w ∧ w.step a = some w' ∧ P w w' := by
  obtain ⟨w, hrun, htest⟩ := exists_run h
  simp only [Option.any_eq_true, decide_eq_true_eq] at htest
  obtain ⟨w', hstep, hP⟩ := htest
  exact ⟨w, w', ⟨w₀, h₀, hrun⟩, hstep, hP⟩

/-- A list of actions executed from the small deployment, with one more step that passes a test. -/
lemma exists_step_under (ok : System → Act → Bool) (acts : List Act) {a : Act}
    {P : System → System → Prop} [∀ w w', Decidable (P w w')]
    (h : ((execUnder System.step ok deployed acts).any fun w =>
      (w.step a).any fun w' => P w w') = true) :
    ∃ w w', Reach (fun w a => ok w a = true) w ∧ w.step a = some w' ∧ P w w' :=
  deployed_starts.exists_step_under ok acts h

lemma Starts.exists_step {w₀ : System} (h₀ : Starts w₀) (acts : List Act) {a : Act}
    {P : System → System → Prop} [∀ w w', Decidable (P w w')]
    (h : ((execUnder System.step (fun _ _ => true) w₀ acts).any fun w =>
      (w.step a).any fun w' => P w w') = true) :
    ∃ w w', Reach (fun _ _ => True) w ∧ w.step a = some w' ∧ P w w' := by
  obtain ⟨w, w', hreach, hstep⟩ := h₀.exists_step_under _ acts h
  exact ⟨w, w', hreach.mono fun _ _ _ => trivial, hstep⟩

lemma exists_step (acts : List Act) {a : Act} {P : System → System → Prop}
    [∀ w w', Decidable (P w w')]
    (h : ((execUnder System.step (fun _ _ => true) deployed acts).any fun w =>
      (w.step a).any fun w' => P w w') = true) :
    ∃ w w', Reach (fun _ _ => True) w ∧ w.step a = some w' ∧ P w w' :=
  deployed_starts.exists_step acts h

/-- The phase of a session that is on file. -/
def phaseOf (w : System) (session : SessionId) : Option Phase :=
  (w.sched.sessions.records.get? session).map (·.phase)

def stateOf (w : System) (m : ModelId) : State := (w.sched.book.runtimeOf m).state

/-- The point a task that runs the session lifecycle is suspended at. -/
def lifecycleAt (w : System) (t : TaskId) : Option SessionLifecycle.Pc :=
  match w.tasks.get? t with
  | some (.running true (.sessionLifecycle pc)) => some pc
  | _ => none

lemma lifecycleAt_eq_some {t : TaskId} {pc : SessionLifecycle.Pc} (h : w.lifecycleAt t = some pc) :
    w.tasks.get? t = some (.running true (.sessionLifecycle pc)) := by
  simp only [lifecycleAt] at h
  split at h <;> cases h
  assumption

/-- Give task `t` its turn. -/
def go (t : TaskId) : Act := .resume t .go

/-- The host has memory to spare. -/
def plenty : Input := .snapshot (.ok ⟨4000, 4000, 0⟩)

/-- Session "A" is registered for "chat" and made `ACTIVE`: task 0 is the registration, task 1 the
worker and task 2 the load. -/
def activateChat : List Act :=
  [.call (.registerSession { modelId := "chat", clientId := "alice", sessionId := "A" }), go 0,
   go 1, go 1, go 1, go 1, go 1, go 1, .resume 1 plenty, .resume 1 (.guard (.ok true)), go 1,
   go 2, .resume 2 (.backend (.ok ⟨.running, true, none⟩)), go 2, go 2, go 1, go 1]

end System

end ModelSwitch

import ModelSwitch.Proofs.Execution.Tasks

/-!
# Outcomes of executions

How an execution ends: with a published result, or with an error and without one, and in either
case with evidence that the backend is done with it. A settled execution stays as it is.

A success needs that no reason to end the execution has been recorded while its result was being
written. A section that records one decides before it leaves the lock, unless its task is cancelled
in between or the model has no adapter; then the publisher still succeeds.
-/

namespace ModelSwitch.Execution

/-! ### Records -/

/-- How result and error go with the state. -/
structure Record.Shaped (r : Record) : Prop where
  terminal : r.settled = r.terminal
  open_ : r.settled = false → r.result = none ∧ r.error = none
  succeeded : r.state = .succeeded → r.result.isSome = true ∧ r.error = none
  failed : r.state = .failed → r.error.isSome = true ∧ r.result = none
  cancelled : r.state = .cancelled → r.error.isSome = true ∧ r.result = none

/-- What the end of an execution looks like. -/
structure Record.Sane (r : Record) : Prop extends r.Shaped where
  evidence : r.settled = true → r.evidence.isSome = true
  unmarked : r.state = .succeeded → ¬ r.Marked

/-- The publisher of the execution may settle it: it is settled, or there is evidence and no reason
against it, or the task that recorded one has yet to decide. -/
def Record.Sound (r : Record) (deciding : Prop) : Prop :=
  r.settled = true ∨ r.evidence.isSome = true ∧ (¬ r.Marked ∨ deciding)

/-- A task is to decide the end of the execution. -/
def Service.Deciding (s : Service) (id : ExecutionId) : Prop := ∃ t, s.lock = some (t, some id)

/-- Records are sane, and those that are being published are sound; `P` are the executions that
have a publisher. -/
def Service.Outcome (P : ExecutionId → Prop) (s : Service) : Prop :=
  ∀ id, (s.get id).Sane ∧ ((s.get id).publishing = true ∨ P id → (s.get id).Sound (s.Deciding id))

section

variable {L : Licence} {s : Service} {id : ExecutionId} {r r' : Record}

lemma Record.mark_state (h : r.terminal = false) (cancel : Bool) (code message : String) :
    ({ r with cancelPending := r.cancelPending || cancel }.markReason code message).markCancelling =
      { r with
        cancelPending := r.cancelPending || cancel,
        terminalCode := r.terminalCode.or (some code),
        terminalMessage := if r.terminalCode.isNone then message else r.terminalMessage,
        state := .cancelling } := by
  simp only [Record.terminal] at h
  cases hc : r.terminalCode with
  | none =>
    simp only [Record.markReason, Record.markCancelling, Record.terminal, Option.isNone_none,
      if_true, h, Bool.false_eq_true, if_false, Option.none_or]
  | some c =>
    simp only [Record.markReason, Record.markCancelling, Record.terminal, Option.isNone_some, h,
      Bool.false_eq_true, if_false, Option.some_or]

lemma Record.New.shaped (h : r.New L) : r.Shaped := by
  refine ⟨?_, fun _ => ⟨h.result, h.error⟩, ?_, ?_, ?_⟩
  · rw [h.settled, Record.terminal, h.state]
    rfl
  all_goals
    rw [h.state]
    rintro ⟨⟩

/-- Every change keeps the shape. -/
lemma Change.shaped (h : Change L s id r r') (hr : r.Shaped) : r'.Shaped := by
  cases h with
  | same => exact hr
  | edit he =>
    cases he with
    | quiet hcore =>
      have hshaped : r.core.Shaped := { hr with }
      rw [← hcore] at hshaped
      exact { hshaped with }
    | running reservation hs hc =>
      have hstate : (if r.terminal then r.state else ExecState.running) = .running := by
        rw [← hr.terminal, hs]
        rfl
      simp only [hstate]
      exact ⟨hs, hr.open_, nofun, nofun, nofun⟩
    | _ => exact ⟨hr.terminal, hr.open_, hr.succeeded, hr.failed, hr.cancelled⟩
  | mark cancel code message hs hlock hok =>
    rw [Record.mark_state (hr.terminal ▸ hs)]
    exact ⟨hs, hr.open_, nofun, nofun, nofun⟩
  | settle he =>
    cases he with
    | ended code message hs hok | reason hs he hm =>
      refine ⟨?_, nofun, ?_, fun _ => ⟨rfl, (hr.open_ hs).1⟩, fun _ => ⟨rfl, (hr.open_ hs).1⟩⟩
      · simp only [Record.terminal]
        split <;> rfl
      · simp only
        split <;> rintro ⟨⟩
    | failed error cancelPending state hs he hc hst hok =>
      refine ⟨?_, nofun, ?_, fun _ => ⟨rfl, (hr.open_ hs).1⟩, fun _ => ⟨rfl, (hr.open_ hs).1⟩⟩
      · rcases hst with rfl | rfl <;> rfl
      · rintro rfl
        exact hst.elim nofun nofun
  | succeed blob hs hlock hp hok =>
    exact ⟨rfl, nofun, fun _ => ⟨rfl, (hr.open_ hs).2⟩, nofun, nofun⟩
  | create hnew hid hnone => exact hnew.shaped
  | _ => exact ⟨hr.terminal, hr.open_, hr.succeeded, hr.failed, hr.cancelled⟩

/-- Evidence stays, and a reason is recorded only before the settlement. -/
lemma Change.sane (h : Change L s id r r') (hr : r.Sane)
    (hpub : L.publisher id → r.Sound (s.Deciding id)) : r'.Sane := by
  refine ⟨h.shaped hr.toShaped, ?_, ?_⟩
  · -- evidence
    cases h with
    | edit he =>
      cases he with
      | quiet hcore => exact congrArg (·.settled) hcore ▸ congrArg (·.evidence) hcore ▸ hr.evidence
      | evidence e hnone => exact fun _ => rfl
      | _ => exact hr.evidence
    | mark cancel code message hs hlock hok =>
      rw [Record.mark_state (hr.terminal ▸ hs)]
      exact hr.evidence
    | settle he =>
      cases he with
      | ended => exact fun _ => rfl
      | reason hs he => exact fun _ => he
      | failed error cancelPending state hs he =>
        refine fun _ => he.elim (fun he => he) fun hp => ?_
        rcases hpub hp with hset | ⟨hev, -⟩
        · rw [hs] at hset
          cases hset
        · exact hev
    | succeed blob hs hlock hp hok =>
      rcases hpub hp with hset | ⟨hev, -⟩
      · rw [hs] at hset
        cases hset
      · exact fun _ => hev
    | create hnew hid hnone =>
      rw [hnew.settled]
      rintro ⟨⟩
    | _ => exact hr.evidence
  · -- reasons
    cases h with
    | edit he =>
      cases he with
      | quiet hcore =>
        rw [show r'.state = r.state from congrArg (·.state) hcore, Record.Marked,
          show r'.cancelPending = r.cancelPending from congrArg (·.cancelPending) hcore,
          show r'.terminalCode = r.terminalCode from congrArg (·.terminalCode) hcore]
        exact hr.unmarked
      | running reservation hs hc =>
        simp only [← hr.terminal, hs]
        exact nofun
      | _ => exact hr.unmarked
    | mark cancel code message hs hlock hok =>
      rw [Record.mark_state (hr.terminal ▸ hs)]
      exact nofun
    | settle he =>
      intro hst
      cases he with
      | ended | reason =>
        simp only at hst
        split at hst <;> cases hst
      | failed error cancelPending state hs he hc hst' =>
        cases hst
        exact hst'.elim nofun nofun
    | succeed blob hs hlock hp hok =>
      rcases hpub hp with hset | ⟨-, hmark⟩
      · rw [hs] at hset
        cases hset
      · refine fun _ => hmark.resolve_right ?_
        rintro ⟨t, ht⟩
        rw [hlock] at ht
        cases ht
    | create hnew hid hnone => exact fun _ => hnew.marked
    | _ => exact hr.unmarked

/-- A record that is sound, or begins to be published, is sound. -/
lemma Change.sound {P : Prop} (h : Change L s id r r') (hr : r.Sane)
    (hsound : r.publishing = true ∨ P → r.Sound (s.Deciding id))
    (hnew : s.records.get? id = none → r.evidence = none ∧ r.settled = false)
    (hp : r'.publishing = true ∨ P) : r'.Sound (s.Deciding id) := by
  cases h with
  | same => exact hsound hp
  | edit he =>
    cases he with
    | quiet hcore =>
      have hsnd : r.Sound (s.Deciding id) :=
        hsound (hp.imp_left (congrArg (·.publishing) hcore).symm.trans)
      simp only [Record.Sound, Record.Marked] at hsnd ⊢
      rw [show r'.settled = r.settled from congrArg (·.settled) hcore,
        show r'.evidence = r.evidence from congrArg (·.evidence) hcore,
        show r'.cancelPending = r.cancelPending from congrArg (·.cancelPending) hcore,
        show r'.terminalCode = r.terminalCode from congrArg (·.terminalCode) hcore]
      exact hsnd
    | publish hs he hm => exact .inr ⟨he, .inl hm⟩
    | evidence e hnone =>
      exact (hsound hp).imp_right fun h => ⟨rfl, h.2⟩
    | published => exact hsound (.inr (hp.resolve_left nofun))
    | _ => exact hsound hp
  | mark cancel code message hs hlock hok =>
    rw [Record.mark_state (hr.terminal ▸ hs)] at hp ⊢
    exact (hsound hp).imp_right fun h => ⟨h.1, .inr hlock⟩
  | settle he => cases he <;> exact .inl rfl
  | succeed => exact .inl rfl
  | create hnew' hid hnone =>
    rw [hnew'.publishing] at hp
    rcases hsound (.inr (hp.resolve_left nofun)) with hs | ⟨he, -⟩
    · rw [(hnew hnone).2] at hs
      cases hs
    · rw [(hnew hnone).1] at he
      cases he
  | _ => exact hsound hp

/-- A settled record keeps its end. -/
structure Record.Kept (r r' : Record) : Prop where
  settled : r'.settled = true
  state : r'.state = r.state
  result : r'.result = r.result
  error : r'.error = r.error
  evidence : r'.evidence = r.evidence

lemma Change.kept (h : Change L s id r r') (hsome : r.evidence.isSome = true)
    (hs : r.settled = true) (hnew : s.records.get? id = none → r.settled = false) : r.Kept r' := by
  have hopen : r.settled ≠ false := by rw [hs]; nofun
  cases h with
  | edit he =>
    cases he with
    | quiet hcore =>
      exact ⟨(congrArg (·.settled) hcore).trans hs, congrArg (·.state) hcore,
        congrArg (·.result) hcore, congrArg (·.error) hcore, congrArg (·.evidence) hcore⟩
    | running reservation hs' => exact absurd hs' hopen
    | evidence e hnone =>
      rw [hnone] at hsome
      cases hsome
    | _ => exact ⟨hs, rfl, rfl, rfl, rfl⟩
  | mark cancel code message hs' => exact absurd hs' hopen
  | settle he =>
    cases he with
    | ended code message hs' | reason hs' | failed error cancelPending state hs' =>
      exact absurd hs' hopen
  | succeed blob hs' => exact absurd hs' hopen
  | create _ _ hnone => exact absurd (hnew hnone) hopen
  | _ => exact ⟨hs, rfl, rfl, rfl, rfl⟩

lemma Service.get_of_none (h : s.records.get? id = none) :
    (s.get id).evidence = none ∧ (s.get id).settled = false := by
  simp only [get, h]
  exact ⟨rfl, rfl⟩

/-! ### Moves -/

variable {p p' : List Debt × Service} {P : ExecutionId → Prop}

/-- The lock stays, is taken, or is left with everything decided. -/
lemma Move.lock (h : Move L p p') :
    p'.2.lock = p.2.lock ∨ (∀ id, p'.2.get id = p.2.get id) ∧ (p.2.lock = none ∨
      p'.2.lock = none ∧ ∀ t id, p.2.lock = some (t, some id) →
        (p.2.get id).Decided ∨ L.undecided id (p.2.get id).publishing) := by
  cases h with
  | frame h => exact .inl h.lock
  | @finish d s id =>
    obtain ⟨store, heq⟩ := s.finishIdempotency_eq id
    rw [heq]
    exact .inl rfl
  | mark | release | close | edit | claim | settle | succeed | store =>
    exact .inl (Service.update_lock ..)
  | take t x hnone => exact .inr ⟨fun _ => rfl, .inl hnone⟩
  | free hfree => exact .inr ⟨fun _ => rfl, .inr ⟨rfl, hfree⟩⟩
  | _ => exact .inl rfl

/-- Publishers keep the outcomes as long as nobody leaves an execution undecided that is being
published. -/
lemma Move.outcome (h : Move L p p') (hpub : ∀ id, L.publisher id → P id)
    (hund : ∀ id b, L.undecided id b → b = false ∧ ¬ P id) (ho : p.2.Outcome P) :
    p'.2.Outcome P := by
  intro id
  obtain ⟨hsane, hsound⟩ := ho id
  refine ⟨(h.change id).sane hsane fun hp => hsound (.inr (hpub id hp)), fun hp => ?_⟩
  rcases h.lock with hlock | ⟨hget, htake | ⟨-, hfree⟩⟩
  · have hdec : p'.2.Deciding id = p.2.Deciding id := by simp only [Service.Deciding, hlock]
    rw [hdec]
    exact (h.change id).sound hsane hsound Service.get_of_none hp
  · -- the lock was free, so nobody was to decide
    rw [hget] at hp ⊢
    refine (hsound hp).imp_right fun hs => ⟨hs.1, .inl (hs.2.resolve_right ?_)⟩
    rintro ⟨t, ht⟩
    rw [htake] at ht
    cases ht
  · rw [hget] at hp ⊢
    rcases hsound hp with hs | ⟨he, hm | ⟨t, ht⟩⟩
    · exact .inl hs
    · exact .inr ⟨he, .inl hm⟩
    · rcases hfree t id ht with (hs | hnone | hm) | hund'
      · exact .inl hs
      · rw [hnone] at he
        cases he
      · exact .inr ⟨he, .inl hm⟩
      · obtain ⟨hb, hP⟩ := hund id _ hund'
        rcases hp with hp | hp
        · rw [hb] at hp
          cases hp
        · exact absurd hp hP

lemma Moves.outcome (h : Relation.ReflTransGen (Move L) p p') (hpub : ∀ id, L.publisher id → P id)
    (hund : ∀ id b, L.undecided id b → b = false ∧ ¬ P id) (ho : p.2.Outcome P) :
    p'.2.Outcome P ∧
      ∀ id, (p.2.get id).settled = true → (p.2.get id).Kept (p'.2.get id) := by
  induction h with
  | refl => exact ⟨ho, fun id hs => ⟨hs, rfl, rfl, rfl, rfl⟩⟩
  | tail _ hm ih =>
    obtain ⟨ho', hkept⟩ := ih
    refine ⟨hm.outcome hpub hund ho', fun id hs => ?_⟩
    have h₁ := hkept id hs
    have hevidence := (ho' id).1.evidence h₁.settled
    have h₂ := (hm.change id).kept hevidence h₁.settled fun hnone => (Service.get_of_none hnone).2
    exact ⟨h₂.settled, h₂.state.trans h₁.state, h₂.result.trans h₁.result,
      h₂.error.trans h₁.error, h₂.evidence.trans h₁.evidence⟩

end

/-! ### Runs -/

namespace System

variable {w w' : System} {t u : TaskId} {co : Co} {e : Effect Co Value} {inp : Input} {a : Act}
  {id : ExecutionId}

/-- Some task publishes the result of the execution. -/
def hasPublisher (w : System) (id : ExecutionId) : Bool :=
  w.tasks.values.any fun
    | .running co => co.publishes = some id
    | .done _ => false

/-- The result of the execution is being published. -/
def isPublishing (w : System) (id : ExecutionId) : Bool :=
  (w.svc.get id).publishing || w.hasPublisher id

/-- No task is cancelled while it decides the end of an execution that is being published, and no
broken stream of such an execution lacks an adapter. -/
def decisive (w : System) : Act → Bool
  | .cancel t =>
    match w.tasks.get? t with
    | some (.running co) =>
      match co.holds with
      | some (some id) => !w.isPublishing id
      | _ => true
    | _ => true
  | .resume t _ =>
    match w.tasks.get? t with
    | some (.running co) =>
      match co.failing with
      | some id => !(decide (w.svc.Unbacked id) && w.isPublishing id)
      | none => true
    | _ => true
  | _ => true

lemma hasPublisher_iff : w.hasPublisher id = true ↔
    ∃ t co, w.Running t co ∧ co.publishes = some id := by
  simp only [hasPublisher, List.any_eq_true]
  constructor
  · rintro ⟨task, hmem, htask⟩
    obtain ⟨t, ht⟩ := Dict.mem_values_iff.mp hmem
    cases task with
    | running co => exact ⟨t, co, ht, of_decide_eq_true htask⟩
    | done r => cases htask
  · rintro ⟨t, co, hrun, hpub⟩
    exact ⟨.running co, Dict.mem_values_iff.mpr ⟨t, hrun⟩, decide_eq_true hpub⟩

/-- The licence of a task under `decisive`. -/
def publisher (w : System) (t : TaskId) (co : Co) : Licence :=
  { w.plain t co with
    publisher := fun id => co.publishes = some id
    undecided := fun id b => b = false ∧ ¬ w.hasPublisher id = true }

lemma publisher_turn (hw : w.Wf) (hrun : w.Running t co) (hlegal : inp.legal w.svc = true)
    (hok : w.decisive (.resume t inp) = true) (hstep : co.step w.svc (w.view t) inp = some e) :
    e.Clears (w.publisher t co) t (w.base co) (co.owes, w.svc) (·.stance (w.publisher t co)) := by
  refine hw.turn hrun rfl ⟨fun h => h, fun _ => trivial⟩ hlegal ?_ (fun _ h => h)
    (fun _ _ _ _ _ => .inr trivial) hstep
  refine { plain_wants t inp with undecided := ?_ }
  intro id hfail hback
  simp only [decisive, hrun, hfail, hback, decide_true, Bool.true_and, isPublishing,
    Bool.not_eq_true', Bool.or_eq_false_iff] at hok
  exact ⟨hok.1, by simp [hok.2]⟩

/-- Outcomes are sound in the whole system. -/
def Outcomes (w : System) : Prop := w.svc.Outcome fun id => w.hasPublisher id = true

/-- A step keeps outcomes sound and settled executions as they are. -/
lemma Outcomes.step (hw : w.Wf) (ho : w.Outcomes) (hok : w.decisive a = true)
    (h : w.step a = some w') :
    w'.Outcomes ∧
      ∀ id, (w.svc.get id).settled = true → (w.svc.get id).Kept (w'.svc.get id) := by
  have hrefl : ∀ id, (w.svc.get id).settled = true → (w.svc.get id).Kept (w.svc.get id) :=
    fun id hs => ⟨hs, rfl, rfl, rfl, rfl⟩
  rcases step_cases h with ⟨env, store, rfl, -⟩ | ⟨c, -, rfl⟩ |
    ⟨t, inp, co, e, rfl, hrun, hlegal, hstep, rfl⟩ | ⟨t, co, rfl, hrun, rfl⟩
  · exact ⟨ho, hrefl⟩
  · refine ⟨fun id => ⟨(ho id).1, fun hp => (ho id).2 (hp.imp_right fun hpub => ?_)⟩, hrefl⟩
    obtain ⟨u, co, hu, hpub⟩ := hasPublisher_iff.mp hpub
    rcases running_begun hu with ⟨-, rfl⟩ | hold
    · rw [Co.publishes, Co.stance₀, ApiCall.co_stance] at hpub
      cases hpub
    · exact hasPublisher_iff.mpr ⟨u, co, hold, hpub⟩
  · have hmeets := publisher_turn hw hrun hlegal hok hstep
    obtain ⟨ho', hkept⟩ := Moves.outcome (P := fun id => w.hasPublisher id = true)
      (turn_at hmeets).moves (fun id hp => hasPublisher_iff.mpr ⟨t, co, hrun, hp⟩)
      (fun id b hb => hb) ho
    refine ⟨fun id => ⟨(ho' id).1, fun hp => (ho' id).2 ?_⟩, hkept⟩
    refine hp.elim .inl fun hlive => ?_
    obtain ⟨u, co', hu, hpub⟩ := hasPublisher_iff.mp hlive
    rcases running_commit hw.fresh (hw.fresh.lt hrun) hu with
      ⟨rfl, hgoto⟩ | ⟨-, hold⟩ | ⟨-, sp, -, rfl⟩
    · simp only [Effect.Clears, Effect.Meets, hgoto] at hmeets
      have hpub' := hmeets.publishes id (by rw [co'.stance_publishes]; exact hpub)
      exact hpub'.elim (fun h => .inr (hasPublisher_iff.mpr ⟨u, co, hrun, h⟩)) .inl
    · exact .inr (hasPublisher_iff.mpr ⟨u, co', hold, hpub⟩)
    · rw [Co.publishes, Co.stance₀, Spawn.co_stance] at hpub
      cases hpub
  · have hat : At (w.publisher t co) t (w.base co) (co.owes, w.svc) [] none (co.thrown w.svc) := by
      refine hw.cancelled hrun rfl (fun id hholds => .inr ?_) fun _ _ => .inr trivial
      simp only [decisive, hrun, hholds, isPublishing, Bool.not_eq_true',
        Bool.or_eq_false_iff] at hok
      exact ⟨hok.1, by simp [hok.2]⟩
    obtain ⟨ho', hkept⟩ := Moves.outcome (P := fun id => w.hasPublisher id = true)
      hat.moves (fun id hp => hasPublisher_iff.mpr ⟨t, co, hrun, hp⟩) (fun id b hb => hb) ho
    refine ⟨fun id => ⟨(ho' id).1, fun hp => (ho' id).2 (hp.imp_right fun hpub => ?_)⟩, hkept⟩
    obtain ⟨u, co', hu, hpub⟩ := hasPublisher_iff.mp hpub
    exact hasPublisher_iff.mpr ⟨u, co', (running_killed hu).2, hpub⟩

lemma Starts.outcomes (h : w.Starts) : w.Outcomes := by
  obtain ⟨cfg, env, s, hs, rfl⟩ := h
  obtain ⟨cfg', rfl⟩ := init_ok hs
  refine fun id => ⟨⟨⟨rfl, fun _ => ⟨rfl, rfl⟩, nofun, nofun, nofun⟩, nofun, nofun⟩, ?_⟩
  rintro (⟨⟨⟩⟩ | hp)
  cases hp

lemma Run.kept (h : ModelSwitch.Run System.step (fun w a => w.decisive a = true) w w')
    (hw : w.Wf) (ho : w.Outcomes) :
    w'.Wf ∧ w'.Outcomes ∧
      ∀ id, (w.svc.get id).settled = true → (w.svc.get id).Kept (w'.svc.get id) := by
  induction h with
  | refl => exact ⟨hw, ho, fun id hs => ⟨hs, rfl, rfl, rfl, rfl⟩⟩
  | tail a _ hok hstep ih =>
    obtain ⟨hw', ho', hkept⟩ := ih
    obtain ⟨ho'', hkept'⟩ := ho'.step hw' hok hstep
    refine ⟨hw'.step hstep, ho'', fun id hs => ?_⟩
    have h₁ := hkept id hs
    have h₂ := hkept' id h₁.settled
    exact ⟨h₂.settled, h₂.state.trans h₁.state, h₂.result.trans h₁.result,
      h₂.error.trans h₁.error, h₂.evidence.trans h₁.evidence⟩

end System

end ModelSwitch.Execution

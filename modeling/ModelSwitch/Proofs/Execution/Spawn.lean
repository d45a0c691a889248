import ModelSwitch.Proofs.Execution.Steps

/-!
# Tasks that a step starts

Most sections start no task. A coroutine that owes a model a stop hires its quiescer, a timeout
leaves the late end of the backend call behind, a `submit` wakes the dispatcher of its session, and
only the scan of a dispatcher starts a `_run`, for executions that no other has claimed.
-/

namespace ModelSwitch.Execution

/-- At most one task is started, the quiescer that the service has on file. -/
def Hires (v : TaskView) (s : Service) (l : List Spawn) : Prop :=
  l = [] ∨ ∃ m, l = [.quiesceModel m] ∧ s.quiescers.get? m = some v.fresh

/-- A section starts at most the quiescer that it has put on file. -/
abbrev Effect.Hires {α ρ : Type} (e : Effect α ρ) (v : TaskView) : Prop :=
  Execution.Hires v e.next e.spawn

namespace Effect

variable {α β ρ τ : Type} {e : Effect α ρ} {wrap : α → β} {k : Service → Except Exc ρ → Effect β τ}
  {v : TaskView}

lemma bind_calm (h : e.spawn = []) (hk : ∀ s r, (k s r).spawn = []) :
    (e.bind wrap k).spawn = [] := by
  simp only [Effect.bind]
  split
  · exact h
  · simp only [h, hk, List.append_nil]

lemma bind_hires (h : e.spawn = []) (hk : ∀ s r, (k s r).Hires v) : (e.bind wrap k).Hires v := by
  simp only [Effect.bind]
  split
  · exact .inl h
  · simp only [h, List.nil_append]
    exact hk _ _

/-- A section of a coroutine inside another. -/
lemma map_calm {x : Option (Effect α ρ)} {e : Effect β τ}
    (h : x.map (·.bind wrap k) = some e) (hx : ∀ {e' : Effect α ρ}, x = some e' → e'.spawn = [])
    (hk : ∀ s r, (k s r).spawn = []) : e.spawn = [] := by
  obtain ⟨e', he', rfl⟩ := Option.map_eq_some_iff.mp h
  exact bind_calm (hx he') hk

lemma map_hires {x : Option (Effect α ρ)} {e : Effect β τ}
    (h : x.map (·.bind wrap k) = some e) (hx : ∀ {e' : Effect α ρ}, x = some e' → e'.spawn = [])
    (hk : ∀ s r, (k s r).Hires v) : e.Hires v := by
  obtain ⟨e', he', rfl⟩ := Option.map_eq_some_iff.mp h
  exact bind_hires (hx he') hk

/-- The caller only passes on what the coroutine has started. -/
lemma hires_bind (h : e.Hires v)
    (hk : ∀ s r, (k s r).next = s ∧ (k s r).spawn = []) : (e.bind wrap k).Hires v := by
  simp only [Effect.bind]
  split
  · exact h
  · simp only [(hk _ _).1, (hk _ _).2, List.append_nil]
    exact h

lemma hires_map {x : Option (Effect α ρ)} {e : Effect β τ}
    (h : x.map (·.bind wrap k) = some e)
    (hx : ∀ {e' : Effect α ρ}, x = some e' → e'.Hires v)
    (hk : ∀ s r, (k s r).next = s ∧ (k s r).spawn = []) : e.Hires v := by
  obtain ⟨e', he', rfl⟩ := Option.map_eq_some_iff.mp h
  exact hires_bind (hx he') hk

end Effect

section

variable {s : Service} {v : TaskView} {id : ExecutionId} {inp : Input} {r : Except Exc Unit}

lemma withLock_calm {α ρ : Type} {section_ e : Effect α ρ} (hs : section_.spawn = [])
    (h : withLock s section_ inp = some e) : e.spawn = [] := by
  rw [(withLock_some h).2, hs]

/-! ### Parts that start nothing -/

namespace Teardown

lemma input_calm : (input s id).spawn = [] := by
  simp only [input, output]
  split
  · split <;> rfl
  · split
    · split <;> rfl
    · rfl

lemma start_calm : (start s id).spawn = [] := by
  simp only [start]
  split
  · exact input_calm
  · split
    · exact input_calm
    · rfl

lemma step_calm {pc : Pc} {e : Effect Pc Unit} (h : step s id pc inp = some e) :
    e.spawn = [] := by
  simp only [step] at h
  split at h <;> cases h
  · exact input_calm
  · rfl
  · simp only [output]; split <;> rfl
  all_goals rfl

end Teardown

namespace CancelSideEffects

lemma cancelReservation_calm : (cancelReservation s id).spawn = [] := by
  simp only [cancelReservation]
  split <;> rfl

lemma start_calm : (start s id).spawn = [] := by
  simp only [start]
  split
  · rfl
  · exact cancelReservation_calm

lemma step_calm {pc : Pc} {e : Effect Pc Unit} (h : step s id pc inp = some e) :
    e.spawn = [] := by
  simp only [step] at h
  split at h <;> cases h
  · exact cancelReservation_calm
  all_goals rfl

end CancelSideEffects

namespace PublishAndSettle

lemma start_calm : (start s id).spawn = [] := by
  simp only [start]
  split <;> rfl

lemma step_calm {pc : Pc} {e : Effect Pc Unit} (h : step s id pc inp = some e) :
    e.spawn = [] := by
  cases pc with
  | writing => cases inp <;> cases h; rfl
  | settle failure published =>
    refine withLock_calm ?_ h
    simp only [settle]
    split
    · rfl
    · exact Effect.bind_calm Teardown.start_calm fun _ _ => rfl
  | tearing pc =>
    exact Effect.map_calm h Teardown.step_calm fun _ _ => rfl

end PublishAndSettle

namespace Advance

lemma teardown_calm {settled : Bool} : (teardown s id settled).spawn = [] := by
  simp only [teardown]
  split
  · exact Effect.bind_calm Teardown.start_calm fun _ _ => rfl
  · rfl

lemma published_calm : (published s id r).spawn = [] := by
  cases r with
  | ok _ => exact teardown_calm
  | error e => rfl

lemma start_calm {settled : Bool} : (start s id settled).spawn = [] := by
  simp only [start]
  split
  · exact Effect.bind_calm PublishAndSettle.start_calm fun _ _ => published_calm
  · exact teardown_calm

lemma step_calm {pc : Pc} {e : Effect Pc Unit} (h : step s id pc inp = some e) :
    e.spawn = [] := by
  cases pc with
  | publishing pc =>
    exact Effect.map_calm h PublishAndSettle.step_calm fun _ _ => published_calm
  | tearing pc =>
    exact Effect.map_calm h Teardown.step_calm fun _ _ => rfl

end Advance

lemma returnView_calm {α : Type} : (returnView s id : Effect α Value).spawn = [] := by
  simp only [returnView]
  split <;> rfl

lemma advanced_calm {α : Type} : (advanced id s r : Effect α Value).spawn = [] := by
  cases r with
  | ok _ => exact returnView_calm
  | error e => rfl

namespace Cancel

variable {c : CancelCall}

lemma advance_calm {settled : Bool} : (advance s c settled).spawn = [] :=
  Effect.bind_calm Advance.start_calm fun _ _ => advanced_calm

lemma concluded_calm : (concluded c s r).spawn = [] := by
  cases r with
  | ok _ => exact advance_calm
  | error e => rfl

lemma step_calm {pc : Pc} {e : Effect Pc Value} (h : step s v c pc inp = some e) :
    e.spawn = [] := by
  cases pc with
  | enter =>
    refine withLock_calm ?_ h
    simp only [enter]
    split
    · rfl
    · split
      · exact returnView_calm
      · split
        · exact advance_calm
        · exact Effect.bind_calm CancelSideEffects.start_calm fun _ _ => concluded_calm
  | effects pc =>
    exact Effect.map_calm h CancelSideEffects.step_calm fun _ _ => concluded_calm
  | advancing pc =>
    exact Effect.map_calm h Advance.step_calm fun _ _ => advanced_calm

end Cancel

namespace ReportOutput

variable {body : Body}

lemma dropped_calm : (dropped id s r).spawn = [] := by
  cases r with
  | ok _ => exact returnView_calm
  | error e => rfl

lemma step_calm {pc : Pc} {e : Effect Pc Value} (h : step s v id body pc inp = some e) :
    e.spawn = [] := by
  cases pc with
  | enter =>
    refine withLock_calm ?_ h
    simp only [enter]
    split
    · rfl
    · split
      · exact returnView_calm
      · split
        · exact Effect.bind_calm CancelSideEffects.cancelReservation_calm fun _ _ => dropped_calm
        · split
          · rfl
          · exact Effect.bind_calm Advance.start_calm fun _ _ => advanced_calm
  | dropping pc =>
    exact Effect.map_calm h CancelSideEffects.step_calm fun _ _ => dropped_calm
  | advancing pc =>
    exact Effect.map_calm h Advance.step_calm fun _ _ => advanced_calm

end ReportOutput

namespace ReportTerminal

variable {evidence : TerminationEvidence}

lemma step_calm {pc : Pc} {e : Effect Pc Value} (h : step s id evidence pc inp = some e) :
    e.spawn = [] := by
  cases pc with
  | enter =>
    refine withLock_calm ?_ h
    simp only [enter]
    split
    · rfl
    · split
      · rfl
      · split
        · rfl
        · split
          · exact returnView_calm
          · exact Effect.bind_calm Advance.start_calm fun _ _ => advanced_calm
  | advancing pc =>
    exact Effect.map_calm h Advance.step_calm fun _ _ => advanced_calm

end ReportTerminal

namespace Drain

variable {session : SessionId}

lemma teardown_calm {ids : List ExecutionId} : (teardown s ids).spawn = [] := by
  induction ids generalizing s with
  | nil => rfl
  | cons id ids ih =>
    refine Effect.bind_calm Teardown.start_calm fun s' r => ?_
    cases r with
    | ok _ => exact ih
    | error e => rfl

lemma loop_calm {todo settled : List ExecutionId} :
    (loop v session s settled todo).spawn = [] := by
  induction todo generalizing s settled with
  | nil => exact teardown_calm
  | cons id todo ih =>
    simp only [loop]
    split
    · exact ih
    · split
      · exact ih
      · refine Effect.bind_calm CancelSideEffects.start_calm fun s' r => ?_
        cases r with
        | ok _ => exact ih
        | error e => rfl

lemma step_calm {pc : Pc} {e : Effect Pc Unit} (h : step v session s pc inp = some e) :
    e.spawn = [] := by
  cases pc with
  | enter => exact withLock_calm loop_calm h
  | effects id todo settled pc =>
    refine Effect.map_calm h CancelSideEffects.step_calm fun s' r => ?_
    cases r with
    | ok _ => exact loop_calm
    | error e => rfl
  | tearing id rest pc =>
    refine Effect.map_calm h Teardown.step_calm fun s' r => ?_
    cases r with
    | ok _ => exact teardown_calm
    | error e => rfl

end Drain

namespace QuiesceModel

variable {model : ModelId} {graceUntil : Time}

lemma rest_calm : (rest s graceUntil).spawn = [] := by
  simp only [rest]
  split <;> rfl

lemma releaseNext_calm {todo ids : List ExecutionId} :
    (releaseNext s model graceUntil todo ids).spawn = [] := by
  cases ids <;> rfl

lemma settleNext_calm {ids : List ExecutionId} : (settleNext s graceUntil ids).spawn = [] := by
  cases ids with
  | nil => exact rest_calm
  | cons id ids => rfl

lemma advanced_calm {ids : List ExecutionId} : (advanced graceUntil ids s r).spawn = [] := by
  cases r with
  | ok _ => exact settleNext_calm
  | error e => rfl

lemma scan_calm : (scan s model graceUntil).spawn = [] := by
  simp only [scan, apply_ite Effect.spawn, rest_calm, releaseNext_calm, ite_self]
  split <;> rfl

lemma release_calm {todo ids : List ExecutionId} :
    (release s model graceUntil todo ids).spawn = [] := by
  cases ids with
  | nil => rfl
  | cons id ids =>
    simp only [release]
    split
    · exact releaseNext_calm
    · split
      · exact releaseNext_calm
      · rfl

lemma settle_calm {ids : List ExecutionId} : (settle s graceUntil ids).spawn = [] := by
  cases ids with
  | nil => exact rest_calm
  | cons id ids =>
    simp only [settle]
    split
    · exact settleNext_calm
    · split
      · exact settleNext_calm
      · split
        · rfl
        · exact Effect.bind_calm Advance.start_calm fun _ _ => advanced_calm

lemma step_calm {pc : Pc} {e : Effect Pc Unit} (h : step s model pc inp = some e) :
    e.spawn = [] := by
  simp only [step] at h
  split at h
  · cases h; rfl
  · exact withLock_calm scan_calm h
  · exact withLock_calm release_calm h
  · cases h; exact releaseNext_calm
  · cases h; rfl
  · cases h; exact settleNext_calm
  · cases h; exact rest_calm
  · exact withLock_calm settle_calm h
  · exact Effect.map_calm h Advance.step_calm fun _ _ => advanced_calm
  · split at h
    · cases h
    · cases h; rfl
  · cases h

end QuiesceModel

namespace OnTimeout

lemma concluded_calm : (concluded id s r).spawn = [] := by
  cases r with
  | ok _ =>
    simp only [concluded]
    split
    · exact Effect.bind_calm Teardown.start_calm fun _ _ => rfl
    · rfl
  | error e => rfl

lemma step_calm {pc : Pc} {e : Effect Pc Unit} (h : step s v id pc inp = some e) :
    e.spawn = [] := by
  cases pc with
  | enter =>
    refine withLock_calm ?_ h
    simp only [enter]
    split
    · rfl
    · exact Effect.bind_calm CancelSideEffects.start_calm fun _ _ => concluded_calm
  | effects pc =>
    exact Effect.map_calm h CancelSideEffects.step_calm fun _ _ => concluded_calm
  | tearing pc =>
    exact Effect.map_calm h Teardown.step_calm fun _ _ => rfl

end OnTimeout

/-! ### Parts that hire a quiescer -/

lemma ensureQuiescer_hires (m : ModelId) :
    Hires v (s.ensureQuiescer v m).1 (s.ensureQuiescer v m).2 := by
  simp only [Service.ensureQuiescer]
  split
  · exact .inr ⟨m, rfl, by simp only [Dict.get?_set, if_true]⟩
  · exact .inl rfl

lemma quiesceIf_hires {α : Type} {needed : Bool} :
    (quiesceIf needed v id s : Effect α Unit).Hires v := by
  simp only [quiesceIf]
  split
  · exact ensureQuiescer_hires _
  · exact .inl rfl

namespace TerminateUncertain

variable {needQuiesce : Bool}

lemma torn_hires : (torn v id needQuiesce s r).Hires v := by
  cases r with
  | ok _ => exact quiesceIf_hires
  | error e => exact .inl rfl

lemma concluded_hires : (concluded v id needQuiesce s r).Hires v := by
  cases r with
  | ok _ =>
    simp only [concluded]
    split
    · exact Effect.bind_hires Teardown.start_calm fun _ _ => torn_hires
    · exact quiesceIf_hires
  | error e => exact .inl rfl

lemma step_hires {pc : Pc} {e : Effect Pc Unit} (h : step s v id pc inp = some e) : e.Hires v := by
  cases pc with
  | enter message =>
    obtain ⟨-, rfl⟩ := withLock_some h
    simp only [enter]
    split
    · exact .inl rfl
    · split
      · exact .inl rfl
      · exact Effect.bind_hires CancelSideEffects.start_calm fun _ _ => concluded_hires
  | effects needQuiesce pc =>
    exact Effect.map_hires h CancelSideEffects.step_calm fun _ _ => concluded_hires
  | tearing needQuiesce pc =>
    exact Effect.map_hires h Teardown.step_calm fun _ _ => torn_hires

end TerminateUncertain

namespace AfterExecute

variable {needQuiesce cancelPending : Bool} {handle : ExecutionHandle}

lemma finish_hires : (finish v id needQuiesce cancelPending s r).Hires v := by
  cases r with
  | ok _ =>
    simp only [finish]
    split
    · exact ensureQuiescer_hires _
    · exact .inl rfl
  | error e => exact .inl rfl

lemma resolve_hires : (resolve v id s handle).Hires v := by
  simp only [resolve]
  split
  · exact .inl rfl
  · exact Effect.bind_hires Advance.start_calm fun _ _ => finish_hires

lemma dropped_hires : (dropped v id handle s r).Hires v := by
  cases r with
  | ok _ => exact resolve_hires
  | error e => exact .inl rfl

lemma deliver_hires {body : Option Body} : (deliver v id handle s body).Hires v := by
  cases body with
  | none => exact resolve_hires
  | some body =>
    simp only [deliver]
    split
    · exact Effect.bind_hires CancelSideEffects.cancelReservation_calm fun _ _ => dropped_hires
    · split
      · exact resolve_hires
      · exact resolve_hires

lemma start_calm {body : Option Body} {r : Except Exc ExecutionHandle} :
    (start s id body r).spawn = [] := by
  simp only [start]
  split
  · rfl
  · rfl
  · rfl
  · split <;> rfl

lemma step_hires {pc : Pc} {e : Effect Pc Unit} (h : step s v id pc inp = some e) : e.Hires v := by
  cases pc with
  | localEnd code message =>
    refine .inl (withLock_calm ?_ h)
    simp only [localEnd]
    split
    · rfl
    · split
      · rfl
      · exact Effect.bind_calm Teardown.start_calm fun _ _ => rfl
  | tearing pc =>
    exact .inl (Effect.map_calm h Teardown.step_calm fun _ _ => rfl)
  | settle handle body =>
    obtain ⟨-, rfl⟩ := withLock_some h
    simp only [settle]
    split
    · exact .inl rfl
    · exact deliver_hires
  | dropping handle pc =>
    exact Effect.map_hires h CancelSideEffects.step_calm fun _ _ => dropped_hires
  | advancing needQuiesce cancelPending pc =>
    exact Effect.map_hires h Advance.step_calm fun _ _ => finish_hires
  | cancelling =>
    cases inp <;> cases h
    exact .inl rfl
  | uncertain pc =>
    exact Effect.hires_map h TerminateUncertain.step_hires fun _ _ => ⟨rfl, rfl⟩

end AfterExecute

namespace LateExecute

lemma step_hires {pc : Pc} {e : Effect Pc Unit} (h : step s v id pc inp = some e) : e.Hires v := by
  cases pc with
  | waiting =>
    cases inp <;> cases h
    exact .inl (Effect.bind_calm AfterExecute.start_calm fun _ _ => rfl)
  | after pc =>
    exact Effect.hires_map h AfterExecute.step_hires fun _ _ => ⟨rfl, rfl⟩

end LateExecute

/-! ### `_run` -/

namespace Run

lemma failed_calm {e : Exc} : (failed s e).spawn = [] := by
  simp only [failed]
  split <;> rfl

lemma failed_next {e : Exc} : (failed s e).next = s := by
  simp only [failed]
  split <;> rfl

lemma guarded_calm : (guarded s r).next = s ∧ (guarded s r).spawn = [] := by
  cases r with
  | ok _ => exact ⟨rfl, rfl⟩
  | error e => exact ⟨failed_next, failed_calm⟩

lemma teardown_calm : (teardown s id).spawn = [] :=
  Effect.bind_calm Teardown.start_calm fun _ _ => guarded_calm.2

lemma guard_calm : (guard s id).spawn = [] := by
  simp only [guard]
  repeat' split
  all_goals rfl

lemma refuse_calm {code : { code : String // code ≠ "" }} {message : String} :
    (refuse s id code message).spawn = [] := by
  simp only [refuse]
  split
  · rfl
  · exact teardown_calm

lemma opened_calm {r : Except Exc String} : (opened s id r).spawn = [] := by
  simp only [opened]
  split
  · rfl
  · rfl
  · exact failed_calm

lemma acquired_calm {path : Option String} {r : Except Exc Lease} :
    (acquired s id path r).spawn = [] := by
  simp only [acquired]
  split
  · rfl
  · rfl
  · rfl
  · split
    · rfl
    · split <;> rfl

lemma handOver_calm {path : Option String} {lease : Lease} :
    (handOver s id path lease).spawn = [] := by
  simp only [handOver]
  split
  · exact teardown_calm
  · rfl

lemma dispatch_calm {path : Option String} {fence : Fence} {reservation : OutputReservation} :
    (dispatch s id path fence reservation).spawn = [] := by
  simp only [dispatch, execute]
  split
  · rfl
  · split
    · rfl
    · exact failed_calm

/-- What the handler of a timeout starts. -/
lemma timedOut_spawn {pc : OnTimeout.Pc} {e : Effect OnTimeout.Pc Unit}
    (h : OnTimeout.step s v id pc inp = some e) :
    (e.bind Pc.timingOut fun s r =>
      match r with
      | .ok () => { next := s, spawn := [.lateExecute id], ctl := .ret () }
      | .error e => failed s e).spawn = [] ∨
    (e.bind Pc.timingOut fun s r =>
      match r with
      | .ok () => { next := s, spawn := [.lateExecute id], ctl := .ret () }
      | .error e => failed s e).spawn = [.lateExecute id] := by
  have hcalm := OnTimeout.step_calm h
  simp only [Effect.bind]
  split
  · exact .inl hcalm
  · next r hr =>
    rw [hcalm]
    cases r with
    | ok _ => exact .inr rfl
    | error e => exact .inl failed_calm

lemma step_spawn {pc : Pc} {e : Effect Pc Unit} (h : step s v id pc inp = some e) :
    e.Hires v ∨ e.spawn = [.lateExecute id] := by
  simp only [step] at h
  split at h
  · exact .inl (.inl (withLock_calm guard_calm h))
  · exact .inl (.inl (withLock_calm refuse_calm h))
  · cases h; exact .inl (.inl opened_calm)
  · exact .inl (.inl (withLock_calm teardown_calm h))
  · exact .inl (.inl (withLock_calm rfl h))
  · cases h; exact .inl (.inl acquired_calm)
  · exact .inl (.inl (withLock_calm teardown_calm h))
  · exact .inl (.inl (withLock_calm rfl h))
  · exact .inl (.inl (withLock_calm handOver_calm h))
  · cases h; exact .inl (.inl rfl)
  · cases h; exact .inl (.inl failed_calm)
  · exact .inl (.inl (withLock_calm dispatch_calm h))
  · cases h; exact .inl (.inl rfl)
  · cases h; exact .inl (.inl teardown_calm)
  · cases h; exact .inl (.inl teardown_calm)
  · exact .inl (.inl (Effect.map_calm h Teardown.step_calm fun _ _ => guarded_calm.2))
  · cases h
    exact .inl (.inl (Effect.bind_calm AfterExecute.start_calm fun _ _ => guarded_calm.2))
  · split at h
    · cases h
    · cases h; exact .inl (.inl rfl)
  · exact .inl (Effect.hires_map h AfterExecute.step_hires fun _ _ => guarded_calm)
  · obtain ⟨e', he', rfl⟩ := Option.map_eq_some_iff.mp h
    exact (timedOut_spawn he').imp_left .inl
  · exact .inl (Effect.hires_map h TerminateUncertain.step_hires fun _ _ => ⟨rfl, rfl⟩)
  · cases h

end Run

/-! ### Every coroutine -/

/-- The tasks that a step of a task starts. -/
inductive Co.Starts (s : Service) (v : TaskView) (s' : Service) : Co → List Spawn → Prop
  | hires {co : Co} {l : List Spawn} (h : Hires v s' l) : Starts s v s' co l
  | late (id : ExecutionId) (pc : Run.Pc) : Starts s v s' (.run id pc) [.lateExecute id]
  | dispatcher {co : Co} (session : SessionId) : Starts s v s' co [.dispatchLoop session]
  | runs (session : SessionId)
      (h : s' = (DispatchLoop.heads s session).foldl DispatchLoop.claim
        ((DispatchLoop.expired s session).foldl DispatchLoop.expire s)) :
      Starts s v s' (.dispatchLoop session .scan)
        ((DispatchLoop.heads s session).map (.run ·.executionId))

namespace Submit

variable {c : SubmitCall}

/-- At most the dispatcher of the session is started. -/
def Wakes (c : SubmitCall) (e : Effect Empty Value) : Prop :=
  e.spawn = [] ∨ e.spawn = [.dispatchLoop c.sessionId]

lemma wakes_ite {p : Prop} [Decidable p] {e e' : Effect Empty Value} (h : Wakes c e)
    (h' : Wakes c e') : Wakes c (if p then e else e') := by
  split
  · exact h
  · exact h'

lemma ensureDispatcher_wakes (s : Service) (session : SessionId) :
    (s.ensureDispatcher v session).2 = [] ∨
      (s.ensureDispatcher v session).2 = [.dispatchLoop session] := by
  simp only [Service.ensureDispatcher]
  split
  · exact .inr rfl
  · exact .inl rfl

lemma refused_wakes {idem : Option Uuid} {e : Exc} : Wakes c (refused s idem e) := by
  simp only [refused]
  split
  · exact wakes_ite (.inl rfl) (.inl rfl)
  · exact .inl rfl

lemma claimed_wakes {session : SessionRecord} {idem : Option Uuid} :
    Wakes c (claimed v c s session idem) := by
  simp only [claimed]
  split
  · exact refused_wakes
  · simp only [create]
    split
    · exact refused_wakes
    · exact ensureDispatcher_wakes _ _

lemma begin_wakes : Wakes c (begin s v c) := by
  simp only [begin]
  split
  · exact .inl rfl
  · split
    · exact .inl rfl
    · refine wakes_ite (.inl rfl) (wakes_ite ?_ claimed_wakes)
      split
      · exact .inl rfl
      · refine wakes_ite ?_ claimed_wakes
        split
        · exact .inl rfl
        · split
          · exact .inl rfl
          · exact .inl returnView_calm

end Submit

lemma Effect.lift_next {α ρ : Type} (e : Effect α ρ) (wrap : α → Co) (value : ρ → Value) :
    (e.lift wrap value).next = e.next ∧ (e.lift wrap value).spawn = e.spawn := by
  simp only [Effect.lift, Effect.bind]
  split
  · exact ⟨rfl, rfl⟩
  · exact ⟨rfl, List.append_nil _⟩

/-- A section of a coroutine that starts nothing, as one of its task. -/
lemma Effect.lift_calm {α ρ : Type} {x : Option (Effect α ρ)} {wrap : α → Co} {value : ρ → Value}
    {e : Effect Co Value} (h : x.map (·.lift wrap value) = some e)
    (hx : ∀ {e' : Effect α ρ}, x = some e' → e'.spawn = []) : e.spawn = [] := by
  obtain ⟨e', he', rfl⟩ := Option.map_eq_some_iff.mp h
  rw [(lift_next _ _ _).2, hx he']

lemma Effect.lift_goto {α ρ : Type} {e : Effect α ρ} {wrap : α → Co} {value : ρ → Value} {co : Co}
    (h : (e.lift wrap value).ctl = .goto co) : ∃ pc, e.ctl = .goto pc ∧ co = wrap pc := by
  simp only [Effect.lift, Effect.bind] at h
  split at h
  · next pc hpc => cases h; exact ⟨pc, hpc, rfl⟩
  · cases h

lemma Co.step_starts {co : Co} {e : Effect Co Value} (h : co.step s v inp = some e) :
    Co.Starts s v e.next co e.spawn := by
  cases co with
  | submit c =>
    obtain ⟨e', he', rfl⟩ := Option.map_eq_some_iff.mp h
    obtain ⟨-, rfl⟩ := withLock_some he'
    rw [(Effect.lift_next _ _ _).2]
    rcases (Submit.begin_wakes : Submit.Wakes c (Submit.begin s v c)) with hs | hs
    · rw [hs]; exact .hires (.inl rfl)
    · rw [hs]; exact .dispatcher c.sessionId
  | cancel c pc => exact .hires (.inl (Effect.lift_calm h Cancel.step_calm))
  | reportOutput id body pc => exact .hires (.inl (Effect.lift_calm h ReportOutput.step_calm))
  | reportTerminal id evidence pc =>
    exact .hires (.inl (Effect.lift_calm h ReportTerminal.step_calm))
  | onSessionDraining session pc => exact .hires (.inl (Effect.lift_calm h Drain.step_calm))
  | dispatchLoop session pc =>
    obtain ⟨e', he', rfl⟩ := Option.map_eq_some_iff.mp h
    rw [(Effect.lift_next _ _ _).2, (Effect.lift_next _ _ _).1]
    cases pc with
    | begin => cases inp <;> cases he'; exact .hires (.inl rfl)
    | scan =>
      obtain ⟨-, rfl⟩ := withLock_some he'
      simp only [DispatchLoop.scan]
      split
      · exact .hires (.inl rfl)
      · exact .runs session rfl
    | sleeping wake =>
      cases inp <;> try cases he'
      simp only [DispatchLoop.step] at he'
      split at he'
      · cases he'
      · cases he'; exact .hires (.inl rfl)
  | run id pc =>
    obtain ⟨e', he', rfl⟩ := Option.map_eq_some_iff.mp h
    rw [(Effect.lift_next _ _ _).2, (Effect.lift_next _ _ _).1]
    rcases Run.step_spawn he' with hs | hs
    · exact .hires hs
    · rw [hs]; exact .late id pc
  | lateExecute id pc =>
    obtain ⟨e', he', rfl⟩ := Option.map_eq_some_iff.mp h
    rw [(Effect.lift_next _ _ _).2, (Effect.lift_next _ _ _).1]
    exact .hires (LateExecute.step_hires he')
  | quiesceModel model pc => exact .hires (.inl (Effect.lift_calm h QuiesceModel.step_calm))

end

end ModelSwitch.Execution

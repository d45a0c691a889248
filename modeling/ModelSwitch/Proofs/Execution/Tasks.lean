import ModelSwitch.Proofs.Execution.Route

/-!
# The tasks of a running service

What holds of the tasks in every reachable state, whatever the ports answer and whichever task is
cancelled: a task that is under the lock holds it, an execution has at most one `_run` and is
claimed while it has one, and a model has at most one quiescer.
-/

namespace ModelSwitch.Execution

/-! ### Stances do not depend on the licence -/

/-- Everything is allowed, and nothing is known of the data. -/
def Licence.lax (v : TaskView) : Licence where
  view := v
  strict := False
  named _ := True
  publisher _ := True
  fences _ := True
  grants _ _ := True
  hands _ _ := True
  opens _ _ := True
  stores _ _ := True
  retries _ := True
  undecided _ _ := True
  forgets _ := True
  dispatches _ := True
  thaws _ := True
  proves _ := True
  submits := True

/-- Two stances that differ at most in what is known of the data. -/
structure Stance.Same (st st' : Stance) : Prop where
  owes : st.owes = st'.owes
  holds : st.holds = st'.holds
  publishes : st.publishes = st'.publishes
  tears : st.tears = st'.tears
  files : st.files = st'.files
  fragile : st.fragile = st'.fragile

section

variable {L L' : Licence} {id : ExecutionId}

lemma Stance.Same.refl (st : Stance) : st.Same st := ⟨rfl, rfl, rfl, rfl, rfl, rfl⟩

lemma Advance.same (pc : Advance.Pc) : (Advance.stance L id pc).Same (Advance.stance L' id pc) := by
  cases pc with
  | publishing pc =>
    cases pc with
    | tearing pc => exact .refl _
    | _ => exact ⟨rfl, rfl, rfl, rfl, rfl, rfl⟩
  | tearing pc => exact .refl _

lemma TerminateUncertain.same (pc : TerminateUncertain.Pc) :
    (TerminateUncertain.stance L id pc).Same (TerminateUncertain.stance L' id pc) := by
  cases pc with
  | tearing needQuiesce pc => exact .refl _
  | _ => exact ⟨rfl, rfl, rfl, rfl, rfl, rfl⟩

lemma AfterExecute.same (pc : AfterExecute.Pc) :
    (AfterExecute.stance L id pc).Same (AfterExecute.stance L' id pc) := by
  cases pc with
  | tearing pc => exact .refl _
  | advancing needQuiesce cancelPending pc => exact Advance.same pc
  | uncertain pc => exact TerminateUncertain.same pc
  | _ => exact ⟨rfl, rfl, rfl, rfl, rfl, rfl⟩

lemma Run.same (pc : Run.Pc) : (Run.stance L id pc).Same (Run.stance L' id pc) := by
  cases pc with
  | tearing pc => exact .refl _
  | after pc => exact AfterExecute.same pc
  | timingOut pc => exact .refl _
  | uncertain pc => exact TerminateUncertain.same pc
  | _ => exact ⟨rfl, rfl, rfl, rfl, rfl, rfl⟩

lemma Co.same (co : Co) : (co.stance L).Same (co.stance L') := by
  cases co with
  | submit c => exact .refl _
  | cancel c pc | reportOutput id body pc | reportTerminal id evidence pc =>
    cases pc with
    | advancing pc => exact Advance.same pc
    | _ => exact ⟨rfl, rfl, rfl, rfl, rfl, rfl⟩
  | onSessionDraining session pc | dispatchLoop session pc => exact .refl _
  | run id pc => exact Run.same pc
  | lateExecute id pc =>
    cases pc with
    | after pc => exact AfterExecute.same pc
    | _ => exact ⟨rfl, rfl, rfl, rfl, rfl, rfl⟩
  | quiesceModel model pc =>
    cases pc with
    | advancing graceUntil ids id pc => exact Advance.same pc
    | _ => exact ⟨rfl, rfl, rfl, rfl, rfl, rfl⟩

end

namespace Co

/-- The stance of a task, of which only the part without the data is used. -/
def stance₀ (co : Co) : Stance := co.stance (.lax { self := 0, fresh := 0, ended := fun _ => true })

/-- What the task still has to return. -/
def owes (co : Co) : List Debt := co.stance₀.owes

/-- The execution a task decides under the lock, if it holds the lock. -/
def holds (co : Co) : Option (Option ExecutionId) := co.stance₀.holds

/-- The execution whose result the task publishes. -/
def publishes (co : Co) : Option ExecutionId := co.stance₀.publishes

/-- The settled executions the task tears down. -/
def tears (co : Co) : List ExecutionId := co.stance₀.tears

/-- The executions the task knows to be on file. -/
def files (co : Co) : List ExecutionId := co.stance₀.files

variable (L : Licence) (co : Co)

lemma stance_owes : (co.stance L).owes = co.owes := co.same.owes

lemma stance_holds : (co.stance L).holds = co.holds := co.same.holds

lemma stance_publishes : (co.stance L).publishes = co.publishes := co.same.publishes

lemma stance_tears : (co.stance L).tears = co.tears := co.same.tears

lemma stance_files : (co.stance L).files = co.files := co.same.files

/-- The coroutine without the place where it is suspended. -/
def origin : Co → Co
  | .submit c => .submit c
  | .cancel c _ => .cancel c .enter
  | .reportOutput id body _ => .reportOutput id body .enter
  | .reportTerminal id evidence _ => .reportTerminal id evidence .enter
  | .onSessionDraining session _ => .onSessionDraining session .enter
  | .dispatchLoop session _ => .dispatchLoop session .begin
  | .run id _ => .run id .guard
  | .lateExecute id _ => .lateExecute id .waiting
  | .quiesceModel model _ => .quiesceModel model .begin

end Co

lemma Spawn.co_stance (sp : Spawn) (L : Licence) : sp.co.stance L = {} := by
  cases sp <;> rfl

lemma ApiCall.co_stance (c : ApiCall) (L : Licence) : c.co.stance L = {} := by
  cases c <;> rfl

/-- A task goes on with the coroutine it runs. -/
lemma Co.step_origin {co co' : Co} {s : Service} {v : TaskView} {inp : Input}
    {e : Effect Co Value} (h : co.step s v inp = some e) (hgoto : e.ctl = .goto co') :
    co'.origin = co.origin := by
  cases co <;> obtain ⟨e', -, rfl⟩ := Option.map_eq_some_iff.mp h <;>
    obtain ⟨pc, -, rfl⟩ := Effect.lift_goto hgoto <;> rfl

/-- An execution goes back to the queue with the last step of its `_run`. -/
lemma Co.retry_done {id : ExecutionId} {s : Service} {v : TaskView} {inp : Input}
    {e : Effect Co Value} (h : Co.step s v (.run id .retry) inp = some e) :
    e.ctl = .done (.ok .unit) := by
  obtain ⟨e', he', rfl⟩ := Option.map_eq_some_iff.mp h
  obtain ⟨-, rfl⟩ := withLock_some he'
  rfl

/-! ### Tasks after a step -/

lemma startTasks_get? (l : List Spawn) (tasks : Dict ℕ Task) (next : ℕ)
    (hfresh : ∀ u, next ≤ u → tasks.get? u = none) (u : ℕ) :
    (startTasks l (tasks, next)).1.get? u =
      if next ≤ u then l[u - next]?.map fun sp => .running sp.co else tasks.get? u := by
  induction l generalizing tasks next with
  | nil =>
    simp only [startTasks, List.getElem?_nil, Option.map_none]
    split
    · next h => exact hfresh u h
    · rfl
  | cons sp l ih =>
    rw [startTasks, ih]
    · rcases Nat.lt_trichotomy u next with hlt | rfl | hgt
      · rw [if_neg (by omega), if_neg (by omega), Dict.get?_set, if_neg (by omega)]
      · rw [if_neg (by omega), if_pos le_rfl, Dict.get?_set, if_pos rfl, Nat.sub_self]
        rfl
      · rw [if_pos (by omega), if_pos (by omega)]
        obtain ⟨k, rfl⟩ := Nat.exists_eq_add_of_lt hgt
        rw [show next + k + 1 - (next + 1) = k by omega, show next + k + 1 - next = k + 1 by omega,
          List.getElem?_cons_succ]
    · intro u' hu'
      rw [Dict.get?_set, if_neg (by omega)]
      exact hfresh u' (by omega)

lemma startTasks_next (l : List Spawn) (p : Dict TaskId Task × TaskId) :
    (startTasks l p).2 = p.2 + l.length := by
  induction l generalizing p with
  | nil => rfl
  | cons sp l ih =>
    rw [startTasks, ih, List.length_cons, Nat.add_assoc, Nat.add_comm 1]

namespace System

variable {w w' : System} {t u : TaskId} {co : Co} {e : Effect Co Value}

/-- Task `t` is suspended in `co`. -/
abbrev Running (w : System) (t : TaskId) (co : Co) : Prop := w.tasks.get? t = some (.running co)

/-- Task identifiers are drawn in order. -/
def Fresh (w : System) : Prop := ∀ t, w.nextTask ≤ t → w.tasks.get? t = none

lemma Fresh.lt (h : w.Fresh) {task : Task} (ht : w.tasks.get? t = some task) : t < w.nextTask := by
  by_contra hge
  rw [h t (not_lt.mp hge)] at ht
  cases ht

lemma taskOf_running {ctl : Ctl Co Value} (h : taskOf ctl = .running co) : ctl = .goto co := by
  cases ctl with
  | goto co' => cases h; rfl
  | done r => cases h

/-- What `set` does below the next identifier. -/
lemma fresh_set (hfresh : w.Fresh) (ht : t < w.nextTask) (task : Task) (u : TaskId)
    (hu : w.nextTask ≤ u) : (w.tasks.set t task).get? u = none := by
  rw [Dict.get?_set, if_neg (Nat.ne_of_gt (Nat.lt_of_lt_of_le ht hu))]
  exact hfresh u hu

/-- A task that runs after a step is the one that took it, was there before, or has been
started. -/
lemma running_commit (hfresh : w.Fresh) (ht : t < w.nextTask)
    (h : (w.commit t e).Running u co) :
    u = t ∧ e.ctl = .goto co ∨ u ≠ t ∧ w.Running u co ∨
      w.nextTask ≤ u ∧ ∃ sp, e.spawn[u - w.nextTask]? = some sp ∧ co = sp.co := by
  simp only [Running, commit] at h
  rw [startTasks_get?] at h
  · split at h
    · next hle =>
      obtain ⟨sp, hsp, heq⟩ := Option.map_eq_some_iff.mp h
      cases heq
      exact .inr (.inr ⟨hle, sp, hsp, rfl⟩)
    · rw [Dict.get?_set] at h
      split at h
      · next heq =>
        simp only [Option.some.injEq] at h
        exact .inl ⟨heq, taskOf_running h⟩
      · next hne => exact .inr (.inl ⟨hne, h⟩)
  · exact fresh_set hfresh ht _

/-- A `_run` after a step took the step itself, was there before, or has been started. -/
lemma run_commit {id : ExecutionId} {pc : Run.Pc} {inp : Input} (hfresh : w.Fresh)
    (hrun : w.Running t co) (hstep : co.step w.svc (w.view t) inp = some e)
    (h : (w.commit t e).Running u (.run id pc)) :
    (∃ pc', u = t ∧ co = .run id pc' ∧ e.ctl = .goto (.run id pc) ∧
      Run.Next w.svc id pc' inp e.next pc) ∨
    u ≠ t ∧ w.Running u (.run id pc) ∨
      ∃ sp, e.spawn[u - w.nextTask]? = some sp ∧ .run id pc = sp.co := by
  rcases running_commit hfresh (hfresh.lt hrun) h with ⟨rfl, hgoto⟩ | ⟨hne, hold⟩ | ⟨-, hnew⟩
  · have horigin := Co.step_origin hstep hgoto
    cases co <;> cases horigin
    obtain ⟨pc', heq, hnext⟩ := Co.run_next hstep hgoto
    cases heq
    exact .inl ⟨_, rfl, rfl, hgoto, hnext⟩
  · exact .inr (.inl ⟨hne, hold⟩)
  · exact .inr (.inr hnew)

lemma fresh_commit (hfresh : w.Fresh) (ht : t < w.nextTask) : (w.commit t e).Fresh := by
  intro u hu
  simp only [commit, startTasks_next] at hu ⊢
  rw [startTasks_get?]
  · rw [if_pos (Nat.le_of_add_right_le hu), List.getElem?_eq_none (Nat.le_sub_of_add_le' hu)]
    rfl
  · exact fresh_set hfresh ht _

/-- A call has begun. -/
def begun (w : System) (c : ApiCall) : System :=
  { w with tasks := w.tasks.set w.nextTask (.running c.co), nextTask := w.nextTask + 1 }

/-- Task `t` has been cancelled. -/
def killed (w : System) (t : TaskId) (co : Co) : System :=
  { w with svc := co.thrown w.svc, tasks := w.tasks.set t (.done (.error .cancelledError)) }

lemma running_begun {c : ApiCall} (h : (w.begun c).Running u co) :
    u = w.nextTask ∧ co = c.co ∨ w.Running u co := by
  simp only [Running, begun, Dict.get?_set] at h
  split at h
  · next heq => cases h; exact .inl ⟨heq, rfl⟩
  · exact .inr h

/-- A call that begins is no `_run`. -/
lemma running_run_begun {c : ApiCall} {id : ExecutionId} {pc : Run.Pc}
    (hu : (w.begun c).Running u (.run id pc)) : w.Running u (.run id pc) := by
  rcases running_begun hu with ⟨-, hco⟩ | hold
  · cases c <;> cases hco
  · exact hold

lemma running_killed {co' : Co} (h : (w.killed t co).Running u co') :
    u ≠ t ∧ w.Running u co' := by
  simp only [Running, killed, Dict.get?_set] at h
  split at h
  · cases h
  · next hne => exact ⟨hne, h⟩

/-- The turn of a task. -/
lemma resume_cases (h : w.step (.resume t inp) = some w') :
    ∃ co e, w.Running t co ∧ inp.legal w.svc = true ∧ co.step w.svc (w.view t) inp = some e ∧
      w' = w.commit t e := by
  simp only [step] at h
  split at h
  · next co hco =>
    split at h
    · next hlegal =>
      obtain ⟨e, he, rfl⟩ := Option.map_eq_some_iff.mp h
      exact ⟨co, e, hco, hlegal, he, rfl⟩
    · cases h
  · cases h

/-- A step of the system: something outside changes, a call begins, or a task takes a turn or is
cancelled. -/
lemma step_cases {a : Act} (h : w.step a = some w') :
    (∃ env store, w' = { w with svc := { w.svc with env := env, idempotency := store } } ∧
      (store = w.svc.idempotency ∨
        ∃ retention moment, store = w.svc.idempotency.sweep retention moment)) ∨
    (∃ c, a = .call c ∧ w' = w.begun c) ∨
    (∃ t inp co e, a = .resume t inp ∧ w.Running t co ∧ inp.legal w.svc = true ∧
      co.step w.svc (w.view t) inp = some e ∧ w' = w.commit t e) ∨
    (∃ t co, a = .cancel t ∧ w.Running t co ∧ w' = w.killed t co) := by
  cases a with
  | env env =>
    simp only [step] at h
    split at h
    · cases h
    · cases h
      exact .inl ⟨env, w.svc.idempotency, rfl, .inl rfl⟩
  | sweep moment =>
    cases h
    exact .inl ⟨w.svc.env, _, rfl, .inr ⟨_, _, rfl⟩⟩
  | call c =>
    cases h
    exact .inr (.inl ⟨c, rfl, rfl⟩)
  | resume t inp =>
    obtain ⟨co, e, hrun, hlegal, hstep, rfl⟩ := resume_cases h
    exact .inr (.inr (.inl ⟨t, inp, co, e, rfl, hrun, hlegal, hstep, rfl⟩))
  | cancel t =>
    simp only [step] at h
    split at h
    · next co hco =>
      cases h
      exact .inr (.inr (.inr ⟨t, co, rfl, hco, rfl⟩))
    · cases h

end System

/-! ### What moves keep -/

section

variable {L : Licence} {p p' : List Debt × Service} {id : ExecutionId}

lemma Edit.executionId {r r' : Record} (h : Edit L id r r') : r'.executionId = r.executionId := by
  cases h with
  | quiet h => exact congrArg (·.executionId) h
  | _ => rfl

lemma Settlement.executionId {r r' : Record} (h : Settlement L id r r') :
    r'.executionId = r.executionId := by
  cases h <;> rfl

lemma Service.Filed.update {s : Service} (h : s.Filed) {f : Record → Record}
    (hf : (f (s.get id)).executionId = (s.get id).executionId) : (s.update id f).Filed := by
  intro id' r' hr'
  rw [get?_update] at hr'
  rw [update_uuids]
  split at hr'
  · next heq =>
    subst heq
    obtain ⟨r, hr, rfl⟩ := Option.map_eq_some_iff.mp hr'
    rw [get_of_get? hr] at hf
    exact ⟨hf.trans (h id' r hr).1, (h id' r hr).2⟩
  · exact h id' r' hr'

lemma Record.mark_executionId (r : Record) (code message : String) :
    (r.markReason code message).markCancelling.executionId = r.executionId := by
  simp only [markReason, markCancelling]
  split <;> split <;> rfl

lemma Move.filed (h : Move L p p') (hf : p.2.Filed) : p'.2.Filed := by
  cases h with
  | frame h =>
    intro id r hr
    rw [h.records] at hr
    exact ⟨(hf id r hr).1, (hf id r hr).2.trans_le h.uuids⟩
  | edit id f h | settle id f h => exact hf.update h.executionId
  | claim id hq hs hc | succeed id blob hs hlock hp hok | store id ctx h => exact hf.update rfl
  | mark id cancel code message hs hlock hok => exact hf.update (Record.mark_executionId ..)
  | @finish d s id =>
    obtain ⟨store, heq⟩ := s.finishIdempotency_eq id
    rw [heq]
    exact hf
  | @release d s id lease outcome hl hr =>
    exact (hf.update rfl : (s.update id fun r => { r with leaseReleased := true }).Filed)
  | enter id ctx n h hctx hn =>
    exact fun id r hr => ⟨(hf id r hr).1, (hf id r hr).2.trans_le (hctx.trans hn.le)⟩
  | @close d s id ctx hc ho =>
    exact (hf.update rfl : (s.update id fun r => { r with inputClosed := true }).Filed)
  | create r n hL hr hnew hn hle =>
    intro id r' hr'
    simp only [Dict.get?_set] at hr'
    split at hr'
    · next heq =>
      cases hr'
      exact ⟨heq.symm, heq ▸ hn⟩
    · exact ⟨(hf id r' hr').1, (hf id r' hr').2.trans_le hle⟩
  | _ => exact hf

/-- Only a retry gives up a claim. -/
lemma Change.claimed {s : Service} {r r' : Record} (h : Change L s id r r')
    (hnew : s.records.get? id = none → r.dispatchClaimed = false)
    (hc : r.dispatchClaimed = true) : r'.dispatchClaimed = true ∨ L.retries id := by
  cases h with
  | edit h =>
    cases h with
    | quiet h => exact .inl ((congrArg (·.dispatchClaimed) h).trans hc)
    | retry h => exact .inr h
    | _ => exact .inl hc
  | claim => exact .inl rfl
  | mark =>
    refine .inl ?_
    simp only [Record.markReason, Record.markCancelling]
    split <;> split <;> exact hc
  | settle h => cases h <;> exact .inl hc
  | create hr hid hnone =>
    rw [hnew hnone] at hc
    cases hc
  | _ => exact .inl hc

lemma Moves.claimed (h : Relation.ReflTransGen (Move L) p p')
    (hc : (p.2.get id).dispatchClaimed = true) :
    (p'.2.get id).dispatchClaimed = true ∨ L.retries id := by
  induction h with
  | refl => exact .inl hc
  | tail _ hm ih =>
    refine ih.elim (fun hc => (hm.change id).claimed ?_ hc) .inr
    intro hnone
    simp only [Service.get, hnone]
    rfl

/-- Only the `_run` of an execution renews its fence. -/
lemma Change.fence {s : Service} {r' : Record} (h : Change L s id (s.get id) r')
    (hfile : (s.records.get? id).isSome = true) :
    r'.fence = (s.get id).fence ∨ L.fences id := by
  cases h with
  | edit h =>
    cases h with
    | quiet h => exact .inl (congrArg (·.fence) h)
    | fence bootId generation h hok => exact .inr h
    | _ => exact .inl rfl
  | mark =>
    refine .inl ?_
    simp only [Record.markReason, Record.markCancelling]
    split <;> split <;> rfl
  | settle h => cases h <;> exact .inl rfl
  | create hr hid hnone =>
    rw [hnone] at hfile
    cases hfile
  | _ => exact .inl rfl

lemma Moves.fence (h : Relation.ReflTransGen (Move L) p p')
    (hfile : (p.2.records.get? id).isSome = true) :
    (p'.2.get id).fence = (p.2.get id).fence ∨ L.fences id := by
  induction h with
  | refl => exact .inl rfl
  | tail hms hm ih =>
    have hkept := Service.Keeps.moves hms (List.forall_mem_singleton.mpr hfile) id
      List.mem_cons_self
    rcases ih with ih | ih
    · exact ((hm.change id).fence hkept).imp_left (·.trans ih)
    · exact .inr ih

lemma Moves.filed (h : Relation.ReflTransGen (Move L) p p') (hf : p.2.Filed) : p'.2.Filed := by
  induction h with
  | refl => exact hf
  | tail _ hm ih => exact hm.filed ih

/-- A quiescer that runs stays on file. -/
lemma Move.quiescers (h : Move L p p') {m : ModelId} {t : TaskId}
    (hq : p.2.quiescers.get? m = some t) (ht : L.view.ended t = false) :
    p'.2.quiescers.get? m = some t := by
  cases h with
  | frame h => rw [h.quiescers]; exact hq
  | @finish d s id =>
    obtain ⟨store, heq⟩ := s.finishIdempotency_eq id
    rw [heq]
    exact hq
  | hire m' hended =>
    simp only [Dict.get?_set]
    split
    · next heq =>
      rw [← heq, hq, Option.all_some, ht] at hended
      cases hended
    · exact hq
  | release | close => exact (congrArg (·.get? m) (Service.update_quiescers ..)).trans hq
  | mark => simp only [Service.mark, Service.update_quiescers]; exact hq
  | edit | claim | settle | succeed | store => rw [Service.update_quiescers]; exact hq
  | _ => exact hq

lemma Moves.quiescers (h : Relation.ReflTransGen (Move L) p p') {m : ModelId} {t : TaskId}
    (hq : p.2.quiescers.get? m = some t) (ht : L.view.ended t = false) :
    p'.2.quiescers.get? m = some t := by
  induction h with
  | refl => exact hq
  | tail _ hm ih => exact hm.quiescers ih ht

end

/-! ### Well-formed systems -/

namespace System

/-- What holds of the tasks of every reachable system. -/
structure Wf (w : System) : Prop where
  filed : w.svc.Filed
  fresh : w.Fresh
  holds : ∀ t co x, w.Running t co → co.holds = some x → w.svc.lock = some (t, x)
  claimed : ∀ t id pc, w.Running t (.run id pc) → (w.svc.get id).dispatchClaimed = true
  single : ∀ t u id pc pc', w.Running t (.run id pc) → w.Running u (.run id pc') → t = u
  quiescer : ∀ t m pc, w.Running t (.quiesceModel m pc) → w.svc.quiescers.get? m = some t
  tears : ∀ t co, w.Running t co → w.svc.Ended co.tears
  files : ∀ t co, w.Running t co → w.svc.Keeps co.files
  late : ∀ t id pc, w.Running t (.lateExecute id pc) → w.svc.Keeps [id]
  fence : ∀ t id pc f, w.Running t (.run id pc) → pc.fence = some f → (w.svc.get id).fence = f

variable {w w' : System} {t u : TaskId} {co : Co} {e : Effect Co Value} {L : Licence} {inp : Input}

/-- The lock as the other tasks see it while `co` takes its step. -/
def base (w : System) (co : Co) : Option (TaskId × Option ExecutionId) :=
  if co.holds.isSome then none else w.svc.lock

namespace Wf

lemma start (hw : w.Wf) (hrun : w.Running t co) :
    At L t (w.base co) (co.owes, w.svc) (co.stance L).owes (co.stance L).holds w.svc := by
  rw [co.stance_owes, co.stance_holds]
  cases hx : co.holds with
  | none =>
    refine .start ?_ nofun
    simp only [base, hx]
    rfl
  | some x =>
    refine .start ?_ fun _ => ?_
    · rw [hw.holds t co x hrun hx]
      rfl
    · simp only [base, hx]
      rfl

lemma base_none (h : w.svc.lock = none ∨ (co.stance L).holds.isSome = true) :
    w.base co = none := by
  rw [co.stance_holds] at h
  simp only [base]
  split
  · rfl
  · next hn => exact h.resolve_right hn

/-- One turn of a task, under any licence it has. -/
lemma resume (hw : w.Wf) (hrun : w.Running t co) (hview : L.view = w.view t)
    (hdata : (co.stance L).data) (hbear : (co.stance L).Bears L w.svc inp)
    (hpub : ∀ id ∈ co.publishes, L.publisher id) (hL : co.Allows L w.svc inp) (hinp : inp.Fits L)
    (hstep : co.step w.svc (w.view t) inp = some e) :
    e.Clears L t (w.base co) (co.owes, w.svc) (·.stance L) := by
  obtain rfl : L.view.self = t := by rw [hview]; rfl
  have hpub' : ∀ id ∈ (co.stance L).publishes, L.publisher id := by
    rw [co.stance_publishes]
    exact hpub
  have hstands : Stands L L.view.self (w.base co) (co.owes, w.svc) (co.stance L) w.svc := by
    refine ⟨hw.start hrun, fun id hid => .inl (hpub' id hid), ?_, ?_, hdata⟩
    · rw [co.stance_tears]; exact hw.tears _ co hrun
    · rw [co.stance_files]; exact hw.files _ co hrun
  rw [← hview] at hstep
  exact Co.step_meets ⟨hstands, hbear, hpub', base_none, hinp⟩ hL hw.filed hstep

/-- A cancelled task. -/
lemma cancelled (hw : w.Wf) (hrun : w.Running t co) (hview : L.view = w.view t)
    (hdecided : ∀ id, co.holds = some (some id) →
      (w.svc.get id).Decided ∨ L.undecided id (w.svc.get id).publishing)
    (howes : ∀ δ ∈ co.owes, ¬ w.svc.Unpaid δ ∨ L.forgets δ) :
    At L t (w.base co) (co.owes, w.svc) [] none (co.thrown w.svc) := by
  obtain rfl : L.view.self = t := by rw [hview]; rfl
  have hat : At L L.view.self (w.base co) (co.owes, w.svc) (co.stance L).owes
      (co.stance L).holds w.svc := hw.start hrun
  exact hat.thrown (fun h => base_none (.inr h))
    (by rw [co.stance_holds]; exact hdecided) (by rw [co.stance_owes]; exact howes)

end Wf

end System

/-! ### Licences without data -/

/-- Nothing is known of the data. -/
structure Licence.Loose (L : Licence) : Prop where
  strict : ¬ L.strict
  named : ∀ i, L.named i

namespace Licence.Loose

variable {L : Licence} {id : ExecutionId} {s : Service} {inp : Input}

lemma advance (h : L.Loose) (pc : Advance.Pc) : (Advance.stance L id pc).data := by
  cases pc with
  | publishing pc =>
    cases pc with
    | writing => trivial
    | settle failure published => exact fun hs => absurd hs h.strict
    | tearing pc => cases pc <;> trivial
  | tearing pc => cases pc <;> trivial

lemma uncertain (h : L.Loose) (pc : TerminateUncertain.Pc) :
    (TerminateUncertain.stance L id pc).data := by
  cases pc with
  | enter message => exact fun hs => absurd hs h.strict
  | effects needQuiesce pc => trivial
  | tearing needQuiesce pc => cases pc <;> trivial

lemma after (h : L.Loose) (pc : AfterExecute.Pc) : (AfterExecute.stance L id pc).data := by
  cases pc with
  | localEnd code message => exact fun hs => absurd hs h.strict
  | tearing pc => cases pc <;> trivial
  | settle handle body | dropping handle pc => exact h.named _
  | advancing needQuiesce cancelPending pc => exact h.advance pc
  | cancelling => trivial
  | uncertain pc => exact h.uncertain pc

lemma run (h : L.Loose) (pc : Run.Pc) : (Run.stance L id pc).data := by
  cases pc with
  | refuse code message | inputFailed code | admitFailed code message | handOver path lease =>
    exact fun hs => absurd hs h.strict
  | tearing pc => cases pc <;> trivial
  | after pc => exact h.after pc
  | timingOut pc =>
    cases pc with
    | tearing pc => cases pc <;> trivial
    | _ => trivial
  | uncertain pc => exact h.uncertain pc
  | _ => trivial

lemma data (h : L.Loose) (co : Co) : (co.stance L).data := by
  cases co with
  | submit c => trivial
  | cancel c pc | reportOutput id body pc | reportTerminal id evidence pc =>
    cases pc with
    | advancing pc => exact h.advance pc
    | _ => trivial
  | onSessionDraining session pc =>
    cases pc with
    | tearing id rest pc => cases pc <;> trivial
    | _ => trivial
  | dispatchLoop session pc => trivial
  | run id pc => exact h.run pc
  | lateExecute id pc =>
    cases pc with
    | after pc => exact h.after pc
    | _ => trivial
  | quiesceModel model pc =>
    cases pc with
    | advancing graceUntil ids id pc => exact h.advance pc
    | _ => trivial

lemma fits (h : L.Loose) (hlegal : inp.legal s = true) : inp.Fits L := by
  simp only [Input.Fits]
  split
  · trivial
  · exact fun hs => absurd hs h.strict
  · exact fun hs => absurd hs h.strict
  · exact fun hs => absurd hs h.strict
  · exact fun hs => absurd hs h.strict
  · simp [Input.legal] at hlegal
  · exact fun hs => absurd hs h.strict
  · exact fun hs => absurd hs h.strict
  · exact h.named _
  · exact fun hs => absurd hs h.strict
  · exact fun hs => absurd hs h.strict
  · trivial

end Licence.Loose

/-- The execution whose backend the task is about to record as failed. -/
def Co.failing : Co → Option ExecutionId
  | .run id (.uncertain (.enter _)) | .run id (.after (.uncertain (.enter _)))
  | .lateExecute id (.after (.uncertain (.enter _))) => some id
  | _ => none

/-- No adapter is registered where a broken stream needs one. -/
def Service.Unbacked (s : Service) (id : ExecutionId) : Prop :=
  s.cfg.managedTermination = true ∧ (s.get id).dispatchStarted = true ∧
    (s.get id).identity = none ∧ s.cfg.backends.contains (s.get id).modelId = false

instance (s : Service) (id : ExecutionId) : Decidable (s.Unbacked id) :=
  inferInstanceAs (Decidable (_ ∧ _ ∧ _ ∧ _))

/-- What a licence without data has to grant a task. -/
structure Co.Wants (L : Licence) (s : Service) (inp : Input) (co : Co) : Prop where
  submits : ∀ c, co = .submit c → L.submits
  thaws : ∀ m pc, co = .quiesceModel m pc → L.thaws m
  proves : ∀ m g ids, co = .quiesceModel m (.settle g ids) → ∀ id ∈ ids, L.proves id
  reports : ∀ id ev pc, co = .reportTerminal id ev pc → ev.1.independent = true → L.proves id
  scans : ∀ session, co = .dispatchLoop session .scan → DispatchLoop.Allows L s
  undecided : ∀ id, co.failing = some id → s.Unbacked id → L.undecided id (s.get id).publishing
  opened : ∀ id path, co = .run id .openInput → inp = .opened (.ok path) → L.opens id s.uuids
  store : ∀ id ctx path, co = .run id (.storeInput ctx path) → L.stores id ctx
  acquired : ∀ id path lease, co = .run id (.acquiring path) → inp = .acquired (.ok lease) →
    L.grants id lease
  handOver : ∀ id path lease, co = .run id (.handOver path lease) → L.hands id lease
  fences : ∀ id pc, co = .run id pc → L.fences id
  dispatches : ∀ id path fence reservation, co = .run id (.dispatch path fence reservation) →
    L.dispatches id
  retry : ∀ id, co = .run id .retry →
    L.retries id ∧ (¬ s.Unpaid (.input id) ∨ L.forgets (.input id))

namespace System

variable {w w' : System} {t u : TaskId} {co : Co} {e : Effect Co Value} {L : Licence} {inp : Input}

lemma uncertain_allows {id : ExecutionId} (hL : L.Loose)
    (h : w.svc.Unbacked id → L.undecided id (w.svc.get id).publishing) :
    TerminateUncertain.Allows L w.svc id :=
  ⟨fun hs => absurd hs hL.strict, fun i _ => hL.named i, fun hm hd hi hb => h ⟨hm, hd, hi, hb⟩⟩

lemma Wf.keeps (hw : w.Wf) {id : ExecutionId} {pc : Run.Pc} (hrun : w.Running t (.run id pc)) :
    w.svc.Keeps [id] := by
  refine List.forall_mem_singleton.mpr ?_
  have hclaimed := hw.claimed t id pc hrun
  cases hr : w.svc.records.get? id with
  | some r => rfl
  | none =>
    rw [Service.get, hr] at hclaimed
    cases hclaimed

lemma Wf.allows (hw : w.Wf) (hrun : w.Running t co) (hL : L.Loose)
    (hlegal : inp.legal w.svc = true) (h : co.Wants L w.svc inp) : co.Allows L w.svc inp := by
  have hstrict : ∀ {p : Prop}, L.strict → p := fun hs => absurd hs hL.strict
  cases co with
  | submit c => exact ⟨h.submits c rfl, hstrict⟩
  | reportTerminal id evidence pc => exact ⟨fun i _ => hL.named i, h.reports id evidence pc rfl⟩
  | dispatchLoop session pc =>
    rintro rfl
    exact h.scans session rfl
  | run id pc =>
    refine ⟨hw.keeps hrun, h.fences id pc rfl, hstrict, hstrict, ?_, fun _ => hstrict,
      fun _ => hstrict, ?_, ?_, ?_, ?_, ?_, ?_⟩
    · rintro message (rfl | rfl)
      · exact uncertain_allows hL (h.undecided id rfl)
      · exact uncertain_allows hL (h.undecided id rfl)
    · rintro rfl path hinp
      exact h.opened id path rfl hinp
    · rintro ctx path rfl
      exact h.store id ctx path rfl
    · rintro path lease rfl rfl
      exact ⟨h.acquired id path lease rfl rfl, Bool.not_eq_true' _ ▸ hlegal⟩
    · rintro rfl
      exact h.retry id rfl
    · rintro path lease rfl
      exact ⟨h.handOver id path lease rfl, hw.claimed t id _ hrun⟩
    · rintro path fence reservation rfl
      exact ⟨h.dispatches id path fence reservation rfl,
        fun _ => ⟨hw.claimed t id _ hrun, hw.fence t id _ fence hrun rfl⟩⟩
  | lateExecute id pc =>
    refine ⟨hw.late t id pc hrun, hstrict, ?_⟩
    rintro message rfl
    exact uncertain_allows hL (h.undecided id rfl)
  | quiesceModel model pc =>
    refine ⟨h.thaws model pc rfl, ?_⟩
    rintro g ids rfl
    exact h.proves model g ids rfl
  | _ => trivial

/-- One turn of a task under a licence without data. -/
lemma Wf.turn (hw : w.Wf) (hrun : w.Running t co) (hview : L.view = w.view t) (hL : L.Loose)
    (hlegal : inp.legal w.svc = true) (hwants : co.Wants L w.svc inp)
    (hpub : ∀ id ∈ co.publishes, L.publisher id) (hbear : (co.stance L).Bears L w.svc inp)
    (hstep : co.step w.svc (w.view t) inp = some e) :
    e.Clears L t (w.base co) (co.owes, w.svc) (·.stance L) :=
  hw.resume hrun hview (hL.data co) hbear hpub (hw.allows hrun hL hlegal hwants)
    (hL.fits hlegal) hstep

/-- The task proves that the instance of the execution has stopped, or was handed a proof. -/
def Proves (co : Co) (id : ExecutionId) : Prop :=
  (∃ m g ids, co = .quiesceModel m (.settle g ids) ∧ id ∈ ids) ∨
    ∃ ev pc, co = .reportTerminal id ev pc ∧ ev.1.independent = true

/-- The licence of a task of which nothing but its claim is asked. -/
def plain (w : System) (t : TaskId) (co : Co) : Licence :=
  { Licence.lax (w.view t) with
    retries := fun id => co = .run id .retry
    fences := fun id => ∃ pc, co = .run id pc
    thaws := fun m => ∃ pc, co = .quiesceModel m pc
    proves := Proves co
    submits := ∃ c, co = .submit c }

lemma plain_wants (t : TaskId) (inp : Input) : co.Wants (w.plain t co) w.svc inp where
  submits := fun c h => ⟨c, h⟩
  thaws := fun _ pc h => ⟨pc, h⟩
  proves := fun m g ids h _ hid => .inl ⟨m, g, ids, h, hid⟩
  reports := fun _ ev pc h hi => .inr ⟨ev, pc, h, hi⟩
  scans := fun _ _ _ _ _ => ⟨.inr trivial, .inr trivial⟩
  undecided := fun _ _ _ => trivial
  opened := fun _ _ _ _ => trivial
  store := fun _ _ _ _ => trivial
  acquired := fun _ _ _ _ _ => trivial
  handOver := fun _ _ _ _ => trivial
  fences := fun _ pc h => ⟨pc, h⟩
  dispatches := fun _ _ _ _ _ => trivial
  retry := fun _ h => ⟨h, .inr trivial⟩

lemma plain_turn (hw : w.Wf) (hrun : w.Running t co) (hlegal : inp.legal w.svc = true)
    (hstep : co.step w.svc (w.view t) inp = some e) :
    e.Clears (w.plain t co) t (w.base co) (co.owes, w.svc) (·.stance (w.plain t co)) :=
  hw.turn hrun rfl ⟨fun h => h, fun _ => trivial⟩ hlegal (plain_wants t inp) (fun _ _ => trivial)
    (fun _ _ _ _ _ => .inr trivial) hstep

/-- The debts of a task after its turn. -/
def owesAfter : Ctl Co Value → List Debt
  | .goto co => co.owes
  | .done _ => []

/-- What a task holds after its turn. -/
def holdsAfter : Ctl Co Value → Option (Option ExecutionId)
  | .goto co => co.holds
  | .done _ => none

lemma turn_at {p : List Debt × Service} {base : Option (TaskId × Option ExecutionId)}
    (h : e.Clears L t base p (·.stance L)) :
    At L t base p (owesAfter e.ctl) (holdsAfter e.ctl) e.next := by
  simp only [Effect.Clears, Effect.Meets] at h
  split at h
  · next co' hco =>
    rw [hco]
    have hat := h.toAt
    rw [co'.stance_owes, co'.stance_holds] at hat
    exact hat
  · next r hr =>
    rw [hr]
    exact h

lemma turn_stands {p : List Debt × Service} {base : Option (TaskId × Option ExecutionId)}
    (h : e.Clears L t base p (·.stance L)) {co' : Co} (hgoto : e.ctl = .goto co') :
    Stands L t base p (co'.stance L) e.next := by
  simp only [Effect.Clears, Effect.Meets, hgoto] at h
  exact h

/-- A task that does not hold the lock leaves it to the one that does. -/
lemma lock_kept (hw : w.Wf) (hrun : w.Running t co) {d : List Debt}
    {x x' : Option (Option ExecutionId)} {s' : Service} {p : List Debt × Service}
    (h : At L t (w.base co) p d x s') {co' : Co} (hu : w.Running u co') (hne : u ≠ t)
    (hx : co'.holds = x') (hsome : x'.isSome = true) : s'.lock = w.svc.lock := by
  obtain ⟨y, rfl⟩ := Option.isSome_iff_exists.mp hsome
  have hlock := hw.holds u co' y hu hx
  have hnone : co.holds = none := by
    cases hco : co.holds with
    | none => rfl
    | some z =>
      have := hw.holds t co z hrun hco
      rw [hlock] at this
      cases this
      exact absurd rfl hne
  have hbase : w.base co = w.svc.lock := by
    simp only [base, hnone]
    rfl
  cases x with
  | none => rw [h.lock, hbase]; rfl
  | some z =>
    have := h.owner rfl
    rw [hbase, hlock] at this
    cases this

lemma holds_of_at (hw : w.Wf) (hrun : w.Running t co) {d : List Debt}
    {x : Option (Option ExecutionId)} {s' : Service} {p : List Debt × Service}
    (h : At L t (w.base co) p d x s') :
    (∀ y, x = some y → s'.lock = some (t, y)) ∧
      ∀ u co' y, w.Running u co' → u ≠ t → co'.holds = some y → s'.lock = some (u, y) := by
  refine ⟨?_, fun u co' y hu hne hy => ?_⟩
  · rintro y rfl
    rw [h.lock]
    rfl
  · rw [lock_kept hw hrun h hu hne hy rfl]
    exact hw.holds u co' y hu hy

end System

/-! ### Claims -/

namespace DispatchLoop

variable {s : Service} {id : ExecutionId}

lemma expire_isSome (s : Service) (r : Record) :
    ((expire s r).records.get? id).isSome = (s.records.get? id).isSome := by
  obtain ⟨f, store, heq⟩ := expire_eq s r
  rw [heq]
  exact Service.isSome_update ..

lemma foldl_expire_isSome (l : List Record) (s : Service) :
    ((l.foldl expire s).records.get? id).isSome = (s.records.get? id).isSome := by
  induction l generalizing s with
  | nil => rfl
  | cons r l ih => rw [List.foldl_cons, ih, expire_isSome]

/-- Every head of the scan is claimed. -/
lemma foldl_claim_claimed {l : List Record} {s : Service}
    (h : id ∈ l.map (·.executionId) ∨ (s.get id).dispatchClaimed = true)
    (hsome : (s.records.get? id).isSome = true) :
    ((l.foldl claim s).get id).dispatchClaimed = true := by
  induction l generalizing s with
  | nil => exact h.resolve_left (by simp)
  | cons r l ih =>
    rw [List.foldl_cons]
    refine ih ?_ ?_
    · obtain ⟨r₀, hr₀⟩ := Option.isSome_iff_exists.mp hsome
      by_cases hid : id = r.executionId
      · subst hid
        rw [claim, Service.get_update_self hr₀]
        exact .inr rfl
      · rw [claim_get hid]
        refine h.imp_left fun hmem => ?_
        rw [List.map_cons, List.mem_cons] at hmem
        exact hmem.resolve_left hid
    · rw [claim, Service.isSome_update]
      exact hsome

end DispatchLoop

namespace System

variable {w w' : System} {t u : TaskId} {co : Co} {e : Effect Co Value} {inp : Input}
  {id : ExecutionId} {s : Service}

/-- A `_run` that a step starts belongs to an execution that was not claimed and now is. -/
lemma started_run (hw : w.Wf) {i : ℕ} {pc : Run.Pc} {sp : Spawn}
    (hstep : co.step w.svc (w.view t) inp = some e) (hsp : e.spawn[i]? = some sp)
    (hco : Co.run id pc = sp.co) :
    (w.svc.get id).dispatchClaimed = false ∧ (e.next.get id).dispatchClaimed = true ∧
      (∀ j sp', e.spawn[j]? = some sp' → (∃ pc', Co.run id pc' = sp'.co) → j = i) ∧
      (w.svc.get id).settled = false := by
  cases sp with
  | run id' =>
    cases hco
    have hstarts := Co.step_starts hstep
    generalize hl : e.spawn = l at hstarts hsp
    cases hstarts with
    | hires h =>
      rcases h with rfl | ⟨m, rfl, -⟩
      · cases hsp
      · cases i <;> cases hsp
    | late id | dispatcher session => cases i <;> cases hsp
    | runs session hnext =>
      have hmem : ∀ r ∈ DispatchLoop.heads w.svc session, r ∈ DispatchLoop.waiting w.svc session :=
        fun r hr => (List.mem_filter.mp hr).1
      rw [List.getElem?_map] at hsp
      obtain ⟨r, hr, heq⟩ := Option.map_eq_some_iff.mp hsp
      cases heq
      have hhead := List.mem_of_getElem? hr
      obtain ⟨hget, hlive, hunclaimed, -⟩ := DispatchLoop.of_mem_waiting hw.filed (hmem r hhead)
      refine ⟨by rw [hget]; exact hunclaimed, ?_, ?_, by rw [hget]; exact hlive⟩
      · rw [hnext]
        refine DispatchLoop.foldl_claim_claimed (.inl (List.mem_map.mpr ⟨r, hhead, rfl⟩)) ?_
        rw [DispatchLoop.foldl_expire_isSome]
        have hval : r ∈ w.svc.records.values := (List.mem_filter.mp (hmem r hhead)).1
        rw [(hw.filed.get hval).1]
        rfl
      · rintro j sp' hsp' ⟨pc', hco'⟩
        rw [List.getElem?_map] at hsp'
        obtain ⟨r', hr', rfl⟩ := Option.map_eq_some_iff.mp hsp'
        have hid : r'.executionId = r.executionId := by
          injection hco' with hid
          exact hid.symm
        have hnodup : ((DispatchLoop.heads w.svc session).map (·.executionId)).Nodup :=
          (DispatchLoop.waiting_nodup hw.filed).sublist (List.filter_sublist.map _)
        have hj : ((DispatchLoop.heads w.svc session).map (·.executionId))[j]? =
            some r.executionId := by
          rw [List.getElem?_map, hr']
          exact congrArg some hid
        have hi : ((DispatchLoop.heads w.svc session).map (·.executionId))[i]? =
            some r.executionId := by
          rw [List.getElem?_map, hr]
          rfl
        have hlen := (List.getElem?_eq_some_iff.mp hi).1
        exact ((List.getElem?_inj hlen hnodup).mp (hi.trans hj.symm)).symm
  | _ => cases hco

lemma commit_tears (hw : w.Wf) (hrun : w.Running t co) (hlegal : inp.legal w.svc = true)
    (hstep : co.step w.svc (w.view t) inp = some e) {co' : Co}
    (hu : (w.commit t e).Running u co') :
    (w.commit t e).svc.Ended co'.tears ∧ (w.commit t e).svc.Keeps co'.files := by
  have hturn := plain_turn hw hrun hlegal hstep
  have hmoves := (turn_at hturn).moves
  rcases running_commit hw.fresh (hw.fresh.lt hrun) hu with ⟨rfl, hgoto⟩ | ⟨-, hold⟩ |
    ⟨-, sp, -, rfl⟩
  · have hstands := turn_stands hturn hgoto
    have htears := hstands.tears
    have hfiles := hstands.files
    rw [co'.stance_tears] at htears
    rw [co'.stance_files] at hfiles
    exact ⟨htears, hfiles⟩
  · exact ⟨.moves hmoves (hw.tears u co' hold), .moves hmoves (hw.files u co' hold)⟩
  · rw [Co.tears, Co.files, Co.stance₀, Spawn.co_stance]
    exact ⟨nofun, nofun⟩

lemma commit_late (hw : w.Wf) (hrun : w.Running t co) (hlegal : inp.legal w.svc = true)
    (hstep : co.step w.svc (w.view t) inp = some e) {pc : LateExecute.Pc}
    (hu : (w.commit t e).Running u (.lateExecute id pc)) : (w.commit t e).svc.Keeps [id] := by
  have hmoves := (turn_at (plain_turn hw hrun hlegal hstep)).moves
  rcases running_commit hw.fresh (hw.fresh.lt hrun) hu with ⟨rfl, hgoto⟩ | ⟨-, hold⟩ |
    ⟨-, sp, hsp, hco⟩
  · have horigin := Co.step_origin hstep hgoto
    cases co <;> cases horigin
    exact .moves hmoves (hw.late u id _ hrun)
  · exact .moves hmoves (hw.late u id pc hold)
  · -- the `_run` of the execution has started it
    cases sp with
    | lateExecute id' =>
      cases hco
      have hstarts := Co.step_starts hstep
      generalize hl : e.spawn = l at hstarts hsp
      generalize u - w.nextTask = i at hsp
      cases hstarts with
      | hires h =>
        rcases h with rfl | ⟨m', rfl, -⟩
        · cases hsp
        · cases i <;> cases hsp
      | late id' pc' =>
        cases i <;> cases hsp
        exact .moves hmoves (hw.keeps hrun)
      | dispatcher session => cases i <;> cases hsp
      | runs session hnext =>
        rw [List.getElem?_map] at hsp
        obtain ⟨r, -, heq⟩ := Option.map_eq_some_iff.mp hsp
        cases heq
    | _ => cases hco

lemma commit_fence (hw : w.Wf) (hrun : w.Running t co) (hlegal : inp.legal w.svc = true)
    (hstep : co.step w.svc (w.view t) inp = some e) {pc : Run.Pc} {f : Fence}
    (hu : (w.commit t e).Running u (.run id pc)) (hf : pc.fence = some f) :
    ((w.commit t e).svc.get id).fence = f := by
  have hmoves := (turn_at (plain_turn hw hrun hlegal hstep)).moves
  rcases run_commit hw.fresh hrun hstep hu with ⟨pc', rfl, rfl, -, hnext⟩ | ⟨hne, hold⟩ |
    ⟨sp, hsp, hco⟩
  · change (e.next.get id).fence = f
    generalize e.next = s' at hnext
    cases hnext with
    | filed path lease f h hf hs => cases hf; rfl
    | reserved path fence reservation => exact hw.fence u id _ f hrun hf
    | far h => rw [Run.Pc.fence_of_far h] at hf; cases hf
    | _ => cases hf
  · rw [← hw.fence u id pc f hold hf]
    refine (Moves.fence hmoves (hw.keeps hold id List.mem_cons_self)).resolve_right ?_
    rintro ⟨pc', rfl⟩
    exact hne (hw.single u t id pc pc' hold hrun)
  · cases sp with
    | run id' => cases hco; cases hf
    | _ => cases hco

/-- The system after the turn of a task is well formed. -/
lemma Wf.commit (hw : w.Wf) (hrun : w.Running t co) (hlegal : inp.legal w.svc = true)
    (hstep : co.step w.svc (w.view t) inp = some e) : (w.commit t e).Wf := by
  have hat := turn_at (plain_turn hw hrun hlegal hstep)
  have hlt := hw.fresh.lt hrun
  obtain ⟨hself, hothers⟩ := holds_of_at hw hrun hat
  -- a claim lasts, unless this is the step that returns the execution to the queue
  have hclaim : ∀ u id pc, w.Running u (.run id pc) →
      (e.next.get id).dispatchClaimed = true ∨ co = .run id .retry := fun u id pc hu =>
    Moves.claimed hat.moves (hw.claimed u id pc hu)
  have horigin : ∀ id pc, e.ctl = .goto (.run id pc) → ∃ pc₀, co = .run id pc₀ := by
    intro id pc hgoto
    have := Co.step_origin hstep hgoto
    cases co <;> cases this
    exact ⟨_, rfl⟩
  -- a `_run` was there before, or has been started
  have hruns : ∀ u id pc, (w.commit t e).Running u (.run id pc) →
      (∃ pc₀, w.Running u (.run id pc₀)) ∨
        w.nextTask ≤ u ∧ ∃ sp, e.spawn[u - w.nextTask]? = some sp ∧ .run id pc = sp.co := by
    intro u id pc hu
    rcases running_commit hw.fresh hlt hu with ⟨rfl, hgoto⟩ | ⟨-, hold⟩ | hnew
    · obtain ⟨pc₀, rfl⟩ := horigin id pc hgoto
      exact .inl ⟨pc₀, hrun⟩
    · exact .inl ⟨pc, hold⟩
    · exact .inr hnew
  refine ⟨Moves.filed hat.moves hw.filed, fresh_commit hw.fresh hlt, ?_, ?_, ?_, ?_,
    fun u co' hu => (commit_tears hw hrun hlegal hstep hu).1,
    fun u co' hu => (commit_tears hw hrun hlegal hstep hu).2,
    fun u id pc hu => commit_late hw hrun hlegal hstep hu,
    fun u id pc f hu hf => commit_fence hw hrun hlegal hstep hu hf⟩
  · intro u co' x hu hx
    rcases running_commit hw.fresh hlt hu with ⟨rfl, hgoto⟩ | ⟨hne, hold⟩ | ⟨-, sp, -, rfl⟩
    · exact hself x (by rw [hgoto]; exact hx)
    · exact hothers u co' x hold hne hx
    · rw [Co.holds, Co.stance₀, Spawn.co_stance] at hx
      cases hx
  · intro u id pc hu
    rcases running_commit hw.fresh hlt hu with ⟨rfl, hgoto⟩ | ⟨hne, hold⟩ | ⟨-, sp, hsp, hco⟩
    · obtain ⟨pc₀, rfl⟩ := horigin id pc hgoto
      refine (hclaim u id pc₀ hrun).resolve_right ?_
      rintro ⟨⟩
      rw [Co.retry_done hstep] at hgoto
      cases hgoto
    · refine (hclaim u id pc hold).resolve_right ?_
      rintro rfl
      exact hne (hw.single u t id pc .retry hold hrun)
    · exact (started_run hw hstep hsp hco).2.1
  · intro u u' id pc pc' hu hu'
    have hunclaimed : ∀ {v : TaskId} {pc : Run.Pc}, w.Running v (.run id pc) →
        (w.svc.get id).dispatchClaimed = false → False := by
      intro v pc hv hc
      rw [hw.claimed v id pc hv] at hc
      cases hc
    rcases hruns u id pc hu with ⟨pc₀, hold⟩ | ⟨hle, sp, hsp, hco⟩
    · rcases hruns u' id pc' hu' with ⟨pc₁, hold'⟩ | ⟨-, sp', hsp', hco'⟩
      · exact hw.single u u' id pc₀ pc₁ hold hold'
      · exact (hunclaimed hold (started_run hw hstep hsp' hco').1).elim
    · rcases hruns u' id pc' hu' with ⟨pc₁, hold'⟩ | ⟨hle', sp', hsp', hco'⟩
      · exact (hunclaimed hold' (started_run hw hstep hsp hco).1).elim
      · have heq := (started_run hw hstep hsp hco).2.2.1 _ sp' hsp' ⟨pc', hco'⟩
        rw [← Nat.sub_add_cancel hle, ← Nat.sub_add_cancel hle', heq]
  · intro u m pc hu
    rcases running_commit hw.fresh hlt hu with ⟨rfl, hgoto⟩ | ⟨-, hold⟩ | ⟨hle, sp, hsp, hco⟩
    · have horigin := Co.step_origin hstep hgoto
      cases co <;> cases horigin
      refine Moves.quiescers hat.moves (hw.quiescer u m _ hrun) ?_
      simp only [plain, Licence.lax, view, hrun]
      rfl
    · refine Moves.quiescers hat.moves (hw.quiescer u m pc hold) ?_
      simp only [plain, Licence.lax, view, hold]
      rfl
    · -- the quiescer is the only task that the step has started
      cases sp with
      | quiesceModel m' =>
        cases hco
        have hstarts := Co.step_starts hstep
        generalize hl : e.spawn = l at hstarts hsp
        generalize hi : u - w.nextTask = i at hsp
        cases hstarts with
        | hires h =>
          rcases h with rfl | ⟨m', rfl, hq⟩
          · cases hsp
          · cases i with
            | zero =>
              cases hsp
              rw [← Nat.sub_add_cancel hle, hi, Nat.zero_add]
              exact hq
            | succ i => cases hsp
        | late id | dispatcher session => cases i <;> cases hsp
        | runs session hnext =>
          rw [List.getElem?_map] at hsp
          obtain ⟨r, -, heq⟩ := Option.map_eq_some_iff.mp hsp
          cases heq
      | _ => cases hco

lemma Wf.killed (hw : w.Wf) (hrun : w.Running t co) : (w.killed t co).Wf := by
  have hat : At { Licence.lax (w.view t) with retries := fun _ => False, fences := fun _ => False }
      t (w.base co) (co.owes, w.svc) [] none (co.thrown w.svc) :=
    hw.cancelled hrun rfl (fun _ _ => .inr trivial) fun _ _ => .inr trivial
  obtain ⟨-, hothers⟩ := holds_of_at hw hrun hat
  refine ⟨Moves.filed hat.moves hw.filed, fresh_set hw.fresh (hw.fresh.lt hrun) _, ?_, ?_, ?_, ?_,
    fun u co' hu => .moves hat.moves (hw.tears u co' (running_killed hu).2),
    fun u co' hu => .moves hat.moves (hw.files u co' (running_killed hu).2),
    fun u id pc hu => .moves hat.moves (hw.late u id pc (running_killed hu).2), ?_⟩
  · intro u co' x hu hx
    obtain ⟨hne, hold⟩ := running_killed hu
    exact hothers u co' x hold hne hx
  · intro u id pc hu
    exact (Moves.claimed hat.moves (hw.claimed u id pc (running_killed hu).2)).resolve_right
      fun h => h
  · intro u u' id pc pc' hu hu'
    exact hw.single u u' id pc pc' (running_killed hu).2 (running_killed hu').2
  · intro u m pc hu
    obtain ⟨-, hold⟩ := running_killed hu
    refine Moves.quiescers hat.moves (hw.quiescer u m pc hold) ?_
    simp only [Licence.lax, view, hold]
    rfl
  · intro u id pc f hu hf
    obtain ⟨-, hold⟩ := running_killed hu
    rw [← hw.fence u id pc f hold hf]
    exact (Moves.fence hat.moves (hw.keeps hold id List.mem_cons_self)).resolve_right fun h => h

lemma Wf.begun (hw : w.Wf) (c : ApiCall) : (w.begun c).Wf := by
  have hnew : c.co.tears = [] ∧ c.co.files = [] := by
    rw [Co.tears, Co.files, Co.stance₀, ApiCall.co_stance]
    exact ⟨rfl, rfl⟩
  refine ⟨hw.filed, ?_, ?_, ?_, ?_, ?_, ?_, ?_, ?_, ?_⟩
  · intro u hu
    have hlt : w.nextTask < u := Nat.lt_of_succ_le hu
    simp only [System.begun, Dict.get?_set, if_neg (Nat.ne_of_gt hlt)]
    exact hw.fresh u hlt.le
  · intro u co x hu hx
    rcases running_begun hu with ⟨-, rfl⟩ | hold
    · rw [Co.holds, Co.stance₀, ApiCall.co_stance] at hx
      cases hx
    · exact hw.holds u co x hold hx
  · exact fun u id pc hu => hw.claimed u id pc (running_run_begun hu)
  · intro u u' id pc pc' hu hu'
    exact hw.single u u' id pc pc' (running_run_begun hu) (running_run_begun hu')
  · intro u m pc hu
    rcases running_begun hu with ⟨-, hco⟩ | hold
    · cases c <;> cases hco
    · exact hw.quiescer u m pc hold
  · intro u co hu
    rcases running_begun hu with ⟨-, rfl⟩ | hold
    · simp [hnew.1, Service.Ended]
    · exact hw.tears u co hold
  · intro u co hu
    rcases running_begun hu with ⟨-, rfl⟩ | hold
    · simp [hnew.2, Service.Keeps]
    · exact hw.files u co hold
  · intro u id pc hu
    rcases running_begun hu with ⟨-, hco⟩ | hold
    · cases c <;> cases hco
    · exact hw.late u id pc hold
  · exact fun u id pc f hu => hw.fence u id pc f (running_run_begun hu)

lemma Wf.step (hw : w.Wf) {a : Act} (h : w.step a = some w') : w'.Wf := by
  rcases step_cases h with ⟨env, store, rfl, -⟩ | ⟨c, -, rfl⟩ |
    ⟨t, inp, co, e, -, hrun, hlegal, hstep, rfl⟩ | ⟨t, co, -, hrun, rfl⟩
  · exact ⟨hw.filed, hw.fresh, hw.holds, hw.claimed, hw.single, hw.quiescer, hw.tears, hw.files,
      hw.late, hw.fence⟩
  · exact hw.begun c
  · exact hw.commit hrun hlegal hstep
  · exact hw.killed hrun

/-- A new service has no records and no tasks. -/
lemma init_ok {cfg : ServiceConfig} {env : Env} (h : Service.init cfg env = .ok s) :
    ∃ cfg', s = { cfg := cfg', env := env } := by
  simp only [Service.init] at h
  split at h
  · cases h
  · split at h
    · cases h
    · cases h
      exact ⟨_, rfl⟩

lemma Starts.wf (h : w.Starts) : w.Wf := by
  obtain ⟨cfg, env, s, hs, rfl⟩ := h
  obtain ⟨cfg', rfl⟩ := init_ok hs
  have hnone : ∀ t co, ¬ Running { svc := { cfg := cfg', env := env } } t co := by
    rintro t co ⟨⟩
  exact {
    filed := by rintro id r ⟨⟩
    fresh := fun _ _ => rfl
    holds := fun t co x h => absurd h (hnone t co)
    claimed := fun t id pc h => absurd h (hnone t _)
    single := fun t u id pc pc' h => absurd h (hnone t _)
    quiescer := fun t m pc h => absurd h (hnone t _)
    tears := fun t co h => absurd h (hnone t co)
    files := fun t co h => absurd h (hnone t co)
    late := fun t id pc h => absurd h (hnone t _)
    fence := fun t id pc f h => absurd h (hnone t _) }

/-- Every reachable system is well formed. -/
lemma Reach.wf {ok : System → Act → Prop} (h : w.Reach ok) : w.Wf := by
  obtain ⟨w₀, hstart, hrun⟩ := h
  exact hrun.invariant (fun _ _ _ hw _ hstep => hw.step hstep) hstart.wf

end System

/-! ### A small deployment -/

/-- Session "A" is active on the resident model "chat". -/
def sampleEnv : Env where
  sessions :=
    { records := ⟨[("A", { sessionId := "A", modelId := "chat", clientId := "alice", priority := 0,
                           createdAt := 0, waitDeadline := 1800, prepareDeadline := 900,
                           hardDeadline := 3600, ttlSeconds := 30, phase := .active })], by decide⟩,
      activeId := some "A" }
  book :=
    { policy := { modelBudget := 1000, freeFloor := 10, halfPow := fun _ => 1 },
      specs := Dict.empty, ledger := Dict.empty, physicalEnforced := false,
      runtime := ⟨[("chat", { state := .ready, generation := 1 })], by decide⟩ }
  capabilities := ⟨[("chat", ["chat"])], by decide⟩

def sampleConfig : ServiceConfig where
  bootId := "boot"
  fromIsoformat _ := some (some 0)
  backends := ["chat"]

/-- A service with an adapter for "chat". -/
def sample : System where
  svc := { cfg := sampleConfig, env := sampleEnv }

lemma sample_starts : sample.Starts := by
  refine ⟨sampleConfig, sampleEnv, sample.svc, ?_, rfl⟩
  norm_num [Service.init, sampleConfig, sample, maxBlobBytes]

/-- A task is cancelled. -/
def Act.kills : Act → Bool
  | .cancel _ => true
  | _ => false

namespace System

lemma Starts.exists_reach {w₀ : System} (h₀ : w₀.Starts) (ok : System → Act → Bool)
    (acts : List Act) {P : System → Prop} [DecidablePred P]
    (h : ((execUnder System.step ok w₀ acts).any fun w => P w) = true) :
    ∃ w, w.Reach (fun w a => ok w a = true) ∧ P w := by
  obtain ⟨w, hrun, htest⟩ := exists_run h
  exact ⟨w, ⟨w₀, h₀, hrun⟩, of_decide_eq_true htest⟩

lemma Reach.mono {w : System} {ok ok' : System → Act → Prop} (h : w.Reach ok)
    (hok : ∀ w a, ok w a → ok' w a) : w.Reach ok' := by
  obtain ⟨w₀, h₀, hrun⟩ := h
  exact ⟨w₀, h₀, hrun.mono hok⟩

/-- Every task that runs meets the test. -/
def allTasks (w : System) (test : Co → Bool) : Bool :=
  w.tasks.values.all fun
    | .running co => test co
    | .done _ => true

def isLoop (co : Co) : Bool := co matches .dispatchLoop _ _

lemma of_allTasks {w : System} {test : Co → Bool} (h : w.allTasks test = true) {t : TaskId}
    {co : Co} (hrun : w.Running t co) : test co = true :=
  List.all_eq_true.mp h _ (Dict.mem_values_iff.mpr ⟨t, hrun⟩)

/-- The task gets the turn. -/
def go (t : TaskId) : Act := .resume t .go

def sampleSubmit : SubmitCall where
  sessionId := "A"
  owner := "alice"
  operation := "chat"
  input := .inline "1"
  parameters := ""
  idempotencyKey := "k"
  token := .ok ()

def sampleLease : Lease where
  leaseId := 7
  requestId := "execution-1"
  modelId := "chat"
  generation := 1

def sampleReservation : OutputReservation where
  blobId := "o"
  owner := "alice"
  mediaType := "application/json"
  limitBytes := 100
  fence := { bootId := "boot", modelId := "chat", generation := 1, operationId := 2,
             executionId := some 1, attempt := some 1 }

/-- Execution 1 is submitted and claimed: task 0 is the call, task 1 the dispatcher, task 2 the
`_run`. -/
def claimOne : List Act := [.call (.submit sampleSubmit), go 0, go 1, go 1]

/-- Execution 1 is dispatched. -/
def dispatchOne : List Act :=
  claimOne ++ [go 2, .resume 2 (.acquired (.ok sampleLease)), go 2,
    .resume 2 (.reserved (.ok sampleReservation)), go 2]

def sampleIdentity : InstanceIdentity where
  containerId := "c"
  startedAt := "2026-01-01T00:00:00+00:00"
  deploymentId := "d"
  modelId := "chat"
  runtimeId := "r"
  candidateDigest := "0000000000000000000000000000000000000000000000000000000000000000"
  imageDigest :=
    "i@sha256:0000000000000000000000000000000000000000000000000000000000000000"

/-- The backend has finished with execution 1. -/
def sampleEvidence : TerminationEvidence :=
  ⟨{ fence := sampleReservation.fence, dispatchState := .dispatched, deviceSynchronized := true,
     reason := some "done", identity := some sampleIdentity }, by decide⟩

/-- The result of execution 1 is being written: task 3 reported the terminal and task 4 the
output. -/
def publishOne : List Act :=
  dispatchOne ++ [.call (.reportTerminal 1 sampleEvidence), go 3, .call (.reportOutput 1 [0]), go 4]

def sampleBlob : PublishedBlob where
  blobId := "o"
  owner := "alice"
  sha256 := "0000000000000000000000000000000000000000000000000000000000000000"
  sizeBytes := 1
  mediaType := "application/json"

/-! ### Mutual exclusion -/

/-- **The tasks of the service exclude each other.** Under every interleaving, with tasks cancelled
anywhere, at most one task is inside the lock; an execution has at most one `_run`, which has
claimed it and works under its fence; and at most one task quiesces a model. -/
theorem Reach.exclusive {w : System} (h : w.Reach fun _ _ => True) :
    (∀ t u co co', w.Running t co → w.Running u co' → co.holds.isSome = true →
      co'.holds.isSome = true → t = u) ∧
    (∀ t u id pc pc', w.Running t (.run id pc) → w.Running u (.run id pc') →
      t = u ∧ (w.svc.get id).dispatchClaimed = true) ∧
    (∀ t id pc f, w.Running t (.run id pc) → pc.fence = some f → (w.svc.get id).fence = f) ∧
    ∀ t u m pc pc', w.Running t (.quiesceModel m pc) → w.Running u (.quiesceModel m pc') →
      t = u := by
  have hw := h.wf
  refine ⟨fun t u co co' ht hu hc hc' => ?_, fun t u id pc pc' ht hu => ?_, hw.fence,
    fun t u m pc pc' ht hu => ?_⟩
  · obtain ⟨x, hx⟩ := Option.isSome_iff_exists.mp hc
    obtain ⟨y, hy⟩ := Option.isSome_iff_exists.mp hc'
    cases (hw.holds t co x ht hx).symm.trans (hw.holds u co' y hu hy)
    rfl
  · exact ⟨hw.single t u id pc pc' ht hu, hw.claimed t id pc ht⟩
  · exact Option.some.inj ((hw.quiescer t m pc ht).symm.trans (hw.quiescer u m pc' hu))

theorem exclusive_claimed : ∃ w : System, (w.svc.get 1).dispatchClaimed = true ∧
    ∀ t u pc pc', w.Running t (.run 1 pc) → w.Running u (.run 1 pc') → t = u := by
  obtain ⟨w, hreach, hclaimed⟩ := sample_starts.exists_reach (fun _ _ => true) claimOne
    (P := fun w => (w.svc.get 1).dispatchClaimed = true) (by decide +kernel)
  refine ⟨w, hclaimed, fun t u pc pc' ht hu => ?_⟩
  exact ((Reach.exclusive (hreach.mono fun _ _ _ => trivial)).2.1 t u 1 pc pc' ht hu).1

end System

end ModelSwitch.Execution

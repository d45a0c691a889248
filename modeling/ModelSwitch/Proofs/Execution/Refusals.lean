import ModelSwitch.Proofs.Execution.Outcome
import ModelSwitch.Proofs.Execution.Stages

/-!
# Executions that fail before their dispatch

`_run` refuses an execution in three sections of its own: when the guard turns it down, when the
blob store does not open its input, and when the scheduler does not admit it. A refusal settles the
execution with evidence that it never started and returns what it has taken, in one step and for
good. Any other exception before the dispatch, such as a full blob store in `reserve_output`, ends
in `_terminate_uncertain`, which treats the execution as if it had been dispatched.
-/

namespace ModelSwitch.Execution

/-! ### Refusals of `_run` -/

namespace Run

variable {s : Service} {v : TaskView} {id : ExecutionId} {inp : Input}

/-- `_run` is about to settle an execution that it refuses. -/
def Pc.refuses : Pc → Bool
  | .refuse _ _ | .inputFailed _ | .admitFailed _ _ => true
  | _ => false

/-- What is left of a `_run` after a refusal. -/
def Pc.closing : Pc → Bool
  | .tearing _ | .uncertain (.enter _) => true
  | _ => false

lemma Pc.leaseless_of_refuses {pc : Pc} (h : pc.refuses = true) : pc.leaseless = true := by
  cases pc <;> first | rfl | cases h

lemma guarded_next (s : Service) (r : Except Exc Unit) : (guarded s r).next = s := by
  cases r with
  | ok _ => rfl
  | error e =>
    simp only [guarded, failed]
    split <;> rfl

lemma guarded_closing (s : Service) (r : Except Exc Unit) :
    (guarded s r).Meets (fun _ pc => pc.closing = true) fun _ _ => True := by
  cases r with
  | ok _ => exact .ret trivial
  | error e =>
    simp only [guarded, failed]
    split
    · exact .raise trivial
    · exact .goto rfl

lemma teardown_next (s : Service) (id : ExecutionId) :
    (teardown s id).next = (Teardown.start s id).next := by
  simp only [teardown, Effect.bind]
  split
  · rfl
  · exact guarded_next _ _

lemma teardown_closing (s : Service) (id : ExecutionId) :
    (teardown s id).Meets (fun _ pc => pc.closing = true) fun _ _ => True :=
  (Teardown.start s id).meets_true.bind (fun _ _ _ => rfl) fun s r _ => guarded_closing s r

/-- Once its execution is settled, nothing but the rest of the teardown follows a refusal. -/
lemma step_closing {pc : Pc} {e : Effect Pc Unit} (h : step s v id pc inp = some e)
    (hpc : pc.closing = true) (hs : (s.get id).settled = true) :
    e.Meets (fun _ pc => pc.closing = true) fun _ _ => True := by
  cases pc with
  | tearing pc =>
    obtain ⟨e', -, rfl⟩ := Option.map_eq_some_iff.mp h
    exact e'.meets_true.bind (fun _ _ _ => rfl) fun s r _ => guarded_closing s r
  | uncertain pc =>
    cases pc with
    | enter message =>
      obtain ⟨e', he', rfl⟩ := Option.map_eq_some_iff.mp h
      obtain ⟨-, rfl⟩ := withLock_some he'
      simp only [TerminateUncertain.enter, hs, if_true]
      exact trivial
    | _ => cases hpc
  | _ => cases hpc

end Run

namespace Service

variable {s : Service} {id : ExecutionId} {code : { code : String // code ≠ "" }} {message : String}

/-- The execution is settled with an error and with evidence that it never started. -/
structure SettledUnstarted (s : Service) (id : ExecutionId) : Prop where
  settled : (s.get id).settled = true
  error : (s.get id).error.isSome = true
  evidence : ∃ evidence, (s.get id).evidence = some evidence ∧
    evidence.1.dispatchState = .notStarted

/-- The execution is settled as one that never started, every lease it was granted has been
released and every input context it entered has been left. -/
structure EndedUnstarted (s : Service) (id : ExecutionId) : Prop where
  settled : (s.get id).settled = true
  evidence : ∃ evidence, (s.get id).evidence = some evidence ∧
    evidence.1.dispatchState = .notStarted
  leases : ∀ lease, .granted id lease ∈ s.log → ∃ outcome, .release lease outcome ∈ s.log
  inputs : ∀ ctx, .opened id ctx ∈ s.log → .closed ctx ∈ s.log

lemma terminateLocal_log : (s.terminateLocal id code message).log = s.log := by
  obtain ⟨f, store, heq⟩ := s.exists_terminateLocal_eq id code message
  rw [heq]
  exact update_log ..

lemma terminateLocal_get {r : Record} (hr : s.records.get? id = some r) :
    (s.terminateLocal id code message).get id =
      { s.get id with
        evidence := some ((s.get id).notStarted code),
        error := some (errorDetail code.1 message),
        state := if cancelCode code.1 then .cancelled else .failed, settled := true } := by
  rw [terminateLocal_eq, finishIdempotency_get, get_update_self hr]

end Service

namespace Teardown

variable {s : Service} {id : ExecutionId}

lemma output_next (s : Service) (id : ExecutionId) : (output s id).next = s := by
  simp only [output]
  split <;> rfl

lemma input_get (s : Service) (id : ExecutionId) :
    ∃ closed, (input s id).next.get id = { s.get id with inputClosed := closed } := by
  simp only [input]
  split
  · exact ⟨_, by rw [output_next]⟩
  · split
    · exact ⟨_, by rw [output_next]⟩
    · rcases s.get_update_cases id id fun r => { r with inputClosed := true } with heq | ⟨-, heq⟩
      · exact ⟨_, heq⟩
      · exact ⟨true, heq⟩

/-- The teardown notes what it returns and leaves the rest of the record alone. -/
lemma start_get (s : Service) (id : ExecutionId) :
    ∃ released closed, (start s id).next.get id =
      { s.get id with leaseReleased := released, inputClosed := closed } := by
  simp only [start]
  split
  · obtain ⟨closed, heq⟩ := input_get s id
    exact ⟨_, closed, heq⟩
  · split
    · obtain ⟨closed, heq⟩ := input_get s id
      exact ⟨_, closed, heq⟩
    · rcases s.get_update_cases id id fun r => { r with leaseReleased := true } with heq | ⟨-, heq⟩
      · exact ⟨_, _, heq⟩
      · exact ⟨true, _, heq⟩

/-- The teardown of an execution without a lease leaves its input context at once. -/
lemma start_log (hlease : (s.get id).lease = none) (hopen : (s.get id).inputClosed = false) :
    (start s id).next.log = s.log ++ ((s.get id).inputCtx.map Event.closed).toList := by
  simp only [start, hlease, input]
  cases hctx : (s.get id).inputCtx with
  | none =>
    simp only [output_next]
    exact (List.append_nil _).symm
  | some ctx =>
    simp only [hopen, Bool.false_eq_true, if_false]
    exact congrArg (· ++ [Event.closed ctx]) (Service.update_log ..)

end Teardown

namespace Run

variable {s : Service} {v : TaskView} {id : ExecutionId} {inp : Input}

/-- A section that refuses an execution settles it and tears it down. -/
lemma step_refuses {pc : Pc} {e : Effect Pc Unit} (h : step s v id pc inp = some e)
    (hpc : pc.refuses = true) (hs : (s.get id).settled = false) :
    ∃ code message, e = teardown (s.terminateLocal id code message) id := by
  have hlocal : ∀ code message,
      settleLocal s id code message = teardown (s.terminateLocal id code message) id := by
    intro code message
    simp only [settleLocal, hs, Bool.false_eq_true, if_false]
  cases pc with
  | refuse code message =>
    obtain ⟨-, rfl⟩ := withLock_some h
    simp only [refuse, hs, Bool.false_eq_true, if_false]
    exact ⟨code, message, hlocal code message⟩
  | inputFailed code =>
    obtain ⟨-, rfl⟩ := withLock_some h
    exact ⟨code, _, hlocal code _⟩
  | admitFailed code message =>
    obtain ⟨-, rfl⟩ := withLock_some h
    exact ⟨code, message, hlocal code message⟩
  | _ => cases hpc

end Run

/-! ### After a refusal -/

/-- A settled execution keeps its end. -/
lemma Service.SettledUnstarted.moves {L : Licence} {p p' : List Debt × Service} {id : ExecutionId}
    (h : p.2.SettledUnstarted id) (hm : Relation.ReflTransGen (Move L) p p') :
    p'.2.SettledUnstarted id := by
  induction hm with
  | refl => exact h
  | tail _ hm ih =>
    obtain ⟨evidence, he, hstate⟩ := ih.evidence
    have hkept := (hm.change id).kept (by rw [he]; rfl) ih.settled
      fun hnone => (Service.get_of_none hnone).2
    exact ⟨hkept.settled, by rw [hkept.error]; exact ih.error,
      evidence, hkept.evidence.trans he, hstate⟩

namespace System

variable {w w' w'' : System} {t u : TaskId} {co : Co} {e : Effect Co Value} {inp : Input}
  {id : ExecutionId} {pc : Run.Pc}

/-- The execution has been refused: it has ended, its backend has not been called, and what is left
of its `_run` changes nothing about that. -/
structure Denied (w : System) (id : ExecutionId) : Prop extends w.svc.SettledUnstarted id where
  undispatched : w.svc.Undispatched id
  runs : ∀ t pc, w.Running t (.run id pc) → pc.closing = true

lemma Denied.commit (hw : w.Wf) (hd : w.Denied id) (hrun : w.Running t co)
    (hlegal : inp.legal w.svc = true) (hstep : co.step w.svc (w.view t) inp = some e) :
    (w.commit t e).Denied id := by
  have hm := taking_moves hw hrun hlegal hstep
  refine ⟨hd.toSettledUnstarted.moves hm, hd.undispatched.moves hm ?_, fun u pc hu => ?_⟩
  · rintro ⟨path, fence, reservation, rfl⟩
    cases hd.runs t _ hrun
  · rcases running_commit hw.fresh (hw.fresh.lt hrun) hu with ⟨rfl, hgoto⟩ | ⟨-, hold⟩ |
      ⟨-, sp, hsp, hco⟩
    · have horigin := Co.step_origin hstep hgoto
      cases co <;> cases horigin
      obtain ⟨e', he', rfl⟩ := Option.map_eq_some_iff.mp hstep
      obtain ⟨pc', hpc', heq⟩ := Effect.lift_goto hgoto
      cases heq
      have hclosing := Run.step_closing he' (hd.runs u _ hrun) hd.settled
      simp only [Effect.Meets, hpc'] at hclosing
      exact hclosing
    · exact hd.runs u pc hold
    · have hlive := (started_run hw hstep hsp hco).2.2.2
      rw [hd.settled] at hlive
      cases hlive

lemma Denied.step {a : Act} (hw : w.Wf) (hd : w.Denied id) (h : w.step a = some w') :
    w'.Denied id := by
  rcases step_cases h with ⟨env, store, rfl, -⟩ | ⟨c, -, rfl⟩ |
    ⟨t, inp, co, e, -, hrun, hlegal, hstep, rfl⟩ | ⟨t, co, -, hrun, rfl⟩
  · exact ⟨⟨hd.settled, hd.error, hd.evidence⟩, hd.undispatched, hd.runs⟩
  · exact ⟨⟨hd.settled, hd.error, hd.evidence⟩, hd.undispatched,
      fun u pc hu => hd.runs u pc (running_run_begun hu)⟩
  · exact hd.commit hw hrun hlegal hstep
  · have hm := killed_moves hw hrun
    exact ⟨hd.toSettledUnstarted.moves hm, hd.undispatched.moves hm fun h => h,
      fun u pc hu => hd.runs u pc (running_killed hu).2⟩

/-- A refused execution holds neither a lease nor an input context. -/
structure Refused (w : System) (id : ExecutionId) : Prop extends w.Denied id where
  ungranted : ∀ lease, .granted id lease ∉ w.svc.log
  left : ∀ ctx, .opened id ctx ∈ w.svc.log → .closed ctx ∈ w.svc.log

lemma Refused.ended (h : w.Refused id) : w.svc.EndedUnstarted id :=
  ⟨h.settled, h.evidence, fun lease hmem => absurd hmem (h.ungranted lease), h.left⟩

/-- The moves of a task that takes neither a lease nor a context for the execution. -/
lemma Refused.moves {L : Licence} {d d' : List Debt} {s' : Service} (hr : w.Refused id)
    (hm : Relation.ReflTransGen (Move L) (d, w.svc) (d', s'))
    (hgrants : ∀ lease, ¬ L.grants id lease) (hopens : ∀ ctx, ¬ L.opens id ctx) :
    (∀ lease, .granted id lease ∉ s'.log) ∧
      ∀ ctx, .opened id ctx ∈ s'.log → .closed ctx ∈ s'.log := by
  refine ⟨fun lease hmem => ?_, fun ctx hmem => ?_⟩
  · exact (Moves.licensed hm hmem).elim (hr.ungranted lease) (hgrants lease)
  · have hold := (Moves.licensed hm hmem).resolve_right (hopens ctx)
    exact Moves.log_subset hm (hr.left ctx hold)

lemma Refused.step {a : Act} (hw : w.Wf) (hr : w.Refused id) (h : w.step a = some w') :
    w'.Refused id := by
  have hdenied := hr.toDenied.step hw h
  rcases step_cases h with ⟨env, store, rfl, -⟩ | ⟨c, -, rfl⟩ |
    ⟨t, inp, co, e, -, hrun, hlegal, hstep, rfl⟩ | ⟨t, co, -, hrun, rfl⟩
  · exact ⟨hdenied, hr.ungranted, hr.left⟩
  · exact ⟨hdenied, hr.ungranted, hr.left⟩
  · obtain ⟨hungranted, hleft⟩ := hr.moves (taking_moves hw hrun hlegal hstep)
      (by rintro lease ⟨⟨path, rfl⟩, -⟩; cases hr.runs t _ hrun)
      (by rintro ctx rfl; cases hr.runs t _ hrun)
    exact ⟨hdenied, hungranted, hleft⟩
  · obtain ⟨hungranted, hleft⟩ := hr.moves (killed_moves hw hrun) (fun _ h => h) fun _ h => h
    exact ⟨hdenied, hungranted, hleft⟩

/-! ### The step that fails -/

/-- `_run` fails before the dispatch: the execution is neither settled nor sent back to the queue,
and this step leads past the backend call without making it. -/
structure FailsAt (w : System) (t : TaskId) (id : ExecutionId) (pc : Run.Pc) (inp : Input)
    (w' : System) : Prop where
  running : w.Running t (.run id pc)
  before : pc.far = false
  final : pc ≠ .retry
  unsettled : (w.svc.get id).settled = false
  step : w.step (.resume t inp) = some w'
  undispatched : (w'.svc.get id).dispatchStarted = false
  after : ∀ pc', w'.Running t (.run id pc') → pc'.far = true

section

variable (hw : w.Wf) (hrun : w.Running t (.run id pc)) (hpc : pc.refuses = true)
  (hs : (w.svc.get id).settled = false) (hstep : w.step (.resume t inp) = some w')

include hw hrun hpc hs hstep

/-- What the section that refuses an execution makes of the service. -/
lemma refused_svc : ∃ code message,
    w'.svc = (Teardown.start (w.svc.terminateLocal id code message) id).next ∧
      ∀ u pc', w'.Running u (.run id pc') → pc'.closing = true := by
  obtain ⟨co, e, hrun', -, hturn, rfl⟩ := resume_cases hstep
  cases hrun.symm.trans hrun'
  obtain ⟨e', he', rfl⟩ := Option.map_eq_some_iff.mp hturn
  obtain ⟨code, message, rfl⟩ := Run.step_refuses he' hpc hs
  refine ⟨code, message, (Effect.lift_next _ _ _).1.trans (Run.teardown_next _ _),
    fun u pc' hu => ?_⟩
  have hclosing := Run.teardown_closing (w.svc.terminateLocal id code message) id
  rcases running_commit hw.fresh (hw.fresh.lt hrun) hu with ⟨rfl, hgoto⟩ | ⟨hne, hold⟩ |
    ⟨-, sp, hsp, hco⟩
  · obtain ⟨pc₁, hpc₁, heq⟩ := Effect.lift_goto hgoto
    cases heq
    simp only [Effect.Meets, hpc₁] at hclosing
    exact hclosing
  · exact absurd (hw.single u t id pc' _ hold hrun) hne
  · have hunclaimed := (started_run hw hturn hsp hco).1
    rw [hw.claimed t id _ hrun] at hunclaimed
    cases hunclaimed

lemma denied_of_refusal (hb : w.Before (fun pc => !pc.far) Service.Undispatched) :
    w'.Denied id := by
  obtain ⟨code, message, hsvc, hruns⟩ := refused_svc hw hrun hpc hs hstep
  obtain ⟨r, hfile⟩ := Service.exists_of_claimed (hw.claimed t id _ hrun)
  obtain ⟨released, closed, hget⟩ := Teardown.start_get (w.svc.terminateLocal id code message) id
  rw [Service.terminateLocal_get hfile, ← hsvc] at hget
  refine ⟨⟨by rw [hget], by rw [hget]; rfl, _, by rw [hget], rfl⟩, ?_, hruns⟩
  obtain ⟨co, e, hrun', hlegal, hturn, rfl⟩ := resume_cases hstep
  cases hrun.symm.trans hrun'
  refine (hb.run t id pc hrun ?_).moves (taking_moves hw hrun hlegal hturn) ?_
  · cases pc <;> first | rfl | cases hpc
  · rintro ⟨path, fence, reservation, heq⟩
    cases heq
    cases hpc

lemma refused_of_refusal (hr : w.Reading) (hl : w.Before Run.Pc.leaseless Service.Unleased)
    (hb : w.Before (fun pc => !pc.far) Service.Undispatched) : w'.Refused id := by
  obtain ⟨code, message, hsvc, -⟩ := refused_svc hw hrun hpc hs hstep
  obtain ⟨r, hfile⟩ := Service.exists_of_claimed (hw.claimed t id _ hrun)
  have hget := @Service.terminateLocal_get _ _ code message _ hfile
  have hless := hl.run t id pc hrun (Run.Pc.leaseless_of_refuses hpc)
  have hopen : (w.svc.get id).inputClosed = false := by
    by_contra hclosed
    have hsettled := hr.shut id (Bool.not_eq_false _ ▸ hclosed)
    rw [hs] at hsettled
    cases hsettled
  have hlog : w'.svc.log = w.svc.log ++ ((w.svc.get id).inputCtx.map Event.closed).toList := by
    rw [hsvc, Teardown.start_log (by rw [hget]; exact hless.1) (by rw [hget]; exact hopen), hget,
      Service.terminateLocal_log]
  refine ⟨denied_of_refusal hw hrun hpc hs hstep hb, fun lease hmem => ?_, fun ctx hmem => ?_⟩
  · rw [hlog, List.mem_append] at hmem
    refine hmem.elim (hless.2 lease) fun hnew => ?_
    simp at hnew
  · -- the context that was entered is the one that is filed
    have hold : .opened id ctx ∈ w.svc.log := by
      rw [hlog, List.mem_append] at hmem
      refine hmem.resolve_right fun hnew => ?_
      simp at hnew
    have hslot : (w.svc.get id).inputCtx = some ctx := by
      refine (hr.kept id ctx (Service.took_input_iff.mpr hold)).resolve_left ?_
      rintro ⟨u, path, hu⟩
      obtain rfl := hw.single u t id _ _ hu hrun
      cases hu.symm.trans hrun
      cases hpc
    rw [hlog, hslot]
    exact List.mem_append_right _ List.mem_cons_self

end

/-- Refusals are final: in every run of attentive steps, an execution that `_run` refuses before
its dispatch is settled by that very step as one that never started, every lease it was granted is
released and every input context it entered is left, and so it stays in every run from there. -/
theorem Reach.refusal_settles (h : w.Reach fun w a => w.attentive a = true)
    (hfail : w.FailsAt t id pc inp w') (hpc : pc.refuses = true)
    (hlater : ModelSwitch.Run System.step (fun _ _ => True) w' w'') :
    w''.svc.EndedUnstarted id := by
  obtain ⟨hw, hr⟩ := h.reading
  have hrefused := refused_of_refusal hw hfail.running hpc hfail.unsettled hfail.step hr
    (h.before unleased_endsBehind) (h.before undispatched_endsBehind)
  have hboth : w''.Wf ∧ w''.Refused id :=
    hlater.invariant (I := fun w => w.Wf ∧ w.Refused id)
      (fun _ _ _ hi _ hstep => ⟨hi.1.step hstep, hi.2.step hi.1 hstep⟩)
      ⟨hw.step hfail.step, hrefused⟩
  exact hboth.2.ended

/-- No `_run` is left that could still call the backend. -/
def passed (w : System) : Bool :=
  w.allTasks fun
    | .run _ pc => pc.far
    | _ => true

lemma far_of_passed (h : w.passed = true) (hrun : w.Running t (.run id pc)) : pc.far = true :=
  of_allTasks h hrun

/-- Task `t` is the `_run` of the execution and stands at `pc`. -/
def isRun (w : System) (t : TaskId) (id : ExecutionId) (pc : Run.Pc) : Bool :=
  match w.tasks.get? t with
  | some (.running (.run id' pc')) => id' = id && pc' = pc
  | _ => false

lemma of_isRun (h : w.isRun t id pc = true) : w.Running t (.run id pc) := by
  simp only [isRun] at h
  split at h
  · next id' pc' htask =>
    simp only [Bool.and_eq_true, decide_eq_true_eq] at h
    obtain ⟨rfl, rfl⟩ := h
    exact htask
  · cases h

/-- The scheduler does not admit execution 1 in time: the execution is settled, and its input is
left. -/
theorem refusal_settles_timeout :
    ∃ w w' : System, w.Reach (fun w a => w.attentive a = true) ∧
      w.FailsAt 2 1 (.admitFailed ⟨"queue_timeout", by decide⟩ "queue deadline elapsed") .go w' ∧
      .opened 1 3 ∈ w'.svc.log ∧ w'.svc.EndedUnstarted 1 := by
  obtain ⟨w, hreach, hrun, hs, hnext⟩ := sample_starts.exists_reach attentive
    (readOne ++ [.resume 2 (.acquired (.error (.timeoutError "")))])
    (P := fun w => w.isRun 2 1
        (.admitFailed ⟨"queue_timeout", by decide⟩ "queue deadline elapsed") = true ∧
      (w.svc.get 1).settled = false ∧
      ((w.step (go 2)).any fun w' => (w'.svc.get 1).dispatchStarted = false ∧ w'.passed = true ∧
        .opened 1 3 ∈ w'.svc.log) = true)
    (by decide +kernel)
  obtain ⟨w', hstep, htest⟩ := (Option.any_eq_true _ _).mp hnext
  obtain ⟨hd, hp, hmem⟩ := of_decide_eq_true htest
  have hfail : w.FailsAt 2 1 _ .go w' :=
    ⟨of_isRun hrun, rfl, nofun, hs, hstep, hd, fun _ hrun => far_of_passed hp hrun⟩
  exact ⟨w, w', hreach, hfail, hmem, Reach.refusal_settles hreach hfail rfl (.refl w')⟩

/-- The blob store has no room for the output of execution 1: `_run` ends, and nobody settles the
execution or releases its lease. -/
theorem stranded_by_quota :
    ∃ (w w' w'' : System) (fence : Fence) (e : Exc), w.Reach (fun _ a => a.kills = false) ∧
      w.FailsAt 2 1 (.reserving none fence) (.reserved (.error e)) w' ∧
      ModelSwitch.Run System.step (fun _ a => a.kills = false) w' w'' ∧
      (∀ t pc, ¬ w''.Running t (.run 1 pc)) ∧ ¬ w''.svc.EndedUnstarted 1 ∧
      (w''.svc.get 1).settled = false ∧ (w''.svc.get 1).evidence = none ∧
      .granted 1 sampleLease ∈ w''.svc.log ∧ w''.svc.releases sampleLease = 0 := by
  obtain ⟨w, hreach, hrun, hs, hnext⟩ := sample_starts.exists_reach (fun _ a => !a.kills)
    (claimOne ++ [go 2, .resume 2 (.acquired (.ok sampleLease)), go 2])
    (P := fun w => w.isRun 2 1 (.reserving none sampleReservation.fence) = true ∧
      (w.svc.get 1).settled = false ∧
      ((w.step (.resume 2 (.reserved (.error
          (.blobStoreError "quota_exceeded" "the owner quota is exhausted"))))).any fun w' =>
        (w'.svc.get 1).dispatchStarted = false ∧ w'.passed = true ∧
        ((execUnder System.step (fun _ a => !a.kills) w'
            [go 2, .resume 2 (.answer (.ok ()))]).any fun w'' =>
          ((w''.allTasks isLoop) = true ∧
            (w''.svc.get 1).settled = false ∧ (w''.svc.get 1).evidence = none ∧
            .granted 1 sampleLease ∈ w''.svc.log ∧ w''.svc.releases sampleLease = 0 : Bool)) = true)
        = true)
    (by decide +kernel)
  obtain ⟨w', hstep, htest⟩ := (Option.any_eq_true _ _).mp hnext
  obtain ⟨hd, hp, hrest⟩ := of_decide_eq_true htest
  obtain ⟨w'', hlater, htest'⟩ := exists_run hrest
  obtain ⟨htasks, hlive, hevidence, hgranted, hkept⟩ := of_decide_eq_true htest'
  refine ⟨w, w', w'', _, _, hreach.mono fun _ _ h => Bool.not_eq_true' _ ▸ h,
    ⟨of_isRun hrun, rfl, by rintro ⟨⟩, hs, hstep, hd, fun _ hrun => far_of_passed hp hrun⟩,
    hlater.mono fun _ _ h => Bool.not_eq_true' _ ▸ h, ?_, ?_, hlive, hevidence, hgranted, hkept⟩
  · exact fun t pc hrun => absurd (of_allTasks htasks hrun) Bool.false_ne_true
  · intro hended
    rw [hended.settled] at hlive
    cases hlive

end System

end ModelSwitch.Execution

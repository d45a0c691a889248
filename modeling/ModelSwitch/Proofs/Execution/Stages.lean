import ModelSwitch.Proofs.Execution.Inputs

/-!
# What an execution has not done yet

Leases are granted to the `_run` of an execution, and backend calls are made by it, at certain
stages. As long as the `_run` has not come past the stage, or the execution is not claimed at all,
the log has no such line. Nothing leads back: an execution that goes back to the queue does so
before these stages.
-/

namespace ModelSwitch.Execution

namespace Run

variable {s : Service} {v : TaskView} {id : ExecutionId} {inp : Input}

/-- No lease has been granted to this `_run`. -/
def Pc.leaseless : Pc → Bool
  | .guard | .refuse _ _ | .openInput | .inputFailed _ | .storeInput _ _ | .acquiring _
  | .admitFailed _ _ | .retry => true
  | _ => false

lemma Pc.not_leaseless_of_far {pc : Pc} (h : pc.far = true) : pc.leaseless = false := by
  cases pc <;> first | rfl | cases h

/-- No step leads back from behind the grant of the lease. -/
lemma Next.leaseless {pc pc' : Pc} {s' : Service} (h : Next s id pc inp s' pc')
    (hpc' : pc'.leaseless = true) : pc.leaseless = true := by
  cases h with
  | granted | filed | reserved => cases hpc'
  | far h =>
    rw [Pc.not_leaseless_of_far h] at hpc'
    cases hpc'
  | _ => rfl

/-- No step leads back from behind the backend call. -/
lemma Next.near {pc pc' : Pc} {s' : Service} (h : Next s id pc inp s' pc')
    (hpc' : pc'.far = false) : pc.far = false := by
  cases h with
  | far h =>
    rw [h] at hpc'
    cases hpc'
  | _ => rfl

/-- The section that calls the backend goes on to wait for it. -/
lemma dispatch_cases (path : Option String) (fence : Fence) (reservation : OutputReservation) :
    (dispatch s id path fence reservation).next.log = s.log ∨
      (dispatch s id path fence reservation).ctl = .goto .executing ∧
        ∃ fence', (dispatch s id path fence reservation).next.log =
          s.log ++ [.execute id fence' path] := by
  simp only [dispatch, execute]
  split
  · exact .inl rfl
  · split
    · refine .inr ⟨rfl, _, congrArg (· ++ [Event.execute id _ path]) ?_⟩
      exact Service.update_log ..
    · refine .inl ?_
      simp only [failed]
      split <;> exact Service.update_log ..

end Run

namespace Service

/-- No lease has been granted to the execution. -/
def Unleased (s : Service) (id : ExecutionId) : Prop :=
  (s.get id).lease = none ∧ ∀ lease, .granted id lease ∉ s.log

/-- The backend has not been called for the execution. -/
def Undispatched (s : Service) (id : ExecutionId) : Prop :=
  ∀ fence path, .execute id fence path ∉ s.log

/-- What nobody may grant or file does not come about. -/
lemma Unleased.moves {id : ExecutionId} {L : Licence} {p p' : List Debt × Service}
    (h : p.2.Unleased id) (hm : Relation.ReflTransGen (Move L) p p')
    (hgrants : ∀ lease, ¬ L.grants id lease) (hhands : ∀ lease, ¬ L.hands id lease) :
    p'.2.Unleased id := by
  refine ⟨?_, fun lease hmem => ?_⟩
  · refine (Custody.steps_slot_none (Moves.leases hm) h.1).resolve_right ?_
    rintro ⟨lease, hhand⟩
    exact hhands lease hhand
  · exact (Moves.licensed hm hmem).elim (h.2 lease) (hgrants lease)

lemma Undispatched.moves {id : ExecutionId} {L : Licence} {p p' : List Debt × Service}
    (h : p.2.Undispatched id) (hm : Relation.ReflTransGen (Move L) p p')
    (hdispatches : ¬ L.dispatches id) : p'.2.Undispatched id :=
  fun fence path hmem => (Moves.licensed hm hmem).elim (h fence path) hdispatches

end Service

namespace System

variable {w w' : System} {t u : TaskId} {co : Co} {e : Effect Co Value} {inp : Input}
  {id : ExecutionId} {pc : Run.Pc}

/-! ### What a task takes -/

/-- The licence of a task as far as it takes leases and contexts and calls the backend. -/
def taking (w : System) (t : TaskId) (co : Co) (inp : Input) : Licence :=
  { w.plain t co with
    grants := fun id lease =>
      (∃ path, co = .run id (.acquiring path)) ∧ inp = .acquired (.ok lease)
    hands := fun id lease => ∃ path, co = .run id (.handOver path lease)
    opens := fun id _ => co = .run id .openInput
    dispatches := fun id => ∃ path fence reservation,
      co = .run id (.dispatch path fence reservation) }

lemma taking_moves (hw : w.Wf) (hrun : w.Running t co) (hlegal : inp.legal w.svc = true)
    (hstep : co.step w.svc (w.view t) inp = some e) :
    Relation.ReflTransGen (Move (w.taking t co inp)) (co.owes, w.svc)
      (owesAfter e.ctl, e.next) := by
  refine (turn_at (hw.turn hrun rfl ⟨fun h => h, fun _ => trivial⟩ hlegal ?_ (fun _ _ => trivial)
    (fun _ _ _ _ _ => .inr trivial) hstep)).moves
  exact { plain_wants t inp with
    opened := fun _ _ hco _ => hco
    acquired := fun _ path _ hco hinp => ⟨⟨path, hco⟩, hinp⟩
    handOver := fun _ path _ hco => ⟨path, hco⟩
    dispatches := fun _ path fence reservation h => ⟨path, fence, reservation, h⟩ }

/-- A cancelled task takes nothing. -/
lemma killed_moves (hw : w.Wf) (hrun : w.Running t co) :
    Relation.ReflTransGen (Move { w.plain t co with
        grants := fun _ _ => False, hands := fun _ _ => False, opens := fun _ _ => False,
        retries := fun _ => False, dispatches := fun _ => False })
      (co.owes, w.svc) ([], co.thrown w.svc) :=
  (hw.cancelled hrun rfl (fun _ _ => .inr trivial) fun _ _ => .inr trivial).moves

/-! ### Before a stage -/

/-- `N` holds of every execution that is not claimed or whose `_run` is still at the stage. -/
structure Before (w : System) (stage : Run.Pc → Bool) (N : Service → ExecutionId → Prop) :
    Prop where
  run : ∀ t id pc, w.Running t (.run id pc) → stage pc = true → N w.svc id
  unclaimed : ∀ id, (w.svc.get id).dispatchClaimed = false → N w.svc id

/-- Nobody but the `_run` of an execution ends `N`, and it is then past the stage. -/
structure EndsBehind (stage : Run.Pc → Bool) (N : Service → ExecutionId → Prop) : Prop where
  start : ∀ cfg env id, N { cfg := cfg, env := env } id
  outside : ∀ s env store id, N s id → N { s with env := env, idempotency := store } id
  retry : stage .retry = true
  next : ∀ {s id pc inp s' pc'}, Run.Next s id pc inp s' pc' → stage pc' = true → stage pc = true
  killed : ∀ {w : System} {t co id}, w.Wf → w.Running t co → N w.svc id → N (co.thrown w.svc) id
  turn : ∀ {w : System} {t co inp e id}, w.Wf → w.Running t co → inp.legal w.svc = true →
    co.step w.svc (w.view t) inp = some e → N w.svc id →
      (∀ pc, co = .run id pc → stage pc = true ∧
        ∀ pc', e.ctl = .goto (.run id pc') → stage pc' = true) → N e.next id

section

variable {stage : Run.Pc → Bool} {N : Service → ExecutionId → Prop}

lemma Before.commit (hN : EndsBehind stage N) (hw : w.Wf) (hb : w.Before stage N)
    (hrun : w.Running t co) (hlegal : inp.legal w.svc = true)
    (hstep : co.step w.svc (w.view t) inp = some e) : (w.commit t e).Before stage N := by
  refine ⟨fun u id pc hu hpc => ?_, fun id hc => ?_⟩
  · rcases run_commit hw.fresh hrun hstep hu with ⟨pc', rfl, rfl, hgoto, hnext⟩ | ⟨hne, hold⟩ |
      ⟨sp, hsp, hco⟩
    · have hstage := hN.next hnext hpc
      refine hN.turn hw hrun hlegal hstep (hb.run u id _ hrun hstage) ?_
      rintro pc₁ heq
      cases heq
      refine ⟨hstage, fun pc₂ hgoto' => ?_⟩
      cases hgoto.symm.trans hgoto'
      exact hpc
    · refine hN.turn hw hrun hlegal hstep (hb.run u id pc hold hpc) ?_
      rintro pc₁ rfl
      exact absurd (hw.single u t id pc _ hold hrun) hne
    · have hunclaimed := (started_run hw hstep hsp hco).1
      refine hN.turn hw hrun hlegal hstep (hb.unclaimed id hunclaimed) ?_
      rintro pc₁ rfl
      rw [hw.claimed t id _ hrun] at hunclaimed
      cases hunclaimed
  · cases hold : (w.svc.get id).dispatchClaimed with
    | false =>
      refine hN.turn hw hrun hlegal hstep (hb.unclaimed id hold) ?_
      rintro pc₁ rfl
      rw [hw.claimed t id _ hrun] at hold
      cases hold
    | true =>
      -- this is the step that returns the execution to the queue
      rcases Moves.claimed (taking_moves hw hrun hlegal hstep) hold with hc' | rfl
      · rw [show (e.next.get id).dispatchClaimed = false from hc] at hc'
        cases hc'
      · refine hN.turn hw hrun hlegal hstep (hb.run t id _ hrun hN.retry) ?_
        rintro pc₁ heq
        cases heq
        refine ⟨hN.retry, fun pc₂ hgoto => ?_⟩
        obtain ⟨e', he', rfl⟩ := Option.map_eq_some_iff.mp hstep
        obtain ⟨-, rfl⟩ := withLock_some he'
        cases hgoto

lemma Before.step {a : Act} (hN : EndsBehind stage N) (hw : w.Wf) (hb : w.Before stage N)
    (h : w.step a = some w') : w'.Before stage N := by
  rcases step_cases h with ⟨env, store, rfl, -⟩ | ⟨c, -, rfl⟩ |
    ⟨t, inp, co, e, -, hrun, hlegal, hstep, rfl⟩ | ⟨t, co, -, hrun, rfl⟩
  · exact ⟨fun t id pc hrun hpc => hN.outside _ _ _ _ (hb.run t id pc hrun hpc),
      fun id hc => hN.outside _ _ _ _ (hb.unclaimed id hc)⟩
  · exact ⟨fun u id pc hu => hb.run u id pc (running_run_begun hu), hb.unclaimed⟩
  · exact hb.commit hN hw hrun hlegal hstep
  · refine ⟨fun u id pc hu hpc => ?_, fun id hc => ?_⟩
    · exact hN.killed hw hrun (hb.run u id pc (running_killed hu).2 hpc)
    · refine hN.killed hw hrun (hb.unclaimed id ?_)
      by_contra hold
      rw [Bool.not_eq_false] at hold
      have hc' := (Moves.claimed (killed_moves hw hrun) hold).resolve_right fun h => h
      rw [show ((co.thrown w.svc).get id).dispatchClaimed = false from hc] at hc'
      cases hc'

lemma Reach.before {ok : System → Act → Prop} (hN : EndsBehind stage N) (h : w.Reach ok) :
    w.Before stage N := by
  obtain ⟨w₀, hstart, hrun⟩ := h
  have hempty : w₀.Before stage N := by
    obtain ⟨cfg, env, s, hs, rfl⟩ := id hstart
    obtain ⟨cfg', rfl⟩ := init_ok hs
    exact ⟨fun _ id _ _ _ => hN.start cfg' env id, fun id _ => hN.start cfg' env id⟩
  have hboth : w.Wf ∧ w.Before stage N :=
    hrun.invariant (I := fun w => w.Wf ∧ w.Before stage N)
      (fun _ _ _ hi _ hstep => ⟨hi.1.step hstep, hi.2.step hN hi.1 hstep⟩)
      ⟨hstart.wf, hempty⟩
  exact hboth.2

end

/-- Leases are granted to nobody but the `_run` that waits for one. -/
lemma unleased_endsBehind : EndsBehind Run.Pc.leaseless Service.Unleased where
  start _ _ _ := ⟨rfl, fun _ => List.not_mem_nil⟩
  outside _ _ _ _ h := h
  retry := rfl
  next h := h.leaseless
  killed hw hrun h := h.moves (killed_moves hw hrun) (fun _ h => h) fun _ h => h
  turn := by
    intro w t co inp e id hw hrun hlegal hstep h hco
    refine h.moves (taking_moves hw hrun hlegal hstep) ?_ ?_
    · -- a `_run` that is granted its lease goes on to file it
      rintro lease ⟨⟨path, rfl⟩, rfl⟩
      cases hstep
      cases (hco _ rfl).2 _ rfl
    · rintro lease ⟨path, rfl⟩
      cases (hco _ rfl).1

lemma undispatched_endsBehind : EndsBehind (fun pc => !pc.far) Service.Undispatched where
  start _ _ _ _ _ := List.not_mem_nil
  outside _ _ _ _ h := h
  retry := rfl
  next h hpc := by
    rw [Bool.not_eq_true'] at hpc ⊢
    exact h.near hpc
  killed hw hrun h := h.moves (killed_moves hw hrun) fun h => h
  turn := by
    intro w t co inp e id hw hrun hlegal hstep h hco fence path hmem
    rcases Moves.licensed (taking_moves hw hrun hlegal hstep) hmem with hold |
      ⟨path', fence', reservation, rfl⟩
    · exact h fence path hold
    · obtain ⟨e', he', rfl⟩ := Option.map_eq_some_iff.mp hstep
      obtain ⟨-, rfl⟩ := withLock_some he'
      rw [(Effect.lift_next _ _ _).1] at hmem
      rcases @Run.dispatch_cases w.svc id path' fence' reservation with heq |
        ⟨hgoto, -⟩
      · rw [heq] at hmem
        exact h fence path hmem
      · have hstage := (hco _ rfl).2 .executing (by
          simp only [Effect.lift, Effect.bind, hgoto])
        cases hstage

end System

end ModelSwitch.Execution

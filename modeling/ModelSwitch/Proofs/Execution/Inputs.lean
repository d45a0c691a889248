import ModelSwitch.Proofs.Execution.Leases

/-!
# The read lease of an execution's input

The contexts in which executions read their blob inputs are in custody like the scheduler's leases:
`_run` enters a context and files it, a teardown leaves it. One context of an execution is open at
a time, and it stays open until the execution is settled, unless an admission retry enters another
one or a task ends that has a context to file or to leave.
-/

namespace ModelSwitch.Execution

/-- The context in which an execution reads its input. -/
def Resource.input : Resource InputContext where
  slot := Record.inputCtx
  shut := Record.inputClosed
  entry
    | .opened id ctx => some (.took id ctx)
    | .closed ctx => some (.gave ctx)
    | _ => none

namespace Service

/-- The books of the input contexts. -/
def inputs (s : Service) : Custody ExecutionId InputContext := s.books .input

/-- How often a context was left. -/
def exits (s : Service) (ctx : InputContext) : ℕ := s.log.count (.closed ctx)

/-- The context was entered for the execution and has not been left. -/
def IsOpen (s : Service) (id : ExecutionId) (ctx : InputContext) : Prop :=
  .opened id ctx ∈ s.log ∧ .closed ctx ∉ s.log

/-- Contexts are drawn in order. -/
def Entered (s : Service) : Prop := ∀ id ctx, .opened id ctx ∈ s.log → ctx < s.uuids

variable {s : Service} {id : ExecutionId} {ctx : InputContext}

lemma took_input_iff : .took id ctx ∈ s.inputs.log ↔ .opened id ctx ∈ s.log := by
  rw [inputs, mem_books_iff]
  constructor
  · rintro ⟨e, he, heq⟩
    cases e <;> cases heq
    exact he
  · exact fun h => ⟨_, h, rfl⟩

lemma gave_input_iff : .gave ctx ∈ s.inputs.log ↔ .closed ctx ∈ s.log := by
  rw [inputs, mem_books_iff]
  constructor
  · rintro ⟨e, he, heq⟩
    cases e <;> cases heq
    exact he
  · exact fun h => ⟨_, h, rfl⟩

lemma exits_eq (s : Service) (ctx : InputContext) : s.exits ctx = s.inputs.returns ctx := by
  simp only [exits, Custody.returns, inputs, books, List.count, List.countP_filterMap]
  refine List.countP_congr fun e _ => ?_
  cases e <;> simp [Resource.input]

end Service

/-! ### What a move does to the books -/

section

variable {L : Licence} {p p' : List Debt × Service} {s : Service} {id : ExecutionId}

lemma Edit.inputs {r r' : Record} (h : Edit L id r r') :
    r'.inputCtx = r.inputCtx ∧ r'.inputClosed = r.inputClosed := by
  cases h with
  | quiet h => exact ⟨congrArg (·.inputCtx) h, congrArg (·.inputClosed) h⟩
  | _ => exact ⟨rfl, rfl⟩

lemma Settlement.inputs {r r' : Record} (h : Settlement L id r r') :
    r'.inputCtx = r.inputCtx ∧ r'.inputClosed = r.inputClosed := by
  cases h <;> exact ⟨rfl, rfl⟩

lemma Record.mark_inputs (r : Record) (code message : String) :
    (r.markReason code message).markCancelling.inputCtx = r.inputCtx ∧
      (r.markReason code message).markCancelling.inputClosed = r.inputClosed := by
  simp only [markReason, markCancelling]
  split <;> split <;> exact ⟨rfl, rfl⟩

lemma Move.inputs (h : Move L p p') (he : p.2.Entered) :
    Custody.Step L.opens L.stores p.2.inputs p'.2.inputs := by
  have hstay : p'.2.inputs = p.2.inputs → Custody.Step L.opens L.stores p.2.inputs p'.2.inputs :=
    fun heq => heq ▸ .stay
  cases h with
  | frame h => exact hstay (Service.books_congr h.records h.log)
  | edit id f h | settle id f h => exact hstay (Service.books_update h.inputs.1 h.inputs.2)
  | claim id hq hs hc | succeed id blob hs hlock hp hok =>
    exact hstay (Service.books_update rfl rfl)
  | mark id cancel code message hs hlock hok =>
    exact hstay (Service.books_update (Record.mark_inputs ..).1 (Record.mark_inputs ..).2)
  | @finish d s id =>
    obtain ⟨store, heq⟩ := s.finishIdempotency_eq id
    rw [heq]
    exact .stay
  | grant id lease h hfresh => exact hstay (Service.books_note rfl)
  | release id lease outcome hl hr =>
    exact hstay ((Service.books_note rfl).trans (Service.books_update rfl rfl))
  | @enter d s id ctx n h hctx hn =>
    have hnew : (Service.note { s with uuids := n } (.opened id ctx)).inputs =
        s.inputs.take id ctx := Service.books_take (s := { s with uuids := n }) rfl
    rw [hnew]
    refine .take id ctx h fun id' hid' => ?_
    exact absurd (he id' ctx (Service.took_input_iff.mp hid')) (not_lt.mpr hctx)
  | @store d s id ctx h =>
    cases hfile : s.records.get? id with
    | none =>
      rw [Service.update_of_none hfile]
      exact .stay
    | some r =>
      rw [Service.inputs, Service.inputs, Service.books_file (v := ctx) hfile rfl rfl]
      exact .file id ctx h
  | @close d s id ctx hc ho hs =>
    obtain ⟨r, hfile⟩ := Service.exists_of_inputCtx (hc ▸ rfl : (s.get id).inputCtx.isSome = true)
    rw [Service.inputs, Service.inputs, Service.books_give hfile (v := ctx) rfl rfl rfl]
    exact .give id ctx hc ho
  | note e h =>
    refine hstay (Service.books_note ?_)
    cases e <;> first | rfl | cases h
  | @create d s r n hL hr hnew hn hle =>
    refine hstay (Service.books_create ?_ ?_)
    · simp only [Service.get, hnew, Resource.input, hr.inputCtx, Option.getD_none]
    · simp only [Service.get, hnew, Resource.input, hr.inputClosed, Option.getD_none]
  | _ => exact .stay

lemma Service.Entered.note {e : Event} (h : s.Entered) (he : ∀ id ctx, e ≠ .opened id ctx) :
    (s.note e).Entered := by
  intro id ctx hmem
  simp only [Service.note, List.mem_append, List.mem_singleton] at hmem
  exact h id ctx (hmem.resolve_right fun heq => he id ctx heq.symm)

lemma Service.Entered.update {f : Record → Record} (h : s.Entered) : (s.update id f).Entered := by
  simp only [Service.Entered, Service.update_log, Service.update_uuids]
  exact h

lemma Move.entered (h : Move L p p') (he : p.2.Entered) : p'.2.Entered := by
  cases h with
  | frame h => exact fun id ctx hmem => (he id ctx (h.log ▸ hmem)).trans_le h.uuids
  | edit | claim | mark | settle | succeed | store => exact he.update
  | @finish d s id =>
    obtain ⟨store, heq⟩ := s.finishIdempotency_eq id
    rw [heq]
    exact he
  | grant => exact he.note nofun
  | release | close => exact he.update.note nofun
  | note e h =>
    refine he.note ?_
    rintro id ctx rfl
    cases h
  | @enter d s id ctx n h hctx hn =>
    intro id' ctx' hmem
    simp only [Service.note, List.mem_append, List.mem_singleton] at hmem
    rcases hmem with hold | heq
    · exact (he id' ctx' hold).trans_le (hctx.trans hn.le)
    · cases heq
      exact hn
  | create r n hL hr hnew hn hle => exact fun id ctx hmem => (he id ctx hmem).trans_le hle
  | _ => exact he

lemma Moves.inputs (h : Relation.ReflTransGen (Move L) p p') (he : p.2.Entered) :
    Relation.ReflTransGen (Custody.Step L.opens L.stores) p.2.inputs p'.2.inputs ∧
      p'.2.Entered := by
  induction h with
  | refl => exact ⟨.refl, he⟩
  | tail _ hm ih => exact ⟨ih.1.tail (hm.inputs ih.2), hm.entered ih.2⟩

/-- A context is left only for an execution that is settled. -/
def Service.Shut (s : Service) : Prop :=
  ∀ id, (s.get id).inputClosed = true → (s.get id).settled = true

lemma Change.shut {r' : Record} (h : Change L s id (s.get id) r') (hs : s.Shut)
    (hc : r'.inputClosed = true) : r'.settled = true := by
  have hold : (s.get id).inputClosed = true → r'.settled = true := fun hc => h.settled (hs id hc)
  cases h with
  | edit h => exact hold (h.inputs.2 ▸ hc)
  | mark =>
    rw [(Record.mark_inputs ..).2] at hc
    exact hold hc
  | settle h => exact hold (h.inputs.2 ▸ hc)
  | close ctx hctx ho hs => exact hs
  | create hr hid hnone => rw [hr.inputClosed] at hc; cases hc
  | _ => exact hold hc

lemma Moves.shut (h : Relation.ReflTransGen (Move L) p p') (hs : p.2.Shut) : p'.2.Shut := by
  induction h with
  | refl => exact hs
  | tail _ hm ih => exact fun id hc => (hm.change id).shut ih hc

/-! ### Executions with their input -/

/-- The execution carries its input, or the context it reads it in is filed. -/
def Record.Fed (r : Record) : Prop :=
  (∃ document, r.input = .inline document) ∨ r.inputCtx.isSome = true

lemma Record.mark_input (r : Record) (code message : String) :
    (r.markReason code message).markCancelling.input = r.input := by
  simp only [markReason, markCancelling]
  split <;> split <;> rfl

lemma Change.fed {r' : Record} (h : Change L s id (s.get id) r')
    (hfile : (s.records.get? id).isSome = true) (hr : (s.get id).Fed) : r'.Fed := by
  cases h with
  | same => exact hr
  | edit h =>
    cases h with
    | quiet h =>
      have hcore : (s.get id).core.Fed := hr
      rw [← h] at hcore
      exact hcore
    | _ => exact hr
  | mark =>
    simp only [Record.Fed, Record.mark_input, (Record.mark_inputs ..).1]
    exact hr
  | settle h => cases h <;> exact hr
  | store ctx h => exact .inr rfl
  | create hr hid hnone => rw [hnone] at hfile; cases hfile
  | _ => exact hr

lemma Moves.fed (h : Relation.ReflTransGen (Move L) p p')
    (hfile : (p.2.records.get? id).isSome = true) (hr : (p.2.get id).Fed) :
    (p'.2.get id).Fed := by
  induction h with
  | refl => exact hr
  | tail hms hm ih =>
    refine (hm.change id).fed ?_ ih
    exact Service.Keeps.moves hms (List.forall_mem_singleton.mpr hfile) id List.mem_cons_self

end

/-! ### Inputs in the running system -/

namespace Co

/-- A `_run` has entered a context that it has yet to file. -/
def holdsInput : Co → Bool
  | .run _ (.storeInput _ _) => true
  | _ => false

/-- The task has a context to leave. -/
def owesInput (s : Service) (co : Co) : Bool :=
  co.owes.any fun
    | .input id => s.Unpaid (.input id)
    | .lease _ => false

lemma paid_of_owesInput {s : Service} {co : Co} (h : co.owesInput s = false) {δ : Debt}
    (hδ : δ ∈ co.owes) : ¬ s.Unpaid δ ∨ ∃ id, δ = .lease id := by
  cases δ with
  | lease id => exact .inr ⟨id, rfl⟩
  | input id =>
    refine .inl fun hu => ?_
    simp only [owesInput, List.any_eq_false] at h
    exact h _ hδ (decide_eq_true hu)

end Co

/-- The execution may go back to the queue: it has no context, or it is settled and has left it. -/
def Service.mayRequeue (s : Service) (id : ExecutionId) : Bool :=
  (s.get id).inputCtx.isNone || ((s.get id).settled && (s.get id).inputClosed)

namespace System

variable {w w' : System} {t u : TaskId} {co : Co} {e : Effect Co Value} {inp : Input}
  {id : ExecutionId} {ctx : InputContext}

/-- No input context is lost in the step: no execution goes back to the queue with its context, and
no task ends that has a context to file or to leave. -/
def attentive (w : System) : Act → Bool
  | .resume t inp =>
    match w.tasks.get? t, inp with
    | some (.running co), .answer (.error _) => !(co.fragile && co.owesInput w.svc)
    | some (.running (.run id .retry)), _ => w.svc.mayRequeue id
    | _, _ => true
  | .cancel t =>
    match w.tasks.get? t with
    | some (.running co) => !co.holdsInput && !co.owesInput w.svc
    | _ => true
  | _ => true

/-- The context has been entered and has yet to be filed. -/
def Enters (w : System) (id : ExecutionId) (ctx : InputContext) : Prop :=
  ∃ t path, w.Running t (.run id (.storeInput ctx path))

/-- The books of the input contexts agree with the tasks, and nothing is lost. -/
structure Reading (w : System) : Prop where
  entered : w.svc.Entered
  shut : w.svc.Shut
  balanced : w.svc.inputs.Balanced
  unread : ∀ t id pc, w.Running t (.run id pc) → pc.unread = true →
    (w.svc.get id).inputCtx = none
  unclaimed : ∀ id, (w.svc.get id).dispatchClaimed = false → (w.svc.get id).settled = false →
    (w.svc.get id).inputCtx = none
  taken : ∀ id ctx, w.Enters id ctx → .opened id ctx ∈ w.svc.log
  kept : w.svc.inputs.Kept w.Enters
  covered : w.Covered fun δ => ∃ id, δ = .input id
  fed : ∀ t id pc, w.Running t (.run id pc) → pc.fed = true → (w.svc.get id).Fed
  executed : ∀ id fence path, .execute id fence path ∈ w.svc.log → w.svc.Keeps [id] ∧
    (w.svc.get id).Fed

/-- The licence of a task as far as input contexts go. -/
def reading (w : System) (t : TaskId) (co : Co) (inp : Input) : Licence :=
  { w.plain t co with
    opens := fun id ctx =>
      co = .run id .openInput ∧ (∃ path, inp = .opened (.ok path)) ∧ ctx = w.svc.uuids
    stores := fun id ctx => ∃ path, co = .run id (.storeInput ctx path)
    dispatches := fun id => ∃ path fence reservation,
      co = .run id (.dispatch path fence reservation)
    forgets := fun δ => ∃ id, δ = .lease id }

lemma reading_turn (hw : w.Wf) (hr : w.Reading) (hrun : w.Running t co)
    (hlegal : inp.legal w.svc = true) (hok : w.attentive (.resume t inp) = true)
    (hstep : co.step w.svc (w.view t) inp = some e) :
    e.Clears (w.reading t co inp) t (w.base co) (co.owes, w.svc)
      (·.stance (w.reading t co inp)) := by
  refine hw.turn hrun rfl ⟨fun h => h, fun _ => trivial⟩ hlegal ?_ (fun _ _ => trivial) ?_ hstep
  · exact { plain_wants t inp with
      scans := fun _ _ id hc hs => ⟨.inr ⟨id, rfl⟩, .inl (hr.unclaimed id hc hs)⟩
      opened := fun _ path hco hinp => ⟨hco, ⟨path, hinp⟩, rfl⟩
      store := fun _ _ path hco => ⟨path, hco⟩
      dispatches := fun _ path fence reservation h => ⟨path, fence, reservation, h⟩
      retry := by
        rintro id rfl
        refine ⟨rfl, .inl ?_⟩
        rintro ⟨-, hsome, hopen⟩
        obtain ⟨e', he', -⟩ := Option.map_eq_some_iff.mp hstep
        cases inp with
        | go =>
          simp only [attentive, hrun, Service.mayRequeue, hopen, Bool.and_false, Bool.or_false,
            Option.isNone_iff_eq_none] at hok
          rw [hok] at hsome
          cases hsome
        | _ => cases he' }
  · rintro hfragile e rfl δ hδ
    rw [co.stance_fragile] at hfragile
    rw [co.stance_owes] at hδ
    simp only [attentive, hrun, hfragile, Bool.true_and, Bool.not_eq_true'] at hok
    exact Co.paid_of_owesInput hok hδ

lemma reading_ready (hr : w.Reading) (hrun : w.Running t co) :
    w.svc.inputs.Ready (w.reading t co inp).stores := by
  refine ⟨?_, ?_, ?_⟩
  · rintro id u v ⟨path, rfl⟩ ⟨path', heq⟩
    cases heq
    rfl
  · rintro id v ⟨path, rfl⟩
    exact Service.took_input_iff.mpr (hr.taken id v ⟨t, path, hrun⟩)
  · rintro id v ⟨path, rfl⟩
    exact .inl (hr.unread t id _ hrun rfl)

/-- Only the `_run` of an execution files a context with it. -/
lemma input_none {p' : List Debt × Service} (hr : w.Reading)
    (h : Relation.ReflTransGen (Move (w.reading t co inp)) (co.owes, w.svc) p')
    (hnone : (w.svc.get id).inputCtx = none) :
    (p'.2.get id).inputCtx = none ∨ ∃ ctx path, co = .run id (.storeInput ctx path) := by
  refine (Custody.steps_slot_none (Moves.inputs h hr.entered).1 hnone).imp_right ?_
  rintro ⟨ctx, path, hco⟩
  exact ⟨ctx, path, hco⟩

/-- An execution that is not settled now was not settled before. -/
lemma live_of_moves {L : Licence} {p p' : List Debt × Service}
    (h : Relation.ReflTransGen (Move L) p p') (hs : (p'.2.get id).settled = false) :
    (p.2.get id).settled = false := by
  by_contra hsettled
  rw [Bool.not_eq_false] at hsettled
  have hafter := Service.Ended.moves h (Service.Ended.single hsettled) id List.mem_cons_self
  rw [hs] at hafter
  cases hafter

section

variable (hw : w.Wf) (hr : w.Reading) (hrun : w.Running t co)
  (hstep : co.step w.svc (w.view t) inp = some e)
  (hm : Relation.ReflTransGen (Move (w.reading t co inp)) (co.owes, w.svc)
    (owesAfter e.ctl, e.next))

include hw hr hrun hstep hm

lemma commit_unread {pc : Run.Pc} (hu : (w.commit t e).Running u (.run id pc))
    (hpc : pc.unread = true) : ((w.commit t e).svc.get id).inputCtx = none := by
  rcases run_commit hw.fresh hrun hstep hu with ⟨pc', rfl, rfl, -, hnext⟩ | ⟨hne, hold⟩ |
    ⟨sp, hsp, hco⟩
  · obtain ⟨hunread, hother⟩ := hnext.unread hpc
    refine (input_none hr hm (hr.unread u id _ hrun hunread)).resolve_right ?_
    rintro ⟨ctx, path, heq⟩
    cases heq
    exact hother ctx path rfl
  · refine (input_none hr hm (hr.unread u id pc hold hpc)).resolve_right ?_
    rintro ⟨ctx, path, rfl⟩
    exact hne (hw.single u t id pc _ hold hrun)
  · obtain ⟨hunclaimed, -, -, hlive⟩ := started_run hw hstep hsp hco
    refine (input_none hr hm (hr.unclaimed id hunclaimed hlive)).resolve_right ?_
    rintro ⟨ctx, path, rfl⟩
    rw [hw.claimed t id _ hrun] at hunclaimed
    cases hunclaimed

lemma commit_queued (hok : w.attentive (.resume t inp) = true)
    (hc : ((w.commit t e).svc.get id).dispatchClaimed = false)
    (hs : ((w.commit t e).svc.get id).settled = false) :
    ((w.commit t e).svc.get id).inputCtx = none := by
  have hlive : (w.svc.get id).settled = false := live_of_moves hm hs
  have hnone : (w.svc.get id).inputCtx = none ∧
      ∀ ctx path, co ≠ .run id (.storeInput ctx path) := by
    cases hold : (w.svc.get id).dispatchClaimed with
    | false =>
      refine ⟨hr.unclaimed id hold hlive, ?_⟩
      rintro ctx path rfl
      rw [hw.claimed t id _ hrun] at hold
      cases hold
    | true =>
      rcases Moves.claimed hm hold with hc' | rfl
      · rw [show (e.next.get id).dispatchClaimed = false from hc] at hc'
        cases hc'
      · -- the retry of an execution that is not settled: it has no context
        refine ⟨?_, nofun⟩
        obtain ⟨e', he', -⟩ := Option.map_eq_some_iff.mp hstep
        cases inp with
        | go => simpa [attentive, hrun, Service.mayRequeue, hlive] using hok
        | _ => cases he'
  refine (input_none hr hm hnone.1).resolve_right ?_
  rintro ⟨ctx, path, hco⟩
  exact hnone.2 ctx path hco

lemma commit_entered (h : (w.commit t e).Enters id ctx) :
    .opened id ctx ∈ (w.commit t e).svc.log := by
  have hlog := Custody.steps_log_subset (Moves.inputs hm hr.entered).1
  obtain ⟨u, path, hu⟩ := h
  rcases run_commit hw.fresh hrun hstep hu with ⟨pc', rfl, rfl, -, hnext⟩ | ⟨-, hold⟩ |
    ⟨sp, -, hco⟩
  · change .opened id ctx ∈ e.next.log
    generalize e.next = s' at hnext
    cases hnext with
    | opened path => exact List.mem_append_right _ List.mem_cons_self
    | far h => cases h
  · refine Service.took_input_iff.mp (hlog (Service.took_input_iff.mpr ?_))
    exact hr.taken id ctx ⟨u, path, hold⟩
  · cases sp <;> cases hco

lemma commit_inputs_kept : (w.commit t e).svc.inputs.Kept (w.commit t e).Enters := by
  have hlt := hw.fresh.lt hrun
  have hhand : w.svc.inputs.Kept fun id ctx => (w.reading t co inp).opens id ctx ∨
      (w.reading t co inp).stores id ctx ∨
        ∃ u path, u ≠ t ∧ w.Running u (.run id (.storeInput ctx path)) := by
    intro id ctx htook
    refine (hr.kept id ctx htook).imp_left ?_
    rintro ⟨u, path, hu⟩
    rcases eq_or_ne u t with rfl | hne
    · cases hrun.symm.trans hu
      exact .inr (.inl ⟨path, rfl⟩)
    · exact .inr (.inr ⟨u, path, hne, hu⟩)
  have hafter := Custody.steps_kept (Moves.inputs hm hr.entered).1 (reading_ready hr hrun)
    (fun _ _ h => .inl h) hhand
  intro id ctx htook
  rcases hafter id ctx htook with
    (⟨rfl, ⟨path, rfl⟩, rfl⟩ | ⟨path, rfl⟩ | ⟨u, path, hne, hu⟩) | hslot
  · -- the context has just been entered
    cases hstep
    exact .inl ⟨t, path, commit_running_self hw.fresh hlt rfl⟩
  · refine .inr ?_
    obtain ⟨e', he', rfl⟩ := Option.map_eq_some_iff.mp hstep
    obtain ⟨-, rfl⟩ := withLock_some he'
    obtain ⟨r, hfile⟩ := Service.exists_of_claimed (hw.claimed t id _ hrun)
    exact congrArg (·.inputCtx)
      (Service.get_update_self (f := fun r => { r with inputCtx := some ctx }) hfile)
  · exact .inl ⟨u, path, commit_running hw.fresh hlt hne hu⟩
  · exact .inr hslot

lemma commit_fed {pc : Run.Pc} (hu : (w.commit t e).Running u (.run id pc))
    (hpc : pc.fed = true) : ((w.commit t e).svc.get id).Fed := by
  rcases run_commit hw.fresh hrun hstep hu with ⟨pc', rfl, rfl, -, hnext⟩ | ⟨-, hold⟩ |
    ⟨sp, -, hco⟩
  · have hfile := hw.keeps hrun id List.mem_cons_self
    rcases hnext.fed hpc with hfed | hinline | ⟨ctx, path, -, hset⟩
    · exact Moves.fed hm hfile (hr.fed u id _ hrun hfed)
    · exact Moves.fed hm hfile (.inl hinline)
    · obtain ⟨r, hget⟩ := Option.isSome_iff_exists.mp hfile
      refine .inr ?_
      change ((e.next).get id).inputCtx.isSome = true
      rw [hset, Service.get_update_self hget]
      rfl
  · exact Moves.fed hm (hw.keeps hold id List.mem_cons_self) (hr.fed u id pc hold hpc)
  · cases sp with
    | run id' => cases hco; cases hpc
    | _ => cases hco

omit hstep in
lemma commit_executed {fence : Fence} {path : Option String}
    (hmem : .execute id fence path ∈ (w.commit t e).svc.log) :
    (w.commit t e).svc.Keeps [id] ∧ ((w.commit t e).svc.get id).Fed := by
  have hbefore : w.svc.Keeps [id] ∧ (w.svc.get id).Fed := by
    rcases Moves.licensed hm hmem with hold | ⟨path, fence, reservation, rfl⟩
    · exact hr.executed id fence path hold
    · exact ⟨hw.keeps hrun, hr.fed t id _ hrun rfl⟩
  exact ⟨.moves hm hbefore.1, Moves.fed hm (hbefore.1 id List.mem_cons_self) hbefore.2⟩

end

lemma Reading.commit (hw : w.Wf) (hr : w.Reading) (hrun : w.Running t co)
    (hlegal : inp.legal w.svc = true) (hok : w.attentive (.resume t inp) = true)
    (hstep : co.step w.svc (w.view t) inp = some e) : (w.commit t e).Reading := by
  have hm := (turn_at (reading_turn hw hr hrun hlegal hok hstep)).moves
  obtain ⟨hsteps, hentered⟩ := Moves.inputs hm hr.entered
  refine ⟨hentered, Moves.shut hm hr.shut,
    (Custody.steps_balanced hsteps (reading_ready hr hrun) hr.balanced).1,
    fun u id pc hu hpc => commit_unread hw hr hrun hstep hm hu hpc,
    fun id hc hs => commit_queued hw hr hrun hstep hm hok hc hs,
    fun id ctx h => commit_entered hw hr hrun hstep hm h,
    commit_inputs_kept hw hr hrun hstep hm, hr.covered.commit hw hrun ?_ hm,
    fun u id pc hu hpc => commit_fed hw hr hrun hstep hm hu hpc,
    fun id fence path hmem => commit_executed hw hr hrun hm hmem⟩
  rintro δ ⟨id, rfl⟩ ⟨id', heq⟩
  cases heq

lemma Reading.killed (hw : w.Wf) (hr : w.Reading) (hrun : w.Running t co)
    (hok : w.attentive (.cancel t) = true) : (w.killed t co).Reading := by
  simp only [attentive, hrun, Bool.and_eq_true, Bool.not_eq_true'] at hok
  obtain ⟨hhand, howes⟩ := hok
  -- a cancelled task claims nothing, gives up no claim and calls no backend
  have hat : At { w.reading t co .go with
        retries := fun _ => False, dispatches := fun _ => False, stores := fun _ _ => False,
        opens := fun _ _ => False } t
      (w.base co) (co.owes, w.svc) [] none (co.thrown w.svc) :=
    hw.cancelled hrun rfl (fun _ _ => .inr trivial) fun _ hδ => Co.paid_of_owesInput howes hδ
  have hm := hat.moves
  obtain ⟨hsteps, hentered⟩ := Moves.inputs hm hr.entered
  have hready : w.svc.inputs.Ready fun _ _ => False := ⟨nofun, nofun, nofun⟩
  have hnone : ∀ id, (w.svc.get id).inputCtx = none →
      ((co.thrown w.svc).get id).inputCtx = none := by
    intro id h
    refine (Custody.steps_slot_none hsteps h).resolve_right ?_
    rintro ⟨ctx, h⟩
    exact h
  refine ⟨hentered, Moves.shut hm hr.shut, (Custody.steps_balanced hsteps hready hr.balanced).1,
    fun u id pc hu hpc => hnone id (hr.unread u id pc (running_killed hu).2 hpc), ?_, ?_, ?_, ?_,
    ?_, ?_⟩
  · intro id hc hs
    refine hnone id (hr.unclaimed id ?_ (live_of_moves hm hs))
    by_contra hold
    rw [Bool.not_eq_false] at hold
    have hc' := (Moves.claimed hm hold).resolve_right fun h => h
    rw [show ((co.thrown w.svc).get id).dispatchClaimed = false from hc] at hc'
    cases hc'
  · rintro id ctx ⟨u, path, hu⟩
    refine Service.took_input_iff.mp (Custody.steps_log_subset hsteps
      (Service.took_input_iff.mpr ?_))
    exact hr.taken id ctx ⟨u, path, (running_killed hu).2⟩
  · refine Custody.steps_kept hsteps hready (fun _ _ h => h.elim) fun id ctx htook => ?_
    refine (hr.kept id ctx htook).imp_left ?_
    rintro ⟨u, path, hu⟩
    refine ⟨u, path, killed_running ?_ hu⟩
    rintro rfl
    cases hrun.symm.trans hu
    cases hhand
  · refine hr.covered.killed hrun ?_ hm
    rintro δ ⟨id, rfl⟩ ⟨id', heq⟩
    cases heq
  · intro u id pc hu hpc
    have hold := (running_killed hu).2
    exact Moves.fed hm (hw.keeps hold id List.mem_cons_self) (hr.fed u id pc hold hpc)
  · intro id fence path hmem
    have hold := (Moves.licensed hm hmem).resolve_right fun h => h
    obtain ⟨hkeeps, hfed⟩ := hr.executed id fence path hold
    exact ⟨.moves hm hkeeps, Moves.fed hm (hkeeps id List.mem_cons_self) hfed⟩

lemma Reading.begun (hw : w.Wf) (hr : w.Reading) (c : ApiCall) : (w.begun c).Reading := by
  refine ⟨hr.entered, hr.shut, hr.balanced,
    fun u id pc hu => hr.unread u id pc (running_run_begun hu), hr.unclaimed, ?_, ?_,
    hr.covered.begun hw c, fun u id pc hu => hr.fed u id pc (running_run_begun hu), hr.executed⟩
  · rintro id ctx ⟨u, path, hu⟩
    exact hr.taken id ctx ⟨u, path, running_run_begun hu⟩
  · intro id ctx htook
    refine (hr.kept id ctx htook).imp_left ?_
    rintro ⟨u, path, hu⟩
    exact ⟨u, path, begun_running hw.fresh c hu⟩

lemma Reading.step {a : Act} (hw : w.Wf) (hr : w.Reading) (hok : w.attentive a = true)
    (h : w.step a = some w') : w'.Reading := by
  rcases step_cases h with ⟨env, store, rfl, -⟩ | ⟨c, rfl, rfl⟩ |
    ⟨t, inp, co, e, rfl, hrun, hlegal, hstep, rfl⟩ | ⟨t, co, rfl, hrun, rfl⟩
  · exact ⟨hr.entered, hr.shut, hr.balanced, hr.unread, hr.unclaimed, hr.taken, hr.kept, hr.covered,
      hr.fed, hr.executed⟩
  · exact hr.begun hw c
  · exact hr.commit hw hrun hlegal hok hstep
  · exact hr.killed hw hrun hok

lemma Starts.reading (h : w.Starts) : w.Reading := by
  obtain ⟨cfg, env, s, hs, rfl⟩ := h
  obtain ⟨cfg', rfl⟩ := init_ok hs
  exact {
    entered := nofun
    shut := nofun
    balanced := ⟨nofun, nofun, nofun, nofun, nofun, fun _ => Nat.zero_le 1⟩
    unread := fun _ _ _ _ _ => rfl
    unclaimed := fun _ _ _ => rfl
    taken := by rintro id ctx ⟨u, path, ⟨⟩⟩
    kept := nofun
    covered := by rintro δ ⟨id, rfl⟩ ⟨⟨⟩, -⟩
    fed := by rintro t id pc ⟨⟩
    executed := nofun }

lemma Reach.reading (h : w.Reach fun w a => w.attentive a = true) : w.Wf ∧ w.Reading := by
  obtain ⟨w₀, hstart, hrun⟩ := h
  exact hrun.invariant (I := fun w => w.Wf ∧ w.Reading)
    (fun _ _ _ hi hok hstep => ⟨hi.1.step hstep, hi.2.step hi.1 hok hstep⟩)
    ⟨hstart.wf, hstart.reading⟩

namespace Reading

/-- A context that is open is being filed or is filed. -/
lemma open_cases (hr : w.Reading) (ho : w.svc.IsOpen id ctx) :
    w.Enters id ctx ∨ (w.svc.get id).inputCtx = some ctx :=
  hr.kept id ctx (Service.took_input_iff.mpr ho.1)

/-- The context that is filed with an execution that is not settled is open. -/
lemma isOpen (hr : w.Reading) (hslot : (w.svc.get id).inputCtx = some ctx)
    (hs : (w.svc.get id).settled = false) : w.svc.IsOpen id ctx := by
  have htook := hr.balanced.filed id ctx hslot
  refine ⟨Service.took_input_iff.mp htook, fun hclosed => ?_⟩
  obtain ⟨id', hslot', hshut⟩ := hr.balanced.returned ctx (Service.gave_input_iff.mpr hclosed)
  have hid := hr.balanced.owner id' id ctx (hr.balanced.filed id' ctx hslot') htook
  rw [hid] at hshut
  rw [hr.shut id hshut] at hs
  cases hs

end Reading

/-- One read lease per execution: in every run of attentive steps an execution has at most one
context open at a time; from its backend call until it is settled it has one; and every context is
left at most once, and has been left once the execution is settled, its `_run` has ended and no task
is left that has to tear it down. -/
theorem Reach.input_held_once (h : w.Reach fun w a => w.attentive a = true) :
    (∀ ctx ctx', w.svc.IsOpen id ctx → w.svc.IsOpen id ctx' → ctx = ctx') ∧
    (∀ fence path ref, .execute id fence path ∈ w.svc.log → (w.svc.get id).input = .blob ref →
      (w.svc.get id).settled = false → ∃ ctx, w.svc.IsOpen id ctx) ∧
    (∀ ctx, .opened id ctx ∈ w.svc.log → w.svc.exits ctx ≤ 1 ∧
      ((w.svc.get id).settled = true → (∀ t pc, ¬ w.Running t (.run id pc)) →
        (∀ t co, w.Running t co → .input id ∉ co.owes) → w.svc.exits ctx = 1)) := by
  obtain ⟨hw, hr⟩ := h.reading
  refine ⟨fun ctx ctx' ho ho' => ?_, fun fence path ref hmem hblob hs => ?_, fun ctx hopened => ?_⟩
  · rcases hr.open_cases ho with ⟨t, path, ht⟩ | hslot
    · rcases hr.open_cases ho' with ⟨u, path', hu⟩ | hslot'
      · obtain rfl := hw.single t u id _ _ ht hu
        cases ht.symm.trans hu
        rfl
      · rw [hr.unread t id _ ht rfl] at hslot'
        cases hslot'
    · rcases hr.open_cases ho' with ⟨u, path', hu⟩ | hslot'
      · rw [hr.unread u id _ hu rfl] at hslot
        cases hslot
      · exact Option.some.inj (hslot.symm.trans hslot')
  · rcases (hr.executed id fence path hmem).2 with ⟨document, hinline⟩ | hsome
    · rw [hblob] at hinline
      cases hinline
    · obtain ⟨ctx, hctx⟩ := Option.isSome_iff_exists.mp hsome
      exact ⟨ctx, hr.isOpen hctx hs⟩
  · rw [Service.exits_eq]
    refine ⟨hr.balanced.once ctx, fun hs hended howed => ?_⟩
    have hslot : (w.svc.get id).inputCtx = some ctx := by
      refine (hr.kept id ctx (Service.took_input_iff.mpr hopened)).resolve_left ?_
      rintro ⟨t, path, hrun⟩
      exact hended t _ hrun
    refine hr.balanced.returns_eq_one hslot ?_
    by_contra hopen
    obtain ⟨t, co, hrun, hmem⟩ := hr.covered (.input id) ⟨id, rfl⟩
      ⟨hs, by rw [hslot]; rfl, Bool.not_eq_true _ ▸ hopen⟩
    exact howed t co hrun hmem

def sampleRef : BlobRef where
  blobId := "b"
  owner := "alice"
  sha256 := ""
  sizeBytes := 1
  mediaType := "application/json"

/-- Execution 1 reads a blob; its `_run` has filed the context 3 and waits for the scheduler. -/
def readOne : List Act :=
  [.call (.submit { sampleSubmit with input := .blob sampleRef }), go 0, go 1, go 1, go 2,
    .resume 2 (.opened (.ok "path")), go 2]

/-- Execution 1 is dispatched with its blob. -/
def dispatchRead : List Act :=
  readOne ++ [.resume 2 (.acquired (.ok sampleLease)), go 2,
    .resume 2 (.reserved (.ok sampleReservation)), go 2]

theorem input_held_by_dispatched :
    (∃ w : System, w.Reach (fun w a => w.attentive a = true) ∧ ∃ ctx, w.svc.IsOpen 1 ctx) ∧
    ∃ w : System, w.Reach (fun w a => w.attentive a = true) ∧ .opened 1 3 ∈ w.svc.log ∧
      (w.svc.get 1).settled = true ∧ w.svc.exits 3 = 1 := by
  constructor
  · obtain ⟨w, hreach, hmem, hblob, hs⟩ := sample_starts.exists_reach attentive dispatchRead
      (P := fun w => .execute 1 sampleReservation.fence (some "path") ∈ w.svc.log ∧
        (w.svc.get 1).input = .blob sampleRef ∧ (w.svc.get 1).settled = false)
      (by decide +kernel)
    exact ⟨w, hreach, (Reach.input_held_once hreach).2.1 _ _ _ hmem hblob hs⟩
  · obtain ⟨w, hreach, hmem, hs, htasks⟩ := sample_starts.exists_reach attentive
      (readOne ++ [.resume 2 (.acquired (.error (.timeoutError ""))), go 2,
        .resume 2 (.answer (.ok ()))])
      (P := fun w => .opened 1 3 ∈ w.svc.log ∧ (w.svc.get 1).settled = true ∧
        (w.allTasks isLoop) = true)
      (by decide +kernel)
    refine ⟨w, hreach, hmem, hs, ((Reach.input_held_once hreach).2.2 3 hmem).2 hs ?_ ?_⟩
    · exact fun t pc hrun => absurd (of_allTasks htasks hrun) Bool.false_ne_true
    · intro t co hrun
      have hloop := of_allTasks htasks hrun
      cases co <;> first | exact List.not_mem_nil | cases hloop

/-- The scheduler has no slot left, so the execution goes back to the queue with its context; the
next `_run` enters a second one. -/
theorem two_inputs_after_retry :
    ∃ w : System, w.Reach (fun _ a => a.kills = false) ∧ w.svc.IsOpen 1 3 ∧ w.svc.IsOpen 1 4 := by
  obtain ⟨w, hreach, hP⟩ := sample_starts.exists_reach (fun _ a => !a.kills)
    (readOne ++ [.resume 2 (.acquired (.error (.conflict "session_slots_exhausted"))), go 2,
      .env { sampleEnv with now := 1 }, .resume 1 .timeout, go 1, go 3,
      .resume 3 (.opened (.ok "path"))])
    (P := fun w => (.opened 1 3 ∈ w.svc.log ∧ .closed 3 ∉ w.svc.log) ∧
      .opened 1 4 ∈ w.svc.log ∧ .closed 4 ∉ w.svc.log)
    (by decide +kernel)
  exact ⟨w, hreach.mono fun _ _ h => Bool.not_eq_true' _ ▸ h, hP⟩

end System

end ModelSwitch.Execution

import ModelSwitch.Proofs.Execution.Parts

/-!
# What `_run` does

The coroutines of one dispatched execution, down to elementary moves. `Allows` collects what a step
needs of the state it starts in.
-/

namespace ModelSwitch.Execution

section

variable {L : Licence} {base : Option (TaskId × Option ExecutionId)}
  {p₀ : List Debt × Service} {d : List Debt} {x : Option (Option ExecutionId)}
  {s : Service} {id : ExecutionId} {inp : Input} {handle : ExecutionHandle} {r : Except Exc Unit}

/-- The task owes nothing and is not under the lock. -/
abbrev Clear (L : Licence) (base : Option (TaskId × Option ExecutionId)) (p₀ : List Debt × Service)
    (s : Service) : Prop :=
  At L L.view.self base p₀ [] none s

/-- The section keeps to the stances of its coroutine and ends with nothing owed. -/
abbrev Effect.Obeys {α ρ : Type} (e : Effect α ρ) (L : Licence)
    (base : Option (TaskId × Option ExecutionId)) (p₀ : List Debt × Service) (stance : α → Stance) :
    Prop :=
  e.Meets (fun s pc => Stands L L.view.self base p₀ (stance pc) s)
    (fun s r => Clear L base p₀ s ∧ Raises L r)

/-- The section keeps to the stances of its coroutine and owes nothing at its end. -/
abbrev Effect.Clears {α ρ : Type} (e : Effect α ρ) (L : Licence) (t : TaskId)
    (base : Option (TaskId × Option ExecutionId)) (p₀ : List Debt × Service) (stance : α → Stance) :
    Prop :=
  e.Meets (fun s pc => Stands L t base p₀ (stance pc) s) (fun s _ => At L t base p₀ [] none s)

/-! ### Texts -/

lemma plainText_append (a b : String) :
    Protocol.plainText (a ++ b) = (Protocol.plainText a && Protocol.plainText b) := by
  simp [Protocol.plainText, Bool.not_or]

lemma TextOk.append_right {a b : String} (ha : TextOk a) (hb : Protocol.plainText b = true) :
    TextOk (a ++ b) := by
  refine ⟨fun h => ha.1 ?_, by rw [plainText_append, ha.2, hb]; rfl⟩
  exact (String.append_eq_empty_iff.mp h).1

lemma plainText_keyError {m : ModelId} (h : Protocol.plainText m = true) :
    Protocol.plainText (Exc.keyError m).text = true := by
  simp only [Exc.text, plainText_append, h, Bool.and_true]
  decide

/-! ### Marking -/

lemma At.mark (h : At L L.view.self none p₀ d none s) (id : ExecutionId) (cancel : Bool)
    (code message : String) (hs : (s.get id).settled = false)
    (hok : L.strict → knownError code = true ∧ TextOk message) :
    At L L.view.self none p₀ d (some (some id))
      ({ s with lock := some (L.view.self, some id) }.mark id cancel code message) :=
  (h.take (some id)).move (.mark id cancel code message hs ⟨L.view.self, rfl⟩ hok)
    (Service.update_lock ..)

lemma At.ensureQuiescer (h : At L L.view.self base p₀ d x s) (m : ModelId) :
    At L L.view.self base p₀ d x (s.ensureQuiescer L.view m).1 := by
  simp only [Service.ensureQuiescer]
  split
  · next hended => exact h.move (.hire m hended) rfl
  · exact h

lemma quiesceIf_meets {α : Type} {G : Service → α → Prop} {needed : Bool}
    (h : At L L.view.self base p₀ d x s) :
    (quiesceIf needed L.view id s : Effect α Unit).Meets G
      (fun s' r => At L L.view.self base p₀ d x s' ∧ Raises L r) := by
  simp only [quiesceIf]
  split
  · exact ⟨h.ensureQuiescer _, .ok _⟩
  · exact .ret ⟨h, .ok _⟩

/-! ### `_on_timeout` -/

namespace OnTimeout

def stance (id : ExecutionId) : Pc → Stance
  | .enter => {}
  | .effects _ => { holds := some (some id) }
  | .tearing pc => Teardown.stance id [] [] pc

lemma concluded_meets (h : At L L.view.self none p₀ [] (some (some id)) s) (hr : r = .ok ()) :
    (concluded id s r).Obeys L none p₀ (stance id) := by
  subst hr
  have h' := h.conclude id (by rintro _ ⟨⟩; rfl)
  simp only [concluded]
  split
  · next hc =>
    rw [if_pos hc] at h'
    exact (Teardown.start_meets h' (Service.conclude_settled hc)).bind (fun s' pc hs' => hs')
      fun s' r hr => hr.at_nil
  · next hc =>
    rw [if_neg hc] at h'
    exact .ret ⟨h', .ok _⟩

lemma enter_meets (h : Clear L none p₀ s) :
    (enter s L.view id).Obeys L none p₀ (stance id) := by
  simp only [enter]
  split
  · exact .ret ⟨h, .ok _⟩
  · next hs =>
    have h' := h.mark id true "execution_timeout" "execution deadline elapsed"
      (Bool.not_eq_true _ ▸ hs)
      fun _ => ⟨by decide, by decide⟩
    exact (CancelSideEffects.start_meets h'.holding).bind (fun s' pc hs' => hs')
      fun s' r hr => concluded_meets hr.1.toAt hr.2

lemma step_meets {pc : Pc} {e : Effect Pc Unit}
    (h : Resumes L L.view.self base p₀ (stance id pc) inp s)
    (hstep : step s L.view id pc inp = some e) :
    e.Obeys L base p₀ (stance id) := by
  cases pc with
  | enter =>
    obtain ⟨hlock, rfl⟩ := withLock_some hstep
    obtain rfl := h.free (.inl hlock)
    exact enter_meets h.toAt
  | effects pc =>
    obtain rfl := h.free (.inr rfl)
    exact .within hstep (CancelSideEffects.step_meets h.toStands)
      fun s' r hr => concluded_meets hr.1.toAt hr.2
  | tearing pc =>
    exact .within hstep (Teardown.step_meets h) fun s' r hr => hr.at_nil

end OnTimeout

/-! ### `_terminate_uncertain` -/

namespace TerminateUncertain

def stance (L : Licence) (id : ExecutionId) : Pc → Stance
  | .enter message => { data := L.strict → TextOk message }
  | .effects _ _ => { holds := some (some id) }
  | .tearing _ pc => Teardown.stance id [] [] pc

/-- What the step needs where it looks for the backend. -/
structure Allows (L : Licence) (s : Service) (id : ExecutionId) : Prop where
  model : L.strict → Protocol.plainText (s.get id).modelId = true
  expected : ∀ i ∈ s.env.currentIdentity (s.get id).modelId, L.named i
  backend : s.cfg.managedTermination = true → (s.get id).dispatchStarted = true →
    (s.get id).identity = none → s.cfg.backends.contains (s.get id).modelId = false →
    L.undecided id (s.get id).publishing

lemma torn_meets {needQuiesce : Bool} (h : Clear L base p₀ s ∧ Raises L r) :
    (torn L.view id needQuiesce s r).Obeys L base p₀ (stance L id) := by
  cases r with
  | ok _ => exact quiesceIf_meets h.1
  | error e => exact .raise ⟨h.1, .error (h.2 e rfl)⟩

lemma concluded_meets {needQuiesce : Bool} (h : At L L.view.self none p₀ [] (some (some id)) s)
    (hr : r = .ok ()) : (concluded L.view id needQuiesce s r).Obeys L none p₀ (stance L id) := by
  subst hr
  have h' := h.conclude id (by rintro _ ⟨⟩; rfl)
  simp only [concluded]
  split
  · next hc =>
    rw [if_pos hc] at h'
    exact (Teardown.start_meets h' (Service.conclude_settled hc)).bind (fun s' pc hs' => hs')
      fun s' r hr => torn_meets hr.at_nil
  · next hc =>
    rw [if_neg hc] at h'
    exact quiesceIf_meets h'

lemma awaitStop_ok {s' : Service} {needQuiesce : Bool} (h : At L L.view.self base p₀ d x s)
    (hexp : ∀ i ∈ s.env.currentIdentity (s.get id).modelId, L.named i)
    (hok : awaitStop id s = .ok (s', needQuiesce)) : At L L.view.self base p₀ d x s' := by
  have h' : At L L.view.self base p₀ d x
      (s.update id fun r => { r with awaitingQuiescence := true }) :=
    h.edit .awaiting
  simp only [awaitStop] at hok
  split at hok
  · split at hok
    · cases hok; exact h'
    · split at hok
      · cases hok
        exact h'.edit (.expected _ (by simpa using hexp))
      · cases hok
  · cases hok; exact h

lemma awaitStop_error {e : Exc} (herr : awaitStop id s = .error e) :
    e = .keyError (s.get id).modelId ∧ s.cfg.managedTermination = true ∧
      (s.get id).dispatchStarted = true ∧ (s.get id).identity = none ∧
      s.cfg.backends.contains (s.get id).modelId = false := by
  simp only [awaitStop] at herr
  split at herr
  · next hm =>
    split at herr
    · cases herr
    · next hi =>
      split at herr
      · cases herr
      · next hb =>
        cases herr
        exact ⟨rfl, hm.1, hm.2, by simpa using hi, by simpa using hb⟩
  · cases herr

end TerminateUncertain

/-- Marking leaves alone what names the model and the instance. -/
lemma get_mark (s : Service) (id : ExecutionId) (l : Option (TaskId × Option ExecutionId))
    (cancel : Bool) (code message : String) :
    (({ s with lock := l }.mark id cancel code message).get id).modelId = (s.get id).modelId ∧
      (({ s with lock := l }.mark id cancel code message).get id).identity = (s.get id).identity ∧
      (({ s with lock := l }.mark id cancel code message).get id).dispatchStarted =
        (s.get id).dispatchStarted ∧
      (({ s with lock := l }.mark id cancel code message).get id).publishing =
        (s.get id).publishing := by
  simp only [Service.mark]
  rcases Service.get_update_cases { s with lock := l } id id fun r =>
    ({ r with cancelPending := r.cancelPending || cancel }.markReason code message).markCancelling
    with h | ⟨-, h⟩
  · rw [h]; exact ⟨rfl, rfl, rfl, rfl⟩
  · rw [h]
    simp only [Record.markCancelling, Record.markReason]
    split <;> split <;> exact ⟨rfl, rfl, rfl, rfl⟩

namespace TerminateUncertain

lemma enter_meets {message : String} (h : Clear L none p₀ s)
    (hdata : L.strict → TextOk message) (hL : Allows L s id) :
    (enter s L.view id message).Obeys L none p₀ (stance L id) := by
  simp only [enter]
  split
  · exact .ret ⟨h, .ok _⟩
  · next hs =>
    have h' := h.mark id false "backend_failed" message
      (Bool.not_eq_true _ ▸ hs) fun hL => ⟨by decide, hdata hL⟩
    obtain ⟨hmodel, hident, hstarted, hpublishing⟩ :=
      get_mark s id (some (L.view.self, some id)) false "backend_failed" message
    split
    · next e he =>
      obtain ⟨rfl, hm, hd, hi, hb⟩ := awaitStop_error he
      rw [hmodel] at hb ⊢
      rw [hident] at hi
      rw [hstarted] at hd
      simp only [Service.mark, Service.update_cfg] at hm hb
      refine .raise ⟨At.free (h'.edit .awaiting) ?_, .error ?_⟩
      · rintro _ ⟨⟩
        refine .inr ?_
        rcases Service.get_update_cases
          ({ s with lock := some (L.view.self, some id) }.mark id false "backend_failed" message)
          id id fun r => { r with awaitingQuiescence := true }
          with hget | ⟨-, hget⟩ <;> rw [hget, hpublishing] <;> exact hL.backend hm hd hi hb
      · exact fun hstrict => plainText_keyError (hL.model hstrict)
    · next s' needQuiesce he =>
      have hexp : ∀ i ∈ ({ s with lock := some (L.view.self, some id) }.mark id false
            "backend_failed" message).env.currentIdentity
          (({ s with lock := some (L.view.self, some id) }.mark id false
            "backend_failed" message).get id).modelId, L.named i := by
        rw [hmodel]
        simpa only [Service.mark, Service.update_env] using hL.expected
      exact (CancelSideEffects.start_meets (awaitStop_ok h' hexp he).holding).bind
        (fun s' pc hs' => hs') fun s' r hr => concluded_meets hr.1.toAt hr.2

lemma step_meets {pc : Pc} {e : Effect Pc Unit}
    (h : Resumes L L.view.self base p₀ (stance L id pc) inp s)
    (hL : ∀ message, pc = .enter message → Allows L s id)
    (hstep : step s L.view id pc inp = some e) :
    e.Obeys L base p₀ (stance L id) := by
  cases pc with
  | enter message =>
    obtain ⟨hlock, rfl⟩ := withLock_some hstep
    obtain rfl := h.free (.inl hlock)
    exact enter_meets h.toAt h.data (hL message rfl)
  | effects needQuiesce pc =>
    obtain rfl := h.free (.inr rfl)
    exact .within hstep (CancelSideEffects.step_meets h.toStands)
      fun s' r hr => concluded_meets hr.1.toAt hr.2
  | tearing needQuiesce pc =>
    exact .within hstep (Teardown.step_meets h) fun s' r hr => torn_meets hr.at_nil

end TerminateUncertain

/-! ### `_after_execute` -/

namespace AfterExecute

def stance (L : Licence) (id : ExecutionId) : Pc → Stance
  | .localEnd code message =>
    { files := [id], data := L.strict → ErrorOk (errorDetail code message) }
  | .tearing pc => Teardown.stance id [] [] pc
  | .settle handle _ => { data := L.named handle.identity }
  | .dropping handle _ => { holds := some none, data := L.named handle.identity }
  | .advancing _ _ pc => Advance.stance L id pc
  | .cancelling => {}
  | .uncertain pc => TerminateUncertain.stance L id pc

lemma plainText_failureText {e : Exc} (hname : Protocol.plainText e.typeName = true)
    (htext : Protocol.plainText e.text = true) : Protocol.plainText (failureText e) = true := by
  simp only [failureText]
  split
  · exact hname
  · simp only [plainText_append, hname, htext, Bool.and_true, Bool.true_and]
    decide

lemma start_meets {body : Option Body} {r : Except Exc ExecutionHandle}
    (h : Clear L base p₀ s) (hinp : (Input.executed r body).Fits L)
    (hfile : s.Keeps [id]) (hmodel : L.strict → Protocol.plainText (s.get id).modelId = true) :
    (start s id body r).Obeys L base p₀ (stance L id) := by
  have huncertain : ∀ e, (L.strict → Protocol.plainText e.typeName = true ∧
      Protocol.plainText e.text = true) → L.strict → TextOk
        ("the backend raised without a trusted terminal (" ++ failureText e ++ ")") := by
    intro e he hstrict
    refine TextOk.append_right (.append_right (by decide) ?_) (by decide)
    exact plainText_failureText (he hstrict).1 (he hstrict).2
  cases r with
  | ok handle =>
    simp only [start]
    split
    · exact .goto (h.stands' ⟨rfl, rfl, rfl⟩ hinp)
    · exact .raise ⟨h, .error fun hstrict => plainText_keyError (hmodel hstrict)⟩
  | error e =>
    cases e with
    | notDispatched code message => exact .goto (h.stands rfl nofun hfile hinp)
    | cancelledError => exact .goto (h.stands' ⟨rfl, rfl, rfl⟩ fun _ => by decide)
    | _ => exact .goto (h.stands' ⟨rfl, rfl, rfl⟩ (huncertain _ hinp))

lemma localEnd_meets {code message : String} (h : Clear L none p₀ s)
    (hfile : s.Keeps [id]) (hdata : L.strict → ErrorOk (errorDetail code message)) :
    (localEnd s id code message).Obeys L none p₀ (stance L id) := by
  simp only [localEnd]
  split
  · exact .ret ⟨h, .ok _⟩
  · next hs =>
    split
    · exact .raise ⟨h, .error fun _ => by decide⟩
    · next hc =>
      have h' : At L L.view.self none p₀ [.lease id, .input id] none
          (s.terminateLocal id ⟨code, hc⟩ message) :=
        h.terminateLocal (Bool.not_eq_true _ ▸ hs) hdata
      exact (Teardown.start_meets h' (Service.terminateLocal_settled hfile)).bind
        (fun s' pc hs' => hs') fun s' r hr => hr.at_nil

lemma finish_meets {needQuiesce cancelPending : Bool} (h : Clear L base p₀ s ∧ Raises L r) :
    (finish L.view id needQuiesce cancelPending s r).Obeys L base p₀ (stance L id) := by
  cases r with
  | error e => exact .raise ⟨h.1, .error (h.2 e rfl)⟩
  | ok _ =>
    have hnext : Clear L base p₀
        (if needQuiesce then s.ensureQuiescer L.view (s.get id).modelId else (s, [])).1 := by
      split
      · exact h.1.ensureQuiescer _
      · exact h.1
    cases cancelPending with
    | true => exact hnext.stands' ⟨rfl, rfl, rfl⟩ trivial
    | false => exact ⟨hnext, .ok _⟩

lemma quiescence_ok {s' : Service} {needQuiesce : Bool} (h : At L L.view.self base p₀ d x s)
    (hok : quiescence id s handle = .ok (s', needQuiesce)) : At L L.view.self base p₀ d x s' := by
  simp only [quiescence] at hok
  split at hok
  · split at hok
    · split at hok
      · next hnone =>
        split at hok
        · cases hok
        · next evidence hevidence =>
          cases hok
          refine h.edit (.evidence _ (Option.isNone_iff_eq_none.mp hnone) fun hind => ?_)
          rw [Record.dispatchedEvidence_independent hevidence] at hind
          exact absurd hind (by decide)
      · cases hok; exact h
    · cases hok
      exact h.edit .awaiting
  · cases hok; exact h

lemma quiescence_error {e : Exc}
    (herr : quiescence id s handle = .error e) : Protocol.plainText e.text = true := by
  simp only [quiescence, Record.dispatchedEvidence] at herr
  split at herr
  · split at herr
    · split at herr
      · split at herr
        · next e' he' =>
          split at he'
          · cases he'
          · cases he'; cases herr; decide
        · cases herr
      · cases herr
    · cases herr
  · cases herr

lemma resolve_meets (h : At L L.view.self none p₀ [] (some none) s) :
    (resolve L.view id s handle).Obeys L none p₀ (stance L id) := by
  simp only [resolve]
  split
  · next e he =>
    refine .raise ⟨h.free ?_, .error fun _ => quiescence_error he⟩
    rintro _ ⟨⟩
  · next s' needQuiesce he =>
    have h' := (quiescence_ok h he).conclude id (by rintro _ ⟨⟩)
    exact (Advance.start_meets h' Service.conclude_settled).bind (fun s' pc hs' => hs')
      fun s' r hr => finish_meets hr

lemma dropped_meets (h : At L L.view.self none p₀ [] (some none) s) (hr : r = .ok ()) :
    (dropped L.view id handle s r).Obeys L none p₀ (stance L id) := by
  subst hr
  exact resolve_meets h

lemma deliver_meets {body : Option Body} (h : At L L.view.self none p₀ [] (some none) s)
    (hnamed : L.named handle.identity) :
    (deliver L.view id handle s body).Obeys L none p₀ (stance L id) := by
  cases body with
  | none => exact resolve_meets h
  | some body =>
    simp only [deliver]
    split
    · have h' : Stands L L.view.self none p₀ (stance L id (.dropping handle .output))
          (s.update id fun r => { r with outputPending := none }) :=
        At.stands' (h.quiet _ fun r => rfl) ⟨rfl, rfl, rfl⟩ hnamed
      exact (CancelSideEffects.cancelReservation_meets h').bind
        (fun s' pc hs' => hs') fun s' r hr => dropped_meets hr.1.toAt hr.2
    · split
      · exact resolve_meets h
      · exact resolve_meets (h.quiet _ fun r => rfl)

lemma settle_meets {body : Option Body} (h : Clear L none p₀ s) (hnamed : L.named handle.identity) :
    (settle s L.view id handle body).Obeys L none p₀ (stance L id) := by
  simp only [settle]
  split
  · exact .ret ⟨h, .ok _⟩
  · exact deliver_meets ((h.take none).edit (.names _ (.inl hnamed))) hnamed

lemma step_meets {pc : Pc} {e : Effect Pc Unit}
    (h : Resumes L L.view.self base p₀ (stance L id pc) inp s)
    (hL : ∀ message, pc = .uncertain (.enter message) → TerminateUncertain.Allows L s id)
    (hstep : step s L.view id pc inp = some e) :
    e.Obeys L base p₀ (stance L id) := by
  cases pc with
  | localEnd code message =>
    obtain ⟨hlock, rfl⟩ := withLock_some hstep
    obtain rfl := h.free (.inl hlock)
    exact localEnd_meets h.toAt h.files h.data
  | tearing pc =>
    exact .within hstep (Teardown.step_meets h) fun s' r hr => hr.at_nil
  | settle handle body =>
    obtain ⟨hlock, rfl⟩ := withLock_some hstep
    obtain rfl := h.free (.inl hlock)
    exact settle_meets h.toAt h.data
  | dropping handle pc =>
    obtain rfl := h.free (.inr rfl)
    exact .within hstep (CancelSideEffects.step_meets h.toStands)
      fun s' r hr => dropped_meets hr.1.toAt hr.2
  | advancing needQuiesce cancelPending pc =>
    exact .within hstep (Advance.step_meets h) fun s' r hr => finish_meets hr
  | cancelling =>
    cases inp <;> cases hstep
    exact .ret ⟨h.toAt, .ok _⟩
  | uncertain pc =>
    refine .within hstep (TerminateUncertain.step_meets h ?_) fun s' r hr => hr
    rintro message rfl
    exact hL message rfl

end AfterExecute

/-! ### `_run` -/

namespace Run

def stance (L : Licence) (id : ExecutionId) : Pc → Stance
  | .refuse code message => { data := L.strict → ErrorOk (errorDetail code.1 message) }
  | .inputFailed code =>
    { data := L.strict → ErrorOk (errorDetail code.1 "the blob input is not readable") }
  | .acquiring _ => { owes := [.input id] }
  | .admitFailed code message =>
    { owes := [.input id], data := L.strict → ErrorOk (errorDetail code.1 message) }
  | .retry => { owes := [.input id] }
  | .handOver _ lease => { owes := [.input id], data := L.strict → 1 ≤ lease.generation }
  | .discardCancel | .discardAbandon => { tears := [id] }
  | .tearing pc => Teardown.stance id [] [] pc
  | .after pc => AfterExecute.stance L id pc
  | .timingOut pc => OnTimeout.stance id pc
  | .uncertain pc => TerminateUncertain.stance L id pc
  | _ => {}

/-- What a step of `_run` needs of the state it starts in. -/
structure Allows (L : Licence) (s : Service) (id : ExecutionId) (inp : Input) (pc : Pc) : Prop where
  files : s.Keeps [id]
  fences : L.fences id
  model : L.strict → Protocol.plainText (s.get id).modelId = true
  bootId : L.strict → TextOk s.cfg.bootId
  uncertain : ∀ message,
    pc = .uncertain (.enter message) ∨ pc = .after (.uncertain (.enter message)) →
      TerminateUncertain.Allows L s id
  session : pc = .guard → L.strict →
    ∃ session, s.env.sessions.records.get? (s.get id).sessionId = some session
  generation : pc = .guard → L.strict →
    ∀ runtime, s.env.book.runtime.get? (s.get id).modelId = some runtime → 1 ≤ runtime.generation
  opened : pc = .openInput → ∀ path, inp = .opened (.ok path) → L.opens id s.uuids
  store : ∀ ctx path, pc = .storeInput ctx path → L.stores id ctx
  acquired : ∀ path lease, pc = .acquiring path → inp = .acquired (.ok lease) →
    L.grants id lease ∧ s.isGranted lease = false
  retry : pc = .retry → L.retries id ∧ (¬ s.Unpaid (.input id) ∨ L.forgets (.input id))
  handOver : ∀ path lease, pc = .handOver path lease →
    L.hands id lease ∧ (s.get id).dispatchClaimed = true
  dispatch : ∀ path fence reservation, pc = .dispatch path fence reservation →
    L.dispatches id ∧ ((s.get id).settled = false →
      (s.get id).dispatchClaimed = true ∧ (s.get id).fence = fence)

lemma failed_meets {e : Exc} (h : Clear L base p₀ s)
    (he : L.strict → Protocol.plainText e.text = true) :
    (failed s e).Obeys L base p₀ (stance L id) := by
  simp only [failed]
  split
  · exact .raise ⟨h, .error he⟩
  · exact .goto (h.stands' ⟨rfl, rfl, rfl⟩ fun hstrict => .append_right (by decide) (he hstrict))

lemma guarded_meets (h : Clear L base p₀ s ∧ Raises L r) :
    (guarded s r).Obeys L base p₀ (stance L id) := by
  cases r with
  | ok _ => exact .ret ⟨h.1, .ok _⟩
  | error e => exact failed_meets h.1 (h.2 e rfl)

lemma teardown_meets (h : At L L.view.self base p₀ [.lease id, .input id] none s)
    (hs : s.Ended [id]) :
    (teardown s id).Obeys L base p₀ (stance L id) :=
  (Teardown.start_meets h hs).bind (fun _ _ hs' => hs') fun _ _ hr => guarded_meets hr.at_nil

lemma settleLocal_meets {code : { code : String // code ≠ "" }} {message : String}
    (h : At L L.view.self base p₀ d none s) (hd : d ⊆ [.lease id, .input id])
    (hfile : s.Keeps [id]) (hdata : L.strict → ErrorOk (errorDetail code.1 message)) :
    (settleLocal s id code message).Obeys L base p₀ (stance L id) := by
  refine teardown_meets ?_ ?_
  · split
    · exact h.owe hd
    · next hs =>
      refine (h.terminateLocal (Bool.not_eq_true _ ▸ hs) hdata).owe ?_
      simpa using hd
  · split
    · next hs => exact .single hs
    · exact Service.terminateLocal_settled hfile

/-- The fence follows a generation. -/
lemma fence_at (generation : ℕ) (h : At L L.view.self base p₀ d x s) (hfence : L.fences id)
    (hok : L.strict → TextOk s.cfg.bootId ∧ 1 ≤ generation) :
    At L L.view.self base p₀ d x (s.update id fun r =>
      { r with fence := if generation ≠ r.fence.generation then
          r.refence s.cfg.bootId generation else r.fence }) := by
  refine h.edit ?_
  by_cases hg : generation ≠ (s.get id).fence.generation
  · simp only [if_pos hg]
    exact .fence _ _ hfence hok
  · simp only [if_neg hg]
    exact .quiet rfl

/-- The guard ends with the fence of the live generation. -/
lemma guard_fence {runtime : Runtime} (h : Clear L base p₀ s)
    (hL : Allows L s id inp .guard)
    (hrt : s.env.book.runtime.get? (s.get id).modelId = some runtime) :
    Clear L base p₀ (s.update id fun r =>
      { r with fence := if runtime.generation ≠ r.fence.generation then
          r.refence s.cfg.bootId runtime.generation else r.fence }) :=
  fence_at _ h hL.fences fun hstrict =>
    ⟨hL.bootId hstrict, hL.generation rfl hstrict runtime hrt⟩

lemma guard_meets (h : Clear L base p₀ s) (hL : Allows L s id inp .guard) :
    (guard s id).Obeys L base p₀ (stance L id) := by
  have hkey : (failed s (.keyError (s.get id).modelId)).Obeys L base p₀ (stance L id) :=
    failed_meets h fun hstrict => plainText_keyError (hL.model hstrict)
  simp only [guard]
  split
  · exact .ret ⟨h, .ok _⟩
  · split
    · next hnone =>
      refine .goto (h.stands' ⟨rfl, rfl, rfl⟩ fun hstrict => ?_)
      obtain ⟨session, hsession⟩ := hL.session rfl hstrict
      rw [hnone] at hsession
      cases hsession
    · split
      · exact .goto (h.stands' ⟨rfl, rfl, rfl⟩ fun _ => ⟨by decide, by decide, rfl⟩)
      · split
        · exact hkey
        · split
          · exact .goto (h.stands' ⟨rfl, rfl, rfl⟩ fun _ => ⟨by decide, by decide, rfl⟩)
          · split
            · split
              · exact .goto (h.stands' ⟨rfl, rfl, rfl⟩ fun _ => ⟨by decide, by decide, rfl⟩)
              · split
                · exact hkey
                · next hrt =>
                  refine .goto (At.stands' ?_ ⟨rfl, rfl, rfl⟩ trivial)
                  exact (guard_fence h hL hrt).owe (List.nil_subset _)
            · exact hkey
            · next hrt => exact .goto ((guard_fence h hL hrt).stands' ⟨rfl, rfl, rfl⟩ trivial)

lemma refuse_meets {code : { code : String // code ≠ "" }} {message : String}
    (h : Clear L base p₀ s) (hfile : s.Keeps [id])
    (hdata : L.strict → ErrorOk (errorDetail code.1 message)) :
    (refuse s id code message).Obeys L base p₀ (stance L id) := by
  simp only [refuse]
  split
  · exact .ret ⟨h, .ok _⟩
  · exact settleLocal_meets h (List.nil_subset _) hfile hdata

lemma known_inputCode (code : String) : knownError (inputCode code).1 = true := by
  simp only [inputCode]
  split
  · decide
  · simp only [blobCode]
    split <;> decide

lemma opened_meets {r : Except Exc String} (h : Clear L base p₀ s)
    (hL : Allows L s id (.opened r) .openInput) (hinp : (Input.opened r).Fits L) :
    (opened s id r).Obeys L base p₀ (stance L id) := by
  cases r with
  | ok path =>
    have h' : Clear L base p₀
        ({ s with uuids := s.uuids + 1 }.note (.opened id s.uuids)) :=
      h.move (.enter id s.uuids (s.uuids + 1) (hL.opened rfl path rfl) le_rfl
        (Nat.lt_succ_self _)) rfl
    exact .goto (h'.stands' ⟨rfl, rfl, rfl⟩ trivial)
  | error e =>
    cases e with
    | blobStoreError code message =>
      exact .goto (h.stands' ⟨rfl, rfl, rfl⟩ fun _ =>
        ⟨known_inputCode code, (by decide : TextOk "the blob input is not readable"), rfl⟩)
    | _ => exact failed_meets h hinp

lemma known_admitCode (detail : String) : knownError (admitCode detail).1 = true := by
  simp only [admitCode]
  split
  · next hd => exact hd.1
  · split <;> decide

lemma known_conflictCode {code : String} (h : knownError code = true) :
    knownError (conflictCode code).1 = true := by
  have hne : code ≠ "" := by
    rintro rfl
    exact absurd h (by decide)
  simp only [conflictCode, dif_pos (show knownError code = true ∧ code ≠ "" from ⟨h, hne⟩)]
  exact h

lemma acquired_meets {path : Option String} {r : Except Exc Lease}
    (h : At L L.view.self base p₀ [.input id] none s)
    (hL : Allows L s id (.acquired r) (.acquiring path)) (hinp : (Input.acquired r).Fits L) :
    (acquired s id path r).Obeys L base p₀ (stance L id) := by
  -- every other refusal of the scheduler is mapped to a code of the error table
  have hother : ∀ e : Exc, e ≠ .cancelledError →
      Effect.Meets (if e = .cancelledError then (.raise s e : Effect Pc Unit)
        else if e.detail = "session_slots_exhausted" then .goto s .retry
        else .goto s (.admitFailed (admitCode e.detail) "admission refused the execution"))
        (fun s' pc => Stands L L.view.self base p₀ (stance L id pc) s')
        (fun s' r => Clear L base p₀ s' ∧ Raises L r) := by
    intro e he
    rw [if_neg he]
    split
    · exact .goto (h.stands' ⟨rfl, rfl, rfl⟩ trivial)
    · exact .goto (h.stands' ⟨rfl, rfl, rfl⟩ fun _ =>
        ⟨known_admitCode _, (by decide : TextOk "admission refused the execution"), rfl⟩)
  cases r with
  | ok lease =>
    have h' : At L L.view.self base p₀ [.input id] none (s.note (.granted id lease)) :=
      h.move (.grant id lease (hL.acquired path lease rfl rfl).1
        (hL.acquired path lease rfl rfl).2) rfl
    exact .goto (h'.stands' ⟨rfl, rfl, rfl⟩ hinp)
  | error e =>
    cases e with
    | timeoutError message =>
      exact .goto (h.stands' ⟨rfl, rfl, rfl⟩ fun _ => ⟨by decide, by decide, rfl⟩)
    | sessionConflict code =>
      exact .goto (h.stands' ⟨rfl, rfl, rfl⟩ fun hstrict =>
        ⟨known_conflictCode (hinp hstrict), (by decide : TextOk "the session is no longer active"),
          rfl⟩)
    | cancelledError => exact hinp.elim
    | staleOperation operation => exact hother (.staleOperation operation) nofun
    | _ => exact hother _ nofun

lemma handOver_meets {path : Option String} {lease : Lease}
    (h : At L L.view.self base p₀ [.input id] none s)
    (hL : Allows L s id inp (.handOver path lease)) (hdata : L.strict → 1 ≤ lease.generation) :
    (handOver s id path lease).Obeys L base p₀ (stance L id) := by
  simp only [handOver]
  split
  · next hs => exact teardown_meets (h.owe (by simp)) (.single hs)
  · next hs =>
    rw [Bool.not_eq_true] at hs
    obtain ⟨hgrant, hclaimed⟩ := hL.handOver path lease rfl
    have hpaid : Clear L base p₀ s :=
      At.payUnsettled (h.owe (by simp)) hs
    have hlease : Clear L base p₀
        (s.update id fun r => { r with lease := some lease }) :=
      hpaid.edit (.handOver lease hgrant hs hclaimed)
    have hfence := fence_at lease.generation hlease hL.fences (by
      rw [Service.update_cfg]
      exact fun hstrict => ⟨hL.bootId hstrict, hdata hstrict⟩)
    rw [Service.update_update, Service.update_cfg] at hfence
    exact .goto (hfence.stands' ⟨rfl, rfl, rfl⟩ trivial)

lemma execute_meets {path : Option String} (h : Clear L base p₀ s)
    (hcall : L.dispatches id)
    (hmodel : L.strict → Protocol.plainText (s.get id).modelId = true) :
    (execute s id path).Obeys L base p₀ (stance L id) := by
  simp only [execute]
  split
  · have h' := h.note (e := .execute id (s.get id).fence path) hcall
    exact .goto (h'.stands' ⟨rfl, rfl, rfl⟩ trivial)
  · exact failed_meets h fun hstrict => plainText_keyError (hmodel hstrict)

lemma dispatch_meets {path : Option String} {fence : Fence} {reservation : OutputReservation}
    (h : Clear L base p₀ s)
    (hmodel : L.strict → Protocol.plainText (s.get id).modelId = true) (hcall : L.dispatches id)
    (hclaimed : (s.get id).settled = false →
      (s.get id).dispatchClaimed = true ∧ (s.get id).fence = fence) :
    (dispatch s id path fence reservation).Obeys L base p₀ (stance L id) := by
  simp only [dispatch]
  split
  · next hor =>
    refine .goto (h.stands rfl (.single ?_) nofun trivial)
    -- nobody else renews the fence, so the dispatch is discarded because of the settlement
    by_contra hs
    rw [Bool.not_eq_true] at hs
    rcases hor with hs' | hf
    · rw [hs] at hs'
      cases hs'
    · exact hf (hclaimed hs).2
  · next hne =>
    rw [not_or, Bool.not_eq_true] at hne
    refine execute_meets (h.edit (.running reservation hne.1 (hclaimed hne.1).1)) hcall ?_
    rcases s.get_update_cases id id fun r =>
      { r with reservation := some reservation, dispatchStarted := true,
               state := if r.terminal then r.state else .running } with hget | ⟨-, hget⟩
    · rw [hget]; exact hmodel
    · rw [hget]; exact hmodel

lemma timedOut_meets (h : Clear L base p₀ s ∧ Raises L r) :
    Effect.Meets (match r with
      | .ok () => { next := s, spawn := [.lateExecute id], ctl := .ret () }
      | .error e => failed s e)
      (fun s' pc => Stands L L.view.self base p₀ (stance L id pc) s')
      (fun s' r => Clear L base p₀ s' ∧ Raises L r) := by
  cases r with
  | ok _ => exact ⟨h.1, .ok _⟩
  | error e => exact failed_meets h.1 (h.2 e rfl)

lemma step_meets {pc : Pc} {e : Effect Pc Unit}
    (h : Resumes L L.view.self base p₀ (stance L id pc) inp s)
    (hL : Allows L s id inp pc) (hstep : step s L.view id pc inp = some e) :
    e.Obeys L base p₀ (stance L id) := by
  cases pc with
  | guard =>
    obtain ⟨-, rfl⟩ := withLock_some hstep
    exact guard_meets h.toAt hL
  | refuse code message =>
    obtain ⟨-, rfl⟩ := withLock_some hstep
    exact refuse_meets h.toAt hL.files h.data
  | openInput =>
    cases inp <;> cases hstep
    exact opened_meets h.toAt hL h.fits
  | inputFailed code =>
    obtain ⟨-, rfl⟩ := withLock_some hstep
    exact settleLocal_meets h.toAt (List.nil_subset _) hL.files h.data
  | storeInput ctx path =>
    obtain ⟨-, rfl⟩ := withLock_some hstep
    have h' : At L L.view.self base p₀ [.input id] none
        (s.update id fun r => { r with inputCtx := some ctx }) :=
      h.toAt.move (.store id ctx (hL.store ctx path rfl)) (Service.update_lock ..)
    exact .goto (h'.stands' ⟨rfl, rfl, rfl⟩ trivial)
  | acquiring path =>
    cases inp <;> cases hstep
    exact acquired_meets h.toAt hL h.fits
  | admitFailed code message =>
    obtain ⟨-, rfl⟩ := withLock_some hstep
    exact settleLocal_meets h.toAt (by simp [stance]) hL.files h.data
  | retry =>
    obtain ⟨-, rfl⟩ := withLock_some hstep
    obtain ⟨hretry, hpaid⟩ := hL.retry rfl
    have h' : Clear L base p₀
        (s.update id fun r => { r with dispatchClaimed := false }) :=
      (h.toAt.pay hpaid).edit (.retry hretry)
    exact .ret ⟨h', .ok _⟩
  | handOver path lease =>
    obtain ⟨-, rfl⟩ := withLock_some hstep
    exact handOver_meets h.toAt hL h.data
  | reserving path fence =>
    cases inp <;> try cases hstep
    next r =>
    cases r with
    | ok reservation => cases hstep; exact .goto (h.toAt.stands' ⟨rfl, rfl, rfl⟩ trivial)
    | error e => cases hstep; exact failed_meets h.toAt h.fits
  | dispatch path fence reservation =>
    obtain ⟨-, rfl⟩ := withLock_some hstep
    obtain ⟨hcall, hclaimed⟩ := hL.dispatch path fence reservation rfl
    exact dispatch_meets h.toAt hL.model hcall hclaimed
  | discardCancel =>
    cases inp <;> try cases hstep
    next r =>
    cases r with
    | ok _ => cases hstep; exact .goto (h.toAt.stands rfl h.tears nofun trivial)
    | error e => cases hstep; exact teardown_meets (h.toAt.owe (List.nil_subset _)) h.tears
  | discardAbandon =>
    cases inp <;> cases hstep
    exact teardown_meets (h.toAt.owe (List.nil_subset _)) h.tears
  | tearing pc =>
    exact .within hstep (Teardown.step_meets h) fun s' r hr => guarded_meets hr.at_nil
  | executing =>
    cases inp <;> try cases hstep
    · simp only [step] at hstep
      split at hstep
      · cases hstep
      · cases hstep; exact .goto (h.toAt.stands' ⟨rfl, rfl, rfl⟩ trivial)
    · exact (AfterExecute.start_meets h.toAt h.fits hL.files hL.model).bind (fun s' pc hs' => hs')
        fun s' r hr => guarded_meets hr
  | after pc =>
    refine .within hstep (AfterExecute.step_meets h ?_)
      fun s' r hr => guarded_meets hr
    rintro message rfl
    exact hL.uncertain message (.inr rfl)
  | timingOut pc =>
    exact .within hstep (OnTimeout.step_meets h) fun s' r hr => timedOut_meets hr
  | uncertain pc =>
    refine .within hstep (TerminateUncertain.step_meets h ?_) fun s' r hr => hr
    rintro message rfl
    exact hL.uncertain message (.inl rfl)

end Run

/-! ### The late end of a backend call -/

namespace LateExecute

def stance (L : Licence) (id : ExecutionId) : Pc → Stance
  | .waiting => {}
  | .after pc => AfterExecute.stance L id pc

lemma step_meets {pc : Pc} {e : Effect Pc Unit}
    (h : Resumes L L.view.self base p₀ (stance L id pc) inp s)
    (hfile : s.Keeps [id]) (hmodel : L.strict → Protocol.plainText (s.get id).modelId = true)
    (hL : ∀ message, pc = .after (.uncertain (.enter message)) → TerminateUncertain.Allows L s id)
    (hstep : step s L.view id pc inp = some e) :
    e.Obeys L base p₀ (stance L id) := by
  cases pc with
  | waiting =>
    cases inp <;> cases hstep
    exact (AfterExecute.start_meets h.toAt h.fits hfile hmodel).bind (fun s' pc hs' => hs')
      fun s' r hr => hr
  | after pc =>
    refine .within hstep (AfterExecute.step_meets h ?_) fun s' r hr => hr
    rintro message rfl
    exact hL message rfl

end LateExecute

end

end ModelSwitch.Execution

import ModelSwitch.Proofs.Execution.Spawn

/-!
# The way of `_run` to the backend

Where one step of `_run` leads, as long as the backend has not been called. What lies behind the
call is one stage here: no step leads back from it.
-/

namespace ModelSwitch.Execution

namespace Run

/-- The backend call is behind the coroutine, or will never come. -/
def Pc.far : Pc → Bool
  | .discardCancel | .discardAbandon | .tearing _ | .executing | .after _ | .timingOut _
  | .uncertain _ => true
  | _ => false

/-- The fence under which the execution is about to be dispatched. -/
def Pc.fence : Pc → Option Fence
  | .reserving _ fence | .dispatch _ fence _ => some fence
  | _ => none

/-- The lease of the execution has not been filed. -/
def Pc.early (pc : Pc) : Bool := !pc.far && pc.fence.isNone

/-- The input of the execution has not been filed. -/
def Pc.unread : Pc → Bool
  | .guard | .refuse _ _ | .openInput | .inputFailed _ | .storeInput _ _ => true
  | _ => false

/-- The execution has its input and waits for its turn. -/
def Pc.fed : Pc → Bool
  | .acquiring _ | .handOver _ _ | .reserving _ _ | .dispatch _ _ _ => true
  | _ => false

lemma Pc.not_fed_of_far {pc : Pc} (h : pc.far = true) : pc.unread = false ∧ pc.fed = false := by
  cases pc <;> first | exact ⟨rfl, rfl⟩ | cases h

lemma Pc.fence_of_far {pc : Pc} (h : pc.far = true) : pc.fence = none := by
  cases pc <;> first | rfl | cases h

/-- A step of `_run` that ends in a suspension. -/
inductive Next (s : Service) (id : ExecutionId) : Pc → Input → Service → Pc → Prop
  | refused {inp : Input} (code : { code : String // code ≠ "" }) (message : String) :
      Next s id .guard inp s (.refuse code message)
  | inline {inp : Input} (f : Record → Record) (document : String)
      (h : (s.get id).input = .inline document) :
      Next s id .guard inp (s.update id f) (.acquiring none)
  | blob {inp : Input} (f : Record → Record) : Next s id .guard inp (s.update id f) .openInput
  | opened (path : String) :
      Next s id .openInput (.opened (.ok path))
        ({ s with uuids := s.uuids + 1 }.note (.opened id s.uuids)) (.storeInput s.uuids path)
  | inputFailed {inp : Input} (code : { code : String // code ≠ "" }) :
      Next s id .openInput inp s (.inputFailed code)
  | stored {inp : Input} (ctx : InputContext) (path : String) :
      Next s id (.storeInput ctx path) inp
        (s.update id fun r => { r with inputCtx := some ctx }) (.acquiring (some path))
  | granted (path : Option String) (lease : Lease) :
      Next s id (.acquiring path) (.acquired (.ok lease)) (s.note (.granted id lease))
        (.handOver path lease)
  | admitFailed {inp : Input} (path : Option String) (code : { code : String // code ≠ "" })
      (message : String) : Next s id (.acquiring path) inp s (.admitFailed code message)
  | retry {inp : Input} (path : Option String) : Next s id (.acquiring path) inp s .retry
  | filed {inp : Input} (path : Option String) (lease : Lease) (f : Record → Record) {s' : Service}
      (h : s' = s.update id f) (hf : ∀ r, (f r).lease = some lease)
      (hs : (s.get id).settled = false) :
      Next s id (.handOver path lease) inp s' (.reserving path (s'.get id).fence)
  | reserved {inp : Input} (path : Option String) (fence : Fence)
      (reservation : OutputReservation) :
      Next s id (.reserving path fence) inp s (.dispatch path fence reservation)
  | far {pc pc' : Pc} {inp : Input} {s' : Service} (h : pc'.far = true) : Next s id pc inp s' pc'

variable {s : Service} {v : TaskView} {id : ExecutionId} {inp : Input}

/-- Nothing leads back from behind the hand-over of the lease. -/
lemma Next.early {pc pc' : Pc} {s' : Service} (h : Next s id pc inp s' pc')
    (hpc' : pc'.early = true) : pc.early = true ∧ ∀ path lease, pc ≠ .handOver path lease := by
  cases h with
  | filed | reserved => cases hpc'
  | far h =>
    rw [Pc.early, h] at hpc'
    cases hpc'
  | _ => exact ⟨rfl, nofun⟩

/-- Nothing leads back from behind the filing of the input. -/
lemma Next.unread {pc pc' : Pc} {s' : Service} (h : Next s id pc inp s' pc')
    (hpc' : pc'.unread = true) : pc.unread = true ∧ ∀ ctx path, pc ≠ .storeInput ctx path := by
  cases h with
  | refused | blob | opened | inputFailed => exact ⟨rfl, nofun⟩
  | far h =>
    rw [(Pc.not_fed_of_far h).1] at hpc'
    cases hpc'
  | _ => cases hpc'

/-- An execution gets its input from the guard or from the blob store. -/
lemma Next.fed {pc pc' : Pc} {s' : Service} (h : Next s id pc inp s' pc')
    (hpc' : pc'.fed = true) :
    pc.fed = true ∨ (∃ document, (s.get id).input = .inline document) ∨
      ∃ ctx path, pc = .storeInput ctx path ∧
        s' = s.update id fun r => { r with inputCtx := some ctx } := by
  cases h with
  | inline f document hinput => exact .inr (.inl ⟨document, hinput⟩)
  | stored ctx path => exact .inr (.inr ⟨ctx, path, rfl, rfl⟩)
  | granted | filed | reserved => exact .inl rfl
  | far h =>
    rw [(Pc.not_fed_of_far h).2] at hpc'
    cases hpc'
  | _ => cases hpc'

/-- Everything an effect leads to is behind the backend call. -/
def Far (e : Effect Pc Unit) : Prop := e.Meets (fun _ pc => pc.far = true) fun _ _ => True

lemma failed_far (s : Service) (e : Exc) : Far (failed s e) := by
  simp only [failed]
  split
  · exact .raise trivial
  · exact .goto rfl

lemma guarded_far (s : Service) (r : Except Exc Unit) : Far (guarded s r) := by
  cases r with
  | ok _ => exact .ret trivial
  | error e => exact failed_far s e

lemma bind_far {α : Type} {e : Effect α Unit} {wrap : α → Pc}
    {k : Service → Except Exc Unit → Effect Pc Unit} (hw : ∀ pc, (wrap pc).far = true)
    (hk : ∀ s r, Far (k s r)) : Far (e.bind wrap k) :=
  e.meets_true.bind (fun _ pc _ => hw pc) fun s r _ => hk s r

lemma teardown_far (s : Service) (id : ExecutionId) : Far (teardown s id) :=
  bind_far (fun _ => rfl) guarded_far

lemma Far.next {e : Effect Pc Unit} {pc : Pc} (h : Far e) :
    e.Meets (Next s id pc inp) fun _ _ => True :=
  h.mono (fun _ _ hfar => .far hfar) fun _ _ h => h

lemma guard_next : (guard s id).Meets (Next s id .guard inp) fun _ _ => True := by
  simp only [guard]
  split
  · exact .ret trivial
  · split
    · exact .goto (.refused _ _)
    · split
      · exact .goto (.refused _ _)
      · split
        · exact (failed_far _ _).next
        · split
          · exact .goto (.refused _ _)
          · split
            · next hinput =>
              split
              · exact .goto (.refused _ _)
              · split
                · exact (failed_far _ _).next
                · exact .goto (.inline _ _ hinput)
            · exact (failed_far _ _).next
            · exact .goto (.blob _)

lemma opened_next {r : Except Exc String} :
    (opened s id r).Meets (Next s id .openInput (.opened r)) fun _ _ => True := by
  cases r with
  | ok path => exact .goto (.opened path)
  | error e =>
    cases e with
    | blobStoreError code message => exact .goto (.inputFailed _)
    | _ => exact (failed_far _ _).next

lemma acquired_next {path : Option String} {r : Except Exc Lease} :
    (acquired s id path r).Meets (Next s id (.acquiring path) (.acquired r)) fun _ _ => True := by
  have hother : ∀ e : Exc, Effect.Meets (if e = .cancelledError then (.raise s e : Effect Pc Unit)
      else if e.detail = "session_slots_exhausted" then .goto s .retry
      else .goto s (.admitFailed (admitCode e.detail) "admission refused the execution"))
      (Next s id (.acquiring path) (.acquired r)) fun _ _ => True := by
    intro e
    split
    · exact .raise trivial
    · split
      · exact .goto (.retry path)
      · exact .goto (.admitFailed path _ _)
  cases r with
  | ok lease => exact .goto (.granted path lease)
  | error e =>
    cases e with
    | timeoutError message | sessionConflict code => exact .goto (.admitFailed path _ _)
    | cancelledError => exact hother .cancelledError
    | staleOperation operation => exact hother (.staleOperation operation)
    | _ => exact hother _

lemma handOver_next {path : Option String} {lease : Lease} :
    (handOver s id path lease).Meets (Next s id (.handOver path lease) inp) fun _ _ => True := by
  simp only [handOver]
  split
  · exact (teardown_far _ _).next
  · next hs =>
    exact .goto (.filed path lease _ rfl (fun _ => rfl) (Bool.not_eq_true _ ▸ hs))

lemma dispatch_far {path : Option String} {fence : Fence} {reservation : OutputReservation} :
    Far (dispatch s id path fence reservation) := by
  simp only [dispatch, execute]
  split
  · exact .goto rfl
  · split
    · exact .goto rfl
    · exact failed_far _ _

lemma step_meets_next {pc : Pc} {e : Effect Pc Unit} (h : step s v id pc inp = some e) :
    e.Meets (Next s id pc inp) fun _ _ => True := by
  cases pc with
  | guard =>
    obtain ⟨-, rfl⟩ := withLock_some h
    exact guard_next
  | refuse code message =>
    obtain ⟨-, rfl⟩ := withLock_some h
    refine .ite (fun _ => .ret trivial) fun _ => ?_
    exact (teardown_far _ _).next
  | openInput => cases inp <;> cases h; exact opened_next
  | inputFailed code | admitFailed code message =>
    obtain ⟨-, rfl⟩ := withLock_some h
    exact (teardown_far _ _).next
  | storeInput ctx path =>
    obtain ⟨-, rfl⟩ := withLock_some h
    exact .goto (.stored ctx path)
  | acquiring path => cases inp <;> cases h; exact acquired_next
  | retry =>
    obtain ⟨-, rfl⟩ := withLock_some h
    exact .ret trivial
  | handOver path lease =>
    obtain ⟨-, rfl⟩ := withLock_some h
    exact handOver_next
  | reserving path fence =>
    cases inp <;> try cases h
    next r =>
    cases r with
    | ok reservation => cases h; exact .goto (.reserved path fence reservation)
    | error e => cases h; exact (failed_far _ _).next
  | dispatch path fence reservation =>
    obtain ⟨-, rfl⟩ := withLock_some h
    exact dispatch_far.next
  | discardCancel =>
    cases inp <;> try cases h
    next r =>
    cases r with
    | ok _ => cases h; exact .goto (.far rfl)
    | error e => cases h; exact (teardown_far _ _).next
  | discardAbandon => cases inp <;> cases h; exact (teardown_far _ _).next
  | tearing pc | after pc =>
    obtain ⟨e', -, rfl⟩ := Option.map_eq_some_iff.mp h
    exact (bind_far (fun _ => rfl) guarded_far).next
  | executing =>
    cases inp <;> try cases h
    · simp only [step] at h
      split at h
      · cases h
      · cases h; exact .goto (.far rfl)
    · exact (bind_far (fun _ => rfl) guarded_far).next
  | timingOut pc =>
    obtain ⟨e', -, rfl⟩ := Option.map_eq_some_iff.mp h
    refine (bind_far (fun _ => rfl) ?_).next
    intro s r
    cases r with
    | ok _ => exact trivial
    | error e => exact failed_far s e
  | uncertain pc =>
    obtain ⟨e', -, rfl⟩ := Option.map_eq_some_iff.mp h
    refine (bind_far (fun _ => rfl) ?_).next
    exact fun _ _ => trivial

end Run

/-- Where the task of a `_run` goes. -/
lemma Co.run_next {s : Service} {v : TaskView} {id : ExecutionId} {inp : Input} {pc : Run.Pc}
    {e : Effect Co Value} {co : Co} (h : Co.step s v (.run id pc) inp = some e)
    (hgoto : e.ctl = .goto co) : ∃ pc', co = .run id pc' ∧ Run.Next s id pc inp e.next pc' := by
  obtain ⟨e', he', rfl⟩ := Option.map_eq_some_iff.mp h
  obtain ⟨pc', hpc, rfl⟩ := Effect.lift_goto hgoto
  have hnext := Run.step_meets_next he'
  simp only [Effect.Meets, hpc] at hnext
  rw [(Effect.lift_next _ _ _).1]
  exact ⟨pc', rfl, hnext⟩

end ModelSwitch.Execution

import ModelSwitch.Proofs.Scheduler.Worker

/-!
# One recovery at a time

A coroutine that has entered a recovery holds the book in it: nobody else enters or leaves, and no
lease is granted until it is done. So a recovery whose port confirms every model always succeeds.
A recovery that ends with an error leaves the book as it is, and `recovering` then refuses every
later attempt.
-/

namespace ModelSwitch

namespace Book

variable {b b' : Book}

lemma anyLeases_eq_false_iff : b.anyLeases = false ↔ ∀ m k l, ¬ b.Held m k l := by
  simp only [anyLeases, List.any_eq_false, Bool.not_eq_true]
  constructor
  · rintro h m k l ⟨r, hr, hl⟩
    have hno := h r (Dict.mem_values_iff.mpr ⟨m, hr⟩)
    rw [Runtime.hasLeases_eq_false.mp hno k] at hl
    cases hl
  · intro h r hr
    obtain ⟨m, hm⟩ := Dict.mem_values_iff.mp hr
    refine Runtime.hasLeases_eq_false.mpr fun k => ?_
    cases hk : r.leases.get? k with
    | none => rfl
    | some l => exact absurd ⟨r, hm, hk⟩ (h m k l)

/-- The recovery of `epoch` is under way and no lease is held. -/
structure InRecovery (b : Book) (epoch : ℕ) : Prop where
  recovering : b.recovering = true
  epoch_eq : b.epoch = epoch
  idle : b.anyLeases = false

lemma Step.inRecovery {e : Edge} {epoch : ℕ} (h : Step e b b') (he : e ≠ .leaveRecovery)
    (hb : b.InRecovery epoch) : b'.InRecovery epoch := by
  have hgrant : e ≠ .grant := by
    rintro rfl
    cases h with
    | runtime hr hstep =>
      cases hstep with
      | grant request now hno => cases hb.recovering.symm.trans hno
  have hidle : b'.anyLeases = false := anyLeases_eq_false_iff.mpr fun m k l hl =>
    anyLeases_eq_false_iff.mp hb.idle m k l (h.held hgrant hl)
  cases h with
  | runtime hr hstep => exact ⟨hb.recovering, hb.epoch_eq, hidle⟩
  | enterRecovery hno => cases hb.recovering.symm.trans hno
  | leaveRecovery hrec hl => exact absurd rfl he

lemma Path.inRecovery {allowed : Edge → Prop} {epoch : ℕ} (h : Path allowed b b')
    (hno : ¬ allowed .leaveRecovery) (hb : b.InRecovery epoch) : b'.InRecovery epoch := by
  refine h.invariant (I := fun b => b.InRecovery epoch) ?_ hb
  rintro b e b' hb he hs
  exact hs.inRecovery (fun heq => hno (heq ▸ he)) hb

lemma beginRecovery_inRecovery (hno : b.recovering = false) (hidle : b.anyLeases = false) :
    ∃ b', b.beginRecovery = (b', .ok (b.epoch + 1)) ∧ b'.InRecovery (b.epoch + 1) := by
  refine ⟨_, by rw [beginRecovery, hno]; rfl, rfl, rfl, ?_⟩
  refine anyLeases_eq_false_iff.mpr fun m k l hl => ?_
  exact anyLeases_eq_false_iff.mp hidle m k l ((Step.enterRecovery hno).held nofun hl)

/-- A recovery that is still under way ends when every model is confirmed to be stopped. -/
lemma finishRecovery_inRecovery {epoch : ℕ} {confirmed : List ModelId} (hb : b.InRecovery epoch)
    (hall : b.confirmsAll confirmed = true) :
    ∃ b', b.finishRecovery epoch confirmed = (b', .ok ()) ∧ b'.recovering = false ∧
      ∀ m r, b'.runtime.get? m = some r → r.state = .unloaded ∧ r.admissionBlocked = false := by
  have hstale : ¬ (¬ b.recovering = true ∨ epoch ≠ b.epoch) := by
    simp [hb.recovering, hb.epoch_eq]
  have hproof : ¬ (¬ b.confirmsAll confirmed = true ∨ b.anyLeases = true) := by
    simp [hall, hb.idle]
  refine ⟨_, by rw [finishRecovery, if_neg hstale, if_neg hproof], rfl, ?_⟩
  intro m r hr
  rw [Dict.get?_mapVal] at hr
  obtain ⟨r₀, -, rfl⟩ := Option.map_eq_some_iff.mp hr
  exact ⟨rfl, rfl⟩

end Book

/-! ### Who is in a recovery -/

/-- The epoch of the recovery that `recover` has begun. -/
def Recover.Pc.begun : Recover.Pc → Option ℕ
  | .begin => none
  | .port epoch => some epoch
  | .finish epoch _ => some epoch

def RecoverAfterUnverifiedLoad.Pc.begun : RecoverAfterUnverifiedLoad.Pc → Option ℕ
  | .recovering pc => pc.begun
  | _ => none

def StorageRecovered.Pc.begun : StorageRecovered.Pc → Option ℕ
  | .recovering pc => pc.begun
  | _ => none

/-- The epoch of the recovery that a coroutine has begun. -/
def Co.recovery : Co → Option ℕ
  | .recover pc => pc.begun
  | .recoverAfterUnverifiedLoad _ pc => pc.begun
  | .storageRecovered _ pc => pc.begun
  | _ => none

variable {s : Scheduler} {v : TaskView} {inp : Input}

lemma Recover.step_begun {pc pc' : Recover.Pc} {e : Effect Recover.Pc Unit} {n : ℕ}
    (h : step s pc inp = some e) (hc : e.ctl = .goto pc') (hn : pc'.begun = some n) :
    (pc.begun = some n ∧ e.next = s) ∨
      (s.book.recovering = false ∧ e.next.book.InRecovery n) := by
  cases pc with
  | begin =>
    cases inp <;> cases h
    by_cases hrec : s.book.recovering = true
    · rw [begin, if_pos hrec] at hc
      cases hc
    by_cases hl : s.book.anyLeases = true
    · rw [begin, if_neg hrec, if_pos hl] at hc
      cases hc
    obtain ⟨b', hb, hin⟩ :=
      Book.beginRecovery_inRecovery (Bool.not_eq_true _ ▸ hrec) (Bool.not_eq_true _ ▸ hl)
    have heq : begin s = .goto { s with book := b' } (.port (s.book.epoch + 1)) := by
      rw [begin, if_neg hrec, if_neg hl, hb]
    rw [heq] at hc ⊢
    cases hc
    cases hn
    exact .inr ⟨Bool.not_eq_true _ ▸ hrec, hin⟩
  | port epoch =>
    cases inp with
    | recovered r =>
      cases r <;> cases h <;> cases hc
      exact .inl ⟨hn, rfl⟩
    | _ => cases h
  | finish epoch result =>
    cases inp <;> cases h
    simp only [finish] at hc
    split at hc
    · cases hc
    · split at hc <;> cases hc

/-- A step in a recovery leaves the book as it is, or the call returns. -/
lemma Recover.step_inside {pc : Recover.Pc} {e : Effect Recover.Pc Unit} {n : ℕ}
    (h : step s pc inp = some e) (hn : pc.begun = some n) :
    e.next.book = s.book ∨ e.ctl = .done (.ok ()) := by
  cases pc with
  | begin => cases hn
  | port epoch =>
    cases inp with
    | recovered r => cases r <;> cases h <;> exact .inl rfl
    | _ => cases h
  | finish epoch result =>
    cases inp <;> cases h
    simp only [finish, Book.finishRecovery]
    split_ifs
    · exact .inl rfl
    · exact .inl rfl
    · exact .inl rfl
    · exact .inr rfl

/-- `recover` starts before its recovery has begun. -/
lemma Recover.start_goto {pc : Recover.Pc} (h : start s = .goto pc) : pc = .begin := by
  simp only [start] at h
  split at h <;> cases h
  rfl

namespace RecoverAfterUnverifiedLoad

lemma recovered_begun {r : Except Exc Unit} {pc : Pc} (h : recovered r = .goto pc) :
    pc.begun = none := by
  simp only [recovered] at h
  split at h <;> cases h <;> rfl

lemma drain_begun {deadline : Time} {pc : Pc} (h : (drain s deadline).ctl = .goto pc) :
    pc.begun = none := by
  have hstart : ∀ c, c = (Recover.start s).bind .recovering recovered → c = .goto pc →
      pc.begun = none := by
    rintro c rfl hc
    rcases Ctl.bind_goto hc with ⟨p, hp, rfl⟩ | ⟨r, -, hr⟩
    · rw [Recover.start_goto hp]
      rfl
    · exact recovered_begun hr
  simp only [drain] at h
  split_ifs at h
  · exact hstart _ rfl h
  · cases h
    rfl
  · exact hstart _ rfl h

lemma step_begun {deadline : Time} {pc pc' : Pc} {e : Effect Pc Unit} {n : ℕ}
    (h : step s deadline pc inp = some e) (hc : e.ctl = .goto pc') (hn : pc'.begun = some n) :
    (pc.begun = some n ∧ e.next = s) ∨
      (s.book.recovering = false ∧ e.next.book.InRecovery n) := by
  have hdrain : e = drain s deadline → False := by
    rintro rfl
    rw [drain_begun hc] at hn
    cases hn
  cases pc with
  | drain =>
    cases inp <;> cases h
    exact (hdrain rfl).elim
  | draining wake =>
    cases inp <;> simp only [step] at h
    all_goals try (cases h; done)
    · cases h
      exact (hdrain rfl).elim
    · split at h <;> cases h
      exact (hdrain rfl).elim
  | recovering p =>
    obtain ⟨e', he', rfl⟩ := Option.map_eq_some_iff.mp h
    rcases Ctl.bind_goto hc with ⟨p', hp, rfl⟩ | ⟨r, -, hr⟩
    · exact Recover.step_begun he' hp hn
    · rw [recovered_begun hr] at hn
      cases hn
  | closing out =>
    cases inp <;> cases h
    cases hc

end RecoverAfterUnverifiedLoad

lemma StorageRecovered.step_begun {deadline : Time} {pc pc' : Pc} {e : Effect Pc (List ModelId)}
    {n : ℕ} (h : step s v deadline pc inp = some e) (hc : e.ctl = .goto pc')
    (hn : pc'.begun = some n) :
    (pc.begun = some n ∧ e.next = s) ∨
      (s.book.recovering = false ∧ e.next.book.InRecovery n) := by
  have hrecovered : ∀ r, recovered r = .goto pc' → False := by
    intro r hr
    cases r <;> cases hr
    cases hn
  cases pc with
  | admission =>
    cases inp <;> cases h
    split at hc <;> cases hc
    cases hn
  | check =>
    cases inp <;> cases h
    simp only [check] at hc
    split at hc
    · rcases Ctl.bind_goto hc with ⟨p, hp, rfl⟩ | ⟨r, -, hr⟩
      · rw [Recover.start_goto hp] at hn
        cases hn
      · exact (hrecovered r hr).elim
    · cases hc
  | recovering p =>
    obtain ⟨e', he', rfl⟩ := Option.map_eq_some_iff.mp h
    rcases Ctl.bind_goto hc with ⟨p', hp, rfl⟩ | ⟨r, -, hr⟩
    · exact Recover.step_begun he' hp hn
    · exact (hrecovered r hr).elim
  | reopen =>
    cases inp <;> cases h
    rcases Ctl.bind_goto hc with ⟨p, hp, rfl⟩ | ⟨r, -, hr⟩
    · cases hn
    · cases hr
  | preloading p =>
    obtain ⟨e', he', rfl⟩ := Option.map_eq_some_iff.mp h
    rcases Ctl.bind_goto hc with ⟨p', hp, rfl⟩ | ⟨r, -, hr⟩
    · cases hn
    · cases hr

namespace Co

/-- A coroutine is in a recovery after its step if it was before, or if it has just entered. -/
lemma step_recovery {co co' : Co} {e : Effect Co Value} {n : ℕ} (h : co.step s v inp = some e)
    (hc : e.ctl = .goto co') (hn : co'.recovery = some n) :
    (co.recovery = some n ∧ e.next = s) ∨
      (s.book.recovering = false ∧ e.next.book.InRecovery n) := by
  cases co <;> obtain ⟨e', he', rfl⟩ := Option.map_eq_some_iff.mp h <;>
    obtain ⟨pc', hc', rfl⟩ := Ctl.lift_goto hc
  case recover => exact Recover.step_begun he' hc' hn
  case recoverAfterUnverifiedLoad => exact RecoverAfterUnverifiedLoad.step_begun he' hc' hn
  case storageRecovered => exact StorageRecovered.step_begun he' hc' hn
  all_goals cases hn

/-- A coroutine that fails in its recovery leaves the book in it. -/
lemma step_failed {co : Co} {e : Effect Co Value} {n : ℕ} {x : Exc} (h : co.step s v inp = some e)
    (hn : co.recovery = some n) (hc : e.ctl = .done (.error x)) : e.next.book = s.book := by
  cases co with
  | recover pc =>
    obtain ⟨e', he', rfl⟩ := Option.map_eq_some_iff.mp h
    rcases Recover.step_inside he' hn with hb | hret
    · exact hb
    · cases (congrArg (Ctl.lift · .recover .none) hret).symm.trans hc
  | recoverAfterUnverifiedLoad deadline pc =>
    cases pc with
    | recovering p =>
      obtain ⟨e', he', rfl⟩ := Option.map_eq_some_iff.mp h
      obtain ⟨e'', he'', rfl⟩ := Option.map_eq_some_iff.mp he'
      rcases Recover.step_inside he'' hn with hb | hret
      · exact hb
      · simp [Effect.lift, Effect.bind, Ctl.lift, Ctl.bind, hret,
          RecoverAfterUnverifiedLoad.recovered] at hc
    | _ => cases hn
  | storageRecovered deadline pc =>
    cases pc with
    | recovering p =>
      obtain ⟨e', he', rfl⟩ := Option.map_eq_some_iff.mp h
      obtain ⟨e'', he'', rfl⟩ := Option.map_eq_some_iff.mp he'
      rcases Recover.step_inside he'' hn with hb | hret
      · exact hb
      · simp [Effect.lift, Effect.bind, Ctl.lift, Ctl.bind, hret, StorageRecovered.recovered] at hc
    | _ => cases hn
  | _ => cases hn

/-- An exception ends the recovery of the coroutine it is thrown into. -/
lemma throw_recovery {co co' : Co} {x : Exc} (h : co.throw s x = .goto co') :
    co'.recovery = none := by
  cases co <;> first
    | (obtain ⟨pc', hc', rfl⟩ := Ctl.lift_goto h)
    | cases h
  case recoverAfterUnverifiedLoad deadline pc =>
    cases pc with
    | recovering p => exact RecoverAfterUnverifiedLoad.recovered_begun hc'
    | _ =>
      cases hc'
      try rfl
  case storageRecovered deadline pc =>
    cases pc with
    | preloading p =>
      rcases Ctl.bind_goto hc' with ⟨p', hp, rfl⟩ | ⟨r, -, hr⟩
      · rfl
      · cases hr
    | _ => cases hc'
  all_goals rfl

/-- Only the recovery that is under way is ended. -/
lemma recovery_of_leave {co : Co} (h : .leaveRecovery ∈ co.edges) : co.recovery.isSome = true := by
  have hrecover : ∀ pc, .leaveRecovery ∈ Recover.edges pc → pc.begun.isSome = true := by
    intro pc h
    cases pc <;> first
      | rfl
      | simp [Recover.edges] at h
  cases co with
  | recover pc => exact hrecover pc h
  | recoverAfterUnverifiedLoad deadline pc =>
    cases pc with
    | recovering p => exact hrecover p h
    | _ => simp [edges, RecoverAfterUnverifiedLoad.edges] at h
  | storageRecovered deadline pc =>
    cases pc with
    | recovering p => exact hrecover p h
    | preloading p => simpa using PreloadOne.edges_subset p.pc h
    | _ => simp [edges, StorageRecovered.edges] at h
  | acquire c pc => cases pc <;> simp [edges, Acquire.edges] at h
  | finishLoad op deadline pc => cases pc <;> simp [edges, FinishLoad.edges] at h
  | runEviction pc => simpa using RunEviction.edges_subset pc h
  | sessionLifecycle pc => simpa using SessionLifecycle.edges_subset pc h
  | warm m deadline pc => simpa using PreloadOne.edges_subset pc h
  | preload deadline p => simpa using PreloadOne.edges_subset p.pc h
  | monitorStorageOnce deadline pc =>
    cases pc with
    | admission => cases h
    | losing p => cases p <;> simp [edges, MonitorStorageOnce.edges, StopPc.edges] at h
  | shutdown deadline pc => cases pc <;> simp [edges, Shutdown.edges] at h
  | unload m deadline pc | sweepTtl asOf deadline pc | storageLost deadline pc =>
    cases pc <;> simp [edges, StopPc.edges] at h
  | _ => simp [edges] at h

end Co

lemma Spawn.co_recovery (sp : Spawn) : sp.co.recovery = none := by
  cases sp <;> rfl

lemma ApiCall.start_recovery {c : ApiCall} {co : Co} (h : c.start s = .goto co) :
    co.recovery = none := by
  cases c <;> simp only [ApiCall.start] at h
  case recover =>
    obtain ⟨pc, hpc, rfl⟩ := Ctl.lift_goto h
    rw [Recover.start_goto hpc]
    rfl
  case acquire =>
    obtain ⟨pc, hpc, rfl⟩ := Ctl.lift_goto h
    rfl
  case preload =>
    obtain ⟨pc, hpc, rfl⟩ := Ctl.lift_goto h
    rfl
  case warm =>
    split at h <;> cases h
    rfl
  all_goals
    cases h
    rfl

namespace System

variable {w w' : System} {a : Act} {ok : System → Act → Prop}

/-- Task `t` is in the recovery of epoch `n`. -/
def Recovers (w : System) (t : TaskId) (n : ℕ) : Prop :=
  ∃ co, w.Suspended t co ∧ co.recovery = some n

/-- A task in a recovery was in it before the step, or the step entered it. -/
lemma Took.recovers (h : Took w a w') {t : TaskId} {n : ℕ} (ht : w'.Recovers t n) :
    w.Recovers t n ∨ (w.sched.book.recovering = false ∧ ∃ inp, a = .resume t inp) := by
  obtain ⟨co, hs, hn⟩ := ht
  have hall : ∀ t co, w.Suspended t co → co.recovery = some n → w.Recovers t n ∨
      (w.sched.book.recovering = false ∧ ∃ inp, a = .resume t inp) :=
    fun t co hs hn => .inl ⟨co, hs, hn⟩
  refine suspended_step (K := fun _ t co => co.recovery = some n → w.Recovers t n ∨
    (w.sched.book.recovering = false ∧ ∃ inp, a = .resume t inp)) hall h ?_ ?_ ?_ ?_ ?_ t co hs hn
  · intro c co _ hc hn
    rw [ApiCall.start_recovery hc] at hn
    cases hn
  · intro t inp co e co' ha hco he _ hc hn
    rcases Co.step_recovery he hc hn with ⟨hn', -⟩ | ⟨hrec, -⟩
    · exact .inl ⟨co, ⟨true, hco⟩, hn'⟩
    · exact .inr ⟨hrec, inp, ha⟩
  · intro t inp co e sp _ _ _ _ hn
    rw [Spawn.co_recovery] at hn
    cases hn
  · intro t co co' _ _ _ hc hn
    rw [Co.throw_recovery hc] at hn
    cases hn
  · exact fun t co _ _ _ hK => hK

/-- The book is in the recovery of every task that has begun one, and there is one such task. -/
structure OneRecovery (w : System) : Prop where
  book : ∀ t n, w.Recovers t n → w.sched.book.InRecovery n
  unique : ∀ t n t' n', w.Recovers t n → w.Recovers t' n' → t' = t

lemma OneRecovery.step (hI : w.OneRecovery) (h : Took w a w') : w'.OneRecovery := by
  have hunique : ∀ t n t' n', w'.Recovers t n → w'.Recovers t' n' → t' = t := by
    intro t n t' n' ht ht'
    rcases h.recovers ht with hold | ⟨hno, inp, ha⟩ <;>
      rcases h.recovers ht' with hold' | ⟨hno', inp', ha'⟩
    · exact hI.unique t n t' n' hold hold'
    · cases hno'.symm.trans (hI.book t n hold).recovering
    · cases hno.symm.trans (hI.book t' n' hold').recovering
    · cases ha.symm.trans ha'
      rfl
  refine ⟨?_, hunique⟩
  have hall : AllTasks (fun s _ co => ∀ n, co.recovery = some n → s.book.InRecovery n) w' := by
    refine AllTasks.step (fun t co hs n hn => hI.book t n ⟨co, hs, hn⟩) h ?_ ?_ ?_ ?_ ?_ ?_
    · exact fun d t co _ _ _ hK => hK
    · intro c co _ hc n hn
      rw [ApiCall.start_recovery hc] at hn
      cases hn
    · intro t inp co e co' _ _ he hK hc n hn
      rcases Co.step_recovery he hc hn with ⟨hn', hsame⟩ | ⟨-, hin⟩
      · rw [hsame]
        exact hK n hn'
      · exact hin
    · intro t inp co e sp _ _ _ _ n hn
      rw [Spawn.co_recovery] at hn
      cases hn
    · -- another task ends a recovery only if it is the one that is in it
      intro t inp co e t' co' _ hco he hne hs hK n hn
      refine (Co.step_path he).inRecovery (fun hleave => ?_) (hK n hn)
      obtain ⟨n', hn'⟩ := Option.isSome_iff_exists.mp (Co.recovery_of_leave hleave)
      exact hne (hI.unique t n' t' n ⟨co, ⟨true, hco⟩, hn'⟩ ⟨co', hs, hn⟩)
    · intro t co co' _ _ _ hc n hn
      rw [Co.throw_recovery hc] at hn
      cases hn
  rintro t n ⟨co, hs, hn⟩
  exact hall t co hs n hn

theorem Reach.oneRecovery (h : Reach ok w) : w.OneRecovery := by
  refine h.invariant (I := OneRecovery) ?_ (fun w a w' _ hI _ hw => hI.step hw)
  intro w hw
  have hnone : ∀ t n, ¬ w.Recovers t n := by
    rintro t n ⟨co, hs, -⟩
    exact allTasks_starts (K := fun _ _ _ => False) hw t co hs
  exact ⟨fun t n ht => absurd ht (hnone t n), fun t n _ _ ht => absurd ht (hnone t n)⟩

/-! ### Retrying -/

/-- A step keeps the book in its recovery unless it is one of the task that is in it. -/
lemma Took.inRecovery (h : Took w a w') {n : ℕ} (hb : w.sched.book.InRecovery n)
    (hself : ∀ t inp co e m, a = .resume t inp → w.tasks.get? t = some (.running true co) →
      co.step w.sched w.view inp = some e → co.recovery = some m → e.next.book.InRecovery n) :
    w'.sched.book.InRecovery n := by
  refine sched_step (J := fun s => s.book.InRecovery n) hb h (fun _ _ _ => hb) ?_
  intro t inp co e ha ht he
  by_cases hleave : .leaveRecovery ∈ co.edges
  · obtain ⟨m, hm⟩ := Option.isSome_iff_exists.mp (Co.recovery_of_leave hleave)
    exact hself t inp co e m ha ht he hm
  · exact (Co.step_path he).inRecovery hleave hb

/-- The book is in a recovery that no task is in any more. -/
structure Abandoned (w : System) : Prop where
  book : ∃ n, w.sched.book.InRecovery n
  nobody : ∀ t n, ¬ w.Recovers t n

/-- Nobody leaves an abandoned recovery, and nobody enters another. -/
lemma Abandoned.step (hI : w.Abandoned) (h : Took w a w') : w'.Abandoned := by
  obtain ⟨n, hb⟩ := hI.book
  refine ⟨⟨n, h.inRecovery hb ?_⟩, fun t m ht => ?_⟩
  · intro t inp co e m _ ht _ hm
    exact absurd ⟨co, ⟨true, ht⟩, hm⟩ (hI.nobody t m)
  · rcases h.recovers ht with hold | ⟨hno, -⟩
    · exact hI.nobody t m hold
    · cases hno.symm.trans hb.recovering

/-- A call that fails in its recovery abandons it. -/
lemma Reach.abandoned (hreach : Reach ok w) {t : TaskId} {n : ℕ} {x : Exc} (hin : w.Recovers t n)
    (hstep : w.step a = some w') (hfail : w'.tasks.get? t = some (.done (.error x))) :
    w'.Abandoned := by
  have hI := hreach.oneRecovery
  have h := took_of_step hstep
  refine ⟨⟨n, h.inRecovery (hI.book t n hin) ?_⟩, fun u m hu => ?_⟩
  · rintro u inp co e m rfl hu he hm
    obtain rfl := hI.unique t n u m hin ⟨co, ⟨true, hu⟩, hm⟩
    obtain ⟨e', he', -, htask⟩ := hreach.step_resume_task hstep hu
    cases he.symm.trans he'
    have hend : e.ctl = .done (.error x) := by
      cases hc : e.ctl <;> rw [hc] at htask <;> cases htask.symm.trans hfail
      rfl
    rw [Co.step_failed he hm hend]
    exact hI.book u n hin
  · rcases h.recovers hu with hold | ⟨hno, -⟩
    · obtain rfl := hI.unique t n u m hin hold
      obtain ⟨co, ⟨started, hs⟩, -⟩ := hu
      cases hs.symm.trans hfail
    · cases hno.symm.trans (hI.book t n hin).recovering

/-- The step of a `recover` call, as a step of the system. -/
lemma Reach.step_recover (h : Reach ok w) {t : TaskId} {pc : Recover.Pc}
    (hstep : w.step (go t) = some w')
    (ht : w.tasks.get? t = some (.running true (.recover pc))) :
    ∃ e, Recover.step w.sched pc .go = some e ∧ w'.sched = e.next ∧
      w'.tasks.get? t = some (e.ctl.lift .recover .none).task := by
  obtain ⟨e', he', rfl, htask⟩ := h.step_resume_task hstep ht
  obtain ⟨e, he, rfl⟩ := Option.map_eq_some_iff.mp he'
  exact ⟨e, he, commit_sched _ _, htask⟩

/-- Once a call has ended with an error in its recovery, the book stays in that recovery in every
later state: no call reaches the port again, and `recover` is refused. A call whose port confirms
every model always leaves the recovery, with every model `UNLOADED` and unblocked. -/
theorem recovery_retried (hreach : Reach (fun _ _ => True) w) :
    (∀ t n a w' x, w.Recovers t n → w.step a = some w' →
      w'.tasks.get? t = some (.done (.error x)) →
      ∀ w₁, Run System.step (fun _ _ => True) w' w₁ →
        w₁.sched.book.recovering = true ∧ (∀ u m, ¬ w₁.Recovers u m) ∧
        ∀ u w₂, w₁.tasks.get? u = some (.running true (.recover .begin)) →
          w₁.step (go u) = some w₂ →
          w₂.tasks.get? u = some (.done (.error (.conflict "recovery_in_progress")))) ∧
      ∀ t epoch result w', w.tasks.get? t = some (.running true (.recover (.finish epoch result))) →
        result.ok = true → w.sched.book.confirmsAll result.stoppedModels = true →
        w.step (go t) = some w' → w'.sched.book.recovering = false ∧
          ∀ m r, w'.sched.book.runtime.get? m = some r →
            r.state = .unloaded ∧ r.admissionBlocked = false := by
  constructor
  · intro t n a w' x hin hstep hfail w₁ hrun
    have hlost : w₁.Abandoned := hrun.invariant (I := Abandoned)
      (fun _ _ _ hI _ hst => hI.step (took_of_step hst))
      (hreach.abandoned hin hstep hfail)
    obtain ⟨m, hb⟩ := hlost.book
    refine ⟨hb.recovering, hlost.nobody, fun u w₂ hu hstep₁ => ?_⟩
    obtain ⟨w₀, h₀, hrun₀⟩ := hreach
    have hreach₁ : Reach (fun _ _ => True) w₁ :=
      ⟨w₀, h₀, (Run.tail a hrun₀ trivial hstep).trans hrun⟩
    obtain ⟨e, he, -, htask⟩ := hreach₁.step_recover hstep₁ hu
    cases he
    rw [htask, Recover.begin, if_pos hb.recovering]
    rfl
  · intro t epoch result w' ht hok hall hstep
    have hin := hreach.oneRecovery.book t epoch ⟨_, ⟨true, ht⟩, rfl⟩
    obtain ⟨b', hb, hout⟩ := Book.finishRecovery_inRecovery hin hall
    obtain ⟨e, he, hsched, -⟩ := hreach.step_recover hstep ht
    cases he
    rw [hsched, Recover.finish, if_neg (by simp [hok]), hb]
    exact hout

/-- The configuration with a recovery port. -/
def withRecovery : SchedulerConfig := { recovery := true }

lemma withRecovery_starts : Starts (deployedWith withRecovery) :=
  deployedWith_starts (by norm_num [Scheduler.init, RequestQueue.init, deployedWith, withRecovery])

/-- What the port answers to the calls of task 0: a failure, or that both models are stopped. -/
def portFails : Act := .resume 0 (.recovered (.ok ⟨false, some "stop_failed", []⟩))

def portConfirms : Act := .resume 0 (.recovered (.ok ⟨true, none, ["chat", "embed"]⟩))

/-- The first recovery fails, and every later `recover` is refused; had the port confirmed both
models, the recovery would have ended. -/
theorem recovery_retried_failed :
    (∃ w w' : System, w.step (go 0) = some w' ∧
      w'.tasks.get? 0 = some (.done (.error (.modelUnavailable "stop_failed"))) ∧
      ∀ w₁ w₂ u, Run System.step (fun _ _ => True) w' w₁ →
        w₁.tasks.get? u = some (.running true (.recover .begin)) → w₁.step (go u) = some w₂ →
        w₂.tasks.get? u = some (.done (.error (.conflict "recovery_in_progress")))) ∧
    ∃ w w' : System, w.step (go 0) = some w' ∧ w.sched.book.recovering = true ∧
      w'.sched.book.recovering = false := by
  constructor
  · obtain ⟨w, w', hreach, hstep, ht, hfail⟩ :=
      withRecovery_starts.exists_step [.call .recover, go 0, portFails] (a := go 0)
      (P := fun w w' => w.tasks.get? 0 = some (.running true
          (.recover (.finish 1 ⟨false, some "stop_failed", []⟩))) ∧
        w'.tasks.get? 0 = some (.done (.error (.modelUnavailable "stop_failed"))))
      (by decide +kernel)
    refine ⟨w, w', hstep, hfail, fun w₁ w₂ u hrun => ?_⟩
    exact ((recovery_retried hreach).1 0 1 _ w' _ ⟨_, ⟨true, ht⟩, rfl⟩ hstep hfail w₁ hrun).2.2 u w₂
  · obtain ⟨w, w', hreach, hstep, ht, hall, hrec⟩ :=
      withRecovery_starts.exists_step [.call .recover, go 0, portConfirms] (a := go 0)
      (P := fun w w' => w.tasks.get? 0 = some (.running true
          (.recover (.finish 1 ⟨true, none, ["chat", "embed"]⟩))) ∧
        w.sched.book.confirmsAll ["chat", "embed"] = true ∧ w.sched.book.recovering = true)
      (by decide +kernel)
    exact ⟨w, w', hstep, hrec, ((recovery_retried hreach).2 0 1 _ w' ht rfl hall hstep).1⟩

/-- The port reports a failure to the first call. The second call, made when no recovery is running
and no lease is held, is refused before it reaches the port. -/
theorem failed_recovery_not_retried :
    ∃ w w', Reach (fun _ _ => True) w ∧ w.step (go 1) = some w' ∧
      w.tasks.get? 0 = some (.done (.error (.modelUnavailable "stop_failed"))) ∧
      w.tasks.get? 1 = some (.running true (.recover .begin)) ∧
      w.sched.book.anyLeases = false ∧
      w'.tasks.get? 1 = some (.done (.error (.conflict "recovery_in_progress"))) :=
  withRecovery_starts.exists_step
    [.call .recover, go 0, portFails, go 0, .call .recover] (by decide +kernel)

end System

end ModelSwitch

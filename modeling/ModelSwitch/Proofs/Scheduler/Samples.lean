import ModelSwitch.Proofs.Scheduler.Trace
import ModelSwitch.Proofs.Book.Ttl

/-!
# Loads on samples that are recent enough

A memory sample is taken outside the lock and used in a later section. `begin_load` refuses one that
is older than the stamp of the model's last stop; a recovery leaves no stamp, so a sample from
before its end passes. `sample_after_last_stop` follows a book, and the scheduler, beside the time
of the last change that took one model back to `UNLOADED`.
-/

namespace ModelSwitch

/-! ### The book -/

namespace Book

variable {b : Book} {m : ModelId} {t : Time}

/-- A stop of `m` is given a time, and a recovery ends only while `m` is `UNLOADED`. -/
def stampsStops (m : ModelId) (b : Book) : Call → Bool
  | .stopped op now => m ≠ op.modelId || now.isSome
  | .finishRecovery epoch confirmed =>
    !(b.finishRecovery epoch confirmed).2.isOk || (b.runtimeOf m).state = .unloaded
  | _ => true

/-- A call or a tick, with the time at which `m` was last taken back to `UNLOADED`. -/
def stopTimed (m : ModelId) (p : (Book × Time) × Option Time) (a : Timed) :
    Option ((Book × Time) × Option Time) :=
  (timedStep p.1 a).map fun q => (q, if returns m p.1.1 q.1 then some p.1.2 else p.2)

def timedStamps (m : ModelId) (p : (Book × Time) × Option Time) : Timed → Bool
  | .tick _ => true
  | .call c => stampsStops m p.1.1 c

lemma apply_stamps {c : Call} (hnow : c.now.all (· = t) = true) (hok : stampsStops m b c = true) :
    Stamps t m b (b.apply c) := by
  by_cases hedge : c.edge ≠ .stop ∧ c.edge ≠ .leaveRecovery
  · exact (Call.path b c).stamps fun e he => he ▸ hedge
  · cases c with
    | stopped op now =>
      refine stopped_stamps fun hm => ?_
      simp only [stampsStops, Bool.or_eq_true, decide_eq_true_eq] at hok
      obtain ⟨x, hx⟩ := Option.isSome_iff_exists.mp (hok.resolve_left (not_not.mpr hm))
      subst hx
      simpa [Call.now] using hnow
    | finishRecovery epoch confirmed =>
      refine finishRecovery_stamps fun hend => ?_
      simpa [stampsStops, hend] using hok
    | _ => exact absurd ⟨by rintro ⟨⟩, by rintro ⟨⟩⟩ hedge

lemma LastStop.timed {last last' : Option Time} {b' : Book} {t' : Time} {a : Timed}
    (h : LastStop m last t b) (hok : timedStamps m ((b, t), last) a = true)
    (hstep : stopTimed m ((b, t), last) a = some ((b', t'), last')) : LastStop m last' t' b' := by
  obtain ⟨q, hq, heq⟩ := Option.map_eq_some_iff.mp hstep
  cases a with
  | tick now =>
    simp only [timedStep] at hq
    split_ifs at hq with hle
    cases hq
    cases heq
    have hsame := (h.tick hle).step (Stamps.refl b)
    have hno : returns m b b = false := by
      simp only [returns, decide_eq_false_iff_not]
      exact fun hr => hr.1 hr.2.2
    simpa [hno] using hsame
  | call c =>
    simp only [timedStep] at hq
    split_ifs at hq with hnow
    cases hq
    cases heq
    exact h.step (apply_stamps hnow hok)

end Book

/-! ### The scheduler -/

namespace Recover

variable {s : Scheduler} {inp : Input} {m : ModelId}

/-- The section ends the recovery. -/
def ends (b : Book) : Pc → Bool
  | .finish epoch result => result.ok && (b.finishRecovery epoch result.stoppedModels).2.isOk
  | _ => false

lemma step_stamps {pc : Pc} {e : Effect Pc Unit} (h : step s pc inp = some e)
    (hm : ends s.book pc = true → (s.book.runtimeOf m).state = .unloaded) :
    Book.Stamps s.now m s.book e.next.book := by
  unfold step at h
  split at h <;> cases h
  · exact (begin_turn : (begin s).Takes default _ {} s).within.stamps rfl m
  · exact .refl _
  · exact .refl _
  · rename_i epoch result
    unfold finish
    split_ifs with hok
    · exact .refl _
    · have hs : Book.Stamps s.now m s.book (s.book.finishRecovery epoch result.stoppedModels).1 :=
        Book.finishRecovery_stamps fun hend => hm (by simp [ends, hok, hend])
      split <;> rename_i heq <;> rw [heq] at hs <;> exact hs

end Recover

/-- The next section of the coroutine ends a recovery. -/
def Co.endsRecovery (b : Book) : Co → Bool
  | .recover pc | .recoverAfterUnverifiedLoad _ (.recovering pc)
  | .storageRecovered _ (.recovering pc) => Recover.ends b pc
  | _ => false

lemma Co.step_stamps {s : Scheduler} {v : TaskView} {inp : Input} {co : Co} {e : Effect Co Value}
    {m : ModelId} (h : co.step s v inp = some e)
    (hm : co.endsRecovery s.book = true → (s.book.runtimeOf m).state = .unloaded) :
    Book.Stamps s.now m s.book e.next.book := by
  by_cases hrec : co.recovers = true
  · cases co with
    | recover pc =>
      obtain ⟨e', he', rfl⟩ := Option.map_eq_some_iff.mp h
      exact Recover.step_stamps he' hm
    | recoverAfterUnverifiedLoad deadline pc =>
      cases pc with
      | recovering pc =>
        obtain ⟨e', he', rfl⟩ := Option.map_eq_some_iff.mp h
        obtain ⟨e'', he'', rfl⟩ := Option.map_eq_some_iff.mp he'
        exact Recover.step_stamps he'' hm
      -- the other sections release leases at most
      | _ =>
        refine Book.Path.stamps (Co.step_path h) fun e he => ?_
        simp only [Co.edges, RecoverAfterUnverifiedLoad.edges, List.mem_singleton,
          List.not_mem_nil] at he
        all_goals
          subst he
          decide
    | storageRecovered deadline pc =>
      cases pc with
      | recovering pc =>
        obtain ⟨e', he', rfl⟩ := Option.map_eq_some_iff.mp h
        obtain ⟨e'', he'', rfl⟩ := Option.map_eq_some_iff.mp he'
        exact Recover.step_stamps he'' hm
      | _ => cases hrec
    | _ => cases hrec
  · exact (Co.step_within h).stamps (co.footprint_rare.2 (by simpa using hrec)) m

namespace System

variable {w w' : System} {a : Act} {m : ModelId} {last : Option Time}

/-- A step, with the time at which `m` was last taken back to `UNLOADED`. -/
def stopStep (m : ModelId) (p : System × Option Time) (a : Act) : Option (System × Option Time) :=
  (p.1.step a).map fun w =>
    (w, if Book.returns m p.1.sched.book w.sched.book then some p.1.sched.now else p.2)

/-- A recovery ends only while `m` is `UNLOADED`. -/
def endsUnloaded (m : ModelId) (w : System) : Act → Bool
  | .resume t _ =>
    match w.tasks.get? t with
    | some (.running true co) => !co.endsRecovery w.sched.book || w.stateOf m = .unloaded
    | _ => true
  | _ => true

lemma Took.lastStop (h : Book.LastStop m last w.sched.now w.sched.book)
    (hok : w.endsUnloaded m a = true) (hw : Took w a w') :
    Book.LastStop m (if Book.returns m w.sched.book w'.sched.book then some w.sched.now else last)
      w'.sched.now w'.sched.book := by
  have hstamps : Book.Stamps w.sched.now m w.sched.book w'.sched.book := by
    refine sched_step (J := fun s => Book.Stamps w.sched.now m w.sched.book s.book) (.refl _) hw
      (fun _ _ _ => .refl _) ?_
    rintro t inp co e rfl ht he
    refine Co.step_stamps he fun hend => ?_
    have hstate : w.stateOf m = .unloaded := by simpa [endsUnloaded, ht, hend] using hok
    exact hstate
  have hnow : w.sched.now ≤ w'.sched.now := by
    refine sched_step (J := fun s => w.sched.now ≤ s.now) le_rfl hw
      (fun d _ hd => le_add_of_nonneg_right hd) ?_
    intro t inp co e _ _ he
    exact (Co.step_within he).now.ge
  exact (h.step hstamps).tick hnow

/-- Loads and the last proven stop. In every run of the book on a monotone clock whose stops of `m`
are given the time, and in every run of the scheduler, a load of `m` can only begin on a sample that
was taken no earlier than the last return of `m` to `UNLOADED`, if recoveries end only while `m` is
`UNLOADED` already. -/
theorem sample_after_last_stop (m : ModelId) :
    (∀ policy specs b₀ t₀ b t last, Book.init policy specs = .ok b₀ →
      Run (Book.stopTimed m) (fun p a => Book.timedStamps m p a = true) ((b₀, t₀), none)
        ((b, t), last) →
      ∀ sample b' op, b.beginLoad m sample t = (b', .ok op) →
        ∀ x, last = some x → x ≤ sample.sampledAt) ∧
    ∀ w₀ w last, Starts w₀ →
      Run (stopStep m) (fun p a => p.1.endsUnloaded m a = true) (w₀, none) (w, last) →
      ∀ sample b' op, w.sched.book.beginLoad m sample w.sched.now = (b', .ok op) →
        ∀ x, last = some x → x ≤ sample.sampledAt := by
  constructor
  · intro policy specs b₀ t₀ b t last _ hrun sample b' op hload
    have hlast : Book.LastStop m last t b := by
      refine hrun.invariant (I := fun p => Book.LastStop m p.2 p.1.2 p.1.1) ?_ (.none _ _ _)
      rintro ⟨⟨b, t⟩, last⟩ a ⟨⟨b', t'⟩, last'⟩ hI hok hstep
      exact hI.timed hok hstep
    exact hlast.sampled hload
  · intro w₀ w last _ hrun sample b' op hload
    have hlast : Book.LastStop m last w.sched.now w.sched.book := by
      refine hrun.invariant
        (I := fun p => Book.LastStop m p.2 p.1.sched.now p.1.sched.book) ?_ (.none _ _ _)
      rintro ⟨w, last⟩ a ⟨w', last'⟩ hI hok hstep
      obtain ⟨w'', hw, heq⟩ := Option.map_eq_some_iff.mp hstep
      cases heq
      exact (took_of_step hw).lastStop hI hok
    exact hlast.sampled hload

/-- "chat" is stopped at time 5; a load may then begin on a sample of time 6. -/
theorem sample_after_last_stop_sample : ∃ (b b' : Book) (last : Option Time) (op : Operation),
    b.beginLoad "chat" ⟨2000, 1500, 6⟩ 7 = (b', .ok op) ∧ last = some 5 ∧
      ∀ x, last = some x → x ≤ 6 := by
  obtain ⟨⟨⟨b, t⟩, last⟩, hrun, ht, hlast, hload⟩ := exists_run_to (Book.stopTimed "chat")
    (Book.timedStamps "chat") ((Book.built Book.samplePolicy Book.ttlSpecs, 0), none)
    [.call (.bootstrapStopped "chat"), .call (.beginLoad "chat" ⟨2000, 1500, 0⟩ 0),
     .call (.loaded ⟨0, "chat", 1, 0⟩ 0), .call (.beginEviction ["chat"] false), .tick 5,
     .call (.stopped ⟨1, "chat", 1, 0⟩ (some 5)), .tick 7]
    (fun p => p.1.2 = 7 ∧ p.2 = some 5 ∧
      (p.1.1.beginLoad "chat" ⟨2000, 1500, 6⟩ 7).2.isOk = true) (by decide +kernel)
  cases hb : b.beginLoad "chat" ⟨2000, 1500, 6⟩ 7 with
  | mk b' r =>
    rw [hb] at hload
    cases r with
    | error e => exact absurd hload nofun
    | ok op =>
      subst ht
      exact ⟨b, b', last, op, hb, hlast, (sample_after_last_stop "chat").1 _ _ _ _ _ _ _
        (Book.init_eq_built (by decide +kernel)) hrun _ _ _ hb⟩

/-- A recovery is asked for while "chat" is being loaded, and ends at time 5. Task 0 is the request
for "chat", which takes its sample at time 3, task 1 the load and task 2 the recovery. -/
def recoverMeanwhile : List Act :=
  [.call (.acquire { modelId := "chat", requestId := "r", deadline := 600 }), go 0,
   .resume 0 plenty, .resume 0 (.guard (.ok true)), go 0, go 0, go 1, .tick 3,
   .resume 0 (.snapshot (.ok ⟨4000, 4000, 3⟩)), .resume 0 (.guard (.ok true)),
   .call .recover, go 2, .tick 2, .resume 2 (.recovered (.ok ⟨true, none, ["chat", "embed"]⟩)),
   go 2, .resume 1 (.backend (.ok ⟨.running, true, none⟩)), go 1, go 1, go 0]

/-- The sample a request is about to begin its load on. -/
def loadSample (w : System) (t : TaskId) : Option MemorySample :=
  match w.tasks.get? t with
  | some (.running true (.acquire _ (.load sample _))) => some sample
  | _ => none

/-- The recovery has proven "chat" stopped at time 5, and the next section of task 0 begins its load
on the sample of time 3. -/
theorem load_on_sample_before_recovery : ∃ w₀ w w' : System, Starts w₀ ∧
    Run (stopStep "chat") (fun _ _ => True) (w₀, none) (w, some 5) ∧
    w.loadSample 0 = some ⟨4000, 4000, 3⟩ ∧ w.step (go 0) = some w' ∧
    w.stateOf "chat" = .unloaded ∧ w'.stateOf "chat" = .loading := by
  obtain ⟨⟨w, last⟩, hrun, hlast, hsample, hstate, hload⟩ := exists_run_to (stopStep "chat")
    (fun _ _ => true) (deployedWith { recovery := true }, none) recoverMeanwhile
    (fun p => p.2 = some 5 ∧ p.1.loadSample 0 = some ⟨4000, 4000, 3⟩ ∧
      p.1.stateOf "chat" = .unloaded ∧
      ((p.1.step (go 0)).any fun w' => w'.stateOf "chat" = .loading) = true) (by decide +kernel)
  cases hlast
  simp only [Option.any_eq_true, decide_eq_true_eq] at hload
  obtain ⟨w', hstep, hload⟩ := hload
  refine ⟨_, w, w', deployedWith_starts ?_, hrun.mono fun _ _ _ => trivial, hsample, hstep, hstate,
    hload⟩
  norm_num [Scheduler.init, RequestQueue.init, deployedWith]

end System

end ModelSwitch

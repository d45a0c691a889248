import ModelSwitch.Proofs.Scheduler.Frame

/-!
# The turns of a coroutine

A turn leads from one suspension of a coroutine to the next. `Turn` says all of it that the
invariants ask for: the edges of the state table the book may move along, the parts of the scheduler
it may touch, and the task it starts. `Spawned` lists what a turn can start and what it files for
it: a stop batch is started only into the free eviction slot, with tokens of a stop, and a session
worker only when the last one has ended.
-/

namespace ModelSwitch

/-- The changes that may come before a batch in its section; they start and end no operation. -/
def Edge.light (e : Edge) : Prop := e = .release ∨ e = .block ∨ e = .unblock

/-- What a step that leads from `s` to `s'` starts. -/
inductive Spawned (v : TaskView) (s s' : Scheduler) : Option Spawn → Prop
  | none (h : s'.eviction = s.eviction) : Spawned v s s' none
  | load (op : Operation) (deadline : Time) (h : s'.eviction = s.eviction) :
      Spawned v s s' (some (.finishLoad op deadline))
  | recover (deadline : Time) (h : s'.eviction = s.eviction) :
      Spawned v s s' (some (.recoverAfterUnverifiedLoad deadline))
  | worker (hidle : v.idle s.sessionWorker = true) (hw : s'.sessionWorker = some v.fresh)
      (h : s'.eviction = s.eviction) : Spawned v s s' (some .sessionLifecycle)
  | batch (ops : List Operation) (deadline : Time) (hfree : s.eviction = Option.none)
      (h : s'.eviction = some v.fresh)
      (hmark : ∃ b ms, Book.Path Edge.light s.book b ∧ b.Idle ms ∧
        b.markEvicting ms = (s'.book, ops)) :
      Spawned v s s' (some (.runEviction ops deadline))

instance : Inhabited TaskView := ⟨⟨0, fun _ => none⟩⟩

variable {s s' s'' : Scheduler} {v : TaskView} {sp : Option Spawn}

lemma Spawned.eviction (h : Spawned v s s' Option.none) : s'.eviction = s.eviction := by
  cases h
  assumption

/-- What is started after a light move of the book is started by the whole section. -/
lemma Spawned.of_light (h : Spawned v s' s'' sp) (he : s'.eviction = s.eviction)
    (hw : s'.sessionWorker = s.sessionWorker) (hp : Book.Path Edge.light s.book s'.book) :
    Spawned v s s'' sp := by
  cases h with
  | none h => exact .none (h.trans he)
  | load op deadline h => exact .load op deadline (h.trans he)
  | recover deadline h => exact .recover deadline (h.trans he)
  | worker hidle hw' h => exact .worker (hw ▸ hidle) hw' (h.trans he)
  | batch ops deadline hfree h hmark =>
    obtain ⟨b, ms, hp', hidle, hm⟩ := hmark
    exact .batch ops deadline (he ▸ hfree) h ⟨b, ms, hp.trans hp', hidle, hm⟩

/-- The turn that leads from `s` to `s'` and starts `sp` moves the book along `edges` and touches
what `fp` says. -/
structure Turn (v : TaskView) (edges : List Edge) (fp : Footprint) (s s' : Scheduler)
    (sp : Option Spawn) : Prop where
  within : Within fp s s'
  path : Book.PathIn edges s.book s'.book
  spawned : Spawned v s s' sp

/-- The turn an effect takes. -/
abbrev Effect.Takes {α ρ : Type} (e : Effect α ρ) (v : TaskView) (edges : List Edge)
    (fp : Footprint) (s : Scheduler) : Prop :=
  Turn v edges fp s e.next e.spawn

lemma Edge.self (e : Edge) : e = e := rfl

namespace Turn

variable {edges edges' : List Edge} {fp : Footprint}

lemma refl (s : Scheduler) : Turn v edges fp s s none := ⟨.refl s, .refl _, .none rfl⟩

lemma trans (h : Turn v edges fp s s' none) (h' : Turn v edges fp s' s'' none) :
    Turn v edges fp s s'' none :=
  ⟨h.within.trans h'.within, h.path.trans h'.path,
    .none (h'.spawned.eviction.trans h.spawned.eviction)⟩

/-- What a turn does before it starts a task is light. -/
lemma trans_light (h : Turn v edges fp s s' none) (h' : Turn v edges fp s' s'' sp)
    (hw : s'.sessionWorker = s.sessionWorker) (hp : Book.Path Edge.light s.book s'.book) :
    Turn v edges fp s s'' sp :=
  ⟨h.within.trans h'.within, h.path.trans h'.path,
    h'.spawned.of_light h.spawned.eviction hw hp⟩

lemma mono (h : Turn v edges {} s s' sp) (hsub : edges ⊆ edges') : Turn v edges' fp s s' sp :=
  ⟨h.within.mono, h.path.mono fun _ he => hsub he, h.spawned⟩

/-- A nested coroutine takes its caller's turn. -/
lemma of_bind {α β ρ τ : Type} {o : Option (Effect α ρ)} {wrap : α → β}
    {k : Except Exc ρ → Ctl β τ} {e : Effect β τ} (h : o.map (·.bind wrap k) = some e)
    (ho : ∀ e', o = some e' → e'.Takes v edges fp s) : e.Takes v edges fp s := by
  obtain ⟨e', he', rfl⟩ := Option.map_eq_some_iff.mp h
  exact ho e' he'

/-- A turn that moves the book along one quiet edge and changes no field a footprint mentions. -/
lemma of_edge {e : Edge} (h : Book.Path (Eq e) s.book s'.book) (he : e.quiet ∧ e ∈ edges)
    (hrest : (s'.eviction, s'.framed) = (s.eviction, s.framed)) : Turn v edges fp s s' none := by
  obtain ⟨hev, hframed⟩ := Prod.mk.inj hrest
  refine ⟨.mono (.of_allowed (h.mono ?_) rfl (fun _ m => h.stamps ?_) hframed), h.mono ?_,
    .none hev⟩
  · rintro _ rfl
    exact ⟨fun hl => absurd hl he.1.1.1, fun hg => absurd hg he.1.1.2⟩
  · rintro _ rfl
    exact he.1.2
  · rintro _ rfl
    exact he.2

/-- A turn that changes only fields no footprint mentions. -/
lemma of_rest (hbook : s'.book = s.book)
    (hrest : (s'.eviction, s'.framed) = (s.eviction, s.framed)) : Turn v edges fp s s' none := by
  obtain ⟨hev, hframed⟩ := Prod.mk.inj hrest
  have hp : ∀ {allowed}, Book.Path allowed s.book s'.book := hbook ▸ .refl _
  exact ⟨.mono (.of_allowed hp rfl (fun _ m => hbook ▸ .refl _) hframed), hp, .none hev⟩

/-- A turn that writes back a stop. -/
lemma of_stopped {op : Operation} {book : Book} {r : Except Exc Unit}
    (h : s.book.stopped op (some s.now) = (book, r)) (he : .stop ∈ edges) :
    Turn v edges fp s { s with book := book } none := by
  have hp := Book.stopped_path (Edge.self .stop) s.book op (some s.now)
  have hs : ∀ m, Book.Stamps s.now m s.book (s.book.stopped op (some s.now)).1 :=
    fun m => Book.stopped_stamps fun _ => rfl
  rw [h] at hp hs
  refine ⟨.mono (.of_allowed (hp.mono ?_) rfl (fun _ => hs) rfl), hp.mono ?_, .none rfl⟩
  · rintro _ rfl
    exact ⟨nofun, nofun⟩
  · rintro _ rfl
    exact he

/-- A turn that moves only the queue. -/
lemma of_queue {q : RequestQueue} (h : RequestQueue.Moves fp.enqueue s.queue q) :
    Turn v edges fp s { s with queue := q } none :=
  ⟨{ Within.refl s with queue := h }, .refl _, .none rfl⟩

lemma remove (request : RequestId) (state : WaitState) :
    Turn v edges fp s { s with queue := (s.queue.remove request state).1 } none :=
  of_queue (.remove _ request state)

lemma expire (now : Time) : Turn v edges fp s { s with queue := s.queue.expire now } none :=
  of_queue (.expire _ now)

/-- A turn that moves sessions. -/
lemma of_sessions {sm : SessionManager} (hfp : fp.sessions = true)
    (hp : sm.policy = s.sessions.policy) : Turn v edges fp s { s with sessions := sm } none :=
  ⟨{ Within.refl s with sessions := fun h => by simp [hfp] at h, policy := hp }, .refl _, .none rfl⟩

/-- A turn that begins the load of `m` and files its task. -/
lemma of_load {m : ModelId} {sample : MemorySample} {now : Time} {r : Except Exc Operation}
    {book : Book} (h : s.book.beginLoad m sample now = (book, r)) (loads : Dict ModelId TaskId)
    (he : .load ∈ edges) (hsp : Spawned v s { s with book := book, loads := loads } sp) :
    Turn v edges { load := some m } s { s with book := book, loads := loads } sp := by
  have hp := Book.beginLoad_path (Edge.self .load) s.book m sample now
  rw [h] at hp
  refine ⟨{ Within.refl s with path := hp.mono ?_, unloaded := ?_, stamps := ?_ }, hp.mono ?_, hsp⟩
  · rintro _ rfl
    exact ⟨fun _ => rfl, nofun⟩
  · intro _ m' hm' hu
    have hne : m' ≠ m := fun heq => hm' (heq ▸ rfl)
    have hother := Book.beginLoad_other s.book sample now hne
    rw [h] at hother
    exact hother ▸ hu
  · refine fun _ m' => hp.stamps ?_
    rintro _ rfl
    decide
  · rintro _ rfl
    exact he

/-- A turn that files a marked batch in the free slot. -/
lemma of_batch (hfree : s.eviction = none) {ms : List ModelId} {book : Book} {ops : List Operation}
    (hidle : s.book.Idle ms) (hm : s.book.markEvicting ms = (book, ops))
    (hp : Book.Path (Eq .evict) s.book book) (he : .evict ∈ edges) (hs : s'.framed = s.framed)
    (deadline : Time) :
    Turn v edges fp s (s'.startEviction v book ops deadline).1
      (s'.startEviction v book ops deadline).2 := by
  have ht : Turn v edges fp s { s'.startEviction v book ops deadline |>.1 with
      eviction := s.eviction } none := .of_edge hp ⟨by decide, he⟩ (Prod.ext rfl hs)
  exact ⟨⟨ht.within.path, ht.within.unloaded, ht.within.queue, ht.within.sessions,
      ht.within.policy, ht.within.worker, ht.within.shutdown, ht.within.cold, ht.within.stamps,
      ht.within.now, ht.within.cfg⟩, ht.path,
    .batch ops deadline hfree rfl ⟨s.book, ms, .refl _, hidle, hm⟩⟩

end Turn

/-! ### The synchronous helpers -/

namespace Scheduler

variable {edges : List Edge} {fp : Footprint} (s : Scheduler)

lemma cancelSwitchIntent_turn (he : .unblock ∈ edges) (request : RequestId) :
    Turn v edges fp s (s.cancelSwitchIntent request) none := by
  unfold cancelSwitchIntent
  split
  · exact .refl s
  · split_ifs
    · exact .of_edge (Book.unfreezeSwitch_path (Edge.self .unblock) _ _) ⟨by decide, he⟩ rfl
    · exact .refl s

lemma expireSwitchIntent_turn (he : .unblock ∈ edges) :
    Turn v edges fp s s.expireSwitchIntent none := by
  unfold expireSwitchIntent
  split
  · exact .refl s
  · split_ifs
    · exact .of_edge (Book.unfreezeSwitch_path (Edge.self .unblock) _ _) ⟨by decide, he⟩ rfl
    · exact .refl s

lemma recordColdLoad_turn (hfp : fp.cold = true) : Turn v edges fp s s.recordColdLoad none := by
  have hcold : ∀ successes notBefore, Turn v edges fp s
      { s with switchSuccesses := successes, coldLoadNotBefore := notBefore } none :=
    fun _ _ => ⟨{ Within.refl s with cold := fun h => by simp [hfp] at h }, .refl _, .none rfl⟩
  unfold recordColdLoad
  dsimp only
  split
  · exact hcold _ _
  · split_ifs <;> exact hcold _ _

lemma forgetSessionLease_turn (lease : Uuid) :
    Turn v edges fp s (s.forgetSessionLease lease) none := by
  unfold forgetSessionLease
  split
  · exact .refl s
  · exact .of_rest rfl rfl

lemma releaseSessionFreeze_turn (session : SessionId) :
    Turn v edges fp s (s.releaseSessionFreeze session) none := by
  unfold releaseSessionFreeze
  split_ifs
  · exact .of_rest rfl rfl
  · exact .refl s

lemma startRecovery_turn (v : TaskView) (deadline : Time) :
    Turn v edges fp s (s.startRecovery v deadline).1 (s.startRecovery v deadline).2 := by
  have ht : Turn v edges fp s { s with recoveryTask := some v.fresh } none := .of_rest rfl rfl
  unfold startRecovery
  split_ifs
  · exact ⟨ht.within, ht.path, .recover deadline rfl⟩
  · exact .refl s

lemma ensureSessionWorker_turn (v : TaskView) (hfp : fp.worker = true) :
    Turn v edges fp s (s.ensureSessionWorker v).1 (s.ensureSessionWorker v).2 := by
  unfold ensureSessionWorker
  split_ifs with hidle
  · exact ⟨{ Within.refl s with worker := fun h => by simp [hfp] at h }, .refl _,
      .worker hidle rfl rfl⟩
  · exact .refl s

variable {s} {book : Book} {ops : List Operation} {ms : List ModelId}

/-- A batch that `begin_eviction` marked, filed in a free slot. -/
lemma startEviction_turn (hfree : s.eviction = none) {automatic : Bool}
    (h : s.book.beginEviction ms automatic = (book, .ok ops)) (he : .evict ∈ edges)
    (hs : s'.framed = s.framed) (deadline : Time) :
    Turn v edges fp s (s'.startEviction v book ops deadline).1
      (s'.startEviction v book ops deadline).2 := by
  have hp := Book.beginEviction_path (Edge.self .evict) s.book ms automatic
  rcases Book.beginEviction_cases s.book ms automatic with ⟨e, heq⟩ | ⟨hidle, heq⟩ <;>
    cases h.symm.trans heq
  rw [heq] at hp
  exact .of_batch hfree hidle rfl hp he hs deadline

lemma startCleanup_turn (hfree : s.eviction = none)
    (h : s.book.beginCleanup ms = (book, .ok ops)) (he : .evict ∈ edges)
    (hs : s'.framed = s.framed) (deadline : Time) :
    Turn v edges fp s (s'.startEviction v book ops deadline).1
      (s'.startEviction v book ops deadline).2 := by
  have hp := Book.beginCleanup_path (Edge.self .evict) s.book ms
  rcases Book.beginCleanup_cases s.book ms with ⟨e, heq⟩ | ⟨hidle, heq⟩ <;>
    cases h.symm.trans heq
  rw [heq] at hp
  exact .of_batch hfree hidle rfl hp he hs deadline

lemma advanceSwitch_turn (hfree : s.eviction = none) (he : .evict ∈ edges) (hu : .unblock ∈ edges)
    (intent : SwitchIntent) (request : RequestId) (deadline : Time) :
    Turn v edges fp s (s.advanceSwitch v intent request deadline).1.1
      (s.advanceSwitch v intent request deadline).1.2 := by
  have hp := Book.beginEviction_path (Edge.self .evict) s.book intent.frozenModels true
  unfold advanceSwitch
  split_ifs
  · exact .refl s
  · exact .refl s
  · split <;> rename_i heq
    · exact s.cancelSwitchIntent_turn hu _
    · rw [heq] at hp
      exact .of_edge hp ⟨by decide, he⟩ rfl
    · exact startEviction_turn hfree heq he (by rfl) _

lemma establishOrAdvanceSwitch_turn (hfree : s.eviction = none) (he : .evict ∈ edges)
    (hu : .unblock ∈ edges) (hb : .block ∈ edges) (request : RequestId) (m : ModelId)
    (sample : MemorySample) (deadline : Time) :
    Turn v edges fp s (s.establishOrAdvanceSwitch v request m sample deadline).1.1
      (s.establishOrAdvanceSwitch v request m sample deadline).1.2 := by
  unfold establishOrAdvanceSwitch
  split
  · exact advanceSwitch_turn hfree he hu _ _ _
  · split
    · exact .refl s
    · exact .refl s
    · rename_i candidates _ _
      have hp := Book.freezeForSwitch_path (Edge.self .block) s.book (candidates.map (·.modelId))
      dsimp only
      split <;> rename_i heq <;> rw [heq] at hp
      · exact .refl s
      · exact .of_edge hp ⟨by decide, hb⟩ rfl
      · refine .trans_light ?_ (advanceSwitch_turn ?_ he hu _ _ _) ?_ (hp.mono ?_)
        · exact .of_edge hp ⟨by decide, hb⟩ rfl
        · exact hfree
        · rfl
        · rintro _ rfl
          exact .inr (.inl rfl)

lemma stopAll_turn {α : Type} (he : .evict ∈ edges) (deadline : Time) (awaiting : TaskId → α) :
    (s.stopAll v deadline awaiting).Takes v edges fp s := by
  unfold stopAll
  split
  · exact .refl s
  · split
    · exact .refl s
    · have hp := Book.beginCleanup_path (Edge.self .evict) s.book
        (s.book.runtime.keys.filter s.book.stoppable)
      split <;> rename_i heq
      · rw [heq] at hp
        exact .of_edge hp ⟨by decide, he⟩ rfl
      · exact startCleanup_turn ‹_› heq he (by rfl) _

end Scheduler

end ModelSwitch

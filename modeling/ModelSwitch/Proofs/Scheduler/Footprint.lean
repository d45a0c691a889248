import ModelSwitch.Proofs.Scheduler.Turns

/-!
# The turn of every coroutine

For each coroutine and each point it is suspended at, `edges` lists the edges of the book's state
table that its next turn may move along and `footprint` the parts of the scheduler it may touch;
`step_turn` proves both, together with what the turn starts, once. What no listed edge does, the
step does not do: a step without `loaded` and `rollback` makes no model `READY`, a step without
`leaveRecovery` does not end a recovery.
-/

namespace ModelSwitch

variable {s : Scheduler} {v : TaskView} {inp : Input} {e : Effect Co Value} {fp : Footprint}
  {deadline : Time}

namespace Acquire

variable {c : AcquireCall}

def edges : Pc → List Edge
  | .decide _ _ => [.unblock, .grant]
  | .load _ _ => [.load, .block, .unblock, .evict]
  | .closing _ => [.unblock]
  | _ => []

/-- The load section begins a load rather than a switch. -/
def beginsLoad (s : Scheduler) (c : AcquireCall) (sample : MemorySample) (admitted : Bool) : Bool :=
  (admitted = true ∧ (s.book.runtimeOf c.modelId).state = .unloaded
    ∧ s.loads.contains c.modelId = false) ∧ s.book.canLoad c.modelId sample s.now = true

def footprint (s : Scheduler) (c : AcquireCall) : Pc → Footprint
  | .enter => { enqueue := some c.requestId }
  | .decide _ _ => { grant := true }
  | .load sample admitted =>
    { load := if beginsLoad s c sample admitted then some c.modelId else none }
  | _ => {}

lemma enter_turn : (enter s c).Takes v [] { enqueue := some c.requestId } s := by
  have hq : ∀ q r, s.queue.enqueue c.requestId c.modelId (s.book.priorityOf c.modelId) c.deadline
      s.now (kind c) = (q, r) →
      Turn v [] { enqueue := some c.requestId } s { s with queue := q } none := by
    intro q r heq
    exact .of_queue (.enqueue heq)
  unfold enter
  split
  · exact .refl s
  · split <;> exact hq _ _ ‹_›

lemma grant_turn {sample : MemorySample} {admitted : Bool} {book : Book} {r : Except Exc Lease}
    (h : grant s c sample admitted = (book, r)) :
    Turn v [.unblock, .grant] { grant := true } s { s with book := book } none := by
  unfold grant at h
  split_ifs at h
  · cases h
    exact .refl s
  · have hp := Book.acquireReady_path (Edge.self .grant) s.book c.modelId c.requestId s.now
    rw [h] at hp
    refine ⟨.of_allowed (hp.mono ?_) rfl (fun _ m => hp.stamps ?_) rfl, hp.mono ?_, .none rfl⟩
    · rintro _ rfl
      exact ⟨nofun, fun _ => rfl⟩
    · rintro _ rfl
      decide
    · rintro _ rfl
      decide

lemma granted_turn {edges : List Edge} (book : Book) (lease : Lease) :
    Turn v edges fp { s with book := book } (granted s c book lease) none := by
  unfold granted
  dsimp only
  split
  · exact .remove c.requestId .claimed
  · refine .trans (.remove c.requestId .claimed) ?_
    exact .of_rest rfl rfl

lemma decideHead_turn (sample : MemorySample) (admitted : Bool) :
    Turn v [.unblock, .grant] { grant := true } s (decideHead s c sample admitted).next none := by
  unfold decideHead
  split <;> rename_i heq <;> have ht := grant_turn (v := v) heq
  · exact ht.trans (granted_turn _ _)
  · dsimp only
    split_ifs <;> exact ht
  · exact ht

lemma decideHead_spawn (sample : MemorySample) (admitted : Bool) :
    (decideHead s c sample admitted).spawn = none := by
  unfold decideHead
  split
  · rfl
  · dsimp only
    split_ifs <;> rfl
  · rfl

lemma decide_turn (sample : MemorySample) (admitted : Bool) :
    (decide s c sample admitted).Takes v [.unblock, .grant] { grant := true } s := by
  have ht : Turn v [.unblock, .grant] { grant := true } s s.expireSwitchIntent none :=
    s.expireSwitchIntent_turn (by decide)
  unfold decide
  dsimp only
  split_ifs
  · exact ht
  · exact ht
  · exact ht.trans (.remove c.requestId .expired)
  · rw [Effect.Takes, decideHead_spawn]
    exact ht.trans (.trans (.expire _) (decideHead_turn sample admitted))
  · exact ht.trans (.expire _)

lemma load_turn (sample : MemorySample) (admitted : Bool) :
    (load s v c sample admitted).Takes v [.load, .block, .unblock, .evict]
      { load := if beginsLoad s c sample admitted then some c.modelId else none } s := by
  by_cases hload : beginsLoad s c sample admitted = true
  · rw [if_pos hload]
    simp only [beginsLoad, decide_eq_true_eq] at hload
    rw [load, if_pos hload.1, if_pos hload.2]
    split
    · exact .of_load ‹_› _ (by decide) (.load _ _ rfl)
    · exact .of_load ‹_› _ (by decide) (.none rfl)
  · rw [if_neg hload, load]
    split_ifs with hadm hcan hfree
    · exact absurd (by simp [beginsLoad, hadm, hcan]) hload
    · have ht : Turn v [.load, .block, .unblock, .evict] {} s _ _ :=
        Scheduler.establishOrAdvanceSwitch_turn (Option.isNone_iff_eq_none.mp hfree) (by decide)
          (by decide) (by decide) c.requestId c.modelId sample c.deadline
      split <;> rename_i heq <;> rw [heq] at ht <;> exact ht
    · exact .refl s
    · exact .refl s

lemma close_turn (out : Except Exc Lease) : (close s c out).Takes v [.unblock] fp s :=
  .trans (.remove c.requestId .cancelled) (Scheduler.cancelSwitchIntent_turn _ (by decide) _)

lemma step_turn {pc : Pc} {e : Effect Pc Lease} (h : step s v c pc inp = some e) :
    e.Takes v (edges pc) (footprint s c pc) s := by
  unfold step at h
  split at h
  all_goals try (cases h; done)
  all_goals try split_ifs at h
  all_goals cases h
  all_goals first
    | exact .refl s
    | exact enter_turn
    | exact decide_turn _ _
    | exact load_turn _ _
    | exact close_turn _

end Acquire

/-! ### Loading and recovering -/

namespace FinishLoad

variable {op : Operation}

def edges : Pc → List Edge
  | .verdict _ => [.loaded, .failed]
  | .failing _ => [.failed]
  | _ => []

def footprint : Pc → Footprint
  | .verdict _ => { cold := true }
  | _ => {}

lemma verdict_turn (obs : Observation) :
    (verdict s op obs).Takes v [.loaded, .failed] { cold := true } s := by
  unfold verdict
  split_ifs
  · have hp := Book.loaded_path (Edge.self .loaded) s.book op s.now
    split <;> rename_i heq <;> rw [heq] at hp
    · refine .trans ?_ (Scheduler.recordColdLoad_turn _ rfl)
      exact .of_edge hp (by decide) rfl
    · exact .of_edge hp (by decide) rfl
    · exact .of_edge hp (by decide) rfl
  · have hp := Book.failed_path (Edge.self .failed) s.book op
      (some (textOr obs.detailCode "load_unverified"))
    split <;> rename_i heq <;> rw [heq] at hp <;> exact .of_edge hp (by decide) rfl

lemma failing_turn (exc : Exc) : (failing s op exc).Takes v [.failed] {} s := by
  have hp := Book.failed_path (Edge.self .failed) s.book op (some "load_failed")
  unfold failing
  split <;> rename_i heq <;> rw [heq] at hp <;> exact .of_edge hp (by decide) rfl

lemma close_turn (recover : Bool) (out : Except Exc Unit) :
    (close s v op deadline recover out).Takes v [] {} s := by
  have ht : Turn v [] {} s { s with loads := s.loads.erase op.modelId } none := .of_rest rfl rfl
  unfold close
  dsimp only
  split_ifs
  · exact ht.trans_light (Scheduler.startRecovery_turn _ v deadline) rfl (.refl _)
  · exact ht

lemma step_turn {pc : Pc} {e : Effect Pc Unit} (h : step s v op deadline pc inp = some e) :
    e.Takes v (edges pc) (footprint pc) s := by
  unfold step at h
  split at h <;> cases h
  · exact .refl s
  · exact .refl s
  · exact verdict_turn _
  · exact failing_turn _
  · exact close_turn _ _

end FinishLoad

namespace Recover

def edges : Pc → List Edge
  | .begin => [.enterRecovery]
  | .finish _ _ => [.leaveRecovery]
  | .port _ => []

lemma begin_turn : (begin s).Takes v [.enterRecovery] fp s := by
  have hp := Book.beginRecovery_path (Edge.self .enterRecovery) s.book
  unfold begin
  split_ifs
  · exact .refl s
  · exact .refl s
  · split <;> rename_i heq <;> rw [heq] at hp <;> exact .of_edge hp (by decide) rfl

lemma finish_turn (epoch : ℕ) (result : RecoveryResult) :
    (finish s epoch result).Takes v [.leaveRecovery] { recovered := true } s := by
  have hp := Book.finishRecovery_path (Edge.self .leaveRecovery) s.book epoch result.stoppedModels
  have ht : ∀ book, Book.Path (Eq .leaveRecovery) s.book book →
      Turn v [.leaveRecovery] { recovered := true } s { s with book := book } none := by
    intro book hp
    refine ⟨.of_allowed (hp.mono ?_) rfl nofun rfl, hp.mono ?_, .none rfl⟩
    · rintro _ rfl
      exact ⟨nofun, nofun⟩
    · rintro _ rfl
      decide
  unfold finish
  split_ifs
  · exact .refl s
  · split <;> rename_i heq <;> rw [heq] at hp <;> exact ht _ hp

lemma step_turn {pc : Pc} {e : Effect Pc Unit} (h : step s pc inp = some e) :
    e.Takes v (edges pc) { recovered := true } s := by
  unfold step at h
  split at h <;> cases h
  · exact begin_turn
  · exact .refl s
  · exact .refl s
  · exact finish_turn _ _

end Recover

namespace RecoverAfterUnverifiedLoad

def edges : Pc → List Edge
  | .drain | .draining _ => [.release]
  | .recovering pc => Recover.edges pc
  | .closing _ => []

lemma drain_turn : (drain s deadline).Takes v [.release] { recovered := true } s := by
  unfold drain
  split_ifs
  · exact .of_edge (Book.abortLeases_path (Edge.self .release) _ _) (by decide) rfl
  · exact .refl s
  · exact .refl s

lemma step_turn {pc : Pc} {e : Effect Pc Unit} (h : step s deadline pc inp = some e) :
    e.Takes v (edges pc) { recovered := true } s := by
  unfold step at h
  split at h
  · cases h; exact drain_turn
  · cases h; exact drain_turn
  · split_ifs at h
    cases h; exact drain_turn
  · exact .of_bind h fun _ => Recover.step_turn
  · cases h; exact .of_rest rfl rfl
  · cases h

end RecoverAfterUnverifiedLoad

/-! ### Stopping and reclaiming -/

namespace FinishEviction

def edges : Pc → List Edge
  | .stopping _ _ _ => []
  | .writeback _ _ _ _ => [.stop, .failed, .rollback]
  | .cancelled _ _ _ => [.failed, .rollback]

lemma edges_subset (pc : Pc) : edges pc ⊆ [.stop, .failed, .rollback] := by
  cases pc <;> simp [edges]

lemma abandon_turn {edges : List Edge} (hf : .failed ∈ edges) (hr : .rollback ∈ edges)
    (op : Operation) (rest : List Operation) (code : Option String)
    (out : Except Exc (List ModelId)) : (abandon s op rest code out).Takes v edges {} s := by
  have hp := Book.failed_path (Edge.self .failed) s.book op code
  unfold abandon
  split <;> rename_i book heq <;> rw [heq] at hp
  · exact .of_edge hp ⟨by decide, hf⟩ rfl
  · have hq := rollbackPending_path (Edge.self .rollback) book rest
    have ht : Turn v edges {} s { s with book := book } none := .of_edge hp ⟨by decide, hf⟩ rfl
    split <;> rename_i heq' <;> rw [heq'] at hq <;>
      exact ht.trans (.of_edge hq ⟨by decide, hr⟩ rfl)

lemma writeback_turn (stopped : List ModelId) (op : Operation) (rest : List Operation)
    (obs : Option Observation) :
    (writeback s stopped op rest obs).Takes v [.stop, .failed, .rollback] {} s := by
  unfold writeback
  split
  · exact abandon_turn (by decide) (by decide) _ _ _ _
  · split_ifs
    · split <;> exact .of_stopped ‹_› (by decide)
    · exact abandon_turn (by decide) (by decide) _ _ _ _

lemma step_turn {pc : Pc} {e : Effect Pc (List ModelId)} (h : step s pc inp = some e) :
    e.Takes v (edges pc) {} s := by
  unfold step at h
  split at h <;> cases h
  · exact .refl s
  · exact .refl s
  · exact writeback_turn _ _ _ _
  · exact abandon_turn (by simp [edges]) (by simp [edges]) _ _ _ _

end FinishEviction

def RunEviction.edges : RunEviction.Pc → List Edge
  | .running pc => FinishEviction.edges pc
  | .closing _ => []

lemma RunEviction.edges_subset (pc : Pc) : edges pc ⊆ [.stop, .failed, .rollback] := by
  cases pc with
  | running pc => exact FinishEviction.edges_subset pc
  | closing out => simp [edges]

namespace ReclaimFailedModel

variable {m : ModelId}

def edges : Pc → List Edge
  | .begin => [.evict]
  | .stopping pc => FinishEviction.edges pc

lemma begin_turn : (begin s m).Takes v [.evict] {} s := by
  have hp := Book.beginCleanup_path (Edge.self .evict) s.book [m]
  unfold begin
  dsimp only
  split_ifs
  · exact .refl s
  · split <;> rename_i heq <;> rw [heq] at hp <;> exact .of_edge hp (by decide) rfl

lemma step_turn {pc : Pc} {e : Effect Pc Unit} (h : step s m pc inp = some e) :
    e.Takes v (edges pc) {} s := by
  unfold step at h
  split at h
  · cases h; exact begin_turn
  · cases h
  · exact .of_bind h fun _ => FinishEviction.step_turn

end ReclaimFailedModel

/-- A model is begun to be evicted and, where that works, at once written back as stopped. -/
lemma Turn.of_reclaimed {book book' : Book} {op : Operation} {m : ModelId}
    {r : Except Exc (List Operation)} {r' : Except Exc Unit}
    (h : s.book.beginEviction [m] false = (book, r))
    (h' : book.stopped op (some s.now) = (book', r')) :
    Turn v [.evict, .stop] {} s { s with book := book' } none := by
  have hp := Book.beginEviction_path (Edge.self .evict) s.book [m] false
  rw [h] at hp
  have ht : Turn v [.evict, .stop] {} s { s with book := book } none := .of_edge hp (by decide) rfl
  exact ht.trans (.of_stopped h' (by decide))

namespace ReclaimLostRuntime

variable {m : ModelId}

def edges : Pc → List Edge
  | .observe => []
  | .reclaim => [.evict, .stop]

lemma reclaim_turn : (reclaim s m).Takes v [.evict, .stop] {} s := by
  have hp := Book.beginEviction_path (Edge.self .evict) s.book [m] false
  unfold reclaim
  split_ifs
  · exact .refl s
  · split <;> rename_i heq
    · rw [heq] at hp; exact .of_edge hp (by decide) rfl
    · rw [heq] at hp; exact .of_edge hp (by decide) rfl
    · rw [heq] at hp; exact .of_edge hp (by decide) rfl
    · split <;> rename_i heq' <;> exact .of_reclaimed heq heq'

lemma step_turn {pc : Pc} {e : Effect Pc Bool} (h : step s m pc inp = some e) :
    e.Takes v (edges pc) {} s := by
  unfold step at h
  split at h <;> cases h
  · exact .refl s
  · exact reclaim_turn

end ReclaimLostRuntime

namespace ReclaimPhantomResidents

variable {keep : ModelId}

def edges : Pc → List Edge
  | .observe _ _ _ => []
  | .reclaim _ _ _ => [.evict, .stop]

lemma reclaim_turn (m : ModelId) (rest : List ModelId) (reclaimed : Bool) :
    (reclaim s keep m rest reclaimed).Takes v [.evict, .stop] {} s := by
  have hp := Book.beginEviction_path (Edge.self .evict) s.book [m] false
  unfold reclaim
  split_ifs
  · exact .refl s
  · split <;> rename_i heq
    · exact .refl s
    · rw [heq] at hp; exact .of_edge hp (by decide) rfl
    · rw [heq] at hp; exact .of_edge hp (by decide) rfl
    · split <;> rename_i heq' <;> exact .of_reclaimed heq heq'

lemma step_turn {pc : Pc} {e : Effect Pc Bool} (h : step s keep pc inp = some e) :
    e.Takes v (edges pc) {} s := by
  unfold step at h
  split at h <;> cases h
  · exact .refl s
  · exact reclaim_turn _ _ _

end ReclaimPhantomResidents

/-! ### Preloading -/

namespace PreloadOne

variable {m : ModelId}

def edges : Pc → List Edge
  | .reclaimFailed _ pc => ReclaimFailedModel.edges pc
  | .verify _ pc => ReclaimLostRuntime.edges pc
  | .load _ _ _ => [.load]
  | .phantom _ _ pc => ReclaimPhantomResidents.edges pc
  | .evict _ _ => [.evict]
  | _ => []

lemma edges_subset (pc : Pc) : edges pc ⊆ [.load, .evict, .stop, .failed, .rollback] := by
  cases pc with
  | reclaimFailed lh p =>
    cases p with
    | begin => simp [edges, ReclaimFailedModel.edges]
    | stopping p => exact List.Subset.trans (FinishEviction.edges_subset p) (by simp)
  | verify lh p => cases p <;> simp [edges, ReclaimLostRuntime.edges]
  | phantom lh sample p => cases p <;> simp [edges, ReclaimPhantomResidents.edges]
  | _ => simp [edges]

/-- The load section begins a load rather than reclaim phantoms. -/
def beginsLoad (s : Scheduler) (m : ModelId) (sample : MemorySample) (admitted : Bool) : Bool :=
  (admitted = true ∧ clear s m = true) ∧ s.book.canLoad m sample s.now = true

def footprint (s : Scheduler) (m : ModelId) : Pc → Footprint
  | .load _ sample admitted => { load := if beginsLoad s m sample admitted then some m else none }
  | _ => {}

/-- Preloading moves no session, whatever it is at. -/
lemma footprint_sessions (pc : Pc) : (footprint s m pc).sessions = false := by
  cases pc <;> rfl

lemma footprint_worker (pc : Pc) : (footprint s m pc).worker = false := by
  cases pc <;> rfl

/-- It begins a load at most. -/
lemma footprint_rest (pc : Pc) : (footprint s m pc).shutdown = false ∧
    (footprint s m pc).enqueue = none ∧ (footprint s m pc).grant = false := by
  cases pc <;> exact ⟨rfl, rfl, rfl⟩

lemma clear_free (h : clear s m = true) : s.eviction = none := by
  simp only [clear, Bool.and_eq_true, Option.isNone_iff_eq_none] at h
  exact h.2

lemma check_turn (loadedHere : Bool) : (check s m loadedHere).Takes v [] {} s := by
  unfold check
  split
  · exact .refl s
  · split
    · dsimp only
      split <;> exact .of_rest rfl rfl
    · split <;> exact .refl s
    · exact .refl s

lemma load_turn (loadedHere : Bool) (sample : MemorySample) (admitted : Bool) :
    (load s v m deadline loadedHere sample admitted).Takes v [.load]
      { load := if beginsLoad s m sample admitted then some m else none } s := by
  by_cases hload : beginsLoad s m sample admitted = true
  · rw [if_pos hload]
    simp only [beginsLoad, decide_eq_true_eq] at hload
    rw [load, if_pos hload.1, if_pos hload.2]
    split
    · exact .of_load ‹_› _ (by decide) (.load _ _ rfl)
    · exact .of_load ‹_› _ (by decide) (.none rfl)
  · rw [if_neg hload, load]
    split_ifs with hadm hcan
    · exact absurd (by simp [beginsLoad, hadm, hcan]) hload
    · exact .refl s
    · exact .refl s

lemma evict_turn (loadedHere : Bool) (sample : MemorySample) :
    (evict s v m deadline loadedHere sample).Takes v [.evict] {} s := by
  unfold evict
  split_ifs with hclear
  · split
    · exact .refl s
    · exact .refl s
    · rename_i candidates _ _
      have hp := Book.beginEviction_path (Edge.self .evict) s.book (candidates.map (·.modelId)) true
      split <;> rename_i heq
      · rw [heq] at hp
        exact .of_edge hp (by decide) rfl
      · exact Scheduler.startEviction_turn (clear_free hclear) heq (by decide) (by rfl) _
  · exact .refl s

lemma step_turn {pc : Pc} {e : Effect Pc Unit} (h : step s v m deadline pc inp = some e) :
    e.Takes v (edges pc) (footprint s m pc) s := by
  unfold step at h
  split at h
  · cases h; exact check_turn _
  · exact .of_bind h fun _ => ReclaimFailedModel.step_turn
  · exact .of_bind h fun _ => ReclaimLostRuntime.step_turn
  · cases h; exact .refl s
  · cases h; exact .refl s
  · cases h; exact .refl s
  · cases h; exact load_turn _ _ _
  · exact .of_bind h fun _ => ReclaimPhantomResidents.step_turn
  · cases h; exact evict_turn _ _
  · cases h; exact .refl s
  · cases h; exact .refl s
  · split_ifs at h <;> cases h <;> exact .refl s
  · cases h

end PreloadOne

namespace Preload

def footprint (s : Scheduler) (p : Pc) : Footprint := PreloadOne.footprint s p.model p.pc

lemma step_turn {p : Pc} {e : Effect Pc (List ModelId)} (h : step s v deadline p inp = some e) :
    e.Takes v (PreloadOne.edges p.pc) (footprint s p) s :=
  .of_bind h fun _ => PreloadOne.step_turn

end Preload

/-! ### The session worker -/

namespace StopModels

variable {models : List ModelId}

def edges : Pc → List Edge
  | .begin => [.evict]
  | _ => []

lemma begin_turn : (begin s v models deadline).Takes v [.evict] {} s := by
  unfold begin
  split
  · exact .refl s
  · split
    · exact .refl s
    · have hp := Book.beginCleanup_path (Edge.self .evict) s.book (targets s models)
      split <;> rename_i heq
      · rw [heq] at hp
        exact .of_edge hp (by decide) rfl
      · exact Scheduler.startCleanup_turn ‹_› heq (by decide) (by rfl) _

lemma step_turn {pc : Pc} {e : Effect Pc Bool} (h : step s v models deadline pc inp = some e) :
    e.Takes v (edges pc) {} s := by
  unfold step at h
  split at h
  · cases h; exact begin_turn
  · obtain ⟨r, -, rfl⟩ := Option.map_eq_some_iff.mp h
    exact .refl s
  · cases h; exact .refl s
  · cases h

end StopModels

/-- The wait loops change nothing at all. -/
lemma WaitPc.step_turn {drained : Bool} {pc : WaitPc} {e : Effect WaitPc Bool}
    (h : WaitPc.step s drained deadline pc inp = some e) : e.next = s ∧ e.spawn = none := by
  unfold WaitPc.step at h
  split at h
  · cases h
    unfold WaitPc.round
    split_ifs <;> exact ⟨rfl, rfl⟩
  · cases h; exact ⟨rfl, rfl⟩
  · split_ifs at h
    cases h; exact ⟨rfl, rfl⟩
  · cases h

lemma waitForSessionLeases_turn {session : SessionId} {pc : WaitPc} {e : Effect WaitPc Bool}
    (h : waitForSessionLeases s session deadline pc inp = some e) :
    e.next = s ∧ e.spawn = none := by
  unfold waitForSessionLeases at h
  cases hr : s.sessions.records.get? session with
  | some record =>
    rw [hr] at h
    exact WaitPc.step_turn h
  | none =>
    rw [hr] at h
    dsimp only at h
    split at h
    · cases h; exact ⟨rfl, rfl⟩
    · exact WaitPc.step_turn h

lemma Turn.of_wait {α ρ : Type} {e : Effect α ρ} {edges : List Edge}
    (h : e.next = s ∧ e.spawn = none) : e.Takes v edges fp s := by
  rw [Effect.Takes, h.1, h.2]
  exact .refl s

namespace ExpireSession

variable {session : SessionId}

def footprint : Pc → Footprint
  | .begin => { sessions := true }
  | .hook => {}

lemma begin_turn : (begin s session).Takes v [] { sessions := true } s := by
  unfold begin
  split
  · exact .refl s
  · split_ifs
    · have hq : Turn v [] { sessions := true } s
          { s with queue := (s.queue.remove session .expired).1 } none := .remove session .expired
      dsimp only
      split
      · exact hq
      · rename_i sessions heq
        refine hq.trans (.trans (.of_sessions rfl ?_) (Scheduler.releaseSessionFreeze_turn _ _))
        exact SessionManager.markClosed_policy heq
    · split
      · exact .refl s
      · rename_i sessions heq
        have ht : Turn v [] { sessions := true } s { s with sessions := sessions } none :=
          .of_sessions rfl (SessionManager.beginDrain_policy heq)
        dsimp only
        split_ifs <;> exact ht

lemma step_turn {pc : Pc} {e : Effect Pc Unit} (h : step s session pc inp = some e) :
    e.Takes v [] (footprint pc) s := by
  unfold step at h
  split at h <;> cases h
  · exact begin_turn
  · exact .refl s

end ExpireSession

namespace PrepareSession

variable {session : SessionId}

def edges : Pc → List Edge
  | .stopping _ _ _ (.stopping _ pc) => StopModels.edges pc
  | .preloading _ _ pc => PreloadOne.edges pc
  | .stoppingLate _ _ pc => StopModels.edges pc
  | _ => []

def footprint (s : Scheduler) : Pc → Footprint
  | .yielding | .blocking | .activate | .closeLate => { sessions := true }
  | .preloading model _ pc => PreloadOne.footprint s model pc
  | _ => {}

lemma yielding_turn : (yielding s session).Takes v [] { sessions := true } s := by
  unfold yielding
  split
  · exact .refl s
  · rename_i sessions heq
    obtain ⟨_, -, hu⟩ := SessionManager.yieldPrepare_ok heq
    exact .trans (.of_sessions rfl hu.policy) (Scheduler.releaseSessionFreeze_turn _ _)

lemma blocking_turn : (blocking s session).Takes v [] { sessions := true } s := by
  unfold blocking
  split
  · exact .refl s
  · rename_i sessions heq
    obtain ⟨_, -, hu⟩ := SessionManager.markBlocked_ok heq
    exact .of_sessions rfl hu.policy

lemma activate_turn : (activate s session).Takes v [] { sessions := true } s := by
  unfold activate
  split
  · exact .refl s
  · split_ifs
    · split
      · exact .refl s
      · rename_i sessions heq
        obtain ⟨_, -, hu⟩ := SessionManager.markActive_ok heq
        exact .trans (.remove session .granted) (.of_sessions rfl hu.policy)
    · exact .refl s

lemma closeLate_turn : (closeLate s session).Takes v [] { sessions := true } s := by
  unfold closeLate
  split
  · exact .refl s
  · rename_i sessions heq
    exact .trans (.of_sessions rfl (SessionManager.markClosed_policy heq))
      (Scheduler.releaseSessionFreeze_turn _ _)

lemma begin_turn : (begin s session).Takes v [] {} s := by
  unfold begin
  split
  · exact .refl s
  · split_ifs
    · exact .refl s
    · exact .of_rest rfl rfl

lemma stopping_turn {keep : ModelId} {p : StopOtherModels.Pc} {e : Effect StopOtherModels.Pc Unit}
    (h : StopOtherModels.step s v keep deadline p inp = some e) (m : ModelId)
    (prepareDeadline : Time) : e.Takes v (edges (.stopping m prepareDeadline deadline p)) {} s := by
  unfold StopOtherModels.step at h
  split at h
  · cases h
    unfold StopOtherModels.list
    split <;> exact .refl s
  · cases h
  · exact .of_bind h fun _ => StopModels.step_turn

lemma step_turn {pc : Pc} {e : Effect Pc Unit} (h : step s v session pc inp = some e) :
    e.Takes v (edges pc) (footprint s pc) s := by
  unfold step at h
  split at h
  · cases h; exact begin_turn
  · exact .of_bind h fun _ he' => .of_wait (WaitPc.step_turn he')
  · cases h; exact yielding_turn
  · exact .of_bind h fun _ he' => stopping_turn he' _ _
  · exact .of_bind h fun _ => PreloadOne.step_turn
  · cases h; exact blocking_turn
  · cases h; exact activate_turn
  · exact .of_bind h fun _ => StopModels.step_turn
  · cases h; exact closeLate_turn
  · cases h

end PrepareSession

namespace DrainSession

variable {session : SessionId}

def edges : Pc → List Edge
  | .stopping _ _ pc => StopModels.edges pc
  | _ => []

def footprint : Pc → Footprint
  | .finish _ => { sessions := true }
  | _ => {}

lemma finish_turn (confirmed : Bool) :
    (finish s session confirmed).Takes v [] { sessions := true } s := by
  unfold finish
  split_ifs
  · split
    · exact .refl s
    · rename_i sessions heq
      exact .trans (.of_sessions rfl (SessionManager.markClosed_policy heq))
        (Scheduler.releaseSessionFreeze_turn _ _)
  · split
    · exact .refl s
    · rename_i sessions heq
      obtain ⟨_, -, hu⟩ := SessionManager.markBlocked_ok heq
      exact .of_sessions rfl hu.policy

lemma step_turn {pc : Pc} {e : Effect Pc Unit} (h : step s v session pc inp = some e) :
    e.Takes v (edges pc) (footprint pc) s := by
  unfold step at h
  split at h
  · cases h
    unfold begin
    split <;> exact .refl s
  · exact .of_bind h fun _ he' => .of_wait (waitForSessionLeases_turn he')
  · exact .of_bind h fun _ => StopModels.step_turn
  · cases h; exact finish_turn _
  · cases h

end DrainSession

namespace SessionLifecycle

def edges : Pc → List Edge
  | .preparing _ pc => PrepareSession.edges pc
  | .draining _ pc => DrainSession.edges pc
  | _ => []

lemma edges_subset (pc : Pc) : edges pc ⊆ [.load, .evict, .stop, .failed, .rollback] := by
  have hstop : ∀ p, StopModels.edges p ⊆ [.load, .evict, .stop, .failed, .rollback] := by
    intro p
    cases p <;> simp [StopModels.edges]
  cases pc with
  | preparing session p =>
    cases p with
    | stopping m prepareDeadline deadline p =>
      cases p with
      | list => simp [edges, PrepareSession.edges]
      | stopping models p => exact hstop p
    | preloading m deadline p => exact PreloadOne.edges_subset p
    | stoppingLate m deadline p => exact hstop p
    | _ => simp [edges, PrepareSession.edges]
  | draining session p =>
    cases p with
    | stopping m deadline p => exact hstop p
    | _ => simp [edges, DrainSession.edges]
  | _ => simp [edges]

def footprint (s : Scheduler) : Pc → Footprint
  | .expiring _ pc => ExpireSession.footprint pc
  | .preparing _ pc => PrepareSession.footprint s pc
  | .draining _ pc => DrainSession.footprint pc
  | .closing _ => { worker := true }
  | _ => {}

/-- The worker grants no lease and files no waiter. -/
lemma footprint_rest (pc : Pc) : (footprint s pc).shutdown = false ∧
    (footprint s pc).enqueue = none ∧ (footprint s pc).grant = false := by
  cases pc with
  | expiring session p | draining session p => cases p <;> exact ⟨rfl, rfl, rfl⟩
  | preparing session p =>
    cases p with
    | preloading m deadline q => exact PreloadOne.footprint_rest q
    | _ => exact ⟨rfl, rfl, rfl⟩
  | _ => exact ⟨rfl, rfl, rfl⟩

/-- Planning drops waiters at most. -/
lemma plan_turn : (plan s).Takes v [] {} s := by
  refine .of_queue ?_
  simp only [nextSessionPlan]
  split
  · split_ifs
    · exact .remove _ _ .expired
    · exact .refl _
  · split
    · exact .refl _
    · split <;> rename_i heq <;> have hq := congrArg Prod.fst heq <;>
        rw [RequestQueue.head_fst] at hq <;> subst hq <;> exact .expire _ _

lemma step_turn {pc : Pc} {e : Effect Pc Unit} (h : step s v pc inp = some e) :
    e.Takes v (edges pc) (footprint s pc) s := by
  unfold step at h
  split at h
  · cases h; exact plan_turn
  · cases h; exact .refl s
  · cases h; exact .refl s
  · split_ifs at h
    cases h; exact .refl s
  · exact .of_bind h fun _ => ExpireSession.step_turn
  · exact .of_bind h fun _ => PrepareSession.step_turn
  · exact .of_bind h fun _ => DrainSession.step_turn
  · cases h
    exact ⟨{ Within.refl s with worker := nofun }, .refl _, .none rfl⟩
  · cases h

end SessionLifecycle

/-! ### The public calls -/

lemma Release.step_turn {a : Release.Args} {e : Effect Unit Unit}
    (h : Release.step s a inp = some e) : e.Takes v [.release] {} s := by
  have hp := Book.release_path (Edge.self .release) s.book a.lease a.outcome s.now a.tokens
  unfold Release.step at h
  split at h
  · split at h <;> rename_i heq <;> rw [heq] at hp <;> cases h
    · exact .of_edge hp (by decide) rfl
    · refine .trans ?_ (Scheduler.forgetSessionLease_turn _ _)
      exact .of_edge hp (by decide) rfl
  · cases h

lemma CancelLease.step_turn {lease : Lease} {e : Effect Unit Bool}
    (h : CancelLease.step s lease inp = some e) : e.Takes v [.cancel] {} s := by
  have hp := Book.beginCancel_path (Edge.self .cancel) s.book lease
  unfold CancelLease.step at h
  split at h
  · split at h <;> rename_i heq <;> rw [heq] at hp <;> cases h <;>
      exact .of_edge hp (by decide) rfl
  · cases h

/-- A call that starts a batch at its first step and awaits it. -/
def StopPc.edges (begins : List Edge) : StopPc → List Edge
  | .begin => begins
  | .awaiting _ => []

/-- Awaiting a batch changes nothing. -/
lemma Turn.of_awaiting {α ρ : Type} {t : TaskId} {f : Except Exc (List ModelId) → Ctl α ρ}
    {e : Effect α ρ} {edges : List Edge}
    (h : (v.batch t).map (fun r => ({ next := s, ctl := f r } : Effect α ρ)) = some e) :
    e.Takes v edges fp s := by
  obtain ⟨r, -, rfl⟩ := Option.map_eq_some_iff.mp h
  exact .refl s

namespace Unload

variable {m : ModelId}

lemma begin_turn : (begin s v m deadline).Takes v [.evict] {} s := by
  have hp := Book.beginEviction_path (Edge.self .evict) s.book [m] false
  unfold begin
  dsimp only
  split_ifs with h₁ h₂ h₃ hbusy
  · exact .refl s
  · exact .refl s
  · exact .refl s
  · exact .refl s
  · have hfree : s.eviction = none := by
      simp only [not_or, Bool.not_eq_true, Option.isSome_eq_false_iff,
        Option.isNone_iff_eq_none] at hbusy
      exact hbusy.1
    split <;> rename_i heq
    · rw [heq] at hp
      exact .of_edge hp (by decide) rfl
    · exact Scheduler.startEviction_turn hfree heq (by decide) (by rfl) _

lemma step_turn {pc : StopPc} {e : Effect StopPc Unit} (h : step s v m deadline pc inp = some e) :
    e.Takes v (pc.edges [.evict]) {} s := by
  unfold step at h
  split at h
  · cases h; exact begin_turn
  · exact .of_awaiting h
  · cases h

end Unload

namespace SweepTtl

variable {asOf deadline : Time}

lemma begin_turn : (begin s v asOf deadline).Takes v [.evict] {} s := by
  have hp := Book.beginEviction_path (Edge.self .evict) s.book (due s asOf) true
  unfold begin
  split_ifs with hbusy
  · exact .refl s
  · split
    · exact .refl s
    · split <;> rename_i heq
      · rw [heq] at hp
        exact .of_edge hp (by decide) rfl
      · exact Scheduler.startEviction_turn (by simpa using hbusy) heq (by decide) (by rfl) _

lemma step_turn {pc : StopPc} {e : Effect StopPc (List ModelId)}
    (h : step s v asOf deadline pc inp = some e) : e.Takes v (pc.edges [.evict]) {} s := by
  unfold step at h
  split at h
  · cases h; exact begin_turn
  · exact .of_awaiting h
  · cases h

end SweepTtl

/-- Every lease is aborted before everything is stopped. -/
lemma Turn.of_abort {edges : List Edge} {s₀ s' : Scheduler} {sp : Option Spawn}
    (h : Turn v edges {} s₀ s' sp) (hs : s₀ = { s with
      storageUnavailable := s₀.storageUnavailable
      queue := s₀.queue
      book := s.book.abortLeases s.now })
    (hq : RequestQueue.Moves none s.queue s₀.queue) (hr : .release ∈ edges) :
    Turn v edges {} s s' sp := by
  have hp := Book.abortLeases_path (Edge.self .release) s.book s.now
  have ht : Turn v edges {} s { s with book := s.book.abortLeases s.now } none :=
    .of_edge hp ⟨by decide, hr⟩ rfl
  have ht₀ : Turn v edges {} s s₀ none := by
    rw [hs]
    exact ⟨{ ht.within with queue := hq }, ht.path, .none rfl⟩
  refine ht₀.trans_light h (by rw [hs]) ?_
  rw [hs]
  refine hp.mono ?_
  rintro _ rfl
  exact .inl rfl

namespace Shutdown

def edges : Pc → List Edge
  | .drain | .draining _ => [.release, .evict]
  | _ => []

def footprint : Pc → Footprint
  | .begin => { sessions := true, shutdown := true }
  | _ => {}

lemma drainOne_turn (hfp : fp.sessions = true) (s : Scheduler)
    (session : SessionId) : Turn v [] fp s (drainOne s session) none := by
  unfold drainOne
  split
  · exact .refl s
  · rename_i sessions heq
    exact .trans (.of_sessions hfp (SessionManager.beginDrain_policy heq))
      (Scheduler.releaseSessionFreeze_turn _ _)

lemma drainAll_turn (hfp : fp.sessions = true) (sessions : List SessionId)
    (s : Scheduler) : Turn v [] fp s (sessions.foldl drainOne s) none := by
  induction sessions generalizing s with
  | nil => exact .refl s
  | cons session sessions ih => exact (drainOne_turn hfp s session).trans (ih _)

lemma begin_turn : (begin s).Takes v [] { sessions := true, shutdown := true } s := by
  have hq : Turn v [] { sessions := true, shutdown := true } s
      { s with shuttingDown := true, queue := s.queue.clear } none :=
    ⟨{ Within.refl s with queue := .clear _, shutdown := nofun }, .refl _, .none rfl⟩
  exact hq.trans (drainAll_turn rfl _ _)

lemma stop_turn : (stop s v deadline).Takes v [.release, .evict] {} s :=
  .of_abort (Scheduler.stopAll_turn (by decide) _ _) rfl (.refl _) (by decide)

lemma drain_turn : (drain s v deadline).Takes v [.release, .evict] {} s := by
  unfold drain
  split_ifs
  · exact .refl s
  · exact stop_turn

lemma step_turn {pc : Pc} {e : Effect Pc (List ModelId)} (h : step s v deadline pc inp = some e) :
    e.Takes v (edges pc) (footprint pc) s := by
  unfold step at h
  split at h
  · cases h; exact begin_turn
  · cases h; exact .refl s
  · cases h; exact drain_turn
  · cases h; exact drain_turn
  · split_ifs at h
    cases h; exact stop_turn
  · exact .of_awaiting h
  · cases h

end Shutdown

namespace StorageLost

lemma begin_turn : (begin s v deadline).Takes v [.release, .evict] {} s := by
  unfold begin
  split_ifs
  · exact .refl s
  · exact .of_abort (Scheduler.stopAll_turn (by decide) _ _) rfl (.clear _) (by decide)

lemma step_turn {pc : StopPc} {e : Effect StopPc (List ModelId)}
    (h : step s v deadline pc inp = some e) : e.Takes v (pc.edges [.release, .evict]) {} s := by
  unfold step at h
  split at h
  · cases h; exact begin_turn
  · exact .of_awaiting h
  · cases h

end StorageLost

namespace StorageRecovered

def edges : Pc → List Edge
  | .recovering pc => Recover.edges pc
  | .preloading p => PreloadOne.edges p.pc
  | _ => []

def footprint (s : Scheduler) : Pc → Footprint
  | .preloading pc => Preload.footprint s pc
  | .recovering _ => { recovered := true }
  | _ => {}

lemma step_turn {pc : Pc} {e : Effect Pc (List ModelId)}
    (h : step s v deadline pc inp = some e) : e.Takes v (edges pc) (footprint s pc) s := by
  unfold step at h
  split at h
  · cases h
    split_ifs <;> exact .refl s
  · cases h
    unfold check
    split_ifs <;> exact .refl s
  · exact .of_bind h fun _ => Recover.step_turn
  · cases h; exact .of_rest rfl rfl
  · exact .of_bind h fun _ => Preload.step_turn
  · cases h

end StorageRecovered

def MonitorStorageOnce.edges : MonitorStorageOnce.Pc → List Edge
  | .admission => []
  | .losing pc => pc.edges [.release, .evict]

lemma MonitorStorageOnce.step_turn {pc : Pc} {e : Effect Pc Bool}
    (h : step s v deadline pc inp = some e) : e.Takes v (edges pc) {} s := by
  unfold step at h
  split at h
  · cases h
    split_ifs <;> exact .refl s
  · exact .of_bind h fun _ => StorageLost.step_turn
  · cases h

namespace RegisterSession

variable {a : SessionArgs}

def footprint (a : SessionArgs) : Footprint :=
  { enqueue := some a.sessionId, sessions := true, worker := true }

lemma begin_turn {α : Type} (k : Ctl α Unit) : (begin s v a k).Takes v [] (footprint a) s := by
  unfold begin
  split
  · exact .refl s
  · have hq : ∀ q r, s.sessions.create a.sessionId a.modelId a.clientId s.now s.queue a.priority
        a.hardDeadlineSeconds = (q, r) → Turn v [] (footprint a) s { s with queue := q } none := by
      intro q r heq
      exact .of_queue (SessionManager.create_moves heq)
    split <;> rename_i heq <;> have ht := hq _ _ heq
    · exact ht
    · obtain ⟨_, -, -, -, -, -, -, -, -, hp⟩ := SessionManager.create_ok heq
      refine .trans_light (ht.trans (.of_sessions rfl hp))
        (Scheduler.ensureSessionWorker_turn _ v rfl) rfl ?_
      exact .refl _

lemma step_turn {e : Effect Unit Unit} (h : step s v a inp = some e) :
    e.Takes v [] (footprint a) s := by
  unfold step at h
  split at h <;> cases h
  exact begin_turn _

end RegisterSession

namespace OpenSession

variable {a : SessionArgs} {deadline : Option Time}

def footprint (a : SessionArgs) : Pc → Footprint
  | .register => RegisterSession.footprint a
  | _ => {}

lemma step_turn {pc : Pc} {e : Effect Pc Unit} (h : step s v a deadline pc inp = some e) :
    e.Takes v [] (footprint a pc) s := by
  unfold step at h
  split at h
  · cases h; exact RegisterSession.begin_turn _
  · cases h
    unfold fetch
    split <;> exact .refl s
  · cases h
    unfold poll
    split
    · exact .refl s
    · dsimp only
      split_ifs <;> exact .refl s
  · cases h; exact .refl s
  · split_ifs at h
    cases h; exact .refl s
  · cases h

end OpenSession

lemma HeartbeatSession.step_turn {session : SessionId} {e : Effect Unit Unit}
    (h : HeartbeatSession.step s session inp = some e) :
    e.Takes v [] { sessions := true } s := by
  unfold HeartbeatSession.step at h
  split at h
  · split at h <;> rename_i heq <;> cases h
    · exact .refl s
    · obtain ⟨_, -, hu⟩ := SessionManager.heartbeat_ok heq
      exact .of_sessions rfl hu.policy
  · cases h

namespace CloseSession

variable {session : SessionId} {reason : String} {deadline : Option Time}

def footprint : Pc → Footprint
  | .begin => { sessions := true, worker := true }
  | _ => {}

lemma begin_turn :
    (begin s v session reason).Takes v [] { sessions := true, worker := true } s := by
  unfold begin
  split
  · exact .refl s
  · split
    · exact .refl s
    · split
      · exact .refl s
      · rename_i sessions heq
        have ht : Turn v [] { sessions := true, worker := true } s
            { s with sessions := sessions, queue := (s.queue.remove session).1 } none :=
          .trans (.remove session .cancelled)
            (.of_sessions rfl (SessionManager.beginDrain_policy heq))
        exact ht.trans_light (Scheduler.ensureSessionWorker_turn _ v rfl) rfl (.refl _)

lemma step_turn {pc : Pc} {e : Effect Pc Unit}
    (h : step s v session reason deadline pc inp = some e) : e.Takes v [] (footprint pc) s := by
  unfold step at h
  split at h
  · cases h; exact begin_turn
  · cases h; exact .refl s
  · cases h
    unfold poll
    split
    · exact .refl s
    · split_ifs <;> exact .refl s
  · cases h; exact .refl s
  · split_ifs at h
    cases h; exact .refl s
  · cases h

end CloseSession

/-! ### Every coroutine -/

/-- The edges the next step of a coroutine may take. -/
def Co.edges : Co → List Edge
  | .acquire _ pc => Acquire.edges pc
  | .finishLoad _ _ pc => FinishLoad.edges pc
  | .recoverAfterUnverifiedLoad _ pc => RecoverAfterUnverifiedLoad.edges pc
  | .runEviction pc => RunEviction.edges pc
  | .sessionLifecycle pc => SessionLifecycle.edges pc
  | .recover pc => Recover.edges pc
  | .warm _ _ pc => PreloadOne.edges pc
  | .preload _ p => PreloadOne.edges p.pc
  | .unload _ _ pc => pc.edges [.evict]
  | .sweepTtl _ _ pc => pc.edges [.evict]
  | .shutdown _ pc => Shutdown.edges pc
  | .storageLost _ pc => pc.edges [.release, .evict]
  | .storageRecovered _ pc => StorageRecovered.edges pc
  | .monitorStorageOnce _ pc => MonitorStorageOnce.edges pc
  | .release _ => [.release]
  | .cancel _ => [.cancel]
  | _ => []

/-- The parts of the scheduler the next step of a coroutine may touch. -/
def Co.footprint (s : Scheduler) : Co → Footprint
  | .acquire c pc => Acquire.footprint s c pc
  | .finishLoad _ _ _ => { cold := true }
  | .recoverAfterUnverifiedLoad _ _ | .recover _ => { recovered := true }
  | .sessionLifecycle pc => SessionLifecycle.footprint s pc
  | .warm m _ pc => PreloadOne.footprint s m pc
  | .preload _ pc => Preload.footprint s pc
  | .shutdown _ pc => Shutdown.footprint pc
  | .storageRecovered _ pc => StorageRecovered.footprint s pc
  | .registerSession a => RegisterSession.footprint a
  | .openSession a _ pc => OpenSession.footprint a pc
  | .heartbeatSession _ => { sessions := true }
  | .closeSession _ _ _ pc => CloseSession.footprint pc
  | _ => {}

/-- The coroutine is at a recovery. -/
def Co.recovers : Co → Bool
  | .recoverAfterUnverifiedLoad _ _ | .recover _ | .storageRecovered _ (.recovering _) => true
  | _ => false

/-- Only a load's own task touches the rate of cold loads, and only a recovery takes models to
`UNLOADED` without a stamp. -/
lemma Co.footprint_rare (co : Co) :
    ((∀ op deadline pc, co ≠ .finishLoad op deadline pc) → (co.footprint s).cold = false) ∧
      (co.recovers = false → (co.footprint s).recovered = false) := by
  have hone : ∀ m pc, (PreloadOne.footprint s m pc).cold = false ∧
      (PreloadOne.footprint s m pc).recovered = false := by
    intro m pc
    cases pc <;> exact ⟨rfl, rfl⟩
  have hrare : ∀ {fp : Footprint} {p q : Prop}, fp.cold = false ∧ fp.recovered = false →
      (p → fp.cold = false) ∧ (q → fp.recovered = false) :=
    fun h => ⟨fun _ => h.1, fun _ => h.2⟩
  cases co with
  | finishLoad op deadline pc => exact ⟨fun h => absurd rfl (h op deadline pc), fun _ => rfl⟩
  | recoverAfterUnverifiedLoad | recover => exact ⟨fun _ => rfl, nofun⟩
  | acquire c pc => cases pc <;> exact hrare ⟨rfl, rfl⟩
  | warm m deadline pc | preload deadline pc => exact hrare (hone _ _)
  | storageRecovered deadline pc =>
    cases pc with
    | recovering pc => exact ⟨fun _ => rfl, nofun⟩
    | preloading pc => exact hrare (hone _ _)
    | _ => exact hrare ⟨rfl, rfl⟩
  | sessionLifecycle pc =>
    cases pc with
    | expiring session pc | draining session pc => cases pc <;> exact hrare ⟨rfl, rfl⟩
    | preparing session pc =>
      cases pc with
      | preloading m deadline pc => exact hrare (hone _ _)
      | _ => exact hrare ⟨rfl, rfl⟩
    | _ => exact hrare ⟨rfl, rfl⟩
  | shutdown deadline pc | openSession a deadline pc | closeSession session reason deadline pc =>
    cases pc <;> exact hrare ⟨rfl, rfl⟩
  | _ => exact hrare ⟨rfl, rfl⟩

/-- **Every turn of every coroutine**, but for the end of a stop batch, which frees the slot. -/
theorem Co.step_turn {co : Co} (h : co.step s v inp = some e)
    (hco : ∀ out, co ≠ .runEviction (.closing out)) :
    e.Takes v co.edges (co.footprint s) s := by
  cases co <;> obtain ⟨e', he', rfl⟩ := Option.map_eq_some_iff.mp h
  case acquire => exact Acquire.step_turn he'
  case finishLoad pc =>
    have ht := FinishLoad.step_turn he'
    cases pc with
    | verdict obs => exact ht
    | _ => exact .mono ht (List.Subset.refl _)
  case recoverAfterUnverifiedLoad => exact RecoverAfterUnverifiedLoad.step_turn he'
  case runEviction pc =>
    cases pc with
    | running pc =>
      obtain ⟨e'', he'', rfl⟩ := Option.map_eq_some_iff.mp he'
      exact FinishEviction.step_turn he''
    | closing out => exact absurd rfl (hco out)
  case sessionLifecycle => exact SessionLifecycle.step_turn he'
  case recover => exact Recover.step_turn he'
  case warm => exact PreloadOne.step_turn he'
  case preload => exact Preload.step_turn he'
  case unload => exact Unload.step_turn he'
  case sweepTtl => exact SweepTtl.step_turn he'
  case shutdown => exact Shutdown.step_turn he'
  case storageLost => exact StorageLost.step_turn he'
  case storageRecovered => exact StorageRecovered.step_turn he'
  case monitorStorageOnce => exact MonitorStorageOnce.step_turn he'
  case release => exact Release.step_turn he'
  case cancel => exact CancelLease.step_turn he'
  case registerSession => exact RegisterSession.step_turn he'
  case openSession => exact OpenSession.step_turn he'
  case heartbeatSession => exact HeartbeatSession.step_turn he'
  case closeSession => exact CloseSession.step_turn he'

/-- The end of a stop batch only frees the slot. -/
lemma Co.step_closing {out : Except Exc (List ModelId)}
    (h : (Co.runEviction (.closing out)).step s v inp = some e) :
    e.next = { s with eviction := none } ∧ e.spawn = none := by
  obtain ⟨e', he', rfl⟩ := Option.map_eq_some_iff.mp h
  cases inp <;> cases he'
  exact ⟨rfl, rfl⟩

/-- **A step changes at most what the footprint of its coroutine says.** -/
theorem Co.step_within {co : Co} (h : co.step s v inp = some e) :
    Within (co.footprint s) s e.next := by
  by_cases hco : ∃ out, co = .runEviction (.closing out)
  · obtain ⟨out, rfl⟩ := hco
    rw [(step_closing h).1]
    exact { Within.refl s with }
  · exact (step_turn h fun out ho => hco ⟨out, ho⟩).within

/-- **A step moves the book along the edges of its coroutine only.** -/
theorem Co.step_path {co : Co} (h : co.step s v inp = some e) :
    Book.PathIn co.edges s.book e.next.book := by
  by_cases hco : ∃ out, co = .runEviction (.closing out)
  · obtain ⟨out, rfl⟩ := hco
    rw [(step_closing h).1]
    exact .refl _
  · exact (step_turn h fun out ho => hco ⟨out, ho⟩).path

/-- The end of a stop batch starts nothing, so every started task is one of these. -/
lemma Co.spawned_of_spawn {co : Co} {sp : Spawn} (h : co.step s v inp = some e)
    (hsp : e.spawn = some sp) : Spawned v s e.next (some sp) := by
  rw [← hsp]
  refine (step_turn h ?_).spawned
  rintro out rfl
  rw [(step_closing h).2] at hsp
  cases hsp

lemma Shutdown.begin_shuttingDown : (begin s).next.shuttingDown = true := by
  have ht : Turn default [] { sessions := true }
      { s with shuttingDown := true, queue := s.queue.clear } (begin s).next none :=
    drainAll_turn rfl _ _
  exact ht.within.shutdown rfl

/-- Only a shutdown sets `_shutting_down`, and nothing clears it. -/
lemma Co.step_shuttingDown {co : Co} (h : co.step s v inp = some e) :
    (e.next.shuttingDown = true ∧ ∃ deadline, co = .shutdown deadline .begin) ∨
      (e.next.shuttingDown = s.shuttingDown ∧ ∀ deadline, co ≠ .shutdown deadline .begin) := by
  have hw := Co.step_within h
  have hother : (co.footprint s).shutdown = false → (∀ deadline, co ≠ .shutdown deadline .begin) →
      (e.next.shuttingDown = true ∧ ∃ deadline, co = .shutdown deadline .begin) ∨
      (e.next.shuttingDown = s.shuttingDown ∧ ∀ deadline, co ≠ .shutdown deadline .begin) :=
    fun hfp hco => .inr ⟨hw.shutdown hfp, hco⟩
  cases co with
  | shutdown deadline pc =>
    cases pc with
    | begin =>
      obtain ⟨e', he', rfl⟩ := Option.map_eq_some_iff.mp h
      cases inp <;> cases he'
      exact .inl ⟨Shutdown.begin_shuttingDown, deadline, rfl⟩
    | _ => exact hother rfl (by rintro _ ⟨⟩)
  | acquire c pc | openSession a deadline pc => exact hother (by cases pc <;> rfl) (by rintro _ ⟨⟩)
  | sessionLifecycle pc => exact hother (SessionLifecycle.footprint_rest pc).1 (by rintro _ ⟨⟩)
  | warm m deadline pc => exact hother (PreloadOne.footprint_rest pc).1 (by rintro _ ⟨⟩)
  | preload deadline pc => exact hother (PreloadOne.footprint_rest _).1 (by rintro _ ⟨⟩)
  | storageRecovered deadline pc =>
    cases pc with
    | preloading p => exact hother (PreloadOne.footprint_rest _).1 (by rintro _ ⟨⟩)
    | _ => exact hother rfl (by rintro _ ⟨⟩)
  | closeSession session reason deadline pc =>
    exact hother (by cases pc <;> rfl) (by rintro _ ⟨⟩)
  | _ => exact hother rfl (by rintro _ ⟨⟩)

end ModelSwitch

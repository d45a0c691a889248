import ModelSwitch.Program.Book
import Mathlib.Logic.Relation

/-!
# What a call of the book can change

Every public transition is a sequence of atomic changes: one record moves along one edge of the
state table, or the whole book enters or leaves recovery. `RuntimeStep` lists the edges with their
guards and `Book.Step` lifts them to the book, so that an invariant of the book is proved once per
edge and holds after every call (`Call.path`).
-/

namespace ModelSwitch

/-- The edges of the state table, as the kinds of atomic change. -/
inductive Edge
  | bootstrap
  | load
  | loaded
  | failed
  | grant
  | release
  | cancel
  | evict
  | block
  | unblock
  | rollback
  | stop
  | enterRecovery
  | leaveRecovery
  deriving DecidableEq

/-- An atomic change of the record `r` of model `m`: its kind, the record after it and the number
of identifiers drawn by then. -/
inductive RuntimeStep (b : Book) (m : ModelId) (r : Runtime) : Edge → Runtime → ℕ → Prop
  | bootstrap (hs : r.state = .unknown) (ho : r.operationId = none) (hl : r.hasLeases = false) :
      RuntimeStep b m r .bootstrap { r with state := .unloaded, reservation := 0 } b.uuids
  | load (sample : MemorySample) (now : Time) (h : b.canLoadWith m r sample now = true) :
      RuntimeStep b m r .load
        { r with generation := r.generation + 1, state := .loading, reservation := b.required m,
                 operationId := some b.uuids, idleSince := none, lastError := none }
        (b.uuids + 1)
  | loaded (now : Time) (hs : r.state = .loading) :
      RuntimeStep b m r .loaded
        { r with state := .ready, operationId := none, admissionBlocked := false,
                 idleSince := some now } b.uuids
  | failed (code : Option String) (ho : r.operationId ≠ none) :
      RuntimeStep b m r .failed
        { r with state := .error, operationId := none, admissionBlocked := true,
                 lastError := code } b.uuids
  | grant (request : RequestId) (now : Time) (hr : b.recovering = false) (hs : r.state = .ready)
      (hb : r.admissionBlocked = false) (hc : (r.leases.size : ℤ) < b.maxConcurrency m)
      (hq : b.ownsLease request = false) :
      RuntimeStep b m r .grant
        (b.addHeat { r with leases := r.leases.set b.uuids ⟨b.uuids, request, m, r.generation⟩,
                            totalRequests := r.totalRequests + 1, idleSince := none }
          now b.policy.requestWeight) (b.uuids + 1)
  | release (lease : Lease) (outcome : Outcome) (now : Time) (tokens : Book.TokenCount)
      (hm : lease.modelId = m) (hh : Book.holds r lease = true) :
      RuntimeStep b m r .release (b.releaseRuntime r lease outcome now tokens) b.uuids
  | cancel (lease : Lease) (hm : lease.modelId = m) (hh : Book.holds r lease = true) :
      RuntimeStep b m r .cancel
        { r with cancelling := r.cancelling.set lease.leaseId lease } b.uuids
  | evict (hr : b.recovering = false) (hs : r.state = .ready ∨ r.state = .error)
      (hl : r.hasLeases = false) (ho : r.operationId = none) :
      RuntimeStep b m r .evict
        { r with state := .evicting, admissionBlocked := true, operationId := some b.uuids }
        (b.uuids + 1)
  | block (hs : r.state = .ready) :
      RuntimeStep b m r .block { r with admissionBlocked := true } b.uuids
  | unblock (hs : r.state = .ready) :
      RuntimeStep b m r .unblock { r with admissionBlocked := false } b.uuids
  | rollback (hs : r.state = .evicting) (hl : r.hasLeases = false) :
      RuntimeStep b m r .rollback
        { r with state := .ready, admissionBlocked := false, operationId := none } b.uuids
  | stop (now : Option Time) (hs : r.state = .evicting) (hl : r.hasLeases = false) :
      RuntimeStep b m r .stop
        { r with state := .unloaded, operationId := none, reservation := 0,
                 admissionBlocked := false, idleSince := none, lastError := none,
                 stoppedAt := now } b.uuids

namespace Book

/-- An atomic change of the book. -/
inductive Step : Edge → Book → Book → Prop
  | runtime {b : Book} {e : Edge} {m : ModelId} {r r' : Runtime} {n : ℕ}
      (hr : b.runtime.get? m = some r) (h : RuntimeStep b m r e r' n) :
      Step e b { b.setRuntime m r' with uuids := n }
  | enterRecovery {b : Book} (h : b.recovering = false) :
      Step .enterRecovery b
        { b with epoch := b.epoch + 1, recovering := true,
                 runtime := b.runtime.mapVal fun _ r => recoverRuntime r }
  | leaveRecovery {b : Book} (h : b.recovering = true) (hl : b.anyLeases = false) :
      Step .leaveRecovery b
        { b with runtime := b.runtime.mapVal fun _ r => resetRuntime r, recovering := false }

/-- A sequence of atomic changes whose kinds satisfy `allowed`. -/
def Path (allowed : Edge → Prop) : Book → Book → Prop :=
  Relation.ReflTransGen fun b b' => ∃ e, allowed e ∧ Step e b b'

namespace Path

variable {allowed allowed' : Edge → Prop} {b b' b'' : Book}

lemma refl (b : Book) : Path allowed b b := Relation.ReflTransGen.refl

lemma single {e : Edge} (he : allowed e) (h : Step e b b') : Path allowed b b' :=
  Relation.ReflTransGen.single ⟨e, he, h⟩

lemma trans (h : Path allowed b b') (h' : Path allowed b' b'') : Path allowed b b'' :=
  Relation.ReflTransGen.trans h h'

lemma mono (hsub : ∀ e, allowed e → allowed' e) (h : Path allowed b b') : Path allowed' b b' := by
  induction h with
  | refl => exact .refl _
  | tail _ hs ih =>
    obtain ⟨e, he, hs⟩ := hs
    exact ih.trans (.single (hsub e he) hs)

/-- What every allowed atomic change preserves holds along a path. -/
theorem invariant {I : Book → Prop}
    (hstep : ∀ b e b', I b → allowed e → Step e b b' → I b') (h : Path allowed b b') (hb : I b) :
    I b' := by
  induction h with
  | refl => exact hb
  | tail _ hs ih =>
    obtain ⟨e, he, hs⟩ := hs
    exact hstep _ e _ ih he hs

end Path

/-! ### Each transition as a path -/

section Transitions

variable {allowed : Edge → Prop} {b : Book} {ms : List ModelId}

lemma Step.set {e : Edge} {m : ModelId} {r r' : Runtime} (hr : b.runtime.get? m = some r)
    (h : RuntimeStep b m r e r' b.uuids) : Step e b (b.setRuntime m r') :=
  Step.runtime hr h

/-- A transition of one record either changes nothing or is what its continuation does. -/
lemma withRuntime_path {α : Type} {m : ModelId} {k : Runtime → Book × Except Exc α}
    (h : ∀ r, b.runtime.get? m = some r → Path allowed b (k r).1) :
    Path allowed b (b.withRuntime m k).1 := by
  unfold withRuntime
  split
  · exact .refl b
  · exact h _ ‹_›

lemma withOperation_path {op : Operation} {k : Runtime → Book × Except Exc Unit}
    (h : ∀ r, b.runtime.get? op.modelId = some r → r.operationId ≠ none → Path allowed b (k r).1) :
    Path allowed b (b.withOperation op k).1 := by
  refine withRuntime_path fun r hr => ?_
  split_ifs with hc
  · simp only [isCurrent, decide_eq_true_eq] at hc
    exact h r hr (by simp [hc.2.2])
  · exact .refl b

lemma bootstrapStopped_path (he : allowed .bootstrap) (b : Book) (m : ModelId) :
    Path allowed b (b.bootstrapStopped m).1 := by
  refine withRuntime_path fun r hr => ?_
  split_ifs with hc
  · exact .refl b
  · simp only [ne_eq, not_or, not_not, Bool.not_eq_true, Option.isSome_eq_false_iff,
      Option.isNone_iff_eq_none] at hc
    exact .single he (Step.set hr (.bootstrap hc.1 hc.2.1 hc.2.2))

lemma beginLoad_path (he : allowed .load) (b : Book) (m : ModelId) (sample : MemorySample)
    (now : Time) : Path allowed b (b.beginLoad m sample now).1 := by
  refine withRuntime_path fun r hr => ?_
  split_ifs with hc
  · exact .single he (Step.runtime hr (.load sample now hc))
  · exact .refl b

lemma loaded_path (he : allowed .loaded) (b : Book) (op : Operation) (now : Time) :
    Path allowed b (b.loaded op now).1 := by
  refine withOperation_path fun r hr _ => ?_
  split_ifs with hc
  · exact .refl b
  · exact .single he (Step.set hr (.loaded now (not_not.mp hc)))

lemma failed_path (he : allowed .failed) (b : Book) (op : Operation) (code : Option String) :
    Path allowed b (b.failed op code).1 :=
  withOperation_path fun _ hr ho => .single he (Step.set hr (.failed code ho))

lemma acquireReady_path (he : allowed .grant) (b : Book) (m : ModelId) (request : RequestId)
    (now : Time) : Path allowed b (b.acquireReady m request now).1 := by
  refine withRuntime_path fun r hr => ?_
  split_ifs with hc hq
  · exact .refl b
  · exact .refl b
  · simp only [ne_eq, not_or, not_not, Bool.not_eq_true, not_le] at hc hq
    exact .single he (Step.runtime hr (.grant request now hc.1 hc.2.1 hc.2.2.1 hc.2.2.2 hq))

lemma release_path (he : allowed .release) (b : Book) (lease : Lease) (outcome : Outcome)
    (now : Time) (tokens : TokenCount) : Path allowed b (b.release lease outcome now tokens).1 := by
  refine withRuntime_path fun r hr => ?_
  split_ifs with hh ht
  · exact .single he (Step.set hr (.release lease outcome now tokens rfl hh))
  · exact .refl b
  · exact .refl b

lemma beginCancel_path (he : allowed .cancel) (b : Book) (lease : Lease) :
    Path allowed b (b.beginCancel lease).1 := by
  refine withRuntime_path fun r hr => ?_
  split_ifs with hh
  · exact .single he (Step.set hr (.cancel lease rfl hh))
  · exact .refl b

/-- A batch that passes its check names only records that `refuses` accepts. -/
lemma validateBatch_ok {refuses : Runtime → LedgerSpec → Bool} {message : String}
    (h : b.validateBatch refuses message ms = .ok ()) :
    ∀ m ∈ ms, ∃ r spec, b.runtime.get? m = some r ∧ b.ledger.get? m = some spec ∧
      refuses r spec = false := by
  induction ms with
  | nil => simp
  | cons m ms ih =>
    simp only [validateBatch] at h
    split at h
    · rename_i r spec hr hl
      split_ifs at h with href
      rw [List.forall_mem_cons]
      exact ⟨⟨r, spec, hr, hl, by simpa using href⟩, ih h⟩
    · cases h

/-- A batch that may be marked: distinct idle records, outside recovery. -/
structure Idle (b : Book) (ms : List ModelId) : Prop where
  running : b.recovering = false
  nodup : ms.Nodup
  record : ∀ m ∈ ms, ∃ r, b.runtime.get? m = some r ∧ (r.state = .ready ∨ r.state = .error) ∧
    r.hasLeases = false ∧ r.operationId = none

/-- Marking the first record of a batch leaves the rest of it idle. -/
lemma Idle.tail {m : ModelId} (h : b.Idle (m :: ms)) (r : Runtime)
    (n : ℕ) : Idle { b.setRuntime m r with uuids := n } ms := by
  refine ⟨h.running, h.nodup.of_cons, fun m' hm' => ?_⟩
  have hne : m' ≠ m := by
    rintro rfl
    exact (List.nodup_cons.mp h.nodup).1 hm'
  simp only [setRuntime, Dict.get?_set_ne _ _ hne]
  exact h.record m' (List.mem_cons_of_mem m hm')

/-- Marking a batch is one `evict` per record. -/
lemma markEvicting_path (he : allowed .evict) (h : b.Idle ms) :
    Path allowed b (b.markEvicting ms).1 := by
  induction ms generalizing b with
  | nil => exact .refl b
  | cons m ms ih =>
    obtain ⟨r, hr, hs, hl, ho⟩ := h.record m List.mem_cons_self
    simp only [markEvicting, hr]
    exact .trans (.single he (Step.runtime hr (.evict h.running hs hl ho))) (ih (h.tail _ _))

lemma invalidBatch_false (h : b.invalidBatch ms = false) :
    b.recovering = false ∧ ms ≠ [] ∧ ms.Nodup := by
  simp only [invalidBatch, Bool.or_eq_false_iff, List.isEmpty_eq_false_iff, decide_eq_false_iff_not,
    not_not] at h
  exact ⟨h.1.1, h.1.2, h.2⟩

/-- `begin_eviction` refuses a batch and leaves the book alone, or marks an idle batch. -/
lemma beginEviction_cases (b : Book) (ms : List ModelId) (automatic : Bool) :
    (∃ e, b.beginEviction ms automatic = (b, .error e)) ∨
      (b.Idle ms ∧
        b.beginEviction ms automatic = ((b.markEvicting ms).1, .ok (b.markEvicting ms).2)) := by
  simp only [beginEviction]
  split_ifs with hi
  · exact .inl ⟨_, rfl⟩
  · obtain ⟨hrec, -, hnd⟩ := invalidBatch_false (Bool.not_eq_true _ ▸ hi)
    split
    · exact .inl ⟨_, rfl⟩
    · rename_i hv
      refine .inr ⟨⟨hrec, hnd, fun m hm => ?_⟩, rfl⟩
      obtain ⟨r, spec, hr, -, href⟩ := validateBatch_ok hv m hm
      simp only [evictionRefuses, Bool.or_eq_false_iff, decide_eq_false_iff_not, ne_eq, not_not,
        Option.isSome_eq_false_iff, Option.isNone_iff_eq_none] at href
      exact ⟨r, hr, .inl href.1.1.1.1, href.1.1.1.2, href.1.1.2⟩

lemma beginCleanup_cases (b : Book) (ms : List ModelId) :
    (∃ e, b.beginCleanup ms = (b, .error e)) ∨
      (b.Idle ms ∧ b.beginCleanup ms = ((b.markEvicting ms).1, .ok (b.markEvicting ms).2)) := by
  simp only [beginCleanup]
  split_ifs with hi
  · exact .inl ⟨_, rfl⟩
  · obtain ⟨hrec, -, hnd⟩ := invalidBatch_false (Bool.not_eq_true _ ▸ hi)
    split
    · exact .inl ⟨_, rfl⟩
    · rename_i hv
      refine .inr ⟨⟨hrec, hnd, fun m hm => ?_⟩, rfl⟩
      obtain ⟨r, spec, hr, -, href⟩ := validateBatch_ok hv m hm
      simp only [cleanupRefuses, Bool.or_eq_false_iff, Bool.not_eq_false', Bool.or_eq_true,
        decide_eq_true_eq, Option.isSome_eq_false_iff, Option.isNone_iff_eq_none] at href
      exact ⟨r, hr, href.1.1, href.1.2, href.2⟩

lemma beginEviction_path (he : allowed .evict) (b : Book) (ms : List ModelId) (automatic : Bool) :
    Path allowed b (b.beginEviction ms automatic).1 := by
  rcases beginEviction_cases b ms automatic with ⟨e, heq⟩ | ⟨hidle, heq⟩
  · rw [heq]
    exact .refl b
  · rw [heq]
    exact markEvicting_path he hidle

lemma beginCleanup_path (he : allowed .evict) (b : Book) (ms : List ModelId) :
    Path allowed b (b.beginCleanup ms).1 := by
  rcases beginCleanup_cases b ms with ⟨e, heq⟩ | ⟨hidle, heq⟩
  · rw [heq]
    exact .refl b
  · rw [heq]
    exact markEvicting_path he hidle

lemma blockAll_path (he : allowed .block) (hnd : ms.Nodup)
    (hms : ∀ m ∈ ms, ∃ r, b.runtime.get? m = some r ∧ r.state = .ready) :
    Path allowed b (b.blockAll ms) := by
  induction ms generalizing b with
  | nil => exact .refl b
  | cons m ms ih =>
    obtain ⟨r, hr, hs⟩ := hms m List.mem_cons_self
    simp only [blockAll, hr]
    refine .trans (.single he (Step.set hr (.block hs))) (ih hnd.of_cons ?_)
    intro m' hm'
    have hne : m' ≠ m := by
      rintro rfl
      exact (List.nodup_cons.mp hnd).1 hm'
    simp only [setRuntime, Dict.get?_set_ne _ _ hne]
    exact hms m' (List.mem_cons_of_mem m hm')

lemma freezeForSwitch_path (he : allowed .block) (b : Book) (ms : List ModelId) :
    Path allowed b (b.freezeForSwitch ms).1 := by
  unfold freezeForSwitch
  split_ifs with hi
  · exact .refl b
  · obtain ⟨-, -, hnd⟩ := invalidBatch_false (Bool.not_eq_true _ ▸ hi)
    split
    · exact .refl b
    · rename_i hv
      refine blockAll_path he hnd fun m hm => ?_
      obtain ⟨r, spec, hr, -, href⟩ := validateBatch_ok hv m hm
      simp only [freezeRefuses, Bool.or_eq_false_iff, decide_eq_false_iff_not, ne_eq,
        not_not] at href
      exact ⟨r, hr, href.1.1.1.1⟩

lemma unfreezeSwitch_path (he : allowed .unblock) (b : Book) (ms : List ModelId) :
    Path allowed b (b.unfreezeSwitch ms).1 := by
  induction ms generalizing b with
  | nil => exact .refl b
  | cons m ms ih =>
    simp only [unfreezeSwitch]
    split
    · exact .refl b
    · rename_i r hr
      split_ifs with hc
      · exact .trans (.single he (Step.set hr (.unblock hc.1))) (ih _)
      · exact ih b

lemma rollbackUnsent_path (he : allowed .rollback) (b : Book) (op : Operation) :
    Path allowed b (b.rollbackUnsent op).1 := by
  refine withOperation_path fun r hr _ => ?_
  split_ifs with hc
  · exact .refl b
  · simp only [ne_eq, not_or, not_not, Bool.not_eq_true] at hc
    exact .single he (Step.set hr (.rollback hc.1 hc.2))

lemma stopped_path (he : allowed .stop) (b : Book) (op : Operation) (now : Option Time) :
    Path allowed b (b.stopped op now).1 := by
  refine withOperation_path fun r hr _ => ?_
  split_ifs with hc
  · exact .refl b
  · simp only [ne_eq, not_or, not_not, Bool.not_eq_true] at hc
    exact .single he (Step.set hr (.stop now hc.1 hc.2))

lemma beginRecovery_path (he : allowed .enterRecovery) (b : Book) :
    Path allowed b b.beginRecovery.1 := by
  unfold beginRecovery
  split_ifs with hr
  · exact .refl b
  · exact .single he (.enterRecovery (by simpa using hr))

lemma finishRecovery_path (he : allowed .leaveRecovery) (b : Book) (epoch : ℕ)
    (confirmed : List ModelId) : Path allowed b (b.finishRecovery epoch confirmed).1 := by
  unfold finishRecovery
  split_ifs with hr hc
  · exact .refl b
  · exact .refl b
  · simp only [not_or, not_not, ne_eq] at hr hc
    exact .single he (.leaveRecovery hr.1 (by simpa using hc.2))

end Transitions

/-! ### Calls -/

/-- The edge a call moves records along. -/
def Call.edge : Call → Edge
  | .bootstrapStopped _ => .bootstrap
  | .beginLoad _ _ _ => .load
  | .loaded _ _ => .loaded
  | .failed _ _ => .failed
  | .acquireReady _ _ _ => .grant
  | .release _ _ _ _ => .release
  | .beginCancel _ => .cancel
  | .beginEviction _ _ => .evict
  | .freezeForSwitch _ => .block
  | .unfreezeSwitch _ => .unblock
  | .beginCleanup _ => .evict
  | .rollbackUnsent _ => .rollback
  | .stopped _ _ => .stop
  | .beginRecovery => .enterRecovery
  | .finishRecovery _ _ => .leaveRecovery

/-- A call only moves records along its own edge. -/
theorem Call.path (b : Book) (c : Call) : Path (c.edge = ·) b (b.apply c) := by
  cases c with
  | bootstrapStopped m => exact bootstrapStopped_path rfl b m
  | beginLoad m sample now => exact beginLoad_path rfl b m sample now
  | loaded op now => exact loaded_path rfl b op now
  | failed op code => exact failed_path rfl b op code
  | acquireReady m request now => exact acquireReady_path rfl b m request now
  | release lease outcome now tokens => exact release_path rfl b lease outcome now tokens
  | beginCancel lease => exact beginCancel_path rfl b lease
  | beginEviction ms automatic => exact beginEviction_path rfl b ms automatic
  | freezeForSwitch ms => exact freezeForSwitch_path rfl b ms
  | unfreezeSwitch ms => exact unfreezeSwitch_path rfl b ms
  | beginCleanup ms => exact beginCleanup_path rfl b ms
  | rollbackUnsent op => exact rollbackUnsent_path rfl b op
  | stopped op now => exact stopped_path rfl b op now
  | beginRecovery => exact beginRecovery_path rfl b
  | finishRecovery epoch confirmed => exact finishRecovery_path rfl b epoch confirmed

end Book

end ModelSwitch

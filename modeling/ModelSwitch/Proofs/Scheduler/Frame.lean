import ModelSwitch.Program.Scheduler.System
import ModelSwitch.Proofs.Book.Stops
import ModelSwitch.Proofs.Sessions

/-!
# What a step can change

`Co.footprint` says which parts of the scheduler a suspended coroutine may touch in its next step:
the model whose load it may begin, whether it may grant a lease, the waiter it may file, and whether
it may move sessions, the worker or the shutdown flag. `Co.step_within` proves it
once for every coroutine, and an invariant then looks only at the coroutines whose footprint meets
it.
-/

namespace ModelSwitch

namespace Book

variable {b b' : Book} {allowed : Edge → Prop} {m : ModelId}

/-! ### Edges and the `UNLOADED` state -/

/-- A record whose state is `UNLOADED` exists. -/
lemma get?_of_unloaded (h : (b.runtimeOf m).state = .unloaded) :
    ∃ r, b.runtime.get? m = some r ∧ r.state = .unloaded := by
  unfold runtimeOf at h
  cases hr : b.runtime.get? m with
  | none => simp [hr] at h
  | some r => exact ⟨r, rfl, by simpa [hr] using h⟩

/-- Only a load leaves `UNLOADED`. -/
lemma RuntimeStep.unloaded {entry : LedgerSpec} {r r' : Runtime} {e : Edge} {n : ℕ}
    (hinv : r.Inv m entry b.uuids) (h : RuntimeStep b m r e r' n) (he : e ≠ .load)
    (hs : r.state = .unloaded) : r'.state = .unloaded := by
  cases h with
  | load => exact absurd rfl he
  | failed code ho => simpa [hs] using hinv.operation.mp ho
  | release lease outcome now tokens hm hh =>
    simp only [Book.holds, decide_eq_true_eq] at hh
    simpa [hs] using hinv.leases_state (Runtime.hasLeases_iff.mpr ⟨_, _, hh.1⟩)
  | _ => simp_all

lemma Step.unloaded {e : Edge} (h : Step e b b') (he : e ≠ .load) (hinv : b.Inv)
    (hm : (b.runtimeOf m).state = .unloaded) : (b'.runtimeOf m).state = .unloaded := by
  obtain ⟨r, hr, hs⟩ := get?_of_unloaded hm
  cases h with
  | @runtime _ _ m₀ r₀ r' n hr₀ hstep =>
    by_cases heq : m = m₀
    · subst heq
      cases hr.symm.trans hr₀
      obtain ⟨entry, -, hri⟩ := hinv.record m r hr
      rw [runtimeOf_eq (r := r') (by simp [setRuntime])]
      exact RuntimeStep.unloaded hri hstep he hs
    · rwa [runtimeOf_eq (r := r) (by simp [setRuntime, Dict.get?_set_ne _ _ heq, hr])]
  | enterRecovery hrec =>
    rw [runtimeOf_eq (r := recoverRuntime r) (by simp [Dict.get?_mapVal, hr])]
    simp [recoverRuntime, hs]
  | leaveRecovery hrec hl =>
    rw [runtimeOf_eq (r := resetRuntime r) (by simp [Dict.get?_mapVal, hr])]
    rfl

lemma Path.unloaded (h : Path allowed b b') (hno : ∀ e, allowed e → e ≠ .load) (hinv : b.Inv)
    (hm : (b.runtimeOf m).state = .unloaded) : (b'.runtimeOf m).state = .unloaded := by
  refine (h.invariant (I := fun b => b.Inv ∧ (b.runtimeOf m).state = .unloaded) ?_ ⟨hinv, hm⟩).2
  rintro b e b' ⟨hi, hu⟩ he hs
  exact ⟨hs.inv hi, hs.unloaded (hno e he) hi hu⟩

/-- The registered models are fixed. -/
lemma Step.keys {e : Edge} (h : Step e b b') : b'.runtime.keys = b.runtime.keys := by
  cases h with
  | runtime hr hstep => exact Dict.keys_set_of_get? hr _
  | enterRecovery hrec | leaveRecovery hrec hl => exact Dict.keys_mapVal _ _

lemma Path.keys (h : Path allowed b b') : b'.runtime.keys = b.runtime.keys := by
  induction h with
  | refl => rfl
  | tail _ hs ih =>
    obtain ⟨e, -, hs⟩ := hs
    exact hs.keys.trans ih

lemma Path.held (h : Path allowed b b') (hno : ∀ e, allowed e → e ≠ .grant) {k : Uuid} {l : Lease}
    (hl : b'.Held m k l) : b.Held m k l := by
  induction h with
  | refl => exact hl
  | tail _ hs ih =>
    obtain ⟨e, he, hs⟩ := hs
    exact ih (hs.held (hno e he) hl)

/-- A grant adds one lease to the book, and a refused one adds none. -/
lemma acquireReady_cases (b : Book) (m : ModelId) (request : RequestId) (now : Time) :
    (∃ x, b.acquireReady m request now = (b, .error x)) ∨
    ∃ b' lease, b.acquireReady m request now = (b', .ok lease) ∧ lease.requestId = request ∧
      ∀ m' k l, b'.Held m' k l → b.Held m' k l ∨ l = lease := by
  simp only [acquireReady, withRuntime]
  split
  · exact .inl ⟨_, rfl⟩
  · rename_i r hr
    split_ifs
    · exact .inl ⟨_, rfl⟩
    · exact .inl ⟨_, rfl⟩
    · refine .inr ⟨_, _, rfl, rfl, ?_⟩
      rintro m' k l ⟨r', hr', hl⟩
      simp only [setRuntime, Dict.get?_set] at hr'
      split_ifs at hr' with heq
      · cases hr'
        simp only [addHeat, Dict.get?_set] at hl
        split_ifs at hl
        · cases hl
          exact .inr rfl
        · exact .inl ⟨r, heq ▸ hr, hl⟩
      · exact .inl ⟨r', hr', hl⟩

/-- Beginning a load touches no other model. -/
lemma beginLoad_other (b : Book) {m m' : ModelId} (sample : MemorySample) (now : Time)
    (hne : m' ≠ m) : (b.beginLoad m sample now).1.runtimeOf m' = b.runtimeOf m' := by
  unfold beginLoad withRuntime
  split
  · rfl
  · dsimp only
    split_ifs
    · simp [runtimeOf, setRuntime, Dict.get?_set_ne _ _ hne]
    · rfl

lemma releaseAll_path (he : allowed .release) (leases : List Lease) (b : Book) (now : Time) :
    Path allowed b (leases.foldl (fun b lease => (b.release lease .aborted now .absent).1) b) := by
  induction leases generalizing b with
  | nil => exact .refl b
  | cons lease leases ih => exact (release_path he b lease .aborted now .absent).trans (ih _)

lemma abortLeases_path (he : allowed .release) (b : Book) (now : Time) :
    Path allowed b (b.abortLeases now) :=
  releaseAll_path he b.allLeases b now

lemma not_held_of_hasLeases (h : (b.runtimeOf m).hasLeases = false) (k : Uuid)
    (l : Lease) : ¬ b.Held m k l := by
  rintro ⟨r, hr, hl⟩
  rw [runtimeOf_eq hr, ← Bool.not_eq_true] at h
  exact h (Runtime.hasLeases_iff.mpr ⟨k, l, hl⟩)

lemma held_of_hasLeases (h : (b.runtimeOf m).hasLeases = true) : ∃ k l, b.Held m k l := by
  obtain ⟨k, l, hl⟩ := Runtime.hasLeases_iff.mp h
  cases hr : b.runtime.get? m with
  | none =>
    rw [runtimeOf, hr] at hl
    cases hl
  | some r => exact ⟨k, l, r, hr, by rwa [runtimeOf_eq hr] at hl⟩

end Book

lemma rollbackPending_path {allowed : Edge → Prop} (he : allowed .rollback) (b : Book)
    (ops : List Operation) : Book.Path allowed b (rollbackPending b ops).1 := by
  induction ops generalizing b with
  | nil => exact .refl b
  | cons op ops ih =>
    have hp := Book.rollbackUnsent_path he b op
    simp only [rollbackPending]
    split <;> rename_i heq <;> rw [heq] at hp
    · exact hp.trans (ih _)
    · exact hp.trans (ih _)
    · exact hp

/-- A path whose edges are all listed. -/
abbrev Book.PathIn (edges : List Edge) : Book → Book → Prop := Book.Path (· ∈ edges)

/-- A step with no edge leaves the book as it is. -/
lemma Book.PathIn.eq_of_nil {b b' : Book} (h : Book.PathIn [] b b') : b' = b := by
  induction h with
  | refl => rfl
  | tail _ hs _ =>
    obtain ⟨e, he, -⟩ := hs
    cases he

/-! ### Footprints -/

/-- The edges that neither begin a load nor grant a lease, prove a stop or end a recovery. -/
def Edge.quiet (e : Edge) : Prop := (e ≠ .load ∧ e ≠ .grant) ∧ e ≠ .stop ∧ e ≠ .leaveRecovery

namespace Edge

instance : DecidablePred quiet := fun e =>
  inferInstanceAs (Decidable ((e ≠ .load ∧ e ≠ .grant) ∧ e ≠ .stop ∧ e ≠ .leaveRecovery))

end Edge

/-- The parts of the scheduler a step may touch. -/
structure Footprint where
  load : Option ModelId := none
  grant : Bool := false
  enqueue : Option RequestId := none
  sessions : Bool := false
  worker : Bool := false
  shutdown : Bool := false
  cold : Bool := false
  recovered : Bool := false

/-- The edges a footprint allows. -/
def Footprint.allows (fp : Footprint) (e : Edge) : Prop :=
  (e = .load → fp.load.isSome = true) ∧ (e = .grant → fp.grant = true)

/-- The fields beside the book that a footprint speaks of. -/
def Scheduler.framed (s : Scheduler) :=
  (s.queue, s.sessions.records, s.sessions.activeId, s.sessions.policy, s.sessionWorker,
    s.shuttingDown, s.switchSuccesses, s.coldLoadNotBefore, s.now, s.cfg)

/-- `s'` differs from `s` at most where `fp` says. -/
structure Within (fp : Footprint) (s s' : Scheduler) : Prop where
  path : Book.Path fp.allows s.book s'.book
  unloaded : s.book.Inv → ∀ m, fp.load ≠ some m → (s.book.runtimeOf m).state = .unloaded →
    (s'.book.runtimeOf m).state = .unloaded
  queue : RequestQueue.Moves fp.enqueue s.queue s'.queue
  sessions : fp.sessions = false →
    s'.sessions.records = s.sessions.records ∧ s'.sessions.activeId = s.sessions.activeId
  policy : s'.sessions.policy = s.sessions.policy
  worker : fp.worker = false → s'.sessionWorker = s.sessionWorker
  shutdown : fp.shutdown = false → s'.shuttingDown = s.shuttingDown
  cold : fp.cold = false → s'.switchSuccesses = s.switchSuccesses ∧
    s'.coldLoadNotBefore = s.coldLoadNotBefore
  stamps : fp.recovered = false → ∀ m, Book.Stamps s.now m s.book s'.book
  now : s'.now = s.now
  cfg : s'.cfg = s.cfg

namespace Within

variable {fp : Footprint} {s s' s'' : Scheduler}

lemma refl (s : Scheduler) : Within fp s s where
  path := .refl _
  unloaded _ _ _ h := h
  queue := .refl _
  sessions _ := ⟨rfl, rfl⟩
  policy := rfl
  worker _ := rfl
  shutdown _ := rfl
  cold _ := ⟨rfl, rfl⟩
  stamps _ _ := .refl _
  now := rfl
  cfg := rfl

lemma trans (h : Within fp s s') (h' : Within fp s' s'') : Within fp s s'' where
  path := h.path.trans h'.path
  unloaded hinv m hm hu := h'.unloaded (h.path.inv hinv) m hm (h.unloaded hinv m hm hu)
  queue := h.queue.trans h'.queue
  sessions hs :=
    ⟨(h'.sessions hs).1.trans (h.sessions hs).1, (h'.sessions hs).2.trans (h.sessions hs).2⟩
  policy := h'.policy.trans h.policy
  worker hw := (h'.worker hw).trans (h.worker hw)
  shutdown hd := (h'.shutdown hd).trans (h.shutdown hd)
  cold hc := ⟨(h'.cold hc).1.trans (h.cold hc).1, (h'.cold hc).2.trans (h.cold hc).2⟩
  stamps hr m := (h.stamps hr m).trans (h.now ▸ h'.stamps hr m)
  now := h'.now.trans h.now
  cfg := h'.cfg.trans h.cfg

/-- A step with no footprint is within every footprint. -/
lemma mono (h : Within {} s s') : Within fp s s' where
  path := h.path.mono fun e he =>
    ⟨fun hl => by simpa using he.1 hl, fun hg => by simpa using he.2 hg⟩
  unloaded hinv m _ hu := h.unloaded hinv m (by simp) hu
  queue := h.queue.mono
  sessions _ := h.sessions rfl
  policy := h.policy
  worker _ := h.worker rfl
  shutdown _ := h.shutdown rfl
  cold _ := h.cold rfl
  stamps _ := h.stamps rfl
  now := h.now
  cfg := h.cfg

/-- A step that moves the book along edges the footprint allows, begins no load, and otherwise
changes only fields that no footprint mentions. -/
lemma of_allowed (h : Book.Path fp.allows s.book s'.book) (hload : fp.load = none)
    (hstamps : fp.recovered = false → ∀ m, Book.Stamps s.now m s.book s'.book)
    (hrest : s'.framed = s.framed) : Within fp s s' := by
  simp only [Scheduler.framed, Prod.mk.injEq] at hrest
  obtain ⟨hq, hr, ha, hp, hw, hd, hcs, hcn, hn, hc⟩ := hrest
  refine ⟨h, ?_, hq ▸ .refl _, fun _ => ⟨hr, ha⟩, hp, fun _ => hw, fun _ => hd,
    fun _ => ⟨hcs, hcn⟩, hstamps, hn, hc⟩
  intro hinv m _ hu
  exact h.unloaded (fun e he hl => by simpa [hload] using he.1 hl) hinv hu

end Within

end ModelSwitch

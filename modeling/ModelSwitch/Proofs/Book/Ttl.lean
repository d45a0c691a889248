import ModelSwitch.Proofs.Book.Tokens

/-!
# The idle period

`idle_since` is the time at which a model was loaded or gave back its last lease; a grant, a load
and a proven stop clear it, and no other transition touches it. On a monotone clock it is therefore
never earlier than a time at which the model was in use.
-/

namespace ModelSwitch

namespace Book

variable {b b' : Book} {m : ModelId} {t t₀ t₁ : Time}

/-! ### Runs on a clock -/

/-- The time that a call is given. -/
def Call.now : Call → Option Time
  | .beginLoad _ _ now | .loaded _ now | .acquireReady _ _ now | .release _ _ now _ => some now
  | .stopped _ now => now
  | _ => none

/-- The clock moves on, or a transition is called with the time it shows. -/
inductive Timed
  | tick (now : Time)
  | call (c : Call)

def timedStep : Book × Time → Timed → Option (Book × Time)
  | (b, t), .tick now => if t ≤ now then some (b, now) else none
  | (b, t), .call c => if c.now.all (· = t) then some (b.apply c, t) else none

/-! ### When a model was last in use -/

/-- If the model counts as idle it holds no lease, and has been idle since `t` or later. -/
def IdleFrom (b : Book) (m : ModelId) (t : Time) : Prop :=
  ∀ r, b.runtime.get? m = some r → ∀ i, r.idleSince = some i → r.hasLeases = false ∧ t ≤ i

lemma Step.idleFrom {e : Edge} (h : Step e b b') (hl : e ≠ .loaded) (hr : e ≠ .release)
    (hb : b.IdleFrom m t) : b'.IdleFrom m t := by
  intro r' hr' i hi
  cases h with
  | @runtime _ _ m₀ r r₁ n hget hstep =>
    simp only [setRuntime, Dict.get?_set] at hr'
    split_ifs at hr' with heq
    · cases hr'
      subst heq
      cases hstep with
      | load | grant | stop => cases hi
      | loaded => exact absurd rfl hl
      | release => exact absurd rfl hr
      | _ => exact hb r hget i hi
    · exact hb r' hr' i hi
  | enterRecovery =>
    simp only [Dict.get?_mapVal, Option.map_eq_some_iff] at hr'
    obtain ⟨r, hr, rfl⟩ := hr'
    have hsame : (recoverRuntime r).idleSince = r.idleSince ∧
        (recoverRuntime r).hasLeases = r.hasLeases := by
      simp only [recoverRuntime]
      split_ifs <;> exact ⟨rfl, rfl⟩
    rw [hsame.2]
    exact hb r hr i (hsame.1 ▸ hi)
  | leaveRecovery =>
    simp only [Dict.get?_mapVal, Option.map_eq_some_iff] at hr'
    obtain ⟨r, -, rfl⟩ := hr'
    cases hi

/-- An eviction and its rollback leave the idle period alone. -/
lemma Path.idleSince_eq (h : Path (fun e => e = .evict ∨ e = .rollback) b b') :
    (b'.runtimeOf m).idleSince = (b.runtimeOf m).idleSince := by
  refine h.invariant (I := fun b' => (b'.runtimeOf m).idleSince = (b.runtimeOf m).idleSince) ?_ rfl
  rintro b₁ e b₂ hb he hstep
  rw [← hb]
  cases hstep with
  | @runtime _ _ m₀ r r₁ n hget hstep =>
    rw [runtimeOf_set]
    split_ifs with heq
    · subst heq
      simp only [runtimeOf, hget]
      cases hstep <;> simp at he ⊢
    · rfl
  | _ => simp at he

lemma IdleFrom.set {m' : ModelId} {r : Runtime} (hb : b.IdleFrom m t)
    (hr : ∀ i, r.idleSince = some i → r.hasLeases = false ∧ t ≤ i) :
    (b.setRuntime m' r).IdleFrom m t := by
  intro r' hr' i hi
  simp only [setRuntime, Dict.get?_set] at hr'
  split_ifs at hr'
  · cases hr'
    exact hr i hi
  · exact hb r' hr' i hi

/-- A loaded model is idle from now on. -/
lemma loaded_idleFrom (hinv : b.Inv) (hb : b.IdleFrom m t) {op : Operation} {now : Time}
    (ht : t ≤ now) : (b.loaded op now).1.IdleFrom m t := by
  simp only [loaded, withOperation, withRuntime]
  split
  · exact hb
  · rename_i r hr
    split_ifs with hcur hs
    · exact hb
    · refine hb.set fun i hi => ⟨?_, (Option.some.inj hi) ▸ ht⟩
      -- a loading model holds no lease
      obtain ⟨entry, -, hri⟩ := hinv.record _ r hr
      rw [← Bool.not_eq_true]
      intro hleases
      rcases hri.leases_state hleases with h | h <;> simp [h] at hs
    · exact hb

lemma settleOutcome_idleSince (r : Runtime) (outcome : Outcome) (now : Time) (tokens : TokenCount) :
    (b.settleOutcome r outcome now tokens).idleSince = r.idleSince := by
  cases outcome <;> cases tokens <;> rfl

/-- The model is idle once its last lease is released; before that it does not count as idle. -/
lemma release_idleFrom (hbusy : ∀ m, b.IdleFrom m t₀) (hb : b.IdleFrom m t) {lease : Lease}
    {outcome : Outcome} {now : Time} {tokens : TokenCount} (ht : t ≤ now) :
    (b.release lease outcome now tokens).1.IdleFrom m t := by
  simp only [release, withRuntime]
  split
  · exact hb
  · rename_i r hr
    split_ifs with hh hv
    · refine hb.set fun i hi => ?_
      simp only [releaseRuntime] at hi ⊢
      split_ifs at hi ⊢ with hleft
      · -- a record with leases is not idle
        rw [settleOutcome_idleSince] at hi
        have hnone := (hbusy _ r hr i hi).1
        simp only [holds, decide_eq_true_eq] at hh
        rw [Runtime.hasLeases_iff.mpr ⟨_, _, hh.1⟩] at hnone
        cases hnone
      · cases hi
        exact ⟨(Bool.not_eq_true _).mp hleft, ht⟩
    · exact hb
    · exact hb

lemma apply_idleFrom (hinv : b.Inv) (hbusy : ∀ m, b.IdleFrom m t₀) (hb : b.IdleFrom m t₁) {c : Call}
    (hc : c.now.all (· = t) = true) (ht : t₁ ≤ t) : (b.apply c).IdleFrom m t₁ := by
  by_cases hl : c.edge = .loaded
  · cases c <;> cases hl
    exact loaded_idleFrom hinv hb (ht.trans_eq (of_decide_eq_true hc).symm)
  · by_cases hr : c.edge = .release
    · cases c <;> cases hr
      exact release_idleFrom hbusy hb (ht.trans_eq (of_decide_eq_true hc).symm)
    · refine (Call.path b c).invariant (I := (·.IdleFrom m t₁)) ?_ hb
      rintro b e b' hi rfl hstep
      exact hstep.idleFrom hl hr hi

/-! ### Runs -/

/-- In a run that began at `t₀`, no model counts as idle while it holds a lease. -/
structure Clocked (t₀ : Time) (s : Book × Time) : Prop where
  inv : s.1.Inv
  busy : ∀ m, s.1.IdleFrom m t₀
  time : t₀ ≤ s.2

lemma Clocked.next {s s' : Book × Time} {a : Timed} (h : Clocked t₀ s)
    (hstep : timedStep s a = some s') : Clocked t₀ s' ∧ s.2 ≤ s'.2 := by
  obtain ⟨b, t⟩ := s
  cases a with
  | tick now =>
    simp only [timedStep, Option.ite_none_right_eq_some] at hstep
    obtain ⟨hle, ⟨⟩⟩ := hstep
    exact ⟨⟨h.inv, h.busy, h.time.trans hle⟩, hle⟩
  | call c =>
    simp only [timedStep, Option.ite_none_right_eq_some] at hstep
    obtain ⟨hc, ⟨⟩⟩ := hstep
    exact ⟨⟨(Call.path b c).inv h.inv, fun m => apply_idleFrom h.inv h.busy (h.busy m) hc h.time,
      h.time⟩, le_refl _⟩

lemma Clocked.run {s s' : Book × Time} (h : Clocked t₀ s)
    (hrun : Run timedStep (fun _ _ => True) s s') : Clocked t₀ s' :=
  hrun.invariant (fun _ _ _ hs _ hstep => (hs.next hstep).1) h

/-- What was not idle before `t₁` has not become idle before `t₁` later. -/
lemma Clocked.idleFrom {s s' : Book × Time} (h : Clocked t₀ s) (hm : s.1.IdleFrom m t₁)
    (ht : t₁ ≤ s.2) (hrun : Run timedStep (fun _ _ => True) s s') : s'.1.IdleFrom m t₁ := by
  refine (hrun.invariant (I := fun s => Clocked t₀ s ∧ s.1.IdleFrom m t₁ ∧ t₁ ≤ s.2) ?_
    ⟨h, hm, ht⟩).2.1
  rintro s a s' ⟨hs, hm, ht⟩ - hstep
  obtain ⟨hs', hle⟩ := hs.next hstep
  refine ⟨hs', ?_, ht.trans hle⟩
  obtain ⟨b, t⟩ := s
  cases a with
  | tick now =>
    simp only [timedStep, Option.ite_none_right_eq_some] at hstep
    obtain ⟨-, ⟨⟩⟩ := hstep
    exact hm
  | call c =>
    simp only [timedStep, Option.ite_none_right_eq_some] at hstep
    obtain ⟨hc, ⟨⟩⟩ := hstep
    exact apply_idleFrom hs.inv hs.busy hm hc ht

lemma init_clocked {policy : BookPolicy} {specs : Dict ModelId Registration}
    (h : init policy specs = .ok b) : Clocked t₀ (b, t₀) := by
  refine ⟨init_inv h, fun m r hr i hi => ?_, le_refl _⟩
  obtain ⟨entry, -, rfl⟩ := init_record h hr
  cases hi

/-- A model whose load is reported counts as idle from then on. -/
lemma loaded_idleSince {op : Operation} (h : b.answer (.loaded op t) = .ok []) :
    ∃ r, (b.apply (.loaded op t)).runtime.get? op.modelId = some r ∧ r.idleSince = some t := by
  simp only [answer, apply, loaded, withOperation, withRuntime] at h ⊢
  cases hr : b.runtime.get? op.modelId with
  | none =>
    rw [hr] at h
    cases h
  | some r =>
    simp only [hr] at h ⊢
    split_ifs at h ⊢
    · cases h
    · exact ⟨_, Dict.get?_set_self .., rfl⟩
    · cases h

lemma ttlDue_iff {now : Time} (h : b.ttlDue m now = true) :
    ∃ r spec i, b.runtime.get? m = some r ∧ b.ledger.get? m = some spec ∧ r.state = .ready ∧
      r.hasLeases = false ∧ r.admissionBlocked = false ∧ spec.pinned = false ∧
      spec.evictable = true ∧ r.idleSince = some i ∧ i + spec.ttlSeconds ≤ now := by
  simp only [ttlDue] at h
  split at h
  · rename_i r spec hr hspec
    simp only [Bool.and_eq_true, Bool.not_eq_true', decide_eq_true_eq] at h
    obtain ⟨⟨⟨⟨⟨⟨hs, hl⟩, hb⟩, hp⟩, he⟩, -⟩, hi⟩ := h
    split at hi
    · cases hi
    · rename_i i hidle
      exact ⟨r, spec, i, hr, hspec, hs, hl, hb, hp, he, hidle, by linarith [of_decide_eq_true hi]⟩
  · cases h

/-- **The TTL never stops a model that was in use.** In a run on a monotone clock, a model whose TTL
is due held no lease within the last `ttl_seconds`, was loaded no later than that, and is neither
pinned, protected, frozen nor in operation. Evictions and their rollbacks leave the idle period
alone. -/
theorem ttl_due_idle {policy : BookPolicy} {specs : Dict ModelId Registration} {b₀ b : Book}
    {t₀ t now : Time} {m : ModelId} (h₀ : init policy specs = .ok b₀)
    (hrun : Run timedStep (fun _ _ => True) (b₀, t₀) (b, t)) (hdue : b.ttlDue m now = true) :
    ∃ r spec, b.runtime.get? m = some r ∧ b.ledger.get? m = some spec ∧
      (∀ s, Run timedStep (fun _ _ => True) (b₀, t₀) s →
        Run timedStep (fun _ _ => True) s (b, t) →
        (s.1.runtimeOf m).hasLeases = true → s.2 + spec.ttlSeconds ≤ now) ∧
      (∀ b₁ t₁ op, op.modelId = m → Run timedStep (fun _ _ => True) (b₀, t₀) (b₁, t₁) →
        b₁.answer (.loaded op t₁) = .ok [] →
        Run timedStep (fun _ _ => True) (b₁.apply (.loaded op t₁), t₁) (b, t) →
        t₁ + spec.ttlSeconds ≤ now) ∧
      r.hasLeases = false ∧ r.admissionBlocked = false ∧ r.operationId = none ∧
      spec.pinned = false ∧ spec.evictable = true ∧
      (∀ (b₁ : Book) (ms : List ModelId) (automatic : Bool),
        ((b₁.beginEviction ms automatic).1.runtimeOf m).idleSince = (b₁.runtimeOf m).idleSince) ∧
      ∀ (b₁ : Book) (op : Operation),
        ((b₁.rollbackUnsent op).1.runtimeOf m).idleSince = (b₁.runtimeOf m).idleSince := by
  obtain ⟨r, spec, i, hr, hspec, hs, hl, hb, hp, he, hi, hle⟩ := ttlDue_iff hdue
  have hstart : Clocked t₀ (b₀, t₀) := init_clocked h₀
  have hidle : r.operationId = none := by
    obtain ⟨entry, -, hri⟩ := (hstart.run hrun).inv.record m r hr
    by_contra ho
    rcases hri.operation.mp ho with h | h <;> cases hs.symm.trans h
  refine ⟨r, spec, hr, hspec, ?_, ?_, hl, hb, hidle, hp, he,
    fun b₁ ms automatic => (beginEviction_path (.inl rfl) b₁ ms automatic).idleSince_eq,
    fun b₁ op => (rollbackUnsent_path (.inr rfl) b₁ op).idleSince_eq⟩
  · intro s hto hfrom hleases
    have hs := hstart.run hto
    -- a model with a lease does not count as idle at all
    have hbusy : s.1.IdleFrom m s.2 := by
      intro r₁ hr₁ i₁ hi₁
      have := (hs.busy m r₁ hr₁ i₁ hi₁).1
      simp [runtimeOf, hr₁, this] at hleases
    have := (hs.idleFrom hbusy (le_refl _) hfrom r hr i hi).2
    linarith
  · rintro b₁ t₁ op rfl hto hok hfrom
    have hs := hstart.run hto
    have hs' : Clocked t₀ (b₁.apply (.loaded op t₁), t₁) := (hs.next (a := .call (.loaded op t₁))
      (by simp [timedStep, Call.now])).1
    have hbusy : (b₁.apply (.loaded op t₁)).IdleFrom op.modelId t₁ := by
      intro r₁ hr₁ i₁ hi₁
      obtain ⟨r₂, hr₂, hi₂⟩ := loaded_idleSince hok
      cases hr₁.symm.trans hr₂
      cases hi₁.symm.trans hi₂
      exact ⟨(hs'.busy _ r₁ hr₁ _ hi₁).1, le_refl _⟩
    have := (hs'.idleFrom hbusy (le_refl _) hfrom r hr i hi).2
    linarith

/-- A deployment with one model that is stopped after an hour without requests. -/
def ttlSpecs : Dict ModelId Registration :=
  ⟨[("chat", .v1 { modelId := "chat", reservedBytes := 400, ttlSeconds := 3600 })], by decide⟩

def ttlRun : List Timed :=
  [.call (.bootstrapStopped "chat"), .call (.beginLoad "chat" ⟨2000, 1500, 0⟩ 0), .tick 10,
   .call (.loaded ⟨0, "chat", 1, 0⟩ 10), .call (.acquireReady "chat" "request-1" 10), .tick 20,
   .call (.release ⟨1, "request-1", "chat", 1⟩ .success 20 .absent), .tick 3620]

/-- The TTL is due an hour after the lease was released, ten seconds later than after the load. -/
theorem ttl_due_idle_sample :
    ∃ s, Run timedStep (fun _ _ => True) (built samplePolicy ttlSpecs, 0) s ∧
      s.1.ttlDue "chat" 3620 = true ∧
        ∃ r, s.1.runtime.get? "chat" = some r ∧ r.hasLeases = false := by
  obtain ⟨s, hrun, hdue⟩ := exists_run_to timedStep (fun _ _ => true)
    (built samplePolicy ttlSpecs, 0)
    ttlRun (fun s => s.1.ttlDue "chat" 3620 = true) (by decide +kernel)
  replace hrun : Run timedStep (fun _ _ => True) _ s := Run.mono (fun _ _ _ => trivial) hrun
  obtain ⟨r, spec, hr, -, -, -, hl, -⟩ := ttl_due_idle (init_eq_built (by decide +kernel)) hrun hdue
  exact ⟨s, hrun, hdue, r, hr, hl⟩

end Book

end ModelSwitch

import ModelSwitch.Proofs.Book.Invariant

/-!
# The memory budgets are never oversold

A load is the only edge that raises `committed`, and its gate keeps both ledgers within the model
budget. Everything else leaves `committed` alone, except for the three transitions that prove a
stop, which lower it.
-/

namespace ModelSwitch

/-! ### Reserved bytes -/

lemma positiveInt_ok {value v : ℤ} {field : String} (h : positiveInt value field = .ok v) :
    v = value ∧ 0 < value := by
  unfold positiveInt at h
  split_ifs at h with hle
  cases h
  exact ⟨rfl, not_le.mp hle⟩

/-- The margin never lowers a figure, so a reservation is always positive. -/
lemma effectiveReservedBytes_pos {reserved v : ℤ} {margin : Option ℚ}
    (h : effectiveReservedBytes reserved margin = .ok v) : 0 < v := by
  unfold effectiveReservedBytes at h
  split at h
  · cases h
  · rename_i r hr
    obtain ⟨rfl, hpos⟩ := positiveInt_ok hr
    split at h
    · cases h; exact hpos
    · rename_i m
      split_ifs at h with hm
      cases h
      refine Int.ceil_pos.mpr (mul_pos (by exact_mod_cast hpos) ?_)
      linarith [hm.1]

/-- A registration's figure is positive, with or without the legacy margin. -/
lemma LedgerSpec.fromRegistration_pos {reg : Registration} {margin : ℚ} {entry : LedgerSpec}
    (h : LedgerSpec.fromRegistration reg margin = .ok entry) :
    0 < entry.effectiveReservedBytes := by
  cases reg with
  | v1 spec =>
    simp only [LedgerSpec.fromRegistration] at h
    split at h
    · cases h
    · rename_i reserved hres
      cases h
      exact effectiveReservedBytes_pos hres
  | v2 spec =>
    simp only [LedgerSpec.fromRegistration] at h
    split at h
    · cases h
    · rename_i reserved hres
      split at h
      · cases h
        exact effectiveReservedBytes_pos hres
      · split at h
        · cases h
        · cases h
          exact effectiveReservedBytes_pos hres

namespace Book

variable {b b' : Book}

/-- Every registered reservation is positive. -/
def LedgerPos (b : Book) : Prop :=
  ∀ m entry, b.ledger.get? m = some entry → 0 < entry.effectiveReservedBytes

lemma init_ledgerPos {policy : BookPolicy} {specs : Dict ModelId Registration} {b : Book}
    (h : init policy specs = .ok b) : b.LedgerPos := by
  intro m entry hentry
  obtain ⟨spec, _, hspec⟩ := Dict.get?_mapValM (init_ok h).1 hentry
  exact LedgerSpec.fromRegistration_pos hspec

lemma Step.policy_eq {e : Edge} (h : Step e b b') :
    b'.policy = b.policy ∧ b'.physicalEnforced = b.physicalEnforced := by
  cases h <;> exact ⟨rfl, rfl⟩

lemma Path.static {allowed : Edge → Prop} (h : Path allowed b b') :
    b'.ledger = b.ledger ∧ b'.policy = b.policy ∧ b'.physicalEnforced = b.physicalEnforced := by
  refine h.invariant (I := fun c => c.ledger = b.ledger ∧ c.policy = b.policy ∧
    c.physicalEnforced = b.physicalEnforced) ?_ ⟨rfl, rfl, rfl⟩
  rintro c e c' ⟨hl, hp, he⟩ _ hs
  exact ⟨hs.ledger_eq.trans hl, hs.policy_eq.1.trans hp, hs.policy_eq.2.trans he⟩

/-! ### The model ledger -/

lemma committed_setRuntime {b : Book} {m : ModelId} {r : Runtime}
    (hr : b.runtime.get? m = some r) (r' : Runtime) (n : ℕ) :
    ({ b.setRuntime m r' with uuids := n } : Book).committed
      = b.committed - r.reservation + r'.reservation :=
  Dict.sum_set _ hr r'

/-- The edges that a stop proof takes. -/
def Edge.provesStop : Edge → Bool
  | .bootstrap | .stop | .leaveRecovery => true
  | _ => false

lemma Inv.reservation_nonneg {b : Book} (hinv : b.Inv) (hpos : b.LedgerPos) {m : ModelId}
    {r : Runtime} (hr : b.runtime.get? m = some r) : 0 ≤ r.reservation := by
  obtain ⟨entry, hentry, hri⟩ := hinv.record m r hr
  rw [hri.reservation]
  split_ifs
  · exact le_rfl
  · exact (hpos m entry hentry).le

/-- The gate of `begin_load`, read as facts about the record and the two ledgers. -/
lemma canLoadWith_iff {b : Book} {m : ModelId} {r : Runtime} {sample : MemorySample} {now : Time}
    (h : b.canLoadWith m r sample now = true) :
    b.recovering = false ∧ r.state = .unloaded ∧ r.hasLeases = false ∧
      b.committed + b.required m ≤ b.policy.modelBudget ∧ b.physicalAdmissible m = true := by
  simp only [canLoadWith, Bool.and_eq_true, Bool.not_eq_true', decide_eq_true_eq] at h
  tauto

/-- **What one edge does to `committed`**: a load raises it to at most the budget, a stop proof
lowers it, anything else leaves it alone. -/
theorem Step.committed {e : Edge} (h : Step e b b') (hinv : b.Inv)
    (hpos : b.LedgerPos) :
    (e = .load ∧ b.committed ≤ b'.committed ∧ b'.committed ≤ b.policy.modelBudget) ∨
    (Edge.provesStop e = true ∧ b'.committed ≤ b.committed) ∨ b'.committed = b.committed := by
  cases h with
  | @runtime _ _ m r r' n hr hstep =>
    have hnn := hinv.reservation_nonneg hpos hr
    obtain ⟨entry, hentry, hri⟩ := hinv.record m r hr
    have hreq : b.required m = entry.effectiveReservedBytes := by simp [required, hentry]
    rw [committed_setRuntime hr r' n]
    cases hstep with
    | load sample now hc =>
      obtain ⟨-, hs, -, hle, -⟩ := canLoadWith_iff hc
      have hzero : r.reservation = 0 := by simpa [hs] using hri.reservation
      have := hpos m entry hentry
      refine .inl ⟨rfl, ?_, ?_⟩ <;> simp only [hzero] <;> omega
    | bootstrap | stop => exact .inr (.inl ⟨rfl, by simp only; omega⟩)
    | release lease outcome now tokens =>
      right; right
      rw [(b.releaseRuntime_fields r lease outcome now tokens).2.2.2.2]
      omega
    | grant => exact .inr (.inr (by simp only [addHeat]; omega))
    | _ => exact .inr (.inr (by simp only; omega))
  | enterRecovery hrec =>
    right; right
    simp only [Book.committed, Dict.sum_mapVal]
    refine Dict.sum_congr fun m r _ => ?_
    unfold recoverRuntime
    split_ifs <;> rfl
  | leaveRecovery hrec hno =>
    refine .inr (.inl ⟨rfl, ?_⟩)
    simp only [Book.committed, Dict.sum_mapVal]
    exact Dict.sum_le_sum fun m r hr => by
      simpa [resetRuntime] using hinv.reservation_nonneg hpos hr

/-- Within budget, once, is within budget for good. -/
theorem Path.committed_le {allowed : Edge → Prop} (h : Path allowed b b')
    (hinv : b.Inv) (hpos : b.LedgerPos) (hle : b.committed ≤ b.policy.modelBudget) :
    b'.committed ≤ b'.policy.modelBudget := by
  refine (h.invariant (I := fun c => c.Inv ∧ c.LedgerPos ∧
    c.committed ≤ c.policy.modelBudget) ?_ ⟨hinv, hpos, hle⟩).2.2
  rintro c e c' ⟨hi, hp, hc⟩ _ hs
  refine ⟨hs.inv hi, fun m entry hentry => hp m entry (hs.ledger_eq ▸ hentry), ?_⟩
  rw [hs.policy_eq.1]
  rcases hs.committed hi hp with ⟨-, -, hb⟩ | ⟨-, hb⟩ | hb <;> omega

/-- Along edges that prove no stop, `committed` never falls. -/
theorem Path.committed_mono {allowed : Edge → Prop} (h : Path allowed b b')
    (hno : ∀ e, allowed e → Edge.provesStop e = false) (hinv : b.Inv) (hpos : b.LedgerPos) :
    b.committed ≤ b'.committed := by
  refine (h.invariant (I := fun c => c.Inv ∧ c.LedgerPos ∧ b.committed ≤ c.committed) ?_
    ⟨hinv, hpos, le_rfl⟩).2.2
  rintro c e c' ⟨hi, hp, hc⟩ he hs
  refine ⟨hs.inv hi, fun m entry hentry => hp m entry (hs.ledger_eq ▸ hentry), ?_⟩
  rcases hs.committed hi hp with ⟨-, hb, -⟩ | ⟨hstop, -⟩ | hb
  · omega
  · rw [hno e he] at hstop
    cases hstop
  · omega

/-! ### The physical ledger -/

/-- The physical figures of the models with a non-zero reservation. -/
def physicalTotal (b : Book) : ℤ :=
  b.runtime.sum fun m r => if r.reservation ≠ 0 then (b.physicalRequired m).getD 0 else 0

/-- Loading `m` adds its own figure to what the gate counted for the others. -/
lemma physicalTotal_setRuntime {b : Book} (hinv : b.Inv) (hpos : b.LedgerPos) {m : ModelId}
    {r : Runtime} (hr : b.runtime.get? m = some r) (hs : r.state = .unloaded) (r' : Runtime)
    (hr' : r'.reservation ≠ 0) (n : ℕ) :
    ({ b.setRuntime m r' with uuids := n } : Book).physicalTotal
      = (b.runtime.sum fun other r =>
          if other ≠ m ∧ 0 < r.reservation then (b.physicalRequired other).getD 0 else 0)
        + (b.physicalRequired m).getD 0 := by
  obtain ⟨entry, hentry, hri⟩ := hinv.record m r hr
  have hzero : r.reservation = 0 := by simpa [hs] using hri.reservation
  have hset := Dict.sum_set (d := b.runtime)
    (fun other r => if r.reservation ≠ 0 then (b.physicalRequired other).getD 0 else 0) hr r'
  have hsame : (b.runtime.sum fun other r =>
        if r.reservation ≠ 0 then (b.physicalRequired other).getD 0 else 0)
      = b.runtime.sum fun other r =>
          if other ≠ m ∧ 0 < r.reservation then (b.physicalRequired other).getD 0 else 0 := by
    refine Dict.sum_congr fun other r₁ hr₁ => ?_
    have hnn := hinv.reservation_nonneg hpos hr₁
    by_cases hm : other = m
    · subst hm
      rw [hr] at hr₁
      cases hr₁
      simp [hzero]
    · have : (r₁.reservation ≠ 0) ↔ 0 < r₁.reservation := by omega
      simp [hm, this]
  rw [hsame] at hset
  simp only [hzero, hr', ne_eq, not_true_eq_false, if_false, not_false_eq_true, if_true,
    sub_zero] at hset
  exact hset

/-- A successful `begin_load` keeps both ledgers within the budget. -/
theorem beginLoad_within {m : ModelId} {sample : MemorySample} {now : Time}
    {op : Operation} (hinv : b.Inv) (hpos : b.LedgerPos)
    (h : b.beginLoad m sample now = (b', .ok op)) :
    b'.committed ≤ b'.policy.modelBudget ∧
      (b'.physicalEnforced = true → b'.physicalTotal ≤ b'.policy.modelBudget) := by
  unfold beginLoad withRuntime at h
  split at h
  · cases h
  · rename_i r hr
    dsimp only at h
    split_ifs at h with hc
    · cases h
      have hstep := Step.runtime hr (RuntimeStep.load sample now hc)
      obtain ⟨entry, hentry, -⟩ := hinv.record m r hr
      have hreq : 0 < b.required m := by simpa [required, hentry] using hpos m entry hentry
      obtain ⟨-, hs, -, hle, hphys⟩ := canLoadWith_iff hc
      refine ⟨?_, fun henf => ?_⟩
      · rcases hstep.committed hinv hpos with ⟨-, -, hb⟩ | ⟨hstop, -⟩ | hb
        · exact hb
        · cases hstop
        · change _ = b.committed at hb
          exact le_trans hb.le (by change _ ≤ b.policy.modelBudget; omega)
      · have htotal := physicalTotal_setRuntime hinv hpos hr hs
          { r with generation := r.generation + 1, state := .loading,
                   reservation := b.required m, operationId := some b.uuids,
                   idleSince := none, lastError := none } (ne_of_gt hreq) (b.uuids + 1)
        have henf' : b.physicalEnforced = true := henf
        -- the gate has refused an unmeasured model, so the figure is there
        simp only [physicalAdmissible, henf', if_true] at hphys
        split at hphys
        · cases hphys
        · rename_i figure hfig
          rw [hfig] at htotal
          simp only [decide_eq_true_eq] at hphys
          exact htotal.le.trans hphys
    · cases h

/-! ### Runs -/

lemma Reachable.ledgerPos {policy : BookPolicy} {specs : Dict ModelId Registration} {b : Book}
    (h : Reachable policy specs b) : b.LedgerPos := by
  obtain ⟨b₀, h₀, hrun⟩ := h
  refine hrun.invariant ?_ (init_ledgerPos h₀)
  intro b c b' hpos _ hstep
  cases hstep
  rw [LedgerPos, (Call.path b c).static.1]
  exact hpos

/-- A run of calls is a path of edges. -/
lemma path_of_run (h : Run callStep (fun _ _ => True) b b') : Path (fun _ => True) b b' := by
  induction h with
  | refl => exact .refl _
  | tail c _ _ hstep ih =>
    cases hstep
    exact ih.trans ((Call.path _ c).mono fun _ _ => trivial)

/-- The calls that prove a stop. -/
def Call.provesStop : Call → Bool
  | .bootstrapStopped _ | .stopped _ _ | .finishRecovery _ _ => true
  | _ => false

lemma Call.provesStop_edge (c : Call) : Edge.provesStop c.edge = c.provesStop := by
  cases c <;> rfl

/-- **The budgets are never oversold.** In every reachable book: once `committed` is within the
model budget it stays there along every run; a successful `begin_load` leaves both ledgers within
it; and a call that lowers `committed` is one of the three that prove a stop. -/
theorem reachable_budget (policy : BookPolicy) (specs : Dict ModelId Registration) (b : Book)
    (h : Reachable policy specs b) :
    (∀ b', Run callStep (fun _ _ => True) b b' → b.committed ≤ b.policy.modelBudget →
      b'.committed ≤ b'.policy.modelBudget) ∧
    (∀ m sample now b' op, b.beginLoad m sample now = (b', .ok op) →
      b'.committed ≤ b'.policy.modelBudget ∧
      (b'.physicalEnforced = true → b'.physicalTotal ≤ b'.policy.modelBudget)) ∧
    (∀ c : Call, (b.apply c).committed < b.committed → c.provesStop = true) := by
  refine ⟨fun b' hrun hle => ?_, fun m sample now b' op hload => ?_, fun c hlt => ?_⟩
  · exact (path_of_run hrun).committed_le h.inv h.ledgerPos hle
  · exact beginLoad_within h.inv h.ledgerPos hload
  · by_contra hno
    have hmono := (Call.path b c).committed_mono (fun e he => ?_) h.inv h.ledgerPos
    · omega
    · rw [← he, c.provesStop_edge]
      simpa using hno

/-- The sample run has loaded a model under both ledgers. -/
theorem reachable_budget_sample :
    sampleBook.physicalEnforced = true ∧ 0 < sampleBook.committed ∧
    (∀ b', Run callStep (fun _ _ => True) sampleBook b' → b'.committed ≤ b'.policy.modelBudget) :=
  ⟨by decide +kernel, by decide +kernel, fun b' hrun =>
    (reachable_budget samplePolicy sampleSpecs sampleBook sampleBook_reachable).1 b' hrun
      (by decide +kernel)⟩

end Book

end ModelSwitch

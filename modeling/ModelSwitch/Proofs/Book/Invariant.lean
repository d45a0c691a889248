import ModelSwitch.Proofs.Book.Step

/-!
# The representation invariant of the book

`Book.RepInv` is the invariant a reader of the book relies on. It is not inductive by itself:
a released lease has to be the one filed under its identifier, and a drawn identifier has to be
new. `Book.Inv` adds the two facts that make it so, and every edge of the state table keeps it.
-/

namespace ModelSwitch

namespace Book

/-! ### Releasing a lease touches the lease and the counters only -/

section Release

variable (b : Book) (r : Runtime) (lease : Lease) (outcome : Outcome) (now : Time)
  (tokens : TokenCount)

lemma settleOutcome_fields :
    (b.settleOutcome r outcome now tokens).leases = r.leases ∧
    (b.settleOutcome r outcome now tokens).cancelling = r.cancelling ∧
    (b.settleOutcome r outcome now tokens).generation = r.generation ∧
    (b.settleOutcome r outcome now tokens).operationId = r.operationId ∧
    (b.settleOutcome r outcome now tokens).reservation = r.reservation := by
  cases outcome <;> cases tokens <;> simp [settleOutcome, addHeat]

/-- Only an aborted request moves the model, and it moves it to `ERROR`. -/
lemma settleOutcome_state :
    (b.settleOutcome r outcome now tokens).state = r.state ∨
    (b.settleOutcome r outcome now tokens).state = .error := by
  cases outcome <;> cases tokens <;> simp [settleOutcome, addHeat]

lemma releaseRuntime_fields :
    (b.releaseRuntime r lease outcome now tokens).leases = r.leases.erase lease.leaseId ∧
    (b.releaseRuntime r lease outcome now tokens).cancelling
      = r.cancelling.erase lease.leaseId ∧
    (b.releaseRuntime r lease outcome now tokens).generation = r.generation ∧
    (b.releaseRuntime r lease outcome now tokens).operationId = r.operationId ∧
    (b.releaseRuntime r lease outcome now tokens).reservation = r.reservation := by
  unfold releaseRuntime
  have hf := b.settleOutcome_fields
    { r with leases := r.leases.erase lease.leaseId,
             cancelling := r.cancelling.erase lease.leaseId } outcome now tokens
  dsimp only at hf ⊢
  split_ifs <;> exact hf

lemma releaseRuntime_state :
    (b.releaseRuntime r lease outcome now tokens).state = r.state ∨
    (b.releaseRuntime r lease outcome now tokens).state = .error := by
  unfold releaseRuntime
  have hs := b.settleOutcome_state
    { r with leases := r.leases.erase lease.leaseId,
             cancelling := r.cancelling.erase lease.leaseId } outcome now tokens
  dsimp only at hs ⊢
  split_ifs <;> exact hs

end Release

end Book

/-! ### One record -/

namespace Runtime

lemma hasLeases_iff {r : Runtime} : r.hasLeases = true ↔ ∃ k l, r.leases.get? k = some l := by
  constructor
  · intro h
    by_contra hne
    push Not at hne
    have hnil := Dict.entries_eq_nil_of_get? (d := r.leases) fun k =>
      Option.eq_none_iff_forall_ne_some.mpr (hne k)
    simp [hasLeases, hnil] at h
  · rintro ⟨k, l, h⟩
    have hmem := Dict.mem_entries_iff.mpr h
    simp [hasLeases, List.ne_nil_of_mem hmem]

lemma hasLeases_eq_false {r : Runtime} : r.hasLeases = false ↔ ∀ k, r.leases.get? k = none := by
  rw [← Bool.not_eq_true, hasLeases_iff]
  push Not
  simp only [ne_eq, Option.eq_none_iff_forall_ne_some]

/-- The invariant of the record of model `m`, registered as `entry`. -/
structure Inv (m : ModelId) (entry : LedgerSpec) (uuids : ℕ) (r : Runtime) : Prop where
  reservation : r.reservation = if r.state = .unloaded then 0 else entry.effectiveReservedBytes
  operation : r.operationId ≠ none ↔ r.state = .loading ∨ r.state = .evicting
  leases_state : r.hasLeases = true → r.state = .ready ∨ r.state = .error
  leases_le : (r.leases.size : ℤ) ≤ entry.maxConcurrency
  cancelling : ∀ k l, r.cancelling.get? k = some l → r.leases.get? k = some l
  lease : ∀ k l, r.leases.get? k = some l →
    l.leaseId = k ∧ l.modelId = m ∧ l.generation = r.generation ∧ k < uuids

variable {m : ModelId} {entry : LedgerSpec} {uuids : ℕ} {r r' : Runtime}

/-- An idle record has nothing to cancel and no lease to date, so only its reservation and its
operation are left to check. -/
lemma Inv.of_idle (h : r.Inv m entry uuids) (hl : r.hasLeases = false)
    (hleases : r'.leases = r.leases) (hcancelling : r'.cancelling = r.cancelling)
    (hres : r'.reservation = if r'.state = .unloaded then 0 else entry.effectiveReservedBytes)
    (hop : r'.operationId ≠ none ↔ r'.state = .loading ∨ r'.state = .evicting) (n : ℕ) :
    r'.Inv m entry n where
  reservation := hres
  operation := hop
  leases_state := by
    have hl' : r'.hasLeases = r.hasLeases := by simp [hasLeases, hleases]
    simp [hl', hl]
  leases_le := hleases ▸ h.leases_le
  cancelling := by
    intro k l hk
    have hold := h.cancelling k l (hcancelling ▸ hk)
    rw [hasLeases_eq_false.mp hl k] at hold
    cases hold
  lease := by
    intro k l hk
    rw [hleases, hasLeases_eq_false.mp hl k] at hk
    cases hk

/-- Drawing further identifiers keeps the record's invariant. -/
lemma Inv.mono {n : ℕ} (h : r.Inv m entry uuids) (hn : uuids ≤ n) : r.Inv m entry n :=
  { h with
    lease := fun k l hk =>
      let ⟨h₁, h₂, h₃, h₄⟩ := h.lease k l hk
      ⟨h₁, h₂, h₃, lt_of_lt_of_le h₄ hn⟩ }

end Runtime

/-- Every edge of the state table keeps the record's invariant. -/
theorem RuntimeStep.inv {b : Book} {m : ModelId} {entry : LedgerSpec} {r r' : Runtime} {e : Edge}
    {n : ℕ} (hentry : b.ledger.get? m = some entry) (h : RuntimeStep b m r e r' n)
    (hinv : r.Inv m entry b.uuids) : r'.Inv m entry n := by
  have hreq : b.required m = entry.effectiveReservedBytes := by simp [Book.required, hentry]
  have hmax : b.maxConcurrency m = entry.maxConcurrency := by simp [Book.maxConcurrency, hentry]
  cases h with
  | bootstrap hs ho hl =>
    exact hinv.of_idle hl (by rfl) (by rfl) (by simp) (by simp [ho]) _
  | load sample now hc =>
    have hl : r.hasLeases = false := by
      simp only [Book.canLoadWith, Bool.and_eq_true, Bool.not_eq_true'] at hc
      tauto
    exact hinv.of_idle hl (by rfl) (by rfl) (by simp [hreq]) (by simp) _
  | loaded now hs =>
    exact { hinv with
      reservation := by simpa [hs] using hinv.reservation
      operation := by simp
      leases_state := by simp }
  | failed code ho =>
    have hs := hinv.operation.mp ho
    refine { hinv with reservation := ?_, operation := by simp, leases_state := by simp }
    rcases hs with hs | hs <;> simpa [hs] using hinv.reservation
  | grant request now hr hs hb hc hq =>
    have hop : r.operationId = none := by
      by_contra hne
      simpa [hs] using hinv.operation.mp hne
    -- the identifier was never drawn before, so it files a new lease
    have hfresh : r.leases.get? b.uuids = none := by
      rw [Option.eq_none_iff_forall_ne_some]
      intro l hl
      exact absurd (hinv.lease _ _ hl).2.2.2 (lt_irrefl _)
    refine ⟨by simpa [Book.addHeat, hs] using hinv.reservation, by simp [Book.addHeat, hop, hs],
      by simp [Book.addHeat, hs], ?_, ?_, ?_⟩
    · simp only [Book.addHeat, Dict.size_set_of_get?_none hfresh]
      push_cast
      omega
    · intro k l hk
      have hold := hinv.cancelling k l hk
      have hne : k ≠ b.uuids := by
        rintro rfl
        rw [hfresh] at hold
        cases hold
      simpa [Book.addHeat, Dict.get?_set_ne _ _ hne] using hold
    · intro k l hk
      simp only [Book.addHeat, Dict.get?_set] at hk ⊢
      split_ifs at hk with heq
      · cases hk
        exact ⟨heq.symm, rfl, rfl, heq ▸ Nat.lt_succ_self _⟩
      · obtain ⟨h₁, h₂, h₃, h₄⟩ := hinv.lease k l hk
        exact ⟨h₁, h₂, h₃, Nat.lt_succ_of_lt h₄⟩
  | release lease outcome now tokens hm hh =>
    obtain ⟨hl, hc, hg, ho, hres⟩ := b.releaseRuntime_fields r lease outcome now tokens
    have hst := b.releaseRuntime_state r lease outcome now tokens
    simp only [Book.holds, decide_eq_true_eq] at hh
    have hheld : r.state = .ready ∨ r.state = .error :=
      hinv.leases_state (Runtime.hasLeases_iff.mpr ⟨_, _, hh.1⟩)
    -- a record that holds a lease is `READY` or `ERROR`, and stays so
    have hstate : (b.releaseRuntime r lease outcome now tokens).state = .ready ∨
        (b.releaseRuntime r lease outcome now tokens).state = .error := by
      rcases hst with hst | hst
      · rwa [hst]
      · exact .inr hst
    have hop : r.operationId = none := by
      by_contra hne
      have := hinv.operation.mp hne
      rcases hheld with hs | hs <;> simp [hs] at this
    refine ⟨?_, ?_, fun _ => hstate, ?_, ?_, ?_⟩
    · rw [hres, hinv.reservation]
      rcases hheld with hs | hs <;> rcases hstate with hs' | hs' <;> simp [hs, hs']
    · rw [ho, hop]
      rcases hstate with hs' | hs' <;> simp [hs']
    · rw [hl]
      exact le_trans (by exact_mod_cast Dict.size_erase_le _ _) hinv.leases_le
    · intro k l hk
      rw [hc, Dict.get?_erase] at hk
      rw [hl, Dict.get?_erase]
      split_ifs at hk ⊢ with heq
      exact hinv.cancelling k l hk
    · intro k l hk
      rw [hl, Dict.get?_erase] at hk
      split_ifs at hk with heq
      rw [hg]
      exact hinv.lease k l hk
  | cancel lease hm hh =>
    simp only [Book.holds, decide_eq_true_eq] at hh
    refine { hinv with cancelling := ?_ }
    intro k l hk
    simp only [Dict.get?_set] at hk
    split_ifs at hk with heq
    · cases hk
      rw [heq]
      exact hh.1
    · exact hinv.cancelling k l hk
  | evict hrec hs hl ho =>
    refine hinv.of_idle hl (by rfl) (by rfl) ?_ (by simp) _
    rcases hs with hs | hs <;> simpa [hs] using hinv.reservation
  | block hs | unblock hs => exact { hinv with }
  | rollback hs hl =>
    exact hinv.of_idle hl (by rfl) (by rfl) (by simpa [hs] using hinv.reservation) (by simp) _
  | stop now hs hl =>
    exact hinv.of_idle hl (by rfl) (by rfl) (by simp) (by simp) _

/-- Entering recovery keeps a record's invariant: it clears the operation and leaves the leases. -/
lemma Book.recoverRuntime_inv {m : ModelId} {entry : LedgerSpec} {n : ℕ} {r : Runtime}
    (h : r.Inv m entry n) : (Book.recoverRuntime r).Inv m entry n := by
  unfold Book.recoverRuntime
  split_ifs with hs
  · exact { h with operation := by simp [hs] }
  · exact { h with
      reservation := by simpa [hs] using h.reservation
      operation := by simp
      leases_state := by simp }

lemma Book.resetRuntime_inv {m : ModelId} {entry : LedgerSpec} {n : ℕ} {r : Runtime}
    (h : r.Inv m entry n) (hl : r.hasLeases = false) : (Book.resetRuntime r).Inv m entry n :=
  h.of_idle hl (by rfl) (by rfl) (by simp [Book.resetRuntime]) (by simp [Book.resetRuntime]) _

/-! ### The book -/

namespace Book

/-- Model `m` holds `lease` under the identifier `k`. -/
def Held (b : Book) (m : ModelId) (k : Uuid) (lease : Lease) : Prop :=
  ∃ r, b.runtime.get? m = some r ∧ r.leases.get? k = some lease

/-- The inductive invariant. -/
structure Inv (b : Book) : Prop where
  record : ∀ m r, b.runtime.get? m = some r →
    ∃ entry, b.ledger.get? m = some entry ∧ r.Inv m entry b.uuids
  request_unique : ∀ {m k l m' k' l'}, b.Held m k l → b.Held m' k' l' →
    l.requestId = l'.requestId → m = m' ∧ k = k'

/-- Only a grant files a lease; every other edge leaves or removes what is held. -/
lemma Step.held {b b' : Book} {e : Edge} (h : Step e b b') (he : e ≠ .grant) {m : ModelId}
    {k : Uuid} {l : Lease} (hl : b'.Held m k l) : b.Held m k l := by
  obtain ⟨r₁, hr₁, hk⟩ := hl
  cases h with
  | @runtime _ _ m₀ r r' n hr hstep =>
    simp only [setRuntime, Dict.get?_set] at hr₁
    split_ifs at hr₁ with heq
    · cases hr₁
      subst heq
      refine ⟨r, hr, ?_⟩
      cases hstep with
      | grant => exact absurd rfl he
      | release lease outcome now tokens hm hh =>
        rw [(b.releaseRuntime_fields r lease outcome now tokens).1, Dict.get?_erase] at hk
        split_ifs at hk
        exact hk
      | _ => exact hk
    · exact ⟨r₁, hr₁, hk⟩
  | enterRecovery hrec =>
    simp only [Dict.get?_mapVal, Option.map_eq_some_iff] at hr₁
    obtain ⟨r, hr, rfl⟩ := hr₁
    refine ⟨r, hr, ?_⟩
    unfold recoverRuntime at hk
    split_ifs at hk <;> exact hk
  | leaveRecovery hrec hno =>
    simp only [Dict.get?_mapVal, Option.map_eq_some_iff] at hr₁
    obtain ⟨r, hr, rfl⟩ := hr₁
    exact ⟨r, hr, hk⟩

lemma ownsLease_eq_false {b : Book} {request : RequestId} (h : b.ownsLease request = false)
    {m : ModelId} {k : Uuid} {l : Lease} (hl : b.Held m k l) : l.requestId ≠ request := by
  obtain ⟨r, hr, hk⟩ := hl
  simp only [ownsLease, List.any_eq_false, List.any_eq_true, not_exists, not_and,
    decide_eq_true_eq] at h
  exact h r (Dict.mem_values_iff.mpr ⟨m, hr⟩) l (Dict.mem_values_iff.mpr ⟨k, hk⟩)

/-- What a grant files is new, and the request behind it held nothing before. -/
lemma held_grant {b : Book} {m₀ : ModelId} {r r' : Runtime} {n : ℕ}
    (hr : b.runtime.get? m₀ = some r) (h : RuntimeStep b m₀ r .grant r' n) :
    ∃ request, b.ownsLease request = false ∧
      ∀ m k l, ({ b.setRuntime m₀ r' with uuids := n } : Book).Held m k l →
        b.Held m k l ∨ (m = m₀ ∧ k = b.uuids ∧ l = ⟨b.uuids, request, m₀, r.generation⟩) := by
  cases h with
  | grant request now hrec hs hb hc hq =>
    refine ⟨request, hq, ?_⟩
    rintro m k l ⟨r₁, hr₁, hk⟩
    simp only [setRuntime, Dict.get?_set] at hr₁
    split_ifs at hr₁ with heq
    · cases hr₁
      simp only [addHeat, Dict.get?_set] at hk
      split_ifs at hk with hkk
      · cases hk
        exact .inr ⟨heq, hkk, rfl⟩
      · exact .inl ⟨r, heq ▸ hr, hk⟩
    · exact .inl ⟨r₁, hr₁, hk⟩

lemma Step.uuids_le {b b' : Book} {e : Edge} (h : Step e b b') : b.uuids ≤ b'.uuids := by
  cases h with
  | runtime hr hstep => cases hstep <;> simp
  | _ => simp

lemma Step.ledger_eq {b b' : Book} {e : Edge} (h : Step e b b') : b'.ledger = b.ledger := by
  cases h <;> rfl

/-- **Every edge keeps the invariant of the book.** -/
theorem Step.inv {b b' : Book} {e : Edge} (h : Step e b b') (hinv : b.Inv) : b'.Inv := by
  constructor
  · intro m r₁ hr₁
    cases h with
    | @runtime _ _ m₀ r r' n hr hstep =>
      have hn : b.uuids ≤ n := (Step.runtime hr hstep).uuids_le
      simp only [setRuntime, Dict.get?_set] at hr₁
      split_ifs at hr₁ with heq
      · cases hr₁
        subst heq
        obtain ⟨entry, hentry, hri⟩ := hinv.record m r hr
        exact ⟨entry, hentry, hstep.inv hentry hri⟩
      · obtain ⟨entry, hentry, hri⟩ := hinv.record m r₁ hr₁
        exact ⟨entry, hentry, hri.mono hn⟩
    | enterRecovery hrec =>
      simp only [Dict.get?_mapVal, Option.map_eq_some_iff] at hr₁
      obtain ⟨r, hr, rfl⟩ := hr₁
      obtain ⟨entry, hentry, hri⟩ := hinv.record m r hr
      exact ⟨entry, hentry, recoverRuntime_inv hri⟩
    | leaveRecovery hrec hno =>
      simp only [Dict.get?_mapVal, Option.map_eq_some_iff] at hr₁
      obtain ⟨r, hr, rfl⟩ := hr₁
      obtain ⟨entry, hentry, hri⟩ := hinv.record m r hr
      have hl : r.hasLeases = false := by
        simp only [anyLeases, List.any_eq_false, Bool.not_eq_true] at hno
        exact hno r (Dict.mem_values_iff.mpr ⟨m, hr⟩)
      exact ⟨entry, hentry, resetRuntime_inv hri hl⟩
  · intro m k l m' k' l' hl hl' hreq
    by_cases he : e = .grant
    · -- a grant files one new lease, for a request that held none
      subst he
      cases h with
      | @runtime _ _ m₀ r r' n hr hstep =>
        obtain ⟨request, hq, hcases⟩ := held_grant hr hstep
        rcases hcases m k l hl with ho | ⟨rfl, rfl, rfl⟩ <;>
          rcases hcases m' k' l' hl' with ho' | ⟨rfl, rfl, rfl⟩
        · exact hinv.request_unique ho ho' hreq
        · exact absurd hreq (ownsLease_eq_false hq ho)
        · exact absurd hreq.symm (ownsLease_eq_false hq ho')
        · exact ⟨rfl, rfl⟩
    · exact hinv.request_unique (h.held he hl) (h.held he hl') hreq

lemma Path.inv {allowed : Edge → Prop} {b b' : Book} (h : Path allowed b b') (hinv : b.Inv) :
    b'.Inv :=
  h.invariant (fun _ _ _ hi _ hs => hs.inv hi) hinv

/-! ### Runs of the book -/

variable {policy : BookPolicy} {specs : Dict ModelId Registration} {b : Book}

/-- What `init` builds where it accepts its arguments. -/
lemma init_ok (h : init policy specs = .ok b) :
    (specs.mapValM fun _ spec => LedgerSpec.fromRegistration spec policy.margin) = .ok b.ledger ∧
      (∀ entry ∈ b.ledger.values, 0 < entry.maxConcurrency) ∧ b.specs = specs ∧
      b.recovering = false ∧
      b.runtime =
        b.ledger.mapVal fun _ entry => { reservation := entry.effectiveReservedBytes } := by
  simp only [init] at h
  split_ifs at h
  split at h
  · cases h
  · rename_i ledger hledger
    split_ifs at h with hconc
    cases h
    exact ⟨hledger, by simpa using hconc, rfl, rfl, rfl⟩

/-- Every model of a freshly built book is `UNKNOWN` and keeps its budget. -/
lemma init_record (h : init policy specs = .ok b) {m : ModelId} {r : Runtime}
    (hr : b.runtime.get? m = some r) :
    ∃ entry, b.ledger.get? m = some entry ∧
      r = { reservation := entry.effectiveReservedBytes } := by
  rw [(init_ok h).2.2.2.2, Dict.get?_mapVal, Option.map_eq_some_iff] at hr
  obtain ⟨entry, hentry, rfl⟩ := hr
  exact ⟨entry, hentry, rfl⟩

theorem init_inv
    (h : init policy specs = .ok b) : b.Inv := by
  constructor
  · intro m r hr
    obtain ⟨entry, hentry, rfl⟩ := init_record h hr
    have hpos := (init_ok h).2.1 entry (Dict.mem_values_iff.mpr ⟨m, hentry⟩)
    refine ⟨entry, hentry, by simp, by simp, by simp [Runtime.hasLeases, Dict.empty], ?_,
      by simp, by simp⟩
    simpa [Dict.size, Dict.empty] using hpos.le
  · rintro m k l m' k' l' ⟨r, hr, hk⟩ _ _
    obtain ⟨entry, -, rfl⟩ := init_record h hr
    simp at hk

theorem Reachable.inv
    (h : Reachable policy specs b) : b.Inv := by
  obtain ⟨b₀, h₀, hrun⟩ := h
  refine hrun.invariant ?_ (init_inv h₀)
  intro b c b' hinv _ hstep
  cases hstep
  exact (Call.path b c).inv hinv

/-- The representation invariant, as a reader of the book states it. -/
structure RepInv (b : Book) : Prop where
  /-- A model keeps its whole reservation until its stop is proven. -/
  reservation : ∀ m r, b.runtime.get? m = some r → ∃ entry, b.ledger.get? m = some entry ∧
    r.reservation = if r.state = .unloaded then 0 else entry.effectiveReservedBytes
  operation : ∀ m r, b.runtime.get? m = some r →
    (r.operationId ≠ none ↔ r.state = .loading ∨ r.state = .evicting)
  leases_state : ∀ m r, b.runtime.get? m = some r →
    r.hasLeases = true → r.state = .ready ∨ r.state = .error
  leases_le : ∀ m r, b.runtime.get? m = some r → ∃ entry, b.ledger.get? m = some entry ∧
    (r.leases.size : ℤ) ≤ entry.maxConcurrency
  cancelling : ∀ m r k l, b.runtime.get? m = some r →
    r.cancelling.get? k = some l → r.leases.get? k = some l
  lease_generation : ∀ m r k l, b.runtime.get? m = some r →
    r.leases.get? k = some l → l.generation = r.generation
  /-- No request owns two leases anywhere in the book. -/
  request_unique : ∀ m k l m' k' l', b.Held m k l → b.Held m' k' l' →
    l.requestId = l'.requestId → m = m' ∧ k = k'

/-- The inductive invariant gives the representation invariant. -/
lemma Inv.repInv (h : b.Inv) : b.RepInv where
  reservation m r hr :=
    let ⟨entry, hentry, hri⟩ := h.record m r hr
    ⟨entry, hentry, hri.reservation⟩
  operation m r hr :=
    let ⟨_, _, hri⟩ := h.record m r hr
    hri.operation
  leases_state m r hr :=
    let ⟨_, _, hri⟩ := h.record m r hr
    hri.leases_state
  leases_le m r hr :=
    let ⟨entry, hentry, hri⟩ := h.record m r hr
    ⟨entry, hentry, hri.leases_le⟩
  cancelling m r k l hr hk :=
    let ⟨_, _, hri⟩ := h.record m r hr
    hri.cancelling k l hk
  lease_generation m r k l hr hk :=
    let ⟨_, _, hri⟩ := h.record m r hr
    (hri.lease k l hk).2.2.1
  request_unique _ _ _ _ _ _ hl hl' hreq := h.request_unique hl hl' hreq

/-- **The representation invariant holds in every reachable book**, whatever sequence of calls,
raising ones included, led to it. -/
theorem reachable_repInv (policy : BookPolicy) (specs : Dict ModelId Registration) (b : Book)
    (h : Reachable policy specs b) : b.RepInv :=
  h.inv.repInv

/-! ### A small deployment -/

/-- A v1 and a measured v2 registration side by side. -/
def sampleSpecs : Dict ModelId Registration :=
  ⟨[("chat", .v1 { modelId := "chat", reservedBytes := 400 }),
    ("embed", .v2 { modelId := "embed", maxParallel := 2, reservedBytes := 300,
                    physicalResidentPeakBytes := some 200 })], by decide⟩

def samplePolicy : BookPolicy :=
  { modelBudget := 1000, freeFloor := 10, margin := 0,
    halfPow := fun x => if x = 0 then 1 else 1 / 2 }

/-- The book `init` builds, where it accepts its arguments. -/
def built (policy : BookPolicy) (specs : Dict ModelId Registration) : Book :=
  match init policy specs with
  | .ok b => b
  | .error _ => ⟨policy, specs, Dict.empty, Dict.empty, false, 0, false, 0⟩

def accepts (policy : BookPolicy) (specs : Dict ModelId Registration) : Bool :=
  match init policy specs with
  | .ok _ => true
  | .error _ => false

lemma init_eq_built
    (h : accepts policy specs = true) : init policy specs = .ok (built policy specs) := by
  unfold accepts at h
  unfold built
  split at h
  · rename_i b hb
    simp [hb]
  · cases h

/-- Whatever is called on a book that `init` accepts, the book stays reachable. -/
lemma built_reachable (h : accepts policy specs = true) (cs : List Call) :
    Reachable policy specs (cs.foldl apply (built policy specs)) := by
  refine ⟨_, init_eq_built h, ?_⟩
  induction cs using List.reverseRecOn with
  | nil => exact .refl _
  | append_singleton cs c ih =>
    rw [List.foldl_append]
    exact .tail c ih trivial rfl

/-- Bootstrap, load and grant on the small deployment. -/
def sampleCalls : List Call :=
  [.bootstrapStopped "chat", .bootstrapStopped "embed", .beginLoad "embed" ⟨2000, 1500, 0⟩ 0,
   .loaded ⟨0, "embed", 1, 0⟩ 0, .acquireReady "embed" "request-1" 0]

def sampleBook : Book := sampleCalls.foldl apply (built samplePolicy sampleSpecs)

theorem sampleBook_reachable : Reachable samplePolicy sampleSpecs sampleBook :=
  built_reachable (by decide +kernel) _

/-- The sample run ends with a lease held, so the invariant is not about an empty book. -/
theorem reachable_repInv_sample : sampleBook.anyLeases = true ∧ sampleBook.RepInv :=
  ⟨by decide +kernel, reachable_repInv samplePolicy sampleSpecs sampleBook sampleBook_reachable⟩

end Book

end ModelSwitch

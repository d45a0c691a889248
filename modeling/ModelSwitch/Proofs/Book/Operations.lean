import ModelSwitch.Proofs.Book.Invariant

/-!
# Operation tokens

A token names one attempt to load or stop a model. Identifiers are drawn once, so a token of a stop
can only ever be current on a record that is `EVICTING`, whatever else happens to the book.
-/

namespace ModelSwitch

namespace Book

variable {b b' : Book}

/-- An edge keeps the operation of a record with its state, clears it, or draws a new one. -/
lemma RuntimeStep.operation {m : ModelId} {entry : LedgerSpec} {r r' : Runtime} {e : Edge} {n : ℕ}
    (hinv : r.Inv m entry b.uuids) (h : RuntimeStep b m r e r' n) {k : Uuid}
    (hk : r'.operationId = some k) :
    (r.operationId = some k ∧ r'.state = r.state) ∨
      (k = b.uuids ∧ n = b.uuids + 1 ∧ (e = .load ∨ e = .evict)) := by
  cases h with
  | bootstrap hs ho hl =>
    dsimp only at hk
    rw [ho] at hk
    cases hk
  | load sample now hc =>
    cases hk
    exact .inr ⟨rfl, rfl, .inl rfl⟩
  | evict hr hs hl ho =>
    cases hk
    exact .inr ⟨rfl, rfl, .inr rfl⟩
  | grant request now hr hs hb hc hq => exact .inl ⟨hk, rfl⟩
  | release lease outcome now tokens hm hh =>
    -- a record that holds a lease has no operation
    rw [(b.releaseRuntime_fields r lease outcome now tokens).2.2.2.1] at hk
    simp only [Book.holds, decide_eq_true_eq] at hh
    have hstate := hinv.leases_state (Runtime.hasLeases_iff.mpr ⟨_, _, hh.1⟩)
    have hop := hinv.operation.mp (by simp [hk])
    rcases hstate with hs | hs <;> simp [hs] at hop
  | cancel lease hm hh | block hs | unblock hs => exact .inl ⟨hk, rfl⟩
  | _ => cases hk

lemma Step.operation {e : Edge} (h : Step e b b') (hinv : b.Inv) {m : ModelId} {r' : Runtime}
    {k : Uuid} (hr' : b'.runtime.get? m = some r') (hk : r'.operationId = some k) :
    (∃ r, b.runtime.get? m = some r ∧ r.operationId = some k ∧ r'.state = r.state) ∨
      (k = b.uuids ∧ b'.uuids = b.uuids + 1 ∧ (e = .load ∨ e = .evict)) := by
  cases h with
  | @runtime _ _ m₀ r r₁ n hr hstep =>
    simp only [setRuntime, Dict.get?_set] at hr'
    split_ifs at hr' with heq
    · cases hr'
      subst heq
      obtain ⟨entry, -, hri⟩ := hinv.record m r hr
      rcases RuntimeStep.operation hri hstep hk with ⟨ho, hs⟩ | hnew
      · exact .inl ⟨r, hr, ho, hs⟩
      · exact .inr hnew
    · exact .inl ⟨r', hr', hk, rfl⟩
  | enterRecovery hrec =>
    simp only [Dict.get?_mapVal, Option.map_eq_some_iff] at hr'
    obtain ⟨r, -, rfl⟩ := hr'
    unfold recoverRuntime at hk
    split_ifs at hk
  | leaveRecovery hrec hl =>
    simp only [Dict.get?_mapVal, Option.map_eq_some_iff] at hr'
    obtain ⟨r, -, rfl⟩ := hr'
    cases hk

/-- No model leaves the book. -/
lemma Step.known {e : Edge} (h : Step e b b') {m : ModelId} {r : Runtime}
    (hr : b.runtime.get? m = some r) : ∃ r', b'.runtime.get? m = some r' := by
  cases h with
  | @runtime _ _ m₀ r₀ r' n hr₀ hstep =>
    simp only [setRuntime, Dict.get?_set]
    split_ifs
    · exact ⟨r', rfl⟩
    · exact ⟨r, hr⟩
  | enterRecovery hrec => exact ⟨recoverRuntime r, by simp [Dict.get?_mapVal, hr]⟩
  | leaveRecovery hrec hl => exact ⟨resetRuntime r, by simp [Dict.get?_mapVal, hr]⟩

/-! ### The tokens of a batch -/

/-- Only the models of the batch are marked. -/
lemma markEvicting_get?_of_notMem {ms : List ModelId} {m : ModelId} (hm : m ∉ ms) :
    (b.markEvicting ms).1.runtime.get? m = b.runtime.get? m := by
  induction ms generalizing b with
  | nil => rfl
  | cons m' ms ih =>
    obtain ⟨hne, hm⟩ := not_or.mp (List.mem_cons.not.mp hm)
    simp only [markEvicting]
    split
    · rfl
    · rw [ih hm]
      exact Dict.get?_set_ne _ _ hne

lemma beginCleanup_get?_of_notMem {ms : List ModelId} {m : ModelId} (hm : m ∉ ms) :
    (b.beginCleanup ms).1.runtime.get? m = b.runtime.get? m := by
  rcases beginCleanup_cases b ms with ⟨e, heq⟩ | ⟨-, heq⟩
  · rw [heq]
  · rw [heq]
    exact markEvicting_get?_of_notMem hm

end Book

end ModelSwitch

import ModelSwitch.Proofs.Eviction

/-!
# Operation tokens are linear, and a refused call changes nothing

A token settles at most one attempt: the call that succeeds with it clears it from the record, and
its identifier is not drawn again. Every check of a transition comes before its first write, also
where a transition goes over a batch of models.
-/

namespace ModelSwitch

namespace Book

variable {b b' : Book} {op : Operation} {c : Call} {ms : List ModelId}

/-! ### The tokens of a run -/

/-- The operation that a call settles. -/
def Call.settles : Call → Option Operation
  | .loaded op _ | .failed op _ | .rollbackUnsent op | .stopped op _ => some op
  | _ => none

/-- `StaleOperation` or `Conflict` was raised. -/
def Refused (answer : Except Exc (List Operation)) : Prop :=
  (∃ k, answer = .error (.staleOperation k)) ∨ ∃ message, answer = .error (.conflict message)

/-- The book has handed out `op`. -/
structure Issued (b : Book) (op : Operation) : Prop where
  known : ∃ r, b.runtime.get? op.modelId = some r
  drawn : op.operationId < b.uuids
  epoch : op.epoch ≤ b.epoch

/-- `op` was handed out and can never be current again. -/
structure Spent (b : Book) (op : Operation) : Prop extends b.Issued op where
  past : op.epoch < b.epoch ∨ ∀ r, b.runtime.get? op.modelId = some r →
    r.operationId ≠ some op.operationId

lemma Step.epoch_le {e : Edge} (h : Step e b b') : b.epoch ≤ b'.epoch := by
  cases h <;> simp [setRuntime]

lemma Step.issued {e : Edge} (h : Step e b b') (hop : b.Issued op) : b'.Issued op := by
  obtain ⟨r, hr⟩ := hop.known
  exact ⟨h.known hr, hop.drawn.trans_le h.uuids_le, hop.epoch.trans h.epoch_le⟩

lemma Step.spent {e : Edge} (h : Step e b b') (hinv : b.Inv) (hop : b.Spent op) : b'.Spent op := by
  refine ⟨h.issued hop.toIssued, ?_⟩
  rcases hop.past with hlt | hpast
  · exact .inl (hlt.trans_le h.epoch_le)
  · refine .inr fun r' hr' hk => ?_
    rcases h.operation hinv hr' hk with ⟨r, hr, ho, -⟩ | ⟨hnew, -⟩
    · exact hpast r hr ho
    · exact absurd hop.drawn (hnew ▸ lt_irrefl _)

lemma Path.issued {allowed : Edge → Prop} (h : Path allowed b b') (hop : b.Issued op) :
    b'.Issued op :=
  h.invariant (fun _ _ _ hi _ hs => hs.issued hi) hop

lemma run_spent (h : Run callStep (fun _ _ => True) b b') (hinv : b.Inv) (hop : b.Spent op) :
    b'.Spent op := by
  refine ((path_of_run h).invariant (I := fun b => b.Inv ∧ b.Spent op) ?_ ⟨hinv, hop⟩).2
  rintro b e b' ⟨hi, hs⟩ _ hstep
  exact ⟨hstep.inv hi, hstep.spent hi hs⟩

/-- The tokens of a batch carry the epoch they were drawn in. -/
lemma markEvicting_issued (hidle : b.Idle ms) :
    ∀ op ∈ (b.markEvicting ms).2, (b.markEvicting ms).1.Issued op := by
  induction ms generalizing b with
  | nil => simp [markEvicting]
  | cons m ms ih =>
    obtain ⟨r, hr, hs, hl, ho⟩ := hidle.record m List.mem_cons_self
    have hstep := Step.runtime hr (.evict hidle.running hs hl ho)
    have hpath := @markEvicting_path (fun _ => True) _ _ trivial (hidle.tail
      { r with state := .evicting, admissionBlocked := true, operationId := some b.uuids }
      (b.uuids + 1))
    simp only [markEvicting, hr, List.forall_mem_cons]
    exact ⟨hpath.issued ⟨hstep.known hr, Nat.lt_succ_self _, le_refl _⟩, ih (hidle.tail _ _)⟩

lemma issued_of_answer {ops : List Operation} (h : b.answer c = .ok ops) (hop : op ∈ ops) :
    (b.apply c).Issued op := by
  cases c with
  | beginLoad m sample now =>
    simp only [answer, apply, beginLoad, withRuntime] at h ⊢
    cases hr : b.runtime.get? m with
    | none =>
      rw [hr] at h
      cases h
    | some r =>
      simp only [hr] at h ⊢
      split_ifs at h ⊢
      · cases h
        obtain rfl := List.mem_singleton.mp hop
        exact ⟨⟨_, Dict.get?_set_self ..⟩, Nat.lt_succ_self _, le_refl _⟩
      · cases h
  | beginEviction ms automatic =>
    simp only [answer, apply] at h ⊢
    rcases beginEviction_cases b ms automatic with ⟨e, heq⟩ | ⟨hidle, heq⟩
    · rw [heq] at h
      cases h
    · rw [heq] at h ⊢
      cases h
      exact markEvicting_issued hidle op hop
  | beginCleanup ms =>
    simp only [answer, apply] at h ⊢
    rcases beginCleanup_cases b ms with ⟨e, heq⟩ | ⟨hidle, heq⟩
    · rw [heq] at h
      cases h
    · rw [heq] at h ⊢
      cases h
      exact markEvicting_issued hidle op hop
  | _ =>
    -- the other calls hand out nothing
    simp only [answer, Except.map] at h
    split at h <;> cases h
    cases hop

/-- A settling call with a spent token raises `StaleOperation`; with an issued one it raises
`StaleOperation` or `Conflict`, or it returns and has spent the token. -/
lemma withOperation_settles {k : Runtime → Book × Except Exc Unit} (hop : b.Issued op)
    (hk : ∀ r, b.runtime.get? op.modelId = some r →
      (∃ message, k r = (b, .error (.conflict message))) ∨
      ∃ r', r'.operationId = none ∧ k r = (b.setRuntime op.modelId r', .ok ())) :
    Refused ((b.withOperation op k).2.map fun _ => []) ∨
      ¬ b.Spent op ∧ (b.withOperation op k).2 = .ok () ∧ (b.withOperation op k).1.Spent op := by
  obtain ⟨r, hr⟩ := hop.known
  simp only [withOperation, withRuntime, hr]
  split_ifs with hcur
  · rcases hk r hr with ⟨message, heq⟩ | ⟨r', hr', heq⟩
    · rw [heq]
      exact .inl (.inr ⟨message, rfl⟩)
    · rw [heq]
      simp only [isCurrent, decide_eq_true_eq] at hcur
      refine .inr ⟨fun hs => ?_, rfl, ⟨⟨_, Dict.get?_set_self ..⟩, hop.drawn, hop.epoch⟩, ?_⟩
      · rcases hs.past with hlt | hpast
        · exact absurd hcur.1 hlt.ne
        · exact hpast r hr hcur.2.2
      · refine .inr fun r₁ hr₁ => ?_
        rw [setRuntime, Dict.get?_set_self] at hr₁
        cases hr₁
        simp [hr']
  · exact .inl (.inl ⟨_, rfl⟩)

lemma settles_cases (hop : b.Issued op) (hc : c.settles = some op) :
    Refused (b.answer c) ∨ ¬ b.Spent op ∧ b.answer c = .ok [] ∧ (b.apply c).Spent op := by
  have hmap : ∀ {x : Book × Except Exc Unit}, (Refused (x.2.map fun _ => []) ∨
      ¬ b.Spent op ∧ x.2 = .ok () ∧ x.1.Spent op) →
      Refused (x.2.map fun _ => []) ∨
        ¬ b.Spent op ∧ x.2.map (fun _ => ([] : List Operation)) = .ok [] ∧
        x.1.Spent op := by
    rintro x (h | ⟨hs, hok, hsp⟩)
    · exact .inl h
    · exact .inr ⟨hs, by rw [hok]; rfl, hsp⟩
  cases c <;> simp only [Call.settles, Option.some.injEq, reduceCtorEq] at hc <;> subst hc <;>
    refine hmap (withOperation_settles hop fun r _ => ?_)
  all_goals try split_ifs
  all_goals first
    | exact .inl ⟨_, rfl⟩
    | exact .inr ⟨_, rfl, rfl⟩

/-- **Operation tokens are linear.** Let a call hand out `op` in a reachable book, and let any calls
follow. A call that settles `op` returns, or it raises `StaleOperation` or `Conflict`. After one of
them has returned, and after the book has entered recovery, every later one raises. -/
theorem operation_linear {policy : BookPolicy} {specs : Dict ModelId Registration} {b₀ b : Book}
    {c₀ : Call} {ops : List Operation} {op : Operation} (h₀ : Reachable policy specs b₀)
    (hops : b₀.answer c₀ = .ok ops) (hop : op ∈ ops)
    (hrun : Run callStep (fun _ _ => True) (b₀.apply c₀) b) :
    (∀ c, c.settles = some op → b.answer c = .ok [] ∨ Refused (b.answer c)) ∧
    (∀ c, c.settles = some op → b.answer c = .ok [] →
      ∀ b', Run callStep (fun _ _ => True) (b.apply c) b' →
        ∀ c', c'.settles = some op → Refused (b'.answer c')) ∧
    (b.recovering = false → ∀ b', Run callStep (fun _ _ => True) (b.apply .beginRecovery) b' →
      ∀ c', c'.settles = some op → Refused (b'.answer c')) := by
  have hissued : b.Issued op := (path_of_run hrun).issued (issued_of_answer hops hop)
  have hinv : b.Inv := (path_of_run hrun).inv ((Call.path b₀ c₀).inv h₀.inv)
  have hafter : ∀ {c b'}, (b.apply c).Spent op →
      Run callStep (fun _ _ => True) (b.apply c) b' →
      ∀ c', c'.settles = some op → Refused (b'.answer c') := by
    intro c b' hspent hrun' c' hc'
    have hlater := run_spent hrun' ((Call.path b c).inv hinv) hspent
    exact (settles_cases hlater.toIssued hc').resolve_right fun h => h.1 hlater
  refine ⟨fun c hc => ?_, fun c hc hok b' hrun' => ?_, fun hrec b' hrun' => ?_⟩
  · rcases settles_cases hissued hc with h | h
    · exact .inr h
    · exact .inl h.2.1
  · rcases settles_cases hissued hc with h | h
    · rw [hok] at h
      rcases h with ⟨k, h⟩ | ⟨message, h⟩ <;> cases h
    · exact hafter h.2.2 hrun'
  · refine hafter ⟨(Call.path b .beginRecovery).issued hissued, .inl ?_⟩ hrun'
    simp only [apply, beginRecovery, hrec]
    exact Nat.lt_succ_of_le hissued.epoch

/-- The small deployment with both models proven stopped. -/
def sampleStart : Book := (sampleCalls.take 2).foldl apply (built samplePolicy sampleSpecs)

lemma sampleStart_reachable : Reachable samplePolicy sampleSpecs sampleStart :=
  built_reachable (by decide +kernel) _

/-- The load of the small deployment: once it is reported `loaded`, it cannot be reported as
failed. -/
theorem operation_linear_sample :
    Refused (((sampleStart.apply (.beginLoad "embed" ⟨2000, 1500, 0⟩ 0)).apply
      (.loaded ⟨0, "embed", 1, 0⟩ 0)).answer (.failed ⟨0, "embed", 1, 0⟩ none)) :=
  (operation_linear sampleStart_reachable
    (show sampleStart.answer (.beginLoad "embed" ⟨2000, 1500, 0⟩ 0) = .ok [⟨0, "embed", 1, 0⟩] by
      decide +kernel) List.mem_cons_self (.refl _)).2.1
    (.loaded _ 0) rfl (by decide +kernel) _ (.refl _) (.failed _ none) rfl

/-! ### Refused calls -/

/-- The models that the arguments of a call name. -/
def Call.models : Call → List ModelId
  | .bootstrapStopped m | .beginLoad m _ _ | .acquireReady m _ _ => [m]
  | .loaded op _ | .failed op _ | .rollbackUnsent op | .stopped op _ => [op.modelId]
  | .release lease _ _ _ | .beginCancel lease => [lease.modelId]
  | .beginEviction ms _ | .freezeForSwitch ms | .unfreezeSwitch ms | .beginCleanup ms => ms
  | .beginRecovery | .finishRecovery _ _ => []

/-- The models that a batch transition names. -/
def Call.batch : Call → Option (List ModelId)
  | .beginEviction ms _ | .freezeForSwitch ms | .beginCleanup ms => some ms
  | _ => none

lemma error_of_map {α β : Type} {x : Except Exc α} {f : α → β} {e : Exc}
    (h : x.map f = .error e) : x = .error e := by
  cases x with
  | error => exact congrArg Except.error (Except.error.inj h)
  | ok => cases h

lemma withRuntime_unchanged {α : Type} {m : ModelId} {k : Runtime → Book × Except Exc α} {e : Exc}
    (hk : ∀ r, (k r).2 = .error e → (k r).1 = b) (h : (b.withRuntime m k).2 = .error e) :
    (b.withRuntime m k).1 = b := by
  simp only [withRuntime] at h ⊢
  split at h
  · rfl
  · exact hk _ h

lemma withOperation_unchanged {k : Runtime → Book × Except Exc Unit} {e : Exc}
    (hk : ∀ r, (k r).2 = .error e → (k r).1 = b) (h : (b.withOperation op k).2 = .error e) :
    (b.withOperation op k).1 = b := by
  refine withRuntime_unchanged (fun r hr => ?_) h
  split_ifs at hr ⊢
  · exact hk r hr
  · rfl

/-- Lifting the freeze of known models does not raise. -/
lemma unfreezeSwitch_ok (h : ∀ m ∈ ms, ∃ r, b.runtime.get? m = some r) :
    (b.unfreezeSwitch ms).2 = .ok () := by
  induction ms generalizing b with
  | nil => rfl
  | cons m ms ih =>
    obtain ⟨r, hr⟩ := h m List.mem_cons_self
    simp only [unfreezeSwitch, hr]
    split_ifs with hc
    · refine ih fun m' hm' => ?_
      obtain ⟨r', hr'⟩ := h m' (List.mem_cons_of_mem _ hm')
      exact (Step.set hr (.unblock hc.1)).known hr'
    · exact ih fun m' hm' => h m' (List.mem_cons_of_mem _ hm')

lemma apply_unchanged {e : Exc} (hc : ∀ m ∈ c.models, ∃ r, b.runtime.get? m = some r)
    (h : b.answer c = .error e) : b.apply c = b := by
  cases c
  case bootstrapStopped | beginLoad | acquireReady | release | beginCancel =>
    refine withRuntime_unchanged (fun r hr => ?_) (error_of_map h)
    split_ifs at hr ⊢ <;> rfl
  case loaded | rollbackUnsent | stopped =>
    refine withOperation_unchanged (fun r hr => ?_) (error_of_map h)
    split_ifs at hr ⊢
    rfl
  case failed => exact withOperation_unchanged (fun r hr => nomatch hr) (error_of_map h)
  case beginEviction ms automatic =>
    simp only [answer, apply] at h ⊢
    rcases beginEviction_cases b ms automatic with ⟨e', heq⟩ | ⟨-, heq⟩
    · rw [heq]
    · rw [heq] at h
      cases h
  case beginCleanup ms =>
    simp only [answer, apply] at h ⊢
    rcases beginCleanup_cases b ms with ⟨e', heq⟩ | ⟨-, heq⟩
    · rw [heq]
    · rw [heq] at h
      cases h
  case freezeForSwitch ms =>
    replace h := error_of_map h
    simp only [apply, freezeForSwitch] at h ⊢
    split_ifs at h ⊢
    · rfl
    · split at h
      · rfl
      · cases h
  case unfreezeSwitch ms =>
    have hok : (b.unfreezeSwitch ms).2 = .ok () := unfreezeSwitch_ok hc
    rw [answer, hok] at h
    cases h
  case beginRecovery =>
    replace h := error_of_map h
    simp only [beginRecovery] at h
    split_ifs at h
  case finishRecovery =>
    replace h := error_of_map h
    simp only [apply, finishRecovery] at h ⊢
    split_ifs at h ⊢ <;> rfl

/-! ### Batches -/

lemma markEvicting_get?_of_mem {m : ModelId} (hidle : b.Idle ms) (hm : m ∈ ms) :
    ∃ r, (b.markEvicting ms).1.runtime.get? m = some r ∧ r.state = .evicting := by
  induction ms generalizing b with
  | nil => cases hm
  | cons m' ms ih =>
    obtain ⟨r, hr, -⟩ := hidle.record m' List.mem_cons_self
    simp only [markEvicting, hr]
    rcases List.mem_cons.mp hm with rfl | hm
    · rw [markEvicting_get?_of_notMem (List.nodup_cons.mp hidle.nodup).1]
      exact ⟨_, Dict.get?_set_self .., rfl⟩
    · exact ih (hidle.tail _ _) hm

/-- A marked model was not `EVICTING` before. -/
lemma Idle.marked_ne (hidle : b.Idle ms) :
    ∀ m ∈ ms, (b.markEvicting ms).1.runtime.get? m ≠ b.runtime.get? m := by
  intro m hm heq
  obtain ⟨r, hr, hs, -⟩ := hidle.record m hm
  obtain ⟨r', hr', hs'⟩ := markEvicting_get?_of_mem hidle hm
  cases hr'.symm.trans (heq.trans hr)
  rcases hs with hs | hs <;> cases hs.symm.trans hs'

lemma blockAll_get?_blocked {m : ModelId} (hms : ∀ m ∈ ms, ∃ r, b.runtime.get? m = some r)
    (hm : m ∈ ms ∨ ∃ r, b.runtime.get? m = some r ∧ r.admissionBlocked = true) :
    ∃ r, (b.blockAll ms).runtime.get? m = some r ∧ r.admissionBlocked = true := by
  induction ms generalizing b with
  | nil => simpa [blockAll] using hm
  | cons m' ms ih =>
    obtain ⟨r, hr⟩ := hms m' List.mem_cons_self
    simp only [blockAll, hr]
    refine ih (fun m₁ hm₁ => ?_) ?_
    · obtain ⟨r₁, hr₁⟩ := hms m₁ (List.mem_cons_of_mem _ hm₁)
      simp only [setRuntime, Dict.get?_set]
      split_ifs
      · exact ⟨_, rfl⟩
      · exact ⟨r₁, hr₁⟩
    · by_cases heq : m = m'
      · subst heq
        exact .inr ⟨_, Dict.get?_set_self .., rfl⟩
      · simp only [List.mem_cons, heq, false_or] at hm
        simpa only [setRuntime, Dict.get?_set_ne _ _ heq] using hm

/-- **A refused call changes nothing.** Let a call name registered models of a reachable book. If it
raises, the book is as it was; and a batch transition changes all the models it names or none. -/
theorem refused_unchanged {policy : BookPolicy} {specs : Dict ModelId Registration} {b : Book}
    {c : Call} (h : Reachable policy specs b) (hc : ∀ m ∈ c.models, m ∈ b.specs.keys) :
    (∀ e, b.answer c = .error e → b.apply c = b) ∧
    ∀ ms, c.batch = some ms →
      (∀ m ∈ ms, (b.apply c).runtime.get? m = b.runtime.get? m) ∨
      (∀ m ∈ ms, (b.apply c).runtime.get? m ≠ b.runtime.get? m) := by
  have hknown : ∀ m ∈ c.models, ∃ r, b.runtime.get? m = some r := by
    intro m hm
    obtain ⟨reg, hreg⟩ := Dict.mem_keys_iff.mp (hc m hm)
    exact h.registered.record m reg hreg
  refine ⟨fun e he => apply_unchanged hknown he, fun ms hms => ?_⟩
  cases c <;> simp only [Call.batch, Option.some.injEq, reduceCtorEq] at hms <;> subst hms
  case beginEviction ms automatic =>
    rcases beginEviction_cases b ms automatic with ⟨e, heq⟩ | ⟨hidle, heq⟩
    · exact .inl fun m _ => by rw [apply, heq]
    · exact .inr (by rw [apply, heq]; exact hidle.marked_ne)
  case freezeForSwitch ms =>
    simp only [apply, freezeForSwitch]
    split_ifs
    · exact .inl fun _ _ => rfl
    · split
      · exact .inl fun _ _ => rfl
      · rename_i hv
        refine .inr fun m hm heq => ?_
        obtain ⟨r, spec, hr, -, href⟩ := validateBatch_ok hv m hm
        obtain ⟨r', hr', hb⟩ := blockAll_get?_blocked hknown (.inl hm)
        cases hr'.symm.trans (heq.trans hr)
        simp [freezeRefuses, hb] at href
  case beginCleanup ms =>
    rcases beginCleanup_cases b ms with ⟨e, heq⟩ | ⟨hidle, heq⟩
    · exact .inl fun m _ => by rw [apply, heq]
    · exact .inr (by rw [apply, heq]; exact hidle.marked_ne)

/-- An eviction of a ready and a stopped model is refused as a whole. -/
theorem refused_unchanged_sample :
    sampleBook.apply (.beginEviction ["embed", "chat"] true) = sampleBook :=
  (refused_unchanged sampleBook_reachable (by decide +kernel)).1
    (.conflict "protected or changed candidate")
    (by decide +kernel)

end Book

end ModelSwitch

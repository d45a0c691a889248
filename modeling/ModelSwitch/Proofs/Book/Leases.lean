import ModelSwitch.Proofs.Book.Tokens

/-!
# Leases are linear

Whatever else is called, a granted lease stays in the book until a release with a valid token count
names it, also through a failed stop or a recovery. From then on nobody can release or cancel it
again.
-/

namespace ModelSwitch

namespace Book

variable {b b' : Book} {lease : Lease} {m : ModelId} {k : Uuid}

/-- The call gives the lease back. -/
def Call.givesBack (lease : Lease) : Call → Bool
  | .release l _ _ tokens => l = lease && tokens.valid
  | _ => false

/-- Every edge but a release keeps what is held. -/
lemma Step.keeps {e : Edge} (h : Step e b b') (he : e ≠ .release) (hinv : b.Inv)
    (hl : b.Held m k lease) : b'.Held m k lease := by
  obtain ⟨r, hr, hk⟩ := hl
  have hleases : r.hasLeases = true := Runtime.hasLeases_iff.mpr ⟨k, lease, hk⟩
  cases h with
  | @runtime _ _ m₀ r₀ r' n hr₀ hstep =>
    simp only [Held, setRuntime, Dict.get?_set]
    split_ifs with heq
    · subst heq
      cases hr.symm.trans hr₀
      refine ⟨r', rfl, ?_⟩
      cases hstep with
      | release => exact absurd rfl he
      | load sample now hload => simp [(canLoadWith_iff hload).2.2.1] at hleases
      | bootstrap _ _ hno | evict _ _ hno | rollback _ hno | stop _ _ hno => simp [hno] at hleases
      | grant =>
        obtain ⟨entry, -, hrec⟩ := hinv.record _ r hr
        simp only [addHeat]
        rw [Dict.get?_set_ne _ _ (hrec.lease k lease hk).2.2.2.ne]
        exact hk
      | _ => exact hk
    · exact ⟨r, hr, hk⟩
  | enterRecovery =>
    refine ⟨recoverRuntime r, by simp [Dict.get?_mapVal, hr], ?_⟩
    unfold recoverRuntime
    split_ifs <;> exact hk
  | leaveRecovery _ hno =>
    exact absurd hleases (List.any_eq_false.mp hno r (Dict.mem_values_iff.mpr ⟨_, hr⟩))

/-- A release keeps every lease but the one it names, and that one too where it is refused. -/
lemma release_keeps {l : Lease} {outcome : Outcome} {now : Time} {tokens : TokenCount}
    (hne : (l = lease && tokens.valid) = false) (hl : b.Held m k lease) :
    (b.release l outcome now tokens).1.Held m k lease := by
  obtain ⟨r, hr, hk⟩ := id hl
  simp only [release, withRuntime]
  split
  · exact hl
  · next r₀ hr₀ =>
    split_ifs with hheld hv
    · simp only [Held, setRuntime, Dict.get?_set]
      split_ifs with heq
      · subst heq
        cases hr.symm.trans hr₀
        refine ⟨_, rfl, ?_⟩
        rw [(b.releaseRuntime_fields ..).1, Dict.get?_erase_ne, hk]
        rintro rfl
        -- the same identifier names the same lease
        cases (of_decide_eq_true hheld).1.symm.trans hk
        simp [hv] at hne
      · exact ⟨r, hr, hk⟩
    · exact hl
    · exact hl

lemma apply_keeps {c : Call} (hinv : b.Inv) (hc : c.givesBack lease = false)
    (hl : b.Held m k lease) : (b.apply c).Held m k lease := by
  by_cases he : c.edge = .release
  · cases c with
    | release => exact release_keeps hc hl
    | _ => cases he
  · refine ((Call.path b c).invariant (I := fun b => b.Inv ∧ b.Held m k lease) ?_ ⟨hinv, hl⟩).2
    rintro b e b' ⟨hi, hh⟩ rfl hs
    exact ⟨hs.inv hi, hs.keeps he hi hh⟩

/-- A lease that is not held is not filed again under its identifier. -/
lemma Step.returned {e : Edge} (h : Step e b b') (hdrawn : k < b.uuids)
    (hno : ∀ l, ¬ b.Held m k l) (l : Lease) : ¬ b'.Held m k l := by
  intro hl
  by_cases he : e = .grant
  · subst he
    cases h with
    | runtime hr hstep =>
      obtain ⟨request, -, hfiled⟩ := held_grant hr hstep
      rcases hfiled _ _ _ hl with hold | ⟨-, hk, -⟩
      · exact hno l hold
      · exact hdrawn.ne hk
  · exact hno l (h.held he hl)

lemma acquireReady_held {request : RequestId} {start : Time}
    (h : b.acquireReady m request start = (b', .ok lease)) :
    b'.Held lease.modelId lease.leaseId lease := by
  simp only [acquireReady, withRuntime] at h
  split at h
  · cases h
  · split_ifs at h <;> cases h
    exact ⟨_, Dict.get?_set_self .., Dict.get?_set_self ..⟩

/-- Nobody can release or cancel a lease that has been given back. -/
lemma refused_of_returned (hrun : Run callStep (fun _ _ => True) b b')
    (hknown : ∃ r, b.runtime.get? lease.modelId = some r) (hdrawn : lease.leaseId < b.uuids)
    (hno : ∀ l, ¬ b.Held lease.modelId lease.leaseId l) :
    (∀ outcome now tokens, (b'.release lease outcome now tokens).2 = .ok false) ∧
      (b'.beginCancel lease).2 = .ok false := by
  obtain ⟨⟨r, hr⟩, -, hno'⟩ := (path_of_run hrun).invariant (I := fun b =>
      (∃ r, b.runtime.get? lease.modelId = some r) ∧ lease.leaseId < b.uuids ∧
        ∀ l, ¬ b.Held lease.modelId lease.leaseId l) (fun b e b' hi _ hs =>
    ⟨hi.1.elim fun _ => hs.known, hi.2.1.trans_le hs.uuids_le, hs.returned hi.2.1 hi.2.2⟩)
    ⟨hknown, hdrawn, hno⟩
  have hgone : holds r lease = false := decide_eq_false fun hl => hno' lease ⟨r, hr, hl.1⟩
  exact ⟨fun _ _ _ => by simp [release, withRuntime, hr, hgone],
    by simp [beginCancel, withRuntime, hr, hgone]⟩

/-- **Leases are linear.** Let a reachable book grant a lease, and let any calls follow that do not
give it back. Then a release of it is accepted exactly if its token count is valid, with heat as
total as in `settleOutcome`. Once it is accepted, whatever is called, every later release and
cancellation of the lease answers `False`. -/
theorem lease_linear {policy : BookPolicy} {specs : Dict ModelId Registration} {b₀ b₁ b : Book}
    {m : ModelId} {request : RequestId} {start : Time} {lease : Lease}
    (h₀ : Reachable policy specs b₀)
    (hgrant : b₀.acquireReady m request start = (b₁, .ok lease))
    (hrun : Run callStep (fun _ c => c.givesBack lease = false) b₁ b)
    (outcome : Outcome) (now : Time) (tokens : TokenCount) :
    ((b.release lease outcome now tokens).2 = .ok true ↔ tokens.valid = true) ∧
    (tokens.valid = true → ∀ b', Run callStep (fun _ _ => True)
        (b.release lease outcome now tokens).1 b' →
      (∀ outcome' now' tokens', (b'.release lease outcome' now' tokens').2 = .ok false) ∧
      (b'.beginCancel lease).2 = .ok false) := by
  have hpath := @acquireReady_path (fun _ => True) trivial b₀ m request start
  rw [hgrant] at hpath
  obtain ⟨hinv, r, hr, hk⟩ := hrun.invariant
    (I := fun b => b.Inv ∧ b.Held lease.modelId lease.leaseId lease)
    (fun b c b' hi hc hs => by
      cases hs
      exact ⟨(Call.path b c).inv hi.1, apply_keeps hi.1 hc hi.2⟩)
    ⟨hpath.inv h₀.inv, acquireReady_held hgrant⟩
  obtain ⟨entry, -, hrec⟩ := hinv.record _ r hr
  obtain ⟨-, -, hgen, hdrawn⟩ := hrec.lease _ _ hk
  have hholds : holds r lease = true := decide_eq_true ⟨hk, hgen.symm⟩
  refine ⟨?_, fun hvalid b' hrun' => ?_⟩
  · cases hv : tokens.valid <;> simp [release, withRuntime, hr, hholds, hv]
  · simp only [release, withRuntime, hr, hholds, hvalid, not_true_eq_false, if_false] at hrun'
    refine refused_of_returned hrun' ⟨_, Dict.get?_set_self ..⟩ hdrawn ?_
    rintro l ⟨r', hr', hl⟩
    cases (Dict.get?_set_self ..).symm.trans hr'
    simp [(b.releaseRuntime_fields ..).1] at hl

/-- The small deployment before its request. -/
def sampleReady : Book := (sampleCalls.take 4).foldl apply (built samplePolicy sampleSpecs)

/-- The lease of the small deployment: once it is released, a cancellation comes too late. -/
theorem lease_linear_sample :
    (((sampleReady.acquireReady "embed" "request-1" 0).1.release ⟨1, "request-1", "embed", 1⟩
      .success 1 .absent).1.beginCancel ⟨1, "request-1", "embed", 1⟩).2 = .ok false :=
  ((lease_linear (built_reachable (by decide +kernel) _)
    (Prod.ext rfl (show (sampleReady.acquireReady "embed" "request-1" 0).2 = _ by decide +kernel))
    (.refl _) .success 1 .absent).2 rfl _ (.refl _)).2

end Book

end ModelSwitch

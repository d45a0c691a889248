import ModelSwitch.Proofs.Book.States

/-!
# When a model was last proven stopped

`stopped` stamps the record of its model with the time of the proof, and `begin_load` compares the
stamp with the time of the sample; `finish_recovery` takes models to `UNLOADED` without a stamp.
`Stamps` says what a change of the book does to the stamp of one model, and `LastStop` relates the
stamp to the time of the last change that took the model back to `UNLOADED`.
-/

namespace ModelSwitch

namespace Book

variable {b b' b'' : Book} {m : ModelId} {t t' : Time} {last : Option Time}

/-- A model that is `UNLOADED` after the change was so before it, with the same stamp, or is stamped
with `t`, or has been bootstrapped. -/
structure Stamps (t : Time) (m : ModelId) (b b' : Book) : Prop where
  unknown : (b'.runtimeOf m).state = .unknown → (b.runtimeOf m).state = .unknown
  unloaded : (b'.runtimeOf m).state = .unloaded →
    ((b.runtimeOf m).state = .unloaded ∧
      (b'.runtimeOf m).stoppedAt = (b.runtimeOf m).stoppedAt) ∨
    (b'.runtimeOf m).stoppedAt = some t ∨ (b.runtimeOf m).state = .unknown

namespace Stamps

lemma refl (b : Book) : Stamps t m b b := ⟨id, fun h => .inl ⟨h, rfl⟩⟩

lemma of_eq (h : b'.runtimeOf m = b.runtimeOf m) : Stamps t m b b' := by
  constructor <;> rw [h]
  · exact id
  · exact fun hu => .inl ⟨hu, rfl⟩

lemma trans (h : Stamps t m b b') (h' : Stamps t m b' b'') : Stamps t m b b'' := by
  refine ⟨fun hu => h.unknown (h'.unknown hu), fun hu => ?_⟩
  rcases h'.unloaded hu with ⟨hu', heq⟩ | ht | hunk
  · rw [heq]
    exact h.unloaded hu'
  · exact .inr (.inl ht)
  · exact .inr (.inr (h.unknown hunk))

end Stamps

lemma releaseRuntime_stoppedAt (b : Book) (r : Runtime) (lease : Lease) (outcome : Outcome)
    (now : Time) (tokens : TokenCount) :
    (b.releaseRuntime r lease outcome now tokens).stoppedAt = r.stoppedAt := by
  unfold releaseRuntime
  dsimp only
  split_ifs <;> cases outcome <;> cases tokens <;> simp [settleOutcome, addHeat]

lemma RuntimeStep.stamps {r r' : Runtime} {e : Edge} {n : ℕ} (h : RuntimeStep b m r e r' n)
    (he : e ≠ .stop) :
    (r'.state = .unknown → r.state = .unknown) ∧
      (r'.state = .unloaded →
        (r.state = .unloaded ∧ r'.stoppedAt = r.stoppedAt) ∨ r.state = .unknown) := by
  cases h with
  | bootstrap hs => exact ⟨nofun, fun _ => .inr hs⟩
  | stop => exact absurd rfl he
  | release lease outcome now tokens =>
    have hstamp := b.releaseRuntime_stoppedAt r lease outcome now tokens
    rcases b.releaseRuntime_state r lease outcome now tokens with hs | hs
    · rw [hs, hstamp]
      exact ⟨id, fun h => .inl ⟨h, rfl⟩⟩
    · rw [hs]
      exact ⟨nofun, nofun⟩
  | grant | cancel | block | unblock => exact ⟨id, fun h => .inl ⟨h, rfl⟩⟩
  | _ => exact ⟨nofun, nofun⟩

/-- A change that neither proves a stop nor ends a recovery. -/
lemma Step.stamps {e : Edge} (h : Step e b b') (hs : e ≠ .stop) (hr : e ≠ .leaveRecovery) :
    Stamps t m b b' := by
  cases h with
  | @runtime _ _ m₀ r r' n hget hstep =>
    by_cases heq : m = m₀
    · subst heq
      have hone := RuntimeStep.stamps hstep hs
      rw [← runtimeOf_eq hget] at hone
      constructor <;> rw [runtimeOf_set, if_pos rfl]
      · exact hone.1
      · exact fun hu => (hone.2 hu).imp_right .inr
    · exact .of_eq (by rw [runtimeOf_set, if_neg heq])
  | enterRecovery hrec =>
    cases hget : b.runtime.get? m with
    | none => exact .of_eq (by simp [runtimeOf, Dict.get?_mapVal, hget])
    | some r =>
      constructor <;>
        simp only [runtimeOf, Dict.get?_mapVal, hget, Option.map_some, Option.getD_some,
          recoverRuntime] <;> split_ifs with hu
      · exact id
      · rintro ⟨⟩
      · exact fun _ => .inl ⟨hu, rfl⟩
      · rintro ⟨⟩
  | leaveRecovery => exact absurd rfl hr

lemma Path.stamps {allowed : Edge → Prop} (h : Path allowed b b')
    (hno : ∀ e, allowed e → e ≠ .stop ∧ e ≠ .leaveRecovery) : Stamps t m b b' := by
  induction h with
  | refl => exact .refl _
  | tail _ hs ih =>
    obtain ⟨e, he, hs⟩ := hs
    exact ih.trans (hs.stamps (hno e he).1 (hno e he).2)

/-- A stop that is proven at `t`, or a stop of another model. -/
lemma stopped_stamps {op : Operation} {now : Option Time} (h : m = op.modelId → now = some t) :
    Stamps t m b (b.stopped op now).1 := by
  unfold stopped withOperation withRuntime
  split
  · exact .refl b
  · dsimp only
    split_ifs
    · exact .refl b
    · by_cases heq : m = op.modelId
      · rw [h heq]
        subst heq
        constructor <;> simp [runtimeOf, setRuntime]
      · exact .of_eq (by simp [runtimeOf, setRuntime, Dict.get?_set_ne _ _ heq])
    · exact .refl b

/-- A recovery that does not end, or that finds the model `UNLOADED`. -/
lemma finishRecovery_stamps {epoch : ℕ} {confirmed : List ModelId}
    (h : (b.finishRecovery epoch confirmed).2.isOk = true → (b.runtimeOf m).state = .unloaded) :
    Stamps t m b (b.finishRecovery epoch confirmed).1 := by
  unfold finishRecovery at h ⊢
  split_ifs at h ⊢
  · exact .refl b
  · exact .refl b
  · have hu := h rfl
    cases hget : b.runtime.get? m with
    | none => exact .of_eq (by simp [runtimeOf, Dict.get?_mapVal, hget])
    | some r =>
      constructor <;>
        simp only [runtimeOf, Dict.get?_mapVal, hget, Option.map_some, Option.getD_some] at hu ⊢
      · rintro ⟨⟩
      · exact fun _ => .inl ⟨hu, rfl⟩

/-- A load is only begun on a sample that is no older than the stamp. -/
lemma beginLoad_stamp {sample : MemorySample} {now : Time} {op : Operation}
    (h : b.beginLoad m sample now = (b', .ok op)) :
    (b.runtimeOf m).state = .unloaded ∧
      ∀ y, (b.runtimeOf m).stoppedAt = some y → y ≤ sample.sampledAt := by
  unfold beginLoad withRuntime at h
  split at h
  · cases h
  · rename_i r hr
    rw [runtimeOf_eq hr]
    dsimp only at h
    split_ifs at h with hc
    swap
    · cases h
    simp only [canLoadWith, Bool.and_eq_true, decide_eq_true_eq, sampleAfterStop] at hc
    refine ⟨hc.1.1.1.1.1.1.1.2, fun y hy => ?_⟩
    simpa [hy] using hc.1.1.1.2

/-! ### The last return -/

/-- The change takes the model back to `UNLOADED`. -/
def returns (m : ModelId) (b b' : Book) : Bool :=
  (b.runtimeOf m).state ≠ .unloaded ∧ (b.runtimeOf m).state ≠ .unknown ∧
    (b'.runtimeOf m).state = .unloaded

/-- The stamp of an `UNLOADED` model is no older than the model's last return, which is not in the
future. -/
structure LastStop (m : ModelId) (last : Option Time) (t : Time) (b : Book) : Prop where
  unknown : (b.runtimeOf m).state = .unknown → last = none
  le : ∀ x, last = some x → x ≤ t
  stamp : (b.runtimeOf m).state = .unloaded → ∀ x, last = some x →
    ∃ y, (b.runtimeOf m).stoppedAt = some y ∧ x ≤ y

namespace LastStop

lemma none (m : ModelId) (t : Time) (b : Book) : LastStop m none t b :=
  ⟨fun _ => rfl, nofun, fun _ => nofun⟩

lemma tick (h : LastStop m last t b) (ht : t ≤ t') : LastStop m last t' b :=
  ⟨h.unknown, fun x hx => (h.le x hx).trans ht, h.stamp⟩

lemma step (h : LastStop m last t b) (hs : Stamps t m b b') :
    LastStop m (if returns m b b' then some t else last) t b' := by
  by_cases hret : returns m b b' = true
  · rw [if_pos hret]
    simp only [returns, decide_eq_true_eq] at hret
    refine ⟨fun hu => absurd (hs.unknown hu) hret.2.1, ?_, fun hu x hx => ?_⟩
    · rintro x ⟨⟩
      exact le_rfl
    · cases hx
      rcases hs.unloaded hu with ⟨hold, -⟩ | hstamp | hunk
      · exact absurd hold hret.1
      · exact ⟨t, hstamp, le_rfl⟩
      · exact absurd hunk hret.2.1
  · rw [if_neg hret]
    refine ⟨fun hu => h.unknown (hs.unknown hu), h.le, fun hu x hx => ?_⟩
    rcases hs.unloaded hu with ⟨hold, heq⟩ | hstamp | hunk
    · rw [heq]
      exact h.stamp hold x hx
    · exact ⟨t, hstamp, h.le x hx⟩
    · rw [h.unknown hunk] at hx
      cases hx

/-- What the comparison of `begin_load` comes to. -/
lemma sampled (h : LastStop m last t b) {sample : MemorySample} {now : Time} {op : Operation}
    (hload : b.beginLoad m sample now = (b', .ok op)) :
    ∀ x, last = some x → x ≤ sample.sampledAt := by
  intro x hx
  obtain ⟨hu, hstamp⟩ := beginLoad_stamp hload
  obtain ⟨y, hy, hle⟩ := h.stamp hu x hx
  exact hle.trans (hstamp y hy)

end LastStop

end Book

end ModelSwitch

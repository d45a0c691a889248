import ModelSwitch.Proofs.Book.Budget
import ModelSwitch.Proofs.Book.Operations
import ModelSwitch.Program.Scheduler.State
import Mathlib.Data.Fintype.Basic

/-!
# The state table

`Edge.moves` is the state table of a model: the states each kind of atomic change leads to from each
state. What a sequence of changes can do to the state of one model is then a question about the
table, which is finite, so `decide` answers it.
-/

namespace ModelSwitch

instance : Fintype State where
  elems := {.unknown, .unloaded, .loading, .ready, .evicting, .error}
  complete x := by cases x <;> decide

instance : Fintype Edge where
  elems := {.bootstrap, .load, .loaded, .failed, .grant, .release, .cancel, .evict, .block,
    .unblock, .rollback, .stop, .enterRecovery, .leaveRecovery}
  complete e := by cases e <;> decide

/-- The state table. A change that is not listed keeps the state. -/
def Edge.moves : Edge → State → State → Bool
  | .bootstrap, .unknown, .unloaded => true
  | .load, .unloaded, .loading => true
  | .loaded, .loading, .ready => true
  | .failed, .loading, .error => true
  | .failed, .evicting, .error => true
  | .release, .ready, .error => true
  | .evict, .ready, .evicting => true
  | .evict, .error, .evicting => true
  | .rollback, .evicting, .ready => true
  | .stop, .evicting, .unloaded => true
  | .enterRecovery, .unloaded, _ => false
  | .enterRecovery, _, .error => true
  | .leaveRecovery, _, .unloaded => true
  | _, _, _ => false

/-- A load starts a generation. -/
def Edge.generations : Edge → ℕ
  | .load => 1
  | _ => 0

/-- A record that was left alone or moved along the table by `e`. -/
def Runtime.Moved (e : Edge) (r r' : Runtime) : Prop :=
  (r'.state = r.state ∧ r'.generation = r.generation) ∨
    (e.moves r.state r'.state = true ∧ r'.generation = r.generation + e.generations)

namespace Book

variable {b b' : Book} {m : ModelId}

lemma runtimeOf_set (m' : ModelId) (r : Runtime) (n : ℕ) :
    runtimeOf { b.setRuntime m' r with uuids := n } m = if m = m' then r else b.runtimeOf m := by
  simp only [runtimeOf, setRuntime, Dict.get?_set]
  split_ifs <;> rfl

lemma runtimeOf_eq {r : Runtime} (h : b.runtime.get? m = some r) : b.runtimeOf m = r := by
  simp [runtimeOf, h]

lemma RuntimeStep.moved {entry : LedgerSpec} {r r' : Runtime} {e : Edge} {n : ℕ}
    (hinv : r.Inv m entry b.uuids) (h : RuntimeStep b m r e r' n) : r.Moved e r' := by
  cases h with
  | bootstrap hs | loaded now hs | rollback hs | stop now hs =>
    exact .inr ⟨by simp [hs, Edge.moves], rfl⟩
  | load sample now hc => exact .inr ⟨by simp [(canLoadWith_iff hc).2.1, Edge.moves], rfl⟩
  | failed code ho =>
    exact .inr ⟨by rcases hinv.operation.mp ho with hs | hs <;> simp [hs, Edge.moves], rfl⟩
  | release lease outcome now tokens hm hh =>
    simp only [holds, decide_eq_true_eq] at hh
    have hg := (b.releaseRuntime_fields r lease outcome now tokens).2.2.1
    rcases b.releaseRuntime_state r lease outcome now tokens with hs | hs
    · exact .inl ⟨hs, hg⟩
    · rcases hinv.leases_state (Runtime.hasLeases_iff.mpr ⟨_, _, hh.1⟩) with hr | hr
      · exact .inr ⟨by simp [hs, hr, Edge.moves], hg⟩
      · exact .inl ⟨hs.trans hr.symm, hg⟩
  | evict hr hs => exact .inr ⟨by rcases hs with hs | hs <;> simp [hs, Edge.moves], rfl⟩
  | _ => exact .inl ⟨rfl, rfl⟩

/-- An atomic change leaves a model alone or moves it along the table. -/
lemma Step.moved {e : Edge} (h : Step e b b') (hinv : b.Inv) (m : ModelId) :
    (b.runtimeOf m).Moved e (b'.runtimeOf m) := by
  cases h with
  | @runtime _ _ m₀ r r' n hr hstep =>
    rw [runtimeOf_set]
    split_ifs with heq
    · subst heq
      obtain ⟨entry, -, hri⟩ := hinv.record m r hr
      simpa [runtimeOf, hr] using RuntimeStep.moved hri hstep
    · exact .inl ⟨rfl, rfl⟩
  | enterRecovery hrec =>
    simp only [runtimeOf, Dict.get?_mapVal]
    cases hr : b.runtime.get? m with
    | none => exact .inl ⟨rfl, rfl⟩
    | some r =>
      simp only [Option.map_some, Option.getD_some, recoverRuntime]
      split_ifs with hs
      · exact .inl ⟨rfl, rfl⟩
      · refine .inr ⟨?_, rfl⟩
        cases hs' : r.state <;> simp_all [Edge.moves]
  | leaveRecovery hrec hl =>
    simp only [runtimeOf, Dict.get?_mapVal]
    cases hr : b.runtime.get? m with
    | none => exact .inl ⟨rfl, rfl⟩
    | some r => exact .inr ⟨by cases r.state <;> rfl, rfl⟩

/-! ### Recovery -/

/-- While the book recovers, nothing runs and nothing moves. -/
def Quiesced (b : Book) : Prop :=
  b.recovering = true → ∀ m, (b.runtimeOf m).state ∈ [State.unknown, .unloaded, .error]

lemma Step.quiesced {e : Edge} (h : Step e b b') (hinv : b.Inv) (hb : b.Quiesced) :
    b'.Quiesced := by
  intro hrec m
  cases h with
  | enterRecovery hno =>
    simp only [runtimeOf, Dict.get?_mapVal]
    cases b.runtime.get? m with
    | none => simp
    | some r =>
      simp only [Option.map_some, Option.getD_some, recoverRuntime]
      split_ifs with hs <;> simp [hs]
  | leaveRecovery hr hl => cases hrec
  | @runtime _ _ m₀ r r' n hr hstep =>
    have hmoved := (Step.runtime hr hstep).moved hinv m
    rcases hmoved with ⟨hs, -⟩ | ⟨hmoves, -⟩
    · rw [hs]
      exact hb hrec m
    · have hedge : e ≠ .load ∧ e ≠ .evict := by
        constructor
        · rintro rfl
          cases hstep with
          | load sample now hc => cases (canLoadWith_iff hc).1.symm.trans hrec
        · rintro rfl
          cases hstep with
          | evict hno => cases hno.symm.trans hrec
      exact (by decide : ∀ (e : Edge) (x y : State), e ≠ .load ∧ e ≠ .evict →
        x ∈ [State.unknown, .unloaded, .error] → e.moves x y = true →
        y ∈ [State.unknown, .unloaded, .error]) e _ _ hedge (hb hrec m) hmoves

lemma Path.quiesced {allowed : Edge → Prop} (h : Path allowed b b') (hinv : b.Inv)
    (hb : b.Quiesced) : b'.Quiesced := by
  refine (h.invariant (I := fun b => b.Inv ∧ b.Quiesced) ?_ ⟨hinv, hb⟩).2
  rintro b e b' ⟨hi, hq⟩ _ hstep
  exact ⟨hstep.inv hi, hstep.quiesced hi hq⟩

lemma Reachable.quiesced {policy : BookPolicy} {specs : Dict ModelId Registration}
    (h : Reachable policy specs b) : b.Quiesced := by
  obtain ⟨b₀, h₀, hrun⟩ := h
  refine (hrun.invariant (I := fun b => b.Inv ∧ b.Quiesced) ?_ ⟨init_inv h₀, ?_⟩).2
  · rintro b c b' ⟨hi, hq⟩ _ hstep
    cases hstep
    exact ⟨(Call.path b c).inv hi, (Call.path b c).quiesced hi hq⟩
  · intro hrec
    rw [(init_ok h₀).2.2.2.1] at hrec
    cases hrec

end Book

end ModelSwitch

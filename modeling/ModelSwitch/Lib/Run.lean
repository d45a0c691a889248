import Mathlib.Tactic
import Mathlib.Logic.Relation

/-!
# Runs of a labelled transition function

`step s a` is the state after action `a` in state `s`, or `none` where `a` is not enabled. A run is
a finite sequence of steps; `Run step ok` keeps to the steps that meet a condition `ok` on the
state before the step and the action. `fun _ _ => True` is the condition of the unrestricted run.
-/

namespace ModelSwitch

variable {σ α : Type*}

/-- `t` is reached from `s` by steps that all meet `ok`. -/
inductive Run (step : σ → α → Option σ) (ok : σ → α → Prop) : σ → σ → Prop
  | refl (s : σ) : Run step ok s s
  | tail {s t u : σ} (a : α) (h : Run step ok s t) (hok : ok t a) (hstep : step t a = some u) :
      Run step ok s u

namespace Run

variable {step : σ → α → Option σ} {ok ok' : σ → α → Prop} {s t u : σ}

/-- The invariant rule: what every allowed step preserves holds in every state of a run. -/
theorem invariant {I : σ → Prop}
    (hstep : ∀ s a t, I s → ok s a → step s a = some t → I t) (h : Run step ok s t) (hs : I s) :
    I t := by
  induction h with
  | refl => exact hs
  | tail a _ hok hst ih => exact hstep _ a _ ih hok hst

/-- A run under a condition is a run under any weaker one. -/
lemma mono (hok : ∀ s a, ok s a → ok' s a) (h : Run step ok s t) : Run step ok' s t := by
  induction h with
  | refl => exact .refl _
  | tail a _ hoka hst ih => exact .tail a ih (hok _ _ hoka) hst

lemma trans (h : Run step ok s t) (h' : Run step ok t u) : Run step ok s u := by
  induction h' with
  | refl => exact h
  | tail a _ hok hst ih => exact .tail a ih hok hst

end Run

/-- Execute a list of actions. -/
def exec (step : σ → α → Option σ) : σ → List α → Option σ
  | s, [] => some s
  | s, a :: as =>
    match step s a with
    | none => none
    | some t => exec step t as

/-- Execute a list of actions as long as each of them meets `ok` where it is taken. -/
def execUnder (step : σ → α → Option σ) (ok : σ → α → Bool) : σ → List α → Option σ
  | s, [] => some s
  | s, a :: as =>
    match ok s a, step s a with
    | true, some t => execUnder step ok t as
    | _, _ => none

/-- Executing a list is a run. -/
lemma run_of_exec {step : σ → α → Option σ} {s t : σ} {as : List α}
    (h : exec step s as = some t) : Run step (fun _ _ => True) s t := by
  induction as generalizing s with
  | nil => cases h; exact .refl _
  | cons a as ih =>
    simp only [exec] at h
    split at h
    · cases h
    · rename_i t' ht
      exact Run.trans (.tail a (.refl s) trivial ht) (ih h)

/-- Executing a list whose actions meet `ok` is a run under `ok`. -/
lemma run_of_execUnder {step : σ → α → Option σ} {ok : σ → α → Bool} {s t : σ} {as : List α}
    (h : execUnder step ok s as = some t) : Run step (fun s a => ok s a = true) s t := by
  induction as generalizing s with
  | nil =>
    cases h
    exact .refl _
  | cons a as ih =>
    simp only [execUnder] at h
    split at h
    · rename_i t' hok ht
      exact Run.trans (.tail a (.refl s) hok ht) (ih h)
    · cases h

/-- A computed run: a list whose execution ends in a state that passes a test. -/
lemma exists_run {step : σ → α → Option σ} {ok : σ → α → Bool} {s : σ} {as : List α}
    {test : σ → Bool} (h : (execUnder step ok s as).any test = true) :
    ∃ t, Run step (fun s a => ok s a = true) s t ∧ test t = true := by
  cases ht : execUnder step ok s as with
  | none => simp [ht] at h
  | some t => exact ⟨t, run_of_execUnder ht, by simpa [ht] using h⟩

/-- A computed run to a state with a decidable property. -/
lemma exists_run_to (step : σ → α → Option σ) (ok : σ → α → Bool) (s : σ) (as : List α)
    (P : σ → Prop) [DecidablePred P] (h : ((execUnder step ok s as).any fun t => P t) = true) :
    ∃ t, Run step (fun s a => ok s a = true) s t ∧ P t := by
  obtain ⟨t, hrun, htest⟩ := exists_run h
  exact ⟨t, hrun, of_decide_eq_true htest⟩

end ModelSwitch

import Mathlib.Control.Monad.Writer
import Mathlib.Data.List.Forall2
import Mathlib.Tactic

/-!
# Computations that take notes

A computation that notes a problem and goes on, so that all the problems are reported at its end.
It may also raise, and then there is no report.
-/

namespace ModelSwitch

abbrev Noting (ν : Type) := WriterT (List ν) Option

namespace Noting

variable {ν α β : Type}

def note (n : ν) : Noting ν PUnit := tell [n]

def raise : Noting ν α := WriterT.mk none

/-- It comes to a value, and nothing was noted on the way. -/
def Clean (x : Noting ν α) (a : α) : Prop := x.run = some (a, [])

@[simp]
lemma clean_pure {a b : α} : Clean (pure a : Noting ν α) b ↔ a = b := by
  change (some (a, ([] : List ν)) = some (b, [])) ↔ a = b
  simp

@[simp]
lemma not_clean_note {n : ν} {u : PUnit} : ¬ Clean (note n) u := by
  change some (PUnit.unit, [n]) ≠ some (u, [])
  simp

@[simp]
lemma not_clean_raise {a : α} : ¬ Clean (raise : Noting ν α) a := nofun

@[simp]
lemma clean_bind {x : Noting ν α} {f : α → Noting ν β} {b : β} :
    Clean (x >>= f) b ↔ ∃ a, Clean x a ∧ Clean (f a) b := by
  have hrun : (x >>= f).run = x.run.bind fun p => (f p.1).run.map fun q => (q.1, p.2 ++ q.2) := rfl
  simp only [Clean, hrun, Option.bind_eq_some_iff, Option.map_eq_some_iff, Prod.mk.injEq,
    List.append_eq_nil_iff, Prod.exists]
  constructor
  · rintro ⟨a, _, hx, b', _, hf, rfl, rfl, rfl⟩
    exact ⟨a, hx, hf⟩
  · rintro ⟨a, hx, hf⟩
    exact ⟨a, [], hx, b, [], hf, rfl, rfl, rfl⟩

lemma clean_mapM' {f : α → Noting ν β} {xs : List α} {ys : List β} :
    Clean (xs.mapM' f) ys ↔ List.Forall₂ (fun x y => Clean (f x) y) xs ys := by
  induction xs generalizing ys with
  | nil => simp [List.mapM', eq_comm]
  | cons x xs ih =>
    simp only [List.mapM', clean_bind, clean_pure, ih, List.forall₂_cons_left_iff]
    constructor
    · rintro ⟨y, hy, ys, hys, rfl⟩
      exact ⟨y, ys, hy, hys, rfl⟩
    · rintro ⟨y, ys, hy, hys, rfl⟩
      exact ⟨y, hy, ys, hys, rfl⟩

end Noting

end ModelSwitch

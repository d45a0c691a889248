import Mathlib.Algebra.Order.Round
import Mathlib.Data.Rat.Floor
import Mathlib.Tactic.Linarith

/-!
# Rounding half to even

The nearest integer of a rational, with ties to the even one. Rounding is monotone, moves a number
by a half at most, and commutes with adding an even integer. It need not commute with adding an odd
one.
-/

namespace ModelSwitch.Rounding

/-- The nearest integer, the even one of two. -/
def halfEven (x : ℚ) : ℤ :=
  if x - ⌊x⌋ < 1 / 2 ∨ x - ⌊x⌋ = 1 / 2 ∧ ⌊x⌋ % 2 = 0 then ⌊x⌋ else ⌊x⌋ + 1

/-- The nearest multiple of `1 / scale`. -/
def toMultiple (scale : ℕ) (x : ℚ) : ℚ := halfEven (x * scale) / scale

lemma floor_le_halfEven (x : ℚ) : ⌊x⌋ ≤ halfEven x := by
  unfold halfEven
  split_ifs <;> omega

lemma halfEven_le_floor (x : ℚ) : halfEven x ≤ ⌊x⌋ + 1 := by
  unfold halfEven
  split_ifs <;> omega

lemma halfEven_mono {x y : ℚ} (h : x ≤ y) : halfEven x ≤ halfEven y := by
  rcases (Int.floor_le_floor h).lt_or_eq with hlt | heq
  · calc halfEven x ≤ ⌊x⌋ + 1 := halfEven_le_floor x
      _ ≤ ⌊y⌋ := hlt
      _ ≤ halfEven y := floor_le_halfEven y
  · unfold halfEven
    rw [heq]
    split_ifs with hx hy hy
    · exact le_rfl
    · omega
    · -- the smaller of two numbers with the same integer part is rounded down with the larger one
      refine absurd ?_ hx
      rcases hy with hy | ⟨hy, heven⟩
      · exact .inl (by linarith)
      · rcases h.lt_or_eq with h | h
        · exact .inl (by linarith)
        · exact .inr ⟨by rw [h, hy], heven⟩
    · exact le_rfl

lemma halfEven_add_even (x : ℚ) (k : ℤ) : halfEven (x + (2 * k : ℤ)) = halfEven x + 2 * k := by
  have hmod : (⌊x⌋ + 2 * k) % 2 = ⌊x⌋ % 2 := by omega
  have hpart : x + (2 * k : ℤ) - (⌊x⌋ + 2 * k : ℤ) = x - ⌊x⌋ := by
    push_cast
    ring
  unfold halfEven
  rw [Int.floor_add_intCast, hmod, hpart]
  split_ifs <;> omega

lemma halfEven_sub_le (x : ℚ) : halfEven x - x ≤ 1 / 2 := by
  unfold halfEven
  split_ifs with h
  · linarith [Int.floor_le x]
  · rw [not_or, not_lt] at h
    push_cast
    linarith [h.1]

lemma halfEven_nonneg {x : ℚ} (h : 0 ≤ x) : 0 ≤ halfEven x :=
  (Int.floor_nonneg.mpr h).trans (floor_le_halfEven x)

section

variable {scale : ℕ} {x y : ℚ}

lemma toMultiple_mono (h : x ≤ y) : toMultiple scale x ≤ toMultiple scale y := by
  unfold toMultiple
  have : x * scale ≤ y * scale := by gcongr
  gcongr
  exact halfEven_mono this

lemma toMultiple_nonneg (h : 0 ≤ x) : 0 ≤ toMultiple scale x := by
  have : 0 ≤ halfEven (x * scale) := halfEven_nonneg (by positivity)
  unfold toMultiple
  positivity

/-- A step of an even number of units stays one after rounding, so a shorter one does not exceed
it. -/
lemma toMultiple_add_le {d : ℚ} {k : ℤ} (hscale : 0 < scale) (hd : d * scale = (2 * k : ℤ))
    (h : y ≤ x + d) : toMultiple scale y ≤ toMultiple scale x + d := by
  have hpos : (0 : ℚ) < scale := by exact_mod_cast hscale
  calc toMultiple scale y ≤ toMultiple scale (x + d) := toMultiple_mono h
    _ = toMultiple scale x + d := by
      rw [toMultiple, toMultiple, add_mul, hd, halfEven_add_even, Int.cast_add, ← hd, add_div,
        mul_div_cancel_right₀ _ hpos.ne']

lemma toMultiple_le (hscale : 0 < scale) : toMultiple scale x ≤ x + 1 / (2 * scale) := by
  have hpos : (0 : ℚ) < scale := by exact_mod_cast hscale
  have hhalf := halfEven_sub_le (x * scale)
  unfold toMultiple
  rw [div_le_iff₀ hpos, add_mul, div_mul_eq_mul_div, one_mul, mul_comm 2 (scale : ℚ),
    div_mul_cancel_left₀ hpos.ne']
  linarith

end

end ModelSwitch.Rounding

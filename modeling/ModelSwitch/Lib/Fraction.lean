import Mathlib.Data.List.DropRight
import Mathlib.Data.Rat.Defs
import Mathlib.Tactic.Linarith
import Mathlib.Tactic.Positivity

/-!
# Decimal fractions

The value of the digits behind a decimal point, of any number. Zeros at the end do not count, and
without them the value determines the digits.
-/

namespace ModelSwitch.Fraction

abbrev Digit := Fin 10

scoped instance neZeroTen : NeZero 10 := ⟨by decide⟩

/-- The digits behind the point. -/
def value : List Digit → ℚ
  | [] => 0
  | d :: ds => (d.val + value ds) / 10

/-- The digits without the zeros at their end. -/
def trim (ds : List Digit) : List Digit := ds.rdropWhile (· = 0)

lemma value_nonneg (ds : List Digit) : 0 ≤ value ds := by
  induction ds with
  | nil => exact le_rfl
  | cons d ds ih =>
    rw [value]
    positivity

lemma value_lt_one (ds : List Digit) : value ds < 1 := by
  induction ds with
  | nil => exact one_pos
  | cons d ds ih =>
    have hd : (d.val : ℚ) ≤ 9 := by exact_mod_cast Nat.le_of_lt_succ d.isLt
    rw [value, div_lt_one (by norm_num)]
    linarith

lemma value_concat_zero (ds : List Digit) : value (ds ++ [0]) = value ds := by
  induction ds with
  | nil => simp [value]
  | cons d ds ih => rw [List.cons_append, value, value, ih]

lemma value_trim (ds : List Digit) : value (trim ds) = value ds := by
  induction ds using List.reverseRecOn with
  | nil => rfl
  | append_singleton ds d ih =>
    rw [trim, List.rdropWhile_concat]
    split_ifs with hd
    · rw [decide_eq_true_eq] at hd
      rw [hd, value_concat_zero]
      exact ih
    · rfl

/-- There is no zero at the end. -/
def Trimmed (ds : List Digit) : Prop := ∀ h : ds ≠ [], ds.getLast h ≠ 0

lemma trimmed_trim (ds : List Digit) : Trimmed (trim ds) := by
  intro h
  have hlast := List.rdropWhile_last_not (fun d : Digit => decide (d = 0)) ds h
  exact fun hzero => hlast (decide_eq_true hzero)

lemma Trimmed.tail {d : Digit} {ds : List Digit} (h : Trimmed (d :: ds)) : Trimmed ds := by
  intro hne
  rw [← List.getLast_cons hne]
  exact h _

lemma Trimmed.value_pos {ds : List Digit} (h : Trimmed ds) (hne : ds ≠ []) : 0 < value ds := by
  induction ds with
  | nil => exact absurd rfl hne
  | cons d ds ih =>
    rw [value]
    by_cases hnil : ds = []
    · subst hnil
      have hd : 0 < d.val := Nat.pos_of_ne_zero fun hd => h hne (Fin.ext hd)
      have : (0 : ℚ) < d.val := by exact_mod_cast hd
      simp only [value]
      positivity
    · have := ih h.tail hnil
      positivity

/-- Trimmed digits are determined by their value. -/
theorem Trimmed.eq_of_value {ds es : List Digit} (hds : Trimmed ds) (hes : Trimmed es)
    (h : value ds = value es) : ds = es := by
  induction ds generalizing es with
  | nil =>
    by_contra hne
    exact absurd h (hes.value_pos (Ne.symm hne)).ne
  | cons d ds ih =>
    cases es with
    | nil => exact absurd h (hds.value_pos (List.cons_ne_nil _ _)).ne'
    | cons e es =>
      simp only [value] at h
      have hsum : (d.val : ℚ) + value ds = e.val + value es := by linarith
      -- the first digit is the integer part of ten times the value
      have hd : d.val = e.val := by
        have h₁ : (d.val : ℚ) < e.val + 1 := by linarith [value_nonneg ds, value_lt_one es]
        have h₂ : (e.val : ℚ) < d.val + 1 := by linarith [value_nonneg es, value_lt_one ds]
        have h₁ : d.val < e.val + 1 := by exact_mod_cast h₁
        have h₂ : e.val < d.val + 1 := by exact_mod_cast h₂
        omega
      rw [hd, add_right_inj] at hsum
      rw [Fin.ext hd, ih hds.tail hes.tail hsum]

lemma trim_eq_trim_iff {ds es : List Digit} : trim ds = trim es ↔ value ds = value es := by
  constructor
  · intro h
    rw [← value_trim ds, h, value_trim]
  · intro h
    refine (trimmed_trim ds).eq_of_value (trimmed_trim es) ?_
    rw [value_trim, value_trim, h]

end ModelSwitch.Fraction

import Mathlib.Tactic.IntervalCases
import Mathlib.Tactic.Linarith

/-!
# The Gregorian calendar

Dates of the years 1 to 9999 and their numbers. The days are numbered without a gap, and a date is
determined by its number.
-/

namespace ModelSwitch.Calendar

def isLeap (y : ℕ) : Bool := y % 4 = 0 && (y % 100 ≠ 0 || y % 400 = 0)

def daysInMonth (y m : ℕ) : ℕ :=
  if m = 2 then if isLeap y then 29 else 28
  else if m = 4 ∨ m = 6 ∨ m = 9 ∨ m = 11 then 30
  else 31

def daysInYear (y : ℕ) : ℕ := if isLeap y then 366 else 365

def daysBeforeYear (y : ℕ) : ℕ := (y - 1) * 365 + (y - 1) / 4 - (y - 1) / 100 + (y - 1) / 400

def daysBeforeMonth (y : ℕ) : ℕ → ℕ
  | 0 => 0
  | m + 1 => if m = 0 then 0 else daysBeforeMonth y m + daysInMonth y m

structure Date where
  year : ℕ
  month : ℕ
  day : ℕ
  year_range : 1 ≤ year ∧ year ≤ 9999
  month_range : 1 ≤ month ∧ month ≤ 12
  day_range : 1 ≤ day ∧ day ≤ daysInMonth year month

namespace Date

/-- A date, if there is one with these numbers. -/
def make (y m d : ℕ) : Option Date :=
  if h : (1 ≤ y ∧ y ≤ 9999) ∧ (1 ≤ m ∧ m ≤ 12) ∧ 1 ≤ d ∧ d ≤ daysInMonth y m then
    some ⟨y, m, d, h.1, h.2.1, h.2.2⟩
  else none

def next (date : Date) : Option Date :=
  if date.day < daysInMonth date.year date.month then make date.year date.month (date.day + 1)
  else if date.month < 12 then make date.year (date.month + 1) 1
  else make (date.year + 1) 1 1

def previous (date : Date) : Option Date :=
  if 1 < date.day then make date.year date.month (date.day - 1)
  else if 1 < date.month then
    make date.year (date.month - 1) (daysInMonth date.year (date.month - 1))
  else make (date.year - 1) 12 31

/-- The number of a date; the first of January of the year 1 has the number 1. -/
def ordinal (date : Date) : ℕ :=
  daysBeforeYear date.year + daysBeforeMonth date.year date.month + date.day

end Date

/-! ### Years and months -/

lemma daysBeforeYear_succ {y : ℕ} (hy : 1 ≤ y) :
    daysBeforeYear (y + 1) = daysBeforeYear y + daysInYear y := by
  obtain ⟨k, rfl⟩ : ∃ k, y = k + 1 := ⟨y - 1, by omega⟩
  have hle : k / 100 ≤ k / 4 := Nat.div_le_div_left (by decide) (by decide)
  have h100 : (k + 1) % 100 = 0 → (k + 1) % 4 = 0 := by omega
  have h400 : (k + 1) % 400 = 0 → (k + 1) % 100 = 0 := by omega
  simp only [daysBeforeYear, daysInYear, isLeap, Nat.add_sub_cancel, Bool.and_eq_true,
    Bool.or_eq_true, decide_eq_true_eq, Nat.succ_div, Nat.dvd_iff_mod_eq_zero]
  by_cases h₁ : (k + 1) % 4 = 0 <;> by_cases h₂ : (k + 1) % 100 = 0 <;>
    by_cases h₃ : (k + 1) % 400 = 0 <;> simp only [h₁, h₂, h₃] at h100 h400 ⊢ <;> grind

lemma daysBeforeMonth_succ {y m : ℕ} (hm : 1 ≤ m) :
    daysBeforeMonth y (m + 1) = daysBeforeMonth y m + daysInMonth y m := by
  rw [daysBeforeMonth, if_neg (by omega)]

/-- The months of a year fill it. -/
lemma daysBeforeMonth_december (y : ℕ) : daysBeforeMonth y 12 + 31 = daysInYear y := by
  cases hleap : isLeap y <;> simp [daysBeforeMonth, daysInMonth, daysInYear, hleap]

lemma daysBeforeYear_mono {y y' : ℕ} (hy : 1 ≤ y) (h : y < y') :
    daysBeforeYear y + daysInYear y ≤ daysBeforeYear y' := by
  induction y', h using Nat.le_induction with
  | base => exact (daysBeforeYear_succ hy).ge
  | succ y' h ih =>
    rw [daysBeforeYear_succ (by omega)]
    omega

lemma daysBeforeMonth_mono {y m m' : ℕ} (hm : 1 ≤ m) (h : m < m') :
    daysBeforeMonth y m + daysInMonth y m ≤ daysBeforeMonth y m' := by
  induction m', h using Nat.le_induction with
  | base => exact (daysBeforeMonth_succ hm).ge
  | succ m' h ih =>
    rw [daysBeforeMonth_succ (by omega)]
    omega

/-! ### Dates -/

namespace Date

variable {date date' : Date}

lemma eq_of_make {y m d : ℕ} (h : make y m d = some date) :
    date.year = y ∧ date.month = m ∧ date.day = d := by
  simp only [make, Option.dite_none_right_eq_some, Option.some.injEq] at h
  obtain ⟨-, rfl⟩ := h
  exact ⟨rfl, rfl, rfl⟩

lemma ordinal_of_make {y m d : ℕ} (h : make y m d = some date) :
    date.ordinal = daysBeforeYear y + daysBeforeMonth y m + d := by
  obtain ⟨rfl, rfl, rfl⟩ := eq_of_make h
  rfl

lemma ordinal_next (h : date.next = some date') : date'.ordinal = date.ordinal + 1 := by
  have hd := date.day_range
  have hm := date.month_range
  simp only [next] at h
  split_ifs at h with hday hmonth
  · rw [ordinal_of_make h, ordinal]
    omega
  · rw [ordinal_of_make h, ordinal, daysBeforeMonth_succ hm.1]
    omega
  · have hdecember : date.month = 12 := by omega
    have hlast : date.day = 31 := by
      have hlen : daysInMonth date.year date.month = 31 := by rw [hdecember]; rfl
      omega
    rw [ordinal_of_make h, ordinal, daysBeforeYear_succ date.year_range.1,
      ← daysBeforeMonth_december, hdecember, hlast]
    simp only [daysBeforeMonth, if_true]
    omega

lemma ordinal_previous (h : date.previous = some date') : date'.ordinal + 1 = date.ordinal := by
  have hd := date.day_range
  have hm := date.month_range
  simp only [previous] at h
  split_ifs at h with hday hmonth
  · rw [ordinal_of_make h, ordinal]
    omega
  · obtain ⟨m, hmonth'⟩ : ∃ m, date.month = m + 1 := ⟨date.month - 1, by omega⟩
    rw [ordinal_of_make h, ordinal, hmonth', Nat.add_sub_cancel, daysBeforeMonth_succ (by omega)]
    omega
  · obtain ⟨hyear, -, -⟩ := eq_of_make h
    have hrange := date'.year_range
    obtain ⟨y, hyear'⟩ : ∃ y, date.year = y + 1 := ⟨date.year - 1, by omega⟩
    have hmonth' : date.month = 1 := by omega
    have hfirst : daysBeforeMonth (y + 1) 1 = 0 := rfl
    have hdecember := daysBeforeMonth_december y
    rw [ordinal_of_make h, ordinal, hyear', hmonth', Nat.add_sub_cancel,
      daysBeforeYear_succ (by omega), hfirst]
    omega

/-- Within its year, a date comes before all dates of later months. -/
lemma dayOfYear_le (date : Date) :
    daysBeforeMonth date.year date.month + date.day ≤ daysInYear date.year := by
  have hd := date.day_range
  have hm := date.month_range
  have hdecember := daysBeforeMonth_december date.year
  rcases hm.2.lt_or_eq with hlt | heq
  · have := daysBeforeMonth_mono (y := date.year) hm.1 hlt
    omega
  · have hlen : daysInMonth date.year date.month = 31 := by rw [heq]; rfl
    rw [heq]
    omega

lemma ordinal_lt_of_year_lt (h : date.year < date'.year) : date.ordinal < date'.ordinal := by
  have hle := dayOfYear_le date
  have hmono := daysBeforeYear_mono date.year_range.1 h
  have hd := date'.day_range
  simp only [ordinal]
  omega

lemma ordinal_lt_of_month_lt (hy : date.year = date'.year) (h : date.month < date'.month) :
    date.ordinal < date'.ordinal := by
  have hmono := daysBeforeMonth_mono (y := date.year) date.month_range.1 h
  have hd := date.day_range
  have hd' := date'.day_range
  simp only [ordinal, ← hy]
  omega

/-- A date is determined by its number. -/
theorem ordinal_injective : Function.Injective ordinal := by
  intro date date' h
  have hy : date.year = date'.year := by
    rcases lt_trichotomy date.year date'.year with hlt | heq | hlt
    · exact absurd h (ordinal_lt_of_year_lt hlt).ne
    · exact heq
    · exact absurd h (ordinal_lt_of_year_lt hlt).ne'
  have hm : date.month = date'.month := by
    rcases lt_trichotomy date.month date'.month with hlt | heq | hlt
    · exact absurd h (ordinal_lt_of_month_lt hy hlt).ne
    · exact heq
    · exact absurd h (ordinal_lt_of_month_lt hy.symm hlt).ne'
  have hd : date.day = date'.day := by
    simp only [ordinal, hy, hm] at h
    omega
  obtain ⟨y, m, d, _, _, _⟩ := date
  obtain ⟨y', m', d', _, _, _⟩ := date'
  obtain ⟨rfl, rfl, rfl⟩ : y = y' ∧ m = m' ∧ d = d' := ⟨hy, hm, hd⟩
  rfl

end Date

end ModelSwitch.Calendar

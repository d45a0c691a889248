import ModelSwitch.Program.Arrivals
import Mathlib.Data.Nat.Count

/-!
# A built plan is a valid one

The plan is spaced by a step of 15 seconds at most and validated on its rounded offsets. Fifteen
seconds are an even number of milliseconds, so rounding half to even never widens a gap beyond them.
-/

namespace ModelSwitch.Arrivals

open Rounding

/-! ### Counting arrivals -/

namespace ArrivalPlan

lemma get?_foldl_countArrival (entries : List PlannedRequest) (counts : Dict ModelId ℕ)
    (m : ModelId) :
    ((entries.foldl countArrival counts).get? m).getD 0 =
      (counts.get? m).getD 0 + entries.countP (·.modelId = m) := by
  induction entries generalizing counts with
  | nil => rfl
  | cons entry entries ih =>
    rw [List.foldl_cons, ih, List.countP_cons, countArrival, Dict.get?_set]
    by_cases hm : m = entry.modelId
    · simp only [hm, if_true, Option.getD_some, decide_true]
      omega
    · simp only [hm, if_false, decide_eq_true_eq, Ne.symm hm, Nat.add_zero]

lemma mem_of_get?_foldl {entries : List PlannedRequest} {counts : Dict ModelId ℕ} {m : ModelId}
    {count : ℕ} (h : (entries.foldl countArrival counts).get? m = some count) :
    counts.get? m = some count ∨ ∃ entry ∈ entries, entry.modelId = m := by
  induction entries generalizing counts with
  | nil => exact .inl h
  | cons entry entries ih =>
    rcases ih h with h | ⟨entry', hmem, hm⟩
    · by_cases hm : m = entry.modelId
      · exact .inr ⟨entry, List.mem_cons_self .., hm.symm⟩
      · rw [countArrival, Dict.get?_set_ne _ _ hm] at h
        exact .inl h
    · exact .inr ⟨entry', List.mem_cons_of_mem _ hmem, hm⟩

lemma getD_perModel (plan : ArrivalPlan) (m : ModelId) :
    (plan.perModel.get? m).getD 0 = plan.entries.countP (·.modelId = m) := by
  have hfold := get?_foldl_countArrival plan.entries Dict.empty m
  rw [Dict.get?_empty, Option.getD_none, zero_add] at hfold
  exact hfold

/-- A model is listed with the number of its arrivals, and only if it has one. -/
lemma perModel_get? {plan : ArrivalPlan} {m : ModelId} {count : ℕ}
    (h : plan.perModel.get? m = some count) :
    count = plan.entries.countP (·.modelId = m) ∧ ∃ entry ∈ plan.entries, entry.modelId = m := by
  refine ⟨by rw [← getD_perModel, h, Option.getD_some], ?_⟩
  exact (mem_of_get?_foldl h).resolve_left (by simp)

end ArrivalPlan

/-! ### What the builder accepts -/

/-- The arguments of a plan that is built, and its step. -/
structure Built (models : List ModelId) (duration : ℚ) (requests : ℤ) (capability : String)
    (step : ℚ) (plan : ArrivalPlan) : Prop where
  nonempty : models ≠ []
  enough : 3 * models.length ≤ requests.toNat
  step_nonneg : 0 ≤ step
  step_le : step ≤ maxArrivalGapSeconds
  whole : requests * step = duration
  duration : plan.durationSeconds = duration
  entries : plan.entries = (List.range requests.toNat).map fun index =>
    { index := index, offsetSeconds := round3 (index * step),
      modelId := models.getD (index % models.length) "", capability := capability }

variable {models : List ModelId} {duration : ℚ} {requests : ℤ} {capability : String} {step : ℚ}
  {plan : ArrivalPlan}

lemma built_of_ok (h : buildArrivalPlan models duration requests capability = .ok plan) :
    ∃ step, Built models duration requests capability step plan := by
  simp only [buildArrivalPlan] at h
  generalize hstep : (if 1 < requests then duration / requests else 0 : ℚ) = step at h
  split_ifs at h with hnone hone hfew hdur hgap
  rw [not_lt] at hone hfew hgap
  rw [not_le] at hdur
  have hpos : (0 : ℚ) < requests := by exact_mod_cast hone
  have hmodels := List.length_pos_iff.mpr hnone
  rw [if_pos (by omega)] at hstep
  cases h
  refine ⟨step, hnone, by omega, ?_, hgap, ?_, rfl, rfl⟩
  · exact hstep ▸ (div_pos hdur hpos).le
  · rw [← hstep, mul_div_cancel₀ _ hpos.ne']

namespace Built

variable (h : Built models duration requests capability step plan)

include h

lemma length_entries : plan.entries.length = requests.toNat := by
  rw [h.entries, List.length_map, List.length_range]

lemma getElem?_entries {i : ℕ} {entry : PlannedRequest} (hi : plan.entries[i]? = some entry) :
    i < requests.toNat ∧ entry.offsetSeconds = round3 (i * step) ∧
      entry.modelId = models.getD (i % models.length) "" := by
  rw [h.entries, List.getElem?_map, Option.map_eq_some_iff] at hi
  obtain ⟨j, hj, rfl⟩ := hi
  obtain ⟨hlt, rfl⟩ := List.getElem?_eq_some_iff.mp hj
  rw [List.length_range] at hlt
  rw [List.getElem_range]
  exact ⟨hlt, rfl, rfl⟩

lemma offset_succ_le (i : ℕ) :
    round3 ((i + 1 : ℕ) * step) ≤ round3 (i * step) + maxArrivalGapSeconds := by
  have hstep : ((i + 1 : ℕ) : ℚ) * step ≤ i * step + maxArrivalGapSeconds := by
    push_cast
    linarith [h.step_le]
  have heven : maxArrivalGapSeconds * (1000 : ℕ) = (2 * 7500 : ℤ) := by
    norm_num [maxArrivalGapSeconds]
  exact toMultiple_add_le (by decide) heven hstep

/-- A gap is the difference of two neighbouring offsets. -/
lemma gap_le {gap : ℚ} (hgap : gap ∈ plan.gaps) : gap ≤ maxArrivalGapSeconds := by
  obtain ⟨⟨first, second⟩, hmem, rfl⟩ := List.mem_map.mp hgap
  obtain ⟨i, hi⟩ := List.mem_iff_getElem?.mp hmem
  obtain ⟨hfirst, hsecond⟩ := List.getElem?_zip_eq_some.mp hi
  rw [List.getElem?_tail] at hsecond
  obtain ⟨-, ho, -⟩ := h.getElem?_entries hfirst
  obtain ⟨-, ho', -⟩ := h.getElem?_entries hsecond
  rw [ho', ho]
  linarith [h.offset_succ_le i]

lemma modelId_mem {entry : PlannedRequest} (hentry : entry ∈ plan.entries) :
    entry.modelId ∈ models := by
  obtain ⟨i, hi⟩ := List.mem_iff_getElem?.mp hentry
  obtain ⟨hlt, -, hm⟩ := h.getElem?_entries hi
  have hmod : i % models.length < models.length := Nat.mod_lt _ (List.length_pos_iff.mpr h.nonempty)
  rw [hm, List.getD, List.getElem?_eq_getElem hmod]
  exact List.getElem_mem hmod

lemma offset_bounds {entry : PlannedRequest} (hentry : entry ∈ plan.entries) :
    0 ≤ entry.offsetSeconds ∧ entry.offsetSeconds ≤ duration + 1 / 2000 := by
  obtain ⟨i, hi⟩ := List.mem_iff_getElem?.mp hentry
  obtain ⟨hlt, ho, -⟩ := h.getElem?_entries hi
  have hstep := h.step_nonneg
  have hle : (i : ℚ) * step ≤ duration := by
    have hcast : (i : ℚ) ≤ requests := by exact_mod_cast (by omega : (i : ℤ) ≤ requests)
    calc (i : ℚ) * step ≤ requests * step := by gcongr
      _ = duration := h.whole
  rw [ho]
  refine ⟨toMultiple_nonneg (by positivity), ?_⟩
  calc round3 (i * step) ≤ i * step + 1 / (2 * (1000 : ℕ)) := toMultiple_le (by decide)
    _ ≤ duration + 1 / 2000 := by
      norm_num
      exact hle

lemma offsets_sorted : (plan.entries.map (·.offsetSeconds)).Pairwise (· ≤ ·) := by
  have hstep := h.step_nonneg
  rw [h.entries, List.map_map, List.pairwise_map]
  refine List.pairwise_le_range.imp fun hij => ?_
  have hle : _ * step ≤ _ * step := mul_le_mul_of_nonneg_right (Nat.cast_le.mpr hij) hstep
  exact toMultiple_mono hle

/-- Every model comes round three times in the first `3 * models.length` arrivals. -/
lemma three_le_count {m : ModelId} (hm : m ∈ models) :
    3 ≤ plan.entries.countP (·.modelId = m) := by
  obtain ⟨j, hj, rfl⟩ := List.mem_iff_getElem.mp hm
  have hget : models.getD j "" = models[j] := by simp [List.getD, hj]
  set n := models.length with hn
  have hat : ∀ k, (j + k * n) % n = j := fun k => by
    rw [Nat.add_mul_mod_self_right, Nat.mod_eq_of_lt hj]
  have hsub : ({j, j + 1 * n, j + 2 * n} : Finset ℕ) ⊆ {i ∈ Finset.range requests.toNat |
      models.getD (i % n) "" = models[j]} := by
    intro i hi
    have henough := h.enough
    simp only [Finset.mem_insert, Finset.mem_singleton] at hi
    rw [Finset.mem_filter, Finset.mem_range]
    rcases hi with rfl | rfl | rfl
    · exact ⟨by omega, by rw [Nat.mod_eq_of_lt hj, hget]⟩
    · exact ⟨by omega, by rw [hat 1, hget]⟩
    · exact ⟨by omega, by rw [hat 2, hget]⟩
  have hcard := Finset.card_le_card hsub
  rw [Finset.card_eq_three.mpr ⟨j, j + 1 * n, j + 2 * n, by omega, by omega, by omega, rfl⟩]
    at hcard
  rw [h.entries, List.countP_map]
  rwa [← Nat.count_eq_card_filter_range, Nat.count] at hcard

end Built

/-- **Every built plan is valid**: enough arrivals over enough time, three of each model, and no gap
above the limit after rounding. -/
theorem build_valid (models : List ModelId) (duration : ℚ) (hduration : 1800 ≤ duration)
    (requests : ℤ) (hrequests : 100 ≤ requests) (capability : String)
    (plan : ArrivalPlan) (h : buildArrivalPlan models duration requests capability = .ok plan) :
    validateArrivalPlan plan = [] ∧
      (∀ m ∈ models, 3 ≤ (plan.perModel.get? m).getD 0) ∧
      (∀ gap ∈ plan.gaps, gap ≤ 15) ∧
      (plan.entries.map (·.offsetSeconds)).Pairwise (· ≤ ·) ∧
      ∀ entry ∈ plan.entries, 0 ≤ entry.offsetSeconds ∧
        entry.offsetSeconds ≤ duration + 1 / 2000 := by
  obtain ⟨step, hbuilt⟩ := built_of_ok h
  refine ⟨?_, fun m hm => ?_, fun gap => hbuilt.gap_le, hbuilt.offsets_sorted,
    fun entry => hbuilt.offset_bounds⟩
  · have hlength : ¬ plan.entries.length < minOperationalRequests := by
      rw [hbuilt.length_entries, minOperationalRequests]
      omega
    have hlasts : ¬ plan.durationSeconds < minOperationalSeconds := by
      rw [hbuilt.duration, minOperationalSeconds]
      exact not_lt.mpr hduration
    have hmodels : (plan.perModel.entries.insertionSort (·.1 ≤ ·.1)).filter (·.2 < 3) = [] := by
      refine List.filter_eq_nil_iff.mpr fun p hp => ?_
      rw [List.mem_insertionSort] at hp
      obtain ⟨hcount, entry, hentry, hm⟩ :=
        ArrivalPlan.perModel_get? (Dict.mem_entries_iff.mp hp)
      rw [decide_eq_true_eq, not_lt, hcount]
      exact hbuilt.three_le_count (hm ▸ hbuilt.modelId_mem hentry)
    have hgaps : plan.gaps.max?.toList.filter (maxArrivalGapSeconds < ·) = [] := by
      refine List.filter_eq_nil_iff.mpr fun gap hgap => ?_
      rw [decide_eq_true_eq, not_lt]
      exact hbuilt.gap_le (List.max?_mem (Option.mem_toList.mp hgap))
    rw [validateArrivalPlan, if_neg hlength, if_neg hlasts, hmodels, hgaps]
    rfl
  · rw [plan.getD_perModel]
    exact hbuilt.three_le_count hm

/-- Two hundred requests with a step of 14.9995 seconds, which is rounded up to the limit. -/
theorem build_valid_steady : ∃ plan,
    buildArrivalPlan ["a", "b", "c"] (29999 / 10) 200 "chat" = .ok plan ∧
      validateArrivalPlan plan = [] := by
  obtain ⟨plan, hplan⟩ : ∃ plan,
      buildArrivalPlan ["a", "b", "c"] (29999 / 10) 200 "chat" = .ok plan :=
    ⟨_, by norm_num [buildArrivalPlan, maxArrivalGapSeconds]; rfl⟩
  exact ⟨plan, hplan, (build_valid _ _ (by norm_num) 200 (by norm_num) _ plan hplan).1⟩

end ModelSwitch.Arrivals

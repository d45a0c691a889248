import Mathlib.Tactic
import Mathlib.Data.List.Nodup
import Mathlib.Algebra.BigOperators.Group.List.Basic
import Mathlib.Algebra.Order.BigOperators.Group.Finset

/-!
# Insertion-ordered dictionaries

A `Dict` keeps its entries in insertion order: assigning to a present key updates it in place,
assigning to a new key appends it. No key occurs twice, so a lookup sees every entry.
-/

namespace ModelSwitch

/-- A finite map in insertion order. -/
structure Dict (κ ν : Type*) where
  entries : List (κ × ν)
  nodup : (entries.map Prod.fst).Nodup

namespace Dict

variable {κ ν ε μ : Type*} {k : κ} {v : ν} {l : List (κ × ν)} {d : Dict κ ν}
  {f : κ → ν → Except ε μ}

/-! ### Entries -/

section Entries

variable [DecidableEq κ]

def lookup (k : κ) : List (κ × ν) → Option ν
  | [] => none
  | (k', v) :: l => if k' = k then some v else lookup k l

def assign (k : κ) (v : ν) : List (κ × ν) → List (κ × ν)
  | [] => [(k, v)]
  | (k', v') :: l => if k' = k then (k, v) :: l else (k', v') :: assign k v l

lemma lookup_eq_none_iff : lookup k l = none ↔ k ∉ l.map Prod.fst := by
  induction l with
  | nil => simp [lookup]
  | cons p l ih =>
    obtain ⟨k', v⟩ := p
    by_cases h : k' = k
    · simp [lookup, h]
    · simp [lookup, h, ih, Ne.symm h]

lemma mem_of_lookup (h : lookup k l = some v) : (k, v) ∈ l := by
  induction l with
  | nil => simp [lookup] at h
  | cons p l ih =>
    obtain ⟨k', v'⟩ := p
    by_cases hk : k' = k
    · simp only [lookup, hk, if_true, Option.some.injEq] at h
      simp [hk, h]
    · simp only [lookup, hk, if_false] at h
      exact List.mem_cons_of_mem _ (ih h)

lemma lookup_of_mem (hl : (l.map Prod.fst).Nodup) (h : (k, v) ∈ l) : lookup k l = some v := by
  induction l with
  | nil => simp at h
  | cons p l ih =>
    obtain ⟨k', v'⟩ := p
    simp only [List.map_cons, List.nodup_cons] at hl
    rcases List.mem_cons.mp h with heq | hmem
    · cases heq; simp [lookup]
    · have hne : k' ≠ k := by
        rintro rfl
        exact hl.1 (List.mem_map_of_mem (f := Prod.fst) hmem)
      simp [lookup, hne, ih hl.2 hmem]

lemma lookup_assign (k k' : κ) (v : ν) (l : List (κ × ν)) :
    lookup k' (assign k v l) = if k' = k then some v else lookup k' l := by
  induction l with
  | nil => simp [assign, lookup, eq_comm]
  | cons p l ih =>
    obtain ⟨k₀, v₀⟩ := p
    by_cases h : k₀ = k
    · subst h
      by_cases h' : k' = k₀
      · simp [assign, lookup, h']
      · simp [assign, lookup, h', Ne.symm h']
    · by_cases h' : k₀ = k'
      · subst h'
        simp [assign, lookup, h]
      · simp [assign, lookup, h, h', ih]

lemma map_fst_assign_of_mem (v : ν) (h : k ∈ l.map Prod.fst) :
    (assign k v l).map Prod.fst = l.map Prod.fst := by
  induction l with
  | nil => simp at h
  | cons p l ih =>
    obtain ⟨k₀, v₀⟩ := p
    by_cases hk : k₀ = k
    · simp [assign, hk]
    · have h' : k ∈ l.map Prod.fst := by simpa [Ne.symm hk] using h
      simp [assign, hk, ih h']

lemma assign_of_notMem (v : ν) (h : k ∉ l.map Prod.fst) : assign k v l = l ++ [(k, v)] := by
  induction l with
  | nil => simp [assign]
  | cons p l ih =>
    obtain ⟨k₀, v₀⟩ := p
    simp only [List.map_cons, List.mem_cons, not_or] at h
    simp [assign, Ne.symm h.1, ih h.2]

lemma assign_assign (k : κ) (v v' : ν) (l : List (κ × ν)) :
    assign k v' (assign k v l) = assign k v' l := by
  induction l with
  | nil => simp [assign]
  | cons p l ih =>
    obtain ⟨k₀, v₀⟩ := p
    by_cases h : k₀ = k
    · simp [assign, h]
    · simp [assign, h, ih]

lemma nodup_assign (hl : (l.map Prod.fst).Nodup) (k : κ) (v : ν) :
    ((assign k v l).map Prod.fst).Nodup := by
  by_cases h : k ∈ l.map Prod.fst
  · rwa [map_fst_assign_of_mem v h]
  · rw [assign_of_notMem v h, List.map_append, List.nodup_append]
    refine ⟨hl, by simp, ?_⟩
    intro a ha b hb
    simp only [List.map_cons, List.map_nil, List.mem_singleton] at hb
    rintro rfl
    exact h (hb ▸ ha)

lemma lookup_filter {p : κ × ν → Bool} (hl : (l.map Prod.fst).Nodup) :
    lookup k (l.filter p) = (lookup k l).filter (fun v => p (k, v)) := by
  induction l with
  | nil => simp [lookup]
  | cons q l ih =>
    obtain ⟨k₀, v₀⟩ := q
    simp only [List.map_cons, List.nodup_cons] at hl
    have ih := ih hl.2
    by_cases hk : k₀ = k
    · subst hk
      have hnone : lookup k₀ l = none := lookup_eq_none_iff.mpr hl.1
      cases hp : p (k₀, v₀) <;> simp [lookup, Option.filter, hp, ih, hnone]
    · cases hp : p (k₀, v₀) <;> simp [lookup, hp, ih, hk]

lemma lookup_map {μ : Type*} (f : κ → ν → μ) (k : κ) (l : List (κ × ν)) :
    lookup k (l.map fun p => (p.1, f p.1 p.2)) = (lookup k l).map (f k) := by
  induction l with
  | nil => simp [lookup]
  | cons q l ih =>
    obtain ⟨k₀, v₀⟩ := q
    by_cases hk : k₀ = k
    · subst hk; simp [lookup]
    · simp [lookup, hk, ih]

/-- Map a function that may fail over the values; the first failure wins. -/
def mapEntriesM {ε μ : Type*} (f : κ → ν → Except ε μ) :
    List (κ × ν) → Except ε (List (κ × μ))
  | [] => .ok []
  | (k, v) :: l =>
    match f k v with
    | .error e => .error e
    | .ok w =>
      match mapEntriesM f l with
      | .error e => .error e
      | .ok l' => .ok ((k, w) :: l')

omit [DecidableEq κ] in
lemma mapEntriesM_cons_ok {l' : List (κ × μ)} (h : mapEntriesM f ((k, v) :: l) = .ok l') :
    ∃ w l₁, f k v = .ok w ∧ mapEntriesM f l = .ok l₁ ∧ l' = (k, w) :: l₁ := by
  simp only [mapEntriesM] at h
  split at h
  · cases h
  · rename_i w hw
    split at h
    · cases h
    · rename_i l₁ hl
      cases h
      exact ⟨w, l₁, hw, hl, rfl⟩

omit [DecidableEq κ] in
lemma map_fst_mapEntriesM {l' : List (κ × μ)}
    (h : mapEntriesM f l = .ok l') : l'.map Prod.fst = l.map Prod.fst := by
  induction l generalizing l' with
  | nil => cases h; rfl
  | cons p l ih =>
    obtain ⟨w, l₁, _, hl, rfl⟩ := mapEntriesM_cons_ok h
    simp [ih hl]

lemma lookup_mapEntriesM {l' : List (κ × μ)} (h : mapEntriesM f l = .ok l') {w : μ}
    (hk : lookup k l' = some w) : ∃ v, lookup k l = some v ∧ f k v = .ok w := by
  induction l generalizing l' with
  | nil => cases h; simp [lookup] at hk
  | cons p l ih =>
    obtain ⟨k₀, v₀⟩ := p
    obtain ⟨w₀, l₁, hf, hl, rfl⟩ := mapEntriesM_cons_ok h
    by_cases hkk : k₀ = k
    · subst hkk
      simp only [lookup, if_true, Option.some.injEq] at hk ⊢
      subst hk
      exact ⟨v₀, rfl, hf⟩
    · simp only [lookup, hkk, if_false] at hk ⊢
      exact ih hl hk

end Entries

/-! ### Operations -/

def empty : Dict κ ν := ⟨[], by simp⟩

def keys (d : Dict κ ν) : List κ := d.entries.map Prod.fst

def values (d : Dict κ ν) : List ν := d.entries.map Prod.snd

def size (d : Dict κ ν) : ℕ := d.entries.length

/-- Keep the entries satisfying `p`, in their order. -/
def filter (d : Dict κ ν) (p : κ × ν → Bool) : Dict κ ν :=
  ⟨d.entries.filter p, d.nodup.sublist (List.filter_sublist.map _)⟩

/-- Replace every value, keeping the keys. -/
def mapVal {μ : Type*} (d : Dict κ ν) (f : κ → ν → μ) : Dict κ μ :=
  ⟨d.entries.map fun p => (p.1, f p.1 p.2), by
    have h : (d.entries.map fun p => (p.1, f p.1 p.2)).map Prod.fst = d.entries.map Prod.fst := by
      simp [List.map_map, Function.comp_def]
    rw [h]
    exact d.nodup⟩

/-- Map a function that may fail over the values, keeping the keys. -/
def mapValM {ε μ : Type*} (d : Dict κ ν) (f : κ → ν → Except ε μ) : Except ε (Dict κ μ) :=
  match h : mapEntriesM f d.entries with
  | .error e => .error e
  | .ok l => .ok ⟨l, by rw [map_fst_mapEntriesM h]; exact d.nodup⟩

lemma mapValM_ok {d' : Dict κ μ}
    (h : d.mapValM f = .ok d') : mapEntriesM f d.entries = .ok d'.entries := by
  unfold mapValM at h
  split at h
  · cases h
  · rename_i l hl
    cases h
    exact hl

lemma exists_mapEntriesM
    (h : ∀ p ∈ l, ∃ w, f p.1 p.2 = .ok w) : ∃ l', mapEntriesM f l = .ok l' := by
  induction l with
  | nil => exact ⟨[], rfl⟩
  | cons p l ih =>
    obtain ⟨w, hw⟩ := h p (.head _)
    obtain ⟨l', hl'⟩ := ih fun q hq => h q (.tail _ hq)
    exact ⟨(p.1, w) :: l', by simp [mapEntriesM, hw, hl']⟩

lemma exists_mapValM
    (h : ∀ p ∈ d.entries, ∃ w, f p.1 p.2 = .ok w) : ∃ d', d.mapValM f = .ok d' := by
  obtain ⟨l, hl⟩ := exists_mapEntriesM h
  unfold mapValM
  split
  · rename_i e he
    cases hl.symm.trans he
  · exact ⟨_, rfl⟩

lemma keys_mapValM {d' : Dict κ μ} (h : d.mapValM f = .ok d') : d'.keys = d.keys :=
  map_fst_mapEntriesM (mapValM_ok h)

/-- The sum of `f` over the entries. -/
def sum (d : Dict κ ν) (f : κ → ν → ℤ) : ℤ := (d.entries.map fun p => f p.1 p.2).sum

@[simp] lemma keys_mapVal {μ : Type*} (d : Dict κ ν) (f : κ → ν → μ) :
    (d.mapVal f).keys = d.keys := by
  simp [keys, mapVal, List.map_map, Function.comp_def]

lemma sum_mapVal {μ : Type*} (d : Dict κ ν) (g : κ → ν → μ) (f : κ → μ → ℤ) :
    (d.mapVal g).sum f = d.sum fun k v => f k (g k v) := by
  simp [sum, mapVal, List.map_map, Function.comp_def]

variable [DecidableEq κ]

def get? (d : Dict κ ν) (k : κ) : Option ν := lookup k d.entries

def contains (d : Dict κ ν) (k : κ) : Bool := (d.get? k).isSome

/-- `d[k] = v`. -/
def set (d : Dict κ ν) (k : κ) (v : ν) : Dict κ ν :=
  ⟨assign k v d.entries, nodup_assign d.nodup k v⟩

/-- `d.pop(k, None)`. -/
def erase (d : Dict κ ν) (k : κ) : Dict κ ν := d.filter fun p => p.1 ≠ k

/-! ### Lookup -/

@[simp] lemma get?_empty (k : κ) : (empty : Dict κ ν).get? k = none := rfl

lemma get?_set (d : Dict κ ν) (k k' : κ) (v : ν) :
    (d.set k v).get? k' = if k' = k then some v else d.get? k' :=
  lookup_assign k k' v d.entries

@[simp] lemma get?_set_self (d : Dict κ ν) (k : κ) (v : ν) : (d.set k v).get? k = some v := by
  simp [get?_set]

lemma get?_set_ne (d : Dict κ ν) {k k' : κ} (v : ν) (h : k' ≠ k) :
    (d.set k v).get? k' = d.get? k' := by
  simp [get?_set, h]

lemma set_set (d : Dict κ ν) (k : κ) (v v' : ν) : (d.set k v).set k v' = d.set k v' := by
  simp only [set, assign_assign]

/-- A dictionary filled from a list whose keys are new and distinct. -/
lemma entries_foldl_set {α : Type*} (key : α → κ) (val : α → ν) {l : List α}
    (h : (d.keys ++ l.map key).Nodup) :
    (l.foldl (fun d a => d.set (key a) (val a)) d).entries =
      d.entries ++ l.map fun a => (key a, val a) := by
  induction l generalizing d with
  | nil => simp
  | cons a l ih =>
    have hnew : key a ∉ d.keys := by
      intro hmem
      exact (List.nodup_append.mp h).2.2 _ hmem (key a) (by simp) rfl
    have hset : (d.set (key a) (val a)).entries = d.entries ++ [(key a, val a)] :=
      assign_of_notMem _ hnew
    have hkeys : (d.set (key a) (val a)).keys = d.keys ++ [key a] := by simp [keys, hset]
    rw [List.foldl_cons, ih (by simpa [hkeys] using h), hset]
    simp

lemma get?_filter (d : Dict κ ν) (p : κ × ν → Bool) (k : κ) :
    (d.filter p).get? k = (d.get? k).filter (fun v => p (k, v)) :=
  lookup_filter d.nodup

lemma get?_erase (d : Dict κ ν) (k k' : κ) :
    (d.erase k).get? k' = if k' = k then none else d.get? k' := by
  rw [erase, get?_filter]
  by_cases h : k' = k
  · cases d.get? k' <;> simp [h]
  · cases d.get? k' <;> simp [h]

@[simp] lemma get?_erase_self (d : Dict κ ν) (k : κ) : (d.erase k).get? k = none := by
  simp [get?_erase]

lemma get?_erase_ne (d : Dict κ ν) {k k' : κ} (h : k' ≠ k) :
    (d.erase k).get? k' = d.get? k' := by
  simp [get?_erase, h]

lemma get?_mapVal {μ : Type*} (d : Dict κ ν) (f : κ → ν → μ) (k : κ) :
    (d.mapVal f).get? k = (d.get? k).map (f k) :=
  lookup_map f k d.entries

lemma get?_mapValM {d' : Dict κ μ} (h : d.mapValM f = .ok d') {w : μ}
    (hk : d'.get? k = some w) : ∃ v, d.get? k = some v ∧ f k v = .ok w :=
  lookup_mapEntriesM (mapValM_ok h) hk

lemma mem_entries_iff : (k, v) ∈ d.entries ↔ d.get? k = some v :=
  ⟨lookup_of_mem d.nodup, mem_of_lookup⟩

lemma mem_values_iff : v ∈ d.values ↔ ∃ k, d.get? k = some v := by
  simp [values, ← mem_entries_iff]

lemma mem_keys_iff : k ∈ d.keys ↔ ∃ v, d.get? k = some v := by
  simp [keys, ← mem_entries_iff]

lemma get?_eq_none_iff : d.get? k = none ↔ k ∉ d.keys :=
  lookup_eq_none_iff

lemma contains_iff : d.contains k = true ↔ ∃ v, d.get? k = some v := by
  simp [contains, Option.isSome_iff_exists]

lemma entries_eq_nil_of_get? (h : ∀ k, d.get? k = none) : d.entries = [] := by
  match hd : d.entries with
  | [] => rfl
  | (k, v) :: l =>
    have hk : d.get? k = some v := mem_entries_iff.mp (by simp [hd])
    rw [h k] at hk
    cases hk

/-! ### Keys and sizes -/

lemma keys_set_of_get? (h : d.get? k = some v) (v' : ν) : (d.set k v').keys = d.keys :=
  map_fst_assign_of_mem v' (mem_keys_iff.mpr ⟨v, h⟩)

lemma size_set_of_get?_none (h : d.get? k = none) (v : ν) : (d.set k v).size = d.size + 1 := by
  simp [size, set, assign_of_notMem v (lookup_eq_none_iff.mp h)]

lemma size_erase_le (d : Dict κ ν) (k : κ) : (d.erase k).size ≤ d.size :=
  List.length_filter_le _ _

/-! ### Sums over the entries -/

/-- The sum of `f` over the entries. -/
lemma sum_assign (f : κ → ν → ℤ) (v' : ν) (h : lookup k l = some v) :
    ((assign k v' l).map fun p => f p.1 p.2).sum
      = (l.map fun p => f p.1 p.2).sum - f k v + f k v' := by
  induction l with
  | nil => simp [lookup] at h
  | cons p l ih =>
    obtain ⟨k₀, v₀⟩ := p
    by_cases hk : k₀ = k
    · simp only [lookup, hk, if_true, Option.some.injEq] at h
      subst h
      simp only [assign, hk, if_true, List.map_cons, List.sum_cons]
      ring
    · simp only [lookup, hk, if_false] at h
      simp only [assign, hk, if_false, List.map_cons, List.sum_cons, ih h]
      ring

lemma sum_set (f : κ → ν → ℤ) (h : d.get? k = some v) (v' : ν) :
    (d.set k v').sum f = d.sum f - f k v + f k v' :=
  sum_assign f v' h

lemma sum_congr {f g : κ → ν → ℤ}
    (h : ∀ k v, d.get? k = some v → f k v = g k v) : d.sum f = d.sum g := by
  refine congrArg List.sum (List.map_congr_left ?_)
  rintro ⟨k, v⟩ hp
  exact h k v (mem_entries_iff.mp hp)

lemma sum_le_sum {f g : κ → ν → ℤ}
    (h : ∀ k v, d.get? k = some v → f k v ≤ g k v) : d.sum f ≤ d.sum g := by
  refine List.sum_le_sum ?_
  rintro ⟨k, v⟩ hp
  exact h k v (mem_entries_iff.mp hp)

lemma sum_set_of_get?_none (h : d.get? k = none) (f : κ → ν → ℤ) (v : ν) :
    (d.set k v).sum f = d.sum f + f k v := by
  simp [sum, set, assign_of_notMem v (lookup_eq_none_iff.mp h)]

lemma sum_erase (d : Dict κ ν) (k : κ) (f : κ → ν → ℤ) :
    (d.erase k).sum f = d.sum f - (d.get? k).elim 0 (f k) := by
  obtain ⟨l, hl⟩ := d
  simp only [sum, erase, filter, get?]
  induction l with
  | nil => rfl
  | cons p l ih =>
    obtain ⟨k₀, v₀⟩ := p
    rw [List.map_cons, List.nodup_cons] at hl
    have ih := ih hl.2
    by_cases hk : k₀ = k
    · subst hk
      rw [lookup_eq_none_iff.mpr hl.1] at ih
      simp only [lookup, if_true, ne_eq, not_true_eq_false, decide_false, Bool.false_eq_true,
        not_false_eq_true, List.filter_cons_of_neg, List.map_cons, List.sum_cons,
        Option.elim_some] at ih ⊢
      rw [ih, Option.elim_none]
      ring
    · simp only [lookup, hk, if_false, ne_eq, not_false_eq_true, decide_true,
        List.filter_cons_of_pos, List.map_cons, List.sum_cons] at ih ⊢
      rw [ih]
      ring

/-- The sum over the entries at other keys. -/
def sumBesides (d : Dict κ ν) (k : κ) (f : κ → ν → ℤ) : ℤ := d.sum f - (d.get? k).elim 0 (f k)

@[simp] lemma sumBesides_set (d : Dict κ ν) (k : κ) (v : ν) (f : κ → ν → ℤ) :
    (d.set k v).sumBesides k f = d.sumBesides k f := by
  rw [sumBesides, sumBesides, get?_set_self, Option.elim_some]
  cases h : d.get? k with
  | none =>
    rw [sum_set_of_get?_none h, Option.elim_none]
    ring
  | some v₀ =>
    rw [sum_set f h, Option.elim_some]
    ring

@[simp] lemma sumBesides_erase (d : Dict κ ν) (k : κ) (f : κ → ν → ℤ) :
    (d.erase k).sumBesides k f = d.sumBesides k f := by
  rw [sumBesides, sumBesides, get?_erase_self, Option.elim_none, sum_erase, sub_zero]

end Dict

end ModelSwitch

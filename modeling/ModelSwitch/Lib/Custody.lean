import Mathlib.Data.List.Count
import Mathlib.Data.Nat.Notation
import Mathlib.Logic.Function.Basic
import Mathlib.Logic.Relation

/-!
# Custody of values that are taken and given back

Owners `ι` take values `V`, file each of them in the slot they have for it, and give it back. The
log says which values were taken, by whom, and which were given back. In balanced books a value is
given back at most once, and exactly once if it has been filed and its slot is shut.
-/

namespace ModelSwitch

namespace Custody

/-- A line of the log. -/
inductive Entry (ι V : Type*)
  | took (i : ι) (v : V)
  | gave (v : V)
  deriving DecidableEq

end Custody

/-- The books of every owner. -/
@[ext]
structure Custody (ι V : Type*) where
  slot : ι → Option V
  shut : ι → Bool
  log : List (Custody.Entry ι V)

namespace Custody

variable {ι V : Type*} [DecidableEq ι] {c c' : Custody ι V} {i j : ι} {u v : V}
  {grants files hand : ι → V → Prop}

def take (c : Custody ι V) (i : ι) (v : V) : Custody ι V := { c with log := c.log ++ [.took i v] }

def file (c : Custody ι V) (i : ι) (v : V) : Custody ι V :=
  { c with slot := Function.update c.slot i (some v) }

def give (c : Custody ι V) (i : ι) (v : V) : Custody ι V :=
  { c with shut := Function.update c.shut i true, log := c.log ++ [.gave v] }

/-- One operation on the books: `grants` may be taken, `files` may be filed. -/
inductive Step (grants files : ι → V → Prop) (c : Custody ι V) : Custody ι V → Prop
  | stay : Step grants files c c
  | take (i : ι) (v : V) (h : grants i v) (hfresh : ∀ j, .took j v ∉ c.log) :
      Step grants files c (c.take i v)
  | file (i : ι) (v : V) (h : files i v) : Step grants files c (c.file i v)
  | give (i : ι) (v : V) (hs : c.slot i = some v) (ho : c.shut i = false) :
      Step grants files c (c.give i v)

/-- What may be filed was taken, and its slot is free for it. -/
structure Ready (files : ι → V → Prop) (c : Custody ι V) : Prop where
  unique : ∀ i u v, files i u → files i v → u = v
  taken : ∀ i v, files i v → .took i v ∈ c.log
  free : ∀ i v, files i v → c.slot i = none ∨ c.slot i = some v

/-- Nothing is lost: what was taken is in hand or filed. -/
def Kept (hand : ι → V → Prop) (c : Custody ι V) : Prop :=
  ∀ i v, .took i v ∈ c.log → hand i v ∨ c.slot i = some v

lemma file_slot (h : c.slot i = some v) : c.file i v = c := by
  simp only [file, ← h, Function.update_eq_self]

lemma Step.log_subset (h : Step grants files c c') : c.log ⊆ c'.log := by
  cases h with
  | stay => exact fun _ h => h
  | take i v _ _ => exact fun _ h => List.mem_append_left _ h
  | file i v _ => exact fun _ h => h
  | give i v _ _ => exact fun _ h => List.mem_append_left _ h

lemma Step.slot_none (h : Step grants files c c') (hi : c.slot i = none) :
    c'.slot i = none ∨ ∃ v, files i v := by
  cases h with
  | file j v hf =>
    rcases eq_or_ne i j with rfl | hne
    · exact .inr ⟨v, hf⟩
    · simp only [Custody.file, Function.update_of_ne hne]
      exact .inl hi
  | _ => exact .inl hi

lemma Step.ready (h : Step grants files c c') (hr : Ready files c) : Ready files c' := by
  refine ⟨hr.unique, fun i v hf => h.log_subset (hr.taken i v hf), fun i v hf => ?_⟩
  cases h with
  | file j u hu =>
    rcases eq_or_ne i j with rfl | hne
    · rw [hr.unique i u v hu hf]
      exact .inr (Function.update_self ..)
    · simp only [Custody.file, Function.update_of_ne hne]
      exact hr.free i v hf
  | _ => exact hr.free i v hf

lemma Step.kept (h : Step grants files c c') (hr : Ready files c)
    (hg : ∀ i v, grants i v → hand i v) (hk : Kept hand c) : Kept hand c' := by
  intro j u hu
  cases h with
  | stay => exact hk j u hu
  | take i v hgrant _ =>
    simp only [Custody.take, List.mem_append, List.mem_singleton, Entry.took.injEq] at hu
    rcases hu with hu | ⟨rfl, rfl⟩
    · exact hk j u hu
    · exact .inl (hg j u hgrant)
  | file i v hf =>
    refine (hk j u hu).imp_right fun hslot => ?_
    rcases eq_or_ne j i with rfl | hne
    · rcases hr.free j v hf with hnone | hsome
      · rw [hnone] at hslot
        cases hslot
      · rw [file_slot hsome]
        exact hslot
    · simp only [Custody.file, Function.update_of_ne hne]
      exact hslot
  | give i v _ _ =>
    simp only [Custody.give, List.mem_append, List.mem_singleton, reduceCtorEq, or_false] at hu
    exact hk j u hu

lemma steps_kept (h : Relation.ReflTransGen (Step grants files) c c') (hr : Ready files c)
    (hg : ∀ i v, grants i v → hand i v) (hk : Kept hand c) : Kept hand c' := by
  have hboth : Kept hand c' ∧ Ready files c' := by
    induction h with
    | refl => exact ⟨hk, hr⟩
    | tail _ hs ih => exact ⟨hs.kept ih.2 hg ih.1, hs.ready ih.2⟩
  exact hboth.1

lemma steps_log_subset (h : Relation.ReflTransGen (Step grants files) c c') : c.log ⊆ c'.log := by
  induction h with
  | refl => exact fun _ h => h
  | tail _ hs ih => exact fun _ h => hs.log_subset (ih h)

/-- A slot stays empty unless something may be filed in it. -/
lemma steps_slot_none (h : Relation.ReflTransGen (Step grants files) c c') (hi : c.slot i = none) :
    c'.slot i = none ∨ ∃ v, files i v := by
  induction h with
  | refl => exact .inl hi
  | tail _ hs ih => exact ih.elim hs.slot_none .inr

/-! ### Balanced books -/

variable [DecidableEq V]

/-- How often a value was given back. -/
def returns (c : Custody ι V) (v : V) : ℕ := c.log.count (.gave v)

/-- What the log says agrees with the slots. -/
structure Balanced (c : Custody ι V) : Prop where
  owner : ∀ i j v, .took i v ∈ c.log → .took j v ∈ c.log → i = j
  filed : ∀ i v, c.slot i = some v → .took i v ∈ c.log
  held : ∀ i, c.shut i = true → (c.slot i).isSome = true
  returned : ∀ v, .gave v ∈ c.log → ∃ i, c.slot i = some v ∧ c.shut i = true
  gone : ∀ i v, c.slot i = some v → c.shut i = true → .gave v ∈ c.log
  once : ∀ v, c.returns v ≤ 1

namespace Balanced

/-- A value in a shut slot was given back once. -/
lemma returns_eq_one (h : c.Balanced) (hs : c.slot i = some v) (hg : c.shut i = true) :
    c.returns v = 1 :=
  Nat.le_antisymm (h.once v) (List.count_pos_iff.mpr (h.gone i v hs hg))

lemma take (h : c.Balanced) (hfresh : ∀ j, .took j v ∉ c.log) : (c.take i v).Balanced := by
  have hmem : ∀ {j u}, .took j u ∈ (c.take i v).log → .took j u ∈ c.log ∨ j = i ∧ u = v := by
    intro j u hu
    simpa [Custody.take] using hu
  have hgave : ∀ {u}, .gave u ∈ (c.take i v).log → .gave u ∈ c.log := by
    intro u hu
    simpa [Custody.take] using hu
  refine ⟨?_, ?_, h.held, fun u hu => h.returned u (hgave hu), ?_, ?_⟩
  · intro j k u hj hk
    rcases hmem hj with hold | ⟨rfl, rfl⟩
    · rcases hmem hk with hold' | ⟨rfl, rfl⟩
      · exact h.owner j k u hold hold'
      · exact absurd hold (hfresh j)
    · rcases hmem hk with hold' | ⟨rfl, -⟩
      · exact absurd hold' (hfresh k)
      · rfl
  · exact fun j u hu => List.mem_append_left _ (h.filed j u hu)
  · exact fun j u hu hs => List.mem_append_left _ (h.gone j u hu hs)
  · intro u
    have hcount : (c.take i v).returns u = c.returns u := by
      simp [returns, Custody.take, List.count_append]
    rw [hcount]
    exact h.once u

lemma file (h : c.Balanced) (htaken : .took i v ∈ c.log)
    (hfree : c.slot i = none ∨ c.slot i = some v) : (c.file i v).Balanced := by
  rcases hfree with hnone | hsome
  · have hopen : c.shut i = false := by
      by_contra hshut
      have hheld := h.held i (Bool.not_eq_false _ ▸ hshut)
      rw [hnone] at hheld
      cases hheld
    have hslot : ∀ {j u}, (c.file i v).slot j = some u → j = i ∧ u = v ∨ c.slot j = some u := by
      intro j u hu
      rcases eq_or_ne j i with rfl | hne
      · simp only [Custody.file, Function.update_self, Option.some.injEq] at hu
        exact .inl ⟨rfl, hu.symm⟩
      · simp only [Custody.file, Function.update_of_ne hne] at hu
        exact .inr hu
    have hkept : ∀ {j u}, c.slot j = some u → (c.file i v).slot j = some u := by
      intro j u hu
      rcases eq_or_ne j i with rfl | hne
      · rw [hnone] at hu
        cases hu
      · simp only [Custody.file, Function.update_of_ne hne, hu]
    refine ⟨h.owner, ?_, ?_, ?_, ?_, h.once⟩
    · intro j u hu
      rcases hslot hu with ⟨rfl, rfl⟩ | hold
      · exact htaken
      · exact h.filed j u hold
    · intro j hs
      obtain ⟨u, hu⟩ := Option.isSome_iff_exists.mp (h.held j hs)
      rw [hkept hu]
      rfl
    · intro u hu
      obtain ⟨j, hj, hs⟩ := h.returned u hu
      exact ⟨j, hkept hj, hs⟩
    · intro j u hu hs
      rcases hslot hu with ⟨rfl, rfl⟩ | hold
      · rw [show c.shut j = true from hs] at hopen
        cases hopen
      · exact h.gone j u hold hs
  · rw [file_slot hsome]
    exact h

lemma give (h : c.Balanced) (hs : c.slot i = some v) (ho : c.shut i = false) :
    (c.give i v).Balanced := by
  have hout : .gave v ∉ c.log := by
    intro hgave
    obtain ⟨j, hj, hshut⟩ := h.returned v hgave
    have hji := h.owner j i v (h.filed j v hj) (h.filed i v hs)
    rw [hji, ho] at hshut
    cases hshut
  have htook : ∀ {j u}, .took j u ∈ (c.give i v).log → .took j u ∈ c.log := by
    intro j u hu
    simpa [Custody.give] using hu
  have hshut : ∀ {j}, (c.give i v).shut j = true → j = i ∨ c.shut j = true := by
    intro j hj
    rcases eq_or_ne j i with rfl | hne
    · exact .inl rfl
    · simp only [Custody.give, Function.update_of_ne hne] at hj
      exact .inr hj
  have hset : ∀ {j}, c.shut j = true → (c.give i v).shut j = true := by
    intro j hj
    rcases eq_or_ne j i with rfl | hne
    · simp only [Custody.give, Function.update_self]
    · simp only [Custody.give, Function.update_of_ne hne, hj]
  refine ⟨fun j k u hj hk => h.owner j k u (htook hj) (htook hk), ?_, ?_, ?_, ?_, ?_⟩
  · exact fun j u hu => List.mem_append_left _ (h.filed j u hu)
  · intro j hj
    rcases hshut hj with rfl | hold
    · rw [show (c.give j v).slot j = some v from hs]
      rfl
    · exact h.held j hold
  · intro u hu
    simp only [Custody.give, List.mem_append, List.mem_singleton, Entry.gave.injEq] at hu
    rcases hu with hu | rfl
    · obtain ⟨j, hj, hshut⟩ := h.returned u hu
      exact ⟨j, hj, hset hshut⟩
    · exact ⟨i, hs, by simp only [Custody.give, Function.update_self]⟩
  · intro j u hu hj
    rcases hshut hj with rfl | hold
    · have huv : u = v := Option.some.inj (hu.symm.trans hs)
      rw [huv]
      exact List.mem_append_right _ List.mem_cons_self
    · exact List.mem_append_left _ (h.gone j u hu hold)
  · intro u
    simp only [returns, Custody.give, List.count_append, List.count_singleton]
    split
    · next heq =>
      have huv : v = u := by simpa using heq
      have hzero := List.count_eq_zero_of_not_mem hout
      rw [← huv]
      omega
    · exact h.once u

end Balanced

lemma Step.balanced (h : Step grants files c c') (hr : Ready files c) (hb : c.Balanced) :
    c'.Balanced := by
  cases h with
  | stay => exact hb
  | take i v _ hfresh => exact hb.take hfresh
  | file i v hf => exact hb.file (hr.taken i v hf) (hr.free i v hf)
  | give i v hs ho => exact hb.give hs ho

/-- Books stay balanced, and what was ready to be filed stays ready. -/
lemma steps_balanced (h : Relation.ReflTransGen (Step grants files) c c') (hr : Ready files c)
    (hb : c.Balanced) : c'.Balanced ∧ Ready files c' := by
  induction h with
  | refl => exact ⟨hb, hr⟩
  | tail _ hs ih => exact ⟨hs.balanced ih.2 ih.1, hs.ready ih.2⟩

end Custody

end ModelSwitch

import ModelSwitch.Proofs.Execution.Tasks

/-!
# Somebody tears a settled execution down

Whoever settles an execution owes the return of what it holds. If no task drops its debts, there is
for every settled execution that still holds something a task that has to return it.
-/

namespace ModelSwitch.Execution

/-- The record is settled and holds what the debt is about. -/
def Record.Owes (r : Record) : Debt → Prop
  | .lease _ => r.settled = true ∧ r.lease.isSome = true ∧ r.leaseReleased = false
  | .input _ => r.settled = true ∧ r.inputCtx.isSome = true ∧ r.inputClosed = false

/-- The execution a debt is about. -/
def Debt.id : Debt → ExecutionId
  | .lease id | .input id => id

section

variable {L : Licence} {p p' : List Debt × Service} {s : Service} {id : ExecutionId}
  {f : Record → Record} {δ : Debt} {D O : Debt → Prop}

lemma Service.unpaid_iff : s.Unpaid δ ↔ (s.get δ.id).Owes δ := by
  cases δ <;> rfl

lemma Record.Owes.settled {r : Record} (h : r.Owes δ) : r.settled = true := by
  cases δ <;> exact h.1

/-- Every debt of `D` is in the list, or somebody else has it. -/
def Covers (D O : Debt → Prop) (p : List Debt × Service) : Prop :=
  ∀ δ, D δ → p.2.Unpaid δ → δ ∈ p.1 ∨ O δ

/-- An edit brings up at most the debts of its own execution. -/
lemma Covers.update {d d' : List Debt} (h : Covers D O (d, s)) (hd : d ⊆ d')
    (hf : ∀ δ, δ.id = id → (f (s.get id)).Owes δ → (s.get id).Owes δ ∨ δ ∈ d') :
    Covers D O (d', s.update id f) := by
  intro δ hD hδ
  have hold : s.Unpaid δ → δ ∈ d' ∨ O δ := fun hδ => (h δ hD hδ).imp_left fun hmem => hd hmem
  rw [Service.unpaid_iff] at hδ
  rcases s.get_update_cases id δ.id f with heq | ⟨hid, heq⟩
  · rw [heq] at hδ
    exact hold (Service.unpaid_iff.mpr hδ)
  · rw [heq] at hδ
    refine (hf δ hid hδ).elim (fun hr => hold (Service.unpaid_iff.mpr ?_)) .inl
    rw [hid]
    exact hr

lemma Edit.owes {r r' : Record} (h : Edit L id r r') (hδ : r'.Owes δ) : r.Owes δ := by
  cases h with
  | quiet h =>
    have hcore : r'.core.Owes δ := by cases δ <;> exact hδ
    rw [h] at hcore
    cases δ <;> exact hcore
  | handOver lease h hs hc =>
    have hsettled := hδ.settled
    rw [show r.settled = true from hsettled] at hs
    cases hs
  | _ => cases δ <;> exact hδ

lemma Record.mark_owes (r : Record) (cancel : Bool) (code message : String)
    (hδ : (({ r with cancelPending := r.cancelPending || cancel }.markReason code
      message).markCancelling).Owes δ) : r.Owes δ := by
  revert hδ
  simp only [markReason, markCancelling]
  split <;> split <;> exact fun hδ => by cases δ <;> exact hδ

lemma mem_debts (d : List Debt) (hid : δ.id = id) : δ ∈ .lease id :: .input id :: d := by
  cases δ with
  | lease id' => obtain rfl : id' = id := hid; exact List.mem_cons_self
  | input id' => obtain rfl : id' = id := hid; exact List.mem_cons_of_mem _ List.mem_cons_self

lemma Move.covers (h : Move L p p') (hD : ∀ δ, D δ → ¬ L.forgets δ) (hc : Covers D O p) :
    Covers D O p' := by
  have hsub : ∀ (d : List Debt) (id : ExecutionId), d ⊆ .lease id :: .input id :: d :=
    fun d id => List.subset_cons_of_subset _ (List.subset_cons_self _ _)
  cases h with
  | @frame d s s' h =>
    intro δ hδ hu
    rw [Service.unpaid_iff, Service.get, h.records] at hu
    exact hc δ hδ (Service.unpaid_iff.mpr hu)
  | edit id f h => exact hc.update (fun _ h => h) fun δ _ hδ => .inl (h.owes hδ)
  | claim id hq hs hc' =>
    exact hc.update (fun _ h => h) fun δ _ hδ => .inl (by cases δ <;> exact hδ)
  | mark id cancel code message hs hlock hok =>
    exact hc.update (fun _ h => h) fun δ _ hδ => .inl (Record.mark_owes _ _ _ _ hδ)
  | settle id f h => exact hc.update (hsub _ _) fun δ hid _ => .inr (mem_debts _ hid)
  | succeed id blob hs hlock hp hok =>
    exact hc.update (hsub _ _) fun δ hid _ => .inr (mem_debts _ hid)
  | @finish d s id =>
    obtain ⟨store, heq⟩ := s.finishIdempotency_eq id
    rw [heq]
    exact hc
  | @release d s id lease outcome hl hr =>
    have hc' : Covers D O (d, s.update id fun r => { r with leaseReleased := true }) := by
      refine hc.update (fun _ h => h) fun δ _ hδ => .inl ?_
      cases δ with
      | lease id' => exact ⟨hδ.1, hδ.2.1, hr⟩
      | input id' => exact hδ
    exact hc'
  | store id ctx h =>
    refine hc.update (fun _ h => List.mem_cons_of_mem _ h) fun δ hid hδ => ?_
    cases δ with
    | lease id' => exact .inl hδ
    | input id' => obtain rfl : id' = id := hid; exact .inr List.mem_cons_self
  | @close d s id ctx hctx ho hs =>
    have hc' : Covers D O (d, s.update id fun r => { r with inputClosed := true }) := by
      refine hc.update (fun _ h => h) fun δ _ hδ => .inl ?_
      cases δ with
      | lease id' => exact hδ
      | input id' => exact ⟨hδ.1, hδ.2.1, ho⟩
    exact hc'
  | @create d s r n hL hr hnew hn hle =>
    intro δ hδ hu
    rw [Service.unpaid_iff] at hu
    rcases eq_or_ne δ.id r.executionId with hid | hne
    · have hsettled := hu.settled
      simp only [Service.get, Dict.get?_set, if_pos hid, Option.getD_some, hr.settled] at hsettled
      cases hsettled
    · simp only [Service.get, Dict.get?_set, if_neg hne] at hu
      exact hc δ hδ (Service.unpaid_iff.mpr hu)
  | pay δ' h =>
    intro δ hδ hu
    refine (hc δ hδ hu).imp_left fun hmem => List.mem_filter.mpr ⟨hmem, ?_⟩
    rw [decide_eq_true_eq]
    rintro rfl
    exact h.elim (fun hpaid => hpaid hu) (hD δ hδ)
  | owe h => exact fun δ hδ hu => (hc δ hδ hu).imp_left fun hmem => h hmem
  | _ => exact hc

lemma Moves.covers (h : Relation.ReflTransGen (Move L) p p') (hD : ∀ δ, D δ → ¬ L.forgets δ)
    (hc : Covers D O p) : Covers D O p' := by
  induction h with
  | refl => exact hc
  | tail _ hm ih => exact hm.covers hD ih

end

namespace System

variable {w : System} {t u : TaskId} {co : Co} {e : Effect Co Value} {L : Licence}
  {D : Debt → Prop}

lemma commit_running (hfresh : w.Fresh) (ht : t < w.nextTask) (hne : u ≠ t)
    (hu : w.Running u co) : (w.commit t e).Running u co := by
  simp only [Running, commit]
  rw [startTasks_get? _ _ _ (fresh_set hfresh ht _), if_neg (Nat.not_le_of_lt (hfresh.lt hu)),
    Dict.get?_set, if_neg hne]
  exact hu

lemma commit_running_self (hfresh : w.Fresh) (ht : t < w.nextTask) (h : e.ctl = .goto co) :
    (w.commit t e).Running t co := by
  simp only [Running, commit]
  rw [startTasks_get? _ _ _ (fresh_set hfresh ht _), if_neg (Nat.not_le_of_lt ht), Dict.get?_set,
    if_pos rfl, h]
  rfl

lemma killed_running {co' : Co} (hne : u ≠ t) (hu : w.Running u co') :
    (w.killed t co).Running u co' := by
  simp only [Running, killed, Dict.get?_set, if_neg hne]
  exact hu

lemma begun_running (hfresh : w.Fresh) (c : ApiCall) (hu : w.Running u co) :
    (w.begun c).Running u co := by
  simp only [Running, begun, Dict.get?_set, if_neg (Nat.ne_of_lt (hfresh.lt hu))]
  exact hu

/-- For every debt of `D` there is a task that has it. -/
def Covered (D : Debt → Prop) (w : System) : Prop :=
  ∀ δ, D δ → w.svc.Unpaid δ → ∃ t co, w.Running t co ∧ δ ∈ co.owes

/-- What the task that takes a turn owes, and what the others owe. -/
lemma Covered.covers (h : w.Covered D) (hrun : w.Running t co) :
    Covers D (fun δ => ∃ u co', u ≠ t ∧ w.Running u co' ∧ δ ∈ co'.owes) (co.owes, w.svc) := by
  intro δ hδ hu
  obtain ⟨u, co', hu, hmem⟩ := h δ hδ hu
  rcases eq_or_ne u t with rfl | hne
  · cases hrun.symm.trans hu
    exact .inl hmem
  · exact .inr ⟨u, co', hne, hu, hmem⟩

lemma Covered.commit (hw : w.Wf) (hrun : w.Running t co) (hD : ∀ δ, D δ → ¬ L.forgets δ)
    (hm : Relation.ReflTransGen (Move L) (co.owes, w.svc) (owesAfter e.ctl, e.next))
    (h : w.Covered D) : (w.commit t e).Covered D := by
  have hlt := hw.fresh.lt hrun
  intro δ hδ hu
  rcases Moves.covers hm hD (h.covers hrun) δ hδ hu with hmem | ⟨u, co', hne, hu, hmem⟩
  · cases hctl : e.ctl with
    | goto co' =>
      rw [hctl] at hmem
      exact ⟨t, co', commit_running_self hw.fresh hlt hctl, hmem⟩
    | done r =>
      rw [hctl] at hmem
      cases hmem
  · exact ⟨u, co', commit_running hw.fresh hlt hne hu, hmem⟩

lemma Covered.killed (hrun : w.Running t co) (hD : ∀ δ, D δ → ¬ L.forgets δ)
    (hm : Relation.ReflTransGen (Move L) (co.owes, w.svc) ([], co.thrown w.svc))
    (h : w.Covered D) : (w.killed t co).Covered D := by
  intro δ hδ hu
  rcases Moves.covers hm hD (h.covers hrun) δ hδ hu with hmem | ⟨u, co', hne, hu, hmem⟩
  · cases hmem
  · exact ⟨u, co', killed_running hne hu, hmem⟩

lemma Covered.begun (hw : w.Wf) (c : ApiCall) (h : w.Covered D) : (w.begun c).Covered D := by
  intro δ hδ hu
  obtain ⟨u, co, hu, hmem⟩ := h δ hδ hu
  exact ⟨u, co, begun_running hw.fresh c hu, hmem⟩

end System

end ModelSwitch.Execution

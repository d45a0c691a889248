import ModelSwitch.Program.Queue
import ModelSwitch.Lib.Run

/-!
# The waiters of a queue and its head

Which waiters each operation keeps, and that `head` is the first candidate in the order of aged
priority and sequence. Two waiters change places only while the later one has not fallen behind by
its lead in priority times the ageing period.
-/

namespace ModelSwitch

namespace RequestQueue

variable {q : RequestQueue} {request : RequestId} {item : QueuedRequest}

/-! ### Membership -/

lemma get?_expire (now : Time) (request : RequestId) :
    (q.expire now).items.get? request
      = (q.items.get? request).filter (fun item => ¬ item.deadline ≤ now) := by
  simp only [expire, Dict.get?_filter]

lemma get?_of_expire {now : Time} (h : (q.expire now).items.get? request = some item) :
    q.items.get? request = some item ∧ now < item.deadline := by
  rw [get?_expire, Option.filter_eq_some_iff] at h
  simpa using h

lemma get?_remove (request request' : RequestId) (state : WaitState) :
    (q.remove request state).1.items.get? request'
      = if request' = request then none else q.items.get? request' :=
  Dict.get?_erase _ _ _

lemma contains_iff : q.contains request = true ↔ ∃ item, q.items.get? request = some item :=
  Dict.contains_iff

lemma not_contains_iff : q.contains request = false ↔ q.items.get? request = none := by
  rw [← Bool.not_eq_true, contains_iff, Option.eq_none_iff_forall_ne_some]
  push Not
  rfl

lemma contains_expire {now : Time} (h : q.contains request = false) :
    (q.expire now).contains request = false := by
  rw [not_contains_iff] at h ⊢
  rw [get?_expire, h]
  rfl

lemma head_fst (now : Time) (eligible : QueuedRequest → Bool) (kind : Option WaitKind) :
    (q.head now eligible kind).1 = q.expire now := rfl

lemma isHead_fst (now : Time) (request : RequestId) (eligible : QueuedRequest → Bool)
    (kind : Option WaitKind) : (q.isHead request now eligible kind).1 = q.expire now := rfl

/-- `enqueue` files at most the waiter it names. -/
lemma get?_of_enqueue {request request' : RequestId} {model : ModelId} {priority : ℤ}
    {deadline now : Time} {kind : WaitKind} {q' : RequestQueue} {r : Except Exc QueuedRequest}
    (heq : q.enqueue request model priority deadline now kind = (q', r))
    (h : q'.items.get? request' = some item) :
    request' = request ∨ q.items.get? request' = some item := by
  unfold enqueue at heq
  dsimp only at heq
  split_ifs at heq <;> cases heq
  · exact .inr (get?_of_expire h).1
  · exact .inr (get?_of_expire h).1
  · by_cases hne : request' = request
    · exact .inl hne
    · rw [Dict.get?_set_ne _ _ hne] at h
      exact .inr (get?_of_expire h).1

/-- A waiter is filed under its own identifier, and no two waiters share a sequence number. -/
structure Inv (q : RequestQueue) : Prop where
  key : ∀ r item, q.items.get? r = some item → item.requestId = r
  bound : ∀ r item, q.items.get? r = some item → item.sequence ≤ q.sequence
  sequence : ∀ r r' item item', q.items.get? r = some item → q.items.get? r' = some item' →
    item.sequence = item'.sequence → r = r'

lemma init_inv {capacity : ℤ} {agingSeconds : ℚ} (h : init capacity agingSeconds = .ok q) :
    q.Inv := by
  simp only [init] at h
  split_ifs at h
  cases h
  exact ⟨by rintro r item ⟨⟩, by rintro r item ⟨⟩, by rintro r r' item item' ⟨⟩⟩

/-- What a step does to the queue: it drops waiters, and files one under `who` at most, which gets a
new number. -/
structure Moves (who : Option RequestId) (q q' : RequestQueue) : Prop where
  items : ∀ r item, q'.items.get? r = some item → who = some r ∨ q.items.get? r = some item
  inv : q.Inv → q'.Inv
  sequence : q.sequence ≤ q'.sequence
  fresh : ∀ r item, q'.items.get? r = some item →
    q.items.get? r = some item ∨ q.sequence < item.sequence

namespace Moves

variable {who : Option RequestId} {q' q'' : RequestQueue}

lemma refl (q : RequestQueue) : Moves who q q :=
  ⟨fun _ _ h => .inr h, id, le_refl _, fun _ _ h => .inl h⟩

lemma trans (h : Moves who q q') (h' : Moves who q' q'') : Moves who q q'' := by
  refine ⟨fun r item hr => ?_, h'.inv ∘ h.inv, h.sequence.trans h'.sequence, fun r item hr => ?_⟩
  · rcases h'.items r item hr with hr | hr
    · exact .inl hr
    · exact h.items r item hr
  · rcases h'.fresh r item hr with hr | hlt
    · exact h.fresh r item hr
    · exact .inr (h.sequence.trans_lt hlt)

lemma mono (h : Moves none q q') : Moves who q q' :=
  { h with items := fun r item hr => .inr ((h.items r item hr).resolve_left (by simp)) }

/-- Dropping waiters. -/
lemma of_subset (hs : q'.sequence = q.sequence)
    (h : ∀ r item, q'.items.get? r = some item → q.items.get? r = some item) : Moves who q q' where
  items r item hr := .inr (h r item hr)
  sequence := hs.ge
  fresh r item hr := .inl (h r item hr)
  inv hinv :=
    { key := fun r item hr => hinv.key r item (h r item hr)
      bound := fun r item hr => hs ▸ hinv.bound r item (h r item hr)
      sequence := fun r r' item item' hr hr' =>
        hinv.sequence r r' item item' (h r item hr) (h r' item' hr') }

lemma expire (q : RequestQueue) (now : Time) : Moves who q (q.expire now) :=
  of_subset rfl fun _ _ h => (get?_of_expire h).1

lemma remove (q : RequestQueue) (request : RequestId) (state : WaitState) :
    Moves who q (q.remove request state).1 := by
  refine of_subset rfl fun r item h => ?_
  rw [get?_remove] at h
  split_ifs at h
  exact h

lemma clear (q : RequestQueue) : Moves who q q.clear :=
  of_subset rfl fun _ _ h => by simp [RequestQueue.clear] at h

lemma enqueue {model : ModelId} {priority : ℤ} {deadline now : Time} {kind : WaitKind}
    {r : Except Exc QueuedRequest}
    (h : q.enqueue request model priority deadline now kind = (q', r)) :
    Moves (some request) q q' := by
  have hfresh : q.sequence ≤ q'.sequence ∧ ∀ r item, q'.items.get? r = some item →
      q.items.get? r = some item ∨ q.sequence < item.sequence := by
    simp only [RequestQueue.enqueue] at h
    split_ifs at h <;> cases h
    · exact ⟨le_refl _, fun r item hr => .inl (get?_of_expire hr).1⟩
    · exact ⟨le_refl _, fun r item hr => .inl (get?_of_expire hr).1⟩
    · refine ⟨Nat.le_succ _, fun r item hr => ?_⟩
      rw [Dict.get?_set] at hr
      split_ifs at hr
      · cases hr
        exact .inr (Nat.lt_succ_self _)
      · exact .inl (get?_of_expire hr).1
  refine ⟨fun r item hr => ?_, fun hinv => ?_, hfresh.1, hfresh.2⟩
  · exact (get?_of_enqueue h hr).imp_left fun heq => congrArg some heq.symm
  have hexp : (q.expire now).Inv := (Moves.expire q now : Moves none q _).inv hinv
  simp only [RequestQueue.enqueue] at h
  split_ifs at h <;> cases h
  · exact hexp
  · exact hexp
  · refine ⟨?_, ?_, ?_⟩
    · intro r item hr
      rw [Dict.get?_set] at hr
      split_ifs at hr with heq
      · cases hr
        exact heq.symm
      · exact hexp.key r item hr
    · intro r item hr
      rw [Dict.get?_set] at hr
      split_ifs at hr
      · cases hr
        exact le_refl _
      · exact Nat.le_succ_of_le (hexp.bound r item hr)
    · intro r r' item item' hr hr' hseq
      rw [Dict.get?_set] at hr hr'
      -- the new waiter has a number that was not given before
      split_ifs at hr hr' with heq heq'
      · exact heq.trans heq'.symm
      · cases hr
        have := hexp.bound r' item' hr'
        simp only at hseq
        omega
      · cases hr'
        have := hexp.bound r item hr
        simp only at hseq
        omega
      · exact hexp.sequence r r' item item' hr hr' hseq

end Moves

/-! ### The head of the queue -/

lemma before_trans {now : Time} {a b c : QueuedRequest} (hab : q.before now a b = true)
    (hbc : q.before now b c = true) : q.before now a c = true := by
  simp only [before, decide_eq_true_eq] at *
  omega

lemma before_irrefl {now : Time} {a : QueuedRequest} : q.before now a a = false := by
  simp [before]

/-- The order is total up to equal rank and sequence. -/
lemma before_total {now : Time} {a b : QueuedRequest} (h : q.before now a b = false)
    (hs : a.sequence ≠ b.sequence) : q.before now b a = true := by
  simp only [before, decide_eq_false_iff_not, decide_eq_true_eq, not_or, not_and, not_lt] at *
  omega

/-- The fold of `best` returns a candidate that none of the others comes before. -/
lemma foldl_best {now : Time} (items : List QueuedRequest) (acc : QueuedRequest) :
    (items.foldl (fun acc x => if q.before now x acc then x else acc) acc) ∈ acc :: items ∧
    ∀ x ∈ acc :: items,
      q.before now x (items.foldl (fun acc x => if q.before now x acc then x else acc) acc)
        = false := by
  induction items generalizing acc with
  | nil => simp [before_irrefl]
  | cons y items ih =>
    simp only [List.foldl_cons]
    by_cases hy : q.before now y acc = true
    · simp only [hy, if_true]
      obtain ⟨hmem, hmin⟩ := ih y
      refine ⟨List.mem_cons_of_mem _ hmem, ?_⟩
      intro x hx
      rcases List.mem_cons.mp hx with rfl | hx
      · -- `x` lost to `y`, and `y` is not ahead of the result
        by_contra hb
        have := before_trans hy (by simpa using hb)
        rw [hmin y List.mem_cons_self] at this
        cases this
      · exact hmin x hx
    · rw [if_neg hy]
      obtain ⟨hmem, hmin⟩ := ih acc
      refine ⟨?_, ?_⟩
      · rcases List.mem_cons.mp hmem with h | h
        · exact List.mem_cons.mpr (.inl h)
        · exact List.mem_cons_of_mem _ (List.mem_cons_of_mem _ h)
      · intro x hx
        rcases List.mem_cons.mp hx with rfl | hx
        · exact hmin x List.mem_cons_self
        · rcases List.mem_cons.mp hx with rfl | hx
          · -- `x` is not ahead of `acc`, which is not ahead of the result
            have hacc := hmin acc List.mem_cons_self
            simp only [before, decide_eq_true_eq, decide_eq_false_iff_not] at hacc hy ⊢
            omega
          · exact hmin x (List.mem_cons_of_mem _ hx)

/-- The best candidate is a candidate, and no candidate comes before it. -/
lemma best_eq_some {now : Time} {items : List QueuedRequest} (h : q.best now items = some item) :
    item ∈ items ∧ ∀ x ∈ items, q.before now x item = false := by
  cases items with
  | nil => cases h
  | cons y items =>
    simp only [best, Option.some.injEq] at h
    subst h
    exact foldl_best items y

lemma best_isSome {now : Time} {items : List QueuedRequest}
    (h : item ∈ items) : ∃ x, q.best now items = some x := by
  cases items with
  | nil => simp at h
  | cons y items => exact ⟨_, rfl⟩

/-- The head of the queue is a candidate. -/
lemma head_eq_some {now : Time} {eligible : QueuedRequest → Bool} {kind : Option WaitKind}
    {q' : RequestQueue} (h : q.head now eligible kind = (q', some item)) :
    item ∈ (q.expire now).items.values ∧ kind.all (item.kind = ·) = true ∧
      eligible item = true := by
  simp only [head, Prod.mk.injEq] at h
  have hmem := (best_eq_some h.2).1
  simpa [candidates] using hmem

/-- The waiters among which a head decision chooses. -/
structure Waits (q : RequestQueue) (now : Time) (eligible : QueuedRequest → Bool)
    (kind : Option WaitKind) (item : QueuedRequest) : Prop where
  filed : ∃ r, q.items.get? r = some item
  live : now < item.deadline
  kind : kind.all (item.kind = ·) = true
  eligible : eligible item = true

lemma mem_candidates {now : Time} {eligible : QueuedRequest → Bool} {kind : Option WaitKind}
    {x : QueuedRequest} :
    x ∈ (q.expire now).candidates eligible kind ↔ q.Waits now eligible kind x := by
  simp only [candidates, List.mem_filter, Dict.mem_values_iff, Bool.and_eq_true]
  constructor
  · rintro ⟨⟨r, hr⟩, hk, he⟩
    exact ⟨⟨r, (get?_of_expire hr).1⟩, (get?_of_expire hr).2, hk, he⟩
  · rintro ⟨⟨r, hr⟩, hd, hk, he⟩
    exact ⟨⟨r, by simp [get?_expire, hr, hd]⟩, hk, he⟩

/-- A waiter that is eligible is the head exactly if nobody ahead of it is. -/
lemma isHead_iff (hq : q.Inv) {now : Time} {eligible : QueuedRequest → Bool}
    (hitem : q.items.get? request = some item) (hlive : now < item.deadline)
    (helig : eligible item = true) :
    (q.isHead request now eligible none).2 = true ↔
      ∀ other ∈ q.items.values, now < other.deadline → q.before now other item = true →
        eligible other = false := by
  have hmem : item ∈ (q.expire now).candidates eligible none :=
    mem_candidates.mpr ⟨⟨request, hitem⟩, hlive, rfl, helig⟩
  obtain ⟨x, hx⟩ :
      ∃ x, (q.expire now).best now ((q.expire now).candidates eligible none) = some x :=
    best_isSome hmem
  obtain ⟨hxmem, hxmin⟩ := best_eq_some hx
  obtain ⟨⟨r, hr⟩, hxd, -, hxe⟩ := mem_candidates.mp hxmem
  have hhead : (q.isHead request now eligible none).2 = true ↔ x = item := by
    simp only [isHead, head, hx, Option.any_some, decide_eq_true_eq, hq.key r x hr]
    constructor
    · rintro rfl
      exact Option.some.inj (hr.symm.trans hitem)
    · rintro rfl
      exact hq.sequence r request x x hr hitem rfl
  rw [hhead]
  constructor
  · rintro rfl other hother hd hbefore
    obtain ⟨r', hr'⟩ := Dict.mem_values_iff.mp hother
    rw [← Bool.not_eq_true]
    intro he
    have hmin := hxmin other (mem_candidates.mpr ⟨⟨r', hr'⟩, hd, rfl, he⟩)
    rw [show q.before now other x = false from hmin] at hbefore
    cases hbefore
  · intro hahead
    by_contra hne
    have hseq : item.sequence ≠ x.sequence := by
      intro heq
      obtain rfl := hq.sequence request r item x hitem hr heq
      exact hne (Option.some.inj (hr.symm.trans hitem))
    have hbefore : q.before now x item = true := before_total (hxmin item hmem) hseq
    rw [hahead x (Dict.mem_values_iff.mpr ⟨r, hr⟩) hxd hbefore] at hxe
    cases hxe

/-! ### Runs of the queue -/

/-- A call of the queue with its arguments. -/
inductive Call
  | enqueue (request : RequestId) (model : ModelId) (priority : ℤ) (deadline now : Time)
      (kind : WaitKind)
  | requeue (item : QueuedRequest)
  | remove (request : RequestId) (state : WaitState)
  | expire (now : Time)
  | clear
  | head (now : Time) (eligible : QueuedRequest → Bool) (kind : Option WaitKind)

def apply (q : RequestQueue) : Call → RequestQueue
  | .enqueue request model priority deadline now kind =>
    (q.enqueue request model priority deadline now kind).1
  | .requeue item => (q.requeue item).1
  | .remove request state => (q.remove request state).1
  | .expire now => q.expire now
  | .clear => q.clear
  | .head now eligible kind => (q.head now eligible kind).1

def Call.now : Call → Option Time
  | .enqueue _ _ _ _ now _ | .expire now | .head now _ _ => some now
  | _ => none

/-- A call whose time is not earlier than that of the calls before it. -/
def timedStep : RequestQueue × Time → Call → Option (RequestQueue × Time)
  | (q, t), c => if c.now.all (t ≤ ·) then some (q.apply c, c.now.getD t) else none

/-- What a queue keeps while time passes. -/
structure Later (s s' : RequestQueue × Time) : Prop where
  aging : s'.1.agingSeconds = s.1.agingSeconds
  sequence : s.1.sequence ≤ s'.1.sequence
  time : s.2 ≤ s'.2

/-- A waiter that came later by its lead in priority, counted in ageing periods, has not the higher
rank. -/
lemma rank_le {a b : QueuedRequest} {now : Time} (hpos : 0 < q.agingSeconds)
    (ha : a.enqueuedAt ≤ b.enqueuedAt) (hb : b.enqueuedAt ≤ now)
    (hlead : ((b.priority - a.priority : ℤ) : ℚ) * q.agingSeconds ≤ b.enqueuedAt - a.enqueuedAt) :
    q.rank b now ≤ q.rank a now := by
  have hwait : (now - b.enqueuedAt) / q.agingSeconds + ((b.priority - a.priority : ℤ) : ℚ) ≤
      (now - a.enqueuedAt) / q.agingSeconds := by
    rw [div_add' _ _ _ hpos.ne', div_le_div_iff_of_pos_right hpos]
    linarith
  have hfloor := Int.floor_mono hwait
  rw [Int.floor_add_intCast] at hfloor
  simp only [rank, age, max_eq_right (sub_nonneg.mpr hb),
    max_eq_right (sub_nonneg.mpr (ha.trans hb))]
  omega

/-- The call leaves the waiter alone: it does not name it, does not empty the queue, and is made
before the deadline. -/
def Call.spares (request : RequestId) (deadline : Time) : Call → Bool
  | .remove r _ => r ≠ request
  | .clear => false
  | c => c.now.all (· < deadline)

/-- A waiter filed under a new identifier takes the place of no other. -/
lemma get?_file {r r' : RequestId} {item item' : QueuedRequest} (hnew : ¬ q.contains r' = true)
    (h : q.items.get? r = some item) : (q.items.set r' item').get? r = some item := by
  rw [Dict.get?_set_ne _ _ (by rintro rfl; exact hnew (contains_iff.mpr ⟨_, h⟩)), h]

lemma apply_spares {r : RequestId} {c : Call} (hc : c.spares r item.deadline = true)
    (h : q.items.get? r = some item) : (q.apply c).items.get? r = some item := by
  have hexpire : ∀ now, now < item.deadline → (q.expire now).items.get? r = some item := by
    intro now hlt
    simp [get?_expire, h, hlt]
  cases c with
  | enqueue request model priority deadline now kind =>
    have hq := hexpire now (by simpa [Call.spares, Call.now] using hc)
    simp only [apply, RequestQueue.enqueue]
    split_ifs with hnew
    · exact hq
    · exact hq
    · exact get?_file hnew hq
  | requeue =>
    simp only [apply, RequestQueue.requeue]
    split_ifs with hnew
    · exact h
    · exact h
    · exact get?_file hnew h
  | remove r' =>
    have hne : r' ≠ r := of_decide_eq_true hc
    rw [apply, get?_remove, if_neg hne.symm, h]
  | clear => cases hc
  | expire now | head now => exact hexpire now (by simpa [Call.spares, Call.now] using hc)

/-- **No waiter is lost.** Whatever is called on the queue, a waiter stays in it as it is until a
call removes it by name, empties the queue, or is made at its deadline or later. -/
theorem waiter_kept {q q' : RequestQueue} {t t' : Time} {r : RequestId} {item : QueuedRequest}
    (hr : q.items.get? r = some item)
    (hrun : Run timedStep (fun _ c => c.spares r item.deadline = true) (q, t) (q', t')) :
    q'.items.get? r = some item := by
  refine hrun.invariant (I := fun s => s.1.items.get? r = some item) ?_ hr
  rintro ⟨q, t⟩ c s hI hc hstep
  simp only [timedStep, Option.ite_none_right_eq_some] at hstep
  obtain ⟨-, ⟨⟩⟩ := hstep
  exact apply_spares hc hI

/-- A second request under the name of the first is refused, and the first keeps its place. -/
theorem waiter_kept_sample : ∃ s : RequestQueue × Time, s.2 = 50 ∧
    s.1.items.get? "a" = some ⟨"a", "chat", 0, 0, 100, 1, .waiting, .interactive⟩ := by
  obtain ⟨⟨q, t⟩, hrun, ht⟩ := exists_run_to timedStep (fun _ c => c.spares "a" 100)
    ({ items := Dict.empty.set "a" ⟨"a", "chat", 0, 0, 100, 1, .waiting, .interactive⟩ }, 0)
    [.enqueue "b" "chat" 1 90 10 .session, .enqueue "a" "embed" 2 200 50 .interactive]
    (fun s => s.2 = 50) (by decide +kernel)
  exact ⟨_, ht, waiter_kept rfl hrun⟩

end RequestQueue

end ModelSwitch

import ModelSwitch.Lib.Custody
import ModelSwitch.Proofs.Execution.Debts

/-!
# The books of the service

A record has a slot for the lease of its execution and one for its input context, each with a flag
that says whether the content has been given back, and the log says what was taken and given back.
What an edit, a new line of the log or a new record does to such books does not depend on the kind
of thing that is kept.
-/

namespace ModelSwitch.Execution

/-- Something an execution takes and gives back: where its record keeps it, where the record says
that it has been given back, and the lines of the log that are about it. -/
structure Resource (V : Type) where
  slot : Record → Option V
  shut : Record → Bool
  entry : Event → Option (Custody.Entry ExecutionId V)

namespace Service

variable {V : Type} {R : Resource V} {s : Service} {id : ExecutionId} {f : Record → Record} {v : V}

def books (R : Resource V) (s : Service) : Custody ExecutionId V where
  slot id := R.slot (s.get id)
  shut id := R.shut (s.get id)
  log := s.log.filterMap R.entry

lemma mem_books_iff {x : Custody.Entry ExecutionId V} :
    x ∈ (s.books R).log ↔ ∃ e ∈ s.log, R.entry e = some x :=
  List.mem_filterMap

lemma books_congr {s' : Service} (hr : s'.records = s.records) (hl : s'.log = s.log) :
    s'.books R = s.books R := by
  have hget : s'.get = s.get := by
    funext id
    simp only [get, hr]
  simp only [books, hget, hl]

lemma books_log_note (s : Service) (e : Event) :
    ((s.note e).books R).log = (s.books R).log ++ (R.entry e).toList := by
  simp only [books, note, List.filterMap_append]
  cases h : R.entry e <;> simp [h]

/-- A line that is not about the resource. -/
lemma books_note {e : Event} (h : R.entry e = none) : (s.note e).books R = s.books R := by
  refine Custody.ext rfl rfl ?_
  rw [books_log_note, h, Option.toList_none, List.append_nil]

lemma books_take {e : Event} (h : R.entry e = some (.took id v)) :
    (s.note e).books R = (s.books R).take id v := by
  refine Custody.ext rfl rfl ?_
  rw [books_log_note, h]
  rfl

/-- An edit that leaves the resource alone. -/
lemma books_update (hslot : R.slot (f (s.get id)) = R.slot (s.get id))
    (hshut : R.shut (f (s.get id)) = R.shut (s.get id)) : (s.update id f).books R = s.books R := by
  refine Custody.ext (funext fun id' => ?_) (funext fun id' => ?_) ?_
  · rcases s.get_update_cases id id' f with h | ⟨rfl, h⟩
    · simp only [books, h]
    · simp only [books, h, hslot]
  · rcases s.get_update_cases id id' f with h | ⟨rfl, h⟩
    · simp only [books, h]
    · simp only [books, h, hshut]
  · simp only [books, update_log]

lemma books_file {r : Record} (hfile : s.records.get? id = some r)
    (hslot : R.slot (f (s.get id)) = some v)
    (hshut : R.shut (f (s.get id)) = R.shut (s.get id)) :
    (s.update id f).books R = (s.books R).file id v := by
  refine Custody.ext (funext fun id' => ?_) (funext fun id' => ?_) ?_
  · rcases eq_or_ne id' id with rfl | hne
    · simp only [books, Custody.file, Function.update_self, get_update_self hfile, hslot]
    · simp only [books, Custody.file, Function.update_of_ne hne, get_update_ne hne]
  · rcases s.get_update_cases id id' f with h | ⟨rfl, h⟩
    · simp only [books, Custody.file, h]
    · simp only [books, Custody.file, h, hshut]
  · simp only [books, Custody.file, update_log]

lemma books_give {r : Record} {e : Event} (hfile : s.records.get? id = some r)
    (hslot : R.slot (f (s.get id)) = R.slot (s.get id)) (hshut : R.shut (f (s.get id)) = true)
    (he : R.entry e = some (.gave v)) :
    ((s.update id f).note e).books R = (s.books R).give id v := by
  refine Custody.ext (funext fun id' => ?_) (funext fun id' => ?_) ?_
  · change R.slot ((s.update id f).get id') = R.slot (s.get id')
    rcases s.get_update_cases id id' f with h | ⟨rfl, h⟩
    · rw [h]
    · rw [h, hslot]
  · change R.shut ((s.update id f).get id') =
      Function.update (fun id => R.shut (s.get id)) id true id'
    rcases eq_or_ne id' id with rfl | hne
    · rw [get_update_self hfile, hshut, Function.update_self]
    · rw [get_update_ne hne, Function.update_of_ne hne]
  · rw [books_log_note, he]
    simp only [books, update_log, Custody.give, Option.toList_some]

/-- A new record holds nothing. -/
lemma books_create {r : Record} {n : Uuid}
    (hslot : R.slot r = R.slot (s.get r.executionId))
    (hshut : R.shut r = R.shut (s.get r.executionId)) :
    books R { s with records := s.records.set r.executionId r, uuids := n } = s.books R := by
  have hget : ∀ id, Service.get { s with records := s.records.set r.executionId r, uuids := n } id =
      if id = r.executionId then r else s.get id := by
    intro id
    simp only [get, Dict.get?_set]
    split <;> rfl
  refine Custody.ext (funext fun id => ?_) (funext fun id => ?_) rfl
  · simp only [books, hget]
    split
    · next hid => rw [hid, hslot]
    · rfl
  · simp only [books, hget]
    split
    · next hid => rw [hid, hshut]
    · rfl

lemma exists_of_claimed (h : (s.get id).dispatchClaimed = true) :
    ∃ r, s.records.get? id = some r := by
  cases hr : s.records.get? id with
  | some r => exact ⟨r, rfl⟩
  | none => rw [get, hr] at h; cases h

end Service

/-! ### What a move adds to the log -/

/-- A line of the log that the licence allows. Whoever holds a lease or a context may return it. -/
def Event.Licensed (L : Licence) : Event → Prop
  | .granted id lease => L.grants id lease
  | .opened id ctx => L.opens id ctx
  | .execute id _ _ => L.dispatches id
  | .unload m | .unloaded m => L.thaws m
  | .release _ _ | .closed _ => True

section

variable {L : Licence} {p p' : List Debt × Service} {e : Event}

lemma Move.log (h : Move L p p') : ∃ l, p'.2.log = p.2.log ++ l ∧ ∀ e ∈ l, e.Licensed L := by
  have hsame : ∀ {s s' : Service}, s'.log = s.log →
      ∃ l, s'.log = s.log ++ l ∧ ∀ e ∈ l, e.Licensed L :=
    fun h => ⟨[], by rw [h, List.append_nil], fun _ h => absurd h List.not_mem_nil⟩
  have hnote : ∀ {s s' : Service} {e : Event}, s'.log = s.log → e.Licensed L →
      ∃ l, (s'.note e).log = s.log ++ l ∧ ∀ e ∈ l, e.Licensed L := by
    intro s s' e hlog he
    refine ⟨[e], by rw [← hlog]; rfl, fun e' he' => ?_⟩
    rw [List.mem_singleton.mp he']
    exact he
  cases h with
  | frame h => exact hsame h.log
  | edit | claim | mark | settle | succeed | store => exact hsame (Service.update_log ..)
  | @finish d s id =>
    obtain ⟨store, heq⟩ := s.finishIdempotency_eq id
    rw [heq]
    exact hsame rfl
  | grant id lease h hfresh | enter id ctx n h hctx hn => exact hnote rfl h
  | release | close => exact hnote (Service.update_log ..) trivial
  | note e h =>
    refine hnote rfl ?_
    cases e <;> first | exact h | cases h
  | _ => exact hsame rfl

lemma Moves.log (h : Relation.ReflTransGen (Move L) p p') :
    ∃ l, p'.2.log = p.2.log ++ l ∧ ∀ e ∈ l, e.Licensed L := by
  induction h with
  | refl => exact ⟨[], (List.append_nil _).symm, fun _ h => absurd h List.not_mem_nil⟩
  | tail _ hm ih =>
    obtain ⟨l, hl, hmem⟩ := ih
    obtain ⟨l', hl', hmem'⟩ := hm.log
    refine ⟨l ++ l', by rw [hl', hl, List.append_assoc], fun e he => ?_⟩
    exact (List.mem_append.mp he).elim (hmem e) (hmem' e)

/-- A line that is new has been allowed. -/
lemma Moves.licensed (h : Relation.ReflTransGen (Move L) p p') (hmem : e ∈ p'.2.log) :
    e ∈ p.2.log ∨ e.Licensed L := by
  obtain ⟨l, hl, hnew⟩ := Moves.log h
  rw [hl, List.mem_append] at hmem
  exact hmem.imp_right (hnew e)

lemma Moves.log_subset (h : Relation.ReflTransGen (Move L) p p') : p.2.log ⊆ p'.2.log := by
  obtain ⟨l, hl, -⟩ := Moves.log h
  rw [hl]
  exact List.subset_append_left _ _

end

end ModelSwitch.Execution

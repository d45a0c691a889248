import ModelSwitch.Proofs.Execution.Dispatch

/-!
# What every coroutine does

The remaining coroutines down to elementary moves, and the summary `Co.step_meets`: one step of any
task is a sequence of moves that leads from its stance to the next.
-/

namespace ModelSwitch.Execution

section

variable {L : Licence} {base : Option (TaskId × Option ExecutionId)}
  {p₀ : List Debt × Service} {d : List Debt} {x : Option (Option ExecutionId)}
  {s : Service} {id : ExecutionId} {inp : Input}
  {ids : List ExecutionId} {session : SessionRecord} {G : Service → Empty → Prop}

/-! ### `_dispatch_loop` -/

/-- Records are filed under their own identifier, and identifiers are drawn in order. -/
def Service.Filed (s : Service) : Prop :=
  ∀ id r, s.records.get? id = some r → r.executionId = id ∧ id < s.uuids

namespace Service.Filed

lemma get (h : s.Filed) {r : Record} (hr : r ∈ s.records.values) :
    s.records.get? r.executionId = some r ∧ s.get r.executionId = r := by
  obtain ⟨id, hid⟩ := Dict.mem_values_iff.mp hr
  obtain ⟨rfl, -⟩ := h id r hid
  exact ⟨hid, Service.get_of_get? hid⟩

lemma nodup (h : s.Filed) : (s.records.values.map (·.executionId)).Nodup := by
  have hkeys : s.records.values.map (·.executionId) = s.records.keys := by
    simp only [Dict.values, Dict.keys, List.map_map]
    refine List.map_congr_left ?_
    rintro ⟨id, r⟩ hp
    exact (h id r (Dict.mem_entries_iff.mp hp)).1
  rw [hkeys]
  exact s.records.nodup

lemma fresh (h : s.Filed) {n : Uuid} (hn : s.uuids ≤ n) : s.records.get? n = none := by
  cases hr : s.records.get? n with
  | none => rfl
  | some r => exact absurd (h n r hr).2 (not_lt.mpr hn)

end Service.Filed

namespace DispatchLoop

/-- An execution nobody works on holds nothing, or what it holds may be forgotten. -/
def Allows (L : Licence) (s : Service) : Prop :=
  ∀ id, (s.get id).dispatchClaimed = false → (s.get id).settled = false →
    ((s.get id).lease = none ∨ L.forgets (.lease id)) ∧
      ((s.get id).inputCtx = none ∨ L.forgets (.input id))

lemma expire_eq (s : Service) (r : Record) : ∃ f store,
    expire s r = { s.update r.executionId f with idempotency := store } :=
  s.exists_terminateLocal_eq ..

lemma expire_get {r : Record} {id : ExecutionId} (hne : id ≠ r.executionId) :
    (expire s r).get id = s.get id := by
  simp only [expire, Service.terminateLocal_eq, Service.finishIdempotency_get]
  exact Service.get_update_ne hne

/-- The queue deadline settles executions that hold nothing. -/
lemma expire_at {l : List Record} (hl : (l.map (·.executionId)).Nodup)
    (hr : ∀ r ∈ l, s.get r.executionId = r ∧ r.settled = false ∧
      (r.lease = none ∨ L.forgets (.lease r.executionId)) ∧
      (r.inputCtx = none ∨ L.forgets (.input r.executionId)))
    (h : Clear L base p₀ s) :
    Clear L base p₀ (l.foldl expire s) := by
  induction l generalizing s with
  | nil => exact h
  | cons r l ih =>
    obtain ⟨hget, hs, hlease, hinput⟩ := hr r List.mem_cons_self
    have h' : At L L.view.self base p₀ [.lease r.executionId, .input r.executionId] none
        (expire s r) :=
      h.terminateLocal (by rw [hget]; exact hs) fun _ => ⟨by decide, by decide, rfl⟩
    have hsame : ((expire s r).get r.executionId).lease = r.lease ∧
        ((expire s r).get r.executionId).inputCtx = r.inputCtx := by
      simp only [expire, Service.terminateLocal_eq, Service.finishIdempotency_get]
      rcases s.get_update_cases r.executionId r.executionId _ with hu | ⟨-, hu⟩ <;>
        rw [hu, hget] <;> exact ⟨rfl, rfl⟩
    refine ih (List.nodup_cons.mp hl).2 ?_ ((h'.pay ?_).pay ?_)
    · intro r' hr'
      have hne : r'.executionId ≠ r.executionId := by
        intro heq
        exact (List.nodup_cons.mp hl).1 (List.mem_map.mpr ⟨r', hr', heq⟩)
      rw [expire_get hne]
      exact hr r' (List.mem_cons_of_mem _ hr')
    · refine hlease.imp_left fun hnone => ?_
      rintro ⟨-, hsome, -⟩
      rw [hsame.1, hnone] at hsome
      cases hsome
    · refine hinput.imp_left fun hnone => ?_
      rintro ⟨-, hsome, -⟩
      rw [hsame.2, hnone] at hsome
      cases hsome

lemma claim_get {r : Record} {id : ExecutionId} (hne : id ≠ r.executionId) :
    (claim s r).get id = s.get id :=
  Service.get_update_ne hne

lemma claim_at {l : List Record} (hl : (l.map (·.executionId)).Nodup)
    (hr : ∀ r ∈ l, s.get r.executionId = r ∧ r.settled = false ∧ r.dispatchClaimed = false ∧
      r.modelId ∉ s.quiescing)
    (h : Clear L base p₀ s) :
    Clear L base p₀ (l.foldl claim s) := by
  induction l generalizing s with
  | nil => exact h
  | cons r l ih =>
    obtain ⟨hget, hs, hc, hq⟩ := hr r List.mem_cons_self
    have h' : Clear L base p₀ (claim s r) :=
      h.move (.claim r.executionId (by rw [hget]; exact hq) (by rw [hget]; exact hs)
        (by rw [hget]; exact hc)) (Service.update_lock ..)
    refine ih (List.nodup_cons.mp hl).2 ?_ h'
    intro r' hr'
    have hne : r'.executionId ≠ r.executionId := by
      intro heq
      exact (List.nodup_cons.mp hl).1 (List.mem_map.mpr ⟨r', hr', heq⟩)
    rw [claim_get hne]
    simpa only [claim, Service.update_quiescing] using hr r' (List.mem_cons_of_mem _ hr')

lemma foldl_expire_get {l : List Record} {id : ExecutionId} (hid : id ∉ l.map (·.executionId)) :
    (l.foldl expire s).get id = s.get id ∧ (l.foldl expire s).quiescing = s.quiescing := by
  induction l generalizing s with
  | nil => exact ⟨rfl, rfl⟩
  | cons r l ih =>
    simp only [List.map_cons, List.mem_cons, not_or] at hid
    obtain ⟨hget, hq⟩ := ih (s := expire s r) hid.2
    refine ⟨hget.trans (expire_get hid.1), hq.trans ?_⟩
    obtain ⟨f, store, heq⟩ := expire_eq s r
    rw [heq]
    exact Service.update_quiescing ..

/-- What the filter of a scan says of a record it keeps. -/
lemma of_mem_waiting {session : SessionId} {r : Record} (hf : s.Filed)
    (hr : r ∈ waiting s session) :
    s.get r.executionId = r ∧ r.settled = false ∧ r.dispatchClaimed = false ∧
      r.modelId ∉ s.quiescing := by
  simp only [waiting, List.mem_filter, Bool.and_eq_true, Bool.not_eq_true',
    List.contains_eq_mem, decide_eq_false_iff_not] at hr
  obtain ⟨hmem, ⟨⟨⟨⟨-, hs⟩, -⟩, hc⟩, -⟩, hq⟩ := hr
  exact ⟨(hf.get hmem).2, hs, hc, hq⟩

lemma waiting_nodup {session : SessionId} (hf : s.Filed) :
    ((waiting s session).map (·.executionId)).Nodup :=
  hf.nodup.sublist (List.filter_sublist.map _)

lemma scan_meets {session : SessionId} (h : Clear L base p₀ s) (hf : s.Filed)
    (hL : Allows L s) :
    (scan s session).Meets (fun s' _ => Clear L base p₀ s')
      (fun s' r => Clear L base p₀ s' ∧ Raises L r) := by
  have hexpired : Clear L base p₀ ((expired s session).foldl expire s) := by
    refine expire_at ((waiting_nodup hf).sublist (List.filter_sublist.map _)) ?_ h
    intro r hr
    obtain ⟨hget, hs, hc, -⟩ := of_mem_waiting hf (List.mem_filter.mp hr).1
    have hfree := hL r.executionId (by rw [hget]; exact hc) (by rw [hget]; exact hs)
    rw [hget] at hfree
    exact ⟨hget, hs, hfree⟩
  have hclaimed : Clear L base p₀
      ((heads s session).foldl claim ((expired s session).foldl expire s)) := by
    refine claim_at ((waiting_nodup hf).sublist (List.filter_sublist.map _)) ?_ hexpired
    intro r hr
    obtain ⟨hget, hs, hc, hq⟩ := of_mem_waiting hf (List.mem_filter.mp hr).1
    have hnot : r.executionId ∉ (expired s session).map (·.executionId) := by
      intro hmem
      obtain ⟨r', hr', heq⟩ := List.mem_map.mp hmem
      obtain ⟨hw, hlate⟩ := List.mem_filter.mp hr'
      have hsame : r' = r := by
        rw [← (of_mem_waiting hf hw).1, heq, hget]
      have hearly := (List.mem_filter.mp hr).2
      rw [hsame, decide_eq_true_eq] at hlate
      rw [decide_eq_true_eq] at hearly
      exact absurd hearly (not_lt.mpr hlate)
    obtain ⟨hget', hq'⟩ := foldl_expire_get (s := s) hnot
    rw [hget', hq']
    exact ⟨hget, hs, hc, hq⟩
  simp only [scan]
  split
  · exact .ret ⟨hclaimed.frame ⟨rfl, rfl, rfl, rfl, rfl, rfl, rfl, rfl, le_rfl⟩, .ok _⟩
  · exact hclaimed

lemma step_meets {session : SessionId} {pc : Pc} {e : Effect Pc Unit}
    (h : Clear L base p₀ s) (hf : s.Filed) (hL : pc = .scan → Allows L s)
    (hstep : step s session pc inp = some e) :
    e.Meets (fun s' _ => Clear L base p₀ s')
      (fun s' r => Clear L base p₀ s' ∧ Raises L r) := by
  cases pc with
  | begin =>
    cases inp <;> cases hstep
    exact .goto h
  | scan =>
    obtain ⟨-, rfl⟩ := withLock_some hstep
    exact scan_meets h hf (hL rfl)
  | sleeping wake =>
    cases inp <;> try cases hstep
    simp only [step] at hstep
    split at hstep
    · cases hstep
    · cases hstep; exact .goto h

end DispatchLoop

/-! ### `submit` -/

lemma At.register (h : At L L.view.self base p₀ d x s) (hL : L.submits)
    (store : IdempotencyStore) : At L L.view.self base p₀ d x { s with idempotency := store } :=
  h.move (.register store hL) rfl

lemma returnView_meets {α : Type} {G : Service → α → Prop} (h : At L L.view.self base p₀ d x s) :
    (returnView s id : Effect α Value).Meets G (fun s' _ => At L L.view.self base p₀ d x s') := by
  simp only [returnView]
  split
  · exact .ret h
  · exact .raise h

namespace Submit

/-- What `submit` needs of the session it is called for. -/
def Allows (L : Licence) (s : Service) (c : SubmitCall) : Prop :=
  L.submits ∧ (L.strict → TextOk s.cfg.bootId ∧
    ∀ session, s.env.sessions.records.get? c.sessionId = some session →
      isId session.modelId = true)

lemma refused_meets {idem : Option Uuid} {e : Exc} (h : Clear L base p₀ s) (hL : L.submits) :
    (refused s idem e).Meets G (fun s' _ => Clear L base p₀ s') := by
  simp only [refused]
  split
  · split
    · exact .raise (h.register hL _)
    · exact .raise h
  · exact .raise h

lemma refusal_ok {c : SubmitCall} {generation : ℕ}
    (h : refusal s c session = .ok generation) : 1 ≤ generation := by
  simp only [refusal] at h
  repeat
    split at h
    · cases h
  cases h
  omega

lemma newRecord_new {c : SubmitCall} {generation : ℕ} {idem : Option Uuid}
    (hok : L.strict → isId session.modelId = true ∧ TextOk s.cfg.bootId ∧ 1 ≤ generation) :
    (newRecord s c session generation idem).New L := by
  refine ⟨rfl, rfl, rfl, rfl, rfl, rfl, ?_, rfl, rfl, rfl, rfl, rfl, rfl, rfl, rfl, rfl, rfl, rfl,
    ⟨rfl, rfl, rfl⟩, hok⟩
  rintro (hc | hc) <;> cases hc

lemma ensureDispatcher_frame (s : Service) (v : TaskView) (session : SessionId) :
    Frame s (s.ensureDispatcher v session).1 := by
  simp only [Service.ensureDispatcher]
  split
  · exact ⟨rfl, rfl, rfl, rfl, rfl, rfl, rfl, rfl, le_rfl⟩
  · exact .refl s

lemma create_meets {c : SubmitCall} {generation : ℕ} {idem : Option Uuid} (h : Clear L base p₀ s)
    (hL : L.submits) (hf : s.Filed)
    (hok : L.strict → isId session.modelId = true ∧ TextOk s.cfg.bootId ∧ 1 ≤ generation) :
    (create L.view c s session generation idem).Meets G
      (fun s' _ => Clear L base p₀ s') := by
  have hnew : Clear L base p₀
      { s with records := s.records.set (newRecord s c session generation idem).executionId
                 (newRecord s c session generation idem), uuids := s.uuids + 2 } :=
    h.move (.create _ _ hL (newRecord_new hok) (hf.fresh le_rfl)
      (Nat.lt_add_of_pos_right (by decide)) (Nat.le_add_right _ _)) rfl
  simp only [create]
  split
  · exact refused_meets hnew hL
  · cases idem with
    | none => exact hnew.frame (ensureDispatcher_frame _ _ _)
    | some i =>
      have hdone := hnew.register hL (s.idempotency.complete i 202 s.uuids
        (some (newRecord s c session generation (some i)).deadline) s.env.wallClock)
      exact hdone.frame (ensureDispatcher_frame _ _ _)

lemma claimed_meets {c : SubmitCall} {idem : Option Uuid} (h : Clear L base p₀ s) (hL : L.submits)
    (hf : s.Filed) (hok : L.strict → isId session.modelId = true ∧ TextOk s.cfg.bootId) :
    (claimed L.view c s session idem).Meets G
      (fun s' _ => Clear L base p₀ s') := by
  simp only [claimed]
  split
  · exact refused_meets h hL
  · next generation hgen =>
    exact create_meets h hL hf fun hstrict =>
      ⟨(hok hstrict).1, (hok hstrict).2, refusal_ok hgen⟩

lemma begin_meets {c : SubmitCall} (h : Clear L base p₀ s) (hf : s.Filed) (hL : Allows L s c) :
    (begin s L.view c).Meets G (fun s' _ => Clear L base p₀ s') := by
  simp only [begin]
  split
  · exact .raise h
  · next session hsession =>
    have hok : L.strict → isId session.modelId = true ∧ TextOk s.cfg.bootId := fun hstrict =>
      ⟨(hL.2 hstrict).2 session hsession, (hL.2 hstrict).1⟩
    split
    · exact .raise h
    · refine .ite (fun _ => .raise h) fun _ => ?_
      refine .ite (fun _ => ?_) fun _ => claimed_meets h hL.1 hf hok
      · -- the key is claimed, replayed or refused
          have hbegun : Clear L base p₀
              { s with idempotency := (s.idempotency.begin s.uuids c.owner c.idempotencyKey
                         (payload c) s.env.wallClock).1, uuids := s.uuids + 1 } :=
            (h.register hL.1 _).frame
              ⟨rfl, rfl, rfl, rfl, rfl, rfl, rfl, rfl, Nat.le_succ _⟩
          split
          · exact .raise hbegun
          · split
            · split
              · exact .raise hbegun
              · split
                · exact .raise hbegun
                · exact returnView_meets hbegun
            · refine claimed_meets hbegun hL.1 ?_ hok
              exact fun id r hr => ⟨(hf id r hr).1, Nat.lt_succ_of_lt (hf id r hr).2⟩

end Submit

/-! ### `_quiesce_model` -/

namespace QuiesceModel

def stance (L : Licence) : Pc → Stance
  | .advancing _ _ id pc => Advance.stance L id pc
  | _ => {}

variable {model : ModelId} {graceUntil : Time}

lemma rest_meets (h : Clear L base p₀ s) :
    (rest s graceUntil).Obeys L base p₀ (stance L) := by
  simp only [rest]
  split
  · exact .ret ⟨h, .ok _⟩
  · exact .goto (h.stands' ⟨rfl, rfl, rfl⟩ trivial)

lemma releaseNext_meets {todo ids : List ExecutionId} (h : Clear L base p₀ s)
    (hL : L.thaws model) :
    (releaseNext s model graceUntil todo ids).Obeys L base p₀ (stance L) := by
  cases ids with
  | nil =>
    have h' := h.note (e := .unload model) hL
    exact .goto (h'.stands' ⟨rfl, rfl, rfl⟩ trivial)
  | cons id ids => exact .goto (h.stands' ⟨rfl, rfl, rfl⟩ trivial)

lemma scan_meets (h : Clear L base p₀ s) (hL : L.thaws model) :
    (scan s model graceUntil).Obeys L base p₀ (stance L) := by
  simp only [scan]
  split
  · exact .ret ⟨h.move (.thaw model hL) rfl, .ok _⟩
  · have h' : Clear L base p₀
        { s with quiescing := if s.quiescing.contains model then s.quiescing
                              else model :: s.quiescing } := by
      split
      · exact h
      · exact h.move (.freeze model) rfl
    exact .ite (fun _ => rest_meets h') fun _ => releaseNext_meets h' hL

lemma release_meets {todo ids : List ExecutionId} (h : Clear L base p₀ s)
    (hL : L.thaws model) :
    (release s model graceUntil todo ids).Obeys L base p₀ (stance L) := by
  cases ids with
  | nil =>
    have h' := h.note (e := .unload model) hL
    exact .goto (h'.stands' ⟨rfl, rfl, rfl⟩ trivial)
  | cons id ids =>
    simp only [release]
    split
    · exact releaseNext_meets h hL
    · next lease hl =>
      split
      · exact releaseNext_meets h hL
      · next hr =>
        rw [Bool.not_eq_true] at hr
        have h' := h.move (.release id lease (if (s.get id).error.isNone ∧
          (s.get id).cancelPending = false then .success else .rejected) hl hr)
          (Service.update_lock ..)
        exact .goto (h'.stands' ⟨rfl, rfl, rfl⟩ trivial)

lemma settleNext_meets (h : Clear L base p₀ s) :
    (settleNext s graceUntil ids).Obeys L base p₀ (stance L) := by
  cases ids with
  | nil => exact rest_meets h
  | cons id ids => exact .goto (h.stands' ⟨rfl, rfl, rfl⟩ trivial)

lemma advanced_meets {r : Except Exc Unit} (h : Clear L base p₀ s ∧ Raises L r) :
    (advanced graceUntil ids s r).Obeys L base p₀ (stance L) := by
  cases r with
  | ok _ => exact settleNext_meets h.1
  | error e => exact .raise ⟨h.1, .error (h.2 e rfl)⟩

/-- The stopped instance is filed as evidence. -/
lemma proof_at (evidence : TerminationEvidence) {i : InstanceIdentity} (hp : L.proves id)
    (h : At L L.view.self base p₀ d x s) (hnone : (s.get id).evidence = none)
    (hi : (s.get id).identity = some i ∨ (s.get id).expectedInstance = some i) :
    At L L.view.self base p₀ d x (s.update id fun r => { r with
      evidence := some evidence, dispatchState := .dispatched,
      identity := if r.dispatchState ≠ .dispatched then some i else r.identity }) := by
  have h' : At L L.view.self base p₀ d x
      (s.update id fun r => { r with evidence := some evidence }) :=
    h.edit (.evidence _ hnone fun _ => hp)
  by_cases hd : (s.get id).dispatchState = .dispatched
  · rw [Service.update_congr (g := fun r => { r with evidence := some evidence })]
    · exact h'
    · simp only [hd, ne_eq, not_true_eq_false, if_false]
  · have h'' : At L L.view.self base p₀ d x
        ((s.update id fun r => { r with evidence := some evidence }).update id fun r =>
          { r with identity := some i, dispatchState := .dispatched }) := by
      refine h'.edit (.names i (.inr ?_))
      rcases s.get_update_cases id id fun r => { r with evidence := some evidence }
        with hu | ⟨-, hu⟩
        <;> rw [hu] <;> exact hi
    rw [Service.update_update] at h''
    rw [Service.update_congr (g := fun r => { r with
      evidence := some evidence, identity := some i, dispatchState := .dispatched })]
    · exact h''
    · simp only [hd, ne_eq, not_false_eq_true, if_true]

lemma settle_meets (h : Clear L base p₀ s) (hp : ∀ id ∈ ids, L.proves id) :
    (settle s graceUntil ids).Obeys L base p₀ (stance L) := by
  cases ids with
  | nil => exact rest_meets h
  | cons id ids =>
    simp only [settle]
    split
    · exact settleNext_meets h
    · next hne =>
      simp only [Bool.or_eq_true, not_or, Bool.not_eq_true, Option.isSome_eq_false_iff,
        Option.isNone_iff_eq_none] at hne
      split
      · exact settleNext_meets h
      · next i hi =>
        split
        · next e he =>
          refine .raise ⟨h, .error fun _ => ?_⟩
          simp only [Record.dispatchedEvidence] at he
          split at he
          · cases he
          · cases he
            decide
        · next evidence hevidence =>
          have hname : (s.get id).identity = some i ∨ (s.get id).expectedInstance = some i := by
            rcases Option.or_eq_some_iff.mp hi with hi | ⟨-, hi⟩
            · exact .inl hi
            · exact .inr hi
          have h' := proof_at evidence (hp id List.mem_cons_self) h hne.2 hname
          exact (Advance.start_meets (h'.evaluate id) Service.evaluate_settled).bind
            (fun s' pc hs' => hs') fun s' r hr => advanced_meets hr

lemma step_meets {pc : Pc} {e : Effect Pc Unit}
    (h : Resumes L L.view.self base p₀ (stance L pc) inp s) (hL : L.thaws model)
    (hp : ∀ g ids, pc = .settle g ids → ∀ id ∈ ids, L.proves id)
    (hstep : step s model pc inp = some e) :
    e.Obeys L base p₀ (stance L) := by
  cases pc with
  | begin =>
    cases inp <;> cases hstep
    exact .goto (h.toAt.stands' ⟨rfl, rfl, rfl⟩ trivial)
  | scan graceUntil =>
    obtain ⟨-, rfl⟩ := withLock_some hstep
    exact scan_meets h.toAt hL
  | release graceUntil todo rest =>
    obtain ⟨-, rfl⟩ := withLock_some hstep
    exact release_meets h.toAt hL
  | releasing graceUntil todo rest =>
    cases inp with
    | answer r =>
      cases r with
      | ok _ => cases hstep; exact releaseNext_meets h.toAt hL
      | error e => cases hstep; exact .raise ⟨h.toAt, .error h.fits⟩
    | _ => cases hstep
  | unloading graceUntil todo =>
    cases inp with
    | answer r =>
      cases r with
      | ok _ => cases hstep; exact settleNext_meets (h.toAt.note hL)
      | error e => cases hstep; exact rest_meets h.toAt
    | _ => cases hstep
  | settle graceUntil ids =>
    obtain ⟨-, rfl⟩ := withLock_some hstep
    exact settle_meets h.toAt (hp graceUntil ids rfl)
  | advancing graceUntil ids id pc =>
    exact .within hstep (Advance.step_meets h) fun s' r hr => advanced_meets hr
  | sleeping graceUntil wake =>
    cases inp <;> try cases hstep
    simp only [step] at hstep
    split at hstep
    · cases hstep
    · cases hstep; exact .goto (h.toAt.stands' ⟨rfl, rfl, rfl⟩ trivial)

end QuiesceModel

/-! ### `_on_session_draining` -/

namespace Drain

/-- What the teardown of a settled execution has to return. -/
def debts (ids : List ExecutionId) : List Debt := ids.flatMap fun id => [.lease id, .input id]

def stance : Pc → Stance
  | .enter => {}
  | .effects id todo settled _ =>
    { owes := debts settled, holds := some (some id), tears := settled, files := todo }
  | .tearing id rest pc => Teardown.stance id (debts rest) rest pc

variable {session : SessionId}

lemma teardown_meets (h : At L L.view.self base p₀ (debts ids) none s) (hs : s.Ended ids) :
    (teardown s ids).Obeys L base p₀ stance := by
  induction ids generalizing s with
  | nil => exact .ret ⟨h, .ok _⟩
  | cons id ids ih =>
    simp only [teardown]
    refine (Teardown.start_meets h hs).bind (fun s' pc hs' => hs') fun s' r hr => ?_
    cases r with
    | ok _ => exact ih hr.1 hr.2.2.2
    | error e => exact .raise ⟨hr.2.1 nofun, .error (hr.2.2.1 e rfl)⟩

lemma debts_append (ids : List ExecutionId) (id : ExecutionId) :
    .lease id :: .input id :: debts ids ⊆ debts (ids ++ [id]) := by
  intro δ hδ
  simp only [debts, List.flatMap_append, List.flatMap_singleton, List.mem_append, List.mem_cons]
  simp only [List.mem_cons] at hδ
  rcases hδ with h | h | h
  · exact .inr (.inl h)
  · exact .inr (.inr (.inl h))
  · exact .inl h

/-- The execution that was marked is decided. -/
lemma conclude_at {settled : List ExecutionId}
    (h : At L L.view.self none p₀ (debts settled) (some (some id)) s) :
    At L L.view.self none p₀ (debts (if (s.conclude id).2 then settled ++ [id] else settled)) none
      (s.conclude id).1 := by
  have h' := h.conclude id (by rintro _ ⟨⟩; rfl)
  cases hc : (s.conclude id).2 with
  | true =>
    rw [hc] at h'
    exact h'.owe (debts_append settled id)
  | false =>
    rw [hc] at h'
    exact h'

lemma conclude_ended (L : Licence) {settled : List ExecutionId} (h : s.Ended settled) :
    (s.conclude id).1.Ended (if (s.conclude id).2 then settled ++ [id] else settled) := by
  have hold : (s.conclude id).1.Ended settled :=
    .congr (.moves ((At.fresh L 0 s).evaluate id).moves h) rfl
  split
  · next hc => exact List.forall_mem_append.mpr ⟨hold, Service.conclude_settled hc⟩
  · exact hold

lemma conclude_keeps (L : Licence) (h : s.Keeps ids) : (s.conclude id).1.Keeps ids :=
  .congr (.moves ((At.fresh L 0 s).evaluate id).moves h) rfl

/-- Marking settles and drops no execution. -/
lemma mark_ended {lock : Option (TaskId × Option ExecutionId)} {cancel : Bool}
    {code message : String} (h : s.Ended ids) :
    ({ s with lock := lock }.mark id cancel code message).Ended ids := by
  have h' : Service.Ended { s with lock := lock } ids := h.congr rfl
  refine h'.update fun r hr => ?_
  rw [Record.mark_settled]
  exact hr

lemma mark_keeps {lock : Option (TaskId × Option ExecutionId)} {cancel : Bool}
    {code message : String} (h : s.Keeps ids) :
    ({ s with lock := lock }.mark id cancel code message).Keeps ids := by
  have h' : Service.Keeps { s with lock := lock } ids := h.congr rfl
  exact h'.update _

lemma loop_meets {todo settled : List ExecutionId}
    (h : At L L.view.self none p₀ (debts settled) none s) (hs : s.Ended settled)
    (hf : s.Keeps todo) :
    (loop L.view session s settled todo).Obeys L none p₀ stance := by
  induction todo generalizing s settled with
  | nil => exact teardown_meets (h.free nofun) (hs.congr rfl)
  | cons id todo ih =>
    have hid : s.Keeps [id] := List.forall_mem_singleton.mpr (hf id List.mem_cons_self)
    have hf : s.Keeps todo := fun id' hid' => hf id' (List.mem_cons_of_mem _ hid')
    simp only [loop]
    split
    · exact ih h hs hf
    · next hne =>
      have hlive : (s.get id).settled = false := by
        rw [not_or, Bool.not_eq_true] at hne
        exact hne.2
      split
      · have hend : At L 0 _ _ _ _ (s.terminateLocal id ⟨"queue_timeout", by decide⟩
            "the session closed before dispatch") :=
          (At.fresh L 0 s).terminateLocal hlive fun _ => ⟨by decide, by decide, rfl⟩
        have hmoves := hend.moves
        refine ih ((h.terminateLocal hlive fun _ => ⟨by decide, by decide, rfl⟩).owe ?_) ?_
          (.moves hmoves hf)
        · exact debts_append settled id
        · exact List.forall_mem_append.mpr
            ⟨Service.Ended.moves hmoves hs, Service.terminateLocal_settled hid⟩
      · have h' := h.mark id true "session_expired"
          "the session closed while the execution ran" hlive fun _ => ⟨by decide, by decide⟩
        have hst : Stands L L.view.self none p₀ (stance (.effects id todo settled .lease)) _ :=
          h'.stands rfl (mark_ended hs) (mark_keeps hf) trivial
        refine (CancelSideEffects.start_meets hst).bind (fun s' pc hs' => hs') fun s' r hr => ?_
        obtain ⟨hst', rfl⟩ := hr
        exact ih (conclude_at hst'.toAt) (conclude_ended L hst'.tears) (conclude_keeps L hst'.files)

lemma step_meets {pc : Pc} {e : Effect Pc Unit}
    (h : Resumes L L.view.self base p₀ (stance pc) inp s)
    (hstep : step L.view session s pc inp = some e) :
    e.Obeys L base p₀ stance := by
  cases pc with
  | enter =>
    obtain ⟨hlock, rfl⟩ := withLock_some hstep
    obtain rfl := h.free (.inl hlock)
    refine loop_meets h.toAt nofun fun id hid => ?_
    exact Option.isSome_iff_exists.mpr (Dict.mem_keys_iff.mp hid)
  | effects id todo settled pc =>
    obtain rfl := h.free (.inr rfl)
    refine .within hstep (CancelSideEffects.step_meets h.toStands) fun s' r hr => ?_
    obtain ⟨hst, rfl⟩ := hr
    exact loop_meets (conclude_at hst.toAt) (conclude_ended L hst.tears)
      (conclude_keeps L hst.files)
  | tearing id rest pc =>
    refine .within hstep (Teardown.step_meets h) fun s' r hr => ?_
    cases r with
    | ok _ => exact teardown_meets hr.1 hr.2.2.2
    | error e => exact .raise ⟨hr.2.1 nofun, .error (hr.2.2.1 e rfl)⟩

end Drain

/-! ### `cancel` -/

/-- The answer of a call does not matter to the service. -/
lemma advanced_meets {α : Type} {G : Service → α → Prop} {r : Except Exc Unit}
    (h : At L L.view.self base p₀ d x s) :
    (advanced id s r : Effect α Value).Meets G (fun s' _ => At L L.view.self base p₀ d x s') := by
  cases r with
  | ok _ => exact returnView_meets h
  | error e => exact .raise h

namespace Cancel

def stance (L : Licence) (c : CancelCall) : Pc → Stance
  | .enter => {}
  | .effects _ => { holds := some (some c.executionId) }
  | .advancing pc => Advance.stance L c.executionId pc

variable {c : CancelCall}

lemma advance_meets {settled : Bool}
    (h : At L L.view.self base p₀
      (if settled then [.lease c.executionId, .input c.executionId] else []) none s)
    (hs : settled = true → s.Ended [c.executionId]) :
    (advance s c settled).Clears L L.view.self base p₀ (stance L c) :=
  (Advance.start_meets h hs).bind (fun _ _ hs' => hs') fun _ _ hr => advanced_meets hr.1

lemma keeps_of_refusal (h : refusal s c = none) : s.Keeps [c.executionId] := by
  refine List.forall_mem_singleton.mpr ?_
  cases hr : s.records.get? c.executionId with
  | some r => rfl
  | none => rw [refusal, hr] at h; cases h

lemma concluded_meets {r : Except Exc Unit}
    (h : At L L.view.self none p₀ [] (some (some c.executionId)) s) (hr : r = .ok ()) :
    (concluded c s r).Clears L L.view.self none p₀ (stance L c) := by
  subst hr
  exact advance_meets (h.conclude c.executionId (by rintro _ ⟨⟩; rfl)) Service.conclude_settled

lemma enter_meets (h : Clear L none p₀ s) :
    (enter s L.view c).Clears L L.view.self none p₀ (stance L c) := by
  simp only [enter]
  split
  · exact .raise h
  · next hnone =>
    split
    · exact returnView_meets h
    · next hs =>
      rw [Bool.not_eq_true] at hs
      split
      · exact advance_meets (h.terminateLocal hs fun _ => ⟨by decide, by decide, rfl⟩)
          fun _ => Service.terminateLocal_settled (keeps_of_refusal hnone)
      · have h' := h.mark c.executionId true "execution_timeout" "cancelled" hs
          fun _ => ⟨by decide, by decide⟩
        exact (CancelSideEffects.start_meets h'.holding).bind (fun s' pc hs' => hs')
          fun s' r hr => concluded_meets hr.1.toAt hr.2

lemma step_meets {pc : Pc} {e : Effect Pc Value}
    (h : Resumes L L.view.self base p₀ (stance L c pc) inp s)
    (hstep : step s L.view c pc inp = some e) :
    e.Clears L L.view.self base p₀ (stance L c) := by
  cases pc with
  | enter =>
    obtain ⟨hlock, rfl⟩ := withLock_some hstep
    obtain rfl := h.free (.inl hlock)
    exact enter_meets h.toAt
  | effects pc =>
    obtain rfl := h.free (.inr rfl)
    exact .within hstep (CancelSideEffects.step_meets h.toStands)
      fun s' r hr => concluded_meets hr.1.toAt hr.2
  | advancing pc =>
    exact .within hstep (Advance.step_meets h) fun s' r hr => advanced_meets hr.1

end Cancel

/-! ### `report_output` -/

namespace ReportOutput

def stance (L : Licence) (id : ExecutionId) : Pc → Stance
  | .enter => {}
  | .dropping _ => { holds := some none }
  | .advancing pc => Advance.stance L id pc

variable {body : Body}

lemma dropped_meets {r : Except Exc Unit} (h : At L L.view.self none p₀ [] (some none) s) :
    (dropped id s r).Clears L L.view.self none p₀ (stance L id) := by
  have h' := h.free nofun
  cases r with
  | ok _ => exact returnView_meets h'
  | error e => exact .raise h'

lemma enter_meets (h : Clear L none p₀ s) :
    (enter s L.view id body).Clears L L.view.self none p₀ (stance L id) := by
  simp only [enter]
  split
  · exact .raise h
  · split
    · exact returnView_meets h
    · split
      · have h' : At L L.view.self none p₀ [] (some none)
            ({ s with lock := some (L.view.self, none) }.update id fun r =>
              { r with outputPending := none }) := (h.take none).quiet _ fun r => rfl
        exact (CancelSideEffects.cancelReservation_meets h'.holding).bind
          (fun s' pc hs' => hs') fun s' r hr => dropped_meets hr.1.toAt
      · split
        · exact .raise h
        · have h' : Clear L none p₀
              (s.update id fun r => { r with outputPending := some body }) :=
            h.quiet _ fun r => rfl
          exact (Advance.start_meets (h'.evaluate id) Service.evaluate_settled).bind
            (fun _ _ hs' => hs') fun _ _ hr => advanced_meets hr.1

lemma step_meets {pc : Pc} {e : Effect Pc Value}
    (h : Resumes L L.view.self base p₀ (stance L id pc) inp s)
    (hstep : step s L.view id body pc inp = some e) :
    e.Clears L L.view.self base p₀ (stance L id) := by
  cases pc with
  | enter =>
    obtain ⟨hlock, rfl⟩ := withLock_some hstep
    obtain rfl := h.free (.inl hlock)
    exact enter_meets h.toAt
  | dropping pc =>
    obtain rfl := h.free (.inr rfl)
    exact .within hstep (CancelSideEffects.step_meets h.toStands)
      fun s' r hr => dropped_meets hr.1.toAt
  | advancing pc =>
    exact .within hstep (Advance.step_meets h) fun s' r hr => advanced_meets hr.1

end ReportOutput

/-! ### `report_terminal` -/

namespace ReportTerminal

def stance (L : Licence) (id : ExecutionId) : Pc → Stance
  | .enter => {}
  | .advancing pc => Advance.stance L id pc

variable {evidence : TerminationEvidence}

lemma accept_at (h : At L L.view.self base p₀ d x s) (hnone : (s.get id).evidence = none)
    (hnamed : ∀ i ∈ evidence.1.identity, L.named i)
    (hp : evidence.1.independent = true → L.proves id) :
    At L L.view.self base p₀ d x (s.update id (accept evidence)) := by
  have h' : At L L.view.self base p₀ d x
      (s.update id fun r => { r with evidence := some evidence }) := h.edit (.evidence _ hnone hp)
  by_cases hd : evidence.1.dispatchState = .dispatched
  · -- dispatched evidence names its instance
    obtain ⟨i, hi⟩ : ∃ i, evidence.1.identity = some i := by
      have hchecked := evidence.2
      simp only [EvidenceFields.checked, hd, Bool.and_eq_true] at hchecked
      exact Option.isSome_iff_exists.mp hchecked.1.2
    have h'' : At L L.view.self base p₀ d x
        ((s.update id fun r => { r with evidence := some evidence }).update id fun r =>
          { r with identity := some i, dispatchState := .dispatched }) :=
      h'.edit (.names i (.inl (hnamed i hi)))
    rw [Service.update_update] at h''
    rw [Service.update_congr (g := fun r => { r with
      evidence := some evidence, identity := some i, dispatchState := .dispatched })]
    · exact h''
    · simp only [accept, hd, if_true, hi]
  · rw [Service.update_congr (g := fun r => { r with evidence := some evidence })]
    · exact h'
    · simp only [accept, hd, if_false]

lemma enter_meets (h : Clear L base p₀ s)
    (hnamed : ∀ i ∈ evidence.1.identity, L.named i)
    (hp : evidence.1.independent = true → L.proves id) :
    (enter s id evidence).Clears L L.view.self base p₀ (stance L id) := by
  simp only [enter]
  split
  · exact .raise h
  · next r hr =>
    split
    · exact .ret h
    · split
      · exact .ret h
      · split
        · exact returnView_meets h
        · next hnone =>
          have hev : (s.get id).evidence = none := by
            rw [Service.get_of_get? hr]
            simpa using hnone
          exact (Advance.start_meets ((accept_at h hev hnamed hp).evaluate id)
            Service.evaluate_settled).bind (fun _ _ hs' => hs') fun _ _ hr => advanced_meets hr.1

lemma step_meets {pc : Pc} {e : Effect Pc Value}
    (h : Resumes L L.view.self base p₀ (stance L id pc) inp s)
    (hnamed : ∀ i ∈ evidence.1.identity, L.named i)
    (hp : evidence.1.independent = true → L.proves id)
    (hstep : step s id evidence pc inp = some e) :
    e.Clears L L.view.self base p₀ (stance L id) := by
  cases pc with
  | enter =>
    obtain ⟨-, rfl⟩ := withLock_some hstep
    exact enter_meets h.toAt hnamed hp
  | advancing pc =>
    exact .within hstep (Advance.step_meets h) fun s' r hr => advanced_meets hr.1

end ReportTerminal

/-! ### Every coroutine -/

namespace Co

/-- Where a task stands. -/
def stance (L : Licence) : Co → Stance
  | .submit _ | .dispatchLoop _ _ => {}
  | .cancel c pc => Cancel.stance L c pc
  | .reportOutput id _ pc => ReportOutput.stance L id pc
  | .reportTerminal id _ pc => ReportTerminal.stance L id pc
  | .onSessionDraining _ pc => Drain.stance pc
  | .run id pc => Run.stance L id pc
  | .lateExecute id pc => LateExecute.stance L id pc
  | .quiesceModel _ pc => QuiesceModel.stance L pc

/-- What a step of a task needs of the state it starts in. -/
def Allows (L : Licence) (s : Service) (inp : Input) : Co → Prop
  | .submit c => Submit.Allows L s c
  | .cancel _ _ | .reportOutput _ _ _ | .onSessionDraining _ _ => True
  | .reportTerminal id evidence _ => (∀ i ∈ evidence.1.identity, L.named i) ∧
    (evidence.1.independent = true → L.proves id)
  | .dispatchLoop _ pc => pc = .scan → DispatchLoop.Allows L s
  | .run id pc => Run.Allows L s id inp pc
  | .lateExecute id pc => s.Keeps [id] ∧
    (L.strict → Protocol.plainText (s.get id).modelId = true) ∧
      ∀ message, pc = .after (.uncertain (.enter message)) → TerminateUncertain.Allows L s id
  | .quiesceModel model pc => L.thaws model ∧
    ∀ g ids, pc = .settle g ids → ∀ id ∈ ids, L.proves id

end Co

lemma Effect.Meets.lift {α ρ : Type} {e : Effect α ρ} {wrap : α → Co} {value : ρ → Value}
    {G : Service → Co → Prop} {R : Service → Except Exc Value → Prop}
    {R' : Service → Except Exc ρ → Prop} (h : e.Meets (fun s pc => G s (wrap pc)) R')
    (hR : ∀ s r, R' s r → R s (r.map value)) : (e.lift wrap value).Meets G R :=
  h.bind (fun _ _ hg => hg) fun s r hr => hR s r hr

lemma Effect.Meets.lifted {α ρ : Type} {x : Option (Effect α ρ)} {e : Effect Co Value}
    {wrap : α → Co} {value : ρ → Value} {G : Service → Co → Prop}
    {R : Service → Except Exc Value → Prop} {R' : Service → Except Exc ρ → Prop}
    (hstep : x.map (·.lift wrap value) = some e)
    (h : ∀ {e' : Effect α ρ}, x = some e' → e'.Meets (fun s pc => G s (wrap pc)) R')
    (hR : ∀ s r, R' s r → R s (r.map value)) : e.Meets G R := by
  obtain ⟨e', he', rfl⟩ := Option.map_eq_some_iff.mp hstep
  exact (h he').lift hR

/-- One step of any task is a sequence of elementary moves that leads from its stance to the
next. -/
lemma Co.step_meets {co : Co} {e : Effect Co Value}
    (h : Resumes L L.view.self base p₀ (co.stance L) inp s) (hL : co.Allows L s inp) (hf : s.Filed)
    (hstep : co.step s L.view inp = some e) :
    e.Clears L L.view.self base p₀ (·.stance L) := by
  cases co with
  | submit c =>
    obtain ⟨e', he', rfl⟩ := Option.map_eq_some_iff.mp hstep
    obtain ⟨-, rfl⟩ := withLock_some he'
    exact (Submit.begin_meets h.toAt hf hL).lift fun _ _ hr => hr
  | cancel c pc =>
    exact .lifted hstep (Cancel.step_meets h) fun _ _ hr => hr
  | reportOutput id body pc =>
    exact .lifted hstep (ReportOutput.step_meets h) fun _ _ hr => hr
  | reportTerminal id evidence pc =>
    exact .lifted hstep (ReportTerminal.step_meets h hL.1 hL.2) fun _ _ hr => hr
  | onSessionDraining session pc =>
    exact .lifted hstep (Drain.step_meets h) fun _ _ hr => hr.1
  | dispatchLoop session pc =>
    obtain ⟨e', he', rfl⟩ := Option.map_eq_some_iff.mp hstep
    exact ((DispatchLoop.step_meets h.toAt hf hL he').mono
      (fun s' pc hs' => At.stands' hs' ⟨rfl, rfl, rfl⟩ trivial) fun _ _ hr => hr).lift
        fun _ _ hr => hr.1
  | run id pc =>
    exact .lifted hstep (Run.step_meets h hL) fun _ _ hr => hr.1
  | lateExecute id pc =>
    exact .lifted hstep (LateExecute.step_meets h hL.1 hL.2.1 hL.2.2)
      fun _ _ hr => hr.1
  | quiesceModel model pc =>
    exact .lifted hstep (QuiesceModel.step_meets h hL.1 hL.2) fun _ _ hr => hr.1

/-! ### Cancelled tasks -/

/-- How an exception at an `await` leaves the service: a task that holds the lock leaves it. -/
def Stance.Ends (st : Stance) (s s' : Service) : Prop :=
  st.holds.isSome = true ∧ s' = s.unlock ∨ st.holds = none ∧ Frame s s'

lemma Teardown.ends {ts : List ExecutionId} (pc : Teardown.Pc) :
    (Teardown.stance id d ts pc).Ends s s := by
  cases pc <;> exact .inr ⟨rfl, .refl s⟩

lemma Advance.ends (pc : Advance.Pc) :
    (Advance.stance L id pc).Ends s (Advance.thrown s id pc) := by
  cases pc with
  | publishing pc =>
    refine .inr ⟨?_, Advance.discard_frame s id⟩
    rcases pc with _ | _ | (_ | _) <;> rfl
  | tearing pc => exact Teardown.ends pc

lemma OnTimeout.ends (pc : OnTimeout.Pc) :
    (OnTimeout.stance id pc).Ends s (OnTimeout.thrown s pc) := by
  cases pc with
  | enter => exact .inr ⟨rfl, .refl s⟩
  | effects pc => exact .inl ⟨rfl, rfl⟩
  | tearing pc => exact Teardown.ends pc

lemma TerminateUncertain.ends (pc : TerminateUncertain.Pc) :
    (TerminateUncertain.stance L id pc).Ends s (TerminateUncertain.thrown s pc) := by
  cases pc with
  | enter message => exact .inr ⟨rfl, .refl s⟩
  | effects needQuiesce pc => exact .inl ⟨rfl, rfl⟩
  | tearing needQuiesce pc => exact Teardown.ends pc

lemma AfterExecute.ends (pc : AfterExecute.Pc) :
    (AfterExecute.stance L id pc).Ends s (AfterExecute.thrown s id pc) := by
  cases pc with
  | tearing pc => exact Teardown.ends pc
  | dropping handle pc => exact .inl ⟨rfl, rfl⟩
  | advancing needQuiesce cancelPending pc => exact Advance.ends pc
  | uncertain pc => exact TerminateUncertain.ends pc
  | _ => exact .inr ⟨rfl, .refl s⟩

lemma Run.ends (pc : Run.Pc) : (Run.stance L id pc).Ends s (Run.thrown s id pc) := by
  cases pc with
  | tearing pc => exact Teardown.ends pc
  | after pc => exact AfterExecute.ends pc
  | timingOut pc => exact OnTimeout.ends pc
  | uncertain pc => exact TerminateUncertain.ends pc
  | _ => exact .inr ⟨rfl, .refl s⟩

lemma Co.ends (co : Co) : (co.stance L).Ends s (co.thrown s) := by
  cases co with
  | submit c => exact .inr ⟨rfl, .refl s⟩
  | cancel c pc =>
    cases pc with
    | enter => exact .inr ⟨rfl, .refl s⟩
    | effects pc => exact .inl ⟨rfl, rfl⟩
    | advancing pc => exact Advance.ends pc
  | reportOutput id body pc =>
    cases pc with
    | enter => exact .inr ⟨rfl, .refl s⟩
    | dropping pc => exact .inl ⟨rfl, rfl⟩
    | advancing pc => exact Advance.ends pc
  | reportTerminal id evidence pc =>
    cases pc with
    | enter => exact .inr ⟨rfl, .refl s⟩
    | advancing pc => exact Advance.ends pc
  | onSessionDraining session pc =>
    cases pc with
    | enter => exact .inr ⟨rfl, .refl s⟩
    | effects id todo settled pc => exact .inl ⟨rfl, rfl⟩
    | tearing id rest pc => exact Teardown.ends pc
  | dispatchLoop session pc =>
    cases pc with
    | begin => exact .inr ⟨rfl, .refl s⟩
    | _ => exact .inr ⟨rfl, rfl, rfl, rfl, rfl, rfl, rfl, rfl, rfl, le_rfl⟩
  | run id pc => exact Run.ends pc
  | lateExecute id pc =>
    cases pc with
    | waiting => exact .inr ⟨rfl, .refl s⟩
    | after pc => exact AfterExecute.ends pc
  | quiesceModel model pc =>
    cases pc with
    | advancing graceUntil ids id pc => exact Advance.ends pc
    | _ => exact .inr ⟨rfl, .refl s⟩

/-- A cancelled task drops its debts and what it had to decide. -/
lemma At.thrown {co : Co}
    (h : At L L.view.self base p₀ (co.stance L).owes (co.stance L).holds s)
    (hbase : (co.stance L).holds.isSome = true → base = none)
    (hdecided : ∀ id, (co.stance L).holds = some (some id) →
      (s.get id).Decided ∨ L.undecided id (s.get id).publishing)
    (howes : ∀ δ ∈ (co.stance L).owes, ¬ s.Unpaid δ ∨ L.forgets δ) :
    Clear L base p₀ (co.thrown s) := by
  rw [← List.append_nil (co.stance L).owes] at h
  have hpaid := h.payAll howes
  rcases co.ends (L := L) (s := s) with ⟨hholds, heq⟩ | ⟨hholds, hframe⟩
  · obtain rfl := hbase hholds
    rw [heq]
    exact hpaid.free hdecided
  · rw [hholds] at hpaid
    exact hpaid.frame hframe

end

end ModelSwitch.Execution

import ModelSwitch.Proofs.Execution.View

/-!
# Idempotent submission

A key that is on file belongs to one execution, which every later `submit` under the key returns or
is refused by. The registry stays that way as long as no `submit` raises anything but an
`ExecutionError` between the claim of its key and the end of its section.
-/

namespace ModelSwitch.Execution

/-! ### The registry -/

namespace IdempotencyStore

variable {store : IdempotencyStore} {i j fresh : Uuid} {id : ExecutionId} {obj : IdempotencyRecord}
  {owner key : String} {payload : SubmitPayload} {now : Time} {status : ℕ} {until_ : Option Time}

lemma complete_records : (store.complete i status id until_ now).records = store.records := by
  simp only [complete]
  split <;> rfl

/-- The record as `complete` leaves it. -/
def completed (obj : IdempotencyRecord) (status : ℕ) (id : ExecutionId) (until_ : Option Time)
    (now : Time) : IdempotencyRecord :=
  { obj with state := .completed, status := some status, resourceId := some id,
             completedAt := some now,
             activeUntil := if until_.isSome then until_ else obj.activeUntil }

lemma get?_complete (h : store.objects.get? i = some obj) :
    (store.complete i status id until_ now).objects.get? j =
      if j = i then some (completed obj status id until_ now) else store.objects.get? j := by
  simp only [complete, h, Dict.get?_set]
  rfl

/-- A key that is not on file is claimed. -/
lemma begin_free (h : store.records.get? (owner, key) = none) :
    store.begin fresh owner key payload now =
      ({ objects := store.objects.set fresh
                      { owner := owner, key := key, fingerprint := payload, createdAt := now },
         records := store.records.set (owner, key) fresh }, .ok fresh) := by
  simp only [begin, h]

end IdempotencyStore

/-- Every key on file is completed and leads to an execution that is bound to its record with the
payload of the request, and no two executions are bound to one record. -/
structure Registry (store : IdempotencyStore)
    (bound : ExecutionId → Uuid → SubmitPayload → Prop) (next : Uuid) : Prop where
  filed : ∀ k i, store.records.get? k = some i → ∃ obj id, store.objects.get? i = some obj ∧
    obj.state = .completed ∧ obj.resourceId = some id ∧ bound id i obj.fingerprint
  drawn : ∀ i, (store.objects.get? i).isSome = true → i < next
  known : ∀ id i p, bound id i p → ∃ obj, store.objects.get? i = some obj ∧ obj.fingerprint = p
  unique : ∀ i id id' p p', bound id i p → bound id' i p' → id = id'

namespace Registry

variable {store : IdempotencyStore} {bound bound' : ExecutionId → Uuid → SubmitPayload → Prop}
  {next next' : Uuid} {i : Uuid} {id : ExecutionId} {owner key : String} {payload : SubmitPayload}
  {now now' : Time} {status : ℕ} {until_ : Option Time}

lemma congr (h : Registry store bound next) (hb : ∀ id i p, bound' id i p ↔ bound id i p)
    (hle : next ≤ next') : Registry store bound' next' := by
  obtain rfl : bound' = bound := by
    ext id i p
    exact hb id i p
  exact ⟨h.filed, fun i hi => (h.drawn i hi).trans_le hle, h.known, h.unique⟩

/-- The settlement of an execution completes its record once more. -/
lemma complete (h : Registry store bound next) (hb : bound id i payload) :
    Registry (store.complete i status id until_ now) bound next := by
  obtain ⟨obj, hobj, hprint⟩ := h.known id i payload hb
  refine ⟨fun k j hk => ?_, fun j hj => ?_, fun id' j p hb' => ?_, h.unique⟩
  · rw [IdempotencyStore.complete_records] at hk
    obtain ⟨obj', id', hobj', hstate, hres, hbound⟩ := h.filed k j hk
    rw [IdempotencyStore.get?_complete hobj]
    by_cases hji : j = i
    · subst hji
      exact ⟨_, id, if_pos rfl, rfl, rfl, hprint ▸ hb⟩
    · exact ⟨obj', id', by rw [if_neg hji, hobj'], hstate, hres, hbound⟩
  · rw [IdempotencyStore.get?_complete hobj] at hj
    split at hj
    · next heq => rw [heq]; exact h.drawn i (Option.isSome_of_eq_some hobj)
    · exact h.drawn j hj
  · obtain ⟨obj', hobj', hprint'⟩ := h.known id' j p hb'
    rw [IdempotencyStore.get?_complete hobj]
    by_cases hji : j = i
    · subst hji
      cases hobj.symm.trans hobj'
      exact ⟨_, if_pos rfl, hprint'⟩
    · exact ⟨obj', by rw [if_neg hji, hobj'], hprint'⟩

lemma sweep (h : Registry store bound next) (retention : ℚ) (moment : Time) :
    Registry (store.sweep retention moment) bound next := by
  refine ⟨fun k i hk => h.filed k i ?_, h.drawn, h.known, h.unique⟩
  simp only [IdempotencyStore.sweep, Dict.get?_filter] at hk
  cases hget : store.records.get? k with
  | none => simp [hget] at hk
  | some j =>
    rw [hget] at hk
    simp only [Option.filter_eq_some_iff] at hk
    exact hk.1

lemma ne_next (h : Registry store bound next) {obj : IdempotencyRecord}
    (hi : store.objects.get? i = some obj) : i ≠ next := by
  rintro rfl
  exact absurd (h.drawn i (Option.isSome_of_eq_some hi)) (lt_irrefl _)

/-- A claim that is given up leaves the key free and every other key as it was. -/
lemma withdrawn (h : Registry store bound next)
    (hfree : store.records.get? (owner, key) = none) :
    Registry ((store.begin next owner key payload now).1.fail next) bound (next + 1) ∧
      ((store.begin next owner key payload now).1.fail next).records.get? (owner, key) = none := by
  rw [IdempotencyStore.begin_free hfree]
  simp only [IdempotencyStore.fail, Dict.get?_set_self, Dict.get?_erase_self, and_true]
  refine ⟨fun k i hk => ?_, fun i hi => ?_, fun id i p hb => ?_, h.unique⟩
  · simp only [Dict.get?_erase, Dict.get?_set] at hk
    split at hk
    · cases hk
    · obtain ⟨obj, id, hobj, hrest⟩ := h.filed k i hk
      refine ⟨obj, id, ?_, hrest⟩
      rw [Dict.get?_set_ne _ _ (h.ne_next hobj), hobj]
  · rw [Dict.get?_set] at hi
    split at hi
    · next heq => rw [heq]; exact Nat.lt_succ_self next
    · exact (h.drawn i hi).trans (Nat.lt_succ_self next)
  · obtain ⟨obj, hobj, hprint⟩ := h.known id i p hb
    exact ⟨obj, by rw [Dict.get?_set_ne _ _ (h.ne_next hobj), hobj], hprint⟩

/-- A claim that is completed binds the new execution to the key. -/
lemma created (h : Registry store bound next)
    (hfree : store.records.get? (owner, key) = none) (hle : next < next') :
    Registry ((store.begin next owner key payload now).1.complete next status id until_ now')
      (fun id' i p => bound id' i p ∨ id' = id ∧ i = next ∧ p = payload) next' := by
  rw [IdempotencyStore.begin_free hfree]
  have hobj := Dict.get?_set_self store.objects next
    ({ owner := owner, key := key, fingerprint := payload, createdAt := now } : IdempotencyRecord)
  refine ⟨fun k i hk => ?_, fun i hi => ?_, ?_, ?_⟩
  · rw [IdempotencyStore.complete_records] at hk
    rw [IdempotencyStore.get?_complete hobj]
    simp only [Dict.get?_set] at hk
    split at hk
    · cases hk
      exact ⟨_, id, if_pos rfl, rfl, rfl, .inr ⟨rfl, rfl, rfl⟩⟩
    · obtain ⟨obj, id', hobj', hstate, hres, hbound⟩ := h.filed k i hk
      have hi := h.ne_next hobj'
      refine ⟨obj, id', ?_, hstate, hres, .inl hbound⟩
      rw [if_neg hi, Dict.get?_set_ne _ _ hi, hobj']
  · rw [IdempotencyStore.get?_complete hobj] at hi
    split at hi
    · next heq => rw [heq]; exact hle
    · next hi' =>
      rw [Dict.get?_set_ne _ _ hi'] at hi
      exact (h.drawn i hi).trans hle
  · rintro id' i p (hb | ⟨-, rfl, rfl⟩)
    · obtain ⟨obj, hobj', hprint⟩ := h.known id' i p hb
      have hi := h.ne_next hobj'
      refine ⟨obj, ?_, hprint⟩
      rw [IdempotencyStore.get?_complete hobj, if_neg hi, Dict.get?_set_ne _ _ hi, hobj']
    · rw [IdempotencyStore.get?_complete hobj]
      exact ⟨_, if_pos rfl, rfl⟩
  · have hold : ∀ id' p, ¬ bound id' next p := by
      intro id' p hb
      obtain ⟨obj, hobj', -⟩ := h.known id' next p hb
      exact h.ne_next hobj' rfl
    rintro i id₁ id₂ p₁ p₂ (h₁ | ⟨rfl, rfl, -⟩) (h₂ | ⟨rfl, hi, -⟩)
    · exact h.unique i id₁ id₂ p₁ p₂ h₁ h₂
    · exact absurd (hi ▸ h₁) (hold id₁ p₁)
    · exact absurd h₂ (hold id₂ p₂)
    · rfl

end Registry

/-! ### What moves keep -/

/-- The payload of the request that created the record. -/
def Record.payload (r : Record) : SubmitPayload where
  sessionId := r.sessionId
  operation := r.operation
  input := r.input
  parameters := r.parameters

/-- The registry's record and the payload an execution was created with. -/
def Record.claim (r : Record) : Option Uuid × SubmitPayload := (r.idempotency, r.payload)

/-- The execution was created under the registry's record `i`, with the payload `p`. -/
def Service.Bound (s : Service) (id : ExecutionId) (i : Uuid) (p : SubmitPayload) : Prop :=
  ∃ r, s.records.get? id = some r ∧ r.claim = (some i, p)

/-- The registry of the service is in order. -/
def Service.Keyed (s : Service) : Prop := Registry s.idempotency s.Bound s.uuids

section

variable {L : Licence} {s : Service} {p p' : List Debt × Service} {id : ExecutionId} {i : Uuid}

lemma Record.mark_claim (r : Record) (code message : String) :
    (r.markReason code message).markCancelling.claim = r.claim := by
  simp only [markReason, markCancelling]
  split <;> split <;> rfl

lemma Edit.claim {r r' : Record} (h : Edit L id r r') : r'.claim = r.claim := by
  cases h with
  | quiet h =>
    have hcore : r'.core.claim = r.core.claim := by rw [h]
    exact hcore
  | _ => rfl

lemma Settlement.claim {r r' : Record} (h : Settlement L id r r') : r'.claim = r.claim := by
  cases h <;> rfl

lemma Service.bound_update {f : Record → Record} (hf : (f (s.get id)).claim = (s.get id).claim)
    (id' : ExecutionId) (i : Uuid) (payload : SubmitPayload) :
    (s.update id f).Bound id' i payload ↔ s.Bound id' i payload := by
  simp only [Bound, get?_update]
  split
  · next heq =>
    subst heq
    cases hr : s.records.get? id' with
    | none => simp
    | some r =>
      rw [get_of_get? hr] at hf
      simp [hf]
  · rfl

/-- An execution keeps the key it was created under. -/
lemma Move.bound (h : Move L p p') (hL : ¬ L.submits) (id : ExecutionId) (i : Uuid)
    (payload : SubmitPayload) : p'.2.Bound id i payload ↔ p.2.Bound id i payload := by
  cases h with
  | frame h => simp only [Service.Bound, h.records]
  | @finish d s id' =>
    obtain ⟨store, heq⟩ := s.finishIdempotency_eq id'
    rw [heq]
    rfl
  | edit id' f h | settle id' f h => exact Service.bound_update h.claim id i payload
  | claim | succeed | release | store | close => exact Service.bound_update rfl id i payload
  | mark => exact Service.bound_update (Record.mark_claim _ _ _) id i payload
  | create r n h => exact absurd h hL
  | _ => rfl

lemma Service.Keyed.finish (h : s.Keyed) (id : ExecutionId) : (s.finishIdempotency id).Keyed := by
  simp only [finishIdempotency]
  split
  · exact h
  · next i hi =>
    have hbound : s.Bound id i (s.get id).payload := by
      cases hr : s.records.get? id with
      | none =>
        simp only [get, hr, Option.getD_none] at hi
        cases hi
      | some r =>
        rw [get_of_get? hr] at hi ⊢
        exact ⟨r, hr, Prod.ext hi rfl⟩
    split
    · exact h
    · split
      · exact Registry.complete h hbound
      · exact h

/-- Whoever does not submit leaves the registry in order. -/
lemma Move.keyed (h : Move L p p') (hL : ¬ L.submits) (hk : p.2.Keyed) : p'.2.Keyed := by
  have hb := h.bound hL
  have hsame : p'.2.idempotency = p.2.idempotency → p.2.uuids ≤ p'.2.uuids → p'.2.Keyed := by
    intro hstore hle
    simp only [Service.Keyed, hstore]
    exact Registry.congr hk hb hle
  cases h with
  | frame h => exact hsame h.idempotency h.uuids
  | finish id => exact hk.finish id
  | enter id ctx n h hctx hn => exact hsame rfl (hctx.trans hn.le)
  | edit | claim | mark | settle | succeed | release | store | close =>
    exact hsame (Service.update_idempotency ..) (Service.update_uuids ..).ge
  | register store h | create r n h => exact absurd h hL
  | _ => exact hsame rfl le_rfl

lemma Moves.keyed (h : Relation.ReflTransGen (Move L) p p') (hL : ¬ L.submits) (hk : p.2.Keyed) :
    p'.2.Keyed := by
  induction h with
  | refl => exact hk
  | tail _ hmove ih => exact hmove.keyed hL ih

lemma Moves.cfg (h : Relation.ReflTransGen (Move L) p p') : p'.2.cfg = p.2.cfg := by
  induction h with
  | refl => rfl
  | tail _ hmove ih => exact hmove.cfg.trans ih

end

/-! ### `submit` -/

namespace Submit

variable {s : Service} {v : TaskView} {c : SubmitCall} {session : SessionRecord} {i : Uuid}

/-- The checks before the registry: the session is known, its token is accepted, and a blob belongs
to the owner. -/
def admits (s : Service) (c : SubmitCall) : Bool :=
  s.env.sessions.records.contains c.sessionId && !(s.cfg.tokens && !c.token.isOk) &&
    match c.input with
    | .inline _ => true
    | .blob ref => ref.owner = blobOwnerFor c.owner

/-- The model of the session is in the tables of the book, and the view of an execution on it is
well formed. -/
def registrable (s : Service) (c : SubmitCall) : Bool :=
  (s.env.sessions.records.get? c.sessionId).all fun session =>
    s.env.capabilities.contains session.modelId && s.env.book.runtime.contains session.modelId &&
      isId session.modelId && decide (TextOk s.cfg.bootId)

/-- What follows once the registry has been asked. -/
def answer (s : Service) (v : TaskView) (c : SubmitCall) (session : SessionRecord)
    (begun : IdempotencyStore × Except Exc Uuid) : Effect Empty Value :=
  let s := { s with idempotency := begun.1, uuids := s.uuids + 1 }
  match begun.2 with
  | .error e => .raise s e
  | .ok i =>
    if s.idempotency.stateOf i = some .completed then
      match (s.idempotency.objects.get? i).bind (·.resourceId) with
      | none =>
        .raise s (.executionError "not_found" "the replayed object is gone with its session")
      | some id =>
        match s.records.get? id with
        | none =>
          .raise s (.executionError "not_found" "the replayed object is gone with its session")
        | some _ => returnView s id
    else claimed v c s session (some i)

lemma begin_refused (h : admits s c = false) : (begin s v c).next = s := by
  simp only [begin]
  split
  · rfl
  · next session hs =>
    simp only [admits, Dict.contains, hs, Option.isSome_some, Bool.true_and] at h
    split
    · rfl
    · next htoken =>
      have hpass : (!(s.cfg.tokens && !c.token.isOk)) = true := by
        cases ht : c.token with
        | ok => simp [Except.isOk, Except.toBool]
        | error e => simp [Bool.eq_false_iff.mpr fun hc => htoken e ht hc]
      rw [hpass, Bool.true_and] at h
      rw [if_pos ?_]
      · rfl
      · cases hinput : c.input with
        | inline document =>
          rw [hinput] at h
          cases h
        | blob ref =>
          rw [hinput, decide_eq_false_iff_not] at h
          exact decide_eq_true h

lemma begin_admitted (v : TaskView) (h : admits s c = true) (hi : s.cfg.idempotent = true) :
    ∃ session, s.env.sessions.records.get? c.sessionId = some session ∧
      begin s v c = answer s v c session (s.idempotency.begin s.uuids c.owner c.idempotencyKey
        (payload c) s.env.wallClock) := by
  simp only [admits, Bool.and_eq_true, Dict.contains_iff] at h
  obtain ⟨⟨⟨session, hs⟩, htoken⟩, hinput⟩ := h
  refine ⟨session, hs, ?_⟩
  simp only [begin, hs]
  split
  · next e htoken' htokens => simp [htoken', htokens, Except.isOk, Except.toBool] at htoken
  · rw [if_neg, if_pos hi]
    · rfl
    · cases hinput' : c.input with
      | inline document => simp
      | blob ref =>
        rw [hinput', decide_eq_true_eq] at hinput
        simp [hinput]

/-- Under a key on file the original is returned, or the call is refused. -/
lemma answer_filed (v : TaskView) (session : SessionRecord) (hk : s.Keyed)
    (hfiled : s.idempotency.records.get? (c.owner, c.idempotencyKey) = some i) :
    ∃ id p, s.Bound id i p ∧
      answer s v c session (s.idempotency.begin s.uuids c.owner c.idempotencyKey (payload c)
        s.env.wallClock) =
      if p = payload c then returnView { s with uuids := s.uuids + 1 } id
      else .raise { s with uuids := s.uuids + 1 } (.executionError "idempotency_conflict"
        "the key was used with different input") := by
  obtain ⟨obj, id, hobj, hstate, hres, hbound⟩ := Registry.filed hk _ i hfiled
  refine ⟨id, obj.fingerprint, hbound, ?_⟩
  have ⟨r, hr, _⟩ := hbound
  by_cases hsame : obj.fingerprint = payload c
  · have hbegin : s.idempotency.begin s.uuids c.owner c.idempotencyKey (payload c) s.env.wallClock =
        (s.idempotency, .ok i) := by
      simp only [IdempotencyStore.begin, hfiled, hobj, hsame, ne_eq, not_true_eq_false, if_false,
        hstate]
    rw [hbegin, if_pos hsame]
    simp only [answer, IdempotencyStore.stateOf, hobj, Option.map_some, hstate, if_true,
      Option.bind_some, hres, hr]
  · have hbegin : s.idempotency.begin s.uuids c.owner c.idempotencyKey (payload c) s.env.wallClock =
        (s.idempotency, .error (.executionError "idempotency_conflict"
          "the key was used with different input")) := by
      simp only [IdempotencyStore.begin, hfiled, hobj, ne_eq, hsame, not_false_eq_true, if_true]
    rw [hbegin, if_neg hsame]
    rfl

/-- The checks after the claim raise nothing but `ExecutionError`. -/
lemma refusal_error (hreg : registrable s c = true)
    (hs : s.env.sessions.records.get? c.sessionId = some session) {e : Exc}
    (h : refusal s c session = .error e) : ∃ code message, e = .executionError code message := by
  simp only [registrable, hs, Option.all_some, Bool.and_eq_true, Dict.contains_iff] at hreg
  obtain ⟨⟨⟨⟨capabilities, hcap⟩, ⟨runtime, hruntime⟩⟩, -⟩, -⟩ := hreg
  simp only [refusal, hcap, hruntime] at h
  split_ifs at h <;> cases h <;> exact ⟨_, _, rfl⟩

/-- The view of a new execution is well formed. -/
lemma newRecord_view {generation : ℕ} {idem : Option Uuid} (hboot : TextOk s.cfg.bootId)
    (hid : isId session.modelId = true) (hgen : 1 ≤ generation) :
    (newRecord s c session generation idem).view s.cfg.fromIsoformat =
      .ok (newRecord s c session generation idem).document := by
  have hnew : (newRecord s c session generation idem).New
      { Licence.lax { self := 0, fresh := 0, ended := fun _ => true } with strict := True } :=
        newRecord_new fun _ => ⟨hid, hboot, hgen⟩
  exact (hnew.valid trivial).view hnew.shaped

lemma ensureDispatcher_uuids (s : Service) (v : TaskView) (session : SessionId) :
    (s.ensureDispatcher v session).1.uuids = s.uuids := by
  simp only [Service.ensureDispatcher]
  split <;> rfl

/-- A call that has claimed its key is refused and gives the key up, or it creates an execution. -/
lemma claimed_cases (hreg : registrable s c = true)
    (hs : s.env.sessions.records.get? c.sessionId = some session)
    (hpending : s.idempotency.stateOf i = some .pending) :
    (∃ e, claimed v c s session (some i) =
      .raise { s with idempotency := s.idempotency.fail i } e) ∨
    ∃ r : Record, r.executionId = s.uuids ∧ r.claim = (some i, payload c) ∧
      (claimed v c s session (some i)).ctl = .ret (.view r.document) ∧
      (claimed v c s session (some i)).next.records = s.records.set r.executionId r ∧
      s.uuids + 2 ≤ (claimed v c s session (some i)).next.uuids ∧
      (claimed v c s session (some i)).next.idempotency =
        s.idempotency.complete i 202 r.executionId (some r.deadline) s.env.wallClock := by
  simp only [claimed]
  split
  · next e he =>
    obtain ⟨code, message, rfl⟩ := refusal_error hreg hs he
    refine .inl ⟨.executionError code message, ?_⟩
    simp only [refused, hpending, if_true]
  · next generation hgen =>
    simp only [registrable, hs, Option.all_some, Bool.and_eq_true, decide_eq_true_eq] at hreg
    have hview : (newRecord s c session generation (some i)).view s.cfg.fromIsoformat = .ok _ :=
      newRecord_view hreg.2 hreg.1.2 (refusal_ok hgen)
    refine .inr ⟨newRecord s c session generation (some i), rfl, rfl, ?_⟩
    simp only [create, hview, true_and]
    have hframe := fun s' : Service => ensureDispatcher_frame s' v c.sessionId
    refine ⟨(hframe _).records, ?_, (hframe _).idempotency⟩
    rw [ensureDispatcher_uuids]

/-- A free key is claimed. -/
lemma answer_free (v : TaskView) (session : SessionRecord)
    (hfree : s.idempotency.records.get? (c.owner, c.idempotencyKey) = none)
    {begun : IdempotencyStore × Except Exc Uuid} (hbegun : begun = s.idempotency.begin s.uuids
      c.owner c.idempotencyKey (payload c) s.env.wallClock) :
    begun.1.stateOf s.uuids = some .pending ∧ answer s v c session begun =
      claimed v c { s with idempotency := begun.1, uuids := s.uuids + 1 } session
        (some s.uuids) := by
  have hpending : begun.1.stateOf s.uuids = some .pending := by
    rw [hbegun, IdempotencyStore.begin_free hfree]
    simp only [IdempotencyStore.stateOf, Dict.get?_set_self, Option.map_some]
  have hok : begun.2 = .ok s.uuids := by rw [hbegun, IdempotencyStore.begin_free hfree]
  refine ⟨hpending, ?_⟩
  simp only [answer, hok, hpending, Option.some.injEq, reduceCtorEq, if_false]

end Submit

/-! ### Runs -/

/-- A record that comes on file is bound to the key it was created under. -/
lemma Service.bound_create {s s' : Service} {r : Record} {i : Uuid} {payload : SubmitPayload}
    (hnew : s.records.get? r.executionId = none)
    (hrecords : s'.records = s.records.set r.executionId r) (hclaim : r.claim = (some i, payload))
    (id : ExecutionId) (j : Uuid) (p : SubmitPayload) :
    s'.Bound id j p ↔ s.Bound id j p ∨ id = r.executionId ∧ j = i ∧ p = payload := by
  simp only [Bound, hrecords, Dict.get?_set]
  split
  · next heq =>
    subst heq
    simp [hnew, hclaim, eq_comm]
  · next hne => simp [hne]

namespace Submit

variable {s : Service} {v : TaskView} {c : SubmitCall}

lemma begin_keyed (hreg : registrable s c = true) (hi : s.cfg.idempotent = true) (hf : s.Filed)
    (hk : s.Keyed) : (begin s v c).next.Keyed := by
  cases hadmits : admits s c with
  | false =>
    rw [begin_refused hadmits]
    exact hk
  | true =>
    obtain ⟨session, hs, hbegin⟩ := begin_admitted v hadmits hi
    rw [hbegin]
    cases hkey : s.idempotency.records.get? (c.owner, c.idempotencyKey) with
    | some i =>
      have hsame : Service.Keyed { s with uuids := s.uuids + 1 } :=
        Registry.congr hk (fun _ _ _ => Iff.rfl) (Nat.le_succ _)
      obtain ⟨id, p, -, hanswer⟩ := answer_filed v session hk hkey
      rw [hanswer]
      split
      · simp only [returnView]
        split <;> exact hsame
      · exact hsame
    | none =>
      obtain ⟨hpending, hanswer⟩ := answer_free v session hkey rfl
      rw [hanswer]
      rcases claimed_cases (v := v) (s := { s with
          idempotency := (s.idempotency.begin s.uuids c.owner c.idempotencyKey (payload c)
            s.env.wallClock).1, uuids := s.uuids + 1 }) hreg hs hpending with
        ⟨e, heq⟩ | ⟨r, hid, hclaim, -, hrecords, huuids, hstore⟩
      · rw [heq]
        exact (Registry.withdrawn hk hkey).1
      · have hnew : s.records.get? r.executionId = none := by
          rw [hid]
          exact hf.fresh (Nat.le_succ _)
        simp only [Service.Keyed, hstore]
        exact (Registry.created hk hkey (Nat.lt_succ_self _)).congr
          (Service.bound_create hnew hrecords hclaim) (Nat.le_of_succ_le (Nat.le_of_succ_le huuids))

end Submit

namespace System

variable {w w' : System} {t : TaskId} {co : Co} {inp : Input} {e : Effect Co Value} {c : SubmitCall}

/-- Whoever submits does so for a session whose model is known and fit for views. -/
def registrable (w : System) : Act → Bool
  | .resume t _ =>
    match w.tasks.get? t with
    | some (.running (.submit c)) => Submit.registrable w.svc c
    | _ => true
  | _ => true

lemma keyed_turn (hw : w.Wf) (hrun : w.Running t co) (hlegal : inp.legal w.svc = true)
    (hok : w.registrable (.resume t inp) = true)
    (hstep : co.step w.svc (w.view t) inp = some e) :
    e.next.cfg = w.svc.cfg ∧
      (w.svc.cfg.idempotent = true → w.svc.Keyed → e.next.Keyed) := by
  have hm := (turn_at (plain_turn hw hrun hlegal hstep)).moves
  refine ⟨Moves.cfg hm, fun hi hk => ?_⟩
  by_cases hsubmit : ∃ c, co = .submit c
  · obtain ⟨c, rfl⟩ := hsubmit
    simp only [registrable, hrun] at hok
    obtain ⟨e', he', rfl⟩ := Option.map_eq_some_iff.mp hstep
    obtain ⟨-, rfl⟩ := withLock_some he'
    rw [(Effect.lift_next _ _ _).1]
    exact Submit.begin_keyed hok hi hw.filed hk
  · exact Moves.keyed hm hsubmit hk

/-- The registry is in order wherever the service keeps one. -/
def Keyed (w : System) : Prop := w.svc.cfg.idempotent = true → w.svc.Keyed

lemma Keyed.step {a : Act} (hw : w.Wf) (hk : w.Keyed) (hok : w.registrable a = true)
    (h : w.step a = some w') : w'.Keyed := by
  rcases step_cases h with ⟨env, store, rfl, hstore⟩ | ⟨c, -, rfl⟩ |
    ⟨t, inp, co, e, rfl, hrun, hlegal, hstep, rfl⟩ | ⟨t, co, rfl, hrun, rfl⟩
  · intro hi
    rcases hstore with rfl | ⟨retention, moment, rfl⟩
    · exact hk hi
    · exact Registry.sweep (hk hi) retention moment
  · exact hk
  · obtain ⟨hcfg, hkeyed⟩ := keyed_turn hw hrun hlegal hok hstep
    intro hi
    have hi' : w.svc.cfg.idempotent = true := by
      rw [← hcfg]
      exact hi
    exact hkeyed hi' (hk hi')
  · -- a cancelled task does not submit
    have hat : At { w.plain t co with submits := False } t (w.base co) (co.owes, w.svc) [] none
        (co.thrown w.svc) := hw.cancelled hrun rfl (fun _ _ => .inr trivial) fun _ _ => .inr trivial
    intro hi
    have hi' : w.svc.cfg.idempotent = true := by
      rw [← Moves.cfg hat.moves]
      exact hi
    exact Moves.keyed hat.moves (fun h => h) (hk hi')

lemma Starts.keyed (h : w.Starts) : w.Keyed := by
  obtain ⟨cfg, env, s, hs, rfl⟩ := h
  obtain ⟨cfg', rfl⟩ := init_ok hs
  intro _
  refine ⟨nofun, nofun, ?_, ?_⟩
  · rintro id i p ⟨r, ⟨⟩, -⟩
  · rintro i id id' p p' ⟨r, ⟨⟩, -⟩

lemma Reach.keyed (h : w.Reach fun w a => w.registrable a = true) : w.Keyed := by
  obtain ⟨w₀, hstart, hrun⟩ := h
  have hinv : w.Wf ∧ w.Keyed := hrun.invariant (I := fun w => w.Wf ∧ w.Keyed)
    (fun _ _ _ hi hok hstep => ⟨hi.1.step hstep, hi.2.step hi.1 hok hstep⟩)
    ⟨hstart.wf, hstart.keyed⟩
  exact hinv.2

/-- What a task has raised. -/
def raised (w : System) (t : TaskId) : Option Exc :=
  match w.tasks.get? t with
  | some (.done (.error e)) => some e
  | _ => none

end System

end ModelSwitch.Execution

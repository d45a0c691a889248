import ModelSwitch.Program.Sessions
import ModelSwitch.Proofs.Queue

/-!
# What a transition of the session manager changes

Every transition replaces one record and keeps its identity and its budget; the active session is
moved only with the phase of that record.
-/

namespace ModelSwitch

namespace SessionManager

/-- The record of `session` is replaced by `record'`. -/
structure Update (sm sm' : SessionManager) (session : SessionId)
    (record record' : SessionRecord) : Prop where
  get : sm.records.get? session = some record
  records : sm'.records = sm.records.set session record'
  sessionId : record'.sessionId = record.sessionId
  modelId : record'.modelId = record.modelId
  ttl : record'.ttlSeconds = record.ttlSeconds
  hard : record'.hardDeadline = record.hardDeadline
  policy : sm'.policy = sm.policy
  active_other : ∀ u, u ≠ session → (sm'.activeId = some u ↔ sm.activeId = some u)
  active_stays : sm'.activeId = some session → record'.phase = .active ∨
    (sm.activeId = some session ∧ record'.phase = record.phase)
  active_set : record'.phase = .active → sm'.activeId = some session ∨
    (sm'.activeId = sm.activeId ∧ record.phase = .active)

lemma Update.get_new {sm sm' : SessionManager} {session : SessionId}
    {record record' : SessionRecord} (h : Update sm sm' session record record') :
    sm'.records.get? session = some record' := by
  rw [h.records]
  exact Dict.get?_set_self _ _ _

section Transitions

variable {sm sm' : SessionManager} {session : SessionId} {now : Time} {reason : String}

lemma withRecord_ok {α : Type} {k : SessionRecord → Except Exc α} {a : α}
    (h : sm.withRecord session k = .ok a) :
    ∃ record, sm.records.get? session = some record ∧ k record = .ok a := by
  unfold withRecord at h
  split at h
  · cases h
  · exact ⟨_, ‹_›, h⟩

/-- A record that leaves the active phase for good clears the active session. -/
lemma update_clearActive {record record' : SessionRecord}
    (hget : sm.records.get? session = some record) (hid : record'.sessionId = record.sessionId)
    (hmodel : record'.modelId = record.modelId) (httl : record'.ttlSeconds = record.ttlSeconds)
    (hhard : record'.hardDeadline = record.hardDeadline) (hphase : record'.phase ≠ .active) :
    Update sm ((sm.setRecord session record').clearActive session) session record record' := by
  unfold clearActive setRecord
  dsimp only
  split_ifs with hact
  · refine ⟨hget, rfl, hid, hmodel, httl, hhard, rfl, ?_, nofun, fun h => absurd h hphase⟩
    intro u hu
    simp [hact, Ne.symm hu]
  · exact ⟨hget, rfl, hid, hmodel, httl, hhard, rfl, fun _ _ => Iff.rfl,
      fun h => absurd h hact, fun h => absurd h hphase⟩

lemma update_setRecord {record record' : SessionRecord}
    (hget : sm.records.get? session = some record) (hid : record'.sessionId = record.sessionId)
    (hmodel : record'.modelId = record.modelId) (httl : record'.ttlSeconds = record.ttlSeconds)
    (hhard : record'.hardDeadline = record.hardDeadline) (hphase : record'.phase = record.phase) :
    Update sm (sm.setRecord session record') session record record' :=
  ⟨hget, rfl, hid, hmodel, httl, hhard, rfl, fun _ _ => Iff.rfl, fun h => .inr ⟨h, hphase⟩,
    fun h => .inr ⟨rfl, hphase ▸ h⟩⟩

lemma heartbeat_ok (h : sm.heartbeat session now = .ok sm') :
    ∃ record, (record.phase = .preparing ∨ (record.phase = .active ∧ now < record.expiresAt)) ∧
      Update sm sm' session record { record with heartbeatAt := some now } := by
  obtain ⟨record, hget, h⟩ := withRecord_ok h
  split_ifs at h with hopen hexp
  cases h
  refine ⟨record, ?_, update_setRecord hget rfl rfl rfl rfl rfl⟩
  rcases hopen with hp | ha
  · exact .inl hp
  · exact .inr ⟨ha, not_le.mp fun hle => hexp ⟨ha, hle⟩⟩

lemma markActive_ok (h : sm.markActive session now = .ok sm') :
    ∃ record, record.phase = .preparing ∧
      Update sm sm' session record { record with
        phase := .active, activatedAt := some now, heartbeatAt := some now, retryAt := 0 } := by
  obtain ⟨record, hget, h⟩ := withRecord_ok h
  split_ifs at h with hact hprep hother
  cases h
  refine ⟨record, not_not.mp hprep, hget, rfl, rfl, rfl, rfl, rfl, rfl, ?_, fun _ => .inl rfl,
    fun _ => .inl rfl⟩
  -- no other session was active, or the transition would have been refused
  intro u hu
  simp only [Option.some.injEq, Ne.symm hu, false_iff]
  intro hactive
  exact hother ⟨by simp [hactive], by simpa [hactive] using hu⟩

lemma beginDrain_ok (h : sm.beginDrain session now reason = .ok sm') :
    ∃ record, (record.phase = .closed ∧ sm.records.get? session = some record ∧ sm' = sm) ∨
      (record.phase ≠ .closed ∧ Update sm sm' session record { record with
        phase := .draining, drainingAt := some now, drainingReason := some reason }) := by
  obtain ⟨record, hget, h⟩ := withRecord_ok h
  split_ifs at h with hclosed <;> cases h
  · exact ⟨record, .inl ⟨hclosed, hget, rfl⟩⟩
  · exact ⟨record, .inr ⟨hclosed, update_clearActive hget rfl rfl rfl rfl nofun⟩⟩

lemma beginDrain_policy (h : sm.beginDrain session now reason = .ok sm') :
    sm'.policy = sm.policy := by
  obtain ⟨_, ⟨-, -, rfl⟩ | ⟨-, hu⟩⟩ := beginDrain_ok h
  · rfl
  · exact hu.policy

lemma markClosed_ok (h : sm.markClosed session now = .ok sm') :
    ∃ record, (record.phase = .closed ∧ sm.records.get? session = some record ∧ sm' = sm) ∨
      (record.phase ≠ .closed ∧ Update sm sm' session record { record with
        phase := .closed, closedAt := some now, retryAt := 0 }) := by
  obtain ⟨record, hget, h⟩ := withRecord_ok h
  split_ifs at h with hclosed <;> cases h
  · exact ⟨record, .inl ⟨hclosed, hget, rfl⟩⟩
  · let record' := { record with phase := .closed, closedAt := some now, retryAt := 0 }
    have hu : Update sm ((sm.setRecord session record').clearActive session) session record
        record' := update_clearActive hget rfl rfl rfl rfl nofun
    exact ⟨record, .inr ⟨hclosed, { hu with }⟩⟩

lemma markClosed_policy (h : sm.markClosed session now = .ok sm') : sm'.policy = sm.policy := by
  obtain ⟨_, ⟨-, -, rfl⟩ | ⟨-, hu⟩⟩ := markClosed_ok h
  · rfl
  · exact hu.policy

lemma markBlocked_ok (h : sm.markBlocked session now reason = .ok sm') :
    ∃ record, record.phase ≠ .closed ∧ Update sm sm' session record { record with
      phase := .blocked, blockedAt := some now, blockedReason := some reason,
      retryAt := now + sm.policy.reconcileSeconds } := by
  obtain ⟨record, hget, h⟩ := withRecord_ok h
  split_ifs at h with hclosed
  cases h
  exact ⟨record, hclosed, update_clearActive hget rfl rfl rfl rfl nofun⟩

lemma yieldPrepare_ok (h : sm.yieldPrepare session now = .ok sm') :
    ∃ record, record.phase = .preparing ∧ Update sm sm' session record { record with
      retryAt := now + sm.policy.retrySeconds } := by
  obtain ⟨record, hget, h⟩ := withRecord_ok h
  split_ifs at h with hprep
  cases h
  exact ⟨record, not_not.mp hprep, update_setRecord hget rfl rfl rfl rfl rfl⟩

/-! A session on file is closed or blocked without an error. -/

/-- A registration files one new record and touches no other. -/
lemma create_ok {model : ModelId} {client : String} {queue queue' : RequestQueue} {priority : ℤ}
    {hardSeconds : Option ℚ}
    (h : sm.create session model client now queue priority hardSeconds = (queue', .ok sm')) :
    ∃ record, sm.records.get? session = none ∧ sm'.records = sm.records.set session record ∧
      record.sessionId = session ∧ record.modelId = model ∧ record.phase = .preparing ∧
      record.ttlSeconds = sm.policy.ttlSeconds ∧ record.activatedAt = none ∧
      sm'.activeId = sm.activeId ∧ sm'.policy = sm.policy := by
  unfold create at h
  split_ifs at h with hdup hcap
  · cases h
  · cases h
  dsimp only at h
  split_ifs at h
  · cases h
  split at h
  · cases h
  · cases h
    have hnone : sm.records.get? session = none := by
      rw [Option.eq_none_iff_forall_ne_some]
      intro record hr
      exact hdup (Dict.contains_iff.mpr ⟨record, hr⟩)
    exact ⟨_, hnone, rfl, rfl, rfl, rfl, rfl, rfl, rfl, rfl⟩

/-- A registration files at most its own waiter. -/
lemma create_moves {model : ModelId} {client : String} {queue queue' : RequestQueue}
    {priority : ℤ} {hardSeconds : Option ℚ} {r : Except Exc SessionManager}
    (h : sm.create session model client now queue priority hardSeconds = (queue', r)) :
    RequestQueue.Moves (some session) queue queue' := by
  simp only [create] at h
  split_ifs at h
  · cases h
    exact .refl _
  · cases h
    exact .refl _
  · cases h
    exact .refl _
  · split at h <;> cases h <;> exact .enqueue ‹_›

end Transitions

/-! ### Decisions -/

section Decisions

variable {sm : SessionManager} {session : SessionId} {now : Time}

lemma isLive_iff : sm.isLive session now = true ↔
    ∃ r, sm.records.get? session = some r ∧ r.phase = .active ∧ now < r.expiresAt := by
  simp only [isLive]
  cases hr : sm.records.get? session with
  | none | some r => simp

lemma not_holding_of_holdingId (h : sm.holdingId = none) {u : SessionId} {r : SessionRecord}
    (hr : sm.records.get? u = some r) : r.phase.holding = false := by
  simp only [holdingId, Option.map_eq_none_iff, List.find?_eq_none] at h
  have := h (u, r) (Dict.mem_entries_iff.mpr hr)
  simpa using this

/-- A session may start preparing only while no session holds the model. -/
lemma candidate_isSome (h : (sm.candidate session now).isSome = true) :
    (∃ r, sm.records.get? session = some r ∧ r.phase = .preparing) ∧
      ∀ u r, sm.records.get? u = some r → r.phase.holding = false := by
  simp only [candidate] at h
  split at h
  · simp at h
  · rename_i r hr
    split_ifs at h with hp hw hh
    all_goals first | (simp at h; done) | skip
    refine ⟨⟨r, hr, not_not.mp hp⟩, fun u r' hr' => not_holding_of_holdingId ?_ hr'⟩
    simpa using hh

lemma mem_expired {r : SessionRecord} (h : r ∈ sm.expired now) :
    (∃ u, sm.records.get? u = some r) ∧
      (r.phase = .preparing ∨ (r.phase = .active ∧ r.expiresAt ≤ now)) := by
  simp only [expired, List.mem_filter, Bool.or_eq_true, Bool.and_eq_true, decide_eq_true_eq] at h
  exact ⟨Dict.mem_values_iff.mp h.1, h.2.imp_left And.left⟩

lemma mem_blockedDue {r : SessionRecord} (h : r ∈ sm.blockedDue now) :
    (∃ u, sm.records.get? u = some r) ∧ r.phase = .blocked := by
  simp only [blockedDue, List.mem_filter, Bool.and_eq_true, decide_eq_true_eq] at h
  exact ⟨Dict.mem_values_iff.mp h.1, h.2.1⟩

end Decisions

end SessionManager

end ModelSwitch

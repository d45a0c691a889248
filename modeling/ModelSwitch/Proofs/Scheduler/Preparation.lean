import ModelSwitch.Proofs.Scheduler.Worker

/-!
# The time a session has to wait and to prepare

`create` turns the three budgets of a session into absolute times at its registration, and no later
call moves them. `preparation_budget` says exactly when the two times that follow are those of a
session whose wait does not count against its preparation.
-/

namespace ModelSwitch

/-- The deadlines of a session all count from its registration. -/
structure SessionRecord.Budgeted (p : SessionPolicy) (now : Time) (r : SessionRecord) : Prop where
  created : r.createdAt ≤ now
  wait : r.waitDeadline = min (r.createdAt + p.waitSeconds) r.hardDeadline
  prepare : r.prepareDeadline = min (r.createdAt + p.prepareSeconds) r.hardDeadline

namespace SessionRecord.Budgeted

variable {p : SessionPolicy} {now : Time} {r : SessionRecord}

lemma mono {now' : Time} (h : r.Budgeted p now) (hle : now ≤ now') : r.Budgeted p now' :=
  ⟨h.created.trans hle, h.wait, h.prepare⟩

/-- The earlier of the two ends is fixed at the registration. -/
lemma expiredAt (h : r.Budgeted p now) : r.preparationExpiredAt =
    min (min (r.createdAt + p.waitSeconds) (r.createdAt + p.prepareSeconds)) r.hardDeadline := by
  rw [SessionRecord.preparationExpiredAt, h.wait, h.prepare]
  exact (inf_inf_distrib_right _ _ _).symm

/-- The end of the wait is the end of the session's preparation if the wait is the shorter. -/
lemma wait_le_iff (h : r.Budgeted p now) :
    min (r.createdAt + p.waitSeconds) r.hardDeadline ≤ r.preparationExpiredAt ↔
      min p.waitSeconds (r.hardDeadline - r.createdAt) ≤ p.prepareSeconds := by
  have hshift : min (r.createdAt + p.waitSeconds) r.hardDeadline =
      r.createdAt + min p.waitSeconds (r.hardDeadline - r.createdAt) := by
    rw [← min_add_add_left, add_sub_cancel]
  rw [h.expiredAt, le_min_iff, le_min_iff]
  constructor
  · rintro ⟨⟨-, hle⟩, -⟩
    rw [hshift] at hle
    exact le_of_add_le_add_left hle
  · intro hle
    refine ⟨⟨min_le_left _ _, ?_⟩, min_le_right _ _⟩
    rw [hshift]
    exact (add_le_add_iff_left _).mpr hle

/-- A full preparation from `now` on fits if the hard deadline cuts it, or if the session did not
wait at all. -/
lemma full_le_iff (h : r.Budgeted p now) :
    min (now + p.prepareSeconds) r.hardDeadline ≤ r.preparationExpiredAt ↔
      r.hardDeadline ≤ r.createdAt + min p.waitSeconds p.prepareSeconds ∨
        (now = r.createdAt ∧ p.prepareSeconds ≤ p.waitSeconds) := by
  have hcreated := h.created
  rw [h.expiredAt, min_add_add_left, le_min_iff]
  constructor
  · rintro ⟨hle, -⟩
    rcases min_le_iff.mp hle with hle | hle
    · have hwait := min_le_left p.waitSeconds p.prepareSeconds
      have hprep := min_le_right p.waitSeconds p.prepareSeconds
      exact .inr ⟨by linarith, by linarith⟩
    · exact .inl hle
  · rintro (hle | ⟨hnow, hle⟩)
    · exact ⟨(min_le_right _ _).trans hle, min_le_right _ _⟩
    · refine ⟨(min_le_left _ _).trans ?_, min_le_right _ _⟩
      rw [min_eq_right hle, hnow]

end SessionRecord.Budgeted

namespace SessionManager

variable {sm sm' : SessionManager} {session : SessionId} {now : Time} {r r' : SessionRecord}

def Budgeted (sm : SessionManager) (now : Time) : Prop :=
  ∀ session r, sm.records.get? session = some r → r.Budgeted sm.policy now

lemma Budgeted.set (h : sm.Budgeted now) (hrec : sm'.records = sm.records.set session r')
    (hpol : sm'.policy = sm.policy) (hr : r'.Budgeted sm.policy now) : sm'.Budgeted now := by
  intro u x hx
  rw [hrec, Dict.get?_set] at hx
  rw [hpol]
  split_ifs at hx with heq
  · cases hx
    exact hr
  · exact h u x hx

lemma Drained.budgeted (h : Drained sm sm') (hb : sm.Budgeted now) : sm'.Budgeted now := by
  induction h with
  | refl => exact hb
  | tail _ hs ih =>
    obtain ⟨session, r, _, _, -, hu⟩ := hs
    have hold := ih session r hu.get
    exact ih.set hu.records hu.policy ⟨hold.created, hold.wait, hold.prepare⟩

lemma create_budgeted {model : ModelId} {client : String} {queue queue' : RequestQueue}
    {priority : ℤ} {hardSeconds : Option ℚ}
    (h : sm.create session model client now queue priority hardSeconds = (queue', .ok sm'))
    (hb : sm.Budgeted now) : sm'.Budgeted now := by
  unfold create at h
  split_ifs at h with hdup hcap
  · cases h
  · cases h
  dsimp only at h
  split_ifs at h
  · cases h
  split at h <;> cases h
  exact hb.set rfl rfl ⟨le_rfl, rfl, rfl⟩

/-- Whether a waiting session has expired. -/
lemma mem_expired_preparing (hr : sm.records.get? session = some r) (hp : r.phase = .preparing) :
    r ∈ sm.expired now ↔ r.preparationExpiredAt ≤ now := by
  have hmem : r ∈ sm.records.values := Dict.mem_values_iff.mpr ⟨session, hr⟩
  simp [expired, hmem, hp]

/-- A waiting session may start preparing unless it has expired, backs off or finds the slot
taken. -/
lemma candidate_eq (hr : sm.records.get? session = some r) (hp : r.phase = .preparing)
    (hretry : r.retryAt ≤ now) (hfree : sm.holdingId = none)
    (hexp : now < r.preparationExpiredAt) (hhard : now < r.hardDeadline) :
    sm.candidate session now = some r := by
  simp [candidate, hr, hp, hfree, hretry, hexp, hhard]

end SessionManager

lemma Touch.budgeted {s : Scheduler} {co : Co} {sm' : SessionManager} (h : Touch s co sm')
    (hb : s.sessions.Budgeted s.now) : sm'.Budgeted s.now := by
  cases h with
  | same hr ha hp =>
    intro session r hget
    rw [hp]
    rw [hr] at hget
    exact hb session r hget
  | create a hco queue queue' h => exact SessionManager.create_budgeted h hb
  | shutdown deadline hco h => exact h.budgeted hb
  | moved session r r' hm hu =>
    have hold := hb session r hu.get
    refine hb.set hu.records hu.policy ?_
    cases hm <;> exact ⟨hold.created, hold.wait, hold.prepare⟩

namespace System

variable {w : System} {ok : System → Act → Prop}

lemma Reach.budgeted (h : Reach ok w) : w.sched.sessions.Budgeted w.sched.now := by
  refine h.sched_invariant (J := fun s => s.sessions.Budgeted s.now) ?_ ?_ ?_
  · intro s hs session r hr
    obtain ⟨policy, -, heq⟩ := hs.sessions
    rw [heq] at hr
    cases hr
  · intro s d hI hd session r hr
    exact (hI session r hr).mono (le_add_of_nonneg_right hd)
  · intro w t inp co e _ hI _ _ he
    rw [(Co.step_within he).now]
    exact (Co.step_touch he).budgeted hI

/-- When the wait of a session is apart from its preparation. In every run a session that waits is
spared and stays a candidate until the end of its wait exactly if the wait, cut by the hard
deadline, is no longer than `prepare_seconds`; a preparation that begins now is left
`prepare_seconds` or the rest up to the hard deadline exactly if that deadline ends both budgets of
the registration, or if the session has not waited at all. -/
theorem preparation_budget (h : Reach ok w) {session : SessionId} {r : SessionRecord}
    (hr : w.sched.sessions.records.get? session = some r) (hp : r.phase = .preparing) :
    ((∀ t < min (r.createdAt + w.sched.sessions.policy.waitSeconds) r.hardDeadline,
        r ∉ w.sched.sessions.expired t ∧
          (r.retryAt ≤ t → w.sched.sessions.holdingId = none →
            w.sched.sessions.candidate session t = some r)) ↔
      min w.sched.sessions.policy.waitSeconds (r.hardDeadline - r.createdAt) ≤
        w.sched.sessions.policy.prepareSeconds) ∧
    ∃ limit drain, (PrepareSession.begin w.sched session).ctl =
        .goto (.draining r.modelId limit drain .check) ∧
      ((∀ t < min (w.sched.now + w.sched.sessions.policy.prepareSeconds) r.hardDeadline,
          r ∉ w.sched.sessions.expired t ∧ t < limit) ↔
        r.hardDeadline ≤ r.createdAt + min w.sched.sessions.policy.waitSeconds
            w.sched.sessions.policy.prepareSeconds ∨
          (w.sched.now = r.createdAt ∧
            w.sched.sessions.policy.prepareSeconds ≤ w.sched.sessions.policy.waitSeconds)) := by
  have hb := h.budgeted session r hr
  constructor
  · rw [← hb.wait_le_iff]
    constructor
    · intro hspared
      -- at the limit itself the session has expired
      by_contra hlt
      exact (hspared _ (not_le.mp hlt)).1
        ((SessionManager.mem_expired_preparing hr hp).mpr le_rfl)
    · intro hle t ht
      have hexp : t < r.preparationExpiredAt := ht.trans_le hle
      refine ⟨?_, fun hretry hfree => ?_⟩
      · rw [SessionManager.mem_expired_preparing hr hp]
        exact not_le.mpr hexp
      · exact SessionManager.candidate_eq hr hp hretry hfree hexp (ht.trans_le (min_le_right _ _))
  · refine ⟨r.preparationExpiredAt, w.sched.now + w.sched.sessions.policy.drainSeconds, ?_, ?_⟩
    · simp only [PrepareSession.begin, hr, hp, ne_eq, not_true_eq_false, if_false]
      rfl
    · rw [← hb.full_le_iff]
      constructor
      · intro hspared
        by_contra hlt
        exact lt_irrefl _ (hspared _ (not_le.mp hlt)).2
      · intro hle t ht
        refine ⟨?_, ht.trans_le hle⟩
        rw [SessionManager.mem_expired_preparing hr hp]
        exact not_le.mpr (ht.trans_le hle)

/-- A session with a hard deadline of one minute is spared for that minute, and so is its
preparation. -/
theorem preparation_budget_minute : ∃ (w : System) (r : SessionRecord), Reach (fun _ _ => True) w ∧
    w.sched.sessions.records.get? "A" = some r ∧ r.phase = .preparing ∧
    (∀ t < min (r.createdAt + w.sched.sessions.policy.waitSeconds) r.hardDeadline,
      r ∉ w.sched.sessions.expired t) ∧
    ∃ limit drain, (PrepareSession.begin w.sched "A").ctl =
        .goto (.draining r.modelId limit drain .check) ∧
      ∀ t < min (w.sched.now + w.sched.sessions.policy.prepareSeconds) r.hardDeadline,
        t < limit := by
  obtain ⟨w, w', hreach, hstep, hrec⟩ := exists_step
    [.call (.registerSession
      { modelId := "chat", clientId := "alice", sessionId := "A", hardDeadlineSeconds := some 60 })]
    (a := go 0)
    (P := fun _ w => ∃ r ∈ w.sched.sessions.records.get? "A", r.phase = .preparing ∧
      r.createdAt = 0 ∧ r.hardDeadline = 60 ∧ w.sched.sessions.policy.waitSeconds = 1800 ∧
      w.sched.sessions.policy.prepareSeconds = 900)
    (by decide +kernel)
  obtain ⟨r, hr, hp, hcreated, hhard, hwait, hprep⟩ := hrec
  have hw' : Reach (fun _ _ => True) w' := hreach.step hstep
  obtain ⟨hspared, limit, drain, hctl, hlimit⟩ := preparation_budget hw' hr hp
  have hwaits := hspared.mpr (by rw [hwait, hprep, hcreated, hhard]; norm_num)
  have hprepares := hlimit.mpr (.inl (by rw [hwait, hprep, hcreated, hhard]; norm_num))
  exact ⟨w', r, hw', hr, hp, fun t ht => (hwaits t ht).1, limit, drain, hctl,
    fun t ht => (hprepares t ht).2⟩

/-- "A" holds the model and sends its heartbeats; "B" is registered at time 0 and waits. -/
def waitBehind : List Act :=
  activateChat ++
    [.call (.registerSession { modelId := "chat", clientId := "bob", sessionId := "B" }), go 3] ++
    (List.range 31).flatMap
      (fun i => [.tick 29, .call (.heartbeatSession "A"), go (4 + i)]) ++
    [.tick 1, go 1]

/-- "B" may wait 1800 s. The worker closes it after 900 s, with the preparation not begun. -/
theorem waiting_session_expired : ∃ w w' : System, Reach (fun _ _ => True) w ∧
    w.step (go 1) = some w' ∧
    (∃ r ∈ w.sched.sessions.records.get? "B", r.phase = .preparing ∧
      w.sched.now < min (r.createdAt + w.sched.sessions.policy.waitSeconds) r.hardDeadline) ∧
    w.sched.sessionFreeze ≠ some "B" ∧ w.phaseOf "A" = some .active ∧
    w'.phaseOf "B" = some .closed :=
  exists_step waitBehind (by decide +kernel)

end System

end ModelSwitch

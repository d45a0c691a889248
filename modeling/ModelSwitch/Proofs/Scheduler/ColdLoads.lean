import ModelSwitch.Proofs.Scheduler.Trace

/-!
# The rate of cold loads

The scheduler files the time of every load that succeeds and keeps the times of the last window; a
load that makes `max_switches_in_window` of them sets the time before which no cold request is
eligible. A run is followed here beside the times of all its successes. `cold_load_rate` holds where
that time is respected when a load begins, and where no success is filed over a full window.
-/

namespace ModelSwitch

/-! ### The window -/

namespace Scheduler

variable {s s' : Scheduler} {now : Time} {window : ℚ}

lemma trimSuccesses_sublist (now : Time) (window : ℚ) (ts : List Time) :
    (trimSuccesses now window ts).Sublist ts := by
  induction ts with
  | nil => exact .refl _
  | cons t ts ih =>
    rw [trimSuccesses]
    split_ifs
    · exact ih.cons t
    · exact .refl _

/-- What is trimmed is not counted by a test that only recent times pass. -/
lemma trimSuccesses_countP {q : Time → Bool} (hq : ∀ x, q x = true → now - window ≤ x)
    (ts : List Time) : (trimSuccesses now window ts).countP q = ts.countP q := by
  induction ts with
  | nil => rfl
  | cons t ts ih =>
    rw [trimSuccesses]
    split_ifs with hold
    · have hnot : ¬ q t = true := fun ht => by linarith [hq t ht]
      rw [ih, List.countP_cons_of_neg hnot]
    · rfl

/-- In order of time, what stays is what lies in the window. -/
lemma trimSuccesses_length {ts : List Time} (h : ts.Pairwise (· ≤ ·)) :
    (trimSuccesses now window ts).length = ts.countP (fun x => now - x ≤ window) := by
  induction ts with
  | nil => rfl
  | cons t ts ih =>
    rw [List.pairwise_cons] at h
    rw [trimSuccesses]
    split_ifs with hold
    · have hnot : ¬ decide (now - t ≤ window) = true := by
        rw [decide_eq_true_eq]
        exact not_le.mpr hold
      simp only [ih h.2, List.countP_cons, if_neg hnot, add_zero]
    · refine (List.countP_eq_length.mpr ?_).symm
      intro x hx
      rw [decide_eq_true_eq]
      rcases List.mem_cons.mp hx with rfl | hx
      · exact not_lt.mp hold
      · linarith [h.1 x hx]

/-- The successes on file once one more is recorded. -/
lemma recordColdLoad_successes (s : Scheduler) : s.recordColdLoad.switchSuccesses =
    trimSuccesses s.now s.cfg.switchWindowSeconds (s.switchSuccesses ++ [s.now]) := by
  unfold recordColdLoad
  dsimp only
  split
  · rename_i h
    rw [h]
  · rename_i h
    split_ifs <;> rw [h]

lemma le_recordColdLoad (s : Scheduler) :
    s.coldLoadNotBefore ≤ s.recordColdLoad.coldLoadNotBefore := by
  unfold recordColdLoad
  dsimp only
  split
  · exact le_rfl
  · split_ifs
    · exact le_max_left _ _
    · exact le_rfl

/-- A full window sets the time before which no cold request is eligible. -/
lemma recordColdLoad_full {oldest : Time} {rest : List Time}
    (h : s.recordColdLoad.switchSuccesses = oldest :: rest)
    (hfull : s.cfg.maxSwitchesInWindow ≤ (oldest :: rest).length) :
    s.now + s.cfg.cooldownSeconds ≤ s.recordColdLoad.coldLoadNotBefore ∧
      oldest + s.cfg.switchWindowSeconds ≤ s.recordColdLoad.coldLoadNotBefore := by
  rw [recordColdLoad_successes] at h
  have hmax : s.recordColdLoad.coldLoadNotBefore = max s.coldLoadNotBefore
      (max (s.now + s.cfg.cooldownSeconds) (oldest + s.cfg.switchWindowSeconds)) := by
    simp only [recordColdLoad, h, if_pos hfull]
  rw [hmax]
  exact ⟨(le_max_left _ _).trans (le_max_right _ _), (le_max_right _ _).trans (le_max_right _ _)⟩

/-! ### The successes of a run -/

/-- What the scheduler knows of the successes `past` of its run, the last one first. -/
structure Limited (s : Scheduler) (past : List Time) : Prop where
  limit : 0 < s.cfg.maxSwitchesInWindow
  sorted : s.switchSuccesses.Pairwise (· ≤ ·)
  le_now : ∀ x ∈ s.switchSuccesses, x ≤ s.now
  recent : ∀ q : Time → Bool, (∀ x, q x = true → s.now - s.cfg.switchWindowSeconds ≤ x) →
    past.countP q = s.switchSuccesses.countP q
  clear : ∀ t, s.now ≤ t → s.coldLoadNotBefore ≤ t →
    past.countP (fun x => t - s.cfg.switchWindowSeconds < x) < s.cfg.maxSwitchesInWindow
  cooled : ∀ newer x older, past = newer ++ x :: older →
    s.cfg.maxSwitchesInWindow ≤
      (x :: older).countP (fun y => x - s.cfg.switchWindowSeconds ≤ y) →
    x + s.cfg.cooldownSeconds ≤ s.coldLoadNotBefore

namespace Limited

variable {past : List Time}

lemma of_fresh (h : System.Fresh s) : s.Limited [] where
  limit := h.limit
  sorted := h.successes ▸ .nil
  le_now := by simp [h.successes]
  recent := by simp [h.successes]
  clear _ _ _ := h.limit
  cooled _ _ _ hpast := absurd hpast (by simp)

/-- Time may pass, and nothing else the limit looks at may change. -/
lemma frame (h : s.Limited past) (hcfg : s'.cfg = s.cfg) (hnow : s.now ≤ s'.now)
    (hcold : s'.switchSuccesses = s.switchSuccesses ∧
      s'.coldLoadNotBefore = s.coldLoadNotBefore) : s'.Limited past where
  limit := hcfg ▸ h.limit
  sorted := hcold.1 ▸ h.sorted
  le_now := by
    rw [hcold.1]
    exact fun x hx => (h.le_now x hx).trans hnow
  recent := by
    rw [hcfg, hcold.1]
    exact fun q hq => h.recent q fun x hx => by linarith [hq x hx]
  clear := by
    rw [hcfg, hcold.2]
    exact fun t ht hnb => h.clear t (hnow.trans ht) hnb
  cooled := by
    rw [hcfg, hcold.2]
    exact h.cooled

/-- A success filed while the window has room for it. -/
lemma record (h : s.Limited past)
    (hroom : s.switchSuccesses.countP (fun x => s.now - x ≤ s.cfg.switchWindowSeconds) <
      s.cfg.maxSwitchesInWindow) : s.recordColdLoad.Limited (s.now :: past) := by
  have hw : Within { cold := true } s s.recordColdLoad :=
    (s.recordColdLoad_turn rfl : Turn default [] _ _ _ _).within
  have hsorted : (s.switchSuccesses ++ [s.now]).Pairwise (· ≤ ·) := by
    rw [List.pairwise_append]
    refine ⟨h.sorted, List.pairwise_singleton _ _, fun x hx y hy => ?_⟩
    rw [List.mem_singleton.mp hy]
    exact h.le_now x hx
  have hsub := trimSuccesses_sublist s.now s.cfg.switchWindowSeconds (s.switchSuccesses ++ [s.now])
  have hrecent : ∀ q : Time → Bool, (∀ x, q x = true → s.now - s.cfg.switchWindowSeconds ≤ x) →
      (s.now :: past).countP q = s.recordColdLoad.switchSuccesses.countP q := by
    intro q hq
    rw [recordColdLoad_successes, trimSuccesses_countP hq, List.countP_append, ← h.recent q hq,
      List.countP_cons, List.countP_singleton]
  have hlen : s.recordColdLoad.switchSuccesses.length ≤ s.cfg.maxSwitchesInWindow := by
    rw [recordColdLoad_successes, trimSuccesses_length hsorted, List.countP_append,
      List.countP_singleton]
    split_ifs <;> omega
  refine ⟨hw.cfg ▸ h.limit, ?_, ?_, ?_, ?_, ?_⟩
  · rw [recordColdLoad_successes]
    exact hsorted.sublist hsub
  · rw [recordColdLoad_successes, hw.now]
    intro x hx
    rcases List.mem_append.mp (hsub.subset hx) with hx | hx
    · exact h.le_now x hx
    · exact (List.mem_singleton.mp hx).le
  · rw [hw.cfg, hw.now]
    exact hrecent
  · rw [hw.cfg, hw.now]
    intro t ht hnb
    rw [hrecent _ fun x hx => by
      rw [decide_eq_true_eq] at hx
      linarith]
    cases hD : s.recordColdLoad.switchSuccesses with
    | nil => exact h.limit
    | cons oldest rest =>
      rw [hD] at hlen
      rcases lt_or_ge (oldest :: rest).length s.cfg.maxSwitchesInWindow with hlt | hfull
      · exact List.countP_le_length.trans_lt hlt
      · -- the window is full, and its oldest success has left it at `t`
        have hold := (recordColdLoad_full hD hfull).2.trans hnb
        rw [List.countP_cons_of_neg (by simpa using by linarith)]
        exact List.countP_le_length.trans_lt (Nat.lt_of_succ_le hlen)
  · rw [hw.cfg]
    intro newer x older hpast hfull
    cases newer with
    | cons y newer =>
      cases hpast
      exact (h.cooled newer x older rfl hfull).trans s.le_recordColdLoad
    | nil =>
      cases hpast
      rw [hrecent _ fun y hy => of_decide_eq_true hy] at hfull
      have hle := hfull.trans List.countP_le_length
      cases hD : s.recordColdLoad.switchSuccesses with
      | nil =>
        rw [hD] at hle
        exact absurd h.limit (not_lt.mpr hle)
      | cons oldest rest => exact (recordColdLoad_full hD (hD ▸ hle)).1

end Limited

end Scheduler

/-- A verdict that is no success records nothing. -/
lemma FinishLoad.verdict_cold {s : Scheduler} {op : Operation} {obs : Observation}
    (h : ¬ (obs.presence = .running ∧ obs.healthy = true) ∨
      (s.book.loaded op s.now).2.isOk = false) :
    (verdict s op obs).next.switchSuccesses = s.switchSuccesses ∧
      (verdict s op obs).next.coldLoadNotBefore = s.coldLoadNotBefore := by
  unfold verdict
  split_ifs with hrun
  · split
    · rename_i heq
      rw [heq] at h
      exact absurd h (by simp [hrun, Except.isOk, Except.toBool])
    · exact ⟨rfl, rfl⟩
    · exact ⟨rfl, rfl⟩
  · split <;> exact ⟨rfl, rfl⟩

/-! ### Runs -/

namespace System

variable {w w' : System} {a : Act} {past : List Time}

/-- The action is the section of `acquire` that begins a cold load. -/
def coldStart (w : System) : Act → Bool
  | .resume t .go =>
    match w.tasks.get? t with
    | some (.running true (.acquire c (.load sample admitted))) =>
      Acquire.beginsLoad w.sched c sample admitted
    | _ => false
  | _ => false

/-- The action writes back a load that succeeded. -/
def coldSuccess (w : System) : Act → Bool
  | .resume t .go =>
    match w.tasks.get? t with
    | some (.running true (.finishLoad op _ (.verdict obs))) =>
      decide (obs.presence = .running ∧ obs.healthy = true) &&
        (w.sched.book.loaded op w.sched.now).2.isOk
    | _ => false
  | _ => false

/-- A step, with the times of the cold loads that have succeeded, the last one first. -/
def pastStep (p : System × List Time) (a : Act) : Option (System × List Time) :=
  (p.1.step a).map fun w => (w, if p.1.coldSuccess a then p.1.sched.now :: p.2 else p.2)

/-- `x` is in the window `(now - window, now]`. -/
def inWindow (w : System) (x : Time) : Bool :=
  w.sched.now - w.sched.cfg.switchWindowSeconds < x ∧ x ≤ w.sched.now

/-- A cold load begins only at a time at which it is eligible, and a success finds room in the
window. -/
def Paced (w : System) (a : Act) : Prop :=
  (w.coldStart a = true → w.sched.coldLoadNotBefore ≤ w.sched.now) ∧
    (w.coldSuccess a = true →
      w.sched.switchSuccesses.countP (fun x => w.sched.now - x ≤ w.sched.cfg.switchWindowSeconds) <
        w.sched.cfg.maxSwitchesInWindow)

instance (w : System) (a : Act) : Decidable (w.Paced a) :=
  inferInstanceAs (Decidable (_ ∧ _))

/-- A success is recorded by the step that writes it back. -/
lemma commit_coldSuccess {t : TaskId} {inp : Input} {co : Co} {e : Effect Co Value}
    (ht : w.tasks.get? t = some (.running true co)) (he : co.step w.sched w.view inp = some e)
    (h : w.coldSuccess (.resume t inp) = true) :
    ∃ book, e.next = ({ w.sched with book := book } : Scheduler).recordColdLoad := by
  cases inp <;> try cases h
  simp only [coldSuccess, ht] at h
  split at h
  · rename_i op deadline obs hco
    cases hco
    simp only [Bool.and_eq_true, decide_eq_true_eq] at h
    cases he
    simp only [FinishLoad.verdict, if_pos h.1]
    cases hl : w.sched.book.loaded op w.sched.now with
    | mk book r =>
      rw [hl] at h
      cases r with
      | error e => cases h.2
      | ok u => exact ⟨book, rfl⟩
  · cases h

/-- No other step touches what the limit looks at. -/
lemma commit_not_coldSuccess {t : TaskId} {inp : Input} {co : Co} {e : Effect Co Value}
    (ht : w.tasks.get? t = some (.running true co)) (he : co.step w.sched w.view inp = some e)
    (h : w.coldSuccess (.resume t inp) = false) :
    e.next.switchSuccesses = w.sched.switchSuccesses ∧
      e.next.coldLoadNotBefore = w.sched.coldLoadNotBefore := by
  by_cases hload : ∃ op deadline pc, co = .finishLoad op deadline pc
  · obtain ⟨op, deadline, pc, rfl⟩ := hload
    obtain ⟨e', he', rfl⟩ := Option.map_eq_some_iff.mp he
    cases pc with
    | verdict obs =>
      cases inp <;> cases he'
      simp only [coldSuccess, ht, Bool.and_eq_false_iff, decide_eq_false_iff_not] at h
      exact FinishLoad.verdict_cold h
    | _ => exact (FinishLoad.step_turn he').within.cold rfl
  · exact (Co.step_within he).cold
      (co.footprint_rare.1 fun op deadline pc hco => hload ⟨op, deadline, pc, hco⟩)

/-- The invariant of a paced run. -/
lemma Limited.step (h : w.sched.Limited past) (hok : w.Paced a) (hw : Took w a w') :
    w'.sched.Limited (if w.coldSuccess a then w.sched.now :: past else past) := by
  cases hw with
  | tick d hd => exact h.frame rfl (le_add_of_nonneg_right hd) ⟨rfl, rfl⟩
  | resume t inp co e ht he =>
    rw [commit_sched]
    split_ifs with hs
    · obtain ⟨book, hnext⟩ := commit_coldSuccess ht he hs
      rw [hnext]
      exact Scheduler.Limited.record (s := { w.sched with book := book })
        (h.frame rfl le_rfl ⟨rfl, rfl⟩) (hok.2 hs)
    · have hw := Co.step_within he
      exact h.frame hw.cfg hw.now.ge (commit_not_coldSuccess ht he (by simpa using hs))
  | start t co ht =>
    rw [if_neg (by simp [coldSuccess, ht])]
    exact h
  | _ => exact h

/-- The rate limit. In a run in which a cold load begins only while cold requests are eligible, and
each success is filed while fewer than `max_switches_in_window` lie within the window, `acquire`
begins a cold load only when fewer than that many have succeeded in the window before it, and not
before the cooldown of a success that filled the window. -/
theorem cold_load_rate {w₀ : System} (h₀ : Starts w₀)
    (h : Run pastStep (fun p a => p.1.Paced a) (w₀, []) (w, past)) (hok : w.Paced a)
    (hstart : w.coldStart a = true) :
    past.countP w.inWindow < w.sched.cfg.maxSwitchesInWindow ∧
      ∀ newer x older, past = newer ++ x :: older →
        w.sched.cfg.maxSwitchesInWindow ≤
          (x :: older).countP (fun y => x - w.sched.cfg.switchWindowSeconds ≤ y) →
        x + w.sched.cfg.cooldownSeconds ≤ w.sched.now := by
  have hlim : w.sched.Limited past := by
    refine h.invariant (I := fun p => p.1.sched.Limited p.2) ?_ ?_
    · rintro ⟨w, past⟩ a ⟨w', past'⟩ hI hok hstep
      obtain ⟨w'', hw, heq⟩ := Option.map_eq_some_iff.mp hstep
      cases heq
      exact Limited.step hI hok (took_of_step hw)
    · exact .of_fresh h₀.fresh
  have hnb := hok.1 hstart
  refine ⟨lt_of_le_of_lt (List.countP_mono_left ?_) (hlim.clear _ le_rfl hnb), ?_⟩
  · intro x _ hx
    simp only [inWindow, decide_eq_true_eq] at hx ⊢
    exact hx.1
  · intro newer x older hpast hfull
    exact (hlim.cooled newer x older hpast hfull).trans hnb

/-! ### A deployment with one switch in ten seconds -/

def rateSpecs : Dict ModelId Registration :=
  ⟨[("chat", .v1 { modelId := "chat", reservedBytes := 400 }),
    ("embed", .v1 { modelId := "embed", reservedBytes := 300 }),
    ("rerank", .v1 { modelId := "rerank", reservedBytes := 100 })], by decide⟩

def rateBook : Book :=
  [.bootstrapStopped "chat", .bootstrapStopped "embed", .bootstrapStopped "rerank"].foldl Book.apply
    (Book.built deployedPolicy rateSpecs)

lemma rateBook_reachable : Book.Reachable deployedPolicy rateSpecs rateBook :=
  Book.built_reachable (by decide +kernel) _

def rateConfig : SchedulerConfig := { maxSwitchesInWindow := 1, cooldownSeconds := 1 }

def rated : System where
  sched := { cfg := rateConfig, book := rateBook, queue := {}, sessions := {}, now := 0 }

lemma rated_starts : Starts rated := by
  refine ⟨deployedPolicy, rateSpecs, rateBook, {}, {}, rateConfig, 0, rated.sched,
    rateBook_reachable, ?_, ?_, rfl⟩
  · simp [SessionManager.init, SessionPolicy.positive]
  · norm_num [Scheduler.init, RequestQueue.init, rateConfig, rated]

/-- Task `t` runs `acquire` for a model up to the section that begins its load. -/
def request (t : TaskId) (m : ModelId) (r : RequestId) (now : Time) : List Act :=
  [.call (.acquire { modelId := m, requestId := r, deadline := 600 }), go t,
   .resume t (.snapshot (.ok ⟨4000, 4000, now⟩)), .resume t (.guard (.ok true)), go t]

/-- Task `t` finishes a load with success. -/
def loads (t : TaskId) : List Act :=
  [go t, .resume t (.backend (.ok ⟨.running, true, none⟩)), go t, go t]

/-- Task `t` is granted its lease. -/
def served (t : TaskId) (now : Time) : List Act :=
  [.resume t (.snapshot (.ok ⟨4000, 4000, now⟩)), .resume t (.guard (.ok true)), go t, go t]

/-- One load succeeds at time 0, and the next one begins at time 10. -/
theorem cold_load_rate_respected : ∃ (w : System) (past : List Time), w.coldStart (go 2) = true ∧
    past = [0] ∧
    past.countP w.inWindow < w.sched.cfg.maxSwitchesInWindow := by
  obtain ⟨⟨w, past⟩, hrun, hstart, hok, hpast⟩ := exists_run_to pastStep
    (fun p a => decide (p.1.Paced a)) (rated, [])
    (request 0 "embed" "r" 0 ++ [go 0] ++ loads 1 ++ served 0 0 ++ [.tick 10] ++
      request 2 "chat" "s" 10)
    (fun p => p.1.coldStart (go 2) = true ∧ p.1.Paced (go 2) ∧ p.2 = [0]) (by decide +kernel)
  exact ⟨w, past, hstart, hpast,
    (cold_load_rate rated_starts (hrun.mono fun _ _ h => of_decide_eq_true h) hok hstart).1⟩

/-- Where the limit is one load in ten seconds, a load of "chat" that was found eligible begins
after the load of "embed" has succeeded. And once "embed" and "chat" have succeeded at 0 and 5,
having begun together, the time that is set is counted from the first: "rerank" may begin at 10.5,
and does. -/
theorem cold_load_rate_exceeded :
    (∃ (w : System) (past : List Time), Run pastStep (fun _ _ => True) (rated, []) (w, past) ∧
      w.coldStart (go 2) = true ∧ w.sched.cfg.maxSwitchesInWindow ≤ past.countP w.inWindow) ∧
    ∃ (w : System) (past : List Time), Run pastStep (fun _ _ => True) (rated, []) (w, past) ∧
      w.coldStart (go 4) = true ∧ w.sched.coldLoadNotBefore ≤ w.sched.now ∧
      w.sched.cfg.maxSwitchesInWindow ≤ past.countP w.inWindow := by
  constructor
  · obtain ⟨⟨w, past⟩, hrun, h⟩ := exists_run_to pastStep (fun _ _ => true) (rated, [])
      (request 0 "embed" "r" 0 ++ [go 0] ++ request 2 "chat" "s" 0 ++ loads 1)
      (fun p => p.1.coldStart (go 2) = true ∧
        p.1.sched.cfg.maxSwitchesInWindow ≤ p.2.countP p.1.inWindow)
      (by decide +kernel)
    exact ⟨w, past, hrun.mono fun _ _ _ => trivial, h⟩
  · obtain ⟨⟨w, past⟩, hrun, h⟩ := exists_run_to pastStep (fun _ _ => true) (rated, [])
      (request 0 "embed" "r" 0 ++ [go 0] ++ request 2 "chat" "s" 0 ++ [go 2] ++ loads 1 ++
        served 0 0 ++ [.tick 5] ++ loads 3 ++ served 2 5 ++ [.tick (11 / 2)] ++
        request 4 "rerank" "t" (21 / 2))
      (fun p => p.1.coldStart (go 4) = true ∧ p.1.sched.coldLoadNotBefore ≤ p.1.sched.now ∧
        p.1.sched.cfg.maxSwitchesInWindow ≤ p.2.countP p.1.inWindow)
      (by decide +kernel)
    exact ⟨w, past, hrun.mono fun _ _ _ => trivial, h⟩

end System

end ModelSwitch

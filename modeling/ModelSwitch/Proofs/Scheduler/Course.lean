import ModelSwitch.Proofs.Scheduler.Worker

/-!
# What every run of the scheduler keeps

The calls, the worker and the load and stop tasks interleave freely, but the book moves along its
own transitions only, and a session goes through its phases in one direction.
-/

namespace ModelSwitch

/-- How far a session has come. -/
def Phase.rank : Phase → ℕ
  | .preparing => 0
  | .active => 1
  | .draining | .blocked => 2
  | .closed => 3

/-- The same session, no earlier in its life. -/
structure SessionRecord.Course (r r' : SessionRecord) : Prop where
  model : r'.modelId = r.modelId
  hard : r'.hardDeadline = r.hardDeadline
  rank : r.phase.rank ≤ r'.phase.rank

lemma SessionRecord.Course.refl (r : SessionRecord) : r.Course r := ⟨rfl, rfl, le_rfl⟩

lemma SessionRecord.rank_le (r : SessionRecord) (h : r.phase ≠ .closed) : r.phase.rank ≤ 2 := by
  revert h
  cases r.phase <;> decide

/-- No move of a task leads a session back. -/
lemma RecordMove.rank_le {s : Scheduler} {co : Co} {session : SessionId} {r r' : SessionRecord}
    (h : RecordMove s co session r r') : r.phase.rank ≤ r'.phase.rank := by
  cases h with
  | heartbeat | yield => exact le_rfl
  | expireWaiting h | activate h =>
    rw [h]
    exact Nat.zero_le _
  | close h | block h | finishBlocked h => exact r.rank_le h
  | expire _ h => exact r.rank_le h
  | closeLate h | finishClosed h => exact (r.rank_le h).trans (Nat.le_succ 2)

namespace SessionManager

variable {sm sm' sm'' : SessionManager}

/-- No session is lost, and each of them keeps its course. -/
def Onward (sm sm' : SessionManager) : Prop :=
  ∀ u r, sm.records.get? u = some r → ∃ r', sm'.records.get? u = some r' ∧ r.Course r'

lemma Onward.of_records (h : sm'.records = sm.records) : Onward sm sm' :=
  fun u r hr => ⟨r, by rw [h, hr], .refl r⟩

lemma Onward.trans (h : Onward sm sm') (h' : Onward sm' sm'') : Onward sm sm'' := by
  intro u r hr
  obtain ⟨r₁, hr₁, hc⟩ := h u r hr
  obtain ⟨r₂, hr₂, hc'⟩ := h' u r₁ hr₁
  exact ⟨r₂, hr₂, hc'.model.trans hc.model, hc'.hard.trans hc.hard, hc.rank.trans hc'.rank⟩

lemma Update.onward {session : SessionId} {r r' : SessionRecord} (h : Update sm sm' session r r')
    (hrank : r.phase.rank ≤ r'.phase.rank) : Onward sm sm' := by
  intro u x hx
  rw [h.records, Dict.get?_set]
  split_ifs with heq
  · subst heq
    cases h.get.symm.trans hx
    exact ⟨r', rfl, h.modelId, h.hard, hrank⟩
  · exact ⟨x, hx, .refl x⟩

end SessionManager

lemma Touch.onward {s : Scheduler} {co : Co} {sm' : SessionManager} (h : Touch s co sm') :
    s.sessions.Onward sm' := by
  cases h with
  | same hr => exact .of_records hr
  | create a _ queue queue' h =>
    obtain ⟨record, hnew, hrecords, -⟩ := SessionManager.create_ok h
    intro u r hr
    refine ⟨r, ?_, .refl r⟩
    rw [hrecords, Dict.get?_set_ne _ _ (by rintro rfl; cases hnew.symm.trans hr), hr]
  | moved session r r' hm hu => exact hu.onward hm.rank_le
  | shutdown _ _ h =>
    induction h with
    | refl => exact .of_records rfl
    | tail _ hstep ih =>
      obtain ⟨session, r, now, reason, hc, hu⟩ := hstep
      exact ih.trans (hu.onward (r.rank_le hc))

namespace System

variable {w w' : System}

lemma run_onward (h : Run System.step (fun _ _ => True) w w') :
    Book.Path (fun _ => True) w.sched.book w'.sched.book ∧
      w.sched.sessions.Onward w'.sched.sessions := by
  refine h.invariant (I := fun w' => Book.Path (fun _ => True) w.sched.book w'.sched.book ∧
    w.sched.sessions.Onward w'.sched.sessions) ?_ ⟨.refl _, .of_records rfl⟩
  intro w₁ a w₂ hI _ hstep
  refine sched_step (J := fun s => Book.Path (fun _ => True) w.sched.book s.book ∧
    w.sched.sessions.Onward s.sessions) hI (took_of_step hstep) (fun _ _ _ => hI) ?_
  rintro t inp co e - - he
  exact ⟨hI.1.trans ((Co.step_within he).path.mono fun _ _ => trivial),
    hI.2.trans (Co.step_touch he).onward⟩

/-- **Memory is accounted for in every run of the scheduler.** Under any interleaving of the calls
and tasks the book moves along its transitions, so that it keeps its representation invariant, its
budget and its registrations, and the budget is not oversold once it is not. -/
theorem Reach.accounted (h : Reach (fun _ _ => True) w)
    (hrun : Run System.step (fun _ _ => True) w w') :
    w'.sched.book.RepInv ∧ w'.sched.book.ledger = w.sched.book.ledger ∧
      w'.sched.book.policy = w.sched.book.policy ∧
      (w.sched.book.committed ≤ w.sched.book.policy.modelBudget →
        w'.sched.book.committed ≤ w'.sched.book.policy.modelBudget) := by
  have hpos : w.sched.book.LedgerPos := by
    obtain ⟨w₀, h₀, hrun₀⟩ := h
    obtain ⟨_, _, hb⟩ := h₀.fresh.book
    rw [Book.LedgerPos, (run_onward hrun₀).1.static.1]
    exact hb.ledgerPos
  have hpath := (run_onward hrun).1
  exact ⟨(hpath.inv h.book_inv).repInv, hpath.static.1, hpath.static.2.1,
    hpath.committed_le h.book_inv hpos⟩

theorem accounted_deployed : deployed.sched.book.committed = 0 ∧
    ∀ w, Run System.step (fun _ _ => True) deployed w →
      w.sched.book.committed ≤ w.sched.book.policy.modelBudget := by
  refine ⟨by decide +kernel, fun w hrun => ?_⟩
  exact (Reach.accounted ⟨_, deployed_starts, .refl _⟩ hrun).2.2.2 (by decide +kernel)

/-- **Sessions go one way.** In every run of the scheduler there is at most one `ACTIVE` session; no
session is lost or changes its model or hard deadline; and a session that was active, draining,
blocked or closed does not come back to an earlier phase. -/
theorem Reach.sessions_onward (h : Reach (fun _ _ => True) w)
    (hrun : Run System.step (fun _ _ => True) w w') :
    (∀ u u' r r', w'.sched.sessions.records.get? u = some r → r.phase = .active →
      w'.sched.sessions.records.get? u' = some r' → r'.phase = .active → u = u') ∧
    ∀ u r, w.sched.sessions.records.get? u = some r →
      ∃ r', w'.sched.sessions.records.get? u = some r' ∧ r.Course r' := by
  refine ⟨fun u u' r r' hr hact hr' hact' => ?_, (run_onward hrun).2⟩
  have hinv := (h.run hrun).sessions_inv
  have hu := (hinv.active u).mpr ⟨r, hr, hact⟩
  exact Option.some.inj (hu.symm.trans ((hinv.active u').mpr ⟨r', hr', hact'⟩))

/-- A session that has been registered is known from then on, with its model. -/
theorem sessions_onward_registered : ∃ w, w.phaseOf "A" = some .preparing ∧
    ∀ w', Run System.step (fun _ _ => True) w w' →
      ∃ r, w'.sched.sessions.records.get? "A" = some r ∧ r.modelId = "chat" := by
  obtain ⟨w, hrun, hphase, hmodel⟩ := exists_run_to System.step (fun _ _ => true) deployed
    (activateChat.take 3) (fun w => w.phaseOf "A" = some .preparing ∧
      (w.sched.sessions.records.get? "A").map (·.modelId) = some "chat") (by decide +kernel)
  refine ⟨w, hphase, fun w' hrun' => ?_⟩
  obtain ⟨r, hr, hchat⟩ := Option.map_eq_some_iff.mp hmodel
  obtain ⟨r', hr', hcourse⟩ := (Reach.sessions_onward
    ⟨_, deployed_starts, hrun.mono fun _ _ _ => trivial⟩
    hrun').2 "A" r hr
  exact ⟨r', hr', hcourse.model.trans hchat⟩

end System

end ModelSwitch

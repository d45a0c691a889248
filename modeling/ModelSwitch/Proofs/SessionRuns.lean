import ModelSwitch.Proofs.Sessions

/-!
# Sequences of calls of the session manager

Whatever is called, in whatever order and whether it raises or not: one session is active at most, a
session that has left the open phases does not come back, and no heartbeat revives one that has
expired.
-/

namespace ModelSwitch

namespace SessionManager

variable {sm sm' : SessionManager} {session u : SessionId} {r r' record record' : SessionRecord}
  {now : Time}

/-- The active session is the one whose record is `ACTIVE`. -/
def Sole (sm : SessionManager) : Prop :=
  ∀ u, sm.activeId = some u ↔ ∃ r, sm.records.get? u = some r ∧ r.phase = .active

/-- What a call at `now` may do to a record that is on file. A record whose time is up is not
refreshed any more. -/
structure Ages (now : Time) (r r' : SessionRecord) : Prop where
  hard : r'.hardDeadline = r.hardDeadline
  closed : r.phase = .closed → r'.phase = .closed
  released : r.phase = .draining ∨ r.phase = .blocked → r'.phase ≠ .active
  prepared : r.phase ≠ .preparing → r'.phase ≠ .preparing
  expired : r.phase = .active → r.expiresAt ≤ now → r'.phase = .active → r'.expiresAt = r.expiresAt

lemma Ages.refl (now : Time) (r : SessionRecord) : Ages now r r where
  hard := rfl
  closed := id
  released := by rintro (h | h) <;> simp [h]
  prepared := id
  expired _ _ _ := rfl

/-- A record that has left the active phase for good meets the conditions on its expiry. -/
lemma Ages.of_phase (hhard : r'.hardDeadline = r.hardDeadline)
    (hclosed : r.phase = .closed → r'.phase = .closed) (hactive : r'.phase ≠ .active)
    (hprep : r'.phase ≠ .preparing) : Ages now r r' where
  hard := hhard
  closed := hclosed
  released _ := hactive
  prepared _ := hprep
  expired _ _ h := absurd h hactive

/-- A call replaces one record, which ages, or files a new one, which is being prepared. -/
inductive Turn (now : Time) (sm sm' : SessionManager) : Prop
  | same (h : sm' = sm)
  | update (session : SessionId) (record record' : SessionRecord)
      (h : Update sm sm' session record record') (hages : Ages now record record')
  | create (session : SessionId) (record : SessionRecord) (hnew : sm.records.get? session = none)
      (hrecords : sm'.records = sm.records.set session record) (hphase : record.phase = .preparing)
      (hactive : sm'.activeId = sm.activeId)

lemma call_turn {op : SessionOp} (h : op.call sm now = .ok sm') : Turn now sm sm' := by
  cases op with
  | create session model client queue priority hard =>
    have hcreate : sm.create session model client now queue priority hard =
        ((sm.create session model client now queue priority hard).1, .ok sm') := Prod.ext rfl h
    obtain ⟨record, hnew, hrecords, -, -, hphase, -, -, hactive, -⟩ := create_ok hcreate
    exact .create session record hnew hrecords hphase hactive
  | heartbeat session =>
    obtain ⟨record, hopen, hu⟩ := heartbeat_ok h
    refine .update session _ _ hu ⟨rfl, id, ?_, id, ?_⟩
    · rintro (hp | hp) <;> simp [hp] at hopen
    · intro hactive hexpired _
      -- an expired session is refused
      rcases hopen with hp | ⟨-, hlive⟩
      · simp [hp] at hactive
      · exact absurd hexpired hlive.not_ge
  | markActive session =>
    obtain ⟨record, hp, hu⟩ := markActive_ok h
    refine .update session _ _ hu ⟨rfl, ?_, ?_, ?_, ?_⟩ <;> simp [hp]
  | beginDrain session reason =>
    obtain ⟨record, ⟨-, -, hsame⟩ | ⟨hopen, hu⟩⟩ := beginDrain_ok h
    · exact .same hsame
    · exact .update session _ _ hu (.of_phase rfl (fun hc => absurd hc hopen) nofun nofun)
  | markBlocked session reason =>
    obtain ⟨record, hopen, hu⟩ := markBlocked_ok h
    exact .update session _ _ hu (.of_phase rfl (fun hc => absurd hc hopen) nofun nofun)
  | markClosed session =>
    obtain ⟨record, ⟨-, -, hsame⟩ | ⟨-, hu⟩⟩ := markClosed_ok h
    · exact .same hsame
    · exact .update session _ _ hu (.of_phase rfl (fun _ => rfl) nofun nofun)
  | yieldPrepare session =>
    obtain ⟨record, hp, hu⟩ := yieldPrepare_ok h
    exact .update session _ _ hu ⟨rfl, id, by simp [hp], id, fun _ _ _ => rfl⟩

/-! ### One active session -/

lemma Update.sole (h : Update sm sm' session record record') (hs : sm.Sole) : sm'.Sole := by
  intro u
  by_cases hu : u = session
  · subst hu
    rw [h.get_new]
    simp only [Option.some.injEq, exists_eq_left']
    constructor
    · intro hactive
      rcases h.active_stays hactive with hphase | ⟨hold, hphase⟩
      · exact hphase
      · obtain ⟨r, hr, hp⟩ := (hs u).mp hold
        cases h.get.symm.trans hr
        rw [hphase, hp]
    · intro hphase
      rcases h.active_set hphase with hactive | ⟨hsame, hp⟩
      · exact hactive
      · rw [hsame]
        exact (hs u).mpr ⟨record, h.get, hp⟩
  · rw [h.active_other u hu, hs u, h.records, Dict.get?_set_ne _ _ hu]

lemma Turn.sole (h : Turn now sm sm') (hs : sm.Sole) : sm'.Sole := by
  cases h with
  | same h => exact h ▸ hs
  | update session record record' h _ => exact h.sole hs
  | create session record hnew hrecords hphase hactive =>
    intro u
    rw [hactive, hs u, hrecords]
    by_cases hu : u = session
    · subst hu
      rw [Dict.get?_set_self, hnew]
      simp [hphase]
    · rw [Dict.get?_set_ne _ _ hu]

lemma Turn.ages (h : Turn now sm sm') (hr : sm.records.get? u = some r) :
    ∃ r', sm'.records.get? u = some r' ∧ Ages now r r' := by
  cases h with
  | same h => exact ⟨r, h ▸ hr, .refl now r⟩
  | update session record record' h hages =>
    by_cases hu : u = session
    · subst hu
      cases h.get.symm.trans hr
      exact ⟨record', h.get_new, hages⟩
    · refine ⟨r, ?_, .refl now r⟩
      rw [h.records, Dict.get?_set_ne _ _ hu, hr]
  | create session record hnew hrecords _ _ =>
    have hu : u ≠ session := by
      rintro rfl
      rw [hnew] at hr
      cases hr
    refine ⟨r, ?_, .refl now r⟩
    rw [hrecords, Dict.get?_set_ne _ _ hu, hr]

end SessionManager

namespace ClockedSessions

open SessionManager

variable {w w' : ClockedSessions} {u : SessionId} {r r' : SessionRecord}

lemma step_turn {a : Time × SessionOp} (h : w.step a = some w') :
    w.now ≤ w'.now ∧ SessionManager.Turn w'.now w.manager w'.manager := by
  obtain ⟨now, op⟩ := a
  simp only [step] at h
  split_ifs at h with hlt
  split at h <;> cases h
  · exact ⟨not_lt.mp hlt, call_turn ‹_›⟩
  · exact ⟨not_lt.mp hlt, .same rfl⟩

/-- The systems that follow one another in some sequence of calls. -/
abbrev Calls (w w' : ClockedSessions) : Prop := Run step (fun _ _ => True) w w'

/-- What holds of a record from one moment on. -/
structure Later (w : ClockedSessions) (r : SessionRecord) (w' : ClockedSessions)
    (r' : SessionRecord) : Prop where
  clock : w.now ≤ w'.now
  hard : r'.hardDeadline = r.hardDeadline
  closed : r.phase = .closed → r'.phase = .closed
  released : r.phase = .draining ∨ r.phase = .blocked → r'.phase ≠ .active
  prepared : r.phase ≠ .preparing → r'.phase ≠ .preparing
  expired : r.phase = .active → r.expiresAt ≤ w.now → r'.phase = .active → r'.expiresAt ≤ w'.now

lemma Later.refl (w : ClockedSessions) (r : SessionRecord) : Later w r w r where
  clock := le_rfl
  hard := rfl
  closed := id
  released := by rintro (h | h) <;> simp [h]
  prepared := id
  expired _ h _ := h

lemma Later.step {w₁ w₂ : ClockedSessions} {r₁ r₂ : SessionRecord} (h : Later w r w₁ r₁)
    (hclock : w₁.now ≤ w₂.now) (hages : Ages w₂.now r₁ r₂) : Later w r w₂ r₂ := by
  refine ⟨h.clock.trans hclock, hages.hard.trans h.hard, fun hr => hages.closed (h.closed hr),
    fun hr => ?_, fun hr => hages.prepared (h.prepared hr), fun hr hexp hactive => ?_⟩
  · have hprep : r₁.phase ≠ .preparing := h.prepared (by rcases hr with hr | hr <;> simp [hr])
    cases hphase : r₁.phase with
    | preparing => exact absurd hphase hprep
    | active => exact absurd hphase (h.released hr)
    | closed => simp [hages.closed hphase]
    | draining => exact hages.released (.inl hphase)
    | blocked => exact hages.released (.inr hphase)
  · have hprep : r₁.phase ≠ .preparing := h.prepared (by simp [hr])
    cases hphase : r₁.phase with
    | preparing => exact absurd hphase hprep
    | active =>
      have hold : r₁.expiresAt ≤ w₂.now := (h.expired hr hexp hphase).trans hclock
      rw [hages.expired hphase hold hactive]
      exact hold
    | closed =>
      rw [hages.closed hphase] at hactive
      cases hactive
    | draining => exact absurd hactive (hages.released (.inl hphase))
    | blocked => exact absurd hactive (hages.released (.inr hphase))

lemma Calls.later (h : Calls w w') (hr : w.manager.records.get? u = some r) :
    ∃ r', w'.manager.records.get? u = some r' ∧ Later w r w' r' := by
  induction h with
  | refl => exact ⟨r, hr, .refl w r⟩
  | tail a _ _ hstep ih =>
    obtain ⟨r₁, hr₁, hlater⟩ := ih
    obtain ⟨hclock, hturn⟩ := step_turn hstep
    obtain ⟨r₂, hr₂, hages⟩ := hturn.ages hr₁
    exact ⟨r₂, hr₂, hlater.step hclock hages⟩

lemma Calls.sole (h : Calls w w') (hs : w.manager.Sole) : w'.manager.Sole :=
  h.invariant (I := fun w => w.manager.Sole)
    (fun _ _ _ hs _ hstep => (step_turn hstep).2.sole hs) hs

/-- The session manager over any sequence of calls: one session is active at most and it is the one
on record; a closed session stays closed and one that is draining or blocked is neither prepared nor
activated again; the expiry never passes the hard deadline and a session that has expired by `now`
is not live again after any calls from `now` on; and no session may prepare while another one holds
the model. -/
theorem Calls.session_invariants {policy : SessionPolicy} {sm : SessionManager} {start : Time}
    (hinit : SessionManager.init policy = .ok sm) (h : Calls ⟨sm, start⟩ w) :
    (∀ u, w.manager.activeId = some u ↔
      ∃ r, w.manager.records.get? u = some r ∧ r.phase = .active) ∧
    (∀ now w' u r, Calls ⟨w.manager, now⟩ w' → w.manager.records.get? u = some r →
      ∃ r', w'.manager.records.get? u = some r' ∧
        (r.phase = .closed → r'.phase = .closed) ∧
        (r.phase = .draining ∨ r.phase = .blocked →
          r'.phase ≠ .active ∧ r'.phase ≠ .preparing) ∧
        r'.hardDeadline = r.hardDeadline ∧ r'.expiresAt ≤ r'.hardDeadline ∧
        (r.phase = .active → r.expiresAt ≤ now →
          ∀ moment, w'.now ≤ moment → w'.manager.isLive u moment = false)) ∧
    (∀ u now r, w.manager.candidate u now = some r →
      ∀ u' r', w.manager.records.get? u' = some r' →
        r'.phase ≠ .active ∧ r'.phase ≠ .draining ∧ r'.phase ≠ .blocked) := by
  refine ⟨?_, fun now w' u r hcalls hr => ?_, fun u now r hc u' r' hr' => ?_⟩
  · refine h.sole ?_
    simp only [SessionManager.init] at hinit
    split_ifs at hinit
    cases hinit
    exact fun u => ⟨nofun, fun ⟨_, hr, _⟩ => nomatch hr⟩
  · obtain ⟨r', hr', hlater⟩ := hcalls.later hr
    refine ⟨r', hr', hlater.closed, fun hp => ⟨hlater.released hp, hlater.prepared ?_⟩, hlater.hard,
      min_le_left _ _, fun hactive hexp moment hmoment => ?_⟩
    · rcases hp with hp | hp <;> simp [hp]
    · rw [← Bool.not_eq_true, isLive_iff]
      rintro ⟨r₁, hr₁, hactive₁, hlive⟩
      cases hr'.symm.trans hr₁
      exact absurd (hlive.trans_le ((hlater.expired hactive hexp hactive₁).trans hmoment))
        (lt_irrefl _)
  · have hfree := (candidate_isSome (Option.isSome_of_eq_some hc)).2 u' r' hr'
    refine ⟨?_, ?_, ?_⟩ <;> intro hp <;> simp [hp, Phase.holding] at hfree

/-- The session is activated at 1, expires at 31 and beats in vain at 40. -/
theorem session_not_revived :
    ∃ w w' : ClockedSessions, Calls ⟨{}, 0⟩ w ∧ Calls ⟨w.manager, 40⟩ w' ∧
      w.manager.isLive "s" 1 = true ∧ w'.manager.isLive "s" 40 = false := by
  have htrace : ((exec step ⟨{}, 0⟩ [(0, .create "s" "m" "c" {} 0 none), (1, .markActive "s")]).any
      fun w => w.manager.isLive "s" 1 && (w.manager.records.get? "s").any
        (fun r => r.phase = .active && r.expiresAt ≤ 40) &&
        (exec step ⟨w.manager, 40⟩ [(40, .heartbeat "s")]).any (·.now ≤ 40)) = true := by
    decide +kernel
  obtain ⟨w, hw, htest⟩ := (Option.any_eq_true _ _).mp htrace
  simp only [Bool.and_eq_true, Option.any_eq_true, decide_eq_true_eq] at htest
  obtain ⟨⟨hlive, r, hr, hactive, hexp⟩, w', hw', hnow⟩ := htest
  have hinit : SessionManager.init {} = .ok {} := if_pos (by decide +kernel)
  have hcalls : Calls ⟨{}, 0⟩ w := run_of_exec hw
  have hcalls' : Calls ⟨w.manager, 40⟩ w' := run_of_exec hw'
  obtain ⟨-, hlater, -⟩ := Calls.session_invariants hinit hcalls
  obtain ⟨r', -, -, -, -, -, hdead⟩ := hlater 40 w' "s" r hcalls' hr
  exact ⟨w, w', hcalls, hcalls', hlive, hdead hactive hexp 40 hnow⟩

end ClockedSessions

end ModelSwitch

import ModelSwitch.Proofs.Execution.Books

/-!
# Every granted lease is released once

The leases of the service are in custody: a grant takes a lease, `_run` files it with its
execution, and a teardown or the shared stop gives it back. A lease is never released twice. It is
released at all unless it is lost on the way: because the execution was settled before the lease
could be filed, or because a task ends that still has to tear down.
-/

namespace ModelSwitch.Execution

/-- A lease of the scheduler. -/
def Resource.lease : Resource Lease where
  slot := Record.lease
  shut := Record.leaseReleased
  entry
    | .granted id lease => some (.took id lease)
    | .release lease _ => some (.gave lease)
    | _ => none

namespace Service

/-- The books of the leases. -/
def leases (s : Service) : Custody ExecutionId Lease := s.books .lease

/-- How often a lease was passed to `scheduler.release`. -/
def releases (s : Service) (lease : Lease) : ℕ :=
  s.log.countP fun
    | .release l _ => l = lease
    | _ => false

lemma took_lease_iff {s : Service} {id : ExecutionId} {lease : Lease} :
    .took id lease ∈ s.leases.log ↔ .granted id lease ∈ s.log := by
  rw [leases, mem_books_iff]
  constructor
  · rintro ⟨e, he, heq⟩
    cases e <;> cases heq
    exact he
  · exact fun h => ⟨_, h, rfl⟩

lemma releases_eq (s : Service) (lease : Lease) : s.releases lease = s.leases.returns lease := by
  simp only [releases, Custody.returns, leases, books, List.count, List.countP_filterMap]
  refine List.countP_congr fun e _ => ?_
  cases e <;> simp [Resource.lease]

end Service

/-! ### What a move does to the books -/

section

variable {L : Licence} {p p' : List Debt × Service} {s : Service} {id : ExecutionId}
  {f : Record → Record}

lemma Record.mark_lease (r : Record) (code message : String) :
    (r.markReason code message).markCancelling.lease = r.lease ∧
      (r.markReason code message).markCancelling.leaseReleased = r.leaseReleased := by
  simp only [markReason, markCancelling]
  split <;> split <;> exact ⟨rfl, rfl⟩

lemma Settlement.lease {r r' : Record} (h : Settlement L id r r') :
    r'.lease = r.lease ∧ r'.leaseReleased = r.leaseReleased := by
  cases h <;> exact ⟨rfl, rfl⟩

lemma Edit.leases (h : Edit L id (s.get id) (f (s.get id))) :
    Custody.Step L.grants L.hands s.leases (s.update id f).leases := by
  have hstay : (f (s.get id)).lease = (s.get id).lease →
      (f (s.get id)).leaseReleased = (s.get id).leaseReleased →
        Custody.Step L.grants L.hands s.leases (s.update id f).leases := by
    intro hl hr
    rw [Service.leases, Service.leases, Service.books_update hl hr]
    exact .stay
  generalize hr' : f (s.get id) = r' at h hstay
  cases h with
  | quiet h => exact hstay (congrArg (·.lease) h) (congrArg (·.leaseReleased) h)
  | handOver lease h hs hc =>
    obtain ⟨r, hfile⟩ := Service.exists_of_claimed hc
    rw [Service.leases, Service.leases, Service.books_file (v := lease) hfile (by rw [hr']; rfl)
      (by rw [hr']; rfl)]
    exact .file id lease h
  | _ => exact hstay rfl rfl

lemma Move.leases (h : Move L p p') : Custody.Step L.grants L.hands p.2.leases p'.2.leases := by
  have hstay : p'.2.leases = p.2.leases → Custody.Step L.grants L.hands p.2.leases p'.2.leases :=
    fun heq => heq ▸ .stay
  cases h with
  | frame h => exact hstay (Service.books_congr h.records h.log)
  | edit id f h => exact h.leases
  | claim id hq hs hc | succeed id blob hs hlock hp hok | store id ctx h =>
    exact hstay (Service.books_update rfl rfl)
  | mark id cancel code message hs hlock hok =>
    exact hstay (Service.books_update (Record.mark_lease ..).1 (Record.mark_lease ..).2)
  | settle id f h => exact hstay (Service.books_update h.lease.1 h.lease.2)
  | @finish d s id =>
    obtain ⟨store, heq⟩ := s.finishIdempotency_eq id
    rw [heq]
    exact .stay
  | @grant d s id lease h hfresh =>
    rw [show (s.note (.granted id lease)).leases = s.leases.take id lease from
      Service.books_take rfl]
    refine .take id lease h fun id' hid' => ?_
    rw [Service.took_lease_iff] at hid'
    have hany : s.isGranted lease = true := List.any_eq_true.mpr ⟨_, hid', by simp⟩
    rw [hfresh] at hany
    cases hany
  | @release d s id lease outcome hl hr =>
    obtain ⟨r, hfile⟩ := Service.exists_of_lease (hl ▸ rfl : (s.get id).lease.isSome = true)
    rw [Service.leases, Service.leases, Service.books_give hfile (v := lease) rfl rfl rfl]
    exact .give id lease hl hr
  | enter id ctx n h hctx hn => exact hstay (Service.books_note rfl)
  | close id ctx hc ho hs =>
    exact hstay ((Service.books_note rfl).trans (Service.books_update rfl rfl))
  | note e h =>
    refine hstay (Service.books_note ?_)
    cases e <;> first | rfl | cases h
  | @create d s r n hL hr hnew hn hle =>
    refine hstay (Service.books_create ?_ ?_)
    · simp only [Service.get, hnew, Resource.lease, hr.lease, Option.getD_none]
    · simp only [Service.get, hnew, Resource.lease, hr.leaseReleased, Option.getD_none]
  | _ => exact .stay

lemma Moves.leases (h : Relation.ReflTransGen (Move L) p p') :
    Relation.ReflTransGen (Custody.Step L.grants L.hands) p.2.leases p'.2.leases :=
  h.lift (fun q => q.2.leases) fun _ _ hm => hm.leases

end

/-! ### Leases in the running system -/

namespace Co

/-- The lease a `_run` has been granted and has yet to file. -/
def hand : Co → Option (ExecutionId × Lease)
  | .run id (.handOver _ lease) => some (id, lease)
  | _ => none

/-- An exception of the port the task waits for ends it. -/
def fragile (co : Co) : Bool := co.stance₀.fragile

/-- The task has a lease to return. -/
def owesLease (s : Service) (co : Co) : Bool :=
  co.owes.any fun
    | .lease id => s.Unpaid (.lease id)
    | .input _ => false

lemma stance_fragile (L : Licence) (co : Co) : (co.stance L).fragile = co.fragile := co.same.fragile

lemma paid_of_owesLease {s : Service} {co : Co} (h : co.owesLease s = false) {δ : Debt}
    (hδ : δ ∈ co.owes) : ¬ s.Unpaid δ ∨ ∃ id, δ = .input id := by
  cases δ with
  | input id => exact .inr ⟨id, rfl⟩
  | lease id =>
    refine .inl fun hu => ?_
    simp only [owesLease, List.any_eq_false] at h
    exact h _ hδ (decide_eq_true hu)

end Co

namespace System

variable {w w' : System} {t u : TaskId} {co : Co} {e : Effect Co Value} {inp : Input}
  {id : ExecutionId} {lease : Lease}

/-- No lease is lost in the step: a granted lease reaches an execution that is not settled, and no
task ends that has a lease to file or to return. -/
def careful (w : System) : Act → Bool
  | .resume t inp =>
    match w.tasks.get? t, inp with
    | some (.running co), .answer (.error _) => !(co.fragile && co.owesLease w.svc)
    | some (.running co), _ => co.hand.all fun p => !(w.svc.get p.1).settled
    | _, _ => true
  | .cancel t =>
    match w.tasks.get? t with
    | some (.running co) => co.hand.isNone && !co.owesLease w.svc
    | _ => true
  | _ => true

/-- The lease has been granted and has yet to be filed. -/
def InHand (w : System) (id : ExecutionId) (lease : Lease) : Prop :=
  ∃ t path, w.Running t (.run id (.handOver path lease))

/-- The books of the leases agree with the tasks, and nothing is lost. -/
structure Leased (w : System) : Prop where
  balanced : w.svc.leases.Balanced
  early : ∀ t id pc, w.Running t (.run id pc) → pc.early = true → (w.svc.get id).lease = none
  unclaimed : ∀ id, (w.svc.get id).dispatchClaimed = false → (w.svc.get id).lease = none
  taken : ∀ id lease, w.InHand id lease → .granted id lease ∈ w.svc.log
  kept : w.svc.leases.Kept w.InHand
  covered : w.Covered fun δ => ∃ id, δ = .lease id

/-- The licence of a task as far as leases go. -/
def leasing (w : System) (t : TaskId) (co : Co) (inp : Input) : Licence :=
  { w.plain t co with
    grants := fun id lease =>
      (∃ path, co = .run id (.acquiring path)) ∧ inp = .acquired (.ok lease)
    hands := fun id lease => ∃ path, co = .run id (.handOver path lease)
    forgets := fun δ => ∃ id, δ = .input id }

lemma leasing_turn (hw : w.Wf) (hl : w.Leased) (hrun : w.Running t co)
    (hlegal : inp.legal w.svc = true) (hok : w.careful (.resume t inp) = true)
    (hstep : co.step w.svc (w.view t) inp = some e) :
    e.Clears (w.leasing t co inp) t (w.base co) (co.owes, w.svc)
      (·.stance (w.leasing t co inp)) := by
  refine hw.turn hrun rfl ⟨fun h => h, fun _ => trivial⟩ hlegal ?_ (fun _ _ => trivial) ?_ hstep
  · exact { plain_wants t inp with
      scans := fun _ _ id hc _ => ⟨.inl (hl.unclaimed id hc), .inr ⟨id, rfl⟩⟩
      acquired := fun _ path _ hco hinp => ⟨⟨path, hco⟩, hinp⟩
      handOver := fun _ path _ hco => ⟨path, hco⟩
      retry := fun id h => ⟨h, .inr ⟨id, rfl⟩⟩ }
  · rintro hfragile e rfl δ hδ
    rw [co.stance_fragile] at hfragile
    rw [co.stance_owes] at hδ
    simp only [careful, hrun, hfragile, Bool.true_and, Bool.not_eq_true'] at hok
    exact Co.paid_of_owesLease hok hδ

lemma leasing_ready (hl : w.Leased) (hrun : w.Running t co) :
    w.svc.leases.Ready (w.leasing t co inp).hands := by
  refine ⟨?_, ?_, ?_⟩
  · rintro id u v ⟨path, rfl⟩ ⟨path', heq⟩
    cases heq
    rfl
  · rintro id v ⟨path, rfl⟩
    exact Service.took_lease_iff.mpr (hl.taken id v ⟨t, path, hrun⟩)
  · rintro id v ⟨path, rfl⟩
    exact .inl (hl.early t id _ hrun rfl)

/-- Only the `_run` of an execution files a lease with it. -/
lemma lease_none {p' : List Debt × Service}
    (h : Relation.ReflTransGen (Move (w.leasing t co inp)) (co.owes, w.svc) p')
    (hnone : (w.svc.get id).lease = none) :
    (p'.2.get id).lease = none ∨ ∃ path lease, co = .run id (.handOver path lease) := by
  refine (Custody.steps_slot_none (Moves.leases h) hnone).imp_right ?_
  rintro ⟨lease, path, hco⟩
  exact ⟨path, lease, hco⟩

section

variable (hw : w.Wf) (hl : w.Leased) (hrun : w.Running t co)
  (hstep : co.step w.svc (w.view t) inp = some e)
  (hm : Relation.ReflTransGen (Move (w.leasing t co inp)) (co.owes, w.svc)
    (owesAfter e.ctl, e.next))

include hw hl hrun hstep hm

lemma commit_early {pc : Run.Pc} (hu : (w.commit t e).Running u (.run id pc))
    (hpc : pc.early = true) : ((w.commit t e).svc.get id).lease = none := by
  rcases run_commit hw.fresh hrun hstep hu with ⟨pc', rfl, rfl, -, hnext⟩ | ⟨hne, hold⟩ |
    ⟨sp, hsp, hco⟩
  · obtain ⟨hearly, hhand⟩ := hnext.early hpc
    refine (lease_none hm (hl.early u id _ hrun hearly)).resolve_right ?_
    rintro ⟨path, lease, heq⟩
    cases heq
    exact hhand path lease rfl
  · refine (lease_none hm (hl.early u id pc hold hpc)).resolve_right ?_
    rintro ⟨path, lease, rfl⟩
    exact hne (hw.single u t id pc _ hold hrun)
  · have hunclaimed := (started_run hw hstep hsp hco).1
    refine (lease_none hm (hl.unclaimed id hunclaimed)).resolve_right ?_
    rintro ⟨path, lease, rfl⟩
    rw [hw.claimed t id _ hrun] at hunclaimed
    cases hunclaimed

omit hstep in
lemma commit_unclaimed (hc : ((w.commit t e).svc.get id).dispatchClaimed = false) :
    ((w.commit t e).svc.get id).lease = none := by
  -- the execution was not claimed before, or this is the step that returns it to the queue
  have hnone : (w.svc.get id).lease = none ∧ ∀ path lease, co ≠ .run id (.handOver path lease) := by
    cases hold : (w.svc.get id).dispatchClaimed with
    | false =>
      refine ⟨hl.unclaimed id hold, ?_⟩
      rintro path lease rfl
      rw [hw.claimed t id _ hrun] at hold
      cases hold
    | true =>
      rcases Moves.claimed hm hold with hc' | rfl
      · rw [show (e.next.get id).dispatchClaimed = false from hc] at hc'
        cases hc'
      · exact ⟨hl.early t id _ hrun rfl, nofun⟩
  refine (lease_none hm hnone.1).resolve_right ?_
  rintro ⟨path, lease, hco⟩
  exact hnone.2 path lease hco

lemma commit_taken (h : (w.commit t e).InHand id lease) :
    .granted id lease ∈ (w.commit t e).svc.log := by
  have hlog := Custody.steps_log_subset (Moves.leases hm)
  obtain ⟨u, path, hu⟩ := h
  rcases run_commit hw.fresh hrun hstep hu with ⟨pc', rfl, rfl, -, hnext⟩ | ⟨-, hold⟩ |
    ⟨sp, -, hco⟩
  · change .granted id lease ∈ e.next.log
    generalize e.next = s' at hnext
    cases hnext with
    | granted path lease => exact List.mem_append_right _ List.mem_cons_self
    | far h => cases h
  · refine Service.took_lease_iff.mp (hlog (Service.took_lease_iff.mpr ?_))
    exact hl.taken id lease ⟨u, path, hold⟩
  · cases sp <;> cases hco

lemma commit_kept (hok : w.careful (.resume t inp) = true) :
    (w.commit t e).svc.leases.Kept (w.commit t e).InHand := by
  have hlt := hw.fresh.lt hrun
  have hhand : w.svc.leases.Kept fun id lease => (w.leasing t co inp).grants id lease ∨
      (w.leasing t co inp).hands id lease ∨
        ∃ u path, u ≠ t ∧ w.Running u (.run id (.handOver path lease)) := by
    intro id lease htook
    refine (hl.kept id lease htook).imp_left ?_
    rintro ⟨u, path, hu⟩
    rcases eq_or_ne u t with rfl | hne
    · cases hrun.symm.trans hu
      exact .inr (.inl ⟨path, rfl⟩)
    · exact .inr (.inr ⟨u, path, hne, hu⟩)
  have hafter := Custody.steps_kept (Moves.leases hm) (leasing_ready hl hrun) (fun _ _ h => .inl h)
    hhand
  intro id lease htook
  rcases hafter id lease htook with (⟨⟨path, rfl⟩, rfl⟩ | ⟨path, rfl⟩ | ⟨u, path, hne, hu⟩) | hslot
  · -- the lease has just been granted
    cases hstep
    exact .inl ⟨t, path, commit_running_self hw.fresh hlt rfl⟩
  · -- the lease is filed, since the execution is not settled
    refine .inr ?_
    obtain ⟨e', he', rfl⟩ := Option.map_eq_some_iff.mp hstep
    obtain ⟨-, rfl⟩ := withLock_some he'
    have hlive : (w.svc.get id).settled = false := by
      cases inp with
      | go => simpa [careful, hrun, Co.hand] using hok
      | _ => cases he'
    obtain ⟨r, hfile⟩ := Service.exists_of_claimed (hw.claimed t id _ hrun)
    change (((Run.handOver w.svc id path lease).lift _ _).next.get id).lease = some lease
    rw [(Effect.lift_next _ _ _).1, Run.handOver, hlive]
    exact congrArg (·.lease) (Service.get_update_self hfile)
  · exact .inl ⟨u, path, commit_running hw.fresh hlt hne hu⟩
  · exact .inr hslot

end

lemma Leased.commit (hw : w.Wf) (hl : w.Leased) (hrun : w.Running t co)
    (hlegal : inp.legal w.svc = true) (hok : w.careful (.resume t inp) = true)
    (hstep : co.step w.svc (w.view t) inp = some e) : (w.commit t e).Leased := by
  have hm := (turn_at (leasing_turn hw hl hrun hlegal hok hstep)).moves
  refine ⟨(Custody.steps_balanced (Moves.leases hm) (leasing_ready hl hrun) hl.balanced).1,
    fun u id pc hu hpc => commit_early hw hl hrun hstep hm hu hpc,
    fun id hc => commit_unclaimed hw hl hrun hm hc,
    fun id lease h => commit_taken hw hl hrun hstep hm h,
    commit_kept hw hl hrun hstep hm hok, hl.covered.commit hw hrun ?_ hm⟩
  rintro δ ⟨id, rfl⟩ ⟨id', heq⟩
  cases heq

lemma Leased.killed (hw : w.Wf) (hl : w.Leased) (hrun : w.Running t co)
    (hok : w.careful (.cancel t) = true) : (w.killed t co).Leased := by
  simp only [careful, hrun, Bool.and_eq_true, Bool.not_eq_true', Option.isNone_iff_eq_none] at hok
  obtain ⟨hhand, howes⟩ := hok
  have hat : At (w.leasing t co .go) t (w.base co) (co.owes, w.svc) [] none (co.thrown w.svc) :=
    hw.cancelled hrun rfl (fun _ _ => .inr trivial) fun _ hδ => Co.paid_of_owesLease howes hδ
  have hm := hat.moves
  have hother : ∀ id path lease, co ≠ .run id (.handOver path lease) := by
    rintro id path lease rfl
    cases hhand
  have hnone : ∀ id, (w.svc.get id).lease = none → ((co.thrown w.svc).get id).lease = none := by
    intro id h
    refine (lease_none hm h).resolve_right ?_
    rintro ⟨path, lease, hco⟩
    exact hother id path lease hco
  refine ⟨(Custody.steps_balanced (Moves.leases hm) (leasing_ready hl hrun) hl.balanced).1,
    fun u id pc hu hpc => hnone id (hl.early u id pc (running_killed hu).2 hpc), ?_, ?_, ?_, ?_⟩
  · intro id hc
    refine hnone id ?_
    cases hold : (w.svc.get id).dispatchClaimed with
    | false => exact hl.unclaimed id hold
    | true =>
      rcases Moves.claimed hm hold with hc' | rfl
      · rw [show ((co.thrown w.svc).get id).dispatchClaimed = false from hc] at hc'
        cases hc'
      · exact hl.early t id _ hrun rfl
  · rintro id lease ⟨u, path, hu⟩
    refine Service.took_lease_iff.mp (Custody.steps_log_subset (Moves.leases hm)
      (Service.took_lease_iff.mpr ?_))
    exact hl.taken id lease ⟨u, path, (running_killed hu).2⟩
  · refine Custody.steps_kept (Moves.leases hm) (leasing_ready hl hrun) ?_ ?_
    · rintro id lease ⟨-, hinp⟩
      cases hinp
    · intro id lease htook
      refine (hl.kept id lease htook).imp_left ?_
      rintro ⟨u, path, hu⟩
      refine ⟨u, path, killed_running ?_ hu⟩
      rintro rfl
      cases hrun.symm.trans hu
      exact hother id path lease rfl
  · refine hl.covered.killed hrun ?_ hm
    rintro δ ⟨id, rfl⟩ ⟨id', heq⟩
    cases heq

lemma Leased.begun (hw : w.Wf) (hl : w.Leased) (c : ApiCall) : (w.begun c).Leased := by
  refine ⟨hl.balanced, fun u id pc hu => hl.early u id pc (running_run_begun hu), hl.unclaimed,
    ?_, ?_, hl.covered.begun hw c⟩
  · rintro id lease ⟨u, path, hu⟩
    exact hl.taken id lease ⟨u, path, running_run_begun hu⟩
  · intro id lease htook
    refine (hl.kept id lease htook).imp_left ?_
    rintro ⟨u, path, hu⟩
    exact ⟨u, path, begun_running hw.fresh c hu⟩

lemma Leased.step {a : Act} (hw : w.Wf) (hl : w.Leased) (hok : w.careful a = true)
    (h : w.step a = some w') : w'.Leased := by
  rcases step_cases h with ⟨env, store, rfl, -⟩ | ⟨c, rfl, rfl⟩ |
    ⟨t, inp, co, e, rfl, hrun, hlegal, hstep, rfl⟩ | ⟨t, co, rfl, hrun, rfl⟩
  · exact ⟨hl.balanced, hl.early, hl.unclaimed, hl.taken, hl.kept, hl.covered⟩
  · exact hl.begun hw c
  · exact hl.commit hw hrun hlegal hok hstep
  · exact hl.killed hw hrun hok

lemma Starts.leased (h : w.Starts) : w.Leased := by
  obtain ⟨cfg, env, s, hs, rfl⟩ := h
  obtain ⟨cfg', rfl⟩ := init_ok hs
  exact {
    balanced := ⟨nofun, nofun, nofun, nofun, nofun, fun _ => Nat.zero_le 1⟩
    early := fun _ _ _ _ _ => rfl
    unclaimed := fun _ _ => rfl
    taken := by rintro id lease ⟨u, path, ⟨⟩⟩
    kept := nofun
    covered := by rintro δ ⟨id, rfl⟩ ⟨⟨⟩, -⟩ }

lemma Reach.leased (h : w.Reach fun w a => w.careful a = true) : w.Leased := by
  obtain ⟨w₀, hstart, hrun⟩ := h
  have hboth : w.Wf ∧ w.Leased :=
    hrun.invariant (I := fun w => w.Wf ∧ w.Leased)
      (fun _ _ _ hi hok hstep => ⟨hi.1.step hstep, hi.2.step hi.1 hok hstep⟩)
      ⟨hstart.wf, hstart.leased⟩
  exact hboth.2

/-- Leases are returned: in every run of careful steps a granted lease is released at most once,
and it has been released once the execution is settled, its `_run` has ended and no task is left
that has to tear it down. -/
theorem Reach.lease_released_once (h : w.Reach fun w a => w.careful a = true)
    (hg : .granted id lease ∈ w.svc.log) :
    w.svc.releases lease ≤ 1 ∧
      ((w.svc.get id).settled = true → (∀ t pc, ¬ w.Running t (.run id pc)) →
        (∀ t co, w.Running t co → .lease id ∉ co.owes) → w.svc.releases lease = 1) := by
  have hl := h.leased
  rw [Service.releases_eq]
  refine ⟨hl.balanced.once lease, fun hs hended howed => ?_⟩
  have hslot : (w.svc.get id).lease = some lease := by
    refine (hl.kept id lease (Service.took_lease_iff.mpr hg)).resolve_left ?_
    rintro ⟨t, path, hrun⟩
    exact hended t _ hrun
  refine hl.balanced.returns_eq_one hslot ?_
  by_contra hopen
  obtain ⟨t, co, hrun, hmem⟩ := hl.covered (.lease id) ⟨id, rfl⟩
    ⟨hs, by rw [hslot]; rfl, Bool.not_eq_true _ ▸ hopen⟩
  exact howed t co hrun hmem

theorem lease_released_after_publish :
    ∃ w : System, w.Reach (fun w a => w.careful a = true) ∧
      .granted 1 sampleLease ∈ w.svc.log ∧ (w.svc.get 1).settled = true ∧
      w.svc.releases sampleLease = 1 := by
  obtain ⟨w, hreach, hg, hs, htasks⟩ := sample_starts.exists_reach careful
    (publishOne ++ [.resume 4 (.written (.ok sampleBlob)), go 4, .resume 4 (.answer (.ok ())),
      .resume 2 (.executed (.error .cancelledError) none), go 2])
    (P := fun w => .granted 1 sampleLease ∈ w.svc.log ∧ (w.svc.get 1).settled = true ∧
      (w.allTasks isLoop) = true)
    (by decide +kernel)
  refine ⟨w, hreach, hg, hs, (Reach.lease_released_once hreach hg).2 hs ?_ ?_⟩
  · exact fun t pc hrun => absurd (of_allTasks htasks hrun) Bool.false_ne_true
  · intro t co hrun
    have hloop := of_allTasks htasks hrun
    cases co <;> first | exact List.not_mem_nil | cases hloop

/-- The execution is cancelled while it waits for its lease: the lease that then comes is filed
with no record and never released, though every task but the dispatcher has ended. -/
theorem lease_lost_by_cancel :
    ∃ w : System, w.Reach (fun _ a => a.kills = false) ∧
      .granted 1 sampleLease ∈ w.svc.log ∧ (w.svc.get 1).settled = true ∧
      (w.allTasks fun co => co matches .dispatchLoop _ _) = true ∧
      w.svc.releases sampleLease = 0 := by
  obtain ⟨w, hreach, hP⟩ := sample_starts.exists_reach (fun _ a => !a.kills)
    (claimOne ++ [go 2, .call (.cancel ⟨1, "alice", none⟩), go 3,
      .resume 2 (.acquired (.ok sampleLease)), go 2])
    (P := fun w => .granted 1 sampleLease ∈ w.svc.log ∧ (w.svc.get 1).settled = true ∧
      (w.allTasks fun co => co matches .dispatchLoop _ _) = true ∧
      w.svc.releases sampleLease = 0)
    (by decide +kernel)
  exact ⟨w, hreach.mono fun _ _ h => Bool.not_eq_true' _ ▸ h, hP⟩

end System

end ModelSwitch.Execution

import ModelSwitch.Program.Startup
import ModelSwitch.Proofs.Book.Invariant

/-!
# Startup fails closed

`reconcile_startup` clears the book only on what it has heard: a listing of which every container
was then found absent or not running, and after that a STOPPED observation of every model by its
own observer. Whatever else the ports answer or raise, the book stays in recovery.

The outcome of `reconcile` is a partition of the listed containers exactly if no call that the
execution makes raises, but for the listing, and no container is sorted in two ways. The loop is
taken apart into its rounds, one for each container of the listing (`stopAll_eq`).
-/

namespace ModelSwitch

/-! ### The book -/

/-- Admission is closed, and nothing that `b` had reserved has been given back. -/
structure Book.Closed (b b' : Book) : Prop where
  recovering : b'.recovering = true
  reservation : ∀ m,
    (b'.runtime.get? m).map (·.reservation) = (b.runtime.get? m).map (·.reservation)
  canLoad : ∀ m sample now, b'.canLoad m sample now = false

/-- The book has left recovery with nothing on it. -/
structure Book.Cleared (b : Book) : Prop where
  recovering : b.recovering = false
  state : ∀ m r, b.runtime.get? m = some r → r.state = .unloaded
  committed : b.committed = 0

lemma Book.canLoad_recovering {b : Book} (h : b.recovering = true) (m : ModelId)
    (sample : MemorySample) (now : Time) : b.canLoad m sample now = false := by
  simp only [canLoad]
  split
  · rfl
  · simp [canLoadWith, h]

lemma Book.closed_beginRecovery (b : Book) : b.Closed b.beginRecovery.1 := by
  have hrec : b.beginRecovery.1.recovering = true := by
    simp only [beginRecovery]
    split_ifs with h
    · exact h
    · rfl
  refine ⟨hrec, fun m => ?_, canLoad_recovering hrec⟩
  simp only [beginRecovery]
  split_ifs
  · rfl
  · simp only [Dict.get?_mapVal, Option.map_map]
    congr 1
    funext r
    simp only [Function.comp_apply, recoverRuntime]
    split_ifs <;> rfl

/-- Closing admission again changes nothing. -/
lemma Book.beginRecovery_twice (b : Book) :
    b.beginRecovery.1.beginRecovery.1 = b.beginRecovery.1 := by
  have h := b.closed_beginRecovery.recovering
  generalize b.beginRecovery.1 = b' at h
  simp [beginRecovery, h]

@[simp] lemma Book.specs_beginRecovery (b : Book) : b.beginRecovery.1.specs = b.specs := by
  simp only [beginRecovery]
  split_ifs <;> rfl

lemma Book.finishRecovery_cases (b : Book) (epoch : ℕ) (confirmed : List ModelId) :
    (∃ e, b.finishRecovery epoch confirmed = (b, .error e)) ∨
    ∃ b', b.finishRecovery epoch confirmed = (b', .ok ()) ∧ b'.Cleared ∧
      ∀ m ∈ b.specs.keys, m ∈ confirmed := by
  simp only [finishRecovery]
  split_ifs with hepoch hconfirmed
  · exact .inl ⟨_, rfl⟩
  · exact .inl ⟨_, rfl⟩
  · refine .inr ⟨_, rfl, ⟨rfl, fun m r hr => ?_, ?_⟩, ?_⟩
    · rw [Dict.get?_mapVal] at hr
      obtain ⟨r₀, -, rfl⟩ := Option.map_eq_some_iff.mp hr
      rfl
    · simp [committed, Dict.sum, Dict.mapVal, resetRuntime, Function.comp_def]
    · rw [not_or, not_not] at hconfirmed
      have hall := (Bool.and_eq_true_iff.mp hconfirmed.1).1
      simpa using hall

namespace Startup

open ModelSwitch.Docker (ObservationTarget)

variable {σ : Type} {p : Ports σ} {deploymentId id : String} {deadline : Time} {s s' : Scene σ}

/-! ### The containers -/

/-- The answer for the container proves that it does not run. -/
def Ports.Down (p : Ports σ) (id : String) (a : Answer) : Prop :=
  p.readInspect id a = .ok .absent ∨ ∃ f, p.readInspect id a = .ok (.fact f) ∧ f.running = false

/-- The container was found not to run. -/
def Ports.ProvenDown (p : Ports σ) (id : String) (log : List Event) : Prop :=
  ∃ a, .docker (inspectArgv id) a ∈ log ∧ p.Down id a

/-- The last answer about the container proves that it does not run. -/
def Ports.LastDown (p : Ports σ) (id : String) (log : List Event) : Prop :=
  ∃ l a l', log = l ++ .docker (inspectArgv id) a :: l' ∧ p.Down id a ∧
    ∀ a', .docker (inspectArgv id) a' ∉ l'

lemma Ports.LastDown.provenDown {l : List Event} (h : p.LastDown id l) : p.ProvenDown id l := by
  obtain ⟨l₁, a, l₂, rfl, hdown, -⟩ := h
  exact ⟨a, by simp, hdown⟩

lemma Ports.LastDown.prepend {l : List Event} (h : p.LastDown id l) (l' : List Event) :
    p.LastDown id (l' ++ l) := by
  obtain ⟨l₁, a, l₂, rfl, hdown, hlast⟩ := h
  exact ⟨l' ++ l₁, a, l₂, by simp, hdown, hlast⟩

lemma Ports.LastDown.append {l l' : List Event} (h : p.LastDown id l)
    (hl' : ∀ a, .docker (inspectArgv id) a ∉ l') : p.LastDown id (l ++ l') := by
  obtain ⟨l₁, a, l₂, rfl, hdown, hlast⟩ := h
  refine ⟨l₁, a, l₂ ++ l', by simp, hdown, fun a' hmem => ?_⟩
  rcases List.mem_append.mp hmem with h | h
  · exact hlast a' h
  · exact hl' a' h

/-- The call was answered, and what `json.loads` raises on the answer is caught. The listing may
also raise an `ObservationError`. -/
def Ports.Answered (p : Ports σ) (deploymentId : String) : Event → Prop
  | .docker argv a => ∀ id, argv = inspectArgv id → ∃ r, p.readInspect id a = .ok r
  | .raised argv e => argv = listArgv deploymentId ∧ ∃ o, e = .observationError o
  | .observed .. => True

lemma Ports.answered_inspect {a : Answer} {r : Inspected} (h : p.readInspect id a = .ok r) :
    p.Answered deploymentId (.docker (inspectArgv id) a) := by
  intro id' hid
  obtain rfl : id = id' := by simpa [inspectArgv] using hid
  exact ⟨r, h⟩

lemma Ports.call_log {argv : List String} {res : Except Raised Answer}
    (h : p.call argv s = (res, s')) : s'.log = s.log ++ [.ofCall argv res] := by
  cases h
  rfl

/-- The event is no answer about another container. -/
def Own (id : String) (ev : Event) : Prop := ∀ id' a, ev = .docker (inspectArgv id') a → id' = id

@[simp] lemma own_inspect (a : Answer) : Own id (.docker (inspectArgv id) a) := by
  simp [Own, inspectArgv]

@[simp] lemma own_stop (a : Answer) : Own id (.docker (stopArgv id) a) := by
  simp [Own, inspectArgv, stopArgv]

@[simp] lemma own_raised (argv : List String) (e : Raised) : Own id (.raised argv e) := by
  simp [Own]

@[simp] lemma Ports.answered_stop (a : Answer) :
    p.Answered deploymentId (.docker (stopArgv id) a) := by
  simp [Answered, inspectArgv, stopArgv]

lemma Ports.inspect_ok {r : Inspected} (h : p.inspect id s = (.ok r, s')) :
    ∃ a, s'.log = s.log ++ [.docker (inspectArgv id) a] ∧ p.readInspect id a = .ok r := by
  simp only [inspect] at h
  split at h
  · cases h
  · next a s₁ hcall =>
    obtain ⟨hr, rfl⟩ := Prod.mk.inj h
    exact ⟨a, Ports.call_log hcall, hr⟩

/-- What is heard while one container is stopped, by the end of the attempt. -/
def Ports.Heard (p : Ports σ) (deploymentId id : String) (l : List Event) :
    Except Raised (Bool × Option String) → Prop
  | .error _ => ∃ ev ∈ l, ¬ p.Answered deploymentId ev
  | .ok (proven, code) => (∀ ev ∈ l, p.Answered deploymentId ev) ∧
    if proven then p.LastDown id l else code.isSome = true

/-- An attempt to stop the container that begins in `s` and ends in `s'`. -/
def Ports.Attempt (p : Ports σ) (deploymentId id : String) (s s' : Scene σ)
    (res : Except Raised (Bool × Option String)) : Prop :=
  ∃ l, s'.log = s.log ++ l ∧ (∀ ev ∈ l, Own id ev) ∧ p.Heard deploymentId id l res

namespace Ports.Attempt

variable {res : Except Raised (Bool × Option String)} {code : Option String}

lemma single {ev : Event} (hlog : s'.log = s.log ++ [ev]) (hown : Own id ev)
    (h : p.Heard deploymentId id [ev] res) : p.Attempt deploymentId id s s' res :=
  ⟨[ev], hlog, List.forall_mem_singleton.mpr hown, h⟩

/-- One answer more, before the attempt. -/
lemma cons {s₁ : Scene σ} {ev : Event} (hlog : s₁.log = s.log ++ [ev]) (hown : Own id ev)
    (hans : p.Answered deploymentId ev) (h : p.Attempt deploymentId id s₁ s' res) :
    p.Attempt deploymentId id s s' res := by
  obtain ⟨l, hlog', hown', hheard⟩ := h
  refine ⟨ev :: l, by rw [hlog', hlog, List.append_assoc, List.singleton_append],
    List.forall_mem_cons.mpr ⟨hown, hown'⟩, ?_⟩
  rcases res with e | ⟨_ | _, code⟩
  · obtain ⟨ev', hmem, hbad⟩ := hheard
    exact ⟨ev', List.mem_cons_of_mem _ hmem, hbad⟩
  · exact ⟨List.forall_mem_cons.mpr ⟨hans, hheard.1⟩, hheard.2⟩
  · exact ⟨List.forall_mem_cons.mpr ⟨hans, hheard.1⟩, LastDown.prepend hheard.2 [ev]⟩

/-- The command itself raises. -/
lemma of_raised {argv : List String} {e : Raised} (h : p.call argv s = (.error e, s'))
    (hne : argv ≠ listArgv deploymentId) : p.Attempt deploymentId id s s' (.error e) :=
  single (call_log h) (own_raised argv e) ⟨_, List.mem_singleton_self _, fun hans => hne hans.1⟩

lemma of_error {e : Raised} (h : p.inspect id s = (.error e, s')) :
    p.Attempt deploymentId id s s' (.error e) := by
  simp only [inspect] at h
  split at h
  · next e s₁ hcall =>
    cases h
    exact of_raised hcall (by simp [inspectArgv, listArgv])
  · next a s₁ hcall =>
    obtain ⟨hr, rfl⟩ := Prod.mk.inj h
    refine single (call_log hcall) (own_inspect a) ⟨_, List.mem_singleton_self _, fun hans => ?_⟩
    obtain ⟨r, hread⟩ := hans id rfl
    cases hr.symm.trans hread

/-- The answer shows the container down. -/
lemma of_down {r : Inspected} (h : p.inspect id s = (.ok r, s'))
    (hr : r = .absent ∨ ∃ f, r = .fact f ∧ f.running = false) :
    p.Attempt deploymentId id s s' (.ok (true, code)) := by
  obtain ⟨a, hlog, hread⟩ := inspect_ok h
  refine single hlog (own_inspect a) ⟨by simp [answered_inspect hread], [], a, [], rfl, ?_, by simp⟩
  rcases hr with rfl | ⟨f, rfl, hrun⟩
  · exact .inl hread
  · exact .inr ⟨f, hread, hrun⟩

/-- Nothing is proven. -/
lemma of_up {r : Inspected} (h : p.inspect id s = (.ok r, s')) (hcode : code.isSome = true) :
    p.Attempt deploymentId id s s' (.ok (false, code)) := by
  obtain ⟨a, hlog, hread⟩ := inspect_ok h
  exact single hlog (own_inspect a) ⟨by simp [answered_inspect hread], hcode⟩

end Ports.Attempt

lemma Ports.verifiedStop_heard {res : Except Raised (Bool × Option String)}
    (h : p.verifiedStop deploymentId id s = (res, s')) : p.Attempt deploymentId id s s' res := by
  simp only [verifiedStop] at h
  split at h
  · next e s₁ hins =>
    cases h
    exact .of_error hins
  · next s₁ hins =>
    cases h
    exact .of_down hins (.inl rfl)
  · next s₁ hins =>
    cases h
    exact .of_up hins rfl
  · next f s₁ hins =>
    split_ifs at h with hforeign hrun
    · cases h
      exact .of_up hins rfl
    · cases h
      exact .of_down hins (.inr ⟨f, rfl, hrun⟩)
    · -- the container runs, and is asked to stop
      obtain ⟨a, hlog, hread⟩ := inspect_ok hins
      refine .cons hlog (own_inspect a) (answered_inspect hread) ?_
      split at h
      · next e s₂ hstop =>
        cases h
        exact .of_raised hstop (by simp [stopArgv, listArgv])
      · next b s₂ hstop =>
        split_ifs at h
        · cases h
          exact .single (call_log hstop) (own_stop b) ⟨by simp [Event.ofCall], rfl⟩
        · refine .cons (call_log hstop) (own_stop b) (answered_stop b) ?_
          split at h
          · next e s₃ hins₂ =>
            cases h
            exact .of_error hins₂
          · next s₃ hins₂ =>
            cases h
            exact .of_down hins₂ (.inl rfl)
          · next s₃ hins₂ =>
            cases h
            exact .of_up hins₂ rfl
          · next f' s₃ hins₂ =>
            split_ifs at h with hrun'
            · cases h
              exact .of_down hins₂ (.inr ⟨f', rfl, hrun'⟩)
            · cases h
              exact .of_up hins₂ rfl

/-! ### The rounds of the loop -/

/-- A container, whether it was proven stopped, and the error code if it was not. -/
abbrev Sorted := String × Bool × Option String

/-- One round of the loop of `reconcile`. -/
def Ports.round (p : Ports σ) (deploymentId : String) (deadline : Time) (id : String)
    (s : Scene σ) : Except Raised (Bool × Option String) × Scene σ :=
  if deadline ≤ (p.now s).1 then (.ok (false, some "recovery_timeout"), (p.now s).2)
  else p.verifiedStop deploymentId id (p.now s).2

/-- The rounds up to the end of the listing, or up to the first that raises. -/
def Ports.rounds (p : Ports σ) (deploymentId : String) (deadline : Time) :
    List String → Scene σ → Except Raised (List Sorted) × Scene σ
  | [], s => (.ok [], s)
  | id :: ids, s =>
    match p.round deploymentId deadline id s with
    | (.error e, s) => (.error e, s)
    | (.ok r, s) =>
      let (res, s) := rounds p deploymentId deadline ids s
      (res.map ((id, r) :: ·), s)

def stoppedOf (rs : List Sorted) : List String := (rs.filter (·.2.1)).map (·.1)

def remainingOf (rs : List Sorted) : List String := (rs.filter (!·.2.1)).map (·.1)

/-- What the loop makes of its rounds, from the lists and the code that it has so far. -/
def outcomeOf (stopped remaining : List String) (code : Option String) (rs : List Sorted) :
    ReconcileOutcome where
  ok := (remaining ++ remainingOf rs).isEmpty
  errorCode := code.or (rs.findSome? fun r => if r.2.1 then none else r.2.2)
  stopped := stopped ++ stoppedOf rs
  remaining := remaining ++ remainingOf rs

lemma Ports.stopAll_eq (ids stopped remaining : List String) (code : Option String) (s : Scene σ) :
    p.stopAll deploymentId deadline ids stopped remaining code s =
      ((p.rounds deploymentId deadline ids s).1.map (outcomeOf stopped remaining code),
        (p.rounds deploymentId deadline ids s).2) := by
  induction ids generalizing stopped remaining code s with
  | nil => simp [stopAll, rounds, outcomeOf, stoppedOf, remainingOf, Except.map]
  | cons id ids ih =>
    have hcons : ∀ proven code' (res : Except Raised (List Sorted)),
        (res.map ((id, proven, code') :: ·)).map (outcomeOf stopped remaining code) =
          res.map (if proven then outcomeOf (stopped ++ [id]) remaining code
            else outcomeOf stopped (remaining ++ [id]) (code.or code')) := by
      intro proven code' res
      cases res with
      | error e => rfl
      | ok rs =>
        cases proven <;> cases code' <;>
          simp [Except.map, outcomeOf, stoppedOf, remainingOf]
    simp only [stopAll, rounds, round]
    split_ifs with hlate
    · simp [ih, hcons]
    · rcases p.verifiedStop deploymentId id (p.now s).2 with ⟨_ | ⟨_ | _, code'⟩, s₁⟩
      · rfl
      · simp [ih, hcons]
      · simp [ih, hcons]

/-- What is heard in the rounds for the containers `ids` if none of them raises. -/
structure Ports.HeardAll (p : Ports σ) (deploymentId : String) (ids : List String)
    (rs : List Sorted) (l : List Event) : Prop where
  names : rs.map (·.1) = ids
  answered : ∀ ev ∈ l, p.Answered deploymentId ev
  code : ∀ r ∈ rs, r.2.1 = false → r.2.2.isSome = true
  last : ∀ id ∈ ids, (∀ r ∈ rs, r.1 = id → r.2.1 = true) → p.LastDown id l
  own : ∀ id a, .docker (inspectArgv id) a ∈ l → id ∈ ids

lemma Ports.round_heard {res : Except Raised (Bool × Option String)}
    (h : p.round deploymentId deadline id s = (res, s')) :
    p.Attempt deploymentId id s s' res := by
  rw [round] at h
  split_ifs at h
  · cases h
    exact ⟨[], (List.append_nil _).symm, by simp, by simp, rfl⟩
  · exact p.verifiedStop_heard (s := (p.now s).2) h

/-- One round more, before the others. -/
lemma Ports.HeardAll.cons {ids : List String} {rs : List Sorted} {proven : Bool}
    {code : Option String} {l₁ l₂ : List Event} (hown : ∀ ev ∈ l₁, Own id ev)
    (h : p.Heard deploymentId id l₁ (.ok (proven, code)))
    (hs : p.HeardAll deploymentId ids rs l₂) :
    p.HeardAll deploymentId (id :: ids) ((id, proven, code) :: rs) (l₁ ++ l₂) where
  names := by simp [hs.names]
  answered := List.forall_mem_append.mpr ⟨h.1, hs.answered⟩
  code := by
    refine List.forall_mem_cons.mpr ⟨?_, hs.code⟩
    rintro rfl
    exact h.2
  last := by
    intro id' hid' hall
    obtain ⟨hfirst, hrest⟩ := List.forall_mem_cons.mp hall
    by_cases hlater : id' ∈ ids
    · exact (hs.last id' hlater hrest).prepend l₁
    · obtain rfl : id' = id := (List.mem_cons.mp hid').resolve_right hlater
      obtain rfl : proven = true := hfirst rfl
      exact Ports.LastDown.append h.2 fun a ha => hlater (hs.own id' a ha)
  own := by
    intro id' a ha
    rcases List.mem_append.mp ha with ha | ha
    · exact List.mem_cons.mpr (.inl (hown _ ha id' a rfl))
    · exact List.mem_cons_of_mem _ (hs.own id' a ha)

/-- Either no round raises, or a call of the last one was not answered. -/
lemma Ports.rounds_heard {ids : List String} {res : Except Raised (List Sorted)}
    (h : p.rounds deploymentId deadline ids s = (res, s')) :
    ∃ l, s'.log = s.log ++ l ∧ (∀ rs, res = .ok rs → p.HeardAll deploymentId ids rs l) ∧
      ∀ e, res = .error e → ∃ ev ∈ l, ¬ p.Answered deploymentId ev := by
  induction ids generalizing s s' res with
  | nil =>
    cases h
    refine ⟨[], (List.append_nil _).symm, ?_, by simp⟩
    rintro rs ⟨⟩
    exact ⟨rfl, by simp, by simp, by simp, by simp⟩
  | cons id ids ih =>
    rcases hround : p.round deploymentId deadline id s with ⟨_ | ⟨proven, code⟩, s₁⟩
    · obtain ⟨l, hlog, -, hl⟩ := Ports.round_heard hround
      simp only [rounds, hround] at h
      cases h
      exact ⟨l, hlog, by simp, fun _ _ => hl⟩
    · obtain ⟨l₁, hlog₁, hown, hl₁⟩ := Ports.round_heard hround
      rcases hrounds : p.rounds deploymentId deadline ids s₁ with ⟨res₂, s₂⟩
      obtain ⟨l₂, hlog₂, hok, herror⟩ := ih hrounds
      simp only [rounds, hround, hrounds] at h
      cases h
      refine ⟨l₁ ++ l₂, by rw [hlog₂, hlog₁, List.append_assoc], ?_, ?_⟩
      · intro rs hrs
        cases res₂ with
        | error e => cases hrs
        | ok rs₂ =>
          cases hrs
          exact .cons hown hl₁ (hok rs₂ rfl)
      · intro e he
        cases res₂ with
        | error e₂ =>
          obtain ⟨ev, hev, hbad⟩ := herror e₂ rfl
          exact ⟨ev, List.mem_append_right _ hev, hbad⟩
        | ok rs₂ => cases he

/-! ### The containers of a listing -/

lemma Ports.listContainerIds_ok {ids : List String}
    (h : p.listContainerIds deploymentId s = (.ok ids, s')) :
    ∃ a, s'.log = s.log ++ [.docker (listArgv deploymentId) a] ∧ a.exitCode = 0 ∧
      ids = p.listed a := by
  simp only [listContainerIds] at h
  split at h
  · cases h
  · next a s₁ hcall =>
    split_ifs at h with hcode
    · cases h
    · cases h
      exact ⟨a, Ports.call_log hcall, not_not.mp hcode, rfl⟩

/-- A listing, and then every container on it found down. -/
def Ports.CleanUp (p : Ports σ) (deploymentId : String) (log : List Event) : Prop :=
  ∃ a l, log = .docker (listArgv deploymentId) a :: l ∧ a.exitCode = 0 ∧
    ∀ id ∈ p.listed a, p.ProvenDown id l

lemma Ports.reconcile_book (p : Ports σ) (deploymentId : String) (deadline : Time)
    (close : Book → Book) (b : Book) (s : Scene σ) :
    (p.reconcile deploymentId close deadline b s).2.1 = close b := by
  simp only [reconcile]
  split_ifs
  · rfl
  · split <;> rfl

lemma remainingOf_eq_nil {rs : List Sorted} :
    remainingOf rs = [] ↔ ∀ r ∈ rs, r.2.1 = true := by
  simp [remainingOf]

lemma Ports.reconcile_ok {close : Book → Book} {b b' : Book} {outcome : ReconcileOutcome}
    (h : p.reconcile deploymentId close deadline b s = (.ok outcome, b', s'))
    (hok : outcome.ok = true) : ∃ l, s'.log = s.log ++ l ∧ p.CleanUp deploymentId l := by
  simp only [reconcile] at h
  split_ifs at h
  · cases h
    cases hok
  · split at h
    · cases h
      cases hok
    · cases h
    · next ids s₁ hlist =>
      obtain ⟨a, hlog₁, hcode, rfl⟩ := Ports.listContainerIds_ok hlist
      rcases hrounds : p.rounds deploymentId deadline (p.listed a) s₁ with ⟨_ | rs, s₂⟩
      · simp only [stopAll_eq, hrounds, Except.map] at h
        cases h
      · simp only [stopAll_eq, hrounds, Except.map] at h
        cases h
        obtain ⟨l, hlog₂, hheard, -⟩ := Ports.rounds_heard hrounds
        have hdown := remainingOf_eq_nil.mp (List.isEmpty_iff.mp hok)
        refine ⟨_ :: l, ?_, a, l, rfl, hcode, fun id hid => ?_⟩
        · rw [hlog₂, hlog₁, List.append_assoc]
          rfl
        · exact ((hheard rs rfl).last id hid fun r hr _ => hdown r hr).provenDown

/-! ### The outcome as a partition -/

/-- The observer of the model has reported it stopped. -/
def ObservedStopped (observers : Dict ModelId (Observe σ)) (target : ObservationTarget)
    (deadline : Time) (m : ModelId) (log : List Event) : Prop :=
  ∃ observe o before after, observers.get? m = some observe ∧
    observe target deadline before = (.ok o, after) ∧ o.state = .stopped ∧ .observed m o ∈ log

lemma observeAll_ok {observers : Dict ModelId (Observe σ)} {specs : List ModelId}
    {target : ObservationTarget} {todo : List (ModelId × Observe σ)}
    {confirmed unproven confirmed' unproven' : List ModelId}
    (hsub : todo ⊆ observers.entries)
    (h : observeAll specs target deadline todo confirmed unproven s =
      (.ok (confirmed', unproven'), s')) :
    ∃ l, s'.log = s.log ++ l ∧ ∀ m ∈ confirmed', m ∈ confirmed ∨
      ObservedStopped observers target deadline m l := by
  induction todo generalizing confirmed unproven s with
  | nil =>
    cases h
    exact ⟨[], (List.append_nil _).symm, fun m hm => .inl hm⟩
  | cons entry rest ih =>
    obtain ⟨m, observe⟩ := entry
    have hrest : rest ⊆ observers.entries := fun x hx => hsub (List.mem_cons_of_mem _ hx)
    have hget : observers.get? m = some observe :=
      Dict.mem_entries_iff.mp (hsub (List.mem_cons_self ..))
    simp only [observeAll] at h
    by_cases hspec : m ∉ specs
    · rw [if_pos hspec] at h
      exact ih hrest h
    · rw [if_neg hspec] at h
      split at h
      · cases h
      · next o outside hobs =>
        have hlater : ∀ {l : List Event} {m'}, ObservedStopped observers target deadline m' l →
            ObservedStopped observers target deadline m' (.observed m o :: l) := by
          rintro l m' ⟨observe', o', before, after, hget', hobs', hstop', hmem⟩
          exact ⟨observe', o', before, after, hget', hobs', hstop', List.mem_cons_of_mem _ hmem⟩
        split_ifs at h with hstop
        · obtain ⟨l, hlog, hall⟩ := ih hrest h
          refine ⟨.observed m o :: l, by rw [hlog, List.append_assoc]; rfl, fun m' hm' => ?_⟩
          rcases hall m' hm' with hold | hnew
          · rcases List.mem_append.mp hold with hold | hself
            · exact .inl hold
            · cases List.mem_singleton.mp hself
              exact .inr ⟨observe, o, _, _, hget, hobs, hstop, List.mem_cons_self ..⟩
          · exact .inr (hlater hnew)
        · obtain ⟨l, hlog, hall⟩ := ih hrest h
          refine ⟨.observed m o :: l, by rw [hlog, List.append_assoc]; rfl, fun m' hm' => ?_⟩
          exact (hall m' hm').imp_right hlater

/-! ### Startup -/

/-- The two ends of `reconcile_startup`. -/
lemma reconcileStartup_cases {observers : Dict ModelId (Observe σ)} {b b' : Book}
    {res : Except Raised StartupReconciliation}
    (h : reconcileStartup p deploymentId observers deadline b s = (res, b', s')) :
    (b' = b.beginRecovery.1 ∧ ∀ r, res = .ok r → r.ok = false) ∨
    ∃ r, res = .ok r ∧ r.ok = true ∧ b'.Cleared ∧
      ∃ cleanUp observations, s'.log = s.log ++ cleanUp ++ observations ∧
        p.CleanUp deploymentId cleanUp ∧
        ∀ m ∈ b.specs.keys, ObservedStopped observers ⟨deploymentId, none, none⟩ deadline m
          observations := by
  simp only [reconcileStartup] at h
  split at h
  · next b₁ e hbegin =>
    cases h
    exact .inl ⟨by rw [hbegin], nofun⟩
  · next b₁ epoch hbegin =>
    obtain rfl : b.beginRecovery.1 = b₁ := by rw [hbegin]
    have hbook := p.reconcile_book deploymentId deadline (·.beginRecovery.1) b.beginRecovery.1 s
    rw [b.beginRecovery_twice] at hbook
    split at h
    · next e b₂ s₁ hrec =>
      rw [hrec] at hbook
      cases h
      exact .inl ⟨hbook, nofun⟩
    · next outcome b₂ s₁ hrec =>
      rw [hrec] at hbook
      obtain rfl : b₂ = b.beginRecovery.1 := hbook
      split at h
      · cases h
        exact .inl ⟨rfl, nofun⟩
      · next confirmed unproven s₂ hobs =>
        split_ifs at h with hout hunproven
        · cases h
          exact .inl ⟨rfl, fun r hr => by cases hr; rfl⟩
        · cases h
          exact .inl ⟨rfl, fun r hr => by cases hr; rfl⟩
        · obtain ⟨cleanUp, hlog, hclean⟩ := p.reconcile_ok hrec (Bool.eq_true_of_not_eq_false hout)
          obtain ⟨observations, hlog', hall⟩ := observeAll_ok (List.Subset.refl _) hobs
          rcases b.beginRecovery.1.finishRecovery_cases epoch confirmed with
            ⟨e, hfin⟩ | ⟨b₃, hfin, hcleared, hconfirmed⟩
          · rw [hfin] at h
            cases h
            exact .inl ⟨rfl, nofun⟩
          · rw [hfin] at h
            cases h
            refine .inr ⟨_, rfl, rfl, hcleared, cleanUp, observations, by rw [hlog', hlog], hclean,
              fun m hm => ?_⟩
            rw [Book.specs_beginRecovery] at hconfirmed
            exact (hall m (hconfirmed m hm)).resolve_left (List.not_mem_nil)

/-- If `reconcile_startup` returns ok, the clean-up has found every listed container down, every
model was observed stopped after it, and the book is clear. If it returns anything else, or raises,
the book is closed as it stands. -/
theorem reconcileStartup_fails_closed (p : Ports σ) (deploymentId : String)
    (observers : Dict ModelId (Observe σ)) (deadline : Time) (b : Book) (s : Scene σ) :
    match reconcileStartup p deploymentId observers deadline b s with
    | (.ok r, b', s') =>
      if r.ok = true then
        b'.Cleared ∧ ∃ cleanUp observations, s'.log = s.log ++ cleanUp ++ observations ∧
          p.CleanUp deploymentId cleanUp ∧
          ∀ m ∈ b.specs.keys, ObservedStopped observers ⟨deploymentId, none, none⟩ deadline m
            observations
      else b.Closed b'
    | (.error _, b', _) => b.Closed b' := by
  have hclosed := b.closed_beginRecovery
  rcases hres : reconcileStartup p deploymentId observers deadline b s with ⟨res, b', s'⟩
  rcases reconcileStartup_cases hres with ⟨rfl, hnot⟩ | ⟨r, rfl, hok, hcleared, hrest⟩
  · cases res with
    | error e => exact hclosed
    | ok r =>
      simp only [hnot r rfl, Bool.false_eq_true, if_false]
      exact hclosed
  · simp only [hok, if_true]
    exact ⟨hcleared, hrest⟩

end Startup

end ModelSwitch

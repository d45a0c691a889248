import ModelSwitch.Proofs.Execution.Moves

/-!
# What the shared parts of the coroutines do

A rule of pre- and postconditions for sections: `e.Meets G R` says where the effect `e` leaves the
service, under `G` if the coroutine is suspended and under `R` if it has ended. The pre- and
postconditions are built from `At`: the moves made since the section began, the debts that remain
and the lock. Each part of a coroutine gets one lemma for its start and one for its step.
-/

namespace ModelSwitch.Execution

/-! ### Postconditions of sections -/

namespace Effect

variable {α β ρ τ : Type} {G : Service → α → Prop} {R : Service → Except Exc ρ → Prop}

/-- Where an effect leaves the service. -/
def Meets (e : Effect α ρ) (G : Service → α → Prop) (R : Service → Except Exc ρ → Prop) : Prop :=
  match e.ctl with
  | .goto pc => G e.next pc
  | .done r => R e.next r

lemma Meets.goto {s : Service} {pc : α} (h : G s pc) : (goto s pc : Effect α ρ).Meets G R := h

lemma Meets.ret {s : Service} {v : ρ} (h : R s (.ok v)) : (ret s v : Effect α ρ).Meets G R := h

lemma Meets.raise {s : Service} {e : Exc} (h : R s (.error e)) :
    (raise s e : Effect α ρ).Meets G R := h

lemma meets_true (e : Effect α ρ) : e.Meets (fun _ _ => True) fun _ _ => True := by
  simp only [Meets]
  split <;> trivial

lemma Meets.ite {c : Prop} [Decidable c] {e e' : Effect α ρ} (h : c → e.Meets G R)
    (h' : ¬ c → e'.Meets G R) : (if c then e else e').Meets G R := by
  split
  · next hc => exact h hc
  · next hc => exact h' hc

lemma Meets.mono {e : Effect α ρ} {G' : Service → α → Prop} {R' : Service → Except Exc ρ → Prop}
    (h : e.Meets G R) (hG : ∀ s pc, G s pc → G' s pc) (hR : ∀ s r, R s r → R' s r) :
    e.Meets G' R' := by
  simp only [Meets] at h ⊢
  split at h
  · exact hG _ _ h
  · exact hR _ _ h

/-- The caller of a nested coroutine is suspended with it and goes on when it ends. -/
lemma Meets.bind {e : Effect α ρ} {wrap : α → β} {k : Service → Except Exc ρ → Effect β τ}
    {G' : Service → β → Prop} {R' : Service → Except Exc τ → Prop} (h : e.Meets G R)
    (hG : ∀ s pc, G s pc → G' s (wrap pc)) (hR : ∀ s r, R s r → (k s r).Meets G' R') :
    (e.bind wrap k).Meets G' R' := by
  cases hctl : e.ctl with
  | goto pc =>
    simp only [Meets, hctl] at h
    simp only [Effect.bind, hctl]
    exact hG _ _ h
  | done r =>
    simp only [Meets, hctl] at h
    simp only [Effect.bind, hctl]
    exact hR _ _ h

/-- A section of the nested coroutine is one of its caller. -/
lemma Meets.within {x : Option (Effect α ρ)} {e : Effect β τ} {wrap : α → β}
    {k : Service → Except Exc ρ → Effect β τ} {G' : Service → β → Prop}
    {R' : Service → Except Exc τ → Prop} (hstep : x.map (·.bind wrap k) = some e)
    (h : ∀ {e' : Effect α ρ}, x = some e' → e'.Meets (fun s pc => G' s (wrap pc)) R)
    (hR : ∀ s r, R s r → (k s r).Meets G' R') : e.Meets G' R' := by
  obtain ⟨e', he', rfl⟩ := Option.map_eq_some_iff.mp hstep
  exact (h he').bind (fun _ _ hg => hg) hR

end Effect

lemma withLock_some {α ρ : Type} {s : Service} {section_ e : Effect α ρ} {inp : Input}
    (h : withLock s section_ inp = some e) : s.lock = none ∧ e = section_ := by
  cases inp with
  | go =>
    simp only [withLock, Option.ite_none_right_eq_some, Option.some.injEq,
      Option.isNone_iff_eq_none] at h
    exact ⟨h.1, h.2.symm⟩
  | _ => cases h

/-! ### Stances -/

/-- The executions are on file. -/
def Service.Keeps (s : Service) (ids : List ExecutionId) : Prop :=
  ∀ id ∈ ids, (s.records.get? id).isSome = true

/-- The executions are settled. -/
def Service.Ended (s : Service) (ids : List ExecutionId) : Prop :=
  ∀ id ∈ ids, (s.get id).settled = true

/-- Where a coroutine stands: the debts it has, the execution it decides if it holds the lock, the
execution whose result it publishes, the settled executions it tears down, the executions it knows
to be on file, what is known of the data it carries, and whether an exception of the port it waits
for ends it. -/
structure Stance where
  owes : List Debt := []
  holds : Option (Option ExecutionId) := none
  publishes : Option ExecutionId := none
  tears : List ExecutionId := []
  files : List ExecutionId := []
  data : Prop := True
  fragile : Bool := false

/-- The stance claims nothing of the records. -/
def Stance.Bare (st : Stance) : Prop := st.publishes = none ∧ st.tears = [] ∧ st.files = []

/-- Nothing is lost if the port raises. -/
def Stance.Bears (L : Licence) (s : Service) (inp : Input) (st : Stance) : Prop :=
  st.fragile = true → ∀ e, inp = .answer (.error e) → ∀ δ ∈ st.owes, ¬ s.Unpaid δ ∨ L.forgets δ

/-- The service in the course of a section of task `t` that began with `p₀`; `base` is the lock of
the others. -/
structure At (L : Licence) (t : TaskId) (base : Option (TaskId × Option ExecutionId))
    (p₀ : List Debt × Service) (d : List Debt) (x : Option (Option ExecutionId))
    (s : Service) : Prop where
  moves : Relation.ReflTransGen (Move L) p₀ (d, s)
  lock : s.lock = (x.map (t, ·)).or base
  owner : x.isSome = true → base = none

/-- The section of task `t` has ended in a stance. -/
structure Stands (L : Licence) (t : TaskId) (base : Option (TaskId × Option ExecutionId))
    (p₀ : List Debt × Service) (st : Stance) (s : Service) : Prop
    extends At L t base p₀ st.owes st.holds s where
  publishes : ∀ id ∈ st.publishes, L.publisher id ∨ (s.get id).publishing = true
  tears : s.Ended st.tears
  files : s.Keeps st.files
  data : st.data

/-- What a coroutine raises is a plain text. -/
def Raises {ρ : Type} (L : Licence) (r : Except Exc ρ) : Prop :=
  ∀ e, r = .error e → L.strict → Protocol.plainText e.text = true

/-- The answers of the ports are well formed. -/
def Input.Fits (L : Licence) : Input → Prop
  | .opened (.error (.blobStoreError _ _)) => True
  | .answer (.error e) | .opened (.error e) | .reserved (.error e) =>
    L.strict → Protocol.plainText e.text = true
  | .acquired (.ok lease) => L.strict → 1 ≤ lease.generation
  | .acquired (.error .cancelledError) => False
  | .acquired (.error (.sessionConflict code)) => L.strict → knownError code = true
  | .written (.ok blob) => L.strict → BlobOk blob
  | .executed (.ok handle) _ => L.named handle.identity
  | .executed (.error (.notDispatched code message)) _ =>
    L.strict → ErrorOk (errorDetail code (Exc.notDispatched code message).text)
  | .executed (.error e) _ =>
    L.strict → Protocol.plainText e.typeName = true ∧ Protocol.plainText e.text = true
  | _ => True

/-- A task in a stance is resumed with an answer. -/
structure Resumes (L : Licence) (t : TaskId) (base : Option (TaskId × Option ExecutionId))
    (p₀ : List Debt × Service) (st : Stance) (inp : Input) (s : Service) : Prop
    extends Stands L t base p₀ st s where
  bears : st.Bears L s inp
  publisher : ∀ id ∈ st.publishes, L.publisher id
  free : s.lock = none ∨ st.holds.isSome = true → base = none
  fits : inp.Fits L

namespace Service

@[simp] lemma finishIdempotency_lock (s : Service) (id : ExecutionId) :
    (s.finishIdempotency id).lock = s.lock := by
  obtain ⟨store, h⟩ := s.finishIdempotency_eq id
  rw [h]

@[simp] lemma finishIdempotency_get (s : Service) (id id' : ExecutionId) :
    (s.finishIdempotency id).get id' = s.get id' := by
  obtain ⟨store, h⟩ := s.finishIdempotency_eq id
  rw [h]
  rfl

end Service

section

variable {L : Licence} {t : TaskId} {base : Option (TaskId × Option ExecutionId)}
  {p₀ : List Debt × Service} {d : List Debt} {x : Option (Option ExecutionId)}
  {s : Service} {id : ExecutionId}

lemma Raises.ok {ρ : Type} (v : ρ) : Raises L (.ok v) := by
  rintro e ⟨⟩

lemma Raises.error {ρ : Type} {e : Exc} (h : L.strict → Protocol.plainText e.text = true) :
    Raises L (.error e : Except Exc ρ) := by
  rintro e' ⟨⟩
  exact h

namespace At

/-- A coroutine at the start of its step. -/
lemma start (hlock : s.lock = (x.map (t, ·)).or base) (hbase : x.isSome = true → base = none) :
    At L t base (d, s) d x s :=
  ⟨.refl, hlock, hbase⟩

/-- A section of which nothing has happened. -/
lemma fresh (L : Licence) (t : TaskId) (s : Service) : At L t s.lock ([], s) [] none s :=
  .start rfl nofun

/-- A move that leaves the lock alone. -/
lemma move (h : At L t base p₀ d x s) {d' : List Debt} {s' : Service}
    (hm : Move L (d, s) (d', s')) (hlock : s'.lock = s.lock) : At L t base p₀ d' x s' :=
  ⟨h.moves.tail hm, hlock.trans h.lock, h.owner⟩

/-- A stance that publishes nothing. -/
lemma stands {st : Stance} (h : At L t base p₀ st.owes st.holds s) (hp : st.publishes = none)
    (ht : s.Ended st.tears) (hf : s.Keeps st.files) (hd : st.data) : Stands L t base p₀ st s :=
  ⟨h, by rw [hp]; rintro id ⟨⟩, ht, hf, hd⟩

lemma stands' {st : Stance} (h : At L t base p₀ st.owes st.holds s) (hb : st.Bare)
    (hd : st.data) : Stands L t base p₀ st s :=
  h.stands hb.1 (by rw [hb.2.1]; nofun) (by rw [hb.2.2]; nofun) hd

lemma frame (h : At L t base p₀ d x s) {s' : Service} (hf : Frame s s') :
    At L t base p₀ d x s' :=
  h.move (.frame hf) hf.lock

lemma edit (h : At L t base p₀ d x s) {f : Record → Record}
    (he : Edit L id (s.get id) (f (s.get id))) : At L t base p₀ d x (s.update id f) :=
  h.move (.edit id f he) (Service.update_lock s id f)

lemma quiet (h : At L t base p₀ d x s) (f : Record → Record)
    (hf : ∀ r, (f r).core = r.core) : At L t base p₀ d x (s.update id f) :=
  h.edit (.quiet (hf _))

lemma settle (h : At L t base p₀ d x s) (id : ExecutionId) {f : Record → Record}
    (he : Settlement L id (s.get id) (f (s.get id))) :
    At L t base p₀ (.lease id :: .input id :: d) x (s.update id f) :=
  h.move (.settle id f he) (Service.update_lock s id f)

lemma finish (h : At L t base p₀ d x s) (id : ExecutionId) :
    At L t base p₀ d x (s.finishIdempotency id) :=
  h.move (.finish id) (Service.finishIdempotency_lock s id)

lemma note (h : At L t base p₀ d x s) {e : Event} (he : e.Plain L) :
    At L t base p₀ d x (s.note e) :=
  h.move (.note e he) rfl

lemma owe (h : At L t base p₀ d x s) {d' : List Debt} (hd : d ⊆ d') :
    At L t base p₀ d' x s :=
  h.move (.owe hd) rfl

lemma pay {δ : Debt} (h : At L t base p₀ (δ :: d) x s) (hδ : ¬ s.Unpaid δ ∨ L.forgets δ) :
    At L t base p₀ d x s := by
  refine At.owe (h.move (.pay δ hδ) rfl) ?_
  intro a ha
  rw [List.filter_cons_of_neg (by simp)] at ha
  exact (List.mem_filter.mp ha).1

/-- Debts of an execution that is not settled are none. -/
lemma payUnsettled (h : At L t base p₀ (.lease id :: .input id :: d) x s)
    (hs : (s.get id).settled = false) : At L t base p₀ d x s := by
  refine (h.pay (.inl ?_)).pay (.inl ?_)
  · rintro ⟨hs', -⟩
    rw [hs] at hs'
    cases hs'
  · rintro ⟨hs', -⟩
    rw [hs] at hs'
    cases hs'

lemma payAll {d' : List Debt} (h : At L t base p₀ (d' ++ d) x s)
    (hd : ∀ δ ∈ d', ¬ s.Unpaid δ ∨ L.forgets δ) : At L t base p₀ d x s := by
  induction d' with
  | nil => exact h
  | cons δ d' ih =>
    exact ih (h.pay (hd δ List.mem_cons_self)) fun δ' hδ' => hd δ' (List.mem_cons_of_mem _ hδ')

/-- The lock is entered. -/
lemma take (h : At L t none p₀ d none s) (x : Option ExecutionId) :
    At L t none p₀ d (some x) { s with lock := some (t, x) } :=
  ⟨h.moves.tail (.take t x h.lock), rfl, fun _ => rfl⟩

/-- The lock is left. -/
lemma free (h : At L t none p₀ d x s)
    (hd : ∀ id, x = some (some id) →
      (s.get id).Decided ∨ L.undecided id (s.get id).publishing) :
    At L t none p₀ d none s.unlock := by
  refine ⟨h.moves.tail (.free ?_), rfl, nofun⟩
  intro t' id hlock
  rw [h.lock] at hlock
  cases x with
  | none => cases hlock
  | some x => cases hlock; exact hd id rfl

end At

/-! ### Frames -/

namespace Frame

lemma refl (s : Service) : Frame s s := ⟨rfl, rfl, rfl, rfl, rfl, rfl, rfl, rfl, le_rfl⟩

lemma addCleanup (s : Service) (blob : String) : Frame s (s.addCleanup blob) := by
  simp only [Service.addCleanup]
  split
  · exact refl s
  · exact ⟨rfl, rfl, rfl, rfl, rfl, rfl, rfl, rfl, le_rfl⟩

lemma discardCleanup (s : Service) (blob : String) : Frame s (s.discardCleanup blob) :=
  ⟨rfl, rfl, rfl, rfl, rfl, rfl, rfl, rfl, le_rfl⟩

end Frame

/-! ### Settling decisions -/

namespace Service

lemma settleError_eq (s : Service) (id : ExecutionId) (error : ErrorDetail) (state : ExecState) :
    s.settleError id error state =
      (s.update id fun r =>
        { r with error := some error, state := state, settled := true }).finishIdempotency id := by
  simp only [settleError, markSettled, update_update]

lemma terminateLocal_eq (s : Service) (id : ExecutionId) (code : { code : String // code ≠ "" })
    (message : String) :
    s.terminateLocal id code message =
      (s.update id fun r =>
        { r with
          evidence := some (r.notStarted code), error := some (errorDetail code.1 message),
          state := if cancelCode code.1 then .cancelled else .failed,
          settled := true }).finishIdempotency id := by
  simp only [terminateLocal, settleError_eq, update_update]

lemma exists_terminateLocal_eq (s : Service) (id : ExecutionId)
    (code : { code : String // code ≠ "" }) (message : String) :
    ∃ f store, s.terminateLocal id code message =
      { s.update id f with idempotency := store } := by
  rw [terminateLocal_eq]
  exact ⟨_, finishIdempotency_eq _ id⟩

end Service

namespace At

lemma terminateLocal (h : At L t base p₀ d x s) {code : { code : String // code ≠ "" }}
    {message : String} (hs : (s.get id).settled = false)
    (hok : L.strict → ErrorOk (errorDetail code.1 message)) :
    At L t base p₀ (.lease id :: .input id :: d) x (s.terminateLocal id code message) := by
  rw [Service.terminateLocal_eq]
  exact (h.settle id (.ended code message hs hok)).finish _

/-- What `_evaluate` decides. -/
lemma evaluate (h : At L t base p₀ d x s) (id : ExecutionId) :
    At L t base p₀ (if (s.evaluate id).2 then .lease id :: .input id :: d else d) x
      (s.evaluate id).1 := by
  simp only [Service.evaluate]
  split
  · exact h
  · next hne =>
    simp only [Bool.or_eq_true, not_or, Bool.not_eq_true, Option.isNone_eq_false_iff] at hne
    split
    · next hm =>
      rw [Bool.or_eq_true] at hm
      rw [Service.settleError_eq]
      exact (h.settle id (.reason hne.1 hne.2 hm)).finish _
    · next hm =>
      rw [Bool.or_eq_true] at hm
      split
      · split
        · rw [Service.settleError_eq]
          refine (h.settle id
            (.failed _ _ .failed hne.1 (.inl hne.2) (fun hc => hc) (.inl rfl) ?_)).finish _
          exact fun _ => .inr ⟨by decide, by decide, rfl⟩
        · exact h.edit (.publish hne.1 hne.2 hm)
      · exact h

end At

namespace Service

lemma exists_of_evidence (h : (s.get id).evidence.isSome = true) :
    ∃ r, s.records.get? id = some r := by
  cases hr : s.records.get? id with
  | some r => exact ⟨r, rfl⟩
  | none => rw [get, hr] at h; cases h

lemma exists_of_lease (h : (s.get id).lease.isSome = true) :
    ∃ r, s.records.get? id = some r := by
  cases hr : s.records.get? id with
  | some r => exact ⟨r, rfl⟩
  | none => rw [get, hr] at h; cases h

lemma exists_of_inputCtx (h : (s.get id).inputCtx.isSome = true) :
    ∃ r, s.records.get? id = some r := by
  cases hr : s.records.get? id with
  | some r => exact ⟨r, rfl⟩
  | none => rw [get, hr] at h; cases h

lemma exists_of_publishing (h : (s.get id).publishing = true) : s.Keeps [id] := by
  rintro _ hid
  rw [List.mem_singleton.mp hid]
  cases hr : s.records.get? id with
  | some r => rfl
  | none => rw [get, hr] at h; cases h

namespace Ended

variable {ids : List ExecutionId}

lemma single (h : (s.get id).settled = true) : s.Ended [id] := by
  rintro _ hid
  rw [List.mem_singleton.mp hid]
  exact h

lemma congr {s' : Service} (h : s.Ended ids) (hs : s'.records = s.records) : s'.Ended ids := by
  intro id hid
  rw [get, hs]
  exact h id hid

lemma update (h : s.Ended ids) {f : Record → Record}
    (hf : ∀ r, r.settled = true → (f r).settled = true) : (s.update id f).Ended ids := by
  intro id' hid
  rcases s.get_update_cases id id' f with heq | ⟨rfl, heq⟩
  · rw [heq]; exact h id' hid
  · rw [heq]; exact hf _ (h id' hid)

end Ended

lemma Keeps.congr {ids : List ExecutionId} {s' : Service} (h : s.Keeps ids)
    (hs : s'.records = s.records) : s'.Keeps ids := by
  intro id hid
  rw [hs]
  exact h id hid

lemma Keeps.update {ids : List ExecutionId} (h : s.Keeps ids) (f : Record → Record) :
    (s.update id f).Keeps ids := by
  intro id' hid
  rw [isSome_update]
  exact h id' hid

lemma Ended.moves {L : Licence} {ids : List ExecutionId} {p p' : List Debt × Service}
    (hm : Relation.ReflTransGen (Move L) p p') (h : p.2.Ended ids) : p'.2.Ended ids := by
  induction hm with
  | refl => exact h
  | tail _ hm ih => exact fun id hid => (hm.change id).settled (ih id hid)

lemma Keeps.moves {L : Licence} {ids : List ExecutionId} {p p' : List Debt × Service}
    (hm : Relation.ReflTransGen (Move L) p p') (h : p.2.Keeps ids) : p'.2.Keeps ids := by
  induction hm with
  | refl => exact h
  | tail _ hm ih => exact fun id hid => hm.isSome (ih id hid)

lemma settleError_settled {error : ErrorDetail} {state : ExecState} (h : s.Keeps [id]) :
    (s.settleError id error state).Ended [id] := by
  obtain ⟨r, hr⟩ := Option.isSome_iff_exists.mp (h id List.mem_cons_self)
  refine .single ?_
  rw [settleError_eq, finishIdempotency_get, get_update_self hr]

lemma terminateLocal_settled {code : { code : String // code ≠ "" }} {message : String}
    (h : s.Keeps [id]) : (s.terminateLocal id code message).Ended [id] :=
  settleError_settled (h.update _)

/-- What `_evaluate` calls settled is settled. -/
lemma evaluate_settled (h : (s.evaluate id).2 = true) : (s.evaluate id).1.Ended [id] := by
  generalize heq : s.evaluate id = p at h ⊢
  simp only [evaluate] at heq
  split at heq
  · subst heq; cases h
  · next hne =>
    simp only [Bool.or_eq_true, not_or, Bool.not_eq_true, Option.isNone_eq_false_iff] at hne
    obtain ⟨r, hr⟩ := exists_of_evidence hne.2
    have hkeeps : s.Keeps [id] := by
      rintro _ hid
      rw [List.mem_singleton.mp hid, hr]
      rfl
    split at heq
    · subst heq; exact settleError_settled hkeeps
    · split at heq
      · split at heq
        · subst heq; exact settleError_settled hkeeps
        · subst heq; cases h
      · subst heq; cases h

lemma conclude_settled (h : (s.conclude id).2 = true) : (s.conclude id).1.Ended [id] :=
  (evaluate_settled h).congr rfl

/-- After `_evaluate` nothing is left to decide. -/
lemma evaluate_decided (s : Service) (id : ExecutionId) :
    ((s.evaluate id).1.get id).Decided := by
  simp only [evaluate]
  split
  · next h =>
    rw [Bool.or_eq_true, Option.isNone_iff_eq_none] at h
    exact h.imp_right .inl
  · next hne =>
    simp only [Bool.or_eq_true, not_or, Bool.not_eq_true, Option.isNone_eq_false_iff] at hne
    obtain ⟨r, hr⟩ := exists_of_evidence hne.2
    split
    · rw [settleError_eq, finishIdempotency_get, get_update_self hr]
      exact .inl rfl
    · next hm =>
      rw [Bool.or_eq_true] at hm
      split
      · split
        · rw [settleError_eq, finishIdempotency_get, get_update_self hr]
          exact .inl rfl
        · rw [get_update_self hr]
          exact .inr (.inr hm)
      · exact .inr (.inr hm)

end Service

/-- The end of a section that decides. -/
lemma At.conclude (h : At L t none p₀ d x s) (id : ExecutionId)
    (hx : ∀ id', x = some (some id') → id' = id) :
    At L t none p₀ (if (s.conclude id).2 then .lease id :: .input id :: d else d) none
      (s.conclude id).1 := by
  refine (h.evaluate id).free ?_
  rintro id' hx'
  rw [hx id' hx']
  exact .inl (s.evaluate_decided id)

/-! ### `_teardown` -/

/-- How a part ends that leaves the debts `d` to its caller; an exception leaves none. -/
def Torn (L : Licence) (t : TaskId) (base : Option (TaskId × Option ExecutionId))
    (p₀ : List Debt × Service) (d : List Debt) (ts : List ExecutionId) (s : Service)
    (r : Except Exc Unit) : Prop :=
  At L t base p₀ d none s ∧ (r ≠ .ok () → At L t base p₀ [] none s) ∧ Raises L r ∧ s.Ended ts

variable {ts : List ExecutionId}

lemma Torn.ok (h : At L t base p₀ d none s) (hs : s.Ended ts) :
    Torn L t base p₀ d ts s (.ok ()) :=
  ⟨h, fun hne => absurd rfl hne, .ok _, hs⟩

/-- A part that leaves no debts. -/
lemma Torn.of_at {r : Except Exc Unit} (h : At L t base p₀ [] none s ∧ Raises L r)
    (hs : s.Ended ts) : Torn L t base p₀ d ts s r :=
  ⟨h.1.owe (List.nil_subset _), fun _ => h.1, h.2, hs⟩

lemma Torn.at_nil {r : Except Exc Unit} (h : Torn L t base p₀ [] ts s r) :
    At L t base p₀ [] none s ∧ Raises L r :=
  ⟨h.1, h.2.2.1⟩

namespace Teardown

/-- A teardown that is told to release the lease has yet to close the input. -/
def stance (id : ExecutionId) (d : List Debt) (ts : List ExecutionId) : Pc → Stance
  | .releasing => { owes := .input id :: d, tears := id :: ts, fragile := true }
  | _ => { owes := d, tears := id :: ts }

lemma output_meets (h : At L t base p₀ d none s) (hs : s.Ended (id :: ts)) :
    (output s id).Meets (fun s' pc => Stands L t base p₀ (stance id d ts pc) s')
      (Torn L t base p₀ d ts) := by
  simp only [output]
  split
  · exact .goto (h.stands rfl hs nofun trivial)
  · exact .ret (.ok h (List.forall_mem_cons.mp hs).2)

lemma input_meets (h : At L t base p₀ (.input id :: d) none s) (hs : s.Ended (id :: ts)) :
    (input s id).Meets (fun s' pc => Stands L t base p₀ (stance id d ts pc) s')
      (Torn L t base p₀ d ts) := by
  simp only [input]
  split
  · next hnone =>
    exact output_meets (h.pay (.inl (by simp [Service.Unpaid, hnone]))) hs
  · next ctx hctx =>
    split
    · next hclosed =>
      exact output_meets (h.pay (.inl (by simp [Service.Unpaid, hclosed]))) hs
    · next hopen =>
      rw [Bool.not_eq_true] at hopen
      obtain ⟨r, hget⟩ :=
        Service.exists_of_inputCtx (hctx ▸ rfl : (s.get id).inputCtx.isSome = true)
      have hmove : At L t base p₀ (.input id :: d) none
          ((s.update id fun r => { r with inputClosed := true }).note (.closed ctx)) :=
        h.move (.close id ctx hctx hopen (hs id List.mem_cons_self)) (Service.update_lock ..)
      have hs' : (s.update id fun r => { r with inputClosed := true }).Ended (id :: ts) :=
        hs.update fun r hr => hr
      refine .goto ((hmove.pay (.inl ?_)).stands rfl hs' nofun trivial)
      simp [Service.Unpaid, Service.get_note, Service.get_update_self hget]

/-- The start of a teardown asks for the release of the lease. -/
lemma start_meets (h : At L t base p₀ (.lease id :: .input id :: d) none s)
    (hs : s.Ended (id :: ts)) :
    (start s id).Meets (fun s' pc => Stands L t base p₀ (stance id d ts pc) s')
      (Torn L t base p₀ d ts) := by
  simp only [start]
  split
  · next hl =>
    exact input_meets (h.pay (.inl (by simp [Service.Unpaid, hl]))) hs
  · next lease hl =>
    split
    · next hr =>
      exact input_meets (h.pay (.inl (by simp [Service.Unpaid, hr]))) hs
    · next hr =>
      rw [Bool.not_eq_true] at hr
      obtain ⟨r, hget⟩ := Service.exists_of_lease (hl ▸ rfl : (s.get id).lease.isSome = true)
      have hmove : At L t base p₀ (.lease id :: .input id :: d) none
          ((s.update id fun r => { r with leaseReleased := true }).note
            (.release lease (outcome (s.get id)))) :=
        h.move (.release id lease _ hl hr) (Service.update_lock ..)
      have hs' : (s.update id fun r => { r with leaseReleased := true }).Ended (id :: ts) :=
        hs.update fun r hr => hr
      refine .goto ((hmove.pay (.inl ?_)).stands rfl hs' nofun trivial)
      simp [Service.Unpaid, Service.get_note, Service.get_update_self hget]

lemma stance_tears (pc : Pc) : (stance id d ts pc).tears = id :: ts := by
  cases pc <;> rfl

lemma step_meets {pc : Pc} {inp : Input} {e : Effect Pc Unit}
    (h : Resumes L t base p₀ (stance id d ts pc) inp s) (hstep : step s id pc inp = some e) :
    e.Meets (fun s' pc => Stands L t base p₀ (stance id d ts pc) s')
      (Torn L t base p₀ d ts) := by
  have hs : s.Ended (id :: ts) := stance_tears pc ▸ h.tears
  have hts : s.Ended ts := (List.forall_mem_cons.mp hs).2
  have hadd : ∀ blob, (s.addCleanup blob).Ended ts := fun blob =>
    hts.congr (Frame.addCleanup s blob).records
  simp only [step] at hstep
  split at hstep
  · cases hstep; exact input_meets h.toAt hs
  · next e =>
    cases hstep
    have hall : At L t base p₀ (.input id :: d ++ []) none s := by
      rw [List.append_nil]
      exact h.toAt
    exact .raise (.of_at ⟨hall.payAll (h.bears rfl e rfl), .error h.fits⟩ hts)
  · cases hstep; exact output_meets h.toAt hs
  · cases hstep; exact .goto (h.toAt.stands rfl hs nofun trivial)
  · cases hstep; exact .ret (.ok (h.toAt.frame (.addCleanup _ _)) (hadd _))
  · cases hstep; exact .ret (.ok (h.toAt.frame (.discardCleanup _ _)) hts)
  · cases hstep; exact .ret (.ok (h.toAt.frame (.addCleanup _ _)) (hadd _))
  · cases hstep

end Teardown

/-! ### `_cancel_side_effects` -/

lemma Stands.frame {st : Stance} (h : Stands L t base p₀ st s) {s' : Service} (hf : Frame s s') :
    Stands L t base p₀ st s' :=
  ⟨h.toAt.frame hf, by simpa only [Service.get, hf.records] using h.publishes,
    h.tears.congr hf.records, h.files.congr hf.records, h.data⟩

lemma At.holding (h : At L t base p₀ d x s) : Stands L t base p₀ { owes := d, holds := x } s :=
  h.stands' ⟨rfl, rfl, rfl⟩ trivial

namespace CancelSideEffects

variable {st : Stance}

lemma cancelReservation_meets (h : Stands L t base p₀ st s) :
    (cancelReservation s id).Meets (fun s' _ => Stands L t base p₀ st s')
      (fun s' r => Stands L t base p₀ st s' ∧ r = .ok ()) := by
  simp only [cancelReservation]
  split
  · exact .ret ⟨h, rfl⟩
  · exact .goto h

lemma start_meets (h : Stands L t base p₀ st s) :
    (start s id).Meets (fun s' _ => Stands L t base p₀ st s')
      (fun s' r => Stands L t base p₀ st s' ∧ r = .ok ()) := by
  simp only [start]
  split
  · exact .goto h
  · exact cancelReservation_meets h

/-- The records are left alone, so the caller keeps its stance. -/
lemma step_meets {pc : Pc} {inp : Input} {e : Effect Pc Unit} (h : Stands L t base p₀ st s)
    (hstep : step s id pc inp = some e) :
    e.Meets (fun s' _ => Stands L t base p₀ st s')
      (fun s' r => Stands L t base p₀ st s' ∧ r = .ok ()) := by
  simp only [step] at hstep
  split at hstep
  · cases hstep; exact cancelReservation_meets h
  · cases hstep; exact .ret ⟨h.frame (.addCleanup _ _), rfl⟩
  · cases hstep; exact .ret ⟨h, rfl⟩
  · cases hstep

end CancelSideEffects

/-! ### `_publish_and_settle` -/

lemma Service.addCleanup_update (s : Service) (id : ExecutionId) (f : Record → Record)
    (blob : String) : (s.addCleanup blob).update id f = (s.update id f).addCleanup blob := by
  have hget : (s.addCleanup blob).records = s.records := (Frame.addCleanup s blob).records
  cases hr : s.records.get? id with
  | none => rw [update_of_none hr, update_of_none (hget ▸ hr)]
  | some r =>
    rw [update_of_some hr, update_of_some (hget ▸ hr)]
    simp only [addCleanup]
    split <;> rfl

namespace PublishAndSettle

/-- Until it has settled the execution, the publisher owes its teardown. -/
def stance (L : Licence) (id : ExecutionId) : Pc → Stance
  | .writing => { owes := [.lease id, .input id], publishes := some id, files := [id] }
  | .settle failure published =>
    { owes := [.lease id, .input id], publishes := some id, files := [id],
      data := L.strict →
        (∀ f ∈ failure, f ≠ "cancelled" → knownError f = true) ∧ ∀ b ∈ published, BlobOk b }
  | .tearing pc => Teardown.stance id [] [] pc

lemma start_meets (h : At L t base p₀ [.lease id, .input id] none s)
    (hp : (s.get id).publishing = true) :
    (start s id).Meets (fun s' pc => Stands L t base p₀ (stance L id pc) s') fun _ _ => False := by
  have hpub : ∀ id' ∈ some id, L.publisher id' ∨ (s.get id').publishing = true := by
    rintro _ ⟨⟩
    exact .inr hp
  have hfile := Service.exists_of_publishing hp
  simp only [start]
  split
  · refine .goto ⟨h, hpub, nofun, hfile, fun _ => ⟨?_, ?_⟩⟩
    · rintro _ ⟨⟩ _
      decide
    · rintro _ ⟨⟩
  · exact .goto ⟨h, hpub, nofun, hfile, trivial⟩

lemma known_failure (e : Exc) (h : failure e ≠ "cancelled") : knownError (failure e) = true := by
  cases e with
  | blobStoreError code message =>
    simp only [failure] at h ⊢
    split
    · next hc => rw [if_pos hc] at h; exact absurd rfl h
    · simp only [blobCode]
      split <;> decide
  | _ => exact (by decide : knownError "storage_unavailable" = true)

lemma written_data {r : Except Exc PublishedBlob} (h : (Input.written r).Fits L) :
    (stance L id (written r)).data := by
  cases r with
  | ok blob =>
    refine fun hL => ⟨?_, ?_⟩
    · rintro _ ⟨⟩
    · rintro _ ⟨⟩
      exact h hL
  | error e =>
    refine fun _ => ⟨?_, ?_⟩
    · rintro _ ⟨⟩
      exact known_failure e
    · rintro _ ⟨⟩

/-- The outcome of a publish settles the execution. -/
lemma outcome_at {failure : Option String} {published : Option PublishedBlob}
    (h : At L t none p₀ d none s) (hpub : L.publisher id)
    (hdata : (stance L id (.settle failure published)).data) (hs : (s.get id).settled = false) :
    At L t none p₀ (.lease id :: .input id :: d) none (outcome s id failure published) := by
  cases failure with
  | some f =>
    simp only [outcome]
    split
    · rw [Service.settleError_eq, Service.addCleanup_update, Service.update_update]
      refine (At.frame (h.settle id (.failed _ true .cancelled hs (.inr hpub)
        (fun _ => rfl) (.inr rfl) ?_)) (.addCleanup _ _)).finish _
      intro _
      have herror : ((s.update id fun r => { r with cancelPending := true }).get id).error =
          (s.get id).error := by
        rcases s.get_update_cases id id fun r => { r with cancelPending := true }
          with h | ⟨-, h⟩ <;>
          rw [h]
      rw [herror]
      cases (s.get id).error with
      | some error => exact .inl rfl
      | none => exact .inr ⟨by decide, by decide, rfl⟩
    · next hf =>
      rw [Service.settleError_eq, Service.addCleanup_update]
      refine (At.frame (h.settle id (.failed _ _ .failed hs (.inr hpub)
        (fun hc => hc) (.inl rfl) ?_)) (.addCleanup _ _)).finish _
      exact fun hL => .inr ⟨(hdata hL).1 f rfl hf,
        (by decide : TextOk "the result could not be published"), rfl⟩
  | none =>
    cases published with
    | some blob =>
      simp only [outcome, Service.markSettled, Service.update_update]
      refine (h.move (.succeed id blob hs h.lock hpub ?_) (Service.update_lock ..)).finish _
      exact fun hL => (hdata hL).2 blob rfl
    | none =>
      simp only [outcome]
      rw [Service.settleError_eq]
      refine (h.settle id (.failed _ _ .failed hs (.inr hpub)
        (fun hc => hc) (.inl rfl) ?_)).finish _
      exact fun _ => .inr ⟨by decide, by decide, rfl⟩

lemma outcome_settled {failure : Option String} {published : Option PublishedBlob}
    (h : s.Keeps [id]) : (outcome s id failure published).Ended [id] := by
  have hadd : ∀ (s' : Service) (blob : String), s'.Keeps [id] → (s'.addCleanup blob).Keeps [id] :=
    fun s' blob hs' => hs'.congr (Frame.addCleanup s' blob).records
  cases failure with
  | some f =>
    simp only [outcome]
    split
    · exact Service.settleError_settled (hadd _ _ (h.update _))
    · exact Service.settleError_settled (hadd _ _ h)
  | none =>
    cases published with
    | some blob =>
      obtain ⟨r, hr⟩ := Option.isSome_iff_exists.mp (h id List.mem_cons_self)
      refine .single ?_
      simp only [outcome, Service.markSettled, Service.update_update,
        Service.finishIdempotency_get]
      rw [Service.get_update_self hr]
    | none => exact Service.settleError_settled h

lemma settle_meets {failure : Option String} {published : Option PublishedBlob}
    (h : At L t none p₀ [.lease id, .input id] none s) (hpub : L.publisher id)
    (hfile : s.Keeps [id]) (hdata : (stance L id (.settle failure published)).data) :
    (settle s id failure published).Meets
      (fun s' pc => Stands L t none p₀ (stance L id pc) s')
      (Torn L t none p₀ [.lease id, .input id] []) := by
  have h' : At L t none p₀ [.lease id, .input id] none
      (s.update id fun r => { r with publishing := false, outputPending := none }) :=
    h.edit .published
  simp only [settle]
  split
  · exact .ret (.ok h' nofun)
  · next hs =>
    have hout : At L t none p₀ [.lease id, .input id] none
        (outcome (s.update id fun r => { r with publishing := false, outputPending := none }) id
          failure published) :=
      (outcome_at h' hpub hdata (Bool.not_eq_true _ ▸ hs)).owe (by simp)
    exact (Teardown.start_meets hout (outcome_settled (hfile.update _))).bind
      (fun s' pc hs' => hs') fun s' r hr => .of_at hr.at_nil nofun

lemma step_meets {pc : Pc} {inp : Input} {e : Effect Pc Unit}
    (h : Resumes L t base p₀ (stance L id pc) inp s) (hstep : step s id pc inp = some e) :
    e.Meets (fun s' pc => Stands L t base p₀ (stance L id pc) s')
      (Torn L t base p₀ [.lease id, .input id] []) := by
  cases pc with
  | writing =>
    cases inp <;> cases hstep
    next r =>
    refine .goto ?_
    cases r with
    | ok blob | error e =>
      exact ⟨⟨h.moves, h.lock, h.owner⟩, h.publishes, nofun, h.files, written_data h.fits⟩
  | settle failure published =>
    obtain ⟨hlock, rfl⟩ := withLock_some hstep
    obtain rfl := h.free (.inl hlock)
    exact settle_meets h.toAt (h.publisher id rfl) h.files h.data
  | tearing pc =>
    exact .within hstep (Teardown.step_meets h) fun s' r hr => .of_at hr.at_nil nofun

end PublishAndSettle

/-! ### `_advance` -/

namespace Advance

def stance (L : Licence) (id : ExecutionId) : Pc → Stance
  | .publishing pc => PublishAndSettle.stance L id pc
  | .tearing pc => Teardown.stance id [] [] pc

lemma teardown_meets {settled : Bool}
    (h : At L t base p₀ (if settled then [.lease id, .input id] else []) none s)
    (hs : settled = true → s.Ended [id]) :
    (teardown s id settled).Meets (fun s' pc => Stands L t base p₀ (stance L id pc) s')
      (fun s' r => At L t base p₀ [] none s' ∧ Raises L r) := by
  simp only [teardown]
  cases settled with
  | true =>
    rw [if_pos rfl]
    exact (Teardown.start_meets h (hs rfl)).bind (fun s' pc hs' => hs') fun s' r hr => hr.at_nil
  | false => exact .ret ⟨h, .ok _⟩

lemma discard_frame (s : Service) (id : ExecutionId) : Frame s (discard s id) :=
  ⟨rfl, rfl, rfl, rfl, rfl, rfl, rfl, rfl, le_rfl⟩

lemma published_meets {r : Except Exc Unit}
    (h : Torn L t base p₀ [.lease id, .input id] [] s r) :
    (published s id r).Meets (fun s' pc => Stands L t base p₀ (stance L id pc) s')
      (fun s' r => At L t base p₀ [] none s' ∧ Raises L r) := by
  cases r with
  | error e =>
    exact .raise ⟨(h.2.1 (by simp)).frame (discard_frame s id), .error (h.2.2.1 e rfl)⟩
  | ok v =>
    have h' := h.1.frame (discard_frame s id)
    refine teardown_meets ?_ .single
    cases hs : ((discard s id).get id).settled with
    | true => exact h'
    | false => exact h'.payUnsettled hs

lemma start_meets {settled : Bool}
    (h : At L t base p₀ (if settled then [.lease id, .input id] else []) none s)
    (hs : settled = true → s.Ended [id]) :
    (start s id settled).Meets (fun s' pc => Stands L t base p₀ (stance L id pc) s')
      (fun s' r => At L t base p₀ [] none s' ∧ Raises L r) := by
  simp only [start]
  split
  · next hp =>
    have h' : At L t base p₀ [.lease id, .input id] none
        { s with publishInflight := id :: s.publishInflight } :=
      At.frame (h.owe (by cases settled <;> simp))
        ⟨rfl, rfl, rfl, rfl, rfl, rfl, rfl, rfl, le_rfl⟩
    exact (PublishAndSettle.start_meets h' hp.1).bind (fun s' pc hs' => hs') fun s' r hr => hr.elim
  · exact teardown_meets h hs

lemma step_meets {pc : Pc} {inp : Input} {e : Effect Pc Unit}
    (h : Resumes L t base p₀ (stance L id pc) inp s) (hstep : step s id pc inp = some e) :
    e.Meets (fun s' pc => Stands L t base p₀ (stance L id pc) s')
      (fun s' r => At L t base p₀ [] none s' ∧ Raises L r) := by
  cases pc with
  | publishing pc =>
    exact .within hstep (PublishAndSettle.step_meets h) fun s' r hr => published_meets hr
  | tearing pc =>
    exact .within hstep (Teardown.step_meets h) fun s' r hr => hr.at_nil

end Advance

end

end ModelSwitch.Execution

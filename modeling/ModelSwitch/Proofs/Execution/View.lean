import ModelSwitch.Proofs.Execution.Outcome

/-!
# Views of executions

Every record that the service holds passes the strict parser of views, provided that what the ports
and the callers deliver is well formed: codes of the error table, texts without NUL, parsable blob
references and instance identities, generations from one on.
-/

namespace ModelSwitch.Execution

open Protocol

/-! ### The parser -/

lemma require_ok {condition : Bool} {message : String} :
    require condition message = .ok () ↔ condition = true := by
  cases condition <;> simp [require]

lemma seq_ok {x y : Except Exc Unit} : (x >>= fun _ => y) = .ok () ↔ x = .ok () ∧ y = .ok () := by
  cases x <;> simp [bind, Except.bind]

lemma text_ok {value loc : String} : text value loc = .ok () ↔ TextOk value := by
  simp [text, seq_ok, require_ok, TextOk]

/-- The characters of an identifier are plain. -/
lemma idInner_ne_nul {c : Char} (h : idInner c = true) : c ≠ Char.ofNat 0 := by
  rintro rfl
  revert h
  decide

lemma idInner_of_idChar {c : Char} (h : idChar c = true) : idInner c = true := by
  simp only [idInner, h, Bool.true_or]

lemma isId_inner {value : String} (h : isId value = true) :
    value.toList ≠ [] ∧ ∀ c ∈ value.toList, idInner c = true := by
  simp only [isId] at h
  split at h
  · cases h
  · next first rest hlist =>
    rw [hlist]
    refine ⟨nofun, fun c hc => ?_⟩
    simp only [Bool.and_eq_true, Bool.or_eq_true] at h
    rcases List.mem_cons.mp hc with rfl | hc
    · exact idInner_of_idChar h.1
    · rcases h.2 with hnil | ⟨⟨-, hall⟩, hlast⟩
      · rw [List.isEmpty_iff.mp hnil] at hc
        cases hc
      · obtain ⟨last, hsome, hlast⟩ := (Option.any_eq_true _ _).mp hlast
        rw [← List.dropLast_append_getLast? last hsome, List.mem_append, List.mem_singleton] at hc
        rcases hc with hc | rfl
        · exact List.all_eq_true.mp hall c hc
        · exact idInner_of_idChar hlast

lemma isId.textOk {value : String} (h : isId value = true) : TextOk value := by
  obtain ⟨hne, hall⟩ := isId_inner h
  refine ⟨?_, ?_⟩
  · rintro rfl
    exact hne rfl
  · simp only [plainText, List.contains_eq_mem, Bool.not_eq_true', decide_eq_false_iff_not]
    exact fun hmem => idInner_ne_nul (hall _ hmem) rfl

/-- A short text of letters and digits is an identifier. -/
lemma isId_of_all {l : List Char} (hne : l ≠ []) (hlen : l.length ≤ 63)
    (hall : ∀ c ∈ l, idChar c = true) : isId (String.ofList l) = true := by
  cases l with
  | nil => exact absurd rfl hne
  | cons first rest =>
    simp only [isId, String.toList_ofList, Bool.and_eq_true, Bool.or_eq_true]
    refine ⟨hall _ List.mem_cons_self, ?_⟩
    by_cases hnil : rest = []
    · exact .inl (by rw [hnil]; rfl)
    · refine .inr ⟨⟨decide_eq_true (Nat.le_of_succ_le_succ hlen), List.all_eq_true.mpr ?_⟩, ?_⟩
      · intro c hc
        exact idInner_of_idChar (hall c (List.mem_cons_of_mem _ (List.dropLast_subset _ hc)))
      · rw [List.getLast?_eq_some_getLast hnil, Option.any_some]
        exact hall _ (List.mem_cons_of_mem _ (List.getLast_mem hnil))

lemma idChar_hexDigit (n : ℕ) : idChar (hexDigit n) = true := by
  have h : ∀ k < 16, idChar ("0123456789abcdef".toList.getD k '0') = true := by decide
  exact h _ (Nat.mod_lt _ (by decide))

lemma isId_uuidHex (n : Uuid) : isId (uuidHex n) = true := by
  refine isId_of_all ?_ (by simp) ?_
  · simp
  · intro c hc
    obtain ⟨i, -, rfl⟩ := List.mem_map.mp hc
    exact idChar_hexDigit _

lemma idField_ok {value key loc : String} (h : isId value = true) :
    idField value key loc = .ok () := by
  rw [idField, seq_ok, text_ok, require_ok]
  exact ⟨isId.textOk h, h⟩

/-! ### Valid records -/

/-- Identities that the parser of views accepts. -/
def ServiceConfig.accepts (cfg : ServiceConfig) (i : InstanceIdentity) : Bool :=
  (parseInstanceIdentity cfg.fromIsoformat i "execution_view.instance").isOk

/-- What the parser asks of a record besides its shape. -/
structure Record.Valid (cfg : ServiceConfig) (r : Record) : Prop where
  model : isId r.modelId = true
  fence : r.fence.executionId = some r.executionId ∧ r.fence.attempt = some 1 ∧
    r.fence.modelId = r.modelId
  bootId : TextOk r.fence.bootId
  generation : 1 ≤ r.fence.generation
  identity : ∀ i ∈ r.identity, cfg.accepts i = true
  expected : ∀ i ∈ r.expectedInstance, cfg.accepts i = true
  dispatched : r.dispatchState = .dispatched ↔ r.identity.isSome = true
  result : ∀ b ∈ r.result, parseBlobRef b "execution_view.result" = .ok ()
  error : ∀ e ∈ r.error, ErrorOk e
  reason : ErrorOk r.reasonError

lemma isOk_unit {x : Except Exc Unit} : x.isOk = true ↔ x = .ok () := by
  cases x <;> simp [Except.isOk, Except.toBool]

lemma knownError.textOk {code : String} (h : knownError code = true) : TextOk code := by
  have hall : ∀ row ∈ errorTable, TextOk row.1 := by decide
  obtain ⟨row, hrow, heq⟩ := List.any_eq_true.mp h
  rw [decide_eq_true_eq] at heq
  exact heq ▸ hall row hrow

lemma parseErrorDetail_ok {e : ErrorDetail} {loc : String} (h : ErrorOk e) :
    parseErrorDetail e loc = .ok () := by
  simp only [parseErrorDetail, seq_ok, text_ok, require_ok, decide_eq_true_eq]
  exact ⟨knownError.textOk h.known, h.known, h.message, h.retryable⟩

lemma nullable_ok {α : Type} {value : Option α} {parse : α → Except Exc Unit}
    (h : ∀ a ∈ value, parse a = .ok ()) : nullable value parse = .ok () := by
  cases value with
  | none => rfl
  | some a => exact h a rfl

lemma Record.Valid.parseFence {cfg : ServiceConfig} {r : Record} (h : r.Valid cfg) {loc : String} :
    parseFence r.document.fence loc = .ok () := by
  simp only [Protocol.parseFence, seq_ok, text_ok, require_ok, intAtLeast, Record.document,
    Fence.document, h.fence.1, h.fence.2.1, h.fence.2.2, Option.map_some, Option.isNone_some,
    Option.all_some, decide_eq_true_eq]
  refine ⟨h.bootId, idField_ok h.model, ?_, idField_ok (isId_uuidHex _), trivial, isId_uuidHex _,
    ?_⟩
  · exact_mod_cast h.generation
  · norm_num

lemma Record.Shaped.parseOutcome {r : Record} (h : r.Shaped) {loc : String} :
    parseOutcome r.document loc = .ok () := by
  have hterm : r.settled = r.state.terminal := h.terminal
  cases hst : r.state with
  | succeeded =>
    obtain ⟨hres, herr⟩ := h.succeeded hst
    simp [Protocol.parseOutcome, Record.document, Record.terminal, ExecState.terminal, require,
      seq_ok, hst, hres, herr]
  | failed =>
    obtain ⟨herr, hres⟩ := h.failed hst
    simp [Protocol.parseOutcome, Record.document, Record.terminal, ExecState.terminal, require,
      seq_ok, hst, hres, herr]
  | cancelled =>
    obtain ⟨herr, hres⟩ := h.cancelled hst
    simp [Protocol.parseOutcome, Record.document, Record.terminal, ExecState.terminal, require,
      seq_ok, hst, hres, herr]
  | _ =>
    obtain ⟨hres, herr⟩ := h.open_ (by rw [hterm, hst]; rfl)
    simp [Protocol.parseOutcome, Record.document, Record.terminal, ExecState.terminal, require,
      seq_ok, hst, hres, herr]

lemma Record.Valid.parse {cfg : ServiceConfig} {r : Record} (h : r.Valid cfg) (hs : r.Shaped) :
    parseExecutionView cfg.fromIsoformat r.document = .ok () := by
  simp only [parseExecutionView, seq_ok, require_ok]
  refine ⟨idField_ok (isId_uuidHex _), h.parseFence, ?_, nullable_ok fun i hi => ?_, ?_⟩
  · simp only [Record.document, Fence.document, h.fence.1, h.fence.2.1, Option.map_some,
      Option.isSome_some, Bool.and_true, decide_true]
  · exact isOk_unit.mp (h.identity i hi)
  · have hresult : nullable r.document.result
        (parseBlobRef · ("execution_view" ++ ".result")) = .ok () := nullable_ok h.result
    have herror : nullable r.document.error
        (parseErrorDetail · ("execution_view" ++ ".error")) = .ok () :=
      nullable_ok fun e he => parseErrorDetail_ok (h.error e he)
    split
    · next hd =>
      rw [seq_ok, seq_ok, seq_ok, require_ok]
      exact ⟨h.dispatched.mp hd, hresult, herror, hs.parseOutcome⟩
    · next hd =>
      rw [seq_ok, seq_ok, seq_ok, require_ok]
      refine ⟨?_, hresult, herror, hs.parseOutcome⟩
      cases hi : r.identity with
      | none => simp only [Record.document, hi, Option.isNone_none]
      | some i =>
        have hdisp := h.dispatched.mpr (by rw [hi]; rfl)
        rw [show r.dispatchState = .notStarted from hd] at hdisp
        cases hdisp

lemma Record.Valid.view {cfg : ServiceConfig} {r : Record} (h : r.Valid cfg) (hs : r.Shaped) :
    r.view cfg.fromIsoformat = .ok r.document := by
  rw [Record.view, h.parse hs]
  rfl

section

variable {cfg : ServiceConfig} {L : Licence} {s : Service} {id : ExecutionId} {r r' : Record}

lemma Record.New.valid (h : r.New L) (hL : L.strict) : r.Valid cfg := by
  obtain ⟨hmodel, hboot, hgen⟩ := h.ok hL
  have hcode : r.terminalCode = none := by
    have hm := h.marked
    rw [Record.Marked, not_or, Bool.not_eq_true, Bool.not_eq_true, Option.isSome_eq_false_iff,
      Option.isNone_iff_eq_none] at hm
    exact hm.2
  exact {
    model := hmodel
    fence := h.fence
    bootId := hboot
    generation := hgen
    identity := by rw [h.identity]; rintro i ⟨⟩
    expected := by rw [h.expected]; rintro i ⟨⟩
    dispatched := by rw [h.dispatchState, h.identity]; exact ⟨by rintro ⟨⟩, by rintro ⟨⟩⟩
    result := by rw [h.result]; rintro b ⟨⟩
    error := by rw [h.error]; rintro e ⟨⟩
    reason := by
      rw [Record.reasonError, hcode, h.message]
      exact ⟨by decide, by decide, rfl⟩ }

/-- Well-formed data keep records valid. -/
lemma Change.valid (h : Change L s id r r') (hr : r.Valid cfg) (hs : r.Shaped) (hL : L.strict)
    (hnamed : ∀ i, L.named i → cfg.accepts i = true) : r'.Valid cfg := by
  cases h with
  | same => exact hr
  | edit he =>
    cases he with
    | quiet hcore =>
      have hvalid : r.core.Valid cfg := { hr with }
      rw [← hcore] at hvalid
      exact { hvalid with }
    | fence bootId generation hfence hok =>
      obtain ⟨hboot, hgen⟩ := hok hL
      exact { hr with fence := ⟨rfl, hr.fence.2.1, rfl⟩, bootId := hboot, generation := hgen }
    | expected i hi => exact { hr with expected := fun i' hi' => hnamed i' (hi i' hi') }
    | names i hi =>
      refine { hr with identity := ?_, dispatched := ⟨fun _ => rfl, fun _ => rfl⟩ }
      rintro _ ⟨⟩
      rcases hi with hi | hi | hi
      · exact hnamed i hi
      · exact hr.identity i hi
      · exact hr.expected i hi
    | _ => exact { hr with }
  | mark cancel code message hopen hlock hok =>
    obtain ⟨hcode, hmessage⟩ := hok hL
    rw [Record.mark_state (hs.terminal ▸ hopen)]
    refine { hr with reason := ?_ }
    cases hc : r.terminalCode with
    | none =>
      have hne : code ≠ "" := (knownError.textOk hcode).1
      change ErrorOk (errorDetail (Record.orText code "backend_failed") (Record.orText message _))
      rw [Record.orText, if_neg hne, Record.orText, if_neg hmessage.1]
      exact ⟨hcode, hmessage, rfl⟩
    | some c =>
      have hreason := hr.reason
      rw [Record.reasonError, hc] at hreason
      exact hreason
  | settle he =>
    cases he with
    | ended code message hopen hok =>
      refine { hr with error := ?_ }
      rintro _ ⟨⟩
      exact hok hL
    | reason hopen he hm =>
      refine { hr with error := ?_ }
      rintro _ ⟨⟩
      exact hr.reason
    | failed error cancelPending state hopen he hc hst hok =>
      refine { hr with error := ?_ }
      rintro _ ⟨⟩
      exact (hok hL).elim (hr.error error) fun h => h
  | succeed blob hopen hlock hp hok =>
    refine { hr with result := ?_ }
    rintro _ ⟨⟩
    exact hok hL
  | create hnew hid hnone => exact hnew.valid hL
  | _ => exact { hr with }

/-- Every record on file is valid. -/
def Service.Viewable (s : Service) : Prop :=
  ∀ id r, s.records.get? id = some r → r.Valid s.cfg ∧ r.Shaped

lemma Moves.viewable {p p' : List Debt × Service} (h : Relation.ReflTransGen (Move L) p p')
    (hL : L.strict) (hnamed : ∀ i, L.named i → p.2.cfg.accepts i = true) (hv : p.2.Viewable) :
    p'.2.Viewable ∧ p'.2.cfg = p.2.cfg := by
  induction h with
  | refl => exact ⟨hv, rfl⟩
  | tail _ hm ih =>
    obtain ⟨hv', hcfg⟩ := ih
    refine ⟨fun id r' hr' => ?_, hm.cfg.trans hcfg⟩
    rw [hm.cfg]
    rcases hm.record hr' with ⟨r, hr, hchange⟩ | hnew
    · obtain ⟨hvalid, hshaped⟩ := hv' id r hr
      exact ⟨hchange.valid hvalid hshaped hL (by rw [hcfg]; exact hnamed), hchange.shaped hshaped⟩
    · exact ⟨hnew.valid hL, hnew.shaped⟩

end

/-- What is known of the data depends on the data alone. -/
lemma Co.stance_congr {L L' : Licence} (co : Co) (hs : L.strict = L'.strict)
    (hn : L.named = L'.named) : co.stance L = co.stance L' := by
  cases L
  cases L'
  cases hs
  cases hn
  rfl

/-! ### Well-formed answers -/

/-- What a port delivers is well formed. -/
def Input.tidy (cfg : ServiceConfig) : Input → Bool
  | .opened (.error (.blobStoreError _ _)) => true
  | .answer (.error e) | .opened (.error e) | .reserved (.error e) => plainText e.text
  | .acquired (.ok lease) => 1 ≤ lease.generation
  | .acquired (.error (.sessionConflict code)) => knownError code
  | .written (.ok blob) => (parseBlobRef blob.ref "execution_view.result").isOk
  | .executed (.ok handle) _ => cfg.accepts handle.identity
  | .executed (.error (.notDispatched code message)) _ =>
    knownError code && decide (TextOk (Exc.notDispatched code message).text)
  | .executed (.error e) _ => plainText e.typeName && plainText e.text
  | _ => true

/-- What a task reads of its surroundings is well formed: the model of the session it submits for,
the session and the generation at the guard, the identities that callers and adapters name. -/
def Co.tidy (s : Service) : Co → Bool
  | .submit c => (s.env.sessions.records.get? c.sessionId).all fun session => isId session.modelId
  | .reportTerminal _ evidence _ => evidence.1.identity.all s.cfg.accepts
  | .run id .guard =>
    (s.env.sessions.records.get? (s.get id).sessionId).isSome &&
      (s.env.book.runtime.get? (s.get id).modelId).all (1 ≤ ·.generation)
  | co => co.failing.all fun id => (s.env.currentIdentity (s.get id).modelId).all s.cfg.accepts

namespace System

variable {w w' : System} {t u : TaskId} {co : Co} {e : Effect Co Value} {inp : Input} {a : Act}
  {id : ExecutionId}

/-- The data that a step works on are well formed. -/
def tidy (w : System) : Act → Bool
  | .resume t inp =>
    match w.tasks.get? t with
    | some (.running co) =>
      decide (TextOk w.svc.cfg.bootId) && co.tidy w.svc && inp.tidy w.svc.cfg
    | _ => true
  | _ => true

/-- The licence of a task that works on well-formed data. -/
def neat (w : System) (t : TaskId) (co : Co) : Licence :=
  { w.plain t co with strict := True, named := fun i => w.svc.cfg.accepts i = true }

lemma neat_fits (h : inp.tidy w.svc.cfg = true) (hlegal : inp.legal w.svc = true) :
    inp.Fits (w.neat t co) := by
  cases inp with
  | go | timeout | flag r => trivial
  | answer r =>
    cases r with
    | ok _ => trivial
    | error e => exact fun _ => h
  | acquired r =>
    cases r with
    | ok lease => exact fun _ => of_decide_eq_true h
    | error e =>
      cases e with
      | sessionConflict code => exact fun _ => h
      | cancelledError => cases hlegal
      | _ => trivial
  | opened r =>
    cases r with
    | ok path => trivial
    | error e =>
      cases e with
      | blobStoreError code message => trivial
      | _ => exact fun _ => h
  | reserved r =>
    cases r with
    | ok reservation => trivial
    | error e => exact fun _ => h
  | written r =>
    cases r with
    | ok blob => exact fun _ => isOk_unit.mp h
    | error e => trivial
  | executed r body =>
    cases r with
    | ok handle => exact h
    | error e =>
      cases e with
      | notDispatched code message =>
        have hboth := Bool.and_eq_true_iff.mp h
        exact fun _ => ⟨hboth.1, of_decide_eq_true hboth.2, rfl⟩
      | _ => exact fun _ => Bool.and_eq_true_iff.mp h

lemma plainText_model (hv : w.svc.Viewable) (id : ExecutionId) :
    plainText (w.svc.get id).modelId = true := by
  cases hr : w.svc.records.get? id with
  | none => simp only [Service.get, hr]; rfl
  | some r =>
    rw [Service.get_of_get? hr]
    exact (isId.textOk (hv id r hr).1.model).2

lemma neat_uncertain (hv : w.svc.Viewable) (h : co.tidy w.svc = true)
    (hfail : co.failing = some id) :
    TerminateUncertain.Allows (w.neat t co) w.svc id := by
  refine ⟨fun _ => plainText_model hv id, fun i hi => ?_, fun _ _ _ _ => trivial⟩
  have hall : co.failing.all (fun id =>
      (w.svc.env.currentIdentity (w.svc.get id).modelId).all w.svc.cfg.accepts) = true := by
    simp only [Co.failing] at hfail
    split at hfail
    · cases hfail; exact h
    · cases hfail; exact h
    · cases hfail; exact h
    · cases hfail
  rw [hfail, Option.all_some, hi, Option.all_some] at hall
  exact hall

lemma neat_allows (hw : w.Wf) (hv : w.svc.Viewable) (hrun : w.Running t co)
    (hlegal : inp.legal w.svc = true) (hboot : TextOk w.svc.cfg.bootId)
    (h : co.tidy w.svc = true) : co.Allows (w.neat t co) w.svc inp := by
  cases co with
  | submit c =>
    refine ⟨⟨c, rfl⟩, fun _ => ⟨hboot, fun session hsession => ?_⟩⟩
    simp only [Co.tidy, hsession, Option.all_some] at h
    exact h
  | reportTerminal id evidence pc =>
    refine ⟨fun i hi => ?_, fun hi => .inr ⟨evidence, pc, rfl, hi⟩⟩
    rw [Co.tidy, Option.mem_def.mp hi, Option.all_some] at h
    exact h
  | dispatchLoop session pc => exact fun _ _ _ _ => ⟨.inr trivial, .inr trivial⟩
  | run id pc =>
    refine ⟨hw.keeps hrun, ⟨pc, rfl⟩, fun _ => plainText_model hv id, fun _ => hboot, ?_, ?_, ?_,
      fun _ _ _ => trivial, fun _ _ _ => trivial, ?_, ?_,
      fun _ _ _ => ⟨trivial, hw.claimed t id _ hrun⟩, ?_⟩
    · rintro message (rfl | rfl)
      · exact neat_uncertain hv h rfl
      · exact neat_uncertain hv h rfl
    · rintro rfl -
      exact Option.isSome_iff_exists.mp (Bool.and_eq_true_iff.mp h).1
    · rintro rfl - runtime hruntime
      have hall := (Bool.and_eq_true_iff.mp h).2
      rw [hruntime, Option.all_some] at hall
      exact of_decide_eq_true hall
    · rintro path lease - rfl
      exact ⟨trivial, Bool.not_eq_true' _ ▸ hlegal⟩
    · rintro rfl
      exact ⟨rfl, .inr trivial⟩
    · rintro path fence reservation rfl
      exact ⟨trivial, fun _ => ⟨hw.claimed t id _ hrun, hw.fence t id _ fence hrun rfl⟩⟩
  | lateExecute id pc =>
    refine ⟨hw.late t id pc hrun, fun _ => plainText_model hv id, ?_⟩
    rintro message rfl
    exact neat_uncertain hv h rfl
  | quiesceModel model pc =>
    refine ⟨⟨pc, rfl⟩, ?_⟩
    rintro g ids rfl id hid
    exact .inl ⟨model, g, ids, rfl, hid⟩
  | _ => trivial

/-- Records are valid, and so are the data that the tasks carry. -/
structure Neat (w : System) : Prop where
  viewable : w.svc.Viewable
  data : ∀ t co, w.Running t co → (co.stance (w.neat t co)).data

lemma neat_data {co' : Co} (hcfg : w'.svc.cfg = w.svc.cfg)
    (h : (co.stance (w.neat t co')).data) : (co.stance (w'.neat u co)).data := by
  have heq : co.stance (w'.neat u co) = co.stance (w.neat t co') := by
    refine co.stance_congr rfl ?_
    simp only [neat, hcfg]
  rw [heq]
  exact h

lemma Neat.step (hw : w.Wf) (hn : w.Neat) (hok : w.tidy a = true) (h : w.step a = some w') :
    w'.Neat := by
  rcases step_cases h with ⟨env, store, rfl, -⟩ | ⟨c, -, rfl⟩ |
    ⟨t, inp, co, e, rfl, hrun, hlegal, hstep, rfl⟩ | ⟨t, co, rfl, hrun, rfl⟩
  · exact ⟨hn.viewable, fun u co hu => neat_data rfl (hn.data u co hu)⟩
  · refine ⟨hn.viewable, fun u co hu => ?_⟩
    rcases running_begun hu with ⟨-, rfl⟩ | hold
    · rw [ApiCall.co_stance]
      trivial
    · exact neat_data (w := w) rfl (hn.data u co hold)
  · simp only [tidy, hrun, Bool.and_eq_true, decide_eq_true_eq] at hok
    obtain ⟨⟨hboot, hco⟩, hinp⟩ := hok
    have hmeets := hw.resume hrun (L := w.neat t co) rfl (hn.data t co hrun)
      (fun _ _ _ _ _ => .inr trivial) (fun _ _ => trivial)
      (neat_allows hw hn.viewable hrun hlegal hboot hco) (neat_fits hinp hlegal) hstep
    obtain ⟨hv, hcfg⟩ := Moves.viewable (turn_at hmeets).moves trivial (fun _ hi => hi) hn.viewable
    refine ⟨hv, fun u co' hu => ?_⟩
    rcases running_commit hw.fresh (hw.fresh.lt hrun) hu with
      ⟨rfl, hgoto⟩ | ⟨-, hold⟩ | ⟨-, sp, -, rfl⟩
    · simp only [Effect.Clears, Effect.Meets, hgoto] at hmeets
      exact neat_data hcfg hmeets.data
    · exact neat_data hcfg (hn.data u co' hold)
    · rw [Spawn.co_stance]
      trivial
  · have hat : At (w.neat t co) t (w.base co) (co.owes, w.svc) [] none (co.thrown w.svc) :=
      hw.cancelled hrun rfl (fun _ _ => .inr trivial) fun _ _ => .inr trivial
    obtain ⟨hv, hcfg⟩ := Moves.viewable hat.moves trivial (fun _ hi => hi) hn.viewable
    exact ⟨hv, fun u co' hu => neat_data hcfg (hn.data u co' (running_killed hu).2)⟩

end System

end ModelSwitch.Execution

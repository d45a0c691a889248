import ModelSwitch.Proofs.Blobs.Recovery

/-!
# What a failed upload leaves behind

An upload reserves its row, journals it and opens its staging file before the first block that
cleans up after it, and the blocks that do differ: the one around the stream leaves the journal
entry where it is. What is left as it was are the uploads that are refused before they reserve
anything, and those whose rename or whose publication fails without effect.
-/

namespace ModelSwitch.Blobs

open ModelSwitch.Execution (Body)

/-- A reservation is refused, or it makes a row that the quotas have room for. -/
lemma Metadata.reserve_cases (m : Metadata) (diskFree : Option ℤ) (id : BlobId) (owner : Owner)
    (size : ℤ) (media : String) :
    (∃ e, m.reserve diskFree id owner size media = (m, .error e)) ∨
    ∃ r : BlobRecord, m.reserve diskFree id owner size media =
        ({ m with blobs := m.blobs.set id r }, .ok r) ∧
      m.get id = none ∧ r.owner = owner ∧ r.state = .reserved ∧ r.sizeBytes = size ∧ 0 < size ∧
      (m.usage owner).totalBytes + size ≤ m.policy.ownerQuotaBytes ∧
      m.globalBytes + size ≤ m.policy.globalQuotaBytes := by
  simp only [Metadata.reserve]
  split_ifs with hpos hdup hdisk howner hglobal
  · exact .inl ⟨_, rfl⟩
  · exact .inl ⟨_, rfl⟩
  · exact .inl ⟨_, rfl⟩
  · exact .inl ⟨_, rfl⟩
  · exact .inl ⟨_, rfl⟩
  · exact .inr ⟨_, rfl, by simpa using hdup, rfl, rfl, rfl, not_le.mp hpos, not_lt.mp howner,
      not_lt.mp hglobal⟩

/-! ### What an upload may leave -/

deriving instance DecidableEq for OwnerUsage

/-- What an upload of the blob may leave behind: the usage of its owner, its row, its journal entry,
its staging file and its published file. -/
structure Remains where
  usage : OwnerUsage
  row : Option BlobRecord
  entry : Option JournalEntry
  staging : Option (Ino × Option Node)
  file : Option (Ino × Option Node)
  deriving DecidableEq

namespace Disk

variable (d : Disk)

def stagingOf (id : BlobId) : Option (Ino × Option Node) :=
  (d.staging.get? id).map fun ino => (ino, d.nodes.get? ino)

def fileOf (owner : Owner) (id : BlobId) : Option (Ino × Option Node) :=
  (d.published.get? (owner, id)).map fun ino => (ino, d.nodes.get? ino)

variable {d} {id : BlobId} {owner : Owner}

lemma stagingOf_eq_none : d.stagingOf id = none ↔ d.staging.get? id = none := Option.map_eq_none_iff

lemma fileOf_eq_none : d.fileOf owner id = none ↔ d.published.get? (owner, id) = none :=
  Option.map_eq_none_iff

/-- A name that is not there does not come from writing to a file. -/
lemma fileOf_write (h : d.fileOf owner id = none) (fd : Ino) (chunk : Body) :
    (d.write fd chunk).fileOf owner id = none := by
  rw [fileOf_eq_none] at h ⊢
  simp only [write]
  split <;> exact h

lemma openStaging_free (h : d.staging.get? id = none) :
    (d.openStaging id).2 = .ok d.nextIno ∧ (d.openStaging id).1.published = d.published := by
  simp only [openStaging, Dict.contains, h, Option.isSome_none, Bool.false_eq_true, if_false,
    and_self]

end Disk

def Store.remains (s : Store) (id : BlobId) (owner : Owner) : Remains where
  usage := s.metadata.usage owner
  row := s.metadata.get id
  entry := s.metadata.journalEntry id
  staging := s.disk.stagingOf id
  file := s.disk.fileOf owner id

/-! ### Usage besides one row -/

namespace Metadata

variable {m m' : Metadata} {id : BlobId} {owner : Owner} {state : BlobState}

def inState (owner : Owner) (state : BlobState) (_ : BlobId) (r : BlobRecord) : ℤ :=
  if r.owner = owner ∧ r.state = state then r.sizeBytes else 0

/-- The bytes of the other rows. -/
def besides (m : Metadata) (id : BlobId) (owner : Owner) (state : BlobState) : ℤ :=
  m.blobs.sumBesides id (inState owner state)

lemma bytesIn_eq (m : Metadata) (id : BlobId) (owner : Owner) (state : BlobState) :
    m.bytesIn owner state =
      m.besides id owner state + (m.get id).elim 0 (inState owner state id) := by
  rw [besides, Dict.sumBesides, get, sub_add_cancel]
  rfl

lemma usage_eq_iff (hrow : m'.get id = m.get id) :
    m'.usage owner = m.usage owner ↔
      ∀ state, state.counted = true → m'.besides id owner state = m.besides id owner state := by
  simp only [usage, OwnerUsage.mk.injEq, bytesIn_eq _ id, hrow, add_left_inj]
  constructor
  · rintro ⟨hpublished, hstaging, hreserved⟩ state hcounted
    cases state <;> first | assumption | cases hcounted
  · intro h
    exact ⟨h .published rfl, h .staging rfl, h .reserved rfl⟩

lemma besides_update (m : Metadata) (id : BlobId) (states : BlobState → Bool)
    (f : BlobRecord → BlobRecord) : (m.update id states f).besides id owner state =
      m.besides id owner state := by
  simp only [update]
  split
  · rfl
  · split
    · exact Dict.sumBesides_set ..
    · rfl

lemma besides_abort (m : Metadata) (id : BlobId) :
    (m.abort id).besides id owner state = m.besides id owner state := by
  simp only [abort]
  split
  · split
    · exact Dict.sumBesides_erase ..
    · rfl
  · rfl

lemma besides_reserve (m : Metadata) (diskFree : Option ℤ) (id : BlobId) (owner' : Owner) (size : ℤ)
    (media : String) : (m.reserve diskFree id owner' size media).1.besides id owner state =
      m.besides id owner state := by
  rcases m.reserve_cases diskFree id owner' size media with ⟨e, heq⟩ | ⟨r, heq, -⟩
  · rw [heq]
  · rw [heq]
    exact Dict.sumBesides_set ..

end Metadata

/-! ### The condition -/

/-- The answer on which the upload goes on, or which its cleanup undoes: a rename or a publication
that fails without effect. Everything else succeeds. -/
def Receive.heeds (s : Store) (job : Receipt) : Receive → Input → Bool
  | .openStaging, .go => !s.disk.staging.contains job.blobId
  | .chunk _ got, .chunk b => b = [] || ((got ++ b).length : ℤ) ≤ job.limit
  | .chunk _ _, .eof => true
  | .write _ _ _, .short _ => true
  | .fsync _ got, .go => job.declaredSize.all (· = (got.length : ℤ)) &&
      job.expectedSha256.all (· = s.cfg.sha256 got)
  | .publishFile _, .fail | .publish _ _, .fail => true
  | _, .go => true
  | _, _ => false

/-- A reservation may be refused; a cleanup is not interrupted. -/
def Co.heeds (s : Store) : Co → Input → Bool
  | .receive job pc, inp => pc.heeds s job inp
  | .seq _ _ _, .go => true
  | .seq _ _ _, _ => false
  | _, _ => true

/-- The step leaves what concerns the blob as it is. -/
def System.keepsOff (w : System) (id : BlobId) (owner : Owner) (a : Act) : Bool :=
  (w.step a).all fun w' => w'.store.remains id owner = w.store.remains id owner

/-- The upload in task `t` is not cancelled and gets answers that it heeds, and nobody else touches
its blob. -/
def Undisturbed (t : TaskId) (args : UploadArgs) (w : System) : Act → Bool
  | .resume u inp =>
    if u = t then (w.tasks.get? t).all fun co => co.heeds w.store inp
    else w.keepsOff args.blobId args.owner (.resume u inp)
  | .cancel u => if u = t then false else w.keepsOff args.blobId args.owner (.cancel u)
  | a => w.keepsOff args.blobId args.owner a

/-- A blob without a row has neither a journal entry nor a published file. -/
def Store.Unused (s : Store) (id : BlobId) (owner : Owner) : Prop :=
  s.metadata.get id = none → s.metadata.journalEntry id = none ∧ s.disk.fileOf owner id = none

/-! ### The stages of an upload -/

namespace Remains

variable (F₀ F : Remains)

/-- Everything but the usage is as before. -/
structure Untouched : Prop where
  row : F.row = F₀.row
  entry : F.entry = F₀.entry
  staging : F.staging = F₀.staging
  file : F.file = F₀.file

/-- Before the call there was nothing under the id. -/
structure Vacant : Prop where
  row : F₀.row = none
  entry : F₀.entry = none
  file : F₀.file = none

/-- The upload holds the row it has reserved. -/
structure Holding : Prop extends F₀.Vacant where
  held : ∃ r, F.row = some r ∧ r.state.unfinished = true

end Remains

section

variable (F₀ F : Remains) (id : BlobId) (owner : Owner)

/-- What the upload holds where it stands in `_receive_and_publish`. -/
def Receive.Holds : Receive → Prop
  | .journal | .openStaging => F₀.Holding F ∧ F.staging = F₀.staging ∧ F.file = none
  | .publish _ _ => F₀.Holding F ∧ F₀.staging = none ∧ F.staging = none
  | .published _ _ | .clear _ => True
  | _ => F₀.Holding F ∧ F₀.staging = none ∧ F.file = none

/-- What is left to undo before the calls of a cleanup. -/
inductive Undoing : List Call → Prop
  | renamed (h : F₀.Holding F) (hbare : F₀.staging = none) (hfile : F.file = none) :
      Undoing [.removeStaging id, .abort id, .clearJournal id]
  | published (h : F₀.Holding F) (hbare : F₀.staging = none) (hstaging : F.staging = none) :
      Undoing [.removePublished owner id, .abort id, .clearJournal id]
  | row (h : F₀.Holding F) (hbare : F₀.staging = none) (hstaging : F.staging = none)
      (hfile : F.file = none) : Undoing [.abort id, .clearJournal id]
  | entry (h : F₀.Vacant) (hbare : F₀.staging = none) (hrow : F.row = none)
      (hstaging : F.staging = none) (hfile : F.file = none) : Undoing [.clearJournal id]

/-- What the upload has done where it stands. -/
inductive UploadAt : Co → Prop
  | upload {args : UploadArgs} {limit : ℤ} (hid : args.blobId = id) (howner : args.owner = owner)
      (h : F₀.Untouched F) : UploadAt (.upload args limit)
  | receive {job : Receipt} {pc : Receive} (hid : job.blobId = id) (howner : job.owner = owner)
      (h : pc.Holds F₀ F) : UploadAt (.receive job pc)
  | seq {call : Call} {rest : List Call} (e : Exc) (h : Undoing F₀ F id owner (call :: rest)) :
      UploadAt (.seq call rest (.error e))
  | failed (e : Exc) (h : F₀.Untouched F) : UploadAt (.done (.error e))
  | ended (r : Result) : UploadAt (.done (.ok r))

end

/-! ### What the calls of an upload do -/

section Calls

variable {s : Store} {id : BlobId} {owner : Owner} {F₀ : Remains}

/-- A call that concerns no other row. -/
def Call.owns (id : BlobId) : Call → Prop
  | .reserve i _ _ _ | .beginStaging i | .publish i _ _ _ | .abort i => i = id
  | .journal _ _ _ _ _ | .clearJournal _ | .openStaging _ | .write _ _ | .fsync _ | .close _
  | .publishFile _ _ | .removeStaging _ | .removePublished _ _ => True
  | _ => False

lemma Call.owns.besides {c : Call} (h : c.owns id) (state : BlobState) :
    (c.run s).1.metadata.besides id owner state = s.metadata.besides id owner state := by
  cases c with
  | reserve i o size media => cases h; exact Metadata.besides_reserve ..
  | beginStaging i | publish i sha size now => cases h; exact Metadata.besides_update ..
  | abort i => cases h; exact Metadata.besides_abort ..
  | journal | clearJournal | openStaging | write | fsync | close | publishFile | removeStaging
  | removePublished => rfl
  | _ => cases h

/-- The calls of an upload concern its own row. -/
lemma UploadAt.owns {F : Remains} {co : Co} {c : Call} {cfg : StoreConfig}
    (h : UploadAt F₀ F id owner co) (ha : co.await cfg = some (.call c)) : c.owns id := by
  cases h with
  | upload hid => cases ha; exact hid
  | @receive job pc hid =>
    cases pc <;> cases ha <;> first | exact hid | trivial
  | seq e h =>
    cases ha
    cases h <;> first | rfl | trivial
  | _ => cases ha

end Calls

namespace Remains.Holding

variable {s : Store} {id : BlobId} {owner : Owner} {F₀ : Remains}

/-- `begin_staging` keeps the row of an upload unfinished and answers with it. -/
lemma beginStaging (h : F₀.Holding (s.remains id owner)) :
    F₀.Holding (((Call.beginStaging id).run s).1.remains id owner) ∧
      ∃ r, ((Call.beginStaging id).run s).2 = .ok (.record r) := by
  obtain ⟨r, hr, hunf⟩ := h.held
  have hrow : s.metadata.get id = some r := hr
  have hget : ∃ r', (s.metadata.beginStaging id).1.get id = some r' ∧
      r'.state.unfinished = true := by
    simp only [Metadata.beginStaging, Metadata.get_update, hrow, Option.map_some]
    refine ⟨_, rfl, ?_⟩
    split
    · rfl
    · exact hunf
  obtain ⟨r', hr', hunf'⟩ := hget
  refine ⟨⟨h.toVacant, r', hr', hunf'⟩, r', ?_⟩
  have hrequire : (s.metadata.beginStaging id).2 = .ok r' := by
    simp only [Metadata.beginStaging] at hr' ⊢
    simp only [Metadata.require, hr']
  simp only [Call.run, Call.onMetadata, hrequire]
  rfl

/-- `publish` answers with a record. -/
lemma publish (h : F₀.Holding (s.remains id owner)) (sha : Digest) (size : ℤ) (now : Time) :
    ∃ r, ((Call.publish id sha size now).run s).2 = .ok (.record r) := by
  obtain ⟨r, hr, hunf⟩ := h.held
  obtain ⟨r', -, hanswer, -⟩ := Metadata.publish_unfinished hr hunf sha size now
  refine ⟨r', ?_⟩
  simp only [Call.run, Call.onMetadata, hanswer]
  rfl

/-- A change that leaves the row alone. -/
lemma congr {F F' : Remains} (h : F₀.Holding F) (hrow : F'.row = F.row) : F₀.Holding F' :=
  ⟨h.toVacant, hrow ▸ h.held⟩

end Remains.Holding

/-! ### Turns of the upload -/

section Turns

variable {s : Store} {id : BlobId} {owner : Owner} {F₀ : Remains} {cfg : StoreConfig} {clock : Time}

/-- A reservation is refused, or the upload holds its row. -/
lemma reserve_turn {args : UploadArgs} {limit : ℤ} (hunused : F₀.row = none → F₀.Vacant)
    (hid : args.blobId = id) (howner : args.owner = owner)
    (h : F₀.Untouched (s.remains id owner)) :
    UploadAt F₀ (((Call.reserve id owner limit args.mediaType).run s).1.remains id owner) id owner
      ((Co.upload args limit).next cfg clock
        ((Call.reserve id owner limit args.mediaType).run s).2) := by
  rcases s.metadata.reserve_cases s.diskFree id owner limit args.mediaType with ⟨e, heq⟩ |
    ⟨r, heq, hnone, -, hstate, -⟩
  · simp only [Call.run, Call.onMetadata, heq]
    exact .failed _ h
  · simp only [Call.run, Call.onMetadata, heq]
    have hvacant := hunused (h.row.symm.trans hnone)
    refine .receive hid howner ⟨⟨hvacant, r, Dict.get?_set_self .., ?_⟩, h.staging,
      h.file.trans hvacant.file⟩
    rw [hstate]
    rfl

lemma not_any_ne {α : Type} [DecidableEq α] {o : Option α} {x : α}
    (h : o.all (fun y => y = x) = true) : ¬ o.any (fun y => y ≠ x) = true := by
  cases o with
  | none => simp
  | some y => simpa using h

/-- A turn of `_receive_and_publish` that gets an answer it heeds. -/
lemma receive_turn {job : Receipt} {pc : Receive} {a : Await} {inp : Input}
    {p : Store × Except Exc Answer} (hid : job.blobId = id) (howner : job.owner = owner)
    (h : pc.Holds F₀ (s.remains id owner)) (hok : pc.heeds s job inp = true)
    (ha : pc.await s.cfg job = a) (hp : a.meet s inp = some p) :
    UploadAt F₀ (p.1.remains id owner) id owner (pc.next s.cfg clock job p.2) := by
  subst hid howner ha
  cases pc with
  | journal | pending got =>
    cases inp <;> cases hok
    cases hp
    exact .receive rfl rfl ⟨h.1.congr rfl, h.2⟩
  | openStaging =>
    cases inp <;> try cases hok
    simp only [Receive.heeds, Bool.not_eq_true', Dict.contains, Option.isSome_eq_false_iff,
      Option.isNone_iff_eq_none] at hok
    cases hp
    obtain ⟨hanswer, hpublished⟩ := Disk.openStaging_free hok
    have hbare : F₀.staging = none := h.2.1.symm.trans (Disk.stagingOf_eq_none.mpr hok)
    simp only [Call.run, Call.onDisk, hanswer]
    refine .receive rfl rfl ⟨h.1.congr rfl, hbare, ?_⟩
    refine Disk.fileOf_eq_none.mpr ?_
    rw [hpublished]
    exact Disk.fileOf_eq_none.mp h.2.2
  | beginStaging fd =>
    cases inp <;> cases hok
    cases hp
    obtain ⟨hheld, r, hanswer⟩ := h.1.beginStaging
    rw [hanswer]
    exact .receive rfl rfl ⟨hheld, h.2⟩
  | chunk fd got =>
    cases inp <;> try cases hok
    · cases hp
    · next b =>
      cases hp
      simp only [Receive.next, Receive.received]
      split
      · exact .receive rfl rfl h
      · next hne =>
        simp only [Receive.heeds, hne, decide_false, Bool.false_or, decide_eq_true_eq] at hok
        rw [if_neg (not_lt.mpr hok)]
        exact .receive rfl rfl h
    · cases hp
      exact .receive rfl rfl h
  | write fd got b =>
    cases inp <;> cases hok
    · cases hp
      exact .receive rfl rfl ⟨h.1.congr rfl, h.2.1, Disk.fileOf_write h.2.2 ..⟩
    · cases hp
      exact .receive rfl rfl ⟨h.1.congr rfl, h.2.1, Disk.fileOf_write h.2.2 ..⟩
  | fsync fd got =>
    cases inp <;> try cases hok
    simp only [Receive.heeds, Bool.and_eq_true] at hok
    cases hp
    simp only [Call.run, Receive.next, Receive.synced]
    rw [if_neg, if_neg]
    · exact .receive rfl rfl h
    · exact not_any_ne hok.2
    · exact not_any_ne hok.1
  | close fd got =>
    cases inp <;> cases hok
    cases hp
    exact .receive rfl rfl h
  | publishFile got =>
    cases inp <;> cases hok
    · cases hp
      simp only [Call.run, Call.onDisk, Disk.publishFile]
      split
      · exact .seq _ (.renamed h.1 h.2.1 h.2.2)
      · refine .receive rfl rfl ⟨h.1.congr rfl, h.2.1, Disk.stagingOf_eq_none.mpr ?_⟩
        exact Dict.get?_erase_self ..
    · cases hp
      exact .seq _ (.renamed h.1 h.2.1 h.2.2)
  | publish got moment =>
    cases inp <;> cases hok
    · cases hp
      obtain ⟨r, hanswer⟩ := h.1.publish (s.cfg.sha256 got) got.length moment
      rw [hanswer]
      exact .receive rfl rfl trivial
    · cases hp
      exact .seq _ (.published h.1 h.2.1 h.2.2)
  | published got r =>
    cases inp <;> cases hok
    cases hp
    exact .receive rfl rfl trivial
  | clear r =>
    cases inp <;> cases hok
    cases hp
    exact .ended _

/-- One call of a cleanup. -/
lemma undo_turn {call : Call} {rest : List Call} (e : Exc)
    (h : Undoing F₀ (s.remains id owner) id owner (call :: rest)) :
    UploadAt F₀ ((call.run s).1.remains id owner) id owner
      ((Co.seq call rest (.error e)).next cfg clock (call.run s).2) := by
  cases h with
  | renamed hheld hbare hfile =>
    refine .seq e (.row (hheld.congr rfl) hbare (Disk.stagingOf_eq_none.mpr ?_) hfile)
    exact Dict.get?_erase_self ..
  | published hheld hbare hstaging =>
    refine .seq e (.row (hheld.congr rfl) hbare hstaging (Disk.fileOf_eq_none.mpr ?_))
    exact Dict.get?_erase_self ..
  | row hheld hbare hstaging hfile =>
    obtain ⟨r, hr, hunf⟩ := hheld.held
    exact .seq e (.entry hheld.toVacant hbare (Metadata.get_abort_self hr hunf) hstaging hfile)
  | entry hvacant hbare hrow hstaging hfile =>
    refine .failed e ⟨hrow.trans hvacant.row.symm, ?_, hstaging.trans hbare.symm,
      hfile.trans hvacant.file.symm⟩
    exact (Dict.get?_erase_self ..).trans hvacant.entry.symm

/-- A turn of the upload. -/
lemma UploadAt.turn {co : Co} {a : Await} {inp : Input} {p : Store × Except Exc Answer}
    (hunused : F₀.row = none → F₀.Vacant) (h : UploadAt F₀ (s.remains id owner) id owner co)
    (hok : co.heeds s inp = true) (ha : co.await s.cfg = some a) (hp : a.meet s inp = some p) :
    UploadAt F₀ (p.1.remains id owner) id owner (co.next s.cfg s.clock p.2) := by
  cases h with
  | @upload args limit hid howner h =>
    cases ha
    rcases Await.meet_some hp with ⟨c, hc, -, rfl⟩ | ⟨c, -, -, rfl⟩ | ⟨_, _, hc, -⟩ |
      ⟨_, _, _, hc, -⟩ | ⟨_, hc, -⟩ | ⟨hc | hc, -⟩
    · cases hc
      rw [hid, howner]
      exact reserve_turn hunused hid howner h
    · exact .failed _ h
    all_goals cases hc
  | receive hid howner h =>
    simp only [Co.await, Option.some.injEq] at ha
    exact receive_turn hid howner h hok ha hp
  | seq e h =>
    cases inp <;> cases hok
    cases ha
    cases hp
    exact undo_turn e h
  | _ => cases ha

/-- The other rows stay as they are. -/
lemma UploadAt.besides {co : Co} {a : Await} {inp : Input} {p : Store × Except Exc Answer}
    (h : UploadAt F₀ (s.remains id owner) id owner co) (ha : co.await s.cfg = some a)
    (hp : a.meet s inp = some p) (state : BlobState) :
    p.1.metadata.besides id owner state = s.metadata.besides id owner state := by
  rcases Await.meet_some hp with ⟨c, rfl, -, rfl⟩ | ⟨c, -, -, rfl⟩ | ⟨o, i, rfl, -, rfl⟩ |
    ⟨fd, b, n, -, -, rfl⟩ | ⟨b, -, -, rfl⟩ | ⟨-, ⟨-, rfl⟩ | ⟨-, rfl⟩⟩
  · exact (h.owns ha).besides state
  all_goals rfl

end Turns

/-! ### Runs -/

namespace System

variable {w w' : System} {t : TaskId} {args : UploadArgs} {a : Act}

/-- The task that does not take the step is where it was, or has been lost in a crash. -/
lemma step_other (h : w.step a = some w') (hresume : ∀ inp, a ≠ .resume t inp)
    (hcancel : a ≠ .cancel t) (ht : t < w.nextTask) :
    w'.tasks.get? t = w.tasks.get? t ∨ w'.tasks.get? t = none := by
  cases a with
  | tick | diskFree => cases h; exact .inl rfl
  | damage => cases h; exact .inl (by rw [damage_tasks])
  | call request =>
    obtain ⟨co, -, htasks⟩ := start_some h
    rw [htasks, Dict.get?_set_ne _ _ ht.ne]
    exact .inl rfl
  | resume u inp =>
    obtain ⟨co, b, p, -, -, -, rfl⟩ := resume_some h
    refine .inl ?_
    rw [put_tasks, Dict.get?_set_ne]
    rintro rfl
    exact hresume inp rfl
  | cancel u =>
    obtain ⟨co, b, -, -, rfl⟩ := cancel_some h
    refine .inl ?_
    rw [put_tasks, Dict.get?_set_ne]
    rintro rfl
    exact hcancel rfl
  | thread i =>
    obtain ⟨c, -, rfl⟩ := Option.map_eq_some_iff.mp h
    exact .inl rfl
  | crash => cases h; exact .inr rfl

lemma nextTask_le (h : w.step a = some w') : w.nextTask ≤ w'.nextTask := by
  cases a with
  | tick | diskFree | crash => cases h; exact le_rfl
  | damage => cases h; rw [damage_nextTask]
  | call request =>
    cases request with
    | writeOutput | cancelOutput | abandonOutput =>
      obtain ⟨r, -, rfl⟩ := Option.map_eq_some_iff.mp h
      exact Nat.le_succ _
    | _ => cases h; exact Nat.le_succ _
  | resume u inp =>
    obtain ⟨co, b, p, -, -, -, rfl⟩ := resume_some h
    exact le_rfl
  | cancel u =>
    obtain ⟨co, b, -, -, rfl⟩ := cancel_some h
    exact le_rfl
  | thread i =>
    obtain ⟨c, -, rfl⟩ := Option.map_eq_some_iff.mp h
    exact le_rfl

/-- What an undisturbed upload has done so far. -/
structure Uploading (w : System) (t : TaskId) (s₀ : Store) (id : BlobId) (owner : Owner) :
    Prop where
  issued : t < w.nextTask
  stands : ∀ co, w.tasks.get? t = some co →
    UploadAt (s₀.remains id owner) (w.store.remains id owner) id owner co ∧
      ∀ state, state.counted = true →
        w.store.metadata.besides id owner state = s₀.metadata.besides id owner state

/-- A step of others that keeps off the blob. -/
lemma Uploading.other {s₀ : Store} {id : BlobId} {owner : Owner} (hu : w.Uploading t s₀ id owner)
    (h : w.step a = some w') (hresume : ∀ inp, a ≠ .resume t inp) (hcancel : a ≠ .cancel t)
    (hoff : w.keepsOff id owner a = true) : w'.Uploading t s₀ id owner := by
  refine ⟨hu.issued.trans_le (nextTask_le h), fun co hco => ?_⟩
  have hremains : w'.store.remains id owner = w.store.remains id owner := by
    simpa [keepsOff, h] using hoff
  rcases step_other h hresume hcancel hu.issued with heq | hnone
  · obtain ⟨hstands, hbesides⟩ := hu.stands co (heq ▸ hco)
    refine ⟨hremains ▸ hstands, fun state hcounted => ?_⟩
    rw [← hbesides state hcounted]
    exact (Metadata.usage_eq_iff (congrArg Remains.row hremains)).mp
      (congrArg Remains.usage hremains) state hcounted
  · rw [hnone] at hco
    cases hco

lemma Uploading.step {s₀ : Store} (hunused : s₀.Unused args.blobId args.owner)
    (hu : w.Uploading t s₀ args.blobId args.owner) (hok : Undisturbed t args w a = true)
    (h : w.step a = some w') : w'.Uploading t s₀ args.blobId args.owner := by
  cases a with
  | resume u inp =>
    simp only [Undisturbed] at hok
    split at hok
    · next heq =>
      subst heq
      obtain ⟨co, b, p, hco, ha, hp, rfl⟩ := resume_some h
      obtain ⟨hstands, hbesides⟩ := hu.stands co hco
      rw [hco, Option.all_some] at hok
      refine ⟨hu.issued, fun co' hco' => ?_⟩
      rw [put_tasks, Dict.get?_set_self, Option.some.injEq] at hco'
      subst hco'
      refine ⟨hstands.turn (fun hrow => ?_) hok ha hp, fun state hcounted => ?_⟩
      · obtain ⟨hentry, hfile⟩ := hunused hrow
        exact ⟨hrow, hentry, hfile⟩
      · exact (hstands.besides ha hp state).trans (hbesides state hcounted)
    · next hne =>
      refine hu.other h ?_ (by rintro ⟨⟩) hok
      rintro inp' heq
      cases heq
      exact hne rfl
  | cancel u =>
    simp only [Undisturbed] at hok
    split at hok
    · cases hok
    · next hne =>
      refine hu.other h (by rintro _ ⟨⟩) ?_ hok
      rintro heq
      cases heq
      exact hne rfl
  | _ => exact hu.other h (by rintro _ ⟨⟩) (by rintro ⟨⟩) hok

end System

/-- The upload has just been called. -/
lemma uploading_of_call {w w₀ : System} {args : UploadArgs}
    (h : w.step (.call (.upload args)) = some w₀) :
    w₀.Uploading w.nextTask w.store args.blobId args.owner := by
  cases h
  refine ⟨Nat.lt_succ_self _, fun co hco => ?_⟩
  have huntouched : (w.store.remains args.blobId args.owner).Untouched
      (w.store.remains args.blobId args.owner) := ⟨rfl, rfl, rfl, rfl⟩
  simp only [System.spawn, Dict.get?_set_self, Option.some.injEq] at hco
  subst hco
  refine ⟨?_, fun _ _ => rfl⟩
  simp only [checked, admitSize, refuse]
  split
  · exact .failed _ huntouched
  · split
    · exact .failed _ huntouched
    · split
      · exact .failed _ huntouched
      · split
        · exact .failed _ huntouched
        · exact .upload rfl rfl huntouched

/-- What a failed upload leaves: if the blob is not in use, an upload that is undisturbed until it
ends with an exception leaves the usage of its owner, its row, its journal entry, its staging file
and its published file as they were. -/
theorem failed_upload_leaves_nothing {w w₀ w' : System} {args : UploadArgs} {e : Exc}
    (hunused : w.store.Unused args.blobId args.owner)
    (hcall : w.step (.call (.upload args)) = some w₀)
    (hrun : Run System.step (fun w₁ a => Undisturbed w.nextTask args w₁ a = true) w₀ w')
    (hend : w'.tasks.get? w.nextTask = some (.done (.error e))) :
    w'.store.remains args.blobId args.owner = w.store.remains args.blobId args.owner := by
  have hu : w'.Uploading w.nextTask w.store args.blobId args.owner :=
    hrun.invariant (I := fun w' => w'.Uploading w.nextTask w.store args.blobId args.owner)
      (fun _ _ _ hu hok hstep => hu.step hunused hok hstep) (uploading_of_call hcall)
  obtain ⟨hstands, hbesides⟩ := hu.stands _ hend
  cases hstands with
  | failed _ h =>
    obtain ⟨hrow, hentry, hstaging, hfile⟩ := h
    have husage := (Metadata.usage_eq_iff hrow).mpr hbesides
    simp only [Store.remains, Remains.mk.injEq] at hrow hentry hstaging hfile ⊢
    exact ⟨husage, hrow, hentry, hstaging, hfile⟩

/-- Task `t` has ended with the exception. -/
def System.hasRaised (w : System) (t : TaskId) (e : Exc) : Bool :=
  match w.tasks.get? t with
  | some (.done (.error e')) => e' = e
  | _ => false

lemma System.of_hasRaised {w : System} {t : TaskId} {e : Exc} (h : w.hasRaised t e = true) :
    w.tasks.get? t = some (.done (.error e)) := by
  simp only [hasRaised] at h
  split at h
  · next e' heq => rw [heq, of_decide_eq_true h]
  · cases h

/-- The upload of one byte, from its reservation up to its rename. -/
def receiveOne : List Act :=
  [.resume 0 .go, .resume 0 .go, .resume 0 .go, .resume 0 .go, .resume 0 (.chunk [7]),
    .resume 0 .go, .resume 0 .eof, .resume 0 .go, .resume 0 .go, .resume 0 .go]

def sampleUpload : UploadArgs := { blobId := "b", owner := "o", mediaType := "application/json" }

/-- The rename of the upload fails. -/
theorem failed_upload_leaves_nothing_unrenamed :
    ∃ w₀ w', System.step { store := emptyStore } (.call (.upload sampleUpload)) = some w₀ ∧
      Run System.step (fun w a => Undisturbed 0 sampleUpload w a = true) w₀ w' ∧
      w'.tasks.get? 0 = some (.done (.error .osError)) ∧
      w'.store.remains "b" "o" = emptyStore.remains "b" "o" := by
  have hunused : emptyStore.Unused "b" "o" := fun _ => ⟨rfl, rfl⟩
  obtain ⟨w', hrun, hraised⟩ := System.exists_run (Undisturbed 0 sampleUpload)
    (System.spawn { store := emptyStore } (.upload sampleUpload (1024 ^ 3)))
    (receiveOne ++ [.resume 0 .fail, .resume 0 .go, .resume 0 .go, .resume 0 .go])
    (fun w' => w'.hasRaised 0 .osError = true) (by decide +kernel)
  have hend := System.of_hasRaised hraised
  have hleft := @failed_upload_leaves_nothing { store := emptyStore } _ w' sampleUpload _ hunused
    rfl hrun hend
  exact ⟨_, w', rfl, hrun, hend, hleft⟩

/-- The stream of the upload has another hash than was announced: its journal entry stays. -/
theorem refused_upload_leaves_entry :
    ∃ w₀ w', System.step { store := emptyStore }
        (.call (.upload { sampleUpload with expectedSha256 := some "eight" })) = some w₀ ∧
      Run System.step (fun _ _ => True) w₀ w' ∧ w'.strays = [] ∧
      w'.tasks.get? 0 = some (.done (.error (.blobStoreError "checksum_mismatch"
        "the received hash does not match X-Content-SHA256"))) ∧
      (w'.store.remains "b" "o").entry.isSome = true ∧ (emptyStore.remains "b" "o").entry = none ∧
      w'.store.remains "b" "o" ≠ emptyStore.remains "b" "o" := by
  obtain ⟨w', hrun, hstrays, hraised, hentry⟩ := System.exists_run (fun _ _ => true)
    (System.spawn { store := emptyStore }
      (.upload { sampleUpload with expectedSha256 := some "eight" } (1024 ^ 3)))
    ((receiveOne.take 8) ++ [.resume 0 .go, .resume 0 .go, .resume 0 .go])
    (fun w' => w'.strays = [] ∧ w'.hasRaised 0 (.blobStoreError "checksum_mismatch"
        "the received hash does not match X-Content-SHA256") = true ∧
      (w'.store.remains "b" "o").entry.isSome = true) (by decide +kernel)
  refine ⟨_, w', rfl, hrun.mono fun _ _ _ => trivial, hstrays, System.of_hasRaised hraised, hentry,
    rfl, fun heq => ?_⟩
  rw [heq] at hentry
  cases hentry

end ModelSwitch.Blobs

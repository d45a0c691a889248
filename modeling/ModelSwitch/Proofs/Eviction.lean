import ModelSwitch.Proofs.Book.States

/-!
# The eviction policy and the book

The policy reads the roles of a model off its registration, the book off the ledger entry derived
from it. The two agree on v1 registrations; a v2 registration has no roles to read. Since a v1 entry
has no physical figure, no batch of the policy lowers the physical ledger. What it chooses is the
shortest start of its ranking that releases enough.
-/

namespace ModelSwitch

/-! ### Registrations and their ledger entries -/

/-- A v1 entry has the roles of its registration and no physical figure. -/
lemma LedgerSpec.fromRegistration_v1 {spec : ModelSpec} {margin : ℚ} {entry : LedgerSpec}
    (h : LedgerSpec.fromRegistration (.v1 spec) margin = .ok entry) :
    entry.pinned = spec.pinned ∧ entry.evictable = spec.evictable ∧
      entry.physicalReservedBytes = none := by
  simp only [fromRegistration] at h
  split at h
  · cases h
  · cases h
    exact ⟨rfl, rfl, rfl⟩

namespace Book

variable {b b' : Book}

/-- The records and the ledger entries are those of the registrations. -/
structure Registered (b : Book) : Prop where
  entry : ∀ m reg, b.specs.get? m = some reg → ∃ margin entry, b.ledger.get? m = some entry ∧
    LedgerSpec.fromRegistration reg margin = .ok entry
  record : ∀ m reg, b.specs.get? m = some reg → ∃ r, b.runtime.get? m = some r

lemma init_registered {policy : BookPolicy} {specs : Dict ModelId Registration}
    (h : init policy specs = .ok b) : b.Registered := by
  obtain ⟨hledger, -, rfl, -, hruntime⟩ := init_ok h
  have hentry : ∀ m reg, b.specs.get? m = some reg → ∃ entry, b.ledger.get? m = some entry := by
    intro m reg hreg
    rw [← Dict.mem_keys_iff, Dict.keys_mapValM hledger]
    exact Dict.mem_keys_iff.mpr ⟨reg, hreg⟩
  refine ⟨fun m reg hreg => ?_, fun m reg hreg => ?_⟩
  · obtain ⟨entry, hget⟩ := hentry m reg hreg
    obtain ⟨reg', hreg', hfrom⟩ := Dict.get?_mapValM hledger hget
    cases hreg.symm.trans hreg'
    exact ⟨_, entry, hget, hfrom⟩
  · obtain ⟨entry, hget⟩ := hentry m reg hreg
    exact ⟨_, by rw [hruntime, Dict.get?_mapVal, hget]; rfl⟩

lemma Step.specs_eq {e : Edge} (h : Step e b b') : b'.specs = b.specs := by
  cases h <;> rfl

lemma Step.registered {e : Edge} (h : Step e b b') (hb : b.Registered) : b'.Registered := by
  refine ⟨?_, fun m reg hreg => ?_⟩
  · rw [h.specs_eq, h.ledger_eq]
    exact hb.entry
  · obtain ⟨r, hr⟩ := hb.record m reg (h.specs_eq ▸ hreg)
    exact h.known hr

lemma Reachable.registered {policy : BookPolicy} {specs : Dict ModelId Registration}
    (h : Reachable policy specs b) : b.Registered := by
  obtain ⟨b₀, h₀, hrun⟩ := h
  exact (path_of_run hrun).invariant (fun _ _ _ hb _ hstep => hstep.registered hb)
    (init_registered h₀)

/-- A batch whose records are accepted passes its check. -/
lemma validateBatch_of_accepted {refuses : Runtime → LedgerSpec → Bool} {message : String}
    {ms : List ModelId} (h : ∀ m ∈ ms, ∃ r spec, b.runtime.get? m = some r ∧
      b.ledger.get? m = some spec ∧ refuses r spec = false) :
    b.validateBatch refuses message ms = .ok () := by
  induction ms with
  | nil => rfl
  | cons m ms ih =>
    obtain ⟨r, spec, hr, hspec, hno⟩ := h m (List.mem_cons_self ..)
    simp only [validateBatch, hr, hspec, hno, Bool.false_eq_true, if_false]
    exact ih fun m' hm' => h m' (List.mem_cons_of_mem _ hm')

end Book

/-! ### What the policy collects -/

/-- The record passes the policy's own checks. -/
def Runtime.eligible (r : Runtime) (includeBusy : Bool) : Bool :=
  r.state = .ready && (!r.hasLeases || includeBusy) && !r.admissionBlocked

namespace EvictionPolicy

variable {b : Book} {now : Time} {busy : Bool}
  {specs : List (ModelId × Registration)} {cs batch : List EvictionCandidate}

lemma eligible_iff {r : Runtime} : r.eligible busy = true ↔
    ¬ (r.state ≠ .ready ∨ (r.hasLeases = true ∧ ¬ busy = true) ∨ r.admissionBlocked = true) := by
  cases hl : r.hasLeases <;> cases busy <;> simp [Runtime.eligible, hl]

/-- A candidate is an eligible v1 model that may be evicted. -/
structure Sound (b : Book) (busy : Bool) (c : EvictionCandidate) (spec : ModelSpec) : Prop where
  record : ∃ r, b.runtime.get? c.modelId = some r ∧ r.eligible busy = true
  pinned : spec.pinned = false
  evictable : spec.evictable = true
  reserved : c.reservedBytes = b.required c.modelId

lemma collect_sound (h : collect b now busy specs = .ok cs) :
    (cs.map (·.modelId)).Sublist (specs.map Prod.fst) ∧
      ∀ c ∈ cs, ∃ spec, (c.modelId, .v1 spec) ∈ specs ∧ Sound b busy c spec := by
  induction specs generalizing cs with
  | nil =>
    cases h
    exact ⟨List.Sublist.refl _, nofun⟩
  | cons p specs ih =>
    obtain ⟨m, reg⟩ := p
    have hskip : collect b now busy specs = .ok cs →
        (cs.map (·.modelId)).Sublist (((m, reg) :: specs).map Prod.fst) ∧
          ∀ c ∈ cs, ∃ spec, (c.modelId, .v1 spec) ∈ (m, reg) :: specs ∧ Sound b busy c spec := by
      intro h
      obtain ⟨hsub, hcs⟩ := ih h
      refine ⟨hsub.cons _, fun c hc => ?_⟩
      obtain ⟨spec, hmem, hsound⟩ := hcs c hc
      exact ⟨spec, List.mem_cons_of_mem _ hmem, hsound⟩
    simp only [collect] at h
    split at h
    · cases h
    · rename_i r hr
      split_ifs at h with helig
      · exact hskip h
      · cases reg with
        | v2 spec => cases h
        | v1 spec =>
          simp only at h
          split_ifs at h with hrole
          · exact hskip h
          · cases hrest : collect b now busy specs with
            | error e => simp [hrest] at h
            | ok result =>
              simp only [hrest, Except.ok.injEq] at h
              subst h
              obtain ⟨hsub, hcs⟩ := ih hrest
              simp only [not_or, Bool.not_eq_true, Bool.not_eq_false] at hrole
              refine ⟨hsub.cons_cons m, fun c hc => ?_⟩
              rcases List.mem_cons.mp hc with rfl | hc
              · exact ⟨spec, List.mem_cons_self .., ⟨r, hr, eligible_iff.mpr helig⟩, hrole.1,
                  hrole.2, rfl⟩
              · obtain ⟨spec', hmem, hsound⟩ := hcs c hc
                exact ⟨spec', List.mem_cons_of_mem _ hmem, hsound⟩

/-- The policy raises on the first eligible v2 registration. -/
lemma collect_ok_iff (hknown : ∀ p ∈ specs, ∃ r, b.runtime.get? p.1 = some r) :
    (∃ cs, collect b now busy specs = .ok cs) ↔
      ∀ m spec r, (m, .v2 spec) ∈ specs → b.runtime.get? m = some r → r.eligible busy = false := by
  induction specs with
  | nil => exact ⟨fun _ _ _ _ h => absurd h List.not_mem_nil, fun _ => ⟨[], rfl⟩⟩
  | cons p specs ih =>
    obtain ⟨m, reg⟩ := p
    obtain ⟨r, hr⟩ := hknown _ (List.mem_cons_self ..)
    have ih := ih fun p hp => hknown p (List.mem_cons_of_mem _ hp)
    have hcons : (∀ m' spec r', (m', .v2 spec) ∈ (m, reg) :: specs → b.runtime.get? m' = some r' →
        r'.eligible busy = false) ↔ (∀ spec, reg = .v2 spec → r.eligible busy = false) ∧
          ∃ cs, collect b now busy specs = .ok cs := by
      rw [ih]
      refine ⟨fun h => ⟨fun spec hreg => h m spec r (hreg ▸ List.mem_cons_self ..) hr,
        fun m' spec r' hmem hr' => h m' spec r' (List.mem_cons_of_mem _ hmem) hr'⟩, ?_⟩
      rintro ⟨hhead, htail⟩ m' spec r' hmem hr'
      rcases List.mem_cons.mp hmem with heq | hmem
      · obtain ⟨rfl, rfl⟩ := Prod.mk.inj heq
        cases hr.symm.trans hr'
        exact hhead spec rfl
      · exact htail m' spec r' hmem hr'
    rw [hcons]
    simp only at hr
    simp only [collect, hr]
    by_cases helig : r.eligible busy = true
    · rw [if_neg (eligible_iff.mp helig)]
      cases reg with
      | v2 spec =>
        refine ⟨by rintro ⟨_, ⟨⟩⟩, fun h => ?_⟩
        exact absurd (h.1 spec rfl) (by simp [helig])
      | v1 spec =>
        simp only [reduceCtorEq, false_implies, implies_true, true_and]
        split_ifs
        · exact Iff.rfl
        · cases collect b now busy specs with
          | error e | ok cs => simp
    · rw [if_pos (not_not.mp fun h => helig (eligible_iff.mpr h))]
      simp [Bool.not_eq_true _ ▸ helig]

lemma candidates_ok_iff (hreg : b.Registered) :
    (∃ cs, candidates b now busy = .ok cs) ↔ ∀ m spec r, b.specs.get? m = some (.v2 spec) →
      b.runtime.get? m = some r → r.eligible busy = false := by
  have hcollect := @collect_ok_iff b now busy b.specs.entries
    fun p hp => hreg.record p.1 p.2 (Dict.mem_entries_iff.mp hp)
  simp only [Dict.mem_entries_iff] at hcollect
  rw [← hcollect, candidates]
  cases collect b now busy b.specs.entries with
  | error e | ok cs => simp

/-- A chosen batch is the start of the candidates, and it releases what is needed. -/
lemma prefixFor_cases (needed : ℤ) (limit : ℕ) (selected : List EvictionCandidate) (released : ℤ)
    (cs : List EvictionCandidate) :
    prefixFor needed limit selected released cs = [] ∨ ∃ taken, taken <+: cs ∧
      prefixFor needed limit selected released cs = selected ++ taken ∧
        needed ≤ released + (taken.map (·.reservedBytes)).sum := by
  induction cs generalizing selected released with
  | nil => exact .inl rfl
  | cons c cs ih =>
    simp only [prefixFor]
    split_ifs with henough hfull
    · exact .inr ⟨[c], by simp, rfl, by simpa using henough⟩
    · exact .inl rfl
    · rcases ih (selected ++ [c]) (released + c.reservedBytes) with hnil | ⟨taken, hpre, heq, hle⟩
      · exact .inl hnil
      · refine .inr ⟨c :: taken, List.cons_prefix_cons.mpr ⟨rfl, hpre⟩, ?_, ?_⟩
        · rw [heq, List.append_assoc, List.singleton_append]
        · simpa [add_assoc] using hle

/-- What is known of a batch that is not empty. -/
structure Batch (b : Book) (busy : Bool) (needed : ℤ) (batch : List EvictionCandidate) : Prop where
  nodup : (batch.map (·.modelId)).Nodup
  sound : ∀ c ∈ batch, ∃ spec, b.specs.get? c.modelId = some (.v1 spec) ∧ Sound b busy c spec
  enough : needed ≤ (batch.map (·.reservedBytes)).sum

lemma choose_batch {limit : ℕ} {needed : ℤ} (h : choose b limit needed now busy = .ok batch)
    (hne : batch ≠ []) : Batch b busy needed batch := by
  simp only [choose] at h
  split_ifs at h
  · cases h
    exact absurd rfl hne
  · cases hcollect : collect b now busy b.specs.entries with
    | error e => simp [candidates, hcollect] at h
    | ok cs =>
      obtain ⟨hsub, hsound⟩ := collect_sound hcollect
      simp only [candidates, hcollect, Except.ok.injEq] at h
      rcases prefixFor_cases needed limit [] 0 (cs.insertionSort (precedes · ·)) with
        hnil | ⟨taken, hpre, heq, hle⟩
      · exact absurd (h ▸ hnil) hne
      · rw [heq, List.nil_append] at h
        subst h
        have hperm : (cs.insertionSort (precedes · ·)).Perm cs := List.perm_insertionSort _ cs
        refine ⟨?_, fun c hc => ?_, by simpa using hle⟩
        · have hnodup : (cs.map (·.modelId)).Nodup := hsub.nodup b.specs.nodup
          exact (hpre.sublist.map _).nodup ((hperm.map _).nodup_iff.mpr hnodup)
        · obtain ⟨spec, hmem, hc'⟩ := hsound c (hperm.mem_iff.mp (hpre.subset hc))
          exact ⟨spec, Dict.mem_entries_iff.mp hmem, hc'⟩

/-- A batch is refused neither by `begin_eviction` nor by `freeze_for_switch`, as far as its models
are concerned. -/
lemma Batch.accepted {needed : ℤ} (h : Batch b busy needed batch) (hinv : b.Inv)
    (hreg : b.Registered) :
    ∀ m ∈ batch.map (·.modelId), ∃ r entry, b.runtime.get? m = some r ∧
      b.ledger.get? m = some entry ∧ r.eligible busy = true ∧ r.operationId = none ∧
      entry.pinned = false ∧ entry.evictable = true := by
  intro m hm
  obtain ⟨c, hc, rfl⟩ := List.mem_map.mp hm
  obtain ⟨spec, hspec, hsound⟩ := h.sound c hc
  obtain ⟨r, hr, helig⟩ := hsound.record
  obtain ⟨margin, entry, hentry, hfrom⟩ := hreg.entry _ _ hspec
  obtain ⟨hpin, hev, -⟩ := LedgerSpec.fromRegistration_v1 hfrom
  obtain ⟨_, _, hri⟩ := hinv.record _ r hr
  have hready : r.state = .ready := by
    simp only [Runtime.eligible, Bool.and_eq_true, decide_eq_true_eq] at helig
    exact helig.1.1
  have hop : r.operationId = none := by
    by_contra hop
    rcases hri.operation.mp hop with hs | hs <;> cases hready.symm.trans hs
  exact ⟨r, entry, hr, hentry, helig, hop, hpin.trans hsound.pinned, hev.trans hsound.evictable⟩

lemma Batch.valid {needed : ℤ} (h : Batch b busy needed batch) (hne : batch ≠ [])
    (hq : b.Quiesced) : b.invalidBatch (batch.map (·.modelId)) = false := by
  obtain ⟨c, hc⟩ := List.exists_mem_of_ne_nil batch hne
  obtain ⟨spec, -, hsound⟩ := h.sound c hc
  obtain ⟨r, hr, helig⟩ := hsound.record
  have hrunning : b.recovering = false := by
    by_contra hrec
    have hstate := hq (by simpa using hrec) c.modelId
    simp only [Book.runtimeOf, hr, Option.getD_some] at hstate
    simp only [Runtime.eligible, Bool.and_eq_true, decide_eq_true_eq] at helig
    simp [helig.1.1] at hstate
  have hempty : (batch.map (·.modelId)).isEmpty = false := by simpa using hne
  simp [Book.invalidBatch, hrunning, hempty, h.nodup]

/-! ### The policy and the book agree on v1 registrations -/

/-- The policy lists its candidates, and the book accepts whatever it chooses: an idle batch for
eviction, a busy one for a switch. -/
def Agrees (b : Book) (includeBusy : Bool) : Prop :=
  ∀ now, (∃ cs, candidates b now includeBusy = .ok cs) ∧
    ∀ limit needed batch, choose b limit needed now includeBusy = .ok batch → batch ≠ [] →
      (includeBusy = false → ∃ ops, (b.beginEviction (batch.map (·.modelId))).2 = .ok ops) ∧
      (includeBusy = true → (b.freezeForSwitch (batch.map (·.modelId))).2 = .ok ())

lemma beginEviction_accepts {ids : List ModelId} (hvalid : b.invalidBatch ids = false)
    (h : ∀ m ∈ ids, ∃ r entry, b.runtime.get? m = some r ∧ b.ledger.get? m = some entry ∧
      r.eligible false = true ∧ r.operationId = none ∧ entry.pinned = false ∧
      entry.evictable = true) : ∃ ops, (b.beginEviction ids).2 = .ok ops := by
  have hbatch : b.validateBatch (Book.evictionRefuses true) "protected or changed candidate" ids
      = .ok () := by
    refine Book.validateBatch_of_accepted fun m hm => ?_
    obtain ⟨r, entry, hr, hentry, helig, hop, hpin, hev⟩ := h m hm
    refine ⟨r, entry, hr, hentry, ?_⟩
    simp only [Runtime.eligible, Bool.and_eq_true, decide_eq_true_eq, Bool.or_false,
      Bool.not_eq_true'] at helig
    simp [Book.evictionRefuses, helig.1.1, helig.1.2, hop, hpin, hev]
  simp [Book.beginEviction, hvalid, hbatch]

lemma freezeForSwitch_accepts {ids : List ModelId} (hvalid : b.invalidBatch ids = false)
    (h : ∀ m ∈ ids, ∃ r entry, b.runtime.get? m = some r ∧ b.ledger.get? m = some entry ∧
      r.eligible true = true ∧ r.operationId = none ∧ entry.pinned = false ∧
      entry.evictable = true) : (b.freezeForSwitch ids).2 = .ok () := by
  have hbatch : b.validateBatch Book.freezeRefuses "switch candidate changed" ids = .ok () := by
    refine Book.validateBatch_of_accepted fun m hm => ?_
    obtain ⟨r, entry, hr, hentry, helig, hop, hpin, hev⟩ := h m hm
    refine ⟨r, entry, hr, hentry, ?_⟩
    simp only [Runtime.eligible, Bool.and_eq_true, decide_eq_true_eq, Bool.or_true, and_true,
      Bool.not_eq_true'] at helig
    simp [Book.freezeRefuses, helig.1, helig.2, hop, hpin, hev]
  simp [Book.freezeForSwitch, hvalid, hbatch]

/-- **The policy agrees with the book** exactly as long as no v2 registration is eligible. -/
theorem agrees_iff (policy : BookPolicy) (specs : Dict ModelId Registration) (b : Book)
    (h : Book.Reachable policy specs b) (includeBusy : Bool) :
    Agrees b includeBusy ↔ ∀ m spec r, b.specs.get? m = some (.v2 spec) →
      b.runtime.get? m = some r → r.eligible includeBusy = false := by
  constructor
  · intro hagrees
    exact (candidates_ok_iff h.registered).mp (hagrees 0).1
  · intro hv2 now
    refine ⟨(candidates_ok_iff h.registered).mpr hv2, fun limit needed batch hchoose hne => ?_⟩
    have hbatch := choose_batch hchoose hne
    have hvalid := hbatch.valid hne h.quiesced
    have haccepted := hbatch.accepted h.inv h.registered
    refine ⟨?_, ?_⟩
    · rintro rfl
      exact beginEviction_accepts hvalid haccepted
    · rintro rfl
      exact freezeForSwitch_accepts hvalid haccepted

def isV2 : Registration → Bool
  | .v1 _ => false
  | .v2 _ => true

/-- A v2 registration whose record is not eligible does not disturb the policy. -/
lemma not_eligible_of_entries (h : ∀ p ∈ b.specs.entries, isV2 p.2 = true →
    (b.runtime.get? p.1).any (·.eligible busy) = false) (m : ModelId) (spec : RegisteredModelSpec)
    (r : Runtime) (hspec : b.specs.get? m = some (.v2 spec)) (hr : b.runtime.get? m = some r) :
    r.eligible busy = false := by
  simpa [hr] using h _ (Dict.mem_entries_iff.mpr hspec) rfl

/-- A v1 and a v2 model that fit together, and a v1 model that does not fit beside them. -/
def mixedSpecs : Dict ModelId Registration :=
  ⟨[("chat", .v1 { modelId := "chat", reservedBytes := 400 }),
    ("embed", .v2 { modelId := "embed", maxParallel := 2, reservedBytes := 300,
                    physicalResidentPeakBytes := none }),
    ("draft", .v1 { modelId := "draft", reservedBytes := 500 })], by decide⟩

/-- `chat` and `embed` are loaded, and `embed` holds a lease. -/
def mixedBook : Book :=
  [.bootstrapStopped "chat", .bootstrapStopped "embed", .bootstrapStopped "draft",
   .beginLoad "chat" ⟨2000, 1500, 0⟩ 0, .loaded ⟨0, "chat", 1, 0⟩ 0,
   .beginLoad "embed" ⟨2000, 1500, 0⟩ 0, .loaded ⟨1, "embed", 1, 0⟩ 0,
   .acquireReady "embed" "request-1" 0].foldl Book.apply (Book.built Book.samplePolicy mixedSpecs)

lemma mixedBook_reachable : Book.Reachable Book.samplePolicy mixedSpecs mixedBook :=
  Book.built_reachable (by decide +kernel) _

lemma choose_mixedBook : ∃ batch, choose mixedBook 1 200 0 false = .ok batch ∧
    batch.map (·.modelId) = ["chat"] := by
  have h : (choose mixedBook 1 200 0 false).toOption.map (·.map (·.modelId)) = some ["chat"] := by
    decide +kernel
  obtain ⟨batch, hbatch, hids⟩ := Option.map_eq_some_iff.mp h
  cases hc : choose mixedBook 1 200 0 false <;> rw [hc] at hbatch <;> cases hbatch
  exact ⟨_, rfl, hids⟩

/-- The v2 model holds a lease, so it is no idle candidate; the v1 model is one, and its eviction is
accepted. -/
theorem agrees_idle_sample : ∃ ops, (mixedBook.beginEviction ["chat"]).2 = .ok ops := by
  obtain ⟨batch, hbatch, hids⟩ := choose_mixedBook
  rw [← hids]
  exact (((agrees_iff _ _ _ mixedBook_reachable false).mpr
    (not_eligible_of_entries (by decide +kernel)) 0).2 1 200 batch hbatch
      (by rintro rfl; cases hids)).1 rfl

/-- The same book asked for a switch: the loaded v2 model has no `pinned` attribute to read. -/
theorem not_agrees_busy_sample : Book.Reachable Book.samplePolicy Book.sampleSpecs Book.sampleBook ∧
    ¬ Agrees Book.sampleBook true := by
  refine ⟨Book.sampleBook_reachable, fun h => ?_⟩
  obtain ⟨cs, hcs⟩ := (h 0).1
  have hraise : (candidates Book.sampleBook 0 true).isOk = false := by decide +kernel
  rw [hcs] at hraise
  cases hraise

end EvictionPolicy

/-! ### What a batch releases -/

namespace Book

variable {b : Book} {m : ModelId}

/-- A record whose model has been stopped. -/
def stopRuntime (r : Runtime) : Runtime := { r with state := .unloaded, reservation := 0 }

/-- The book once every model of `ids` has been stopped, with no other change. -/
def stopAll (b : Book) : List ModelId → Book
  | [] => b
  | m :: ms =>
    match b.runtime.get? m with
    | none => b
    | some r => (b.setRuntime m (stopRuntime r)).stopAll ms

lemma stopAll_static (b : Book) (ids : List ModelId) :
    (b.stopAll ids).ledger = b.ledger ∧ (b.stopAll ids).policy = b.policy ∧
      (b.stopAll ids).physicalEnforced = b.physicalEnforced := by
  induction ids generalizing b with
  | nil => exact ⟨rfl, rfl, rfl⟩
  | cons m ms ih =>
    rw [stopAll]
    split
    · exact ⟨rfl, rfl, rfl⟩
    · exact ih _

lemma stopAll_committed {ids : List ModelId} (hnd : ids.Nodup)
    (h : ∀ m ∈ ids, ∃ r, b.runtime.get? m = some r ∧ r.reservation = b.required m) :
    (b.stopAll ids).committed = b.committed - (ids.map b.required).sum := by
  induction ids generalizing b with
  | nil => simp [stopAll]
  | cons m ms ih =>
    obtain ⟨r, hr, hres⟩ := h m (List.mem_cons_self ..)
    obtain ⟨hm, hnd⟩ := List.nodup_cons.mp hnd
    simp only [stopAll, hr]
    have hrest : ∀ m' ∈ ms, ∃ r', (b.setRuntime m (stopRuntime r)).runtime.get? m' = some r' ∧
        r'.reservation = b.required m' := by
      intro m' hm'
      have hne : m' ≠ m := fun heq => hm (heq ▸ hm')
      simp only [setRuntime, Dict.get?_set_ne _ _ hne]
      exact h m' (List.mem_cons_of_mem _ hm')
    have hfirst : (b.setRuntime m (stopRuntime r)).committed = b.committed - b.required m := by
      have hset : (b.setRuntime m (stopRuntime r)).committed = b.committed - r.reservation + 0 :=
        committed_setRuntime hr (stopRuntime r) b.uuids
      omega
    have hreq : (b.setRuntime m (stopRuntime r)).required = b.required := rfl
    rw [ih hnd hrest, hfirst, hreq, List.map_cons, List.sum_cons]
    ring

/-- Models without a physical figure do not count in the physical gate. -/
lemma stopAll_physicalAdmissible {ids : List ModelId}
    (h : ∀ m' ∈ ids, b.physicalRequired m' = none) :
    (b.stopAll ids).physicalAdmissible m = b.physicalAdmissible m := by
  induction ids generalizing b with
  | nil => rfl
  | cons m' ms ih =>
    rw [stopAll]
    split
    · rfl
    · rename_i r hr
      rw [ih (b := b.setRuntime m' _) fun x hx => h x (List.mem_cons_of_mem _ hx)]
      have hnone := h m' (List.mem_cons_self ..)
      have hsum : ((b.runtime.set m' (stopRuntime r)).sum fun other r =>
            if other ≠ m ∧ 0 < r.reservation then (b.physicalRequired other).getD 0 else 0)
          = b.runtime.sum fun other r =>
            if other ≠ m ∧ 0 < r.reservation then (b.physicalRequired other).getD 0 else 0 := by
        rw [Dict.sum_set _ hr]
        simp [hnone]
      have hreq : (b.setRuntime m' (stopRuntime r)).physicalRequired = b.physicalRequired := rfl
      simp only [physicalAdmissible, hreq]
      rw [← hsum]
      rfl

/-- The two static gates of a load. -/
def StaticGates (b : Book) (m : ModelId) : Prop :=
  b.committed + b.required m ≤ b.policy.modelBudget ∧ b.physicalAdmissible m = true

/-- What evicting the model would release: nothing unless the policy may take it. -/
def evictableOf (b : Book) (includeBusy : Bool) (m : ModelId) (reg : Registration) : ℤ :=
  match reg, b.runtime.get? m with
  | .v1 spec, some r =>
    if r.eligible includeBusy && !spec.pinned && spec.evictable then b.required m else 0
  | _, _ => 0

/-- The bytes the policy could release with all its candidates. -/
def evictableBytes (b : Book) (includeBusy : Bool) : ℤ := b.specs.sum (b.evictableOf includeBusy)

end Book

namespace EvictionPolicy

variable {b : Book} {now : Time} {busy : Bool}

lemma collect_sum {specs : List (ModelId × Registration)} {cs : List EvictionCandidate}
    (h : collect b now busy specs = .ok cs) :
    (cs.map (·.reservedBytes)).sum = (specs.map fun p => b.evictableOf busy p.1 p.2).sum := by
  induction specs generalizing cs with
  | nil =>
    cases h
    rfl
  | cons p specs ih =>
    obtain ⟨m, reg⟩ := p
    simp only [collect] at h
    split at h
    · cases h
    · rename_i r hr
      split_ifs at h with helig
      · have hno : r.eligible busy = false := by
          rw [← Bool.not_eq_true, eligible_iff, not_not]
          exact helig
        have hzero : b.evictableOf busy m reg = 0 := by
          cases reg <;> simp [Book.evictableOf, hr, hno]
        rw [List.map_cons, List.sum_cons, hzero, zero_add]
        exact ih h
      · cases reg with
        | v2 spec => cases h
        | v1 spec =>
          have hyes := eligible_iff.mpr helig
          simp only at h
          split_ifs at h with hrole
          · have hzero : b.evictableOf busy m (.v1 spec) = 0 := by
              rcases hrole with hrole | hrole <;> simp [Book.evictableOf, hr, hrole]
            rw [List.map_cons, List.sum_cons, hzero, zero_add]
            exact ih h
          · simp only [not_or, Bool.not_eq_true, Bool.not_eq_false] at hrole
            have hreq : b.evictableOf busy m (.v1 spec) = b.required m := by
              simp [Book.evictableOf, hr, hyes, hrole.1, hrole.2]
            cases hrest : collect b now busy specs with
            | error e => simp [hrest] at h
            | ok result =>
              simp only [hrest, Except.ok.injEq] at h
              subst h
              rw [List.map_cons, List.sum_cons, List.map_cons, List.sum_cons, hreq, ih hrest]

lemma candidates_sum {cs : List EvictionCandidate} (h : candidates b now busy = .ok cs) :
    (cs.map (·.reservedBytes)).sum = b.evictableBytes busy := by
  simp only [candidates] at h
  cases hcollect : collect b now busy b.specs.entries with
  | error e => simp [hcollect] at h
  | ok result =>
    simp only [hcollect, Except.ok.injEq] at h
    subst h
    rw [((List.perm_insertionSort _ result).map _).sum_eq]
    exact collect_sum hcollect

lemma candidates_nonneg {cs : List EvictionCandidate} (hpos : b.LedgerPos)
    (h : candidates b now busy = .ok cs) : ∀ c ∈ cs, 0 ≤ c.reservedBytes := by
  intro c hc
  simp only [candidates] at h
  cases hcollect : collect b now busy b.specs.entries with
  | error e => simp [hcollect] at h
  | ok result =>
    simp only [hcollect, Except.ok.injEq] at h
    subst h
    obtain ⟨spec, -, hsound⟩ := (collect_sound hcollect).2 c ((List.mem_insertionSort _).mp hc)
    rw [hsound.reserved, Book.required]
    cases hentry : b.ledger.get? c.modelId with
    | none => exact le_rfl
    | some entry => exact (hpos _ entry hentry).le

/-- With no bound on its length, a batch is found if all the candidates together suffice. -/
lemma prefixFor_ne_nil {needed : ℤ} {limit : ℕ} {selected cs : List EvictionCandidate}
    {released : ℤ} (hlimit : selected.length + cs.length < limit) (hneeded : released < needed)
    (h : needed ≤ released + (cs.map (·.reservedBytes)).sum) :
    prefixFor needed limit selected released cs ≠ [] := by
  induction cs generalizing selected released with
  | nil => simp at h; omega
  | cons c cs ih =>
    simp only [prefixFor]
    split_ifs with henough hfull
    · simp
    · simp only [List.length_append, List.length_cons, List.length_nil] at hfull hlimit
      omega
    · refine ih ?_ (not_le.mp henough) ?_
      · simp only [List.length_append, List.length_cons, List.length_nil] at hlimit ⊢
        omega
      · simpa [add_assoc] using h

/-- Some bound lets the policy find a batch exactly if its candidates together suffice. -/
lemma exists_batch_iff {needed : ℤ} (hneeded : 0 < needed) (hpos : b.LedgerPos)
    (hreg : b.Registered) :
    (∃ limit batch, choose b limit needed now busy = .ok batch ∧ batch ≠ []) ↔
      (∀ m spec r, b.specs.get? m = some (.v2 spec) → b.runtime.get? m = some r →
        r.eligible busy = false) ∧ needed ≤ b.evictableBytes busy := by
  rw [← @candidates_ok_iff _ now _ hreg]
  constructor
  · rintro ⟨limit, batch, hchoose, hne⟩
    simp only [choose, if_neg hneeded.not_ge] at hchoose
    cases hcs : candidates b now busy with
    | error e => simp [hcs] at hchoose
    | ok cs =>
      simp only [hcs, Except.ok.injEq] at hchoose
      refine ⟨⟨cs, rfl⟩, ?_⟩
      rcases prefixFor_cases needed limit [] 0 cs with hnil | ⟨taken, hpre, -, hle⟩
      · exact absurd (hchoose ▸ hnil) hne
      · obtain ⟨rest, rfl⟩ := hpre
        have hrest : 0 ≤ (rest.map (·.reservedBytes)).sum := by
          refine List.sum_nonneg fun x hx => ?_
          obtain ⟨c, hc, rfl⟩ := List.mem_map.mp hx
          exact candidates_nonneg hpos hcs c (List.mem_append_right _ hc)
        rw [← candidates_sum hcs, List.map_append, List.sum_append]
        omega
  · rintro ⟨⟨cs, hcs⟩, hle⟩
    rw [← candidates_sum hcs] at hle
    refine ⟨cs.length + 1, prefixFor needed (cs.length + 1) [] 0 cs, ?_, ?_⟩
    · simp only [choose, if_neg hneeded.not_ge, hcs]
    · exact prefixFor_ne_nil (by simp) hneeded (by simpa using hle)

/-- Stopping a batch lowers the model ledger by what was needed and leaves the physical gate as it
was. -/
lemma Batch.stopAll {needed : ℤ} {batch : List EvictionCandidate} (h : Batch b busy needed batch)
    (hinv : b.Inv) (hreg : b.Registered) (m : ModelId) :
    (b.stopAll (batch.map (·.modelId))).committed ≤ b.committed - needed ∧
      (b.stopAll (batch.map (·.modelId))).physicalAdmissible m = b.physicalAdmissible m := by
  constructor
  · have hcommitted := Book.stopAll_committed (b := b) h.nodup fun m hm => by
      obtain ⟨r, entry, hr, hentry, helig, -⟩ := h.accepted hinv hreg m hm
      obtain ⟨entry', hentry', hri⟩ := hinv.record m r hr
      cases hentry.symm.trans hentry'
      simp only [Runtime.eligible, Bool.and_eq_true, decide_eq_true_eq] at helig
      exact ⟨r, hr, by simp [hri.reservation, helig.1.1, Book.required, hentry]⟩
    have hsum : ((batch.map (·.modelId)).map b.required).sum
        = (batch.map (·.reservedBytes)).sum := by
      rw [List.map_map]
      refine congrArg List.sum (List.map_congr_left fun c hc => ?_)
      obtain ⟨spec, -, hsound⟩ := h.sound c hc
      exact hsound.reserved.symm
    have henough := h.enough
    omega
  · refine Book.stopAll_physicalAdmissible fun m' hm' => ?_
    obtain ⟨c, hc, rfl⟩ := List.mem_map.mp hm'
    obtain ⟨spec, hspec, -⟩ := h.sound c hc
    obtain ⟨margin, entry, hentry, hfrom⟩ := hreg.entry _ _ hspec
    simp [Book.physicalRequired, hentry, (LedgerSpec.fromRegistration_v1 hfrom).2.2]

end EvictionPolicy

/-! ### The deficit of a load -/

namespace Scheduler

variable (s : Scheduler) (m : ModelId) (sample : MemorySample)

/-- Eviction removes the gate that blocks the load: a closed gate shows as a deficit, and stopping
the batch chosen for the deficit opens both gates. -/
def EvictionOpens : Prop :=
  (¬ s.book.StaticGates m → 0 < s.loadDeficit m sample) ∧
  ∀ limit now busy batch,
    EvictionPolicy.choose s.book limit (s.loadDeficit m sample) now busy = .ok batch → batch ≠ [] →
    (s.book.stopAll (batch.map (·.modelId))).StaticGates m

/-- The load lacks memory: in the sample or in the model ledger. -/
def Short : Prop :=
  sample.availableBytes < s.book.policy.freeFloor + s.book.required m ∨
    s.book.policy.modelBudget < s.book.committed + s.book.required m

/-- The policy has nothing to offer for the load: it raises on a v2 model, or all its candidates
together do not cover what the load lacks. -/
def NoBatch (includeBusy : Bool) : Prop :=
  (∃ m' spec r, s.book.specs.get? m' = some (.v2 spec) ∧ s.book.runtime.get? m' = some r ∧
    r.eligible includeBusy = true) ∨
  s.book.evictableBytes includeBusy + sample.availableBytes
    < s.book.policy.freeFloor + s.book.required m ∨
  s.book.evictableBytes includeBusy + s.book.policy.modelBudget
    < s.book.committed + s.book.required m

variable {s m sample}

lemma short_iff : s.Short m sample ↔ 0 < s.loadDeficit m sample := by
  simp only [Short, loadDeficit, lt_max_iff, lt_irrefl, false_or, sub_pos]

lemma noBatch_iff {busy : Bool} {now : Time} (hshort : s.Short m sample)
    (hpos : s.book.LedgerPos) (hreg : s.book.Registered) : s.NoBatch m sample busy ↔
      ∀ limit batch, EvictionPolicy.choose s.book limit (s.loadDeficit m sample) now busy
        = .ok batch → batch = [] := by
  have hex := @EvictionPolicy.exists_batch_iff _ now busy _ (short_iff.mp hshort)
    hpos hreg
  rw [← not_iff_not] at hex
  simp only [not_exists, not_and, not_not, not_le] at hex
  have hlack : s.book.evictableBytes busy < s.loadDeficit m sample ↔
      s.book.evictableBytes busy + sample.availableBytes
        < s.book.policy.freeFloor + s.book.required m ∨
      s.book.evictableBytes busy + s.book.policy.modelBudget
        < s.book.committed + s.book.required m := by
    simp only [Short, loadDeficit] at hshort ⊢
    omega
  rw [hex, NoBatch, or_iff_not_imp_left, ← hlack]
  simp only [not_exists, not_and, Bool.not_eq_true]

/-- **Eviction opens the load's gates** exactly if the physical gate is open, or the load is short
of memory and the policy never finds a batch for it. -/
theorem evictionOpens_iff (policy : BookPolicy) (specs : Dict ModelId Registration) (s : Scheduler)
    (h : Book.Reachable policy specs s.book) (m : ModelId) (sample : MemorySample) :
    s.EvictionOpens m sample ↔ s.book.physicalAdmissible m = true ∨
      (s.Short m sample ∧ ∀ busy, s.NoBatch m sample busy) := by
  have hstop : ∀ limit now busy batch, EvictionPolicy.choose s.book limit (s.loadDeficit m sample)
      now busy = .ok batch → batch ≠ [] → ((s.book.stopAll (batch.map (·.modelId))).StaticGates m ↔
        s.book.physicalAdmissible m = true) := by
    intro limit now busy batch hchoose hne
    have hbatch := EvictionPolicy.choose_batch hchoose hne
    obtain ⟨hcommitted, hphysical⟩ := hbatch.stopAll h.inv h.registered m
    obtain ⟨hledger, hpolicy, -⟩ := s.book.stopAll_static (batch.map (·.modelId))
    have hdeficit : s.book.committed + s.book.required m - s.book.policy.modelBudget
        ≤ s.loadDeficit m sample := (le_max_right _ _).trans (le_max_right _ _)
    simp only [Book.StaticGates, hphysical, Book.required, hledger, hpolicy]
    simp only [Book.required] at hdeficit
    exact and_iff_right (by omega)
  by_cases hadmissible : s.book.physicalAdmissible m = true
  · refine iff_of_true ⟨fun hgate => ?_, fun limit now busy batch hchoose hne => ?_⟩
      (.inl hadmissible)
    · rw [← short_iff]
      exact .inr (not_le.mp fun hle => hgate ⟨hle, hadmissible⟩)
    · exact (hstop limit now busy batch hchoose hne).mpr hadmissible
  · rw [or_iff_right hadmissible]
    constructor
    · rintro ⟨hdeficit, hopens⟩
      have hshort := short_iff.mpr (hdeficit fun hgate => hadmissible hgate.2)
      refine ⟨hshort, fun busy => ?_⟩
      rw [@noBatch_iff _ _ _ _ 0 hshort h.ledgerPos h.registered]
      intro limit batch hchoose
      by_contra hne
      exact hadmissible ((hstop limit 0 busy batch hchoose hne).mp
        (hopens limit 0 busy batch hchoose hne))
    · rintro ⟨hshort, hno⟩
      refine ⟨fun _ => short_iff.mp hshort, fun limit now busy batch hchoose hne => ?_⟩
      exact absurd ((noBatch_iff hshort h.ledgerPos h.registered).mp (hno busy) limit batch hchoose)
        hne

open EvictionPolicy

/-- A scheduler over the small deployment. -/
def ofBook (b : Book) : Scheduler :=
  { cfg := {}, book := b, queue := {}, sessions := {}, now := 0 }

/-- The model gate is closed for `draft`, and stopping `chat` opens it. -/
theorem evictionOpens_sample : ¬ mixedBook.StaticGates "draft" ∧
    (mixedBook.stopAll ["chat"]).StaticGates "draft" := by
  obtain ⟨batch, hbatch, hids⟩ := choose_mixedBook
  have hdeficit : (ofBook mixedBook).loadDeficit "draft" ⟨2000, 1500, 0⟩ = 200 := by decide +kernel
  refine ⟨fun hgate => absurd hgate.1 (by decide +kernel), ?_⟩
  rw [← hids]
  refine ((evictionOpens_iff _ _ (ofBook mixedBook) mixedBook_reachable "draft"
    ⟨2000, 1500, 0⟩).mpr (.inl (by decide +kernel))).2 1 0 false batch ?_
    (by rintro rfl; cases hids)
  rw [hdeficit]
  exact hbatch

/-- Two measured models whose physical figures do not fit together, though their reservations do. -/
def largeSpecs : Dict ModelId Registration :=
  ⟨[("chat", .v2 { modelId := "chat", maxParallel := 2, reservedBytes := 400,
                   physicalResidentPeakBytes := some 600 }),
    ("embed", .v2 { modelId := "embed", maxParallel := 2, reservedBytes := 300,
                    physicalResidentPeakBytes := some 600 })], by decide⟩

/-- `chat` is loaded. -/
def largeCalls : List Book.Call :=
  [.bootstrapStopped "chat", .bootstrapStopped "embed", .beginLoad "chat" ⟨2000, 1500, 0⟩ 0,
   .loaded ⟨0, "chat", 1, 0⟩ 0]

def largeBook : Book := largeCalls.foldl Book.apply (Book.built Book.samplePolicy largeSpecs)

/-- The physical gate refuses `embed` on a valid sample, and the deficit is nil: nothing is
evicted. -/
theorem not_evictionOpens_large : Book.Reachable Book.samplePolicy largeSpecs largeBook ∧
    largeBook.sampleValid ⟨2000, 1500, 0⟩ 0 = true ∧
    largeBook.physicalAdmissible "embed" = false ∧
    (ofBook largeBook).loadDeficit "embed" ⟨2000, 1500, 0⟩ = 0 ∧
    ¬ (ofBook largeBook).EvictionOpens "embed" ⟨2000, 1500, 0⟩ := by
  have hphysical : largeBook.physicalAdmissible "embed" = false := by decide +kernel
  have hdeficit : (ofBook largeBook).loadDeficit "embed" ⟨2000, 1500, 0⟩ = 0 := by decide +kernel
  refine ⟨Book.built_reachable (by decide +kernel) _, by decide +kernel, hphysical, hdeficit,
    fun h => ?_⟩
  have hpos := h.1 fun hgate => by cases hphysical.symm.trans hgate.2
  omega

end Scheduler

/-! ### The least sufficient prefix -/

namespace EvictionPolicy

variable {b b' : Book} {now : Time} {busy : Bool} {needed : ℤ} {limit : ℕ}
  {cs batch : List EvictionCandidate}

/-- What a batch releases. -/
def release (batch : List EvictionCandidate) : ℤ := (batch.map (·.reservedBytes)).sum

/-- The shortest start of the candidates that releases what is needed. -/
structure Least (needed : ℤ) (cs batch : List EvictionCandidate) : Prop where
  start : batch <+: cs
  enough : needed ≤ release batch
  shortest : ∀ p, p <+: cs → needed ≤ release p → batch.length ≤ p.length

lemma Least.unique {batch' : List EvictionCandidate} (h : Least needed cs batch)
    (h' : Least needed cs batch') : batch = batch' := by
  have hlen := le_antisymm (h.shortest _ h'.start h'.enough) (h'.shortest _ h.start h.enough)
  exact (List.prefix_of_prefix_length_le h.start h'.start hlen.le).eq_of_length hlen

lemma Least.proper {p : List EvictionCandidate} (h : Least needed cs batch) (hp : p <+: batch)
    (hne : p ≠ batch) : release p < needed := by
  by_contra hle
  have hlen := h.shortest p (hp.trans h.start) (not_lt.mp hle)
  exact hne (hp.eq_of_length (le_antisymm hp.length_le hlen))

/-- The loop, once it holds `selected`: it ends with the shortest start that is enough, or with
nothing if that is too long or does not exist. -/
lemma prefixFor_least (selected : List EvictionCandidate) (hroom : selected.length < limit)
    (hshort : ∀ p, p <+: selected → release p < needed) :
    (∃ batch, Least needed (selected ++ cs) batch ∧ batch.length ≤ limit ∧
      prefixFor needed limit selected (release selected) cs = batch) ∨
    (¬ ∃ batch, Least needed (selected ++ cs) batch ∧ batch.length ≤ limit) ∧
      prefixFor needed limit selected (release selected) cs = [] := by
  induction cs generalizing selected with
  | nil =>
    refine .inr ⟨?_, rfl⟩
    rintro ⟨batch, h, -⟩
    rw [List.append_nil] at h
    exact absurd h.enough (not_le.mpr (hshort batch h.start))
  | cons c cs ih =>
    have hsum : release selected + c.reservedBytes = release (selected ++ [c]) := by
      simp [release]
    have happend : selected ++ c :: cs = selected ++ [c] ++ cs := by simp
    -- a start that is enough holds the new candidate
    have hlong : ∀ p, p <+: selected ++ c :: cs → needed ≤ release p →
        (selected ++ [c]).length ≤ p.length := by
      intro p hp hle
      by_contra hlt
      rw [List.length_append, List.length_singleton, not_le, Nat.lt_succ_iff] at hlt
      have hsel := List.prefix_of_prefix_length_le hp (List.prefix_append selected (c :: cs)) hlt
      exact absurd hle (not_le.mpr (hshort p hsel))
    simp only [prefixFor, hsum]
    split_ifs with henough hfull
    · refine .inl ⟨selected ++ [c], ⟨?_, henough, hlong⟩, by simpa using hroom, rfl⟩
      rw [happend]
      exact List.prefix_append _ _
    · refine .inr ⟨?_, rfl⟩
      rintro ⟨batch, h, hle⟩
      have hbatch := List.prefix_of_prefix_length_le h.start
        (happend ▸ List.prefix_append _ _) (hle.trans hfull)
      have heq := hbatch.eq_of_length (le_antisymm hbatch.length_le (hlong _ h.start h.enough))
      exact henough (heq ▸ h.enough)
    · rw [happend]
      refine ih (selected ++ [c]) (not_le.mp hfull) fun p hp => ?_
      rcases List.prefix_concat_iff.mp hp with rfl | hp
      · exact not_le.mp henough
      · exact hshort p hp

/-- The candidate that a registration gives, if it gives one. -/
def candidateOf (b : Book) (now : Time) (busy : Bool) :
    ModelId × Registration → Option EvictionCandidate
  | (_, .v2 _) => none
  | (m, .v1 spec) =>
    if (b.runtime.get? m).any (·.eligible busy) ∧ spec.pinned = false ∧ spec.evictable = true then
      some ⟨m, b.required m, b.heat m now, spec.priority,
        (b.heat m now + spec.priority) / b.required m⟩
    else none

lemma candidateOf_modelId {p : ModelId × Registration} {c : EvictionCandidate}
    (h : candidateOf b now busy p = some c) : p.1 = c.modelId := by
  obtain ⟨m, reg⟩ := p
  cases reg with
  | v2 spec => cases h
  | v1 spec =>
    simp only [candidateOf, Option.ite_none_right_eq_some] at h
    obtain ⟨-, hc⟩ := h
    cases hc
    rfl

/-- Over v1 registrations the policy collects the candidates one by one. -/
lemma collect_eq {specs : List (ModelId × Registration)}
    (hknown : ∀ p ∈ specs, ∃ r, b.runtime.get? p.1 = some r)
    (hv1 : ∀ p ∈ specs, ∃ spec, p.2 = .v1 spec) :
    collect b now busy specs = .ok (specs.filterMap (candidateOf b now busy)) := by
  induction specs with
  | nil => rfl
  | cons p specs ih =>
    obtain ⟨m, reg⟩ := p
    obtain ⟨r, hr⟩ := hknown _ (List.mem_cons_self ..)
    obtain ⟨spec, rfl⟩ : ∃ spec, reg = .v1 spec := hv1 _ (List.mem_cons_self ..)
    have ih := ih (fun p hp => hknown p (List.mem_cons_of_mem _ hp))
      fun p hp => hv1 p (List.mem_cons_of_mem _ hp)
    simp only at hr
    simp only [collect, hr, ih, List.filterMap_cons, candidateOf, Option.any_some]
    by_cases helig : r.eligible busy = true
    · rw [if_neg (eligible_iff.mp helig)]
      by_cases hrole : spec.pinned = true ∨ ¬ spec.evictable = true
      · rw [if_pos hrole, if_neg]
        rintro ⟨-, hpinned, hevictable⟩
        rcases hrole with h | h
        · exact absurd (h.symm.trans hpinned) (by simp)
        · exact h hevictable
      · rw [if_neg hrole, if_pos]
        simpa [helig] using hrole
    · rw [if_pos (not_not.mp fun h => helig (eligible_iff.mpr h)), if_neg fun h => helig h.1]

/-- All registrations of the book are v1. -/
def Legacy (b : Book) : Prop := ∀ m reg, b.specs.get? m = some reg → ∃ spec, reg = .v1 spec

/-- The candidates of the book, by score and then by id. -/
structure Ranked (b : Book) (now : Time) (busy : Bool) (cs : List EvictionCandidate) : Prop where
  mem : ∀ c, c ∈ cs ↔ ∃ reg, b.specs.get? c.modelId = some reg ∧
    candidateOf b now busy (c.modelId, reg) = some c
  nodup : (cs.map (·.modelId)).Nodup
  sorted : cs.Pairwise fun x y => precedes x y = true

lemma precedes_total (x y : EvictionCandidate) : precedes x y = true ∨ precedes y x = true := by
  simp only [precedes, decide_eq_true_eq]
  rcases lt_trichotomy x.score y.score with h | h | h
  · exact .inl (.inl h)
  · rcases String.le_total x.modelId y.modelId with hm | hm
    · exact .inl (.inr ⟨h, hm⟩)
    · exact .inr (.inr ⟨h.symm, hm⟩)
  · exact .inr (.inl h)

lemma precedes_trans {x y z : EvictionCandidate} (hxy : precedes x y = true)
    (hyz : precedes y z = true) : precedes x z = true := by
  simp only [precedes, decide_eq_true_eq] at hxy hyz ⊢
  rcases hxy with hxy | ⟨hxy, hm⟩ <;> rcases hyz with hyz | ⟨hyz, hm'⟩
  · exact .inl (hxy.trans hyz)
  · exact .inl (hyz ▸ hxy)
  · exact .inl (hxy ▸ hyz)
  · exact .inr ⟨hxy.trans hyz, String.le_trans hm hm'⟩

lemma precedes_antisymm {x y : EvictionCandidate} (hxy : precedes x y = true)
    (hyx : precedes y x = true) : x.modelId = y.modelId := by
  simp only [precedes, decide_eq_true_eq] at hxy hyx
  rcases hxy with hxy | ⟨hxy, hm⟩ <;> rcases hyx with hyx | ⟨hyx, hm'⟩
  · exact absurd hyx hxy.asymm
  · exact absurd hyx hxy.ne'
  · exact absurd hxy hyx.ne'
  · exact String.le_antisymm hm hm'

lemma candidates_ranked (hreg : b.Registered) (hv1 : Legacy b) :
    ∃ cs, candidates b now busy = .ok cs ∧ Ranked b now busy cs := by
  have hcollect := @collect_eq b now busy b.specs.entries
    (fun p hp => hreg.record p.1 p.2 (Dict.mem_entries_iff.mp hp))
    fun p hp => hv1 p.1 p.2 (Dict.mem_entries_iff.mp hp)
  obtain ⟨hsub, -⟩ := collect_sound hcollect
  refine ⟨_, by rw [candidates, hcollect], fun c => ?_, ?_, ?_⟩
  · rw [List.mem_insertionSort, List.mem_filterMap]
    constructor
    · rintro ⟨⟨m, reg⟩, hmem, hc⟩
      obtain rfl : m = c.modelId := candidateOf_modelId hc
      exact ⟨reg, Dict.mem_entries_iff.mp hmem, hc⟩
    · rintro ⟨reg, hget, hc⟩
      exact ⟨_, Dict.mem_entries_iff.mpr hget, hc⟩
  · exact ((List.perm_insertionSort _ _).map _).nodup_iff.mpr (hsub.nodup b.specs.nodup)
  · have : Std.Total fun x y => precedes x y = true := ⟨precedes_total⟩
    have : IsTrans EvictionCandidate fun x y => precedes x y = true := ⟨fun _ _ _ => precedes_trans⟩
    exact List.pairwise_insertionSort _ _

/-- There is one ranking only. -/
lemma Ranked.unique {cs' : List EvictionCandidate} (h : Ranked b now busy cs)
    (h' : Ranked b now busy cs') : cs = cs' := by
  have hperm : cs.Perm cs' := (List.perm_ext_iff_of_nodup h.nodup.of_map h'.nodup.of_map).mpr
    fun c => (h.mem c).trans (h'.mem c).symm
  refine hperm.eq_of_pairwise (fun x y hx hy hxy hyx => ?_) h.sorted h'.sorted
  exact List.inj_on_of_nodup_map h'.nodup (hperm.mem_iff.mp hx) hy (precedes_antisymm hxy hyx)

/-- The two books differ in the order of their dictionaries at most. -/
structure SameModels (b b' : Book) : Prop where
  policy : b.policy = b'.policy
  specs : ∀ m, b.specs.get? m = b'.specs.get? m
  ledger : ∀ m, b.ledger.get? m = b'.ledger.get? m
  runtime : ∀ m, b.runtime.get? m = b'.runtime.get? m

lemma SameModels.candidateOf (h : SameModels b b') :
    candidateOf b now busy = candidateOf b' now busy := by
  funext ⟨m, reg⟩
  cases reg with
  | v2 spec => rfl
  | v1 spec =>
    simp only [EvictionPolicy.candidateOf, Book.required, Book.heat, Book.heatOf, h.policy,
      h.ledger m, h.runtime m]

lemma SameModels.candidates (h : SameModels b b') (hreg : b.Registered) (hv1 : Legacy b)
    (hcs : candidates b now busy = .ok cs) : candidates b' now busy = .ok cs := by
  have hreg' : b'.Registered := by
    refine ⟨fun m reg hget => ?_, fun m reg hget => ?_⟩
    · rw [← h.specs] at hget
      simpa only [← h.ledger] using hreg.entry m reg hget
    · rw [← h.specs] at hget
      simpa only [← h.runtime] using hreg.record m reg hget
  obtain ⟨cs₁, hcs₁, hranked⟩ := @candidates_ranked b now busy hreg hv1
  obtain ⟨cs', hcs', hranked'⟩ := @candidates_ranked b' now busy hreg'
    fun m reg hget => hv1 m reg ((h.specs m).trans hget)
  cases hcs.symm.trans hcs₁
  have hsame : Ranked b' now busy cs :=
    { hranked with mem := fun c => by rw [hranked.mem, h.specs, h.candidateOf] }
  rw [hcs', hsame.unique hranked']

/-- What `choose` is for: the answer to a positive request is the shortest start of the ranked
candidates that releases enough, if there is one within the limit, and nothing otherwise. No shorter
batch would have been enough, and the order of registration plays no part. -/
def ChoosesLeast (b : Book) (limit : ℕ) (needed : ℤ) (now : Time) (busy : Bool) : Prop :=
  ∃ cs batch, candidates b now busy = .ok cs ∧ Ranked b now busy cs ∧
    choose b limit needed now busy = .ok batch ∧
    (0 < needed → ∀ p, Least needed cs p → p.length ≤ limit → batch = p) ∧
    (needed ≤ 0 ∨ (¬ ∃ p, Least needed cs p ∧ p.length ≤ limit) → batch = []) ∧
    (∀ p, p <+: batch → p ≠ batch → release p < needed) ∧
    ∀ b', SameModels b b' → choose b' limit needed now busy = .ok batch

/-- **The least sufficient prefix** is what the policy chooses from v1 registrations. -/
theorem choose_least (b : Book) (hreg : b.Registered) (hv1 : Legacy b) (limit : ℕ)
    (hlimit : 1 ≤ limit) (needed : ℤ) (now : Time) (busy : Bool) :
    ChoosesLeast b limit needed now busy := by
  obtain ⟨cs, hcs, hranked⟩ := @candidates_ranked b now busy hreg hv1
  by_cases hpos : needed ≤ 0
  · refine ⟨cs, [], hcs, hranked, by rw [choose, if_pos hpos], fun h => absurd hpos (not_le.mpr h),
      fun _ => rfl, fun p hp hne => absurd (List.prefix_nil.mp hp) hne, fun b' _ => ?_⟩
    rw [choose, if_pos hpos]
  · have hchoose : ∀ b', EvictionPolicy.candidates b' now busy = .ok cs →
        choose b' limit needed now busy = .ok (prefixFor needed limit [] 0 cs) := by
      intro b' h
      simp only [choose, if_neg hpos, h]
    have hsame : ∀ b', SameModels b b' →
        choose b' limit needed now busy = .ok (prefixFor needed limit [] 0 cs) :=
      fun b' h => hchoose b' (h.candidates hreg hv1 hcs)
    have hloop := @prefixFor_least needed limit cs [] hlimit fun p hp => by
      rw [List.prefix_nil.mp hp]
      exact not_le.mp hpos
    refine ⟨cs, _, hcs, hranked, hchoose b hcs, fun _ p hp hle => ?_, fun hnone => ?_, ?_, hsame⟩
    · rcases hloop with ⟨batch, hbatch, -, heq⟩ | ⟨hnone, -⟩
      · exact heq.trans (hbatch.unique hp)
      · exact absurd ⟨p, hp, hle⟩ hnone
    · rcases hloop with ⟨batch, hbatch, hle, -⟩ | ⟨-, heq⟩
      · exact absurd ⟨batch, hbatch, hle⟩ (hnone.resolve_left hpos)
      · exact heq
    · intro p hp hne
      rcases hloop with ⟨batch, hbatch, -, heq⟩ | ⟨-, heq⟩
      · have heq : prefixFor needed limit [] 0 cs = batch := heq
        rw [heq] at hp hne
        exact hbatch.proper hp hne
      · have heq : prefixFor needed limit [] 0 cs = [] := heq
        rw [heq] at hp hne
        exact absurd (List.prefix_nil.mp hp) hne

/-- Three v1 models, and the book in which all of them are idle. -/
def legacySpecs : Dict ModelId Registration :=
  ⟨[("b", .v1 { modelId := "b", reservedBytes := 200, priority := 1 }),
    ("c", .v1 { modelId := "c", reservedBytes := 200, priority := 1 }),
    ("a", .v1 { modelId := "a", reservedBytes := 100 })], by decide⟩

def idleBook : Book :=
  let b := Book.built Book.samplePolicy legacySpecs
  { b with runtime := b.runtime.mapVal fun _ r => { r with state := .ready } }

lemma init_legacySpecs :
    Book.init Book.samplePolicy legacySpecs = .ok (Book.built Book.samplePolicy legacySpecs) :=
  Book.init_eq_built (by decide +kernel)

lemma idleBook_registered : idleBook.Registered := by
  have hbuilt := Book.init_registered init_legacySpecs
  refine ⟨hbuilt.entry, fun m reg hget => ?_⟩
  obtain ⟨r, hr⟩ := hbuilt.record m reg hget
  exact ⟨_, by rw [idleBook, Dict.get?_mapVal, hr]; rfl⟩

lemma idleBook_legacy : Legacy idleBook := by
  intro m reg hget
  obtain ⟨-, -, hspecs, -⟩ := Book.init_ok init_legacySpecs
  have hmem := Dict.mem_entries_iff.mpr ((congrArg (Dict.get? · m) hspecs).symm.trans hget)
  simp only [legacySpecs, List.mem_cons, Prod.mk.injEq, List.not_mem_nil, or_false] at hmem
  rcases hmem with ⟨-, rfl⟩ | ⟨-, rfl⟩ | ⟨-, rfl⟩ <;> exact ⟨_, rfl⟩

/-- To release 250 bytes the policy takes `a`, which has the least score, and `b`, which comes
before `c` by its name. -/
theorem choose_least_idle :
    ((choose idleBook 8 250 0 false).toOption.map fun batch => batch.map (·.modelId)) =
      some ["a", "b"] ∧ ChoosesLeast idleBook 8 250 0 false :=
  ⟨by decide +kernel,
    choose_least idleBook idleBook_registered idleBook_legacy 8 (by decide) 250 0 false⟩

end EvictionPolicy

end ModelSwitch

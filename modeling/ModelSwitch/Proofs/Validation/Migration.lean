import ModelSwitch.Program.Migration
import ModelSwitch.Proofs.Book.Invariant
import ModelSwitch.Proofs.Validation.Registration

/-!
# Migration keeps the accounting

A model of the written document is read off in three steps: what the migration put there without a
note, what the parser of registrations found there, and what the two ledgers make of a model. The
first two meet in `Accounted`, which relates a v1 model to the registration that replaces it.
-/

namespace ModelSwitch.Migration

open Py Noting Registration

/-! ### A migrated model -/

/-- The registration of a v1 model with its reservation, margin included, and its concurrency. -/
structure Accounted (margin : ℚ) (legacy : ModelId × LegacyModel) (model : Registration.ModelSpec) :
    Prop where
  modelId : model.modelId.1 = legacy.1
  reserved : effectiveReservedBytes legacy.2.reservedBytes (some margin) = .ok model.reservedBytes
  parallel : model.envelope.maxParallel = legacy.2.maxConcurrency
  reserved_pos : 0 < model.reservedBytes
  parallel_pos : 0 < model.envelope.maxParallel
  peak_pos : ∀ peak ∈ model.physicalResidentPeakBytes, 0 < peak

lemma lookup_of_str {data : Members} {key text : String} (h : str data key = .ok text) :
    data.lookup key = some (.str text) := by
  unfold str at h
  split at h
  · rename_i value hvalue
    split_ifs at h
    · cases h
    · rw [hvalue, Except.ok.inj h]
  · cases h

lemma val_of_idOf {key text : String} {id : OpaqueId} (h : idOf key text = .ok id) :
    id.1 = text := by
  unfold idOf at h
  split_ifs at h
  · cases h
    rfl
  · cases h

lemma lookup_of_int {data : Members} {key : String} {high : Option ℤ} {n : ℤ}
    (h : int data key (some 1) high = .ok n) : data.lookup key = some (.int n) ∧ 0 < n := by
  unfold int at h
  split at h
  · rename_i value hvalue
    simp only [bind_eq_ok] at h
    obtain ⟨_, hlow, _, -, hpure⟩ := h
    cases hpure
    have hle : 1 ≤ n := by simpa [Option.forM] using hlow
    exact ⟨hvalue, hle⟩
  · cases h

lemma pos_of_nullable {data : Members} {key : String} {peak : ℤ}
    (h : nullable (positive key) data key = .ok (some peak)) : 0 < peak := by
  unfold nullable at h
  split at h
  · cases h
  · cases h
  · rename_i value _ _
    cases value <;> simp [positive, refuse, Functor.map, Except.map] at h
    split_ifs at h with hpos
    cases h
    exact hpos

lemma maxParallel_of_parse {envelope : Members} {e : Envelope}
    (h : parseEnvelope (.obj envelope) = .ok e) :
    envelope.lookup "max_parallel" = some (.int e.maxParallel) ∧ 0 < e.maxParallel := by
  simp only [parseEnvelope, object, mapping, bind_eq_ok] at h
  obtain ⟨_, ⟨_, ⟨⟩, _, -, ⟨⟩⟩, _, -, _, -, _, -, parallel, hparallel, _, -, _, -, _, -, _, -, _, -,
    _, -, _, -, _, -, hpure⟩ := h
  cases hpure
  exact lookup_of_int hparallel

/-- What the parser of a registration has found in it. -/
structure Found (data : Members) (model : Registration.ModelSpec) : Prop where
  modelId : data.lookup "model_id" = some (.str model.modelId.1)
  envelope : parseEnvelope ((data.lookup "envelope").getD .null) = .ok model.envelope
  reserved : data.lookup "reserved_bytes" = some (.int model.reservedBytes)
  reserved_pos : 0 < model.reservedBytes
  peak_pos : ∀ peak ∈ model.physicalResidentPeakBytes, 0 < peak

lemma found_of_parse {data : Members} {model : Registration.ModelSpec}
    (h : parseModelSpec (.obj data) = .ok model) : Found data model := by
  simp only [parseModelSpec, object, mapping, bind_eq_ok, under_eq_ok] at h
  obtain ⟨_, ⟨_, ⟨⟩, _, -, ⟨⟩⟩, id, ⟨text, htext, hid⟩, hbody⟩ := h
  simp only [parseModelBody, bind_eq_ok, under_eq_ok] at hbody
  obtain ⟨runtimeId, -, capabilities, -, assets, -, port, -, e, henvelope, timeout, -, n, hn,
    hrest⟩ := hbody
  obtain ⟨measured, ref, peak, hpeak, hmodel⟩ : ∃ measured ref peak,
      nullable (positive "physical_resident_peak_bytes") data "physical_resident_peak_bytes" =
        .ok peak ∧
      model = ⟨id, runtimeId, capabilities, assets, port, e, timeout, n, measured, ref, peak⟩ := by
    split at hrest
    · simp only [bind_eq_ok] at hrest
      obtain ⟨measured, -, ref, -, peak, hpeak, _, -, _, -, hrest⟩ := hrest
      refine ⟨measured, ref, peak, hpeak, ?_⟩
      -- the last checks are those of a model with pictures, or of one without
      split_ifs at hrest
      · simp only [bind_eq_ok] at hrest
        obtain ⟨_, -, _, -, hpure⟩ := hrest
        exact (Except.ok.inj hpure).symm
      · simp only [bind_eq_ok] at hrest
        obtain ⟨_, -, hpure⟩ := hrest
        exact (Except.ok.inj hpure).symm
    · cases hrest
  subst hmodel
  refine ⟨?_, henvelope, (lookup_of_int hn).1, (lookup_of_int hn).2, ?_⟩
  · rw [val_of_idOf hid]
    exact lookup_of_str htext
  · rintro p hp
    cases Option.mem_def.mp hp
    exact pos_of_nullable hpeak

lemma parallel_of_check {envelope : Members} {path : String} {old : LegacyModel} {n : ℤ}
    (h : Clean (checkParallel envelope path old) ⟨⟩)
    (hn : envelope.lookup "max_parallel" = some (.int n)) : n = old.maxConcurrency := by
  by_contra hne
  simp [checkParallel, hn, equalsInt, hne] at h

/-- What was put in the document of a model is what its parser finds. -/
lemma accounted_of_parse {margin : ℚ} {modelId : ModelId} {old : LegacyModel} {entry : Json}
    {document : Members} {model : Registration.ModelSpec}
    (hclean : Clean (migrateModel margin modelId old entry) document)
    (hparse : parseModelSpec (.obj document) = .ok model) :
    Accounted margin (modelId, old) model := by
  simp only [migrateModel, clean_bind, clean_pure] at hclean
  obtain ⟨envelope, -, _, hcheck, assets, -, ⟨measured, ref, peak⟩, -, runtimeId, -, timeout, -,
    reserved, hreserved, rfl⟩ := hclean
  have hfound := found_of_parse hparse
  have hid : modelId = model.modelId.1 := by simpa [List.lookup_cons] using hfound.modelId
  have hn : reserved = model.reservedBytes := by simpa [List.lookup_cons] using hfound.reserved
  obtain ⟨hparallel, hpos⟩ := maxParallel_of_parse
    (by simpa [List.lookup_cons] using hfound.envelope)
  refine ⟨hid.symm, ?_, parallel_of_check hcheck hparallel, hfound.reserved_pos, hpos,
    hfound.peak_pos⟩
  unfold reservedOf at hreserved
  split at hreserved
  · rename_i heq
    rw [heq, clean_pure.mp hreserved, hn]
  · simp at hreserved

/-! ### All the models -/

lemma eq_of_forall₂ {α β γ : Type} {f : α → γ} {g : β → γ} {as : List α} {bs : List β}
    (h : List.Forall₂ (fun a b => g b = f a) as bs) : bs.map g = as.map f := by
  induction h with
  | nil => rfl
  | cons hab _ ih => simp [hab, ih]

/-- A model is migrated without a note only if the inventory has it. -/
lemma migrateEntry_clean {margin : ℚ} {inventory : Json} {legacy : ModelId × LegacyModel}
    {row : Option Migrated} (h : Clean (migrateEntry margin inventory legacy) row) :
    ∃ document entry, row = some ⟨legacy.1, legacy.2, document⟩ ∧
      Clean (migrateModel margin legacy.1 legacy.2 entry) document := by
  unfold migrateEntry at h
  split at h
  · simp at h
  · simp only [clean_bind, clean_pure] at h
    obtain ⟨document, hdocument, rfl⟩ := h
    exact ⟨document, _, rfl, hdocument⟩

/-- `migrated` is what the loop made of a v1 model. -/
def MigratedFrom (margin : ℚ) (legacy : ModelId × LegacyModel) (migrated : Migrated) : Prop :=
  (migrated.modelId, migrated.old) = legacy ∧
    ∃ entry, Clean (migrateModel margin legacy.1 legacy.2 entry) migrated.document

lemma migrateModels_clean {legacy : LegacyConfig} {inventory : Json} {models : List Migrated}
    (h : Clean (migrateModels legacy inventory) models) :
    List.Forall₂ (MigratedFrom legacy.resourceSafetyMargin) (sortedModels legacy) models := by
  simp only [migrateModels, clean_bind, clean_mapM', clean_pure] at h
  obtain ⟨rows, hrows, rfl⟩ := h
  generalize sortedModels legacy = legacyModels at hrows ⊢
  induction hrows with
  | nil => exact .nil
  | cons hrow _ ih =>
    obtain ⟨document, entry, rfl, hdocument⟩ := migrateEntry_clean hrow
    exact .cons ⟨rfl, entry, hdocument⟩ ih

lemma accounted_of_migrated {margin : ℚ} {legacy : List (ModelId × LegacyModel)}
    {migrated : List Migrated} {models : List Registration.ModelSpec}
    (hmigrated : List.Forall₂ (MigratedFrom margin) legacy migrated)
    (hparsed : List.Forall₂ (fun item model => parseModelSpec item = .ok model)
      (migrated.map (.obj ·.document)) models) :
    List.Forall₂ (Accounted margin) legacy models := by
  induction hmigrated generalizing models with
  | nil =>
    cases hparsed
    exact .nil
  | cons hfirst _ ih =>
    cases hparsed with
    | cons hparse hparsed =>
      obtain ⟨-, entry, hclean⟩ := hfirst
      exact .cons (accounted_of_parse hclean hparse) (ih hparsed)

lemma modelIdList_str {α : Type} {registered done out : List ModelId} {rows : List α}
    {id : α → ModelId} (h : modelIdList registered (rows.map (.str <| id ·)) done = some out) :
    out = done ++ rows.map id := by
  induction rows generalizing done with
  | nil => simpa [modelIdList] using h.symm
  | cons row rows ih =>
    simp only [List.map_cons, modelIdList] at h
    split_ifs at h
    simpa using ih h

/-- A list of the document names the v1 models with a role. -/
lemma mem_schedulerIds {margin : ℚ} {legacy : LegacyConfig} {migrated : List Migrated}
    (hmigrated : List.Forall₂ (MigratedFrom margin) (sortedModels legacy) migrated)
    {role : LegacyModel → Bool} {scheduler : Members} {key : String} {registered out : List ModelId}
    (hkey : scheduler.lookup key = some (idsWhere migrated role))
    (h : schedulerIds scheduler key registered = some out) (m : ModelId) :
    m ∈ out ↔ ∃ model, legacy.models.get? m = some model ∧ role model = true := by
  have hids : out = (migrated.filter (role ·.old)).map (·.modelId) := by
    simp only [schedulerIds, hkey, idsWhere, Option.getD_some] at h
    simpa using modelIdList_str h
  have hrows : migrated.map (fun row => (row.modelId, row.old)) = sortedModels legacy := by
    have hsame := eq_of_forall₂ (f := id) (hmigrated.imp fun _ _ h => h.1)
    simpa using hsame
  have hmem : ∀ model, (m, model) ∈ sortedModels legacy ↔ legacy.models.get? m = some model :=
    fun model => (List.mem_insertionSort _).trans Dict.mem_entries_iff
  rw [hids]
  simp only [← hmem, ← hrows, List.mem_map, List.mem_filter, Prod.mk.injEq]
  constructor
  · rintro ⟨row, ⟨hrow, hrole⟩, rfl⟩
    exact ⟨row.old, ⟨row, hrow, rfl, rfl⟩, hrole⟩
  · rintro ⟨_, ⟨row, hrow, rfl, rfl⟩, hrole⟩
    exact ⟨row, ⟨hrow, hrole⟩, rfl⟩

/-! ### The books -/

variable {policy : BookPolicy} {specs : Dict ModelId Registration}

/-- The settings of a book that both configurations guarantee. -/
structure Usable (policy : BookPolicy) : Prop where
  modelBudget : 0 < policy.modelBudget
  freeFloor : 0 ≤ policy.freeFloor
  maxSampleAge : 0 < policy.maxSampleAge
  halfLife : 0 < policy.halfLife
  requestWeight : 0 ≤ policy.requestWeight
  tokenWeight : 0 ≤ policy.tokenWeight

/-- A book of registrations that the ledger takes. -/
lemma exists_init (husable : Usable policy) {margin : ℚ} (hmargin : 0 ≤ margin ∧ margin ≤ 1)
    (hne : specs.entries ≠ [])
    (h : ∀ p ∈ specs.entries, p.2.modelId = p.1 ∧ ∃ entry,
      LedgerSpec.fromRegistration p.2 margin = .ok entry ∧ 0 < entry.maxConcurrency) :
    ∃ b, Book.init { policy with margin := margin } specs = .ok b := by
  obtain ⟨ledger, hledger⟩ := Dict.exists_mapValM (d := specs)
    (f := fun _ spec => LedgerSpec.fromRegistration spec margin)
    fun p hp => (h p hp).2.imp fun _ hentry => hentry.1
  have hpolicy : ¬ (policy.modelBudget ≤ 0 ∨ policy.freeFloor < 0 ∨
      ¬ (0 ≤ margin ∧ margin ≤ 1)) := by
    simp [husable.modelBudget, husable.freeFloor, hmargin]
  have htimes : ¬ (policy.maxSampleAge ≤ 0 ∨ policy.halfLife ≤ 0 ∨ policy.requestWeight < 0 ∨
      policy.tokenWeight < 0) := by
    simp [husable.maxSampleAge, husable.halfLife, husable.requestWeight, husable.tokenWeight]
  have hspecs :
      ¬ ((specs.entries.isEmpty || specs.entries.any fun p => p.1 ≠ p.2.modelId) = true) := by
    simp only [Bool.or_eq_true, List.isEmpty_iff, List.any_eq_true, decide_eq_true_eq, not_or,
      not_exists, not_and, not_not]
    exact ⟨hne, fun p hp => (h p hp).1.symm⟩
  have hconcurrency : ¬ (ledger.values.any (fun entry => entry.maxConcurrency ≤ 0) = true) := by
    simp only [List.any_eq_true, decide_eq_true_eq, not_exists, not_and, not_le]
    intro entry hentry
    obtain ⟨m, hm⟩ := Dict.mem_values_iff.mp hentry
    obtain ⟨spec, hspec, hfrom⟩ := Dict.get?_mapValM hledger hm
    obtain ⟨-, entry', hentry', hpos⟩ := h _ (Dict.mem_entries_iff.mpr hspec)
    cases Except.ok.inj (hfrom.symm.trans hentry')
    exact hpos
  simp only [Book.init, hpolicy, htimes, hspecs, hledger, hconcurrency, if_false]
  exact ⟨_, rfl⟩

/-- The entry of a model in the ledger of a book. -/
lemma ledger_of_init {b : Book} (h : Book.init policy specs = .ok b) {m : ModelId}
    {spec : Registration} (hspec : specs.get? m = some spec) :
    ∃ entry, b.ledger.get? m = some entry ∧
      LedgerSpec.fromRegistration spec policy.margin = .ok entry := by
  have hledger := (Book.init_ok h).1
  have hmem : m ∈ b.ledger.keys := by
    rw [Dict.keys_mapValM hledger]
    exact Dict.mem_keys_iff.mpr ⟨spec, hspec⟩
  obtain ⟨entry, hentry⟩ := Dict.mem_keys_iff.mp hmem
  obtain ⟨spec', hspec', hfrom⟩ := Dict.get?_mapValM hledger hentry
  cases Option.some.inj (hspec.symm.trans hspec')
  exact ⟨entry, hentry, hfrom⟩

lemma ledger_eq_none {b : Book} (h : Book.init policy specs = .ok b) {m : ModelId}
    (hspec : specs.get? m = none) : b.ledger.get? m = none := by
  rw [Dict.get?_eq_none_iff, Dict.keys_mapValM (Book.init_ok h).1]
  exact Dict.get?_eq_none_iff.mp hspec

/-- What the ledger of the v1 book makes of a model. -/
lemma legacy_entry {margin : ℚ} {legacy : ModelId × LegacyModel} {model : Registration.ModelSpec}
    (h : Accounted margin legacy model) :
    ∃ entry, LedgerSpec.fromRegistration (.v1 (legacy.2.spec legacy.1)) margin = .ok entry ∧
      entry.effectiveReservedBytes = model.reservedBytes ∧
      entry.maxConcurrency = legacy.2.maxConcurrency := by
  simp only [LedgerSpec.fromRegistration, LegacyModel.spec, h.reserved]
  exact ⟨_, rfl, rfl, rfl⟩

lemma margin_of_reserved {reserved n : ℤ} {margin : ℚ}
    (h : effectiveReservedBytes reserved (some margin) = .ok n) : 0 ≤ margin ∧ margin ≤ 1 := by
  unfold effectiveReservedBytes at h
  split at h
  · cases h
  · by_contra hmargin
    simp only [hmargin, if_false] at h
    cases h

/-- What the ledger of the new book makes of it. -/
lemma registered_entry {margin : ℚ} {legacy : ModelId × LegacyModel}
    {model : Registration.ModelSpec} (h : Accounted margin legacy model) :
    ∃ entry, LedgerSpec.fromRegistration (registered model) 0 = .ok entry ∧
      entry.effectiveReservedBytes = model.reservedBytes ∧
      entry.maxConcurrency = legacy.2.maxConcurrency := by
  have hreserved : effectiveReservedBytes model.reservedBytes none = .ok model.reservedBytes := by
    simp only [effectiveReservedBytes, positiveInt, if_neg (not_le.mpr h.reserved_pos)]
  simp only [LedgerSpec.fromRegistration, registered, hreserved, h.parallel]
  cases hpeak : model.physicalResidentPeakBytes with
  | none => exact ⟨_, rfl, rfl, rfl⟩
  | some peak =>
    have hpos := h.peak_pos peak (by simp [hpeak])
    simp only [physicalReservedBytesFromPeak, positiveInt, if_neg (not_le.mpr hpos)]
    exact ⟨_, rfl, rfl, rfl⟩

/-! ### The document -/

/-- What an accepted registration is. -/
structure Deployed (items : List Json) (deployment : DeploymentSpec) : Prop where
  models : List.Forall₂ (fun item model => parseModelSpec item = .ok model) items deployment.models
  nonempty : items ≠ []
  ids : (deployment.models.map (·.modelId)).Nodup
  known : ∀ model ∈ deployment.models, model.runtimeId ∈ deployment.runtimes.map (·.runtimeId)

lemma deployed_of_parse {runtimes models : List Json} {deployment : DeploymentSpec}
    (h : parseDeployment (.obj [("schema_version", .int 2), ("runtimes", .arr runtimes),
      ("models", .arr models)]) = .ok deployment) : Deployed models deployment := by
  simp only [parseDeployment, under_eq_ok, object, mapping, bind_eq_ok, collect_eq_ok,
    require_eq_ok] at h
  obtain ⟨_, ⟨_, ⟨⟩, _, -, ⟨⟩⟩, _, -, _, -, _, ⟨⟩, _, -, _, ⟨rs, -, rfl, -⟩, _, ⟨⟩, _, hne, _,
    ⟨ms, hms, rfl, hadmit⟩, hpure⟩ := h
  cases hpure
  simp only [admitModel_eq_ok] at hadmit
  rw [admitted_and, admitted_and, admitted_all, admitted_nodup (by simp)] at hadmit
  obtain ⟨⟨hids, -⟩, hknown⟩ := hadmit
  refine ⟨hms, by simpa using hne, by simpa using hids, fun model hmodel => ?_⟩
  obtain ⟨runtime, hfind, -⟩ := hknown model hmodel
  have hid : runtime.runtimeId = model.runtimeId := by simpa using List.find?_some hfind
  exact List.mem_map.mpr ⟨runtime, List.mem_of_find?_eq_some hfind, hid⟩

lemma strict_obj {members found : Members} {required optional : List String}
    (h : strict (.obj members) required optional = some found) : found = members := by
  simp only [strict] at h
  split_ifs at h
  exact (Option.some.inj h).symm

/-- What the parser has taken such a document for. -/
lemma config_of_parse {settings : Settings} {runtimes models : List Json}
    {scheduler sections : Members} {config : ConfigV2}
    (h : parseV2Config settings (.obj ([("schema_version", .int 2),
      ("registration", .obj [("runtimes", .arr runtimes), ("models", .arr models)]),
      ("scheduler", .obj scheduler)] ++ sections)) = some config) :
    Deployed models config.deployment ∧
      ∃ ids, schedulerIds scheduler "pinned_models" ids = some config.pinnedModels ∧
        schedulerIds scheduler "preload_models" ids = some config.preloadModels := by
  simp only [parseV2Config, Option.bind_eq_bind, Option.bind_eq_some_iff] at h
  obtain ⟨_, -, registration, hregistration, deployment, hdeployment, pinned, hpinned, preload,
    hpreload, _, -, _, -, hpure⟩ := h
  cases hpure
  have hmembers : registration = [("runtimes", .arr runtimes), ("models", .arr models)] :=
    strict_obj hregistration
  refine ⟨?_, _, hpinned, hpreload⟩
  subst hmembers
  cases hparse : parseDeployment (.obj [("schema_version", .int 2), ("runtimes", .arr runtimes),
      ("models", .arr models)]) with
  | error e => simp [hparse, Except.toOption] at hdeployment
  | ok found =>
    simp only [hparse, Except.toOption, Option.some.injEq] at hdeployment
    subst hdeployment
    exact deployed_of_parse hparse

/-- The v1 models have their registrations, and the lists of the scheduler name some of them. -/
structure KeepsModels (legacy : LegacyConfig) (config : ConfigV2) : Prop where
  accounted : List.Forall₂ (Accounted legacy.resourceSafetyMargin) (sortedModels legacy)
    config.deployment.models
  pinned : ∀ m, m ∈ config.pinnedModels ↔
    ∃ model, legacy.models.get? m = some model ∧ model.pinned = true
  preload : ∀ m, m ∈ config.preloadModels ↔
    ∃ model, legacy.models.get? m = some model ∧ model.preload = true
  ids : (config.deployment.models.map (·.modelId)).Nodup
  nonempty : config.deployment.models ≠ []
  known : ∀ model ∈ config.deployment.models,
    model.runtimeId ∈ config.deployment.runtimes.map (·.runtimeId)

lemma keepsModels_of_migrate {settings : Settings} {legacy : LegacyConfig}
    {inventory document : Json} (h : migrateV2 settings legacy inventory = some document) :
    ∃ config, parseV2Config settings document = some config ∧ KeepsModels legacy config := by
  unfold migrateV2 at h
  split at h
  · split at h
    · rename_i members hrun
      split_ifs at h with hsome
      cases h
      have hclean : Clean (migrateDocument settings legacy _) members := hrun
      obtain ⟨config, hconfig⟩ := Option.isSome_iff_exists.mp hsome
      simp only [migrateDocument, clean_bind, clean_pure] at hclean
      obtain ⟨_, -, migrated, hmigrated, _, -, runtimes, -, sections, -, rfl⟩ := hclean
      have hrows := migrateModels_clean hmigrated
      obtain ⟨hdeployed, ids, hpinned, hpreload⟩ := config_of_parse hconfig
      refine ⟨config, hconfig, accounted_of_migrated hrows hdeployed.models,
        mem_schedulerIds hrows rfl hpinned, mem_schedulerIds hrows rfl hpreload, hdeployed.ids, ?_,
        hdeployed.known⟩
      rintro hnil
      have hitems := hdeployed.models
      rw [hnil, List.forall₂_nil_right_iff] at hitems
      exact hdeployed.nonempty hitems
    · cases h
  · cases h

/-! ### Both books -/

namespace KeepsModels

variable {legacy : LegacyConfig} {config : ConfigV2}

lemma ids_perm (h : KeepsModels legacy config) :
    (config.deployment.models.map (·.modelId.1)).Perm legacy.models.keys := by
  rw [eq_of_forall₂ (f := Prod.fst) (h.accounted.imp fun _ _ ha => ha.modelId)]
  exact (List.perm_insertionSort _ _).map _

/-- The v1 model that a registration replaces. -/
lemma legacy_of_model (h : KeepsModels legacy config) {model : Registration.ModelSpec}
    (hmodel : model ∈ config.deployment.models) :
    ∃ old, Accounted legacy.resourceSafetyMargin (model.modelId.1, old) model := by
  obtain ⟨⟨m, old⟩, -, hold⟩ := exists_of_forall₂ h.accounted.flip hmodel
  obtain rfl : model.modelId.1 = m := hold.modelId
  exact ⟨old, hold⟩

/-- The registration of a v1 model. -/
lemma model_of_legacy (h : KeepsModels legacy config) {m : ModelId} {old : LegacyModel}
    (hold : legacy.models.get? m = some old) :
    ∃ model ∈ config.deployment.models, Accounted legacy.resourceSafetyMargin (m, old) model :=
  exists_of_forall₂ h.accounted ((List.mem_insertionSort _).mpr (Dict.mem_entries_iff.mpr hold))

lemma ledgerSpecsFrom_ok (h : KeepsModels legacy config) :
    ∃ specs, ledgerSpecsFrom config.deployment = .ok specs ∧
      specs.entries = config.deployment.models.map fun model =>
        (model.modelId.1, registered model) := by
  have hnodup : (config.deployment.models.map (·.modelId.1)).Nodup :=
    h.ids_perm.nodup_iff.mpr legacy.models.nodup
  have hentries := Dict.entries_foldl_set (·.modelId.1) registered
    (l := config.deployment.models) (d := Dict.empty)
      (by simpa [Dict.keys, Dict.empty] using hnodup)
  refine ⟨_, ?_, hentries⟩
  unfold ledgerSpecsFrom
  rw [if_neg, if_pos h.known]
  simp only [Dict.size, hentries, ne_eq, not_not]
  simp [Dict.empty]

/-- The v1 book is built. -/
lemma exists_legacy_book (h : KeepsModels legacy config) (husable : Usable policy) :
    ∃ b, Book.init { policy with margin := legacy.resourceSafetyMargin } (modelSpecs legacy) =
      .ok b := by
  have hentry : ∀ p ∈ legacy.models.entries, ∃ model,
      Accounted legacy.resourceSafetyMargin p model := fun p hp =>
    let ⟨model, _, hmodel⟩ := h.model_of_legacy (Dict.mem_entries_iff.mp hp)
    ⟨model, hmodel⟩
  have hne : legacy.models.entries ≠ [] := by
    intro hnil
    have hperm := h.ids_perm
    simp only [Dict.keys, hnil, List.map_nil, List.perm_nil, List.map_eq_nil_iff] at hperm
    exact h.nonempty hperm
  have hmargin : 0 ≤ legacy.resourceSafetyMargin ∧ legacy.resourceSafetyMargin ≤ 1 := by
    obtain ⟨p, hp⟩ := List.exists_mem_of_ne_nil _ hne
    obtain ⟨model, hmodel⟩ := hentry p hp
    exact margin_of_reserved hmodel.reserved
  refine exists_init husable hmargin (by simpa [modelSpecs, Dict.mapVal] using hne) ?_
  simp only [modelSpecs, Dict.mapVal, List.mem_map]
  rintro _ ⟨p, hp, rfl⟩
  obtain ⟨model, hmodel⟩ := hentry p hp
  obtain ⟨entry, hentry, -, hconcurrency⟩ := legacy_entry hmodel
  exact ⟨rfl, entry, hentry, by rw [hconcurrency, ← hmodel.parallel]; exact hmodel.parallel_pos⟩

/-- The new book is built. -/
lemma exists_new_book (h : KeepsModels legacy config)
    (hentries : specs.entries = config.deployment.models.map fun model =>
      (model.modelId.1, registered model)) (husable : Usable policy) :
    ∃ b, Book.init { policy with margin := 0 } specs = .ok b := by
  refine exists_init husable ⟨le_rfl, zero_le_one⟩ (by simpa [hentries] using h.nonempty) ?_
  rw [hentries]
  simp only [List.mem_map]
  rintro _ ⟨model, hmodel, rfl⟩
  obtain ⟨old, hold⟩ := h.legacy_of_model hmodel
  obtain ⟨entry, hentry, -, hconcurrency⟩ := registered_entry hold
  exact ⟨rfl, entry, hentry, by rw [hconcurrency, ← hold.parallel]; exact hold.parallel_pos⟩

/-- The two books agree. -/
lemma books_agree (h : KeepsModels legacy config)
    (hentries : specs.entries = config.deployment.models.map fun model =>
      (model.modelId.1, registered model)) {policy policy' : BookPolicy} {old new : Book}
    (hold : Book.init { policy with margin := legacy.resourceSafetyMargin } (modelSpecs legacy) =
      .ok old)
    (hnew : Book.init { policy' with margin := 0 } specs = .ok new) (m : ModelId) :
    new.required m = old.required m ∧ new.maxConcurrency m = old.maxConcurrency m := by
  unfold Book.required Book.maxConcurrency
  cases hm : legacy.models.get? m with
  | none =>
    have hspecs : specs.get? m = none := by
      rw [Dict.get?_eq_none_iff, Dict.keys, hentries, List.map_map]
      exact fun hmem => Dict.get?_eq_none_iff.mp hm (h.ids_perm.mem_iff.mp hmem)
    have hlegacy : (modelSpecs legacy).get? m = none := by simp [modelSpecs, Dict.get?_mapVal, hm]
    simp [ledger_eq_none hold hlegacy, ledger_eq_none hnew hspecs]
  | some model =>
    obtain ⟨spec, hspec, haccounted⟩ := h.model_of_legacy hm
    have hspecs : specs.get? m = some (registered spec) := by
      rw [← Dict.mem_entries_iff, hentries]
      exact List.mem_map.mpr ⟨spec, hspec, by rw [haccounted.modelId]⟩
    have hlegacy : (modelSpecs legacy).get? m = some (.v1 (model.spec m)) := by
      simp [modelSpecs, Dict.get?_mapVal, hm]
    obtain ⟨oldEntry, holdEntry, hfromOld⟩ := ledger_of_init hold hlegacy
    obtain ⟨newEntry, hnewEntry, hfromNew⟩ := ledger_of_init hnew hspecs
    obtain ⟨entry, hentry, hreserved, hconcurrency⟩ := legacy_entry haccounted
    obtain ⟨entry', hentry', hreserved', hconcurrency'⟩ := registered_entry haccounted
    cases Except.ok.inj (hfromOld.symm.trans hentry)
    cases Except.ok.inj (hfromNew.symm.trans hentry')
    simp [holdEntry, hnewEntry, hreserved, hreserved', hconcurrency, hconcurrency']

end KeepsModels

/-- The v1 accounting in the new configuration. -/
structure KeepsAccounting (legacy : LegacyConfig) (config : ConfigV2) : Prop where
  ids : (config.deployment.models.map (·.modelId.1)).Perm legacy.models.keys
  pinned : ∀ m, m ∈ config.pinnedModels ↔
    ∃ model, legacy.models.get? m = some model ∧ model.pinned = true
  preload : ∀ m, m ∈ config.preloadModels ↔
    ∃ model, legacy.models.get? m = some model ∧ model.preload = true
  books : ∀ policy policy', Usable policy → Usable policy' → ∃ specs old new,
    ledgerSpecsFrom config.deployment = .ok specs ∧
    Book.init { policy with margin := legacy.resourceSafetyMargin } (modelSpecs legacy) = .ok old ∧
    Book.init { policy' with margin := 0 } specs = .ok new ∧
    ∀ m, new.required m = old.required m ∧ new.maxConcurrency m = old.maxConcurrency m

/-- **Migration keeps the accounting.** Whatever the inventory and the other settings, a document
that is written loads, it has the v1 models with their roles, and the book that is built from it
without a margin requires and allows what the v1 book does with its margin. -/
theorem migrateV2_keepsAccounting (settings : Settings) (legacy : LegacyConfig)
    (inventory document : Json) (h : migrateV2 settings legacy inventory = some document) :
    ∃ config, parseV2Config settings document = some config ∧ KeepsAccounting legacy config := by
  obtain ⟨config, hconfig, hkeeps⟩ := keepsModels_of_migrate h
  refine ⟨config, hconfig, hkeeps.ids_perm, hkeeps.pinned, hkeeps.preload, ?_⟩
  intro policy policy' husable husable'
  obtain ⟨specs, hspecs, hentries⟩ := hkeeps.ledgerSpecsFrom_ok
  obtain ⟨old, hold⟩ := hkeeps.exists_legacy_book husable
  obtain ⟨new, hnew⟩ := hkeeps.exists_new_book hentries husable'
  exact ⟨specs, old, new, hspecs, hold, hnew, hkeeps.books_agree hentries hold hnew⟩

/-! ### A small migration -/

def sampleLegacy : LegacyConfig where
  models := ⟨[("embed", ⟨["embeddings"], "embed.gguf", sampleDigest, some 10002, 400, 0, 1,
      true, false, true, 0⟩),
    ("chat", ⟨["chat"], "chat.gguf", sampleDigest, some 10001, 1000, 0, 2, false, true, true, 0⟩)],
    by decide⟩
  resourceSafetyMargin := 1 / 10

def sampleEntry (file : String) (parallel : ℤ) : Json :=
  .obj [("runtime_id", .str "llama"), ("timeout_seconds", .int 60), ("measured", .bool false),
    ("envelope", .obj [("ctx_size", .int 512), ("max_input_tokens", .int 256),
      ("max_output_tokens", .int 256), ("max_parallel", .int parallel),
      ("max_image_tokens", .int 0),
      ("max_image_edge_pixels", .int 0), ("max_images", .int 0)]),
    ("assets", .arr [.obj [("role", .str "model"), ("path", .str file),
      ("sha256", sampleSha256), ("size_bytes", .int 1)]])]

def sampleInventory : Json :=
  .obj [("models", .obj [("chat", sampleEntry "chat.gguf" 2),
    ("embed", sampleEntry "embed.gguf" 1)]),
    ("runtimes", .obj [("llama", .obj [("profile_id", .str "llama-cpp-gguf-v1"),
      ("image_digest", .str ("llama@sha256:" ++ sampleDigest)),
      ("adapter_sha256", sampleSha256), ("lock_sha256", sampleSha256),
      ("startup_args", .arr [])])])]

def sampleSettings : Settings where
  scheduler := []
  sections _ := pure (["server", "resources", "storage", "gateway", "control", "blobs"].map
    fun key => (key, .obj []))
  accepts _ _ := true

theorem migrateV2_keepsAccounting_sample :
    ∃ document config, migrateV2 sampleSettings sampleLegacy sampleInventory = some document ∧
      parseV2Config sampleSettings document = some config ∧
      KeepsAccounting sampleLegacy config := by
  have hsome : (migrateV2 sampleSettings sampleLegacy sampleInventory).isSome = true := by
    decide +kernel
  obtain ⟨document, hdocument⟩ := Option.isSome_iff_exists.mp hsome
  obtain ⟨config, hconfig, hkeeps⟩ := migrateV2_keepsAccounting _ _ _ document hdocument
  exact ⟨document, config, hdocument, hconfig, hkeeps⟩

end ModelSwitch.Migration

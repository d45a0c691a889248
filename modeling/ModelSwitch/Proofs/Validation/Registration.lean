import ModelSwitch.Lib.Except
import ModelSwitch.Program.Evidence

/-!
# Candidates and deployments

A candidate is parsed with the same parsers as a deployment, but two checks on the whole
registration are missing: that no two models share a port, and that each model's assets fit the
profile of its runtime. `candidate_deployable_iff` says that nothing else is.
-/

namespace ModelSwitch.Registration

open Py

variable {α β : Type}

/-! ### Reading off what a parser accepts -/

@[simp]
lemma under_eq_ok {step : Step} {x : Check α} {a : α} : under step x = .ok a ↔ x = .ok a := by
  cases x <;> simp [under, Except.mapError]

@[simp]
lemma require_eq_ok {condition : Bool} {problem : Problem} {u : Unit} :
    require condition problem = .ok u ↔ condition = true := by
  cases condition <;> simp [require, refuse, pure, Except.pure]

@[simp]
lemma refuse_ne_ok {problem : Problem} {a : α} : refuse problem ≠ .ok a := nofun

/-- Each item is admitted after those before it. -/
def Admitted (admits : List α → α → Prop) : List α → List α → Prop
  | _, [] => True
  | done, a :: as => admits done a ∧ Admitted admits (done ++ [a]) as

lemma admitted_and {A B : List α → α → Prop} {done as : List α} :
    Admitted (fun done a => A done a ∧ B done a) done as ↔
      Admitted A done as ∧ Admitted B done as := by
  induction as generalizing done with
  | nil => simp [Admitted]
  | cons a as ih =>
    simp only [Admitted, ih]
    tauto

lemma admitted_all {P : α → Prop} {done as : List α} :
    Admitted (fun _ a => P a) done as ↔ ∀ a ∈ as, P a := by
  induction as generalizing done with
  | nil => simp [Admitted]
  | cons a as ih => simp [Admitted, ih]

lemma admitted_nodup {key : α → β} {done as : List α} (hdone : (done.map key).Nodup) :
    Admitted (fun done a => key a ∉ done.map key) done as ↔ ((done ++ as).map key).Nodup := by
  induction as generalizing done with
  | nil => simpa [Admitted] using hdone
  | cons a as ih =>
    have hsplit : done ++ a :: as = (done ++ [a]) ++ as := by simp
    rw [Admitted, hsplit]
    constructor
    · rintro ⟨ha, has⟩
      refine (ih ?_).mp has
      simpa using hdone.concat ha
    · intro h
      have hfirst : ((done ++ [a]).map key).Nodup := by
        rw [List.map_append] at h
        exact h.of_append_left
      refine ⟨?_, (ih hfirst).mpr h⟩
      rw [List.map_append] at hfirst
      exact fun hmem => (List.nodup_append.mp hfirst).2.2 _ hmem _ (by simp) rfl

/-- What a loop of the parsers collects. -/
lemma collect_eq_ok {key : String} {parse : Json → Check α} {check : List α → α → Check Unit}
    {items : List Json} {done out : List α} :
    collect (itemOf key parse) check items done = .ok out ↔
      ∃ as, List.Forall₂ (fun item a => parse item = .ok a) items as ∧ out = done ++ as ∧
        Admitted (fun done a => check done a = .ok ()) done as := by
  induction items generalizing done with
  | nil =>
    simp only [collect, List.forall₂_nil_left_iff, exists_eq_left, List.append_nil, Admitted,
      and_true]
    exact ⟨fun h => (Except.ok.inj h).symm, fun h => h ▸ rfl⟩
  | cons item items ih =>
    simp only [collect, bind_eq_ok, itemOf, under_eq_ok, ih, List.forall₂_cons_left_iff]
    constructor
    · rintro ⟨a, ha, ⟨⟩, hadmit, as, has, rfl, hrest⟩
      exact ⟨a :: as, ⟨a, as, ha, has, rfl⟩, by simp, hadmit, hrest⟩
    · rintro ⟨_, ⟨a, as, ha, has, rfl⟩, rfl, hadmit, hrest⟩
      exact ⟨a, ha, (), hadmit, as, has, by simp, hrest⟩

lemma parseItems_eq_ok {key : String} {parse : Json → Check α} {items : List Json} {as : List α} :
    Evidence.parseItems key parse items = .ok as ↔
      List.Forall₂ (fun item a => parse item = .ok a) items as := by
  have htrue : ∀ done as : List α,
      Admitted (fun _ _ => (pure () : Check Unit) = .ok ()) done as := by
    intro done as
    exact admitted_all.mpr fun _ _ => rfl
  simp only [Evidence.parseItems, collect_eq_ok, List.nil_append, htrue, and_true]
  exact ⟨fun ⟨_, h, heq⟩ => heq ▸ h, fun h => ⟨as, h, rfl⟩⟩

lemma sequenceField_eq_ok {data : Members} {key : String} {items : List Json} :
    Evidence.sequenceField data key = .ok items ↔ data.lookup key = some (.arr items) := by
  unfold Evidence.sequenceField Evidence.required sequence
  cases data.lookup key with
  | none => simp [bind, Except.bind, refuse]
  | some value => cases value <;> simp [bind, Except.bind, refuse, pure, Except.pure]

/-! ### The registration of a candidate -/

/-- The deployment made of the runtimes and models of a candidate. -/
def registrationOf (value : Json) : Json :=
  match value with
  | .obj data => .obj [("schema_version", .int 2),
      ("runtimes", (data.lookup "runtimes").getD .null),
      ("models", (data.lookup "models").getD .null)]
  | _ => .null

/-- The assets of a model fit the profile of its runtime. -/
def Fits (runtimes : List RuntimeSpec) (model : ModelSpec) : Prop :=
  ∀ runtime ∈ runtimes, runtime.runtimeId = model.runtimeId →
    validateModelAgainstProfile model runtime.profile = .ok ()

/-- What the registration of an accepted candidate has passed. -/
structure Parsed (data : Members) (runtimes : List RuntimeSpec) (models : List ModelSpec) :
    Prop where
  runtimeItems : ∃ items, data.lookup "runtimes" = some (.arr items) ∧
    List.Forall₂ (fun item runtime => parseRuntimeSpec item = .ok runtime) items runtimes
  modelItems : ∃ items, data.lookup "models" = some (.arr items) ∧
    List.Forall₂ (fun item model => parseModelSpec item = .ok model) items models
  runtimeIds : (runtimes.map (·.runtimeId)).Nodup
  modelIds : (models.map (·.modelId)).Nodup
  nonempty : models ≠ []
  known : ∀ model ∈ models, ∃ runtime ∈ runtimes, runtime.runtimeId = model.runtimeId

lemma parsed_of_candidateModels {data : Members} {runtimes : List RuntimeSpec}
    {models : List ModelSpec}
    (h : Evidence.parseCandidateModels data = .ok (runtimes, models)) :
    Parsed data runtimes models := by
  simp only [Evidence.parseCandidateModels, bind_eq_ok, sequenceField_eq_ok, parseItems_eq_ok,
    Evidence.distinct, require_eq_ok, decide_eq_true_eq] at h
  obtain ⟨_, ⟨_, hritems, hr⟩, _, hrids, _, ⟨_, hmitems, hm⟩, _, hne, _, hmids, _, hknown, heq⟩ := h
  cases heq
  refine ⟨⟨_, hritems, hr⟩, ⟨_, hmitems, hm⟩, ?_, ?_, by simpa using hne, by simpa using hknown⟩
  · exact List.Nodup.of_map Subtype.val (by rwa [List.map_map])
  · exact List.Nodup.of_map Subtype.val (by rwa [List.map_map])

lemma parsed_of_candidate {value : Json} {candidate : Evidence.CandidateV3}
    (h : Evidence.parseCandidate value = .ok candidate) :
    ∃ data, value = .obj data ∧ Parsed data candidate.runtimes candidate.models := by
  simp only [Evidence.parseCandidate, under_eq_ok, object, bind_eq_ok] at h
  obtain ⟨data, ⟨_, hdata, _, -, hpure⟩, _, -, _, -, ⟨runtimes, models⟩, hmodels, hbody⟩ := h
  cases hpure
  have hvalue : value = .obj data := by
    cases value <;> simp [mapping, pure, Except.pure] at hdata
    rw [hdata]
  simp only [Evidence.parseCandidateBody, bind_eq_ok] at hbody
  obtain ⟨_, -, _, -, _, -, _, -, _, -, _, -, _, -, _, -, _, -, _, -, _, -, _, -, _, -, _, -,
    hbody⟩ := hbody
  cases hbody
  exact ⟨data, hvalue, parsed_of_candidateModels hmodels⟩

lemma admitModel_eq_ok {runtimes : List RuntimeSpec} {done : List ModelSpec} {model : ModelSpec} :
    admitModel runtimes done model = .ok () ↔ (model.modelId ∉ done.map (·.modelId) ∧
      model.port ∉ done.map (·.port)) ∧
      ∃ runtime, runtimes.find? (·.runtimeId = model.runtimeId) = some runtime ∧
        validateModelAgainstProfile model runtime.profile = .ok () := by
  simp only [admitModel, bind_eq_ok, require_eq_ok, decide_eq_true_eq]
  cases runtimes.find? (·.runtimeId = model.runtimeId) with
  | none => simp
  | some runtime => simp [and_assoc]

lemma admitted_models {runtimes : List RuntimeSpec} {models : List ModelSpec}
    (hids : (models.map (·.modelId)).Nodup) (hrids : (runtimes.map (·.runtimeId)).Nodup)
    (hknown : ∀ model ∈ models, ∃ runtime ∈ runtimes, runtime.runtimeId = model.runtimeId) :
    Admitted (fun done model => admitModel runtimes done model = .ok ()) [] models ↔
      (models.map (·.port)).Nodup ∧ ∀ model ∈ models, Fits runtimes model := by
  simp only [admitModel_eq_ok]
  rw [admitted_and, admitted_and, admitted_all, admitted_nodup (by simp), admitted_nodup (by simp)]
  simp only [List.nil_append, hids, true_and]
  refine and_congr_right fun _ => forall₂_congr fun model hmodel => ?_
  obtain ⟨runtime, hmem, hid⟩ := hknown model hmodel
  -- ids are distinct, so the runtime that is found is the one there is
  have hunique : ∀ other ∈ runtimes, other.runtimeId = model.runtimeId → other = runtime :=
    fun other hother heq => List.inj_on_of_nodup_map hrids hother hmem (heq.trans hid.symm)
  have hfind : runtimes.find? (·.runtimeId = model.runtimeId) = some runtime := by
    cases hf : runtimes.find? (·.runtimeId = model.runtimeId) with
    | none => exact absurd hid (by simpa using List.find?_eq_none.mp hf runtime hmem)
    | some other =>
      rw [hunique other (List.mem_of_find?_eq_some hf) (by simpa using List.find?_some hf)]
  rw [hfind]
  constructor
  · rintro ⟨_, ⟨rfl⟩, hok⟩ other hother heq
    rw [hunique other hother heq]
    exact hok
  · exact fun h => ⟨runtime, rfl, h runtime hmem hid⟩

lemma parseDeployment_registrationOf {data : Members} {runtimes : List RuntimeSpec}
    {models : List ModelSpec} (h : Parsed data runtimes models) :
    (∃ deployment, parseDeployment (registrationOf (.obj data)) = .ok deployment) ↔
      (models.map (·.port)).Nodup ∧ ∀ model ∈ models, Fits runtimes model := by
  obtain ⟨ritems, hritems, hr⟩ := h.runtimeItems
  obtain ⟨mitems, hmitems, hm⟩ := h.modelItems
  have hunique : ∀ {γ : Type} {parse : Json → Check γ},
      Relator.RightUnique fun item a => parse item = .ok a :=
    fun ha hb => Except.ok.inj (ha.symm.trans hb)
  rw [← admitted_models h.modelIds h.runtimeIds h.known]
  simp only [registrationOf, hritems, hmitems, Option.getD_some, parseDeployment, under_eq_ok,
    object, mapping, bind_eq_ok, collect_eq_ok, require_eq_ok]
  constructor
  · rintro ⟨_, _, ⟨_, ⟨⟩, _, -, ⟨⟩⟩, _, -, _, -, _, ⟨⟩, _, -, _, ⟨rs, hrs, rfl, -⟩, _, ⟨⟩, _, -, _,
      ⟨ms, hms, rfl, hadmit⟩, -⟩
    cases List.right_unique_forall₂' hunique hrs hr
    cases List.right_unique_forall₂' hunique hms hm
    exact hadmit
  · intro hadmit
    have hrne : runtimes ≠ [] := by
      obtain ⟨model, hmodel⟩ := List.exists_mem_of_ne_nil _ h.nonempty
      obtain ⟨runtime, hmem, -⟩ := h.known model hmodel
      exact List.ne_nil_of_mem hmem
    refine ⟨_, _, ⟨_, rfl, (), rfl, rfl⟩, 2, rfl, (), rfl, ritems, rfl, (), ?_, _,
      ⟨runtimes, hr, rfl, ?_⟩, mitems, rfl, (), ?_, _, ⟨models, hm, rfl, hadmit⟩, rfl⟩
    · simpa [List.isEmpty_iff] using mt (fun h => List.forall₂_nil_left_iff.mp (h ▸ hr)) hrne
    · simp only [admitRuntime, require_eq_ok, decide_eq_true_eq]
      exact (admitted_nodup (by simp)).mpr h.runtimeIds
    · simpa [List.isEmpty_iff] using mt (fun h => List.forall₂_nil_left_iff.mp (h ▸ hm)) h.nonempty

/-- **When the registration of a candidate is one the service would load**: exactly if its models
have different ports and fit the profiles of their runtimes. -/
theorem candidate_deployable_iff (value : Json) (candidate : Evidence.CandidateV3)
    (h : Evidence.parseCandidate value = .ok candidate) :
    (∃ deployment, parseDeployment (registrationOf value) = .ok deployment) ↔
      (candidate.models.map (·.port)).Nodup ∧
        ∀ model ∈ candidate.models, Fits candidate.runtimes model := by
  obtain ⟨data, rfl, hparsed⟩ := parsed_of_candidate h
  exact parseDeployment_registrationOf hparsed

/-! ### A small candidate -/

def sampleDigest : Sha256 := ⟨String.ofList (List.replicate 64 'a'), by decide +kernel⟩

def sampleSha256 : Json := .str sampleDigest

def sampleModel (model : String × ℤ) : Json :=
  .obj [("model_id", .str model.1), ("runtime_id", .str "llama"),
    ("capabilities", .arr [.str "chat"]),
    ("assets", .arr [.obj [("role", .str "model"), ("path", .str "model.gguf"),
      ("sha256", sampleSha256), ("size_bytes", .int 1)]]),
    ("port", .int model.2),
    ("envelope", .obj [("ctx_size", .int 512), ("max_input_tokens", .int 256),
      ("max_output_tokens", .int 256), ("max_parallel", .int 1), ("max_image_tokens", .int 0),
      ("max_image_edge_pixels", .int 0), ("max_images", .int 0)]),
    ("timeout_seconds", .int 60), ("reserved_bytes", .int 1), ("measured", .bool false),
    ("measurement_ref", .null), ("physical_resident_peak_bytes", .null)]

def samplePerformance (model : String × ℤ) : Json :=
  .obj [("model_id", .str model.1), ("cold_start_seconds_max", .int 60),
    ("infer_milliseconds_p95_max", .int 900), ("infer_milliseconds_p99_max", .int 900),
    ("max_input_milliseconds_max", .int 900)]

/-- Models on one runtime, by id and port. -/
def sampleCandidate (models : List (String × ℤ)) : Json :=
  .obj [("schema_version", .int 3), ("deployment_id", .str "lab"),
    ("source_archive_sha256", sampleSha256), ("config_sha256", sampleSha256),
    ("device", .obj ([("machine_id_sha256", sampleSha256), ("device_tree_sha256", sampleSha256),
        ("mem_total_bytes", .int 1)] ++
      ["architecture", "os_release", "kernel_release", "gpu_identity", "jetpack_release",
        "container_runtime_version", "power_mode", "clock_mode", "model_disk_uuid",
        "scratch_disk_uuid"].map fun key => (key, .str "x"))),
    ("runtime_stack", .obj (["cuda_version", "compute_capability", "python_version"].map
      fun key => (key, .str "x"))),
    ("runtimes", .arr [.obj [("runtime_id", .str "llama"), ("profile_id", .str "llama-cpp-gguf-v1"),
      ("image_digest", .str ("llama@sha256:" ++ String.ofList (List.replicate 64 'a'))),
      ("adapter_sha256", sampleSha256), ("lock_sha256", sampleSha256), ("startup_args", .arr [])]]),
    ("models", .arr (models.map sampleModel)),
    ("measurement_refs", .arr []), ("fixture_refs", .arr []),
    ("policy", .obj [("performance", .arr (models.map samplePerformance)),
      ("operational", .obj [("duration_seconds", .int 1800), ("arrival_requests", .int 100),
        ("arrival_gap_seconds_max", .int 15), ("send_deviation_milliseconds_max", .int 1000),
        ("error_rate_max", .int 0), ("queue_full_rate_max", .int 0),
        ("timeout_rate_max", .int 0)])]),
    ("collector_sha256", sampleSha256), ("evaluator_sha256", sampleSha256)]

lemma exists_candidate {value : Json}
    (h : (Evidence.parseCandidate value).toOption.isSome = true) :
    ∃ candidate, Evidence.parseCandidate value = .ok candidate := by
  cases hp : Evidence.parseCandidate value with
  | error e => simp [hp, Except.toOption] at h
  | ok candidate => exact ⟨candidate, rfl⟩

def twoModels : Json := sampleCandidate [("chat", 10001), ("embed", 10002)]

theorem candidate_deployable_iff_two : ∃ candidate,
    Evidence.parseCandidate twoModels = .ok candidate ∧
      ∃ deployment, parseDeployment (registrationOf twoModels) = .ok deployment := by
  have hsome : (Evidence.parseCandidate twoModels).toOption.isSome = true := by decide +kernel
  obtain ⟨candidate, hcandidate⟩ := exists_candidate hsome
  refine ⟨candidate, hcandidate, (candidate_deployable_iff _ candidate hcandidate).mpr ?_⟩
  have hall : (Evidence.parseCandidate twoModels).toOption.all (fun c =>
      (c.models.map (·.port)).Nodup ∧ ∀ model ∈ c.models, ∀ runtime ∈ c.runtimes,
        validateModelAgainstProfile model runtime.profile = .ok ()) = true := by decide +kernel
  simp only [hcandidate, Except.toOption, Option.all_some, decide_eq_true_eq] at hall
  exact ⟨hall.1, fun model hmodel runtime hruntime _ => hall.2 model hmodel runtime hruntime⟩

/-- Two models on one port make a candidate but no deployment. -/
theorem candidate_not_deployable :
    (Evidence.parseCandidate (sampleCandidate [("chat", 10001), ("embed", 10001)])
      ).toOption.isSome = true ∧
    parseDeployment (registrationOf (sampleCandidate [("chat", 10001), ("embed", 10001)])) =
      .error ⟨[.root "deployment"], .duplicate "port" "10001"⟩ := by
  decide +kernel

end ModelSwitch.Registration

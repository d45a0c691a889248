import ModelSwitch.Program.Registration

/-!
# Candidates and their cases

`parse_candidate`, `parse_case_id` and `required_case_ids` of `evidence_contracts.py`, and the
directories that `acceptance/materials.py` and `acceptance/verify.py` name after a case.
-/

namespace ModelSwitch.Registration.Evidence

open Py

/-! ### Strict values -/

def required (data : Members) (key : String) : Check Json :=
  match data.lookup key with
  | some value => pure value
  | none => refuse (.required key)

/-- `_text`. -/
def text (key : String) : Json → Check String
  | .str text => do
    require (text ≠ "") (.notText key)
    require (Char.ofNat 0 ∉ text.toList) (.hasNul key)
    pure text
  | _ => refuse (.notText key)

def textField (data : Members) (key : String) : Check String := required data key >>= text key

def intField (data : Members) (key : String) (minimum : Option ℤ) : Check ℤ := do
  let _ ← required data key
  int data key minimum none

/-- The least integer that is no float. -/
def floatLimit : ℕ := 2 ^ 1024 - 2 ^ 970

def number (key : String) : Json → Check Decimal
  | .int value => pure (.finite value)
  | .float value => pure value
  | _ => refuse (.notNumber key)

/-- An integer may be too large for a float. -/
def isFloat : Decimal → Bool
  | .finite value => value < floatLimit
  | _ => true

/-- `value < bound` as floats compare. -/
def lessThan : Decimal → ℚ → Bool
  | .finite value, bound => value < bound
  | .nan, _ => false
  | .inf negative, _ => negative

def greaterThan : Decimal → ℚ → Bool
  | .finite value, bound => bound < value
  | .nan, _ => false
  | .inf negative, _ => !negative

def numberField (data : Members) (key : String) (maximum : Option ℤ) : Check Decimal := do
  let value ← required data key >>= number key
  require (!lessThan value 0) (.below key 0)
  maximum.forM fun high => require (!greaterThan value high) (.above key high)
  require (isFloat value) (.overflow key)
  pure value

def sha256Field (data : Members) (key : String) : Check Sha256 := do
  let value ← textField data key
  sha256Of key (some (.str value))

def idField (data : Members) (key : String) : Check OpaqueId := textField data key >>= idOf key

def sequenceField (data : Members) (key : String) : Check (List Json) := do
  let _ ← required data key
  sequence data key

def parseItems {α : Type} (key : String) (parse : Json → Check α) (items : List Json) :
    Check (List α) :=
  collect (itemOf key parse) (fun _ _ => pure ()) items []

/-- Refuse names that come twice. -/
def distinct (what : String) (names : List String) : Check Unit :=
  require names.Nodup (.duplicate what
    (", ".intercalate ((names.filter (1 < names.count ·)).dedup.insertionSort (· ≤ ·))))

/-! ### Candidates -/

structure ArtifactRef where
  relativePath : String
  sizeBytes : ℤ
  sha256 : Sha256

structure DeviceFact where
  machineIdSha256 : Sha256
  architecture : String
  deviceTreeSha256 : Sha256
  memTotalBytes : ℤ
  osRelease : String
  kernelRelease : String
  gpuIdentity : String
  jetpackRelease : String
  containerRuntimeVersion : String
  powerMode : String
  clockMode : String
  modelDiskUuid : String
  scratchDiskUuid : String

structure RuntimeStackFact where
  cudaVersion : String
  computeCapability : String
  pythonVersion : String

structure ModelPerformancePolicy where
  modelId : OpaqueId
  coldStartSecondsMax : Decimal
  inferMillisecondsP95Max : Decimal
  inferMillisecondsP99Max : Decimal
  maxInputMillisecondsMax : Decimal

structure OperationalPolicy where
  durationSeconds : ℤ
  arrivalRequests : ℤ
  arrivalGapSecondsMax : Decimal
  sendDeviationMillisecondsMax : Decimal
  errorRateMax : Decimal
  queueFullRateMax : Decimal
  timeoutRateMax : Decimal
  deriving DecidableEq

structure PolicyV3 where
  performance : List ModelPerformancePolicy
  operational : OperationalPolicy

structure CandidateV3 where
  schemaVersion : ℤ
  deploymentId : OpaqueId
  sourceArchiveSha256 : Sha256
  configSha256 : Sha256
  device : DeviceFact
  runtimeStack : RuntimeStackFact
  runtimes : List RuntimeSpec
  models : List ModelSpec
  measurementRefs : List ArtifactRef
  fixtureRefs : List ArtifactRef
  policy : PolicyV3
  collectorSha256 : Sha256
  evaluatorSha256 : Sha256

def parseArtifactRef (value : Json) : Check ArtifactRef := do
  let data ← object value ["relative_path", "size_bytes", "sha256"]
  let path ← textField data "relative_path" >>= safeRelativePath "relative_path"
  pure ⟨path, ← intField data "size_bytes" (some 0), ← sha256Field data "sha256"⟩

def parseArtifactList (data : Members) (key : String) : Check (List ArtifactRef) := do
  let items ← sequenceField data key
  let artifacts ← parseItems key parseArtifactRef items
  distinct "artifact paths" (artifacts.map (·.relativePath))
  pure artifacts

def parseDeviceFact (value : Json) : Check DeviceFact := do
  let data ← object value ["machine_id_sha256", "architecture", "device_tree_sha256",
    "mem_total_bytes", "os_release", "kernel_release", "gpu_identity", "jetpack_release",
    "container_runtime_version", "power_mode", "clock_mode", "model_disk_uuid",
    "scratch_disk_uuid"]
  pure ⟨← sha256Field data "machine_id_sha256", ← textField data "architecture",
    ← sha256Field data "device_tree_sha256", ← intField data "mem_total_bytes" (some 1),
    ← textField data "os_release", ← textField data "kernel_release",
    ← textField data "gpu_identity", ← textField data "jetpack_release",
    ← textField data "container_runtime_version", ← textField data "power_mode",
    ← textField data "clock_mode", ← textField data "model_disk_uuid",
    ← textField data "scratch_disk_uuid"⟩

def parseRuntimeStack (value : Json) : Check RuntimeStackFact := do
  let data ← object value ["cuda_version", "compute_capability", "python_version"]
  pure ⟨← textField data "cuda_version", ← textField data "compute_capability",
    ← textField data "python_version"⟩

def parsePerformancePolicy (value : Json) : Check ModelPerformancePolicy := do
  let data ← object value ["model_id", "cold_start_seconds_max", "infer_milliseconds_p95_max",
    "infer_milliseconds_p99_max", "max_input_milliseconds_max"]
  pure ⟨← idField data "model_id", ← numberField data "cold_start_seconds_max" none,
    ← numberField data "infer_milliseconds_p95_max" none,
    ← numberField data "infer_milliseconds_p99_max" none,
    ← numberField data "max_input_milliseconds_max" none⟩

def parseOperationalPolicy (value : Json) : Check OperationalPolicy := do
  let data ← object value ["duration_seconds", "arrival_requests", "arrival_gap_seconds_max",
    "send_deviation_milliseconds_max", "error_rate_max", "queue_full_rate_max",
    "timeout_rate_max"]
  let policy : OperationalPolicy := ⟨← intField data "duration_seconds" (some 1),
    ← intField data "arrival_requests" (some 1),
    ← numberField data "arrival_gap_seconds_max" none,
    ← numberField data "send_deviation_milliseconds_max" none,
    ← numberField data "error_rate_max" (some 1), ← numberField data "queue_full_rate_max" (some 1),
    ← numberField data "timeout_rate_max" (some 1)⟩
  require (1800 ≤ policy.durationSeconds) (.rule "duration_seconds must be >= 1800")
  require (100 ≤ policy.arrivalRequests) (.rule "arrival_requests must be >= 100")
  require (!greaterThan policy.arrivalGapSecondsMax 15)
    (.rule "arrival_gap_seconds_max must be <= 15.0")
  require (!greaterThan policy.sendDeviationMillisecondsMax 1000)
    (.rule "send_deviation_milliseconds_max must be <= 1000.0")
  require (!greaterThan policy.errorRateMax (1 / 10)) (.rule "error_rate_max must be <= 0.1")
  require (!greaterThan policy.queueFullRateMax (1 / 10))
    (.rule "queue_full_rate_max must be <= 0.1")
  require (!greaterThan policy.timeoutRateMax (1 / 10)) (.rule "timeout_rate_max must be <= 0.1")
  pure policy

def parsePolicy (value : Json) : Check PolicyV3 := do
  let data ← object value ["performance", "operational"]
  let entries ← sequenceField data "performance"
  require (!entries.isEmpty) (.empty "performance")
  let performance ← parseItems "performance" parsePerformancePolicy entries
  distinct "performance entries" (performance.map (·.modelId.1))
  let operational ← required data "operational"
  pure ⟨performance, ← under (.field "operational") (parseOperationalPolicy operational)⟩

/-- The registration in a candidate. -/
def parseCandidateModels (data : Members) : Check (List RuntimeSpec × List ModelSpec) := do
  let runtimes ← sequenceField data "runtimes" >>= parseItems "runtimes" parseRuntimeSpec
  distinct "runtime ids" (runtimes.map (·.runtimeId.1))
  let models ← sequenceField data "models" >>= parseItems "models" parseModelSpec
  require (!models.isEmpty) (.empty "models")
  distinct "model ids" (models.map (·.modelId.1))
  require (models.all fun model => model.runtimeId ∈ runtimes.map (·.runtimeId))
    (.rule "a model references an unknown runtime")
  pure (runtimes, models)

/-- The rest of a candidate. -/
def parseCandidateBody (data : Members) (version : ℤ) (runtimes : List RuntimeSpec)
    (models : List ModelSpec) : Check CandidateV3 := do
  let policy ← required data "policy"
  let policy ← under (.field "policy") (parsePolicy policy)
  require ((∀ entry ∈ policy.performance, entry.modelId ∈ models.map (·.modelId)) ∧
      ∀ model ∈ models, model.modelId ∈ policy.performance.map (·.modelId))
    (.rule "performance policy must cover every model")
  let deploymentId ← idField data "deployment_id"
  let source ← sha256Field data "source_archive_sha256"
  let config ← sha256Field data "config_sha256"
  let device ← required data "device"
  let device ← under (.field "device") (parseDeviceFact device)
  let stack ← required data "runtime_stack"
  let stack ← under (.field "runtime_stack") (parseRuntimeStack stack)
  pure ⟨version, deploymentId, source, config, device, stack, runtimes, models,
    ← parseArtifactList data "measurement_refs", ← parseArtifactList data "fixture_refs", policy,
    ← sha256Field data "collector_sha256", ← sha256Field data "evaluator_sha256"⟩

def parseCandidate (value : Json) : Check CandidateV3 := under (.root "candidate") do
  let data ← object value ["schema_version", "deployment_id", "source_archive_sha256",
    "config_sha256", "device", "runtime_stack", "runtimes", "models", "measurement_refs",
    "fixture_refs", "policy", "collector_sha256", "evaluator_sha256"]
  let version ← intField data "schema_version" none
  require (version = 3) (.rule "schema_version must be 3")
  let (runtimes, models) ← parseCandidateModels data
  parseCandidateBody data version runtimes models

/-! ### Cases -/

def softwareCases : List String := ["S01", "S02", "S03", "S04", "S05", "S06"]

def operationalCases : List String := ["O01", "O02", "O03", "O04", "O05", "O06"]

def backendModelCaseKinds : List String := ["load", "infer", "envelope", "cancel", "stop", "reload"]

/-- The id in `_BACKEND_CASE_RE`, which has a first and a last character. -/
def isBackendId (id : List Char) : Bool := isId (String.ofList id) ∧ 2 ≤ id.length

/-- `_BACKEND_CASE_RE` and `_BACKEND_CAP_CASE_RE`, by the parts of a text between its colons. -/
def isBackendCase : List (List Char) → Bool
  | [['B'], id, kind] => isBackendId id ∧ String.ofList kind ∈ backendModelCaseKinds
  | [['B'], id, ['c', 'a', 'p'], capability] =>
    isBackendId id ∧ String.ofList capability ∈ Capability.all.map Prod.fst
  | _ => false

def parseCaseId (caseId : Json) : Check String := do
  let text ← text "case_id" caseId
  require (text ∈ softwareCases ∨ text ∈ operationalCases ∨ isBackendCase (text.toList.splitOn ':'))
    (.invalid "case_id" text)
  pure text

def requiredCaseIds (candidate : CandidateV3) : List String :=
  softwareCases ++ operationalCases ++ candidate.models.flatMap fun model =>
    backendModelCaseKinds.map (fun kind => "B:" ++ model.modelId.1 ++ ":" ++ kind) ++
      model.capabilities.map fun capability =>
        "B:" ++ model.modelId.1 ++ ":cap:" ++ capability.name

/-- `str.replace(":", "_")`. -/
def underscored (caseId : String) : List Char :=
  caseId.toList.map fun c => if c = ':' then '_' else c

/-- `_slug`; `none` where it raises. -/
def slug (caseId : String) : Option (List Char) :=
  let slug := (underscored caseId).map Char.toLower
  if slug ≠ [] ∧ slug.all fun c => isAlnum c ∨ c = '_' ∨ c = '-' then some slug else none

/-- The parts of `case_directory(case_id, attempt)` below the store's root. -/
def caseDirectory (caseId : String) (attempt : ℕ) : Option (List String) :=
  if attempt = 0 then none
  else (slug caseId).map fun slug =>
    ["cases", String.ofList slug, "attempt-" ++ toString attempt]

/-- The parts of the directory that `merge_runs` copies an attempt's material to. -/
def mergeDirectory (caseId runId : String) (attempt : ℕ) : List String :=
  ["cases", String.ofList (underscored caseId), runId ++ "-attempt-" ++ toString attempt]

end ModelSwitch.Registration.Evidence

import ModelSwitch.Lib.Notes
import ModelSwitch.Program.Book
import ModelSwitch.Program.Registration

/-!
# Migration to schema 2

`migration_v2.py`: a v1 configuration and an inventory become a schema-2 document, or a report of
what the inventory lacks and of where it contradicts the configuration. The document is written
only if `parse_v2_config` takes it.

Of both configurations the model has what the registration and the book read. The other settings
are a parameter: what is written for them, and whether the parser takes them.
-/

namespace ModelSwitch.Migration

open Py Noting

/-! ### The v1 configuration -/

/-- `ModelConfig`; the capabilities are sorted, and the port is that of the upstream URL. -/
structure LegacyModel where
  capabilities : List String
  file : String
  sha256 : String
  port : Option ℤ
  reservedBytes : ℤ
  priority : ℤ
  maxConcurrency : ℤ
  evictable : Bool
  pinned : Bool
  preload : Bool
  ttlSeconds : ℚ

/-- `AppConfig`. -/
structure LegacyConfig where
  models : Dict ModelId LegacyModel
  resourceSafetyMargin : ℚ

def LegacyModel.spec (modelId : ModelId) (model : LegacyModel) : ModelSpec :=
  { modelId, reservedBytes := model.reservedBytes, priority := model.priority,
    maxConcurrency := model.maxConcurrency, pinned := model.pinned, evictable := model.evictable,
    preload := model.preload, ttlSeconds := model.ttlSeconds }

/-- `model_specs`. -/
def modelSpecs (config : LegacyConfig) : Dict ModelId Registration :=
  config.models.mapVal fun modelId model => .v1 (model.spec modelId)

/-! ### The report -/

/-- An entry of `_Report`, with its path. -/
inductive Note
  | missing (path : String)
  | conflict (path : String)

abbrev Migrate := Noting Note

/-- `data.get(key)`. -/
def field (data : Json) (key : String) : Json :=
  match data with
  | .obj members => (members.lookup key).getD .null
  | _ => .null

def need (data : Json) (key path : String) : Migrate Json :=
  match field data key with
  | .null => do
    note (.missing (path ++ "." ++ key))
    pure .null
  | value => pure value

/-- The members with the given keys, each of them needed. -/
def needAll (keys : List String) (data : Json) (path : String) : Migrate Members :=
  keys.mapM' fun key => do
    let value ← need data key path
    pure (key, value)

/-- `_mapping_or_none`. -/
def mappingOrNone : Json → Members
  | .obj members => members
  | _ => []

/-! ### Runtimes -/

def runtimeKeys : List String :=
  ["profile_id", "image_digest", "adapter_sha256", "lock_sha256", "startup_args"]

def migrateRuntime (inventory : Json) (runtimeId : String) : Migrate (Option Members) :=
  let path := "runtimes." ++ runtimeId
  match field inventory runtimeId with
  | .null => do
    note (.missing path)
    pure none
  | spec => do
    let values ← needAll runtimeKeys spec path
    let args ← match values.lookup "startup_args" with
      | some (.arr args) => pure args
      | _ => do
        note (.missing (path ++ ".startup_args"))
        pure []
    pure (some (("runtime_id", .str runtimeId) :: values.take 4 ++ [("startup_args", .arr args)]))

def migrateRuntimes (referenced : List String) (inventory : Json) : Migrate (List Members) := do
  let runtimes ← (referenced.insertionSort (· ≤ ·)).mapM' (migrateRuntime inventory)
  pure runtimes.reduceOption

/-- The runtimes that the models name. An id that is not a text is none of the inventory's, whose
keys are texts: it cannot be hashed or sorted, or it is missed; here it raises. -/
def referencedRuntimes (models : List Members) : Migrate (List String) := do
  let ids ← models.mapM' fun model => match model.lookup "runtime_id" with
    | some (.str runtimeId) => pure [runtimeId]
    | some .null => pure []
    | _ => raise
  pure ids.flatten.dedup

/-! ### Models -/

def envelopeKeys : List String :=
  ["ctx_size", "max_input_tokens", "max_output_tokens", "max_parallel", "max_image_tokens",
    "max_image_edge_pixels", "max_images"]

def assetKeys : List String := ["role", "path", "sha256", "size_bytes"]

def migrateEnvelope (entry : Json) (path : String) : Migrate Members := do
  let raw ← need entry "envelope" path
  match raw with
  | .obj _ => needAll envelopeKeys raw (path ++ ".envelope")
  | _ => do
    note (.missing (path ++ ".envelope"))
    pure (envelopeKeys.map fun key => (key, .null))

/-- The v1 file names and hashes the model file already, and the inventory must agree. -/
def migrateAsset (path : String) (old : LegacyModel) (item : Json) : Migrate (Option Json) :=
  match item with
  | .obj _ => do
    let asset ← needAll assetKeys item path
    if Json.isStr (asset.lookup "role") "model" then
      if !Json.isStr (asset.lookup "path") old.file then
        note (.conflict (path ++ ".path"))
      if !Json.isStr (asset.lookup "sha256") old.sha256 then
        note (.conflict (path ++ ".sha256"))
    pure (some (.obj asset))
  | _ => do
    note (.missing path)
    pure none

def migrateAssets (entry : Json) (path : String) (old : LegacyModel) : Migrate (List Json) := do
  let raw ← need entry "assets" path
  match raw with
  | .arr (item :: items) => do
    let assets ← (item :: items).zipIdx.mapM' fun (item, index) =>
      migrateAsset (path ++ ".assets[" ++ toString index ++ "]") old item
    pure assets.reduceOption
  | _ => do
    note (.missing (path ++ ".assets"))
    pure []

/-- The figures of a measured model. -/
def migrateMeasurement (entry : Json) (path : String) (measured : Bool) : Migrate (Json × Json) :=
  if !measured then pure (.null, .null)
  else do
    let ref ← need entry "measurement_ref" path
    let peak ← need entry "physical_resident_peak_bytes" path
    pure (ref, peak)

/-- Whether a model is measured, with its figures; `entry.get` raises on what is no object. -/
def migrateMeasured (entry : Json) (path : String) : Migrate (Bool × Json × Json) :=
  match entry with
  | .obj members => match members.lookup "measured" with
    | some (.bool measured) => do
      let figures ← migrateMeasurement entry path measured
      pure (measured, figures)
    | _ => do
      note (.missing (path ++ ".measured"))
      pure (false, .null, .null)
  | _ => raise

/-- `value == number`, for which a truth value counts as 0 or 1. -/
def equalsInt (value : Json) (number : ℤ) : Bool :=
  match value with
  | .int n => n = number
  | .bool b => (if b then 1 else 0) = number
  | .float (.finite x) => x = number
  | _ => false

/-- The envelope may not change the concurrency. -/
def checkParallel (envelope : Members) (path : String) (old : LegacyModel) : Migrate PUnit :=
  match envelope.lookup "max_parallel" with
  | some .null | none => pure ⟨⟩
  | some value =>
    if equalsInt value old.maxConcurrency then pure ⟨⟩
    else note (.conflict (path ++ ".envelope.max_parallel"))

/-- `effective_reserved_bytes`, which raises outside its range. The margin is applied here, once. -/
def reservedOf (margin : ℚ) (old : LegacyModel) : Migrate ℤ :=
  match effectiveReservedBytes old.reservedBytes (some margin) with
  | .ok reserved => pure reserved
  | .error _ => raise

def migrateModel (margin : ℚ) (modelId : ModelId) (old : LegacyModel) (entry : Json) :
    Migrate Members := do
  let path := "models." ++ modelId
  let envelope ← migrateEnvelope entry path
  checkParallel envelope path old
  let assets ← migrateAssets entry path old
  let (measured, measurementRef, physicalPeak) ← migrateMeasured entry path
  let runtimeId ← need entry "runtime_id" path
  let timeoutSeconds ← need entry "timeout_seconds" path
  let reserved ← reservedOf margin old
  pure [("model_id", .str modelId), ("runtime_id", runtimeId),
    ("capabilities", .arr (old.capabilities.map .str)), ("assets", .arr assets),
    ("port", .int (old.port.getD 0)), ("envelope", .obj envelope),
    ("timeout_seconds", timeoutSeconds), ("reserved_bytes", .int reserved),
    ("measured", .bool measured), ("measurement_ref", measurementRef),
    ("physical_resident_peak_bytes", physicalPeak)]

/-- What the loop of `_migrate_models` adds for a model. -/
structure Migrated where
  modelId : ModelId
  old : LegacyModel
  document : Members

def migrateEntry (margin : ℚ) (inventory : Json) (model : ModelId × LegacyModel) :
    Migrate (Option Migrated) :=
  match field inventory model.1 with
  | .null => do
    note (.missing ("models." ++ model.1))
    pure none
  | entry => do
    let document ← migrateModel margin model.1 model.2 entry
    pure (some ⟨model.1, model.2, document⟩)

/-- `sorted(legacy.models)`. -/
def sortedModels (legacy : LegacyConfig) : List (ModelId × LegacyModel) :=
  legacy.models.entries.insertionSort fun a b => a.1 ≤ b.1

def migrateModels (legacy : LegacyConfig) (inventory : Json) : Migrate (List Migrated) := do
  let models ← (sortedModels legacy).mapM' (migrateEntry legacy.resourceSafetyMargin inventory)
  pure models.reduceOption

/-! ### The document -/

/-- The settings that the accounting does not read: the rest of the scheduler's, and the other
sections, which are made of the v1 file and of the inventory. -/
structure Settings where
  scheduler : Members
  sections : Json → Migrate Members
  accepts : Members → Registration.DeploymentSpec → Bool

def idsWhere (models : List Migrated) (role : LegacyModel → Bool) : Json :=
  .arr ((models.filter (role ·.old)).map (.str ·.modelId))

def migrateDocument (settings : Settings) (legacy : LegacyConfig) (inventory : Json) :
    Migrate Members := do
  let inventoryModels := mappingOrNone (field inventory "models")
  let _ ← ((inventoryModels.map Prod.fst).insertionSort (· ≤ ·)).mapM' fun modelId =>
    if legacy.models.contains modelId then pure ⟨⟩ else note (.conflict ("models." ++ modelId))
  let models ← migrateModels legacy (.obj inventoryModels)
  let referenced ← referencedRuntimes (models.map (·.document))
  let runtimes ← migrateRuntimes referenced (.obj (mappingOrNone (field inventory "runtimes")))
  let sections ← settings.sections inventory
  pure ([("schema_version", .int 2),
    ("registration", .obj [("runtimes", .arr (runtimes.map .obj)),
      ("models", .arr (models.map (.obj ·.document)))]),
    ("scheduler", .obj ([("pinned_models", idsWhere models (·.pinned)),
      ("preload_models", idsWhere models (·.preload))] ++ settings.scheduler))] ++ sections)

/-! ### The schema-2 configuration -/

/-- `AppConfigV2`. -/
structure ConfigV2 where
  deployment : Registration.DeploymentSpec
  pinnedModels : List ModelId
  preloadModels : List ModelId

/-- `_strict`. -/
def strict (value : Json) (required optional : List String) : Option Members :=
  match value with
  | .obj members =>
    if (∀ key ∈ members.map Prod.fst, key ∈ required ++ optional) ∧
        ∀ key ∈ required, key ∈ members.map Prod.fst then some members
    else none
  | _ => none

/-- `_model_id_list`: registered ids, none of them twice. -/
def modelIdList (registered : List ModelId) : List Json → List ModelId → Option (List ModelId)
  | [], done => some done
  | .str modelId :: items, done =>
    if modelId ≠ "" ∧ modelId ∈ registered ∧ modelId ∉ done then
      modelIdList registered items (done ++ [modelId])
    else none
  | _ :: _, _ => none

/-- A list of model ids of the scheduler's section, empty by default. -/
def schedulerIds (scheduler : Members) (key : String) (registered : List ModelId) :
    Option (List ModelId) :=
  match (scheduler.lookup key).getD (.arr []) with
  | .arr items => modelIdList registered items []
  | _ => none

def parseV2Config (settings : Settings) (raw : Json) : Option ConfigV2 := do
  let data ← strict raw ["schema_version", "registration", "server", "scheduler", "resources",
    "storage", "gateway", "control", "blobs"] ["candidate_sha256"]
  let registration ← strict (field raw "registration") ["runtimes", "models"] []
  let deployment ←
    (Registration.parseDeployment (.obj (("schema_version", .int 2) :: registration))).toOption
  let registered := deployment.models.map (·.modelId.1)
  let scheduler := mappingOrNone (field raw "scheduler")
  let pinned ← schedulerIds scheduler "pinned_models" registered
  let preload ← schedulerIds scheduler "preload_models" registered
  guard (pinned ⊆ preload)
  guard (settings.accepts data deployment)
  pure ⟨deployment, pinned, preload⟩

/-- `migrate_v2`, without its files: the document that it writes, if it writes one. -/
def migrateV2 (settings : Settings) (legacy : LegacyConfig) (inventory : Json) : Option Json :=
  match inventory with
  | .obj _ => match (migrateDocument settings legacy inventory).run with
    | some (document, []) =>
      if (parseV2Config settings (.obj document)).isSome then some (.obj document) else none
    | _ => none
  | _ => none

/-! ### The books -/

/-- A registration, as the book reads it. -/
def registered (model : Registration.ModelSpec) : Registration :=
  .v2 { modelId := model.modelId.1, maxParallel := model.envelope.maxParallel,
        reservedBytes := model.reservedBytes,
        physicalResidentPeakBytes := model.physicalResidentPeakBytes }

/-- `ledger_specs_from`, of a registration. -/
def ledgerSpecsFrom (deployment : Registration.DeploymentSpec) :
    Except Exc (Dict ModelId Registration) :=
  let models : Dict ModelId Registration :=
    deployment.models.foldl (fun d model => d.set model.modelId.1 (registered model)) Dict.empty
  if models.size ≠ deployment.models.length then
    .error (.valueError "the registration declares duplicate model ids")
  else if ∀ model ∈ deployment.models, model.runtimeId ∈ deployment.runtimes.map (·.runtimeId) then
    .ok models
  else .error (.valueError "models reference unknown runtimes")

end ModelSwitch.Migration

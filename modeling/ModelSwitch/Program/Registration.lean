import ModelSwitch.Lib.Json

/-!
# Schema-2 registrations

The strict parsers of `contracts_v2.py`: runtimes, models with their assets and envelope, and the
deployment they make up. A refusal says where it was found and what the problem is; the wording of
a problem is left out where its kind, its key and its value determine it.
-/

namespace ModelSwitch.Registration

open Py

/-! ### Refusals -/

/-- A part of `where`. Below a model whose id was read, `where` names that model only. -/
inductive Step
  | root (name : String)
  | field (name : String)
  | item (name : String) (index : ℕ)
  | model (id : String)
  deriving DecidableEq

inductive Problem
  | notObject
  | unknownFields (names : List String)
  | required (key : String)
  | notText (key : String)
  | hasNul (key : String)
  | notInteger (key : String)
  | notNumber (key : String)
  | notBoolean (key : String)
  | notList (key : String)
  | notSha256 (key : String)
  | below (key : String) (minimum : ℤ)
  | above (key : String) (maximum : ℤ)
  /-- No `ContractError`: `float` raises an `OverflowError`, which the parsers let out. -/
  | overflow (key : String)
  | empty (key : String)
  | invalid (key : String) (value : Option String)
  | duplicate (what : String) (value : String)
  /-- A rule between several fields, by its text. -/
  | rule (text : String)
  deriving DecidableEq

/-- `ContractError`. -/
structure ContractError where
  path : List Step
  problem : Problem
  deriving DecidableEq

abbrev Check := Except ContractError

variable {α : Type}

def refuse (problem : Problem) : Check α := .error ⟨[], problem⟩

/-- `x` with `where` continued by `step`. -/
def under (step : Step) (x : Check α) : Check α :=
  x.mapError fun e => { e with path := step :: e.path }

def require (condition : Bool) (problem : Problem) : Check Unit :=
  if condition then pure () else refuse problem

/-- The loops of the parsers: read an item below its index, check it against those before it. -/
def collect (read : ℕ → Json → Check α) (check : List α → α → Check Unit) :
    List Json → List α → Check (List α)
  | [], done => pure done
  | item :: items, done => do
    let a ← read done.length item
    check done a
    collect read check items (done ++ [a])

/-- `parse` below the index of an item. -/
def itemOf (key : String) (parse : Json → Check α) (index : ℕ) (item : Json) : Check α :=
  under (.item key index) (parse item)

/-! ### Strict values -/

def isAlnum (c : Char) : Bool := inRange 'a' 'z' c ∨ inRange '0' '9' c

/-- `_ID_RE`. -/
def isId (text : String) : Bool :=
  text.toList.length ≤ 63 ∧ text.toList.head?.any isAlnum ∧ text.toList.getLast?.any isAlnum ∧
    text.toList.all fun c => isAlnum c ∨ c ∈ ['.', '_', '-']

abbrev OpaqueId := { text : String // isId text = true }

instance : LawfulBEq OpaqueId := inferInstance

abbrev Sha256 := { text : String // isHexDigest text = true }

def mapping : Json → Check Members
  | .obj members => pure members
  | _ => refuse .notObject

def exactKeys (data : Members) (allowed : List String) : Check Unit :=
  let unknown := (data.map Prod.fst).filter (· ∉ allowed)
  require (unknown = []) (.unknownFields (unknown.insertionSort (· ≤ ·)))

/-- `_mapping`, then `_exact_keys`. -/
def object (value : Json) (allowed : List String) : Check Members := do
  let data ← mapping value
  exactKeys data allowed
  pure data

def str (data : Members) (key : String) : Check String :=
  match data.lookup key with
  | some (.str text) => if text = "" then refuse (.notText key) else pure text
  | _ => refuse (.notText key)

def idOf (key text : String) : Check OpaqueId :=
  if h : isId text = true then pure ⟨text, h⟩ else refuse (.invalid key text)

def sha256Of (key : String) : Option Json → Check Sha256
  | some (.str text) =>
    if h : isHexDigest text = true then pure ⟨text, h⟩ else refuse (.notSha256 key)
  | _ => refuse (.notSha256 key)

/-- `_int`. -/
def int (data : Members) (key : String) (minimum maximum : Option ℤ) : Check ℤ :=
  match data.lookup key with
  | some (.int value) => do
    minimum.forM fun low => require (low ≤ value) (.below key low)
    maximum.forM fun high => require (value ≤ high) (.above key high)
    pure value
  | _ => refuse (.notInteger key)

def sequence (data : Members) (key : String) : Check (List Json) :=
  match data.lookup key with
  | some (.arr items) => pure items
  | _ => refuse (.notList key)

/-- `_nullable_sha256` and `_nullable_positive_int`, by what reads a value that is not null. -/
def nullable (read : Json → Check α) (data : Members) (key : String) : Check (Option α) :=
  match data.lookup key with
  | none => refuse (.required key)
  | some .null => pure none
  | some value => some <$> read value

/-- `_positive_int`. -/
def positive (key : String) : Json → Check ℤ
  | .int value => if 0 < value then pure value else refuse (.notInteger key)
  | _ => refuse (.notInteger key)

scoped instance lawfulBEqText : LawfulBEq (List Char) := inferInstance

/-- The rules of `_safe_relative_path` for a text. -/
def safeRelativePath (key text : String) : Check String := do
  require (text.toList.all fun c => 0x20 ≤ c.toNat ∧ c.toNat ≠ 0x7F) (.invalid key text)
  require (text.toList.head? ≠ some '/' ∧ '\\' ∉ text.toList) (.invalid key text)
  require ((text.toList.splitOn '/').all (· ∉ [[], ['.'], ['.', '.']])) (.invalid key text)
  pure text

/-! ### Profiles and capabilities -/

inductive Role
  | model
  | projector
  | tokenizer
  | config
  | auxiliary
  deriving DecidableEq

def Role.all : List (String × Role) :=
  [("model", .model), ("projector", .projector), ("tokenizer", .tokenizer), ("config", .config),
    ("auxiliary", .auxiliary)]

inductive Capability
  | chat
  | vision
  | embeddings
  | rerank
  deriving DecidableEq

namespace Capability

def all : List (String × Capability) :=
  [("chat", chat), ("vision", vision), ("embeddings", embeddings), ("rerank", rerank)]

def name : Capability → String
  | chat => "chat"
  | vision => "vision"
  | embeddings => "embeddings"
  | rerank => "rerank"

def requiredAssetRoles : Capability → List Role
  | vision => [.model, .projector]
  | _ => [.model]

end Capability

def allowedStartupFlags : List String :=
  ["--parallel", "--kv-unified-per-slot", "--image-max-tokens", "--n-gpu-layers", "--flash-attn",
    "--load-mode", "--no-warmup", "--no-webui", "--host", "--port", "--ctx-size", "--batch-size",
    "--ubatch-size", "--threads"]

inductive Profile
  | gguf
  | hfSharded
  deriving DecidableEq

namespace Profile

/-- `PROFILES`, by id. -/
def all : List (String × Profile) := [("llama-cpp-gguf-v1", gguf), ("hf-sharded-v1", hfSharded)]

/-- The least and the greatest number of files of a role, in the order of the role's names. -/
def roleCardinality : Profile → List (Role × ℕ × Option ℕ)
  | gguf => [(.model, 1, some 1), (.projector, 0, some 1)]
  | hfSharded => [(.config, 0, some 1), (.model, 1, none), (.tokenizer, 0, some 1)]

def allowedFlags : Profile → List String
  | gguf => allowedStartupFlags
  | hfSharded => ["--host", "--port", "--threads"]

end Profile

/-! ### Registrations -/

structure AssetRef where
  role : Role
  path : String
  sha256 : Sha256
  sizeBytes : ℤ
  deriving DecidableEq

structure RuntimeSpec where
  runtimeId : OpaqueId
  profile : Profile
  imageDigest : String
  adapterSha256 : Sha256
  lockSha256 : Sha256
  startupArgs : List String
  deriving DecidableEq

structure Envelope where
  ctxSize : ℤ
  maxInputTokens : ℤ
  maxOutputTokens : ℤ
  maxParallel : ℤ
  maxImageTokens : ℤ
  maxImageEdgePixels : ℤ
  maxImages : ℤ
  deriving DecidableEq

structure ModelSpec where
  modelId : OpaqueId
  runtimeId : OpaqueId
  capabilities : List Capability
  assets : List AssetRef
  port : ℤ
  envelope : Envelope
  timeoutSeconds : ℤ
  reservedBytes : ℤ
  measured : Bool
  measurementRef : Option Sha256
  physicalResidentPeakBytes : Option ℤ
  deriving DecidableEq

structure DeploymentSpec where
  runtimes : List RuntimeSpec
  models : List ModelSpec
  deriving DecidableEq

def parseAssetRef (value : Json) : Check AssetRef := do
  let data ← object value ["role", "path", "sha256", "size_bytes"]
  let role ← str data "role"
  match Role.all.lookup role with
  | none => refuse (.invalid "role" role)
  | some role =>
    let path ← str data "path"
    let path ← safeRelativePath "path" path
    let sha256 ← sha256Of "sha256" (data.lookup "sha256")
    let sizeBytes ← int data "size_bytes" (some 1) none
    pure ⟨role, path, sha256, sizeBytes⟩

/-- `_IMAGE_DIGEST_RE`: a name without blanks, `@sha256:` and a digest. -/
def isImageDigest (text : String) : Bool :=
  match text.toList.splitOn '@' with
  | [name, digest] => name ≠ [] ∧ name.all (!isSpace ·) ∧ digest.take 7 = "sha256:".toList ∧
      isHexDigest (String.ofList (digest.drop 7))
  | _ => false

/-- `_FLAG_RE`. -/
def isFlag (text : String) : Bool :=
  match text.toList with
  | '-' :: '-' :: first :: rest =>
    inRange 'a' 'z' first ∧ rest.all fun c => isAlnum c ∨ c = '-'
  | _ => false

def parseFlag (profile : Profile) : Json → Check String
  | .str flag => do
    require (isFlag flag) (.invalid "startup_args" flag)
    require (flag ∈ allowedStartupFlags) (.invalid "startup_args" flag)
    require (flag ∈ profile.allowedFlags) (.invalid "startup_args" flag)
    pure flag
  | _ => refuse (.invalid "startup_args" none)

def parseStartupArgs (data : Members) (profile : Profile) : Check (List String) := do
  let items ← sequence data "startup_args"
  collect (fun _ => parseFlag profile)
    (fun done flag => require (flag ∉ done) (.duplicate "startup arg" flag)) items []

def parseRuntimeSpec (value : Json) : Check RuntimeSpec := do
  let data ← object value
    ["runtime_id", "profile_id", "image_digest", "adapter_sha256", "lock_sha256", "startup_args"]
  let runtimeId ← str data "runtime_id" >>= idOf "runtime_id"
  let profileId ← str data "profile_id"
  match Profile.all.lookup profileId with
  | none => refuse (.invalid "profile_id" profileId)
  | some profile =>
    let imageDigest ← str data "image_digest"
    require (isImageDigest imageDigest) (.invalid "image_digest" imageDigest)
    let adapterSha256 ← sha256Of "adapter_sha256" (data.lookup "adapter_sha256")
    let lockSha256 ← sha256Of "lock_sha256" (data.lookup "lock_sha256")
    let startupArgs ← parseStartupArgs data profile
    pure ⟨runtimeId, profile, imageDigest, adapterSha256, lockSha256, startupArgs⟩

def parseEnvelope (value : Json) : Check Envelope := do
  let data ← object value ["ctx_size", "max_input_tokens", "max_output_tokens", "max_parallel",
    "max_image_tokens", "max_image_edge_pixels", "max_images"]
  let ctxSize ← int data "ctx_size" (some 512) none
  let maxInput ← int data "max_input_tokens" (some 1) none
  let maxOutput ← int data "max_output_tokens" (some 1) none
  let maxParallel ← int data "max_parallel" (some 1) (some 64)
  let imageTokens ← int data "max_image_tokens" (some 0) none
  let imageEdge ← int data "max_image_edge_pixels" (some 0) none
  let maxImages ← int data "max_images" (some 0) none
  require (maxInput + maxOutput ≤ ctxSize)
    (.rule "max_input_tokens + max_output_tokens exceeds ctx_size")
  require (imageTokens < maxInput)
    (.rule "max_image_tokens must be smaller than max_input_tokens")
  require (imageTokens = 0 ↔ imageEdge = 0)
    (.rule "max_image_tokens and max_image_edge_pixels must both be zero or both be set")
  require (0 < maxImages ↔ 0 < imageTokens)
    (.rule "max_images must be positive exactly when max_image_tokens is")
  require (imageEdge = 0 ∨ 28 ≤ imageEdge) (.rule "max_image_edge_pixels is too small")
  pure ⟨ctxSize, maxInput, maxOutput, maxParallel, imageTokens, imageEdge, maxImages⟩

def parseCapability : Json → Check Capability
  | .str text => match Capability.all.lookup text with
    | some capability => pure capability
    | none => refuse (.invalid "capabilities" text)
  | _ => refuse (.invalid "capabilities" none)

def parseCapabilities (data : Members) : Check (List Capability) := do
  let items ← sequence data "capabilities"
  require (!items.isEmpty) (.empty "capabilities")
  collect (fun _ => parseCapability)
    (fun done capability => require (capability ∉ done) (.duplicate "capability" capability.name))
    items []

def parseAssets (data : Members) (capabilities : List Capability) : Check (List AssetRef) := do
  let items ← sequence data "assets"
  require (!items.isEmpty) (.empty "assets")
  let assets ← collect (itemOf "assets" parseAssetRef)
    (fun done asset =>
      require (asset.path ∉ done.map (·.path)) (.duplicate "asset path" asset.path))
    items []
  require (∀ role ∈ capabilities.flatMap (·.requiredAssetRoles), role ∈ assets.map (·.role))
    (.rule "capabilities require missing asset roles")
  pure assets

/-- `parse_model_spec` once the id is read. -/
def parseModelBody (data : Members) (modelId : OpaqueId) : Check ModelSpec := do
  let runtimeId ← str data "runtime_id" >>= idOf "runtime_id"
  let capabilities ← parseCapabilities data
  let assets ← parseAssets data capabilities
  let port ← int data "port" (some 10001) (some 19999)
  let envelope ← under (.field "envelope") (parseEnvelope ((data.lookup "envelope").getD .null))
  let timeoutSeconds ← int data "timeout_seconds" (some 1) (some 86400)
  let reservedBytes ← int data "reserved_bytes" (some 1) none
  let measured ← match data.lookup "measured" with
    | some (.bool measured) => pure measured
    | _ => refuse (.notBoolean "measured")
  let measurementRef ← nullable (sha256Of "measurement_ref" ∘ some) data "measurement_ref"
  let physicalPeak ← nullable (positive "physical_resident_peak_bytes") data
    "physical_resident_peak_bytes"
  require (!measured ∨ measurementRef.isSome ∧ physicalPeak.isSome)
    (.rule "measured models must bind measurement_ref and physical_resident_peak_bytes")
  require (measured ∨ measurementRef.isNone ∧ physicalPeak.isNone)
    (.rule "measurement_ref and physical_resident_peak_bytes require measured=true")
  if .vision ∈ capabilities then
    require (0 < envelope.maxImageTokens)
      (.rule "vision capability requires a positive max_image_tokens")
    require (0 < envelope.maxImages) (.rule "vision capability requires max_images >= 1")
  else
    require (envelope.maxImages = 0) (.rule "max_images must be 0 without the vision capability")
  pure ⟨modelId, runtimeId, capabilities, assets, port, envelope, timeoutSeconds, reservedBytes,
    measured, measurementRef, physicalPeak⟩

def parseModelSpec (value : Json) : Check ModelSpec := do
  let data ← object value ["model_id", "runtime_id", "capabilities", "assets", "port", "envelope",
    "timeout_seconds", "reserved_bytes", "measured", "measurement_ref",
    "physical_resident_peak_bytes"]
  let modelId ← str data "model_id" >>= idOf "model_id"
  under (.model modelId) (parseModelBody data modelId)

def countRole (model : ModelSpec) (role : Role) : ℕ := (model.assets.map (·.role)).count role

def validateModelAgainstProfile (model : ModelSpec) (profile : Profile) : Check Unit := do
  require (model.assets.all fun asset => asset.role ∈ profile.roleCardinality.map Prod.fst)
    (.rule "the profile does not allow an asset role")
  profile.roleCardinality.forM fun (role, least, most) => do
    require (least ≤ countRole model role) (.rule "the profile requires more assets of a role")
    most.forM fun most => require (countRole model role ≤ most)
      (.rule "the profile allows fewer assets of a role")
  require (countRole model .projector = 0 ∨ .vision ∈ model.capabilities)
    (.rule "a projector asset requires the vision capability")

/-- The checks of `parse_deployment` on a runtime, after those before it. -/
def admitRuntime (done : List RuntimeSpec) (runtime : RuntimeSpec) : Check Unit :=
  require (runtime.runtimeId ∉ done.map (·.runtimeId)) (.duplicate "runtime_id" runtime.runtimeId)

/-- The checks of `parse_deployment` on a model, after those before it. -/
def admitModel (runtimes : List RuntimeSpec) (done : List ModelSpec) (model : ModelSpec) :
    Check Unit := do
  require (model.modelId ∉ done.map (·.modelId)) (.duplicate "model_id" model.modelId)
  require (model.port ∉ done.map (·.port)) (.duplicate "port" (toString model.port))
  match runtimes.find? (·.runtimeId = model.runtimeId) with
  | none => refuse (.invalid "runtime_id" (some model.runtimeId.1))
  | some runtime =>
    under (.item "models" done.length) (validateModelAgainstProfile model runtime.profile)

def parseDeployment (value : Json) : Check DeploymentSpec := under (.root "deployment") do
  let data ← object value ["schema_version", "runtimes", "models"]
  let version ← int data "schema_version" none none
  require (version = 2) (.rule "unsupported schema_version, expected 2")
  let runtimesRaw ← sequence data "runtimes"
  require (!runtimesRaw.isEmpty) (.empty "runtimes")
  let runtimes ← collect (itemOf "runtimes" parseRuntimeSpec) admitRuntime runtimesRaw []
  let modelsRaw ← sequence data "models"
  require (!modelsRaw.isEmpty) (.empty "models")
  let models ← collect (itemOf "models" parseModelSpec) (admitModel runtimes) modelsRaw []
  pure ⟨runtimes, models⟩

end ModelSwitch.Registration

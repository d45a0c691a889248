import ModelSwitch.Program.Evidence
import ModelSwitch.Program.Launch

/-!
# Rendered deployments and their preflight

`render_v3` of `deploy.py`, and the identity check and the first layer of `preflight_v3.py`. Digests
of canonical JSON and the reading of a timestamp are parameters. A file is given by what reading it
comes to. The manifest is the document that `manifest.json` holds: its members are looked up by key,
so their order in the file does not matter.
-/

namespace ModelSwitch.Registration.Preflight

open Py Evidence

/-- SHA-256 of canonical JSON: of a candidate with finite numbers, of a device, and of an identity
block. -/
structure Digests where
  candidate : CandidateV3 → Sha256
  device : DeviceFact → Sha256
  block : Json → Sha256

/-- `data.get(key)`. -/
def get (data : Members) (key : String) : Json := (data.lookup key).getD .null

/-! ### The identity of a manifest -/

/-- `PreflightError`. -/
structure PreflightError where
  message : String
  layer : String
  exitCode : ℤ

abbrev Checked := Except PreflightError

def identityCheck (condition : Bool) (message : String) (exitCode : ℤ) : Checked Unit :=
  if condition then .ok () else .error ⟨message, "identity", exitCode⟩

def identityFields : List String :=
  ["schema_version", "mode", "deployment_id", "candidate_sha256", "source_archive_sha256",
    "config_sha256", "device_digest"]

def modelsOf (manifest : Members) : Members :=
  match get manifest "models" with
  | .obj models => models.insertionSort fun a b => a.1 ≤ b.1
  | _ => []

def identityBlock (manifest : Members) : Json :=
  .obj (identityFields.map (fun field => (field, get manifest field)) ++
    [("models", .obj ((modelsOf manifest).filterMap fun
      | (modelId, .obj entry) => some (modelId, .obj [
          ("container_name", get entry "container_name"),
          ("image_digest", get entry "image_digest")])
      | _ => none))])

/-- A character of the name in `_IMAGE`. -/
def isImageChar (c : Char) : Bool :=
  inRange 'A' 'Z' c ∨ isAlnum c ∨ c ∈ ['.', '_', '/', ':', '@', '-']

/-- `_IMAGE`: a digest, possibly after a name and an `@`. -/
def isPinnedImage (text : String) : Bool :=
  let name := text.toList.take (text.toList.length - 71)
  let digest := text.toList.drop (text.toList.length - 71)
  digest.take 7 = "sha256:".toList ∧ isHexDigest (String.ofList (digest.drop 7)) ∧
    (name = [] ∨ name.head?.any (fun c => inRange 'A' 'Z' c ∨ isAlnum c) ∧
      name.tail.all isImageChar ∧ name.tail.getLast? = some '@')

def isText (accepts : String → Bool) : Json → Bool
  | .str text => accepts text
  | _ => false

def checkEntry (deploymentId : String) (entry : String × Json) : Checked Unit :=
  match entry.2 with
  | .obj members => do
    identityCheck (isText isPinnedImage (get members "image_digest"))
      ("model " ++ entry.1 ++ " carries no pinned image digest") 2
    identityCheck (isText (· = "sms-" ++ deploymentId ++ "-" ++ entry.1)
      (get members "container_name")) ("model " ++ entry.1 ++ " has an invalid container name") 2
  | _ => identityCheck false ("model " ++ entry.1 ++ " has no launch entry") 2

def requireManifestIdentity (digests : Digests) (manifest : Members) : Checked Unit := do
  identityCheck (get manifest "schema_version" matches .int 3)
    "the manifest must be schema version 3" 2
  identityCheck (isText (· ∈ ["production", "lab"]) (get manifest "mode"))
    "the manifest mode must be one of production, lab" 2
  ["candidate_sha256", "source_archive_sha256", "config_sha256", "device_digest"].forM fun field =>
    identityCheck (isText isHexDigest (get manifest field))
      ("the manifest identity field " ++ field ++ " is missing or malformed") 2
  match get manifest "deployment_id" with
  | .str deploymentId => do
    identityCheck (Launch.isDeploymentId deploymentId)
      "the manifest identity field deployment_id is missing or malformed" 2
    identityCheck (!(modelsOf manifest).isEmpty) "the manifest carries no models" 2
    (modelsOf manifest).forM (checkEntry deploymentId)
    identityCheck (isText (· = (digests.block (identityBlock manifest)).1)
      (get manifest "identity_sha256"))
      "the manifest identity digest does not match its content: the file was edited" 3
  | _ => identityCheck false "the manifest identity field deployment_id is missing or malformed" 2

/-! ### The site -/

/-- The live site: its scalar facts, the images that are present, and the size and digest of each
model file. -/
structure Site where
  fact : String → Json
  hasImage : String → Bool
  modelFile : String → Option (Json × Json)

/-- `a == b`, for the texts and integers that are compared here. -/
def same : Json → Json → Bool
  | .str a, .str b => a = b
  | .int a, .int b => a = b
  | _, _ => false

def deviceFields : List String :=
  ["machine_id_sha256", "architecture", "device_tree_sha256", "mem_total_bytes", "kernel_release",
    "model_disk_uuid", "scratch_disk_uuid"]

def problemUnless (condition : Bool) (problem : String) : List String :=
  if condition then [] else [problem]

def assetProblems (site : Site) (modelId : String) : Json → List String
  | .obj asset =>
    match get asset "path" with
    | .str path => match site.modelFile path with
      | none => ["model " ++ modelId ++ ": asset " ++ path ++ " is missing from the site listing"]
      | some (size, sha256) =>
        problemUnless (same size (get asset "size_bytes") ∧ same sha256 (get asset "sha256"))
          ("model " ++ modelId ++ ": asset " ++ path ++ " size/hash differs on this site")
    | _ => ["model " ++ modelId ++ ": an asset is missing from the site listing"]
  | _ => []

def modelProblems (site : Site) (entry : String × Json) : List String :=
  match entry.2 with
  | .obj members =>
    problemUnless (isText site.hasImage (get members "image_digest"))
      ("model " ++ entry.1 ++ ": the image is not present on this site") ++
    match get members "assets" with
    | .arr assets => assets.flatMap (assetProblems site entry.1)
    | _ => []
  | _ => []

def deviceProblems (site : Site) : Json → List String
  | .obj device => deviceFields.flatMap fun field =>
    problemUnless (same (get device field) (site.fact field))
      ("the live site " ++ field ++ " does not match the manifest")
  | _ => ["the manifest carries no device facts"]

/-- The validity window; a text that is no timestamp is refused. -/
def evidenceProblems (utc : Json → Option ℚ) (now : ℚ) : Json → Checked (List String)
  | .obj evidence => match utc (get evidence "started_at") with
    | none => .error ⟨"evidence.started_at: not a valid timestamp", "environment", 2⟩
    | some started => .ok (
      problemUnless (started ≤ now + 300)
        "the evidence starts in the future beyond the allowed tolerance" ++
      problemUnless (now - started < 7 * 86400)
        "the evidence is expired: a deployment cannot refresh its window")
  | _ => .ok ["the manifest carries no evidence reference"]

/-- The problems of `verify_environment`, which answers ok if there are none. A rendered manifest
names no filesystem and has no force flag. -/
def verifyEnvironment (digests : Digests) (utc : Json → Option ℚ) (manifest : Members) (site : Site)
    (now : ℚ) : Checked (List String) := do
  requireManifestIdentity digests manifest
  let evidence ← evidenceProblems utc now (get manifest "evidence")
  .ok (
    problemUnless (isText (· = "production") (get manifest "mode"))
      "a lab manifest is not a production deployment" ++
    deviceProblems site (get manifest "device") ++
    problemUnless (same (get manifest "config_sha256") (site.fact "config_sha256"))
      "the live config digest does not match the manifest" ++
    problemUnless (same (get manifest "source_archive_sha256") (site.fact "source_archive_sha256"))
      "the live source archive digest does not match the manifest" ++
    (modelsOf manifest).flatMap (modelProblems site) ++ evidence)

/-! ### The render -/

/-- What reading a JSON file comes to; `undecodable` is a text that is not UTF-8, or that
`json.loads` refuses otherwise than with a `JSONDecodeError`. -/
inductive Reading
  | osError
  | undecodable
  | notJson
  | document (value : Json)

inductive Target
  | absent
  | directory (empty : Bool)
  | file

/-- What a verified report says of its run. -/
structure EvidenceRef where
  runId : String
  startedAt : String
  endedAt : String
  reportSha256 : Sha256

inductive Verification
  | refused (code : ℤ)
  | raises
  | verified (evidence : EvidenceRef)

/-- The arguments of `render_v3`, with what its reads and its writes come to. -/
structure Request where
  mode : String
  candidate : Reading
  target : Target
  evidence : Option Verification
  modelDirectory : String
  containerRuntime : String
  temporaryBudgetBytes : Option ℤ
  writable : Bool

/-- What `render_v3` raises; all but the first come from the calls that it makes. -/
inductive Failure
  | deployError (message : String)
  | launchRenderError (refusal : Launch.Refusal)
  | undecodable
  | overflowError
  | valueError
  | notADirectoryError
  | verification
  | osError

abbrev Rendering := Except Failure

def readCandidate : Reading → Rendering CandidateV3
  | .document value => match parseCandidate value with
    | .ok candidate => .ok candidate
    | .error ⟨_, .overflow _⟩ => .error .overflowError
    | .error _ => .error (.deployError "cannot read the candidate")
  | .undecodable => .error .undecodable
  | _ => .error (.deployError "cannot read the candidate")

def checkTarget : Target → Rendering Unit
  | .directory false => .error (.deployError "refusing to render into a non-empty directory")
  | .file => .error .notADirectoryError
  | _ => .ok ()

/-- The evidence of a production render; a lab render has a budget instead. -/
def checkEvidence (request : Request) : Rendering (Option EvidenceRef) :=
  if request.mode = "production" then
    match request.evidence with
    | none => .error (.deployError "a production render requires --evidence")
    | some (.refused _) => .error (.deployError "the evidence does not verify offline")
    | some .raises => .error .verification
    | some (.verified evidence) => .ok (some evidence)
  else if request.temporaryBudgetBytes.any (0 < ·) then .ok none
  else .error (.deployError "a lab render requires an explicit --temporary-budget-bytes")

def argumentsOf (request : Request) (candidate : CandidateV3) : Launch.Arguments where
  deploymentId := candidate.deploymentId
  modelDirectory := request.modelDirectory
  configSha256 := candidate.configSha256
  mode := request.mode
  containerRuntime := request.containerRuntime
  temporaryBudgetBytes := request.temporaryBudgetBytes

def launchOf (request : Request) (candidate : CandidateV3) (model : ModelSpec) :
    Launch.Render Launch.ContainerLaunch :=
  Launch.renderContainerLaunch ⟨candidate.runtimes, candidate.models⟩ model.modelId
    (argumentsOf request candidate)

def roleName (role : Role) : String := ((Role.all.find? (·.2 = role)).map Prod.fst).getD ""

def assetDocument (asset : AssetRef) : Json :=
  .obj [("role", .str (roleName asset.role)), ("path", .str asset.path),
    ("sha256", .str asset.sha256), ("size_bytes", .int asset.sizeBytes)]

def entryOf (model : ModelSpec) (launch : Launch.ContainerLaunch) : String × Json :=
  (model.modelId, .obj [("container_name", .str launch.containerName),
    ("image_digest", .str launch.imageDigest), ("runtime_id", .str launch.runtimeId),
    ("profile_id", .str launch.profileId), ("port", .int launch.port),
    ("argv", .arr (launch.argv.map .str)),
    ("labels", .obj (launch.labels.map fun p => (p.1, .str p.2))),
    ("assets", .arr (model.assets.map assetDocument))])

def renderModel (request : Request) (candidate : CandidateV3) (model : ModelSpec) :
    Rendering (String × Json) :=
  match launchOf request candidate model with
  | .ok launch => .ok (entryOf model launch)
  | .error refusal => .error (.launchRenderError refusal)

def deviceDocument (device : DeviceFact) : Members :=
  [("machine_id_sha256", .str device.machineIdSha256), ("architecture", .str device.architecture),
    ("device_tree_sha256", .str device.deviceTreeSha256),
    ("mem_total_bytes", .int device.memTotalBytes), ("os_release", .str device.osRelease),
    ("kernel_release", .str device.kernelRelease), ("gpu_identity", .str device.gpuIdentity),
    ("jetpack_release", .str device.jetpackRelease),
    ("container_runtime_version", .str device.containerRuntimeVersion),
    ("power_mode", .str device.powerMode), ("clock_mode", .str device.clockMode),
    ("model_disk_uuid", .str device.modelDiskUuid),
    ("scratch_disk_uuid", .str device.scratchDiskUuid)]

def evidenceDocument : Option EvidenceRef → Json
  | none => .null
  | some evidence => .obj [("run_id", .str evidence.runId), ("started_at", .str evidence.startedAt),
      ("ended_at", .str evidence.endedAt), ("report_sha256", .str evidence.reportSha256)]

/-- The numbers of a candidate, which are the limits of its policy. -/
def numbersOf (candidate : CandidateV3) : List Decimal :=
  let operational := candidate.policy.operational
  candidate.policy.performance.flatMap (fun entry => [entry.coldStartSecondsMax,
    entry.inferMillisecondsP95Max, entry.inferMillisecondsP99Max, entry.maxInputMillisecondsMax]) ++
  [operational.arrivalGapSecondsMax, operational.sendDeviationMillisecondsMax,
    operational.errorRateMax, operational.queueFullRateMax, operational.timeoutRateMax]

def hasFiniteNumbers (candidate : CandidateV3) : Bool :=
  (numbersOf candidate).all (· matches .finite _)

/-- `candidate_digest`: canonical JSON has no `NaN` and no infinity. -/
def candidateDigest (digests : Digests) (candidate : CandidateV3) : Rendering Sha256 :=
  if hasFiniteNumbers candidate then .ok (digests.candidate candidate) else .error .valueError

/-- The manifest, with its identity still to be added. -/
def manifestOf (digests : Digests) (request : Request) (candidate : CandidateV3)
    (candidateSha256 : Sha256) (evidence : Option EvidenceRef) (models : Members) : Members :=
  [("schema_version", .int 3), ("mode", .str request.mode),
    ("production", .bool (request.mode = "production")),
    ("deployment_id", .str candidate.deploymentId),
    ("candidate_sha256", .str candidateSha256),
    ("source_archive_sha256", .str candidate.sourceArchiveSha256),
    ("config_sha256", .str candidate.configSha256),
    ("device_digest", .str (digests.device candidate.device)),
    ("device", .obj (deviceDocument candidate.device)),
    ("runtime_stack", .obj [("cuda_version", .str candidate.runtimeStack.cudaVersion),
      ("compute_capability", .str candidate.runtimeStack.computeCapability),
      ("python_version", .str candidate.runtimeStack.pythonVersion)]),
    ("model_directory", .str request.modelDirectory),
    ("container_prefix", .str ("sms-" ++ candidate.deploymentId)), ("models", .obj models),
    ("evidence", evidenceDocument evidence)]

def identified (digests : Digests) (manifest : Members) : Members :=
  manifest ++ [("identity_sha256", .str (digests.block (identityBlock manifest)))]

/-- `render_v3`, with the manifest that it writes. Nothing is written before the last step. -/
def renderV3 (digests : Digests) (request : Request) : Rendering Members := do
  if request.mode ∉ ["production", "lab"] then
    .error (.deployError "the render mode must be production or lab")
  let candidate ← readCandidate request.candidate
  checkTarget request.target
  let evidence ← checkEvidence request
  let models ← candidate.models.mapM (renderModel request candidate)
  let candidateSha256 ← candidateDigest digests candidate
  if request.writable then
    .ok (identified digests (manifestOf digests request candidate candidateSha256 evidence models))
  else .error .osError

end ModelSwitch.Registration.Preflight

import ModelSwitch.Program.Registration

/-!
# Container launches

`render_container_launch` of `runtime_profiles.py`: the argv of one registered model, built from its
registration, its profile's rules and the arguments of the render. A refusal carries the values that
its message names.
-/

namespace ModelSwitch.Registration.Launch

open Py

/-! ### Launch rules -/

/-- Where a flag takes its value from: a constant, none for a switch, or a field of the envelope. -/
inductive FlagValue
  | fixed (value : Option String)
  | envelope (field : Envelope → ℤ)

structure FlagSource where
  value : FlagValue
  requiresCapability : Option Capability := none

/-- The sources in the order in which flags are rendered. -/
structure LaunchRules where
  flagSources : List (String × FlagSource)
  requiredFlags : List String

def ggufLaunchRules : LaunchRules where
  flagSources := [
    ("--parallel", ⟨.envelope (·.maxParallel), none⟩),
    ("--kv-unified-per-slot", ⟨.envelope (·.ctxSize), none⟩),
    ("--ctx-size", ⟨.envelope (·.ctxSize), none⟩),
    ("--image-max-tokens", ⟨.envelope (·.maxImageTokens), some .vision⟩),
    ("--n-gpu-layers", ⟨.fixed (some "99"), none⟩),
    ("--flash-attn", ⟨.fixed (some "auto"), none⟩),
    ("--no-warmup", ⟨.fixed none, none⟩),
    ("--no-webui", ⟨.fixed none, none⟩),
    ("--load-mode", ⟨.fixed (some "auto"), none⟩),
    ("--host", ⟨.fixed (some "0.0.0.0"), none⟩),
    ("--port", ⟨.fixed (some "8080"), none⟩)]
  requiredFlags := ["--host", "--port", "--parallel", "--kv-unified-per-slot"]

/-- `CAPABILITY_FLAGS`. -/
def capabilityFlags : Capability → List String
  | .chat => []
  | .vision => ["--image-max-tokens"]
  | .embeddings => ["--embedding", "--pooling"]
  | .rerank => ["--embedding", "--pooling"]

/-- `LAUNCH_RULES`. -/
def launchRules : Profile → Option LaunchRules
  | .gguf => some ggufLaunchRules
  | .hfSharded => none

def executable : Profile → Bool
  | .gguf => true
  | .hfSharded => false

def profileId : Profile → String
  | .gguf => "llama-cpp-gguf-v1"
  | .hfSharded => "hf-sharded-v1"

/-! ### Refusals -/

/-- `LaunchRenderError`. -/
inductive Refusal
  | mode
  | productionBudget
  | labBudget
  | deploymentId (value : String)
  | configSha256
  | modelDirectory
  | containerRuntime (value : String)
  | unknownModel (modelId : String)
  | unknownRuntime (modelId runtimeId : String)
  | notStartable (runtimeId profileId : String)
  | notMeasured (modelId : String)
  | noRules (profileId : String)
  | noSource (flag : String)
  | noSourceFor (flag modelId : String)
  | missing (flags : List String) (runtimeId modelId : String)
  | needsCapability (flag : String) (capability : Capability) (modelId : String)
  | modelAssets (modelId : String)
  | projectors (modelId : String)
  | noProjector (modelId : String)
  | assetPath (path : String)
  | serverArgument (token : String)
  | entrypoint
  | gpus
  | mounts
  | socket

abbrev Render := Except Refusal

def require (condition : Bool) (refusal : Refusal) : Render Unit :=
  if condition then .ok () else .error refusal

/-! ### Arguments -/

/-- `[a-z0-9]`, then at most 63 characters of a class. -/
def isName (rest : Char → Bool) (text : String) : Bool :=
  match text.toList with
  | [] => false
  | c :: cs => isAlnum c ∧ cs.length ≤ 63 ∧ cs.all rest

/-- `_DEPLOYMENT_RE`. -/
def isDeploymentId : String → Bool := isName fun c => isAlnum c ∨ c = '-'

/-- `_CONTAINER_RUNTIME_RE`. -/
def isContainerRuntime : String → Bool := isName fun c => isAlnum c ∨ c ∈ ['_', '.', '-']

/-- `_model_directory`. -/
def isModelDirectory (text : String) : Bool :=
  text.toList.head? = some '/' ∧ text ≠ "/" ∧ ['.', '.'] ∉ text.toList.splitOn '/' ∧
    ',' ∉ text.toList ∧ Char.ofNat 0 ∉ text.toList

structure Arguments where
  deploymentId : String
  modelDirectory : String
  configSha256 : String
  mode : String
  containerRuntime : String
  temporaryBudgetBytes : Option ℤ := none

/-- `_lookup`. A dictionary keeps the last of two entries with one key. -/
def lookup (registration : DeploymentSpec) (modelId : String) : Render (ModelSpec × RuntimeSpec) :=
  match registration.models.reverse.find? (·.modelId.1 = modelId) with
  | none => .error (.unknownModel modelId)
  | some model =>
    match registration.runtimes.reverse.find? (·.runtimeId = model.runtimeId) with
    | none => .error (.unknownRuntime modelId model.runtimeId)
    | some runtime => .ok (model, runtime)

/-! ### Server arguments -/

/-- The tokens of an enabled flag. -/
def flagTokens (envelope : Envelope) (flag : String) : FlagValue → List String
  | .fixed none => [flag]
  | .fixed (some value) => [flag, value]
  | .envelope field => [flag, toString (field envelope)]

def renderSources (model : ModelSpec) (runtime : RuntimeSpec) :
    List (String × FlagSource) → Render (List String)
  | [] => .ok []
  | (flag, source) :: sources =>
    if flag ∉ runtime.startupArgs then renderSources model runtime sources
    else match source.requiresCapability.filter (· ∉ model.capabilities) with
      | some capability => .error (.needsCapability flag capability model.modelId)
      | none => (renderSources model runtime sources).map
          (flagTokens model.envelope flag source.value ++ ·)

/-- `_render_flags`. -/
def renderFlags (model : ModelSpec) (runtime : RuntimeSpec) (rules : LaunchRules) :
    Render (List String) := do
  let known := rules.flagSources.map Prod.fst
  match runtime.startupArgs.find? (· ∉ known) with
  | some flag => .error (.noSource flag)
  | none =>
    let required := (rules.requiredFlags ++ model.capabilities.flatMap capabilityFlags).eraseDups
    match required.find? (· ∉ known) with
    | some flag => .error (.noSourceFor flag model.modelId)
    | none =>
      let missing := required.filter (· ∉ runtime.startupArgs)
      require (missing = []) (.missing missing runtime.runtimeId model.modelId)
      renderSources model runtime rules.flagSources

def assetsOf (model : ModelSpec) (role : Role) : List AssetRef :=
  model.assets.filter (·.role = role)

def containerPath (path : String) : Render String := do
  require (path.toList.head? ≠ some '/' ∧
    (path.toList.splitOn '/').all (· ∉ [[], ['.'], ['.', '.']])) (.assetPath path)
  .ok ("/models/" ++ path)

/-- `_asset_arguments`. -/
def assetArguments (model : ModelSpec) : Render (List String) :=
  match assetsOf model .model, assetsOf model .projector with
  | [file], [] => do
    require (.vision ∉ model.capabilities) (.noProjector model.modelId)
    .ok ["--model", ← containerPath file.path]
  | [file], [projector] => do
    .ok ["--model", ← containerPath file.path, "--mmproj", ← containerPath projector.path]
  | [_], _ => .error (.projectors model.modelId)
  | _, _ => .error (.modelAssets model.modelId)

def isSwitch (rules : LaunchRules) (token : String) : Bool :=
  rules.flagSources.any fun p => p.1 = token ∧ p.2.value matches .fixed none

def isValued (rules : LaunchRules) (token : String) : Bool :=
  rules.flagSources.any fun p => p.1 = token ∧ ¬ p.2.value matches .fixed none

/-- `_assert_server_arguments`. -/
def assertServerArguments (rules : LaunchRules) : List String → Render Unit
  | [] => .ok ()
  | [token] =>
    require (token ∈ ["--model", "--mmproj"] ∨ isSwitch rules token ∨ isValued rules token)
      (.serverArgument token)
  | token :: next :: tokens =>
    if token ∈ ["--model", "--mmproj"] then assertServerArguments rules tokens
    else if isSwitch rules token then assertServerArguments rules (next :: tokens)
    else if isValued rules token then assertServerArguments rules tokens
    else .error (.serverArgument token)

/-! ### The launch -/

/-- What follows each `--mount`. -/
def mountsOf (argv : List String) : List String :=
  (argv.zip argv.tail).filterMap fun p => if p.1 = "--mount" then some p.2 else none

/-- `_assert_no_host_escape`. -/
def assertNoHostEscape (argv : List String) (mount : String) : Render Unit := do
  require ("--entrypoint" ∉ argv ∧ "--privileged" ∉ argv) .entrypoint
  require (argv.all fun token => token ≠ "--gpus" ∧ ¬ "--gpus=".toList <+: token.toList) .gpus
  require (mountsOf argv = [mount]) .mounts
  require (argv.all fun token => ¬ "docker.sock".toList <:+: token.toList) .socket

structure ContainerLaunch where
  argv : List String
  serverArgs : List String
  labels : List (String × String)
  containerName : String
  deploymentId : String
  modelId : OpaqueId
  runtimeId : OpaqueId
  profileId : String
  imageDigest : String
  port : ℤ
  mode : String
  configSha256 : String
  modelDirectory : String
  containerRuntime : String

def labelsOf (args : Arguments) (model : ModelSpec) (runtime : RuntimeSpec) :
    List (String × String) :=
  [("io.self-model-switch.deployment", args.deploymentId),
    ("io.self-model-switch.runtime", runtime.runtimeId),
    ("io.self-model-switch.profile", profileId runtime.profile),
    ("io.self-model-switch.model", model.modelId),
    ("io.self-model-switch.mode", args.mode),
    ("io.self-model-switch.config-sha256", args.configSha256)]

def mountOf (directory : String) : String :=
  "type=bind,src=" ++ directory ++ ",dst=/models,readonly"

def argvOf (args : Arguments) (model : ModelSpec) (runtime : RuntimeSpec)
    (serverArgs : List String) : List String :=
  ["docker", "run", "--name", "sms-" ++ args.deploymentId ++ "-" ++ model.modelId, "--init", "--rm",
    "--restart=no", "--runtime=" ++ args.containerRuntime] ++
  ((labelsOf args model runtime).flatMap fun p => ["--label", p.1 ++ "=" ++ p.2]) ++
  ["--publish", "127.0.0.1:" ++ toString model.port ++ ":8080", "--mount",
    mountOf args.modelDirectory, runtime.imageDigest] ++ serverArgs

def checkBudget (args : Arguments) : Render Unit :=
  if args.mode = "production" then require args.temporaryBudgetBytes.isNone .productionBudget
  else require (args.temporaryBudgetBytes.any (0 < ·)) .labBudget

/-- `require_startable_profile`, and for production `require_production_openable`. -/
def checkOpenable (args : Arguments) (model : ModelSpec) (runtime : RuntimeSpec) : Render Unit := do
  require (executable runtime.profile)
    (.notStartable runtime.runtimeId (profileId runtime.profile))
  require (args.mode ≠ "production" ∨ model.measured ∧ model.measurementRef.isSome ∧
    model.physicalResidentPeakBytes.isSome) (.notMeasured model.modelId)

def renderContainerLaunch (registration : DeploymentSpec) (modelId : String) (args : Arguments) :
    Render ContainerLaunch := do
  require (args.mode ∈ ["lab", "production"]) .mode
  checkBudget args
  require (isDeploymentId args.deploymentId) (.deploymentId args.deploymentId)
  require (isHexDigest args.configSha256) .configSha256
  require (isModelDirectory args.modelDirectory) .modelDirectory
  require (isContainerRuntime args.containerRuntime) (.containerRuntime args.containerRuntime)
  let (model, runtime) ← lookup registration modelId
  checkOpenable args model runtime
  match launchRules runtime.profile with
  | none => .error (.noRules (profileId runtime.profile))
  | some rules =>
    let flags ← renderFlags model runtime rules
    let assets ← assetArguments model
    assertServerArguments rules (assets ++ flags)
    let argv := argvOf args model runtime (assets ++ flags)
    assertNoHostEscape argv (mountOf args.modelDirectory)
    .ok {
      argv := argv
      serverArgs := assets ++ flags
      labels := labelsOf args model runtime
      containerName := "sms-" ++ args.deploymentId ++ "-" ++ model.modelId
      deploymentId := args.deploymentId
      modelId := model.modelId
      runtimeId := runtime.runtimeId
      profileId := profileId runtime.profile
      imageDigest := runtime.imageDigest
      port := model.port
      mode := args.mode
      configSha256 := args.configSha256
      modelDirectory := args.modelDirectory
      containerRuntime := args.containerRuntime }

end ModelSwitch.Registration.Launch

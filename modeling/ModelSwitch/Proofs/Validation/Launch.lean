import ModelSwitch.Lib.Argv
import ModelSwitch.Program.Launch
import ModelSwitch.Proofs.Validation.Registration

/-!
# A launch and its profile

A rendered argv is read as `docker run` reads it. It stays within its profile exactly if the image
reference of the registration is not itself read as an option: the pattern of a reference excludes
blanks and a second `@`, but not a dash at its start.
-/

namespace ModelSwitch.Registration.Launch

open Py

/-! ### What a render has passed -/

@[simp]
lemma require_eq_ok {condition : Bool} {refusal : Refusal} {u : Unit} :
    require condition refusal = .ok u ↔ condition = true := by
  cases condition <;> simp [require]

/-- The registration and the arguments behind a launch. -/
structure Rendered (registration : DeploymentSpec) (modelId : String) (args : Arguments)
    (launch : ContainerLaunch) (model : ModelSpec) (runtime : RuntimeSpec) (rules : LaunchRules)
    (assets flags : List String) : Prop where
  found : lookup registration modelId = .ok (model, runtime)
  deployment : isDeploymentId args.deploymentId = true
  directory : isModelDirectory args.modelDirectory = true
  hasRules : launchRules runtime.profile = some rules
  renders : renderFlags model runtime rules = .ok flags
  mounts : assetArguments model = .ok assets
  argv : launch.argv = argvOf args model runtime (assets ++ flags)
  image : launch.imageDigest = runtime.imageDigest
  name : launch.containerName = "sms-" ++ args.deploymentId ++ "-" ++ model.modelId

variable {registration : DeploymentSpec} {modelId : String} {args : Arguments}
  {launch : ContainerLaunch} {model : ModelSpec} {runtime : RuntimeSpec} {rules : LaunchRules}
  {assets flags : List String}

lemma rendered_of_ok (h : renderContainerLaunch registration modelId args = .ok launch) :
    ∃ model runtime rules assets flags,
      Rendered registration modelId args launch model runtime rules assets flags := by
  simp only [renderContainerLaunch, bind_eq_ok, require_eq_ok] at h
  obtain ⟨-, -, -, -, -, hdeployment, -, -, -, hdirectory, -, -, ⟨model, runtime⟩, hfound, -, -,
    h⟩ := h
  cases hrules : launchRules runtime.profile with
  | none => simp [hrules] at h
  | some rules =>
    simp only [hrules, bind_eq_ok] at h
    obtain ⟨flags, hflags, assets, hassets, -, -, -, -, h⟩ := h
    cases h
    exact ⟨model, runtime, rules, assets, flags, hfound, hdeployment, hdirectory, hrules, hflags,
      hassets, rfl, rfl, rfl⟩

/-! ### Server arguments -/

/-- A path below the mounted directory. -/
def Inside (path : String) : Prop :=
  ∃ relative : String, path = "/models/" ++ relative ∧
    ∀ part ∈ relative.toList.splitOn '/', part ∉ [[], ['.'], ['.', '.']]

/-- The arguments that a profile allows: model files below the mounted directory, and enabled flags
with the values of the profile. -/
inductive Served (model : ModelSpec) (runtime : RuntimeSpec) (rules : LaunchRules) :
    List String → Prop
  | nil : Served model runtime rules []
  | asset {flag path : String} {rest : List String} (hflag : flag ∈ ["--model", "--mmproj"])
      (hpath : Inside path) (hrest : Served model runtime rules rest) :
      Served model runtime rules (flag :: path :: rest)
  | flag {name : String} {source : FlagSource} {rest : List String}
      (hsource : (name, source) ∈ rules.flagSources) (henabled : name ∈ runtime.startupArgs)
      (hrest : Served model runtime rules rest) :
      Served model runtime rules (flagTokens model.envelope name source.value ++ rest)

lemma renderSources_served {sources : List (String × FlagSource)}
    (hsub : ∀ p ∈ sources, p ∈ rules.flagSources)
    (h : renderSources model runtime sources = .ok flags) : Served model runtime rules flags := by
  induction sources generalizing flags with
  | nil =>
    cases h
    exact .nil
  | cons p sources ih =>
    obtain ⟨name, source⟩ := p
    have hsub' : ∀ p ∈ sources, p ∈ rules.flagSources :=
      fun p hp => hsub p (List.mem_cons_of_mem _ hp)
    simp only [renderSources] at h
    split_ifs at h with henabled
    · split at h
      · cases h
      · obtain ⟨rest, hrest, rfl⟩ := map_eq_ok.mp h
        exact .flag (hsub _ (List.mem_cons_self ..)) henabled (ih hsub' hrest)
    · exact ih hsub' h

lemma renderFlags_served (h : renderFlags model runtime rules = .ok flags) :
    Served model runtime rules flags := by
  simp only [renderFlags] at h
  split at h
  · cases h
  · split at h
    · cases h
    · simp only [bind_eq_ok] at h
      obtain ⟨-, -, h⟩ := h
      exact renderSources_served (fun _ hp => hp) h

lemma containerPath_inside {path out : String} (h : containerPath path = .ok out) : Inside out := by
  simp only [containerPath, bind_eq_ok, require_eq_ok, decide_eq_true_eq, List.all_eq_true] at h
  obtain ⟨-, ⟨-, hparts⟩, h⟩ := h
  cases h
  exact ⟨path, rfl, hparts⟩

lemma assetArguments_served (h : assetArguments model = .ok assets)
    (hflags : Served model runtime rules flags) : Served model runtime rules (assets ++ flags) := by
  simp only [assetArguments] at h
  split at h
  · simp only [bind_eq_ok] at h
    obtain ⟨-, -, path, hpath, h⟩ := h
    cases h
    exact .asset (by simp) (containerPath_inside hpath) hflags
  · simp only [bind_eq_ok] at h
    obtain ⟨path, hpath, path', hpath', h⟩ := h
    cases h
    exact .asset (by simp) (containerPath_inside hpath)
      (.asset (by simp) (containerPath_inside hpath') hflags)
  · cases h
  · cases h

/-! ### The argv -/

/-- The options of `docker run` that take no value. -/
def runSwitches : List String :=
  ["--init", "--rm", "-d", "--detach", "-i", "--interactive", "-t", "--tty", "-P", "--publish-all",
    "--privileged", "--read-only", "--no-healthcheck", "--oom-kill-disable", "--sig-proxy",
    "--disable-content-trust", "-q", "--quiet"]

/-- The options that a launch may have. -/
inductive Permitted (directory : String) : String × Option String → Prop
  | name (value : String) : Permitted directory ("--name", some value)
  | init : Permitted directory ("--init", none)
  | rm : Permitted directory ("--rm", none)
  | restart : Permitted directory ("--restart", some "no")
  | runtime (value : String) : Permitted directory ("--runtime", some value)
  | label (value : String) : Permitted directory ("--label", some value)
  | publish (ports : String) : Permitted directory ("--publish", some ("127.0.0.1:" ++ ports))
  | mount : Permitted directory ("--mount", some (mountOf directory))

/-- The options of a launch. -/
def optionsOf (args : Arguments) (model : ModelSpec) (runtime : RuntimeSpec) :
    List (String × Option String) :=
  [("--name", some ("sms-" ++ args.deploymentId ++ "-" ++ model.modelId)), ("--init", none),
    ("--rm", none), ("--restart", some "no"), ("--runtime", some args.containerRuntime)] ++
  (labelsOf args model runtime).map (fun p => ("--label", some (p.1 ++ "=" ++ p.2))) ++
  [("--publish", some ("127.0.0.1:" ++ toString model.port ++ ":8080")),
    ("--mount", some (mountOf args.modelDirectory))]

/-- How `docker run` reads its tokens. -/
def readRun : List String → Option Argv.Reading := Argv.read (· ∈ runSwitches)

def dockerRun : List String → Option Argv.Reading
  | "docker" :: "run" :: tokens => readRun tokens
  | _ => none

section

variable {tokens : List String} {r : Argv.Reading} {next : String}

lemma readRun_valued (name value : String)
    (hname : name ∈ ["--name", "--label", "--publish", "--mount"])
    (h : readRun tokens = some r) :
    readRun (name :: value :: tokens) = some (r.push (name, some value)) := by
  simp only [List.mem_cons, List.not_mem_nil, or_false] at hname
  rcases hname with rfl | rfl | rfl | rfl <;>
    exact Argv.read_valued (by decide) (by decide) (by decide) h

lemma readRun_switch (name : String) (hname : name ∈ ["--init", "--rm"])
    (h : readRun (next :: tokens) = some r) :
    readRun (name :: next :: tokens) = some (r.push (name, none)) := by
  simp only [List.mem_cons, List.not_mem_nil, or_false] at hname
  rcases hname with rfl | rfl <;> exact Argv.read_switch (by decide) (by decide) h

lemma readRun_restart (h : readRun (next :: tokens) = some r) :
    readRun ("--restart=no" :: next :: tokens) = some (r.push ("--restart", some "no")) :=
  Argv.read_switch (by decide) (by decide) h

lemma readRun_runtime (value : String) (h : readRun (next :: tokens) = some r) :
    readRun (("--runtime=" ++ value) :: next :: tokens) =
      some (r.push ("--runtime", some value)) := by
  have hlist : ("--runtime=" ++ value).toList = "--runtime=".toList ++ value.toList :=
    String.toList_append
  have hcut : Argv.cut ("--runtime=" ++ value).toList =
      ("--runtime".toList, some value.toList) := by
    rw [hlist]
    rfl
  have hname : Argv.nameOf ("--runtime=" ++ value) = "--runtime" := by
    rw [Argv.nameOf, hcut, String.ofList_toList]
  have hvalue : Argv.valueOf ("--runtime=" ++ value) = some value := by
    rw [Argv.valueOf, hcut, Option.map_some, String.ofList_toList]
  have hoption : Argv.isOption ("--runtime=" ++ value) = true := by
    rw [Argv.isOption, hlist]
    rfl
  rw [← hname, ← hvalue]
  exact Argv.read_switch hoption (.inl (by rw [hvalue]; rfl)) h

/-- The labels, in front of anything that is read. -/
lemma readRun_labels {options : List (String × Option String)} {first : String}
    {rest : List String} (labels : List (String × String))
    (h : readRun tokens = some ⟨options, first, rest⟩) :
    readRun ((labels.flatMap fun p => ["--label", p.1 ++ "=" ++ p.2]) ++ tokens) =
      some ⟨(labels.map fun p => ("--label", some (p.1 ++ "=" ++ p.2))) ++ options,
        first, rest⟩ := by
  induction labels with
  | nil => exact h
  | cons p labels ih => exact readRun_valued _ _ (by simp) ih

end

/-- An image that is no option ends the options. -/
lemma dockerRun_argvOf {serverArgs : List String}
    (himage : Argv.isOption runtime.imageDigest = false) :
    dockerRun (argvOf args model runtime serverArgs) =
      some ⟨optionsOf args model runtime, runtime.imageDigest, serverArgs⟩ := by
  have hfirst : readRun (runtime.imageDigest :: serverArgs) =
      some ⟨[], runtime.imageDigest, serverArgs⟩ := Argv.read_first himage
  have hpublish := readRun_valued "--publish" ("127.0.0.1:" ++ toString model.port ++ ":8080")
    (by simp) (readRun_valued "--mount" (mountOf args.modelDirectory) (by simp) hfirst)
  have hlabels := readRun_labels (labelsOf args model runtime) hpublish
  have hruntime := readRun_restart (readRun_runtime args.containerRuntime hlabels)
  have hswitches := readRun_switch "--init" (by simp) (readRun_switch "--rm" (by simp) hruntime)
  exact readRun_valued "--name" ("sms-" ++ args.deploymentId ++ "-" ++ model.modelId) (by simp)
    hswitches

/-! ### Confinement -/

/-- The launch, as `docker run` reads it, stays within its profile: the registered image, the
permitted options with one mount among them, and the arguments of the profile. A directory without a
comma is one field of its mount. -/
def Confined (registration : DeploymentSpec) (modelId : String) (args : Arguments)
    (launch : ContainerLaunch) : Prop :=
  ∃ model runtime rules reading, lookup registration modelId = .ok (model, runtime) ∧
    launchRules runtime.profile = some rules ∧ dockerRun launch.argv = some reading ∧
    reading.first = runtime.imageDigest ∧
    (∀ option ∈ reading.options, Permitted args.modelDirectory option) ∧
    reading.options.countP (·.1 = "--mount") = 1 ∧ ',' ∉ args.modelDirectory.toList ∧
    Served model runtime rules reading.rest

lemma optionsOf_permitted (args : Arguments) (model : ModelSpec) (runtime : RuntimeSpec) :
    ∀ option ∈ optionsOf args model runtime, Permitted args.modelDirectory option := by
  intro option hoption
  simp only [optionsOf, List.mem_append, List.mem_cons, List.not_mem_nil, or_false,
    List.mem_map] at hoption
  rcases hoption with ((rfl | rfl | rfl | rfl | rfl) | ⟨p, -, rfl⟩) | rfl | rfl
  · exact .name _
  · exact .init
  · exact .rm
  · exact .restart
  · exact .runtime _
  · exact .label _
  · rw [String.append_assoc]
    exact .publish _
  · exact .mount

lemma Confined.image (h : Confined registration modelId args launch)
    (hfound : lookup registration modelId = .ok (model, runtime)) :
    runtime.imageDigest.toList.head? ≠ some '-' := by
  obtain ⟨model', runtime', rules, reading, hfound', -, hread, hfirst, -⟩ := h
  cases hfound.symm.trans hfound'
  have hoption : Argv.isOption reading.first = false := by
    simp only [dockerRun] at hread
    split at hread
    · exact Argv.isOption_first hread
    · cases hread
  simpa [hfirst, Argv.isOption] using hoption

lemma Rendered.confined
    (h : Rendered registration modelId args launch model runtime rules assets flags)
    (himage : runtime.imageDigest.toList.head? ≠ some '-') :
    Confined registration modelId args launch := by
  have hread := @dockerRun_argvOf args model runtime (assets ++ flags)
    (by simpa [Argv.isOption] using himage)
  have hcomma : ',' ∉ args.modelDirectory.toList := by
    have hdirectory := h.directory
    simp only [isModelDirectory, decide_eq_true_eq] at hdirectory
    exact hdirectory.2.2.2.1
  exact ⟨model, runtime, rules, _, h.found, h.hasRules, h.argv ▸ hread, rfl,
    optionsOf_permitted args model runtime, by rfl, hcomma,
    assetArguments_served h.mounts (renderFlags_served h.renders)⟩

/-- **When a launch cannot escape its profile**: exactly if the image reference of the model's
runtime does not begin with a dash. -/
theorem render_confined_iff (registration : DeploymentSpec) (modelId : String) (args : Arguments)
    (launch : ContainerLaunch) (h : renderContainerLaunch registration modelId args = .ok launch) :
    Confined registration modelId args launch ↔
      ∀ model runtime, lookup registration modelId = .ok (model, runtime) →
        runtime.imageDigest.toList.head? ≠ some '-' := by
  obtain ⟨model, runtime, rules, assets, flags, hrendered⟩ := rendered_of_ok h
  constructor
  · intro hconfined model' runtime' hfound
    exact hconfined.image hfound
  · intro himage
    exact hrendered.confined (himage model runtime hrendered.found)

/-! ### A small launch -/

/-- A deployment of one model with everything that a launch needs. -/
def launchable (image : String) : Json :=
  .obj [("schema_version", .int 2),
    ("runtimes", .arr [.obj [("runtime_id", .str "llama"), ("profile_id", .str "llama-cpp-gguf-v1"),
      ("image_digest", .str image), ("adapter_sha256", sampleSha256), ("lock_sha256", sampleSha256),
      ("startup_args", .arr (ggufLaunchRules.requiredFlags.map .str))]]),
    ("models", .arr [sampleModel ("chat", 10001)])]

/-- The registration that it is parsed to. -/
def launched (image : String) : DeploymentSpec where
  runtimes := [⟨⟨"llama", by decide⟩, .gguf, image, sampleDigest, sampleDigest,
    ggufLaunchRules.requiredFlags⟩]
  models := [⟨⟨"chat", by decide⟩, ⟨"llama", by decide⟩, [.chat],
    [⟨.model, "model.gguf", sampleDigest, 1⟩], 10001, ⟨512, 256, 256, 1, 0, 0, 0⟩, 60, 1, false,
    none, none⟩]

def labArguments : Arguments :=
  { deploymentId := "lab", modelDirectory := "/srv/models", configSha256 := sampleDigest,
    mode := "lab", containerRuntime := "nvidia", temporaryBudgetBytes := some 1 }

lemma exists_launch {image : String}
    (h : (renderContainerLaunch (launched image) "chat" labArguments).toOption.isSome = true) :
    ∃ launch, renderContainerLaunch (launched image) "chat" labArguments = .ok launch := by
  cases hlaunch : renderContainerLaunch (launched image) "chat" labArguments with
  | error e => simp [hlaunch, Except.toOption] at h
  | ok launch => exact ⟨launch, rfl⟩

lemma lookup_launched {image : String} {model : ModelSpec} {runtime : RuntimeSpec}
    (h : lookup (launched image) "chat" = .ok (model, runtime)) : runtime.imageDigest = image := by
  cases h
  rfl

def plainImage : String := "llama@sha256:" ++ sampleDigest

theorem render_confined_iff_lab : ∃ launch,
    renderContainerLaunch (launched plainImage) "chat" labArguments = .ok launch ∧
      Confined (launched plainImage) "chat" labArguments launch := by
  obtain ⟨launch, hlaunch⟩ := @exists_launch plainImage (by decide +kernel)
  refine ⟨launch, hlaunch, (render_confined_iff _ _ _ launch hlaunch).mpr ?_⟩
  intro model runtime hfound
  rw [lookup_launched hfound]
  decide +kernel

/-- A reference that `docker run` reads as an option to mount the root directory of the host. -/
def volumeImage : String := "--volume=/:/host@sha256:" ++ sampleDigest

theorem render_not_confined : ∃ launch,
    parseDeployment (launchable volumeImage) = .ok (launched volumeImage) ∧
      renderContainerLaunch (launched volumeImage) "chat" labArguments = .ok launch ∧
      ¬ Confined (launched volumeImage) "chat" labArguments launch := by
  obtain ⟨launch, hlaunch⟩ := @exists_launch volumeImage (by decide +kernel)
  refine ⟨launch, by decide +kernel, hlaunch, fun hconfined => ?_⟩
  have hfound : lookup (launched volumeImage) "chat" = .ok (_, _) := rfl
  exact hconfined.image hfound (by decide +kernel)

end ModelSwitch.Registration.Launch

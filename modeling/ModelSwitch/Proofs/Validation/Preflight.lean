import ModelSwitch.Program.Preflight
import ModelSwitch.Proofs.Validation.Launch

/-!
# A rendered manifest and its preflight

What `render_v3` writes passes its own preflight, except that the preflight has a narrower pattern
for images than the candidate. Whatever stops a render is a `DeployError`, except what its calls
raise: the launch renderer above all, which refuses deployments that a candidate may have.
-/

namespace ModelSwitch.Registration.Preflight

open Py Evidence

variable {digests : Digests} {utc : Json → Option ℚ} {request : Request} {candidate : CandidateV3}
  {evidence : Option EvidenceRef} {models : Members} {model : ModelSpec}
  {launch : Launch.ContainerLaunch} {site : Site} {now : ℚ}

/-- The manifest of a render. -/
def written (digests : Digests) (request : Request) (candidate : CandidateV3)
    (evidence : Option EvidenceRef) (models : Members) : Members :=
  identified digests
    (manifestOf digests request candidate (digests.candidate candidate) evidence models)

/-- A site whose facts, images, files and digests are the candidate's. -/
structure Matches (site : Site) (candidate : CandidateV3) : Prop where
  device : ∀ fact ∈ deviceDocument candidate.device, site.fact fact.1 = fact.2
  config : site.fact "config_sha256" = .str candidate.configSha256
  source : site.fact "source_archive_sha256" = .str candidate.sourceArchiveSha256
  images : ∀ runtime ∈ candidate.runtimes, site.hasImage runtime.imageDigest = true
  files : ∀ model ∈ candidate.models, ∀ asset ∈ model.assets,
    site.modelFile asset.path = some (.int asset.sizeBytes, .str asset.sha256)

/-- The evidence is within its validity window. -/
def InWindow (utc : Json → Option ℚ) (evidence : EvidenceRef) (now : ℚ) : Prop :=
  ∃ started, utc (.str evidence.startedAt) = some started ∧ started ≤ now + 300 ∧
    now - started < 7 * 86400

/-- What a render should come to: a manifest that passes its own preflight, or a `DeployError` with
nothing written. -/
def Sound (digests : Digests) (utc : Json → Option ℚ) (request : Request) : Prop :=
  match renderV3 digests request with
  | .error failure => ∃ message, failure = .deployError message
  | .ok manifest => requireManifestIdentity digests manifest = .ok () ∧
      ∀ candidate evidence site now, readCandidate request.candidate = .ok candidate →
        checkEvidence request = .ok (some evidence) → Matches site candidate →
        InWindow utc evidence now → verifyEnvironment digests utc manifest site now = .ok []

-- a registry with an IPv6 address
example : isImageDigest ("[::1]:5000/llama@sha256:" ++ sampleDigest) = true ∧
    isPinnedImage ("[::1]:5000/llama@sha256:" ++ sampleDigest) = false := by
  decide +kernel

end ModelSwitch.Registration.Preflight

/-
  Build results: `build_result::succeeded` and `build_result::failed` (`result.cpp`).

  A result is one record with four optional members.  WHICH of them are present, and which of the
  two record layouts its identity was computed from, is decided by the outcome:

  * `succeeded` — payload, artifact and binding, hashed by `successRecord`;
  * `failed`    — failure evidence, hashed by `failureRecord`.

  Both layouts open with the same domain text.  The two factories are the only constructors, so
  `BuildResult` carries the alternative it is (`shape`), and every result is one a factory returned
  (`BuildResult.built`).
-/
import Pkgbuild.Manifest
import Pkgbuild.Request

namespace Pkgbuild

open Checked

variable {P : Platform}

/-! ## Records -/

/-- What `binding_id` writes. -/
def bindingRecord (request : BuildRequest P) (payload : PayloadManifest P.sha256)
    (artifact : SealedArtifact P.sha256) : IdentityWriter :=
  let writer := IdentityWriter.new.text (literal "libpkgbuild/artifact-binding/1")
  let writer := writer.text request.identity.text
  let writer := writer.text payload.identity.text
  let writer := writer.text artifact.identity.text
  writer.text artifact.completeDigest.text

/-- `binding_id`: the digest of the binding record. -/
def bindingId (request : BuildRequest P) (payload : PayloadManifest P.sha256)
    (artifact : SealedArtifact P.sha256) : Except Error ArtifactBindingIdentity :=
  Identity.fromSha256 _ ((bindingRecord request payload artifact).finish P.sha256)

/-- What `success_id` writes. -/
def successRecord (request : BuildRequest P) (payload : PayloadManifest P.sha256)
    (artifact : SealedArtifact P.sha256) (binding : ArtifactBindingIdentity)
    (execution : ExecutionEvidenceIdentity) : IdentityWriter :=
  let writer := IdentityWriter.new.text (literal "libpkgbuild/build-result/1")
  let writer := writer.text BuildOutcome.succeeded.toText
  let writer := writer.text request.identity.text
  let writer := writer.text payload.identity.text
  let writer := writer.text artifact.identity.text
  let writer := writer.text binding.text
  writer.text execution.text

/-- `success_id`: the digest of the record of a success. -/
def successId (request : BuildRequest P) (payload : PayloadManifest P.sha256)
    (artifact : SealedArtifact P.sha256) (binding : ArtifactBindingIdentity)
    (execution : ExecutionEvidenceIdentity) : Except Error BuildResultIdentity :=
  Identity.fromSha256 _
    ((successRecord request payload artifact binding execution).finish P.sha256)

/-- What `failure_id` writes. -/
def failureRecord (request : BuildRequest P) (execution : ExecutionEvidenceIdentity)
    (failure : FailureEvidenceIdentity) : IdentityWriter :=
  let writer := IdentityWriter.new.text (literal "libpkgbuild/build-result/1")
  let writer := writer.text BuildOutcome.failed.toText
  let writer := writer.text request.identity.text
  let writer := writer.text execution.text
  writer.text failure.text

/-- `failure_id`: the digest of the record of a failure. -/
def failureId (request : BuildRequest P) (execution : ExecutionEvidenceIdentity)
    (failure : FailureEvidenceIdentity) : Except Error BuildResultIdentity :=
  Identity.fromSha256 _ ((failureRecord request execution failure).finish P.sha256)

/-! ## Results -/

/-- The members a result of an outcome has, and how they are tied together. -/
def ResultShape (request : BuildRequest P) (execution : ExecutionEvidenceIdentity)
    (payload : Option (PayloadManifest P.sha256)) (artifact : Option (SealedArtifact P.sha256))
    (binding : Option ArtifactBindingIdentity) (failure : Option FailureEvidenceIdentity)
    (identity : BuildResultIdentity) : BuildOutcome → Prop
  | .succeeded => ∃ manifest sealedArtifact artifactBinding,
      payload = some manifest ∧ artifact = some sealedArtifact ∧
        binding = some artifactBinding ∧ failure = none ∧
        bindingId request manifest sealedArtifact = .ok artifactBinding ∧
        successId request manifest sealedArtifact artifactBinding execution = .ok identity
  | .failed => ∃ evidence, payload = none ∧ artifact = none ∧ binding = none ∧
      failure = some evidence ∧ failureId request execution evidence = .ok identity

/-- `build_result`. -/
structure BuildResult (P : Platform) where
  outcome : BuildOutcome
  request : BuildRequest P
  executionEvidence : ExecutionEvidenceIdentity
  payload : Option (PayloadManifest P.sha256)
  artifact : Option (SealedArtifact P.sha256)
  artifactBinding : Option ArtifactBindingIdentity
  failureEvidence : Option FailureEvidenceIdentity
  identity : BuildResultIdentity
  shape : ResultShape request executionEvidence payload artifact artifactBinding failureEvidence
    identity outcome

namespace BuildResult

/-- `build_result::succeeded`. -/
def succeeded (request : BuildRequest P) (payload : PayloadManifest P.sha256)
    (artifact : SealedArtifact P.sha256) (executionEvidence : ExecutionEvidenceIdentity) :
    Except Error (BuildResult P) := do
  let binding ← attach (bindingId request payload artifact)
  let identity ← attach (successId request payload artifact binding.1 executionEvidence)
  return {
    outcome := .succeeded
    request, executionEvidence
    payload := some payload
    artifact := some artifact
    artifactBinding := some binding.1
    failureEvidence := none
    identity := identity.1
    shape := ⟨payload, artifact, binding.1, rfl, rfl, rfl, rfl, binding.2, identity.2⟩ }

/-- `build_result::failed`. -/
def failed (request : BuildRequest P) (executionEvidence : ExecutionEvidenceIdentity)
    (failureEvidence : FailureEvidenceIdentity) : Except Error (BuildResult P) := do
  let identity ← attach (failureId request executionEvidence failureEvidence)
  return {
    outcome := .failed
    request, executionEvidence
    payload := none
    artifact := none
    artifactBinding := none
    failureEvidence := some failureEvidence
    identity := identity.1
    shape := ⟨failureEvidence, rfl, rfl, rfl, rfl, identity.2⟩ }

/-- `operator==`. -/
def equal (lhs rhs : BuildResult P) : Bool := decide (lhs.identity = rhs.identity)

/-- **What `succeeded` returns**: the arguments in their places, a binding that is the digest of
    the binding record and an identity that is the digest of the success record. -/
theorem succeeded_ok {request : BuildRequest P} {payload : PayloadManifest P.sha256}
    {artifact : SealedArtifact P.sha256} {execution : ExecutionEvidenceIdentity}
    {result : BuildResult P} (h : succeeded request payload artifact execution = .ok result) :
    ∃ binding, bindingId request payload artifact = .ok binding ∧
      successId request payload artifact binding execution = .ok result.identity ∧
      result.outcome = .succeeded ∧ result.request = request ∧
      result.executionEvidence = execution ∧ result.payload = some payload ∧
      result.artifact = some artifact ∧ result.artifactBinding = some binding ∧
      result.failureEvidence = none := by
  unfold succeeded at h
  obtain ⟨binding, -, h⟩ := bind_ok_iff.mp h
  obtain ⟨identity, -, h⟩ := bind_ok_iff.mp h
  obtain rfl := pure_ok_iff.mp h
  exact ⟨binding.1, binding.2, identity.2, rfl, rfl, rfl, rfl, rfl, rfl, rfl⟩

/-- **What `failed` returns.** -/
theorem failed_ok {request : BuildRequest P} {execution : ExecutionEvidenceIdentity}
    {failure : FailureEvidenceIdentity} {result : BuildResult P}
    (h : failed request execution failure = .ok result) :
    failureId request execution failure = .ok result.identity ∧
      result.outcome = .failed ∧ result.request = request ∧
      result.executionEvidence = execution ∧ result.payload = none ∧ result.artifact = none ∧
      result.artifactBinding = none ∧ result.failureEvidence = some failure := by
  unfold failed at h
  obtain ⟨identity, -, h⟩ := bind_ok_iff.mp h
  obtain rfl := pure_ok_iff.mp h
  exact ⟨identity.2, rfl, rfl, rfl, rfl, rfl, rfl, rfl⟩

/-- Every result is one that a factory returned. -/
theorem built (result : BuildResult P) :
    (∃ payload artifact, succeeded result.request payload artifact result.executionEvidence
        = .ok result) ∨
      ∃ failure, failed result.request result.executionEvidence failure = .ok result := by
  obtain ⟨outcome, request, execution, payload, artifact, binding, failure, identity, shape⟩ :=
    result
  cases outcome with
  | succeeded =>
    obtain ⟨manifest, sealedArtifact, artifactBinding, rfl, rfl, rfl, rfl, hbinding, hidentity⟩ :=
      shape
    refine Or.inl ⟨manifest, sealedArtifact, ?_⟩
    refine bind_ok_iff.mpr ⟨⟨artifactBinding, hbinding⟩, attach_ok_iff.mpr hbinding, ?_⟩
    exact bind_ok_iff.mpr ⟨⟨identity, hidentity⟩, attach_ok_iff.mpr hidentity, rfl⟩
  | failed =>
    obtain ⟨evidence, rfl, rfl, rfl, rfl, hidentity⟩ := shape
    refine Or.inr ⟨evidence, ?_⟩
    exact bind_ok_iff.mpr ⟨⟨identity, hidentity⟩, attach_ok_iff.mpr hidentity, rfl⟩

end BuildResult

end Pkgbuild

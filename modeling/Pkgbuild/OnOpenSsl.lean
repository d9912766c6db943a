/-
  The library's calls on a failing OpenSSL.

  The other files compute an identity as a digest of a stream.  Here every call of the library that
  computes identities is written with the `…_id` functions that make, feed and finish a writer on
  OpenSSL (`identify`), any call of which may fail:

  1. **The state** is a log of calls that kept the rules (`Log`), so what is known of `identify` can
     be handed out with each identity (`hashed`);
  2. **The calls** — `…On`, each as the source has it, hashing where the source hashes: an input is
     hashed as soon as its edge is found, before the next requirement is looked at;
  3. **They track the model** — whatever OpenSSL does, each call returns or refuses what the model
     says, unless it throws `identity_failed` with the text of the FIRST call on OpenSSL that
     failed; and it leaves exactly the contexts allocated that were.

  `client_on_openssl` says so of any client that makes any number of calls, goes on after errors,
  and decides what to call next from the answers it got.
-/
import Pkgbuild.RecordHashing

namespace Pkgbuild

open Checked Commands Handles RecordCode Pkgsource Pkgcatalog Pkgresolve

variable {sha256 : Sha256} {P : Platform}

/-! ## Hashing -/

/-- The calls so far, by the rules.  A client starts from any such log, whoever made it, and every
    call of the library hands one on. -/
abbrev Log := {log : EvpLog // Disciplined (acts log)}

/-- An OpenSSL whose digest is `sha256`, so that identities it computes are identities of the model.
    -/
abbrev OpenSslFor (sha256 : Sha256) := {ssl : OpenSsl // ssl.sha256 = sha256}

/-- More calls, all of them successful or stopped by the first that failed, and every context they
    allocated given back.  This is all that a call of the library may do to OpenSSL. -/
def account : Account Log Error where
  Does log stopped log' := ∃ calls, log'.1 = log.1 ++ calls ∧ allocated log'.1 = allocated log.1 ∧
    (firstFailure calls).map EvpCall.refusal = stopped
  refl log := ⟨[], (List.append_nil _).symm, rfl, rfl⟩
  trans := by
    rintro log log₁ log₂ stopped ⟨calls, hlog₁, hback₁, hgood⟩ ⟨more, hlog₂, hback₂, hstopped⟩
    have hsucceeded : ∀ call ∈ calls, ¬ call.Failed :=
      firstFailure_eq_none_iff.mp (Option.map_eq_none_iff.mp hgood)
    refine ⟨calls ++ more, ?_, hback₂.trans hback₁, ?_⟩
    · rw [hlog₂, hlog₁, List.append_assoc]
    · rw [firstFailure_append hsucceeded]
      exact hstopped

/-- What `identify` leaves, returning or throwing. -/
theorem left_identify (ssl : OpenSsl) (d : Domain) (fields : List Field) {log : EvpLog}
    (hlog : Disciplined (acts log)) :
    Left log (· = Identity.ofDigest d (ssl.sha256 (fieldCode.emitAll fields)))
      (exec (identify ssl d fields) log).1 (exec (identify ssl d fields) log).2 := by
  have htriple := @triple_identify ssl log hlog d fields
  rcases hexec : exec (identify ssl d fields) log with ⟨result, log'⟩
  cases result with
  | ok identity => exact htriple.ok rfl hexec
  | error error => exact htriple.error rfl hexec

/-- So a log that keeps the rules goes in and one comes out, and `identify` runs on these. -/
theorem identify_disciplined (ssl : OpenSsl) (d : Domain) (fields : List Field) (log : EvpLog)
    (hlog : Disciplined (acts log)) :
    Disciplined (acts (exec (identify ssl d fields) log).2) := by
  obtain ⟨calls, -, hdisciplined, -⟩ := left_identify ssl d fields hlog
  exact hdisciplined

/-- An `…_id` function on the logs that keep the rules. -/
def identifyOn (ssl : OpenSslFor sha256) (d : Domain) (fields : List Field) :
    Command Log Error (Identity d) :=
  restricted (identify ssl.1 d fields) (identify_disciplined ssl.1 d fields)

/-- What `identify` leaves is accounted for. -/
theorem account_of_left {log : Log} {log' : EvpLog} {hlog' : Disciplined (acts log')} {d : Domain}
    {digest : Digest} {result : Except Error (Identity d)}
    (h : Left log.1 (· = Identity.ofDigest d digest) result log') :
    ∃ stopped, account.Does log stopped ⟨log', hlog'⟩ ∧
      result = stopped.elim (.ok (Identity.ofDigest d digest)) .error := by
  obtain ⟨calls, heq, -, hback, hresult⟩ := h
  refine ⟨(firstFailure calls).map EvpCall.refusal, ⟨calls, heq, hback, rfl⟩, ?_⟩
  cases hfirst : firstFailure calls with
  | none =>
    rw [hfirst] at hresult
    obtain ⟨value, rfl, rfl⟩ := hresult
    rfl
  | some call =>
    rw [hfirst] at hresult
    exact hresult

/-- **An `…_id` function** tracks the digest of what its writer would hash. -/
theorem identifyOn_tracks (ssl : OpenSslFor sha256) {d : Domain} {record : IdentityWriter}
    {fields : List Field} (hrecord : record = IdentityWriter.new.writeAll fields) :
    Tracks account (identifyOn ssl d fields) (Identity.fromSha256 d (record.finish sha256)) := by
  obtain ⟨ssl, rfl⟩ := ssl
  intro log
  rw [Identity.fromSha256_finish, hrecord, stream_new_writeAll]
  exact account_of_left (left_identify ssl d fields log.2)

/-- Its identity, with the fact that it is the model's: what a caller makes of it may need that. -/
def hashed (ssl : OpenSslFor sha256) {d : Domain} {record : IdentityWriter} (fields : List Field)
    (hrecord : record = IdentityWriter.new.writeAll fields) :
    Command Log Error {identity // Identity.fromSha256 d (record.finish sha256) = .ok identity} :=
  (identifyOn_tracks ssl hrecord).attach

/-- With the fact attached it tracks the model's call with the fact attached: the rest of a caller
    may use it on both sides. -/
theorem hashed_tracks (ssl : OpenSslFor sha256) {d : Domain} {record : IdentityWriter}
    (fields : List Field) (hrecord : record = IdentityWriter.new.writeAll fields) :
    Tracks account (hashed ssl fields hrecord)
      (attach (Identity.fromSha256 d (record.finish sha256))) :=
  (identifyOn_tracks ssl hrecord).attach_tracks

section Identities

variable (ssl : OpenSslFor sha256)

/-- `environment_id`. -/
def environmentIdOn (parallelism fileCreationMask : UInt32) (sourceDateEpoch : Option Int64) :
    Command Log Error {identity //
      environmentId sha256 parallelism fileCreationMask sourceDateEpoch = .ok identity} :=
  hashed ssl (environmentFields parallelism fileCreationMask sourceDateEpoch)
    (environmentRecord_eq parallelism fileCreationMask sourceDateEpoch)

/-- `policy_id`. -/
def policyIdOn (environment : EnvironmentPolicy sha256) (outputLayout : OutputLayoutKind) :
    Command Log Error {identity // policyId environment outputLayout = .ok identity} :=
  hashed ssl (policyFields environment outputLayout) rfl

/-- `manifest_id`. -/
def manifestIdOn (entries : List PayloadEntry) :
    Command Log Error {identity // manifestId sha256 entries = .ok identity} :=
  hashed ssl (manifestFields entries) (manifestRecord_eq entries)

/-- `artifact_id`. -/
def artifactIdOn (encoding : ArtifactEncoding) (compression : ArtifactCompression)
    (byteCount : UInt64) (completeDigest : Sha256Digest) :
    Command Log Error {identity //
      artifactId sha256 encoding compression byteCount completeDigest = .ok identity} :=
  hashed ssl (artifactFields encoding compression byteCount completeDigest) rfl

/-- `input_id`, called inside the requirement loop of `admit`. -/
def inputIdOn (scope : InputScope) (edge : RequirementEdge) (selection : SelectedPackage) :
    Command Log Error {identity // inputId sha256 scope edge selection = .ok identity} :=
  hashed ssl (inputFields scope edge selection) rfl

/-- `input_set_id`, called when the inputs are sorted. -/
def inputSetIdOn (resolution : ResolutionResultIdentity) (subject : PackageSelectionIdentity)
    (inputs : List (BuildInput sha256)) :
    Command Log Error {identity // inputSetId resolution subject inputs = .ok identity} :=
  hashed ssl (inputSetFields resolution subject inputs)
    (inputSetRecord_eq resolution subject inputs)

/-- `request_id`. -/
def requestIdOn (source : SourceSnapshot) (inputs : BuildInputSet sha256)
    (architectures : ArchitectureBinding) (policy : BuildPolicy sha256) :
    Command Log Error {identity // requestId source inputs architectures policy = .ok identity} :=
  hashed ssl (requestFields source inputs architectures policy) rfl

end Identities

section Results

variable (ssl : OpenSslFor P.sha256)

/-- `binding_id`, the first of the two identities of a succeeded result. -/
def bindingIdOn (request : BuildRequest P) (payload : PayloadManifest P.sha256)
    (artifact : SealedArtifact P.sha256) :
    Command Log Error {identity // bindingId request payload artifact = .ok identity} :=
  hashed ssl (bindingFields request payload artifact) rfl

/-- `success_id`, the second, which has the binding in it. -/
def successIdOn (request : BuildRequest P) (payload : PayloadManifest P.sha256)
    (artifact : SealedArtifact P.sha256) (binding : ArtifactBindingIdentity)
    (execution : ExecutionEvidenceIdentity) : Command Log Error {identity //
      successId request payload artifact binding execution = .ok identity} :=
  hashed ssl (successFields request payload artifact binding execution) rfl

/-- `failure_id`. -/
def failureIdOn (request : BuildRequest P) (execution : ExecutionEvidenceIdentity)
    (failure : FailureEvidenceIdentity) :
    Command Log Error {identity // failureId request execution failure = .ok identity} :=
  hashed ssl (failureFields request execution failure) rfl

end Results

/-! ## The calls -/

section Calls

variable (ssl : OpenSslFor sha256)

/-- `environment_policy::hermetic`. -/
def EnvironmentPolicy.hermeticOn (parallelism fileCreationMask : UInt32)
    (sourceDateEpoch : Option Int64) : Command Log Error (EnvironmentPolicy sha256) := do
  let ⟨_, hpositive⟩ ← attach (refuse (parallelism = 0)
    (invalidModel (ascii "build parallelism must be greater than zero")))
  let ⟨_, hposix⟩ ← attach (refuse (0o777 < fileCreationMask)
    (invalidModel (ascii "file creation mask exceeds POSIX permission bits")))
  let ⟨_, hepoch⟩ ← attach (refuse (NegativeEpoch sourceDateEpoch)
    (invalidModel (ascii "SOURCE_DATE_EPOCH must not be negative")))
  let ⟨identity, hidentity⟩ ← environmentIdOn ssl parallelism fileCreationMask sourceDateEpoch
  return ⟨parallelism, fileCreationMask, sourceDateEpoch, identity, refuse_ok_iff.mp hpositive,
    refuse_ok_iff.mp hposix, refuse_ok_iff.mp hepoch, hidentity⟩

/-- The three refusals come before the hashing on both sides, so a call that is refused makes no
    call on OpenSSL. -/
theorem EnvironmentPolicy.hermeticOn_tracks (parallelism fileCreationMask : UInt32)
    (sourceDateEpoch : Option Int64) :
    Tracks account (hermeticOn ssl parallelism fileCreationMask sourceDateEpoch)
      (hermetic sha256 parallelism fileCreationMask sourceDateEpoch) := by
  refine (tracks_lift _).bind fun _ => (tracks_lift _).bind fun _ => ?_
  refine (tracks_lift _).bind fun _ => ?_
  exact Tracks.bind (hashed_tracks ssl _ _) fun _ => tracks_pure _

/-- `build_policy::make`. -/
def BuildPolicy.makeOn (environment : EnvironmentPolicy sha256) (outputLayout : OutputLayoutKind) :
    Command Log Error (BuildPolicy sha256) := do
  let ⟨_, hsupported⟩ ← attach (refuse (outputLayout ≠ .packageRoot)
    (invalidRequest (ascii "unsupported build output layout")))
  let ⟨identity, hidentity⟩ ← policyIdOn ssl environment outputLayout
  return ⟨environment, outputLayout, identity, not_not.mp (refuse_ok_iff.mp hsupported),
    hidentity⟩

/-- One refusal, and one identity to hash. -/
theorem BuildPolicy.makeOn_tracks (environment : EnvironmentPolicy sha256)
    (outputLayout : OutputLayoutKind) :
    Tracks account (makeOn ssl environment outputLayout) (make environment outputLayout) := by
  refine (tracks_lift _).bind fun _ => ?_
  exact Tracks.bind (hashed_tracks ssl _ _) fun _ => tracks_pure _

/-- `payload_manifest::seal`. -/
def PayloadManifest.sealOn (entries : List PayloadEntry) :
    Command Log Error (PayloadManifest sha256) := do
  let ⟨state, hstate⟩ ← attach (sealEntries entries)
  let ⟨identity, hidentity⟩ ← manifestIdOn ssl entries
  return ⟨entries, identity, ⟨state, hstate⟩, hidentity⟩

/-- The loop over the entries hashes nothing; the identity is computed when it is through. -/
theorem PayloadManifest.sealOn_tracks (entries : List PayloadEntry) :
    Tracks account (sealOn ssl entries) (PayloadManifest.seal sha256 entries) := by
  refine (tracks_lift _).bind fun _ => ?_
  exact Tracks.bind (hashed_tracks ssl _ _) fun _ => tracks_pure _

/-- `sealed_artifact::make`. -/
def SealedArtifact.makeOn (encoding : ArtifactEncoding) (compression : ArtifactCompression)
    (byteCount : UInt64) (completeDigest : Sha256Digest) :
    Command Log Error (SealedArtifact sha256) := do
  let ⟨_, htar⟩ ← attach (refuse (encoding ≠ .packageTar)
    (invalidModel (ascii "unsupported artifact encoding")))
  let ⟨_, hknown⟩ ← attach (refuse (¬ compression.Supported)
    (invalidModel (ascii "unsupported artifact compression")))
  let ⟨identity, hidentity⟩ ← artifactIdOn ssl encoding compression byteCount completeDigest
  return ⟨encoding, compression, byteCount, completeDigest, identity,
    not_not.mp (refuse_ok_iff.mp htar), not_not.mp (refuse_ok_iff.mp hknown), hidentity⟩

/-- Two refusals, and one identity to hash. -/
theorem SealedArtifact.makeOn_tracks (encoding : ArtifactEncoding)
    (compression : ArtifactCompression) (byteCount : UInt64) (completeDigest : Sha256Digest) :
    Tracks account (makeOn ssl encoding compression byteCount completeDigest)
      (make sha256 encoding compression byteCount completeDigest) := by
  refine (tracks_lift _).bind fun _ => (tracks_lift _).bind fun _ => ?_
  exact Tracks.bind (hashed_tracks ssl _ _) fun _ => tracks_pure _

/-- One turn of the requirement loop of `admit`. -/
def admitRequirementOn (resolution : ResolutionResult) (subject : PackageSelectionIdentity)
    (candidate : CatalogCandidate) (state : AdmitState sha256) (requirement : ResolvedRequirement) :
    Command Log Error (AdmitState sha256) := do
  let found ← scanSole (probeEdge resolution subject requirement)
    (invalidRequest (ascii "build requirement has ambiguous resolver authority"))
    resolution.edges
  match found with
  | none =>
      throw (invalidRequest (ascii "build requirement lacks exact resolver authority"))
  | some (edge, required) => do
      refuse (required.environment ≠ .build)
        (invalidRequest (ascii "build requirement selected a non-build environment package"))
      refuse (WitnessDiffers candidate requirement edge)
        (invalidRequest (ascii "build requirement witness differs from source authority"))
      refuse (edge.identity ∈ state.consumed)
        (invalidRequest (ascii "resolver edge satisfies more than one build requirement"))
      let scope ← inputScopeFrom requirement.scope
      let ⟨identity, hidentity⟩ ← inputIdOn ssl scope edge required
      return state.push ⟨scope, edge, required, identity, hidentity⟩

/-- One requirement: the scan and the refusals are pure, and the input is hashed as soon as its edge
    passed them. -/
theorem admitRequirementOn_tracks (resolution : ResolutionResult)
    (subject : PackageSelectionIdentity) (candidate : CatalogCandidate) (state : AdmitState sha256)
    (requirement : ResolvedRequirement) :
    Tracks account (admitRequirementOn ssl resolution subject candidate state requirement)
      (admitRequirement sha256 resolution subject candidate state requirement) := by
  refine (tracks_lift _).bind fun found => ?_
  cases found with
  -- no edge, and the same refusal on both sides
  | none => exact tracks_throw _
  | some found =>
    refine (tracks_lift _).bind fun _ => (tracks_lift _).bind fun _ => ?_
    refine (tracks_lift _).bind fun _ => (tracks_lift _).bind fun scope => ?_
    exact Tracks.bind (hashed_tracks ssl _ _) fun _ => tracks_pure _

end Calls

section Calls

variable (ssl : OpenSslFor P.sha256)

/-- `build_input_set::admit`. -/
def BuildInputSet.admitOn (resolution : ResolutionResult)
    (subjectIdentity : PackageSelectionIdentity) :
    Command Log Error (BuildInputSet P.sha256) := do
  let subject ← requireSelection resolution subjectIdentity
  let candidate ← requireCandidate subject
    (invalidRequest (ascii "build subject must retain catalog source authority"))
  refuse (ContradictsCandidate subject candidate)
    (invalidRequest (ascii "build subject contradicts its catalog authority"))
  refuse (subject.architectures ≠ expectedArchitectures P resolution subject)
    (invalidRequest
      (ascii "build subject architecture context differs from resolution request"))
  let requirements := directRequirements P candidate.source
    (isCheckGoalMember resolution subjectIdentity)
  let state ← requirements.foldlM
    (admitRequirementOn ssl resolution subjectIdentity candidate) ⟨[], []⟩
  liftM (forM resolution.edges (sweepEdge subjectIdentity state.consumed))
  let inputs := P.sortInputs.run state.inputs
  let ⟨identity, _⟩ ← inputSetIdOn ssl resolution.identity subjectIdentity inputs
  return ⟨subject, resolution.identity, inputs, identity⟩

/-- `admit` hashes between its refusals: a later requirement may be refused after the identities of
    earlier ones were computed, or OpenSSL may fail before that.  Whichever comes first is thrown.
    -/
theorem BuildInputSet.admitOn_tracks (resolution : ResolutionResult)
    (subject : PackageSelectionIdentity) :
    Tracks account (admitOn ssl resolution subject) <|
      BuildInputSet.admit P resolution subject := by
  refine (tracks_lift _).bind fun selection => (tracks_lift _).bind fun candidate => ?_
  refine (tracks_lift _).bind fun _ => (tracks_lift _).bind fun _ => ?_
  refine (Tracks.foldlM (admitRequirementOn_tracks ssl resolution subject candidate) _ _).bind
    fun state => (tracks_lift _).bind fun _ => ?_
  -- the model binds the identity without the fact that it is one
  rw [← attach_bind]
  exact Tracks.bind (hashed_tracks ssl _ _) fun _ => tracks_pure _

/-- The set came out of a resolution. -/
theorem BuildInputSet.exists_resolution {resolution : ResolutionResult}
    {subject : PackageSelectionIdentity} {set : BuildInputSet P.sha256}
    (h : BuildInputSet.admit P resolution subject = .ok set) :
    ∃ resolution subject, BuildInputSet.admit P resolution subject = .ok set :=
  ⟨resolution, subject, h⟩

/-- `build_request::seal`. -/
def BuildRequest.sealOn (resolution : ResolutionResult)
    (subjectIdentity : PackageSelectionIdentity) (policy : BuildPolicy P.sha256) :
    Command Log Error (BuildRequest P) := do
  let ⟨inputs, hinputs⟩ ← (BuildInputSet.admitOn_tracks ssl resolution subjectIdentity).attach
  let subject := inputs.subject
  let ⟨candidate, hcandidate⟩ ← attach (requireCandidate subject
    (invalidRequest (ascii "build subject lost catalog source authority")))
  let source := candidate.source
  let ⟨architectures, harchitectures⟩ ← attach (ArchitectureBinding.select
    source.recipe.architectures subject.architectures.build subject.architectures.target)
  let ⟨identity, hidentity⟩ ← requestIdOn ssl source inputs architectures policy
  return {
    subject, source, policy, inputs, architectures, identity
    admitted := BuildInputSet.exists_resolution hinputs
    subject_eq := rfl
    candidate_source := ⟨candidate, requireCandidate_ok_iff.mp hcandidate, rfl⟩
    selected := harchitectures
    identity_eq := hidentity }

/-- Admission runs on OpenSSL with the fact that the model admits the same set, which the request it
    makes carries. -/
theorem BuildRequest.sealOn_tracks (resolution : ResolutionResult)
    (subject : PackageSelectionIdentity) (policy : BuildPolicy P.sha256) :
    Tracks account (sealOn ssl resolution subject policy)
      (BuildRequest.seal P resolution subject policy) := by
  refine (BuildInputSet.admitOn_tracks ssl resolution subject).attach_tracks.bind fun inputs => ?_
  refine (tracks_lift _).bind fun candidate => (tracks_lift _).bind fun architectures => ?_
  exact Tracks.bind (hashed_tracks ssl _ _) fun _ => tracks_pure _

/-- `build_result::succeeded`. -/
def BuildResult.succeededOn (request : BuildRequest P) (payload : PayloadManifest P.sha256)
    (artifact : SealedArtifact P.sha256) (executionEvidence : ExecutionEvidenceIdentity) :
    Command Log Error (BuildResult P) := do
  let ⟨binding, hbinding⟩ ← bindingIdOn ssl request payload artifact
  let ⟨identity, hidentity⟩ ← successIdOn ssl request payload artifact binding executionEvidence
  return {
    outcome := .succeeded
    request, executionEvidence, identity
    payload := some payload
    artifact := some artifact
    artifactBinding := some binding
    failureEvidence := none
    shape := ⟨payload, artifact, binding, rfl, rfl, rfl, rfl, hbinding, hidentity⟩ }

/-- Two identities one after the other; a failure of the first leaves the second alone. -/
theorem BuildResult.succeededOn_tracks (request : BuildRequest P)
    (payload : PayloadManifest P.sha256) (artifact : SealedArtifact P.sha256)
    (execution : ExecutionEvidenceIdentity) :
    Tracks account (succeededOn ssl request payload artifact execution)
      (succeeded request payload artifact execution) := by
  refine Tracks.bind (hashed_tracks ssl _ _) fun binding => ?_
  exact Tracks.bind (hashed_tracks ssl _ _) fun _ => tracks_pure _

/-- `build_result::failed`. -/
def BuildResult.failedOn (request : BuildRequest P) (executionEvidence : ExecutionEvidenceIdentity)
    (failureEvidence : FailureEvidenceIdentity) : Command Log Error (BuildResult P) := do
  let ⟨identity, hidentity⟩ ← failureIdOn ssl request executionEvidence failureEvidence
  return {
    outcome := .failed
    request, executionEvidence, identity
    payload := none
    artifact := none
    artifactBinding := none
    failureEvidence := some failureEvidence
    shape := ⟨failureEvidence, rfl, rfl, rfl, rfl, hidentity⟩ }

/-- One identity to hash. -/
theorem BuildResult.failedOn_tracks (request : BuildRequest P)
    (execution : ExecutionEvidenceIdentity) (failure : FailureEvidenceIdentity) :
    Tracks account (failedOn ssl request execution failure)
      (failed request execution failure) :=
  Tracks.bind (hashed_tracks ssl _ _) fun _ => tracks_pure _

end Calls

/-! ## Clients -/

/-- A call of the library that hashes, with its arguments, by the type of what it returns. -/
inductive Operation (P : Platform) : Type → Type where
  | hermetic (parallelism fileCreationMask : UInt32) (sourceDateEpoch : Option Int64) :
      Operation P (EnvironmentPolicy P.sha256)
  | makePolicy (environment : EnvironmentPolicy P.sha256) (outputLayout : OutputLayoutKind) :
      Operation P (BuildPolicy P.sha256)
  | sealManifest (entries : List PayloadEntry) : Operation P (PayloadManifest P.sha256)
  | makeArtifact (encoding : ArtifactEncoding) (compression : ArtifactCompression)
      (byteCount : UInt64) (completeDigest : Sha256Digest) : Operation P (SealedArtifact P.sha256)
  | admitInputs (resolution : ResolutionResult) (subject : PackageSelectionIdentity) :
      Operation P (BuildInputSet P.sha256)
  | sealRequest (resolution : ResolutionResult) (subject : PackageSelectionIdentity)
      (policy : BuildPolicy P.sha256) : Operation P (BuildRequest P)
  | succeeded (request : BuildRequest P) (payload : PayloadManifest P.sha256)
      (artifact : SealedArtifact P.sha256) (execution : ExecutionEvidenceIdentity) :
      Operation P (BuildResult P)
  | failed (request : BuildRequest P) (execution : ExecutionEvidenceIdentity)
      (failure : FailureEvidenceIdentity) : Operation P (BuildResult P)

namespace Operation

/-- What the model says of the call. -/
def run {α : Type} : Operation P α → Except Error α
  | hermetic parallelism fileCreationMask sourceDateEpoch =>
      EnvironmentPolicy.hermetic P.sha256 parallelism fileCreationMask sourceDateEpoch
  | makePolicy environment outputLayout => BuildPolicy.make environment outputLayout
  | sealManifest entries => PayloadManifest.seal P.sha256 entries
  | makeArtifact encoding compression byteCount completeDigest =>
      SealedArtifact.make P.sha256 encoding compression byteCount completeDigest
  | admitInputs resolution subject => BuildInputSet.admit P resolution subject
  | sealRequest resolution subject policy => BuildRequest.seal P resolution subject policy
  | succeeded request payload artifact execution =>
      BuildResult.succeeded request payload artifact execution
  | failed request execution failure => BuildResult.failed request execution failure

/-- The call on OpenSSL. -/
def runOn (ssl : OpenSslFor P.sha256) {α : Type} : Operation P α → Command Log Error α
  | hermetic parallelism fileCreationMask sourceDateEpoch =>
      EnvironmentPolicy.hermeticOn ssl parallelism fileCreationMask sourceDateEpoch
  | makePolicy environment outputLayout => BuildPolicy.makeOn ssl environment outputLayout
  | sealManifest entries => PayloadManifest.sealOn ssl entries
  | makeArtifact encoding compression byteCount completeDigest =>
      SealedArtifact.makeOn ssl encoding compression byteCount completeDigest
  | admitInputs resolution subject => BuildInputSet.admitOn ssl resolution subject
  | sealRequest resolution subject policy => BuildRequest.sealOn ssl resolution subject policy
  | succeeded request payload artifact execution =>
      BuildResult.succeededOn ssl request payload artifact execution
  | failed request execution failure => BuildResult.failedOn ssl request execution failure

/-- **Step.**  Whatever is asked of the library, it does what the pure function does, or stops at
    the first call of OpenSSL that fails. -/
theorem tracks (ssl : OpenSslFor P.sha256) {α : Type} (operation : Operation P α) :
    Tracks account (operation.runOn ssl) operation.run := by
  cases operation with
  | hermetic => exact EnvironmentPolicy.hermeticOn_tracks ssl _ _ _
  | makePolicy => exact BuildPolicy.makeOn_tracks ssl _ _
  | sealManifest => exact PayloadManifest.sealOn_tracks ssl _
  | makeArtifact => exact SealedArtifact.makeOn_tracks ssl _ _ _ _
  | admitInputs => exact BuildInputSet.admitOn_tracks ssl _ _
  | sealRequest => exact BuildRequest.sealOn_tracks ssl _ _ _
  | succeeded => exact BuildResult.succeededOn_tracks ssl _ _ _ _
  | failed => exact BuildResult.failedOn_tracks ssl _ _ _

end Operation

/-- Whichever call failed, what is thrown for it has the code `identity_failed`. -/
theorem EvpCall.refusal_code (call : EvpCall) : call.refusal.code = .identityFailed := by
  cases call <;> rfl

/-- A client: it stops, or makes a call and goes on from the answer, which may be an error.  What it
    calls next may depend on all it has seen. -/
inductive Client (P : Platform) : Type 1 where
  | stop
  | call {α : Type} (operation : Operation P α) (next : Except Error α → Client P)

/-- A call a client made, the calls on OpenSSL it led to, and its answer. -/
structure Answer (P : Platform) : Type 1 where
  {α : Type}
  operation : Operation P α
  calls : EvpLog
  result : Except Error α

namespace Answer

/-- What the client sees: not the calls on OpenSSL. -/
def seen (answer : Answer P) : (α : Type) × Operation P α × Except Error α :=
  ⟨answer.α, answer.operation, answer.result⟩

/-- The answer is the model's, or the error of the first call on OpenSSL that failed. -/
def Explained (answer : Answer P) : Prop :=
  match firstFailure answer.calls with
  | none => answer.result = answer.operation.run
  | some call => answer.result = .error call.refusal ∧ call.refusal.code = .identityFailed

end Answer

namespace Client

/-- The answers of the model to the client. -/
def run : Client P → List ((α : Type) × Operation P α × Except Error α)
  | stop => []
  | call operation next => ⟨_, operation, operation.run⟩ :: (next operation.run).run

/-- The answers on OpenSSL, and the log after the last. -/
def runOn (ssl : OpenSslFor P.sha256) : Client P → Log → List (Answer P) × Log
  | stop, log => ([], log)
  | call operation next, log =>
      let out := exec (operation.runOn ssl) log
      let rest := (next out.1).runOn ssl out.2
      (⟨operation, out.2.1.drop log.1.length, out.1⟩ :: rest.1, rest.2)

end Client

/-- **The library on a failing OpenSSL.**  Whatever OpenSSL does, and whatever a client calls, in
    any order and going on after errors: every answer is the model's, or the `identity_failed` of
    the first call on OpenSSL that failed for it; the rules are kept, and exactly the contexts
    allocated before are allocated after.  As long as no call on OpenSSL fails, the client sees the
    model. -/
theorem client_on_openssl (P : Platform) (ssl : OpenSslFor P.sha256) (client : Client P)
    (log : Log) :
    let out := client.runOn ssl log
    out.2.1 = log.1 ++ out.1.flatMap Answer.calls ∧ Disciplined (acts out.2.1) ∧
      allocated out.2.1 = allocated log.1 ∧ (∀ answer ∈ out.1, answer.Explained) ∧
      (firstFailure (out.1.flatMap Answer.calls) = none → out.1.map Answer.seen = client.run) := by
  induction client generalizing log with
  | stop =>
    refine ⟨(List.append_nil _).symm, log.2, rfl, fun answer hanswer => ?_, fun _ => rfl⟩
    exact (List.not_mem_nil hanswer).elim
  -- the call in front is a step, and the client that goes on from its answer the induction
  | call operation next ih =>
    obtain ⟨_, ⟨calls, hlog, hback, rfl⟩, hresult⟩ := operation.tracks ssl log
    rcases hexec : exec (operation.runOn ssl) log with ⟨result, log₁⟩
    rw [hexec] at hlog hback hresult
    obtain ⟨hrest, hdisciplined, hallocated, hexplained, hseen⟩ := ih result log₁
    -- what the step added to the log is what its answer records
    have hcalls : log₁.1.drop log.1.length = calls := by
      rw [hlog]
      exact List.drop_left
    have hfirst : (⟨operation, calls, result⟩ : Answer P).Explained := by
      show match firstFailure calls with
        | none => result = operation.run
        | some call => result = .error call.refusal ∧ call.refusal.code = .identityFailed
      cases hfailure : firstFailure calls with
      | none =>
        rw [hfailure] at hresult
        exact hresult
      | some call =>
        rw [hfailure] at hresult
        exact ⟨hresult, call.refusal_code⟩
    simp only [Client.runOn, hexec, hcalls]
    refine ⟨?_, hdisciplined, hallocated.trans hback,
      List.forall_mem_cons.mpr ⟨hfirst, hexplained⟩, fun hgood => ?_⟩
    · rw [hrest, hlog, List.flatMap_cons, List.append_assoc]
    · rw [List.flatMap_cons] at hgood
      -- without a failure in the whole run there is none in the first call
      have hnone : firstFailure calls = none := by
        refine firstFailure_eq_none_iff.mpr fun call hcall => ?_
        exact firstFailure_eq_none_iff.mp hgood call (List.mem_append_left _ hcall)
      rw [firstFailure_append (firstFailure_eq_none_iff.mp hnone)] at hgood
      rw [hnone] at hresult
      obtain rfl : result = operation.run := hresult
      exact congrArg _ (hseen hgood)

end Pkgbuild

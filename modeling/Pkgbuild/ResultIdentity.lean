/-
  What a result identity binds, and what an artifact binding binds.

  Results compare by identity alone, and the two record layouts of a result open with the same
  domain text.  A `ResultCall` is a call of one of the two factories with its arguments;
  `ResultCall.streams` are the streams hashed for the result, its payload manifest, its artifact and
  its binding.  Unless two of these streams collide:

  * equal results come from calls of the SAME factory, the outcome being the field after the domain
    text, and the calls agree argument by argument (`SameCall`);
  * the artifact bindings of two successes are equal exactly when request, payload and artifact are,
    whatever the evidence says.
-/
import Pkgbuild.ManifestIdentity
import Pkgbuild.RequestIdentity

namespace Pkgbuild

open Checked RecordCode

variable {P : Platform} {sha256 : Sha256}

/-! ## What each record spells out -/

/-- The bytes hashed for an artifact's identity. -/
def SealedArtifact.stream (artifact : SealedArtifact sha256) : Bytes :=
  (artifactRecord artifact.encoding artifact.compression artifact.byteCount
    artifact.completeDigest).stream

/-- Four fields.  Encoding and compression are written as text, so it is their texts that agree. -/
theorem artifactRecord_inj {encoding encoding' : ArtifactEncoding}
    {compression compression' : ArtifactCompression} {byteCount byteCount' : UInt64}
    {digest digest' : Sha256Digest}
    (h : (artifactRecord encoding compression byteCount digest).stream
      = (artifactRecord encoding' compression' byteCount' digest').stream) :
    encoding.toText = encoding'.toText ∧ compression.toText = compression'.toText ∧
      byteCount = byteCount' ∧ digest = digest' := by
  have hfields : artifactFields encoding compression byteCount digest
      = artifactFields encoding' compression' byteCount' digest' := writeAll_inj rfl h
  simp only [artifactFields, List.cons.injEq, Field.text.injEq, Field.number.injEq, true_and,
    and_true] at hfields
  obtain ⟨hencoding, hcompression, hbyteCount, hdigest⟩ := hfields
  exact ⟨hencoding, hcompression, hbyteCount, Sha256Digest.text_inj hdigest⟩

/-- Request, payload and artifact under their identities; the complete digest comes last. -/
theorem bindingRecord_inj {request request' : BuildRequest P}
    {payload payload' : PayloadManifest P.sha256} {artifact artifact' : SealedArtifact P.sha256}
    (h : (bindingRecord request payload artifact).stream
      = (bindingRecord request' payload' artifact').stream) :
    request.identity = request'.identity ∧ payload.identity = payload'.identity ∧
      artifact.identity = artifact'.identity := by
  have hfields : bindingFields request payload artifact
      = bindingFields request' payload' artifact' := writeAll_inj rfl h
  simp only [bindingFields, List.cons.injEq, Field.text.injEq, true_and, and_true] at hfields
  obtain ⟨hrequest, hpayload, hartifact, -⟩ := hfields
  exact ⟨Identity.text_inj hrequest, Identity.text_inj hpayload, Identity.text_inj hartifact⟩

/-- A success spells out its parts and the evidence.  The binding among them follows from the parts.
    -/
theorem successRecord_inj {request request' : BuildRequest P}
    {payload payload' : PayloadManifest P.sha256} {artifact artifact' : SealedArtifact P.sha256}
    {binding binding' : ArtifactBindingIdentity} {execution execution' : ExecutionEvidenceIdentity}
    (h : (successRecord request payload artifact binding execution).stream
      = (successRecord request' payload' artifact' binding' execution').stream) :
    request.identity = request'.identity ∧ payload.identity = payload'.identity ∧
      artifact.identity = artifact'.identity ∧ execution = execution' := by
  have hfields : successFields request payload artifact binding execution
      = successFields request' payload' artifact' binding' execution' := writeAll_inj rfl h
  simp only [successFields, List.cons.injEq, Field.text.injEq, true_and, and_true] at hfields
  obtain ⟨hrequest, hpayload, hartifact, -, hexecution⟩ := hfields
  exact ⟨Identity.text_inj hrequest, Identity.text_inj hpayload, Identity.text_inj hartifact,
    Identity.text_inj hexecution⟩

/-- A failure spells out the request and both pieces of evidence. -/
theorem failureRecord_inj {request request' : BuildRequest P}
    {execution execution' : ExecutionEvidenceIdentity} {failure failure' : FailureEvidenceIdentity}
    (h : (failureRecord request execution failure).stream
      = (failureRecord request' execution' failure').stream) :
    request.identity = request'.identity ∧ execution = execution' ∧ failure = failure' := by
  have hfields : failureFields request execution failure
      = failureFields request' execution' failure' := writeAll_inj rfl h
  simp only [failureFields, List.cons.injEq, Field.text.injEq, true_and, and_true] at hfields
  obtain ⟨hrequest, hexecution, hfailure⟩ := hfields
  exact ⟨Identity.text_inj hrequest, Identity.text_inj hexecution, Identity.text_inj hfailure⟩

/-! ## Artifacts under their identities -/

/-- The members of two artifacts agree. -/
structure SameArtifact (a b : SealedArtifact sha256) : Prop where
  encoding : a.encoding = b.encoding
  compression : a.compression = b.compression
  byteCount : a.byteCount = b.byteCount
  completeDigest : a.completeDigest = b.completeDigest

section Members

variable {as bs : List Bytes}

/-- Without a collision, an artifact identity determines the artifact. -/
theorem SealedArtifact.same (hno : ¬ Collides sha256 (as ++ bs))
    {a b : SealedArtifact sha256} (ha : a.stream ∈ as) (hb : b.stream ∈ bs)
    (h : a.identity = b.identity) : SameArtifact a b := by
  obtain ⟨-, hcompression, hbyteCount, hdigest⟩ :=
    artifactRecord_inj (Identity.stream_eq hno a.identity_eq b.identity_eq ha hb h)
  refine ⟨?_, ArtifactCompression.toText_inj a.supported b.supported hcompression, hbyteCount,
    hdigest⟩
  rw [a.encoding_eq, b.encoding_eq]

end Members

/-- An artifact's identity is computed from the members that agree. -/
theorem SameArtifact.identity_eq {a b : SealedArtifact sha256} (h : SameArtifact a b) :
    a.identity = b.identity := by
  rw [Identity.eq_ofDigest a.identity_eq, Identity.eq_ofDigest b.identity_eq, h.encoding,
    h.compression, h.byteCount, h.completeDigest]

/-! ## Calls of the factories -/

/-- A call of `build_result::succeeded` or `build_result::failed`. -/
inductive ResultCall (P : Platform) where
  | succeeded (request : BuildRequest P) (payload : PayloadManifest P.sha256)
      (artifact : SealedArtifact P.sha256) (execution : ExecutionEvidenceIdentity)
  | failed (request : BuildRequest P) (execution : ExecutionEvidenceIdentity)
      (failure : FailureEvidenceIdentity)

namespace ResultCall

/-- The call made. -/
def run : ResultCall P → Except Error (BuildResult P)
  | succeeded request payload artifact execution =>
      BuildResult.succeeded request payload artifact execution
  | failed request execution failure => BuildResult.failed request execution failure

/-- The binding a success computes on the way. -/
def binding (request : BuildRequest P) (payload : PayloadManifest P.sha256)
    (artifact : SealedArtifact P.sha256) : ArtifactBindingIdentity :=
  .ofDigest _ (P.sha256 (bindingRecord request payload artifact).stream)

/-- The record of the result. -/
def record : ResultCall P → Record P
  | succeeded request payload artifact execution =>
      .succeeded request payload artifact (binding request payload artifact) execution
  | failed request execution failure => .failed request execution failure

/-- The streams hashed for the result, its payload manifest, its artifact and its binding. -/
def streams : ResultCall P → List Bytes
  | call@(succeeded request payload artifact _) =>
      [call.record.stream, payload.stream, artifact.stream,
        (bindingRecord request payload artifact).stream]
  | call@(failed ..) => [call.record.stream]

/-- The result's own stream is among those hashed for it. -/
theorem record_stream_mem (call : ResultCall P) : call.record.stream ∈ call.streams := by
  cases call <;> exact List.mem_cons_self

/-- The identity of a result is computed from its record. -/
theorem identity_ok {call : ResultCall P} {result : BuildResult P} (h : call.run = .ok result) :
    Identity.fromSha256 _ (call.record.writer.finish P.sha256) = .ok result.identity := by
  cases call with
  | succeeded request payload artifact execution =>
    obtain ⟨computed, hbinding, hidentity, -⟩ := BuildResult.succeeded_ok h
    obtain rfl := Identity.eq_ofDigest hbinding
    exact hidentity
  | failed request execution failure =>
    exact (BuildResult.failed_ok h).1

/-- The calls agree, argument by argument. -/
def SameCall : ResultCall P → ResultCall P → Prop
  | succeeded request payload artifact execution,
      succeeded request' payload' artifact' execution' =>
      request.identity = request'.identity ∧ payload.entries = payload'.entries ∧
        SameArtifact artifact artifact' ∧ execution = execution'
  | failed request execution failure, failed request' execution' failure' =>
      request.identity = request'.identity ∧ execution = execution' ∧ failure = failure'
  | _, _ => False

/-- The outcome, right after the domain text, tells the two layouts apart. -/
theorem success_ne_failure {request request' : BuildRequest P} {payload : PayloadManifest P.sha256}
    {artifact : SealedArtifact P.sha256} {execution execution' : ExecutionEvidenceIdentity}
    {failure : FailureEvidenceIdentity} :
    (succeeded request payload artifact execution).record.stream
      ≠ (failed request' execution' failure).record.stream := by
  intro h
  have houtcome : ((succeeded request payload artifact execution).record.kind,
      (succeeded request payload artifact execution).record.outcome)
      ≠ ((failed request' execution' failure).record.kind,
        (failed request' execution' failure).record.outcome) := by
    show (RecordKind.buildResult, some BuildOutcome.succeeded)
      ≠ (RecordKind.buildResult, some BuildOutcome.failed)
    decide
  exact Record.stream_ne houtcome [] [] (congrArg (· ++ []) h)

/-- **Binding.**  Without a collision, calls whose results have one identity agree. -/
theorem sameCall_of_identity_eq {x y : ResultCall P}
    (hno : ¬ Collides P.sha256 (x.streams ++ y.streams)) {a b : BuildResult P}
    (ha : x.run = .ok a) (hb : y.run = .ok b) (h : a.identity = b.identity) : SameCall x y := by
  have hstream := Identity.stream_eq hno (identity_ok ha) (identity_ok hb) x.record_stream_mem
    y.record_stream_mem h
  cases x with
  | succeeded request payload artifact execution =>
    cases y with
    | succeeded request' payload' artifact' execution' =>
      -- identities of payload and artifact are resolved by streams hashed on the way
      obtain ⟨hrequest, hpayload, hartifact, hexecution⟩ := successRecord_inj hstream
      exact ⟨hrequest,
        PayloadManifest.entries_eq hno (by simp [streams]) (by simp [streams]) hpayload,
        SealedArtifact.same hno (by simp [streams]) (by simp [streams]) hartifact, hexecution⟩
    | failed request' execution' failure' =>
      -- across the factories the streams part at the outcome
      exact absurd hstream success_ne_failure
  | failed request execution failure =>
    cases y with
    | succeeded request' payload' artifact' execution' =>
      exact absurd hstream.symm success_ne_failure
    | failed request' execution' failure' =>
      exact failureRecord_inj hstream

/-- Calls that agree end in the same outcome. -/
theorem SameCall.outcome_eq {x y : ResultCall P} (h : SameCall x y) {a b : BuildResult P}
    (ha : x.run = .ok a) (hb : y.run = .ok b) : a.outcome = b.outcome := by
  cases x with
  | succeeded request payload artifact execution =>
    cases y with
    | succeeded request' payload' artifact' execution' =>
      obtain ⟨_, -, -, houtcome, -⟩ := BuildResult.succeeded_ok ha
      obtain ⟨_, -, -, houtcome', -⟩ := BuildResult.succeeded_ok hb
      rw [houtcome, houtcome']
    | failed request' execution' failure' => exact h.elim
  | failed request execution failure =>
    cases y with
    | succeeded request' payload' artifact' execution' => exact h.elim
    | failed request' execution' failure' =>
      rw [(BuildResult.failed_ok ha).2.1, (BuildResult.failed_ok hb).2.1]

/-- The binding of a success is the digest of its binding record. -/
theorem artifactBinding_eq {request : BuildRequest P} {payload : PayloadManifest P.sha256}
    {artifact : SealedArtifact P.sha256} {execution : ExecutionEvidenceIdentity}
    {result : BuildResult P} (h : (succeeded request payload artifact execution).run = .ok result) :
    result.artifactBinding = some (binding request payload artifact) := by
  obtain ⟨computed, hbinding, -, -, -, -, -, -, hresult, -⟩ := BuildResult.succeeded_ok h
  rw [hresult, Identity.eq_ofDigest hbinding]
  rfl

/-- Without a collision, bindings are equal exactly when what they bind is. -/
theorem binding_eq_iff {as bs : List Bytes} (hno : ¬ Collides P.sha256 (as ++ bs))
    {request request' : BuildRequest P} {payload payload' : PayloadManifest P.sha256}
    {artifact artifact' : SealedArtifact P.sha256}
    (ha : [payload.stream, artifact.stream, (bindingRecord request payload artifact).stream] ⊆ as)
    (hb : [payload'.stream, artifact'.stream, (bindingRecord request' payload' artifact').stream]
      ⊆ bs) :
    binding request payload artifact = binding request' payload' artifact' ↔
      request.identity = request'.identity ∧ payload.entries = payload'.entries ∧
        SameArtifact artifact artifact' := by
  constructor
  · intro h
    have hstream := Identity.stream_eq hno (Identity.fromSha256_finish _ _ _)
      (Identity.fromSha256_finish _ _ _) (ha (by simp)) (hb (by simp)) h
    obtain ⟨hrequest, hpayload, hartifact⟩ := bindingRecord_inj hstream
    exact ⟨hrequest, PayloadManifest.entries_eq hno (ha (by simp)) (hb (by simp)) hpayload,
      SealedArtifact.same hno (ha (by simp)) (hb (by simp)) hartifact⟩
  · rintro ⟨hrequest, hpayload, hartifact⟩
    rw [binding, binding, bindingRecord, bindingRecord, hrequest,
      PayloadManifest.identity_congr hpayload, hartifact.identity_eq, hartifact.completeDigest]

end ResultCall

/-- **A result identity binds the outcome.**  Two results that compare equal exhibit a collision
    among the streams hashed for them, or have the same outcome and come from calls that agree; and
    unless there is such a collision, the artifact bindings of two successes are equal exactly when
    request identities, payload entries and artifacts are. -/
theorem result_identity_binds (P : Platform) :
    (∀ (x y : ResultCall P) (a b : BuildResult P), x.run = .ok a → y.run = .ok b →
      a.equal b = true →
      Collides P.sha256 (x.streams ++ y.streams) ∨
        a.outcome = b.outcome ∧ ResultCall.SameCall x y) ∧
    ∀ (request request' : BuildRequest P) (payload payload' : PayloadManifest P.sha256)
      (artifact artifact' : SealedArtifact P.sha256)
      (execution execution' : ExecutionEvidenceIdentity) (a b : BuildResult P),
      (ResultCall.succeeded request payload artifact execution).run = .ok a →
      (ResultCall.succeeded request' payload' artifact' execution').run = .ok b →
      Collides P.sha256 ((ResultCall.succeeded request payload artifact execution).streams ++
          (ResultCall.succeeded request' payload' artifact' execution').streams) ∨
        (a.artifactBinding = b.artifactBinding ↔
          request.identity = request'.identity ∧ payload.entries = payload'.entries ∧
            SameArtifact artifact artifact') := by
  constructor
  · -- results compare by identity alone
    intro x y a b ha hb hequal
    have hidentity : a.identity = b.identity := of_decide_eq_true hequal
    by_cases hno : Collides P.sha256 (x.streams ++ y.streams)
    · exact Or.inl hno
    · have hsame := ResultCall.sameCall_of_identity_eq hno ha hb hidentity
      exact Or.inr ⟨hsame.outcome_eq ha hb, hsame⟩
  · intro request request' payload payload' artifact artifact' execution execution' a b ha hb
    rw [ResultCall.artifactBinding_eq ha, ResultCall.artifactBinding_eq hb, Option.some.injEq]
    by_cases hno : Collides P.sha256
        ((ResultCall.succeeded request payload artifact execution).streams ++
          (ResultCall.succeeded request' payload' artifact' execution').streams)
    · exact Or.inl hno
    · exact Or.inr (ResultCall.binding_eq_iff hno (List.subset_cons_self _ _)
        (List.subset_cons_self _ _))

end Pkgbuild

/-
  Where a result comes from: equality of results all the way down.

  A result compares by an identity, which is a digest over the identities of its request, payload
  and artifact, and these are digests over identities again, down to the edges and selections of the
  resolution and the bits of the environment.  `SameProvenance` says that two results agree on
  everything SPELLED OUT on any level.  Then

      a == b   →  a collision among the streams hashed on any level, or `SameProvenance a b`;
      `SameProvenance a b`  →  a == b, and the artifact bindings are equal

  (`result_provenance`), for results of any two calls: whatever the resolutions were, in whatever
  order they listed their facts, and whatever `std::sort` did with ties.
-/
import Pkgbuild.ResultIdentity

namespace Pkgbuild

open Checked RecordCode

variable {P : Platform} {sha256 : Sha256}

/-- What an artifact's record spells out. -/
def SealedArtifact.members (artifact : SealedArtifact sha256) :
    ArtifactEncoding × ArtifactCompression × UInt64 × Sha256Digest :=
  (artifact.encoding, artifact.compression, artifact.byteCount, artifact.completeDigest)

/-- The members as a tuple, and the members by name. -/
theorem SealedArtifact.members_eq_iff {a b : SealedArtifact sha256} :
    a.members = b.members ↔ SameArtifact a b := by
  simp only [members, Prod.mk.injEq]
  constructor
  · rintro ⟨hencoding, hcompression, hbyteCount, hdigest⟩
    exact ⟨hencoding, hcompression, hbyteCount, hdigest⟩
  · rintro ⟨hencoding, hcompression, hbyteCount, hdigest⟩
    exact ⟨hencoding, hcompression, hbyteCount, hdigest⟩

/-- The results agree on everything the records under their identities spell out. -/
structure SameProvenance (a b : BuildResult P) : Prop where
  outcome : a.outcome = b.outcome
  request : SameRequest a.request b.request
  execution : a.executionEvidence = b.executionEvidence
  payload : a.payload.map PayloadManifest.entries = b.payload.map PayloadManifest.entries
  artifact : a.artifact.map SealedArtifact.members = b.artifact.map SealedArtifact.members
  failure : a.failureEvidence = b.failureEvidence

/-- The streams hashed for a result, on every level. -/
def BuildResult.streams (result : BuildResult P) : List Bytes :=
  requestStreams result.request ++
    match result.payload, result.artifact, result.failureEvidence with
    | some payload, some artifact, _ =>
        (ResultCall.succeeded result.request payload artifact result.executionEvidence).streams
    | _, _, some failure =>
        (ResultCall.failed result.request result.executionEvidence failure).streams
    | _, _, none => []

/-- A result by the call that returned it. -/
inductive BuildResult.Called (result : BuildResult P) : Prop
  | succeeded {payload : PayloadManifest P.sha256} {artifact : SealedArtifact P.sha256}
      (hrun : (ResultCall.succeeded result.request payload artifact result.executionEvidence).run
        = .ok result)
      (houtcome : result.outcome = .succeeded) (hpayload : result.payload = some payload)
      (hartifact : result.artifact = some artifact) (hfailure : result.failureEvidence = none)
      (hstreams : result.streams = requestStreams result.request ++
        (ResultCall.succeeded result.request payload artifact result.executionEvidence).streams)
  | failed {failure : FailureEvidenceIdentity}
      (hrun : (ResultCall.failed result.request result.executionEvidence failure).run = .ok result)
      (houtcome : result.outcome = .failed) (hpayload : result.payload = none)
      (hartifact : result.artifact = none) (hfailure : result.failureEvidence = some failure)
      (hbinding : result.artifactBinding = none)
      (hstreams : result.streams = requestStreams result.request ++
        (ResultCall.failed result.request result.executionEvidence failure).streams)

/-- Every result is one that a factory returned. -/
theorem BuildResult.called (result : BuildResult P) : result.Called := by
  rcases result.built with ⟨payload, artifact, hrun⟩ | ⟨failure, hrun⟩
  · obtain ⟨_, -, -, houtcome, -, -, hpayload, hartifact, -, hfailure⟩ := succeeded_ok hrun
    refine .succeeded hrun houtcome hpayload hartifact hfailure ?_
    rw [streams, hpayload, hartifact]
  · obtain ⟨-, houtcome, -, -, hpayload, hartifact, hbinding, hfailure⟩ := failed_ok hrun
    refine .failed hrun houtcome hpayload hartifact hfailure hbinding ?_
    rw [streams, hpayload, hartifact, hfailure]

section Members

variable {a b : BuildResult P} {x y : ResultCall P}

/-- The streams of the requests are among those of the results. -/
theorem not_collides_requests (hno : ¬ Collides P.sha256 (a.streams ++ b.streams)) :
    ¬ Collides P.sha256 (requestStreams a.request ++ requestStreams b.request) := by
  refine fun h => hno (h.mono ?_)
  exact List.append_subset.mpr
    ⟨fun stream hmem => List.mem_append_left _ (List.mem_append_left _ hmem),
      fun stream hmem => List.mem_append_right _ (List.mem_append_left _ hmem)⟩

/-- So are those of the calls. -/
theorem not_collides_calls (hno : ¬ Collides P.sha256 (a.streams ++ b.streams))
    (ha : a.streams = requestStreams a.request ++ x.streams)
    (hb : b.streams = requestStreams b.request ++ y.streams) :
    ¬ Collides P.sha256 (x.streams ++ y.streams) := by
  refine fun h => hno (h.mono ?_)
  rw [ha, hb]
  exact List.append_subset.mpr
    ⟨fun stream hmem => List.mem_append_left _ (List.mem_append_right _ hmem),
      fun stream hmem => List.mem_append_right _ (List.mem_append_right _ hmem)⟩

/-- **Down.**  Without a collision, equal results have one provenance. -/
theorem sameProvenance_of_identity_eq (hno : ¬ Collides P.sha256 (a.streams ++ b.streams))
    (h : a.identity = b.identity) : SameProvenance a b := by
  have hrequest : a.request.identity = b.request.identity → SameRequest a.request b.request :=
    sameRequest_of_identity_eq (not_collides_requests hno)
  cases a.called with
  | succeeded hrun houtcome hpayload hartifact hfailure hstreams =>
    cases b.called with
    | succeeded hrun' houtcome' hpayload' hartifact' hfailure' hstreams' =>
      -- the call gives everything but what is under the request's identity
      obtain ⟨hidentity, hentries, hmembers, hexecution⟩ := ResultCall.sameCall_of_identity_eq
        (not_collides_calls hno hstreams hstreams') hrun hrun' h
      refine ⟨houtcome.trans houtcome'.symm, hrequest hidentity, hexecution, ?_, ?_,
        hfailure.trans hfailure'.symm⟩
      · rw [hpayload, hpayload', Option.map_some, Option.map_some, hentries]
      · rw [hartifact, hartifact', Option.map_some, Option.map_some,
          SealedArtifact.members_eq_iff.mpr hmembers]
    | failed hrun' _ _ _ _ _ hstreams' =>
      exact (ResultCall.sameCall_of_identity_eq (not_collides_calls hno hstreams hstreams') hrun
        hrun' h).elim
  | failed hrun houtcome hpayload hartifact hfailure _ hstreams =>
    cases b.called with
    | succeeded hrun' _ _ _ _ hstreams' =>
      exact (ResultCall.sameCall_of_identity_eq (not_collides_calls hno hstreams hstreams') hrun
        hrun' h).elim
    | failed hrun' houtcome' hpayload' hartifact' hfailure' _ hstreams' =>
      obtain ⟨hidentity, hexecution, hevidence⟩ := ResultCall.sameCall_of_identity_eq
        (not_collides_calls hno hstreams hstreams') hrun hrun' h
      refine ⟨houtcome.trans houtcome'.symm, hrequest hidentity, hexecution, ?_, ?_, ?_⟩
      · rw [hpayload, hpayload']
      · rw [hartifact, hartifact']
      · rw [hfailure, hfailure', hevidence]

/-- **Up.**  Results of one provenance have one identity and one binding. -/
theorem identity_eq_of_sameProvenance (h : SameProvenance a b) :
    a.identity = b.identity ∧ a.artifactBinding = b.artifactBinding := by
  have hrequest := identity_eq_of_sameRequest h.request
  have houtcomes := h.outcome
  cases a.called with
  | @succeeded payload artifact hrun houtcome hpayload hartifact _ _ =>
    cases b.called with
    | @succeeded payload' artifact' hrun' houtcome' hpayload' hartifact' _ _ =>
      have hentries := h.payload
      have hmembers := h.artifact
      rw [hpayload, hpayload', Option.map_some, Option.map_some, Option.some.injEq] at hentries
      rw [hartifact, hartifact', Option.map_some, Option.map_some, Option.some.injEq,
        SealedArtifact.members_eq_iff] at hmembers
      -- identities are recomputed from below: payload and artifact, binding, result
      have hmanifest := PayloadManifest.identity_congr hentries
      have hbinding : ResultCall.binding a.request payload artifact
          = ResultCall.binding b.request payload' artifact' := by
        rw [ResultCall.binding, ResultCall.binding, bindingRecord, bindingRecord, hrequest,
          hmanifest, hmembers.identity_eq, hmembers.completeDigest]
      constructor
      · rw [Identity.eq_ofDigest (ResultCall.identity_ok hrun),
          Identity.eq_ofDigest (ResultCall.identity_ok hrun')]
        show Identity.ofDigest _ (P.sha256 (successRecord _ _ _ _ _).stream)
          = Identity.ofDigest _ (P.sha256 (successRecord _ _ _ _ _).stream)
        rw [hbinding, successRecord, successRecord, hrequest, hmanifest, hmembers.identity_eq,
          h.execution]
      · rw [ResultCall.artifactBinding_eq hrun, ResultCall.artifactBinding_eq hrun', hbinding]
    | failed _ houtcome' =>
      rw [houtcome, houtcome'] at houtcomes
      cases houtcomes
  | failed hrun houtcome _ _ hfailure hbinding _ =>
    cases b.called with
    | succeeded _ houtcome' =>
      rw [houtcome, houtcome'] at houtcomes
      cases houtcomes
    | failed hrun' houtcome' _ _ hfailure' hbinding' _ =>
      have hevidence := h.failure
      rw [hfailure, hfailure', Option.some.injEq] at hevidence
      refine ⟨?_, hbinding.trans hbinding'.symm⟩
      rw [Identity.eq_ofDigest (ResultCall.identity_ok hrun),
        Identity.eq_ofDigest (ResultCall.identity_ok hrun')]
      show Identity.ofDigest _ (P.sha256 (failureRecord _ _ _).stream)
        = Identity.ofDigest _ (P.sha256 (failureRecord _ _ _).stream)
      rw [failureRecord, failureRecord, hrequest, h.execution, hevidence]

end Members

/-- **Provenance.**  Two results that compare equal exhibit a collision among the streams hashed for
    them on any level, or agree on everything spelled out on any level; and results that agree
    compare equal and carry one artifact binding.  (Every `BuildResult` is one that a factory
    returned: `BuildResult.built`.) -/
theorem result_provenance (P : Platform) (a b : BuildResult P) :
    (a.equal b = true →
      Collides P.sha256 (a.streams ++ b.streams) ∨ SameProvenance a b) ∧
    (SameProvenance a b → a.equal b = true ∧ a.artifactBinding = b.artifactBinding) := by
  constructor
  · intro hequal
    by_cases hno : Collides P.sha256 (a.streams ++ b.streams)
    · exact Or.inl hno
    · exact Or.inr (sameProvenance_of_identity_eq hno (of_decide_eq_true hequal))
  · intro h
    obtain ⟨hidentity, hbinding⟩ := identity_eq_of_sameProvenance h
    exact ⟨decide_eq_true hidentity, hbinding⟩

end Pkgbuild

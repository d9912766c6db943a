/-
  Digests and the texts they are rendered as.

  The renderer formats each byte by width and fill, the validator checks a length and two ranges of
  characters; neither mentions the other.  Byte by byte the renderer is a block code of width two
  (`hexCode`), whose blocks are the pairs of accepted characters and are ordered as the bytes are.
  The general facts about block codes then give an order-preserving bijection between digests and
  accepted texts (`exists_digest`, `renderHex_lt_iff`).

  Two things follow for the library as a whole:

  * an identity it computes always passes the check, so no call throws `invalid_identity`
    (`SparesInvalidIdentity`): this code is thrown by the check alone, and everything else in a call
    throws another one;
  * sorting inputs by identity text is sorting them by digest (`less_eq_digest`).
-/
import Pkgbuild.ManifestAnchors
import Pkgbuild.RequestIdentity
import Pkgbuild.Result

namespace Pkgbuild

open Checked Pkgsource Pkgcatalog Pkgresolve

/-! ## Every accepted text is a rendering -/

/-- An accepted character is the digit of some nibble. -/
theorem exists_nibble {byte : UInt8} (h : IsHexByte byte) : ∃ n < 16, hexDigit n = byte := by
  have hall : ∀ k < 256, IsHexByte k.toUInt8 → ∃ n < 16, hexDigit n = k.toUInt8 := by
    decide +kernel
  have hbyte : byte.toNat.toUInt8 = byte := UInt8.ofNat_toNat
  have hnibble := hall byte.toNat byte.toNat_lt
  rw [hbyte] at hnibble
  exact hnibble h

/-- A pair of accepted characters is the rendering of some byte, the one with these two nibbles. -/
theorem exists_byte {piece : Bytes} (hlength : piece.length = 2)
    (hpiece : ∀ byte ∈ piece, IsHexByte byte) : ∃ byte, renderByte byte = piece := by
  obtain ⟨high, low, rfl⟩ := List.length_eq_two.mp hlength
  obtain ⟨m, hm, rfl⟩ := exists_nibble (hpiece high (by simp))
  obtain ⟨n, hn, rfl⟩ := exists_nibble (hpiece low (by simp))
  have hvalue : (16 * m + n).toUInt8.toNat = 16 * m + n := by
    show (UInt8.ofNat (16 * m + n)).toNat = 16 * m + n
    rw [UInt8.toNat_ofNat', Nat.mod_eq_of_lt (by omega)]
  refine ⟨(16 * m + n).toUInt8, ?_⟩
  have hdiv : (16 * m + n) / 16 = m := by omega
  have hmod : (16 * m + n) % 16 = n := by omega
  rw [renderByte_eq, hvalue, hdiv, hmod]

/-- **Every accepted text is the rendering of a digest.** -/
theorem exists_digest {value : Bytes} (h : IsSha256Hex value) :
    ∃ digest, renderHex digest = value := by
  obtain ⟨hlength, hbytes⟩ := h
  -- the 64 characters are cut into 32 pairs
  obtain ⟨bytes, hcount, hencode⟩ := hexCode.exists_encode (p := IsHexByte)
    (fun piece => exists_byte) 32 (show value.length = 32 * 2 from hlength) hbytes
  have hsize : bytes.toArray.size = 32 := by rw [List.size_toArray, hcount]
  refine ⟨⟨bytes.toArray, hsize⟩, ?_⟩
  show hexCode.encode bytes.toArray.toList = value
  rw [List.toList_toArray, hencode]

/-! ## Order -/

/-- The digits stand in the order of the nibbles: '9' comes before 'a'. -/
theorem hexDigit_lt_iff {m n : Nat} (hm : m < 16) (hn : n < 16) :
    hexDigit m < hexDigit n ↔ m < n := by
  have hall : ∀ m < 16, ∀ n < 16, (hexDigit m < hexDigit n ↔ m < n) := by decide
  exact hall m hm n hn

/-- The high digit is compared first, as it weighs more. -/
theorem renderByte_lt_iff (a b : UInt8) : renderByte a < renderByte b ↔ a < b := by
  have ha := a.toNat_lt
  have hb := b.toNat_lt
  have hhigh : hexDigit (a.toNat / 16) < hexDigit (b.toNat / 16) ↔ a.toNat / 16 < b.toNat / 16 :=
    hexDigit_lt_iff (by omega) (by omega)
  have hlow : hexDigit (a.toNat % 16) < hexDigit (b.toNat % 16) ↔ a.toNat % 16 < b.toNat % 16 :=
    hexDigit_lt_iff (by omega) (by omega)
  have hsame : hexDigit (a.toNat / 16) = hexDigit (b.toNat / 16) ↔ a.toNat / 16 = b.toNat / 16 :=
    ⟨hexDigit_inj (by omega) (by omega), congrArg hexDigit⟩
  rw [renderByte_eq, renderByte_eq, List.cons_lt_cons_iff, List.cons_lt_cons_iff, hhigh, hsame,
    hlow, UInt8.lt_iff_toNat_lt]
  have hnil : ¬ ([] : Bytes) < [] := List.not_lt_nil _
  -- the bytes are compared by the high nibble and then by the low one, as the texts are by their
  -- first character and then by the second
  constructor
  · rintro (hlt | ⟨heq, hlt | ⟨-, hlt⟩⟩)
    · omega
    · omega
    · exact absurd hlt hnil
  · intro hlt
    rcases Nat.lt_or_ge (a.toNat / 16) (b.toNat / 16) with h | h
    · exact Or.inl h
    · exact Or.inr ⟨by omega, Or.inl (by omega)⟩

/-- **Rendered texts are ordered as the digests.** -/
theorem renderHex_lt_iff (a b : Digest) : renderHex a < renderHex b ↔ a.toList < b.toList := by
  have hlength : a.toList.length = b.toList.length := by
    rw [Vector.length_toList, Vector.length_toList]
  exact hexCode.encode_lt_iff renderByte_lt_iff hlength

/-! ## Calls that compute identities -/

/-- An error `require_sha256_hex` throws.  Everything else in the library throws another code, so
    the code alone tells them apart. -/
def IsInvalidIdentity (error : Error) : Prop := error.code = .invalidIdentity

section Calls

variable {P : Platform} {sha256 : Sha256} {resolution : ResolutionResult}
  {subject : PackageSelectionIdentity}

/-- What `invalid` of `model.cpp` throws has a code of its own. -/
theorem spares_invalidModel (message : Bytes) : ¬ IsInvalidIdentity (invalidModel message) := nofun

/-- And so has what `invalid` of `request.cpp` throws. -/
theorem spares_invalidRequest (message : Bytes) : ¬ IsInvalidIdentity (invalidRequest message) :=
  nofun

/-- `require_selection` refuses in two places, the second match and the missing one, under
    `invalid_request` both times. -/
theorem requireSelection_spares (identity : PackageSelectionIdentity) :
    Avoids IsInvalidIdentity (requireSelection resolution identity) := by
  refine Avoids.bind ?_ fun found => ?_
  · exact avoids_scanSole (fun _ => avoids_ok) (spares_invalidRequest _)
  cases found with
  | none => exact avoids_error (spares_invalidRequest _)
  | some selection => exact avoids_ok

/-- A missing candidate is refused under `invalid_request`, with the text of whoever asked. -/
theorem requireCandidate_spares (selection : SelectedPackage) (message : Bytes) :
    Avoids IsInvalidIdentity (requireCandidate selection (invalidRequest message)) := by
  unfold requireCandidate
  cases selection.candidate with
  | none => exact avoids_error (spares_invalidRequest _)
  | some candidate => exact avoids_ok

/-- One edge of the inner loop: it is passed over, or its selection is looked up. -/
theorem probeEdge_spares (requirement : ResolvedRequirement) (edge : RequirementEdge) :
    Avoids IsInvalidIdentity (probeEdge resolution subject requirement edge) := by
  unfold probeEdge
  split
  · exact avoids_ok
  · exact (requireSelection_spares _).bind fun _ => avoids_ok

/-- A scope that is neither `build` nor `check` is refused under `invalid_request`. -/
theorem inputScopeFrom_spares (scope : RequirementScope) :
    Avoids IsInvalidIdentity (inputScopeFrom scope) := by
  unfold inputScopeFrom
  split
  · exact avoids_ok
  · exact avoids_ok
  · exact avoids_error (spares_invalidRequest _)

/-- A turn of the requirement loop: refusals under `invalid_request` alone, and an input identity
    that passes the check. -/
theorem admitRequirement_spares (candidate : CatalogCandidate) (state : AdmitState sha256)
    (requirement : ResolvedRequirement) : Avoids IsInvalidIdentity
      (admitRequirement sha256 resolution subject candidate state requirement) := by
  have hscan : Avoids IsInvalidIdentity (scanSole (probeEdge resolution subject requirement)
      (invalidRequest (ascii "build requirement has ambiguous resolver authority"))
      resolution.edges) :=
    avoids_scanSole (probeEdge_spares requirement) (spares_invalidRequest _)
  refine hscan.bind fun found => ?_
  cases found with
  | none => exact avoids_error (spares_invalidRequest _)
  | some found =>
    obtain ⟨edge, required⟩ := found
    refine Avoids.bind (avoids_refuse (spares_invalidRequest _)) fun _ => ?_
    refine Avoids.bind (avoids_refuse (spares_invalidRequest _)) fun _ => ?_
    refine Avoids.bind (avoids_refuse (spares_invalidRequest _)) fun _ => ?_
    refine (inputScopeFrom_spares _).bind fun scope => ?_
    exact Identity.avoids_finish.attach.bind fun _ => avoids_ok

/-- `admit`: the checks on the subject, the requirement loop, the sweep, and the identity of the
    set, which passes the check because it was rendered. -/
theorem admit_spares (P : Platform) (resolution : ResolutionResult)
    (subject : PackageSelectionIdentity) :
    Avoids IsInvalidIdentity <| BuildInputSet.admit P resolution subject := by
  refine (requireSelection_spares _).bind fun selection => ?_
  refine (requireCandidate_spares _ _).bind fun candidate => ?_
  refine Avoids.bind (avoids_refuse (spares_invalidRequest _)) fun _ => ?_
  refine Avoids.bind (avoids_refuse (spares_invalidRequest _)) fun _ => ?_
  refine Avoids.bind (avoids_foldlM (admitRequirement_spares candidate)) fun _ => ?_
  refine Avoids.bind (avoids_forM (fun _ => avoids_refuse (spares_invalidRequest _)) _) fun _ => ?_
  exact Identity.avoids_finish.bind fun _ => avoids_ok

/-- `architecture_binding::select`: two refusals under `invalid_request`. -/
theorem select_spares (declared : ArchitectureRequirements) (build target : ArchitectureReference) :
    Avoids IsInvalidIdentity (ArchitectureBinding.select declared build target) := by
  refine Avoids.bind (avoids_refuse (spares_invalidRequest _)) fun _ => ?_
  exact Avoids.bind (avoids_refuse (spares_invalidRequest _)) fun _ => avoids_ok

/-- `build_request::seal`: admission, the candidate once more, the architectures and the identity.
    -/
theorem request_spares (subject : PackageSelectionIdentity) (policy : BuildPolicy P.sha256) :
    Avoids IsInvalidIdentity (BuildRequest.seal P resolution subject policy) := by
  refine (admit_spares P resolution subject).attach.bind fun inputs => ?_
  refine (requireCandidate_spares _ _).attach.bind fun candidate => ?_
  refine (select_spares _ _ _).attach.bind fun architectures => ?_
  exact Identity.avoids_finish.attach.bind fun _ => avoids_ok

/-- `build_policy::make`: one refusal, and the identity. -/
theorem policy_spares (environment : EnvironmentPolicy sha256) (outputLayout : OutputLayoutKind) :
    Avoids IsInvalidIdentity (BuildPolicy.make environment outputLayout) := by
  refine (avoids_refuse (spares_invalidRequest _)).attach.bind fun _ => ?_
  exact Identity.avoids_finish.attach.bind fun _ => avoids_ok

/-- `environment_policy::hermetic`: the three bounds are refused under `invalid_model`. -/
theorem environment_spares (parallelism fileCreationMask : UInt32)
    (sourceDateEpoch : Option Int64) :
    Avoids IsInvalidIdentity
      (EnvironmentPolicy.hermetic sha256 parallelism fileCreationMask sourceDateEpoch) := by
  refine (avoids_refuse (spares_invalidModel _)).attach.bind fun _ => ?_
  refine (avoids_refuse (spares_invalidModel _)).attach.bind fun _ => ?_
  refine (avoids_refuse (spares_invalidModel _)).attach.bind fun _ => ?_
  exact Identity.avoids_finish.attach.bind fun _ => avoids_ok

/-- `payload_manifest::seal`: all refusals of its loop are under `invalid_model`. -/
theorem manifest_spares (entries : List PayloadEntry) :
    Avoids IsInvalidIdentity (PayloadManifest.seal sha256 entries) :=
  seal_avoids (fun message _ => spares_invalidModel message) sha256 entries

/-- `sealed_artifact::make`: an encoding or a compression it does not know is refused under
    `invalid_model`. -/
theorem artifact_spares (encoding : ArtifactEncoding) (compression : ArtifactCompression)
    (byteCount : UInt64) (digest : Sha256Digest) : Avoids IsInvalidIdentity
      (SealedArtifact.make sha256 encoding compression byteCount digest) := by
  refine (avoids_refuse (spares_invalidModel _)).attach.bind fun _ => ?_
  refine (avoids_refuse (spares_invalidModel _)).attach.bind fun _ => ?_
  exact Identity.avoids_finish.attach.bind fun _ => avoids_ok

/-- `build_result::succeeded` computes two identities, of the binding and of the result, and checks
    nothing else here. -/
theorem succeeded_spares (request : BuildRequest P) (payload : PayloadManifest P.sha256)
    (artifact : SealedArtifact P.sha256) (execution : ExecutionEvidenceIdentity) :
    Avoids IsInvalidIdentity (BuildResult.succeeded request payload artifact execution) := by
  refine Identity.avoids_finish.attach.bind fun _ => ?_
  exact Identity.avoids_finish.attach.bind fun _ => avoids_ok

/-- `build_result::failed` computes one identity, and checks nothing else here. -/
theorem failed_spares (request : BuildRequest P) (execution : ExecutionEvidenceIdentity)
    (failure : FailureEvidenceIdentity) :
    Avoids IsInvalidIdentity (BuildResult.failed request execution failure) :=
  Identity.avoids_finish.attach.bind fun _ => avoids_ok

end Calls

/-- No call that computes an identity throws `invalid_identity`: one field for each of the eight. -/
structure SparesInvalidIdentity (P : Platform) : Prop where
  inputs : ∀ resolution subject,
    Avoids IsInvalidIdentity <| BuildInputSet.admit P resolution subject
  request : ∀ resolution subject policy,
    Avoids IsInvalidIdentity (BuildRequest.seal P resolution subject policy)
  policy : ∀ (environment : EnvironmentPolicy P.sha256) outputLayout,
    Avoids IsInvalidIdentity (BuildPolicy.make environment outputLayout)
  environment : ∀ parallelism fileCreationMask sourceDateEpoch, Avoids IsInvalidIdentity
    (EnvironmentPolicy.hermetic P.sha256 parallelism fileCreationMask sourceDateEpoch)
  manifest : ∀ entries, Avoids IsInvalidIdentity (PayloadManifest.seal P.sha256 entries)
  artifact : ∀ encoding compression byteCount digest, Avoids IsInvalidIdentity
    (SealedArtifact.make P.sha256 encoding compression byteCount digest)
  succeeded : ∀ (request : BuildRequest P) payload artifact execution,
    Avoids IsInvalidIdentity (BuildResult.succeeded request payload artifact execution)
  failed : ∀ (request : BuildRequest P) execution failure,
    Avoids IsInvalidIdentity (BuildResult.failed request execution failure)

/-! ## Sorting by digest -/

/-- The digest an input's identity is the rendering of. -/
def BuildInput.digest {sha256 : Sha256} (input : BuildInput sha256) : Digest := sha256 input.stream

/-- The text an input is sorted by is the rendering of its digest. -/
theorem BuildInput.hex_eq {sha256 : Sha256} (input : BuildInput sha256) :
    input.identity.hex = renderHex input.digest := by
  rw [Identity.eq_ofDigest input.identity_eq]
  rfl

/-- Inputs compare as their digests do. -/
theorem BuildInput.less_eq_digest {sha256 : Sha256} (a b : BuildInput sha256) :
    a.less b = decide (a.digest.toList < b.digest.toList) := by
  have hiff : a.identity.hex < b.identity.hex ↔ a.digest.toList < b.digest.toList := by
    rw [a.hex_eq, b.hex_eq]
    exact renderHex_lt_iff a.digest b.digest
  exact decide_eq_decide.mpr hiff

/-- **The rendering is an order-preserving bijection** between digests and the texts
    `require_sha256_hex` accepts.  So no call throws `invalid_identity` for an identity it computes,
    and inputs sorted by identity are sorted by digest. -/
theorem rendering_bijective (P : Platform) :
    (∀ digest, requireSha256Hex (renderHex digest) = .ok ()) ∧
    (∀ value, requireSha256Hex value = .ok () → ∃! digest, renderHex digest = value) ∧
    (∀ a b : Digest, renderHex a < renderHex b ↔ a.toList < b.toList) ∧
    SparesInvalidIdentity P ∧
    (∀ a b : BuildInput P.sha256, a.less b = decide (a.digest.toList < b.digest.toList)) ∧
    ∀ inputs : List (BuildInput P.sha256),
      ((P.sortInputs.run inputs).map fun input => input.digest.toList).Pairwise
        fun a b => ¬ b < a := by
  refine ⟨?_, ?_, renderHex_lt_iff, ?_, BuildInput.less_eq_digest, ?_⟩
  · exact fun digest => requireSha256Hex_ok_iff.mpr (renderHex_canonical digest)
  · intro value hvalue
    obtain ⟨digest, hdigest⟩ := exists_digest (requireSha256Hex_ok_iff.mp hvalue)
    exact ⟨digest, hdigest, fun other hother => renderHex_injective (hother.trans hdigest.symm)⟩
  · exact ⟨admit_spares P, fun _ => request_spares, policy_spares, environment_spares,
      manifest_spares, artifact_spares, succeeded_spares, failed_spares⟩
  · exact P.sortInputs.pairwise_key BuildInput.less_eq_digest

end Pkgbuild

/-
  What a sealed request agrees with.

  The parts of a request come from different places — the subject from the resolution's selections,
  the source from the subject's candidate, the architectures from the subject, the inputs from the
  edges — and each was checked against a different one of the others.  `Agrees` collects what these
  checks amount to for ANY resolution, with no assumption on edge identities; `seal_agrees` says
  when `seal` comes through and that it then agrees.
-/
import Pkgbuild.AdmissionAuthority
import Pkgbuild.Request

namespace Pkgbuild

open Checked Correspondence Pkgsource Pkgcatalog Pkgresolve

variable {P : Platform} {resolution : ResolutionResult} {subject : PackageSelectionIdentity}

/-- What an input of an admitted set owes to the resolution and to the subject's source. -/
structure InputAgrees {sha256 : Sha256} (resolution : ResolutionResult)
    (subject : PackageSelectionIdentity) (source : SourceSnapshot) (input : BuildInput sha256) :
    Prop where
  edge : input.requirement ∈ resolution.edges
  issuer : input.requirement.issuer = subject
  environment : input.requirement.environment = .build
  required : input.requirement.required = input.selection.identity
  /-- The selection is the only one of the resolution with its identity. -/
  selection : Lookup resolution input.selection.identity input.selection
  selection_environment : input.selection.environment = .build
  scope : input.requirement.scope.kind = input.scope.kind
  witness_kind : input.requirement.witness.kind = .catalogSource
  witness_source : input.requirement.witness.catalogSource = some source.identity
  /-- The source declares the requirement, with this scope, package and origins. -/
  declared : ∃ requirement ∈ active resolution subject source,
    requirement.scope = input.requirement.scope ∧ requirement.package = input.package ∧
      requirement.origins = input.requirement.witness.catalogOrigins

theorem Admitted.inputAgrees {selection : SelectedPackage} {candidate : CatalogCandidate}
    {inputs : List (BuildInput P.sha256)}
    (h : Admitted P resolution subject selection candidate inputs) {input : BuildInput P.sha256}
    (hinput : input ∈ inputs) : InputAgrees resolution subject candidate.source input := by
  obtain ⟨requirement, hrequirement, hanswers⟩ := h.exists_answers hinput
  obtain ⟨hedge, hissuer, henvironment, -⟩ := mem_directEdges.mp hanswers.sole.mem
  obtain ⟨hkind, hsource, horigins⟩ := not_witnessDiffers_iff.mp hanswers.witness
  have hrequired := hanswers.selection.identity_eq
  have hkey := hanswers.key_eq
  have hlookup := hanswers.selection
  rw [← hrequired] at hlookup
  refine ⟨hedge, hissuer, henvironment, hrequired.symm, hlookup, hanswers.environment,
    h.scope_kind hinput, hkind, hsource, requirement, hrequirement, ?_, ?_, horigins.symm⟩
  · exact (congrArg Prod.fst hkey).symm
  · exact (congrArg Prod.snd hkey).symm

/-- The parts of a request agree with each other and with the resolution. -/
structure Agrees (P : Platform) (resolution : ResolutionResult)
    (subject : PackageSelectionIdentity) (policy : BuildPolicy P.sha256)
    (request : BuildRequest P) : Prop where
  lookup : Lookup resolution subject request.subject
  inputs_subject : request.inputs.subject = request.subject
  source : request.source.identity = request.subject.sourceSnapshot
  architectures : request.architectures = ⟨resolution.request.architectures.build,
    P.selectedTarget resolution.request.architectures request.subject.environment⟩
  inputs_resolution : request.inputs.resolution = resolution.identity
  policy : request.policy = policy
  /-- If the catalog's release of the subject is the release of its source's recipe. -/
  release : (∀ candidate, request.subject.candidate = some candidate →
      candidate.release = candidate.source.recipe.release) →
    request.release.identity = request.subject.release.identity
  inputs : ∀ input ∈ request.inputs.inputs, InputAgrees resolution subject request.source input

/-- Everything a sealed request agrees with was checked by `admit` or by `select`. -/
theorem BuildRequest.agrees {policy : BuildPolicy P.sha256} {request : BuildRequest P}
    (hset : BuildInputSet.admit P resolution subject = .ok request.inputs)
    (hpolicy : request.policy = policy) : Agrees P resolution subject policy request := by
  obtain ⟨selection, candidate, inputs, h, hassemble⟩ := admit_ok_iff.mp hset
  have hsubject : request.subject = selection := by rw [request.subject_eq, hassemble]; rfl
  -- the source is that of the admitted candidate
  obtain ⟨candidate', hcandidate', hsource⟩ := request.candidate_source
  rw [hsubject] at hcandidate'
  obtain rfl := Option.some.inj (h.candidate_eq.symm.trans hcandidate')
  obtain ⟨hsnapshot, hrelease, -⟩ := not_contradictsCandidate_iff.mp h.agrees
  obtain ⟨-, harchitectures⟩ := ArchitectureBinding.select_ok_iff.mp request.selected
  refine ⟨?_, request.subject_eq.symm, ?_, ?_, ?_, hpolicy, ?_, ?_⟩
  · rw [hsubject]
    exact h.lookup
  · rw [← hsource, hsubject]
    exact hsnapshot
  · rw [harchitectures, hsubject, h.architectures]
    rfl
  · rw [hassemble]
    rfl
  · intro hcatalog
    rw [hsubject] at hcatalog ⊢
    show request.source.recipe.release.identity = _
    rw [← hsource, ← hcatalog candidate h.candidate_eq]
    exact hrelease
  · intro input hinput
    rw [hassemble] at hinput
    rw [← hsource]
    exact h.inputAgrees (P.sortInputs.mem_run.mp hinput)

/-- **Sealing agrees.**  `seal` comes through exactly when the inputs are admitted and the source of
    the admitted subject's candidate declares the subject's architectures; and then all parts of the
    request agree with each other and with the resolution. -/
theorem seal_agrees (P : Platform) (resolution : ResolutionResult)
    (subject : PackageSelectionIdentity) (policy : BuildPolicy P.sha256) :
    ((∃ request, BuildRequest.seal P resolution subject policy = .ok request) ↔
      ∃ set candidate, BuildInputSet.admit P resolution subject = .ok set ∧
        set.subject.candidate = some candidate ∧
        DeclaresArchitectures candidate.source.recipe.architectures
          set.subject.architectures.build set.subject.architectures.target) ∧
    ∀ request, BuildRequest.seal P resolution subject policy = .ok request →
      Agrees P resolution subject policy request := by
  refine ⟨BuildRequest.exists_seal_iff, ?_⟩
  intro request hrequest
  obtain ⟨hset, hpolicy⟩ := BuildRequest.seal_ok_iff.mp hrequest
  exact BuildRequest.agrees hset hpolicy

/-- Four jobs, the usual mask, no source date. -/
def Sample.policy : BuildPolicy Sample.platform.sha256 where
  environment :=
    { parallelism := 4
      fileCreationMask := 0o022
      sourceDateEpoch := none
      identity := _
      parallelism_ne_zero := by decide
      fileCreationMask_le := by decide
      sourceDateEpoch_nonneg := by decide
      identity_eq := Identity.fromSha256_finish _ _ _ }
  outputLayout := .packageRoot
  identity := _
  outputLayout_eq := rfl
  identity_eq := Identity.fromSha256_finish _ _ _

/-- The checked root is sealed, and its request agrees. -/
theorem seal_agrees_checked : ∃ request,
    BuildRequest.seal Sample.platform (Sample.checkedResolution [Sample.goal .check])
        ⟨Sample.hex 0x61⟩ Sample.policy = .ok request ∧
      Agrees Sample.platform (Sample.checkedResolution [Sample.goal .check]) ⟨Sample.hex 0x61⟩
        Sample.policy request := by
  obtain ⟨hseal, hagrees⟩ := seal_agrees Sample.platform
    (Sample.checkedResolution [Sample.goal .check]) ⟨Sample.hex 0x61⟩ Sample.policy
  obtain ⟨set, hset⟩ := Sample.checkedResolution_admitted
  obtain ⟨selection, candidate, inputs, h, hassemble⟩ := admit_ok_iff.mp hset
  have hsubject : set.subject = Sample.root [Sample.tester] := by
    rw [hassemble]
    exact h.lookup.unique (Sample.checkedResolution_lookup [Sample.goal .check])
  obtain ⟨request, hrequest⟩ := hseal.mpr ⟨set, Sample.candidate [Sample.tester], hset,
    by rw [hsubject]; rfl, by rw [hsubject]; exact ⟨Or.inr (by decide), Or.inl rfl⟩⟩
  exact ⟨request, hrequest, hagrees request hrequest⟩

end Pkgbuild

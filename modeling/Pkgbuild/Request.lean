/-
  Sealed build requests: `build_request::seal` (`request.cpp`).

  `seal` admits the subject's inputs, takes the source snapshot from the candidate of the ADMITTED
  subject, checks the subject's architectures against what the source declares, and hashes the
  whole.  The class has no other constructor, so a `BuildRequest` carries as fields what `seal`
  established on the way:

  * `admitted`         — the inputs came out of `BuildInputSet.admit` on some resolution;
  * `candidate_source` — the source is that of the subject's candidate;
  * `selected`         — the architectures came out of `ArchitectureBinding.select`;
  * `identity_eq`      — the identity is the digest of the request record.

  `seal_ok_iff` reads `seal` back: which request it returns, and exactly when.
-/
import Pkgbuild.AdmissionSpec

namespace Pkgbuild

open Checked Pkgsource Pkgcatalog Pkgresolve

/-! ## Architecture bindings -/

/-- An empty list declares nothing and allows everything. -/
def allowsArchitecture (declared : List ArchitectureReference) (selected : ArchitectureReference) :
    Bool :=
  declared.isEmpty || decide (selected ∈ declared)

theorem allowsArchitecture_iff {declared : List ArchitectureReference}
    {selected : ArchitectureReference} :
    allowsArchitecture declared selected = true ↔ declared = [] ∨ selected ∈ declared := by
  simp [allowsArchitecture]

/-- `architecture_binding`. -/
structure ArchitectureBinding where
  build : ArchitectureReference
  target : ArchitectureReference
deriving DecidableEq

/-- `architecture_binding::select`. -/
def ArchitectureBinding.select (declared : ArchitectureRequirements)
    (build target : ArchitectureReference) : Except Error ArchitectureBinding := do
  refuse (¬ allowsArchitecture declared.build build)
    (invalidRequest (ascii "selected build architecture is not declared by the source"))
  refuse (¬ allowsArchitecture declared.target target)
    (invalidRequest (ascii "selected target architecture is not declared by the source"))
  return ⟨build, target⟩

/-- The architectures are among the declared ones, list by list. -/
def DeclaresArchitectures (declared : ArchitectureRequirements)
    (build target : ArchitectureReference) : Prop :=
  (declared.build = [] ∨ build ∈ declared.build) ∧
    (declared.target = [] ∨ target ∈ declared.target)

/-- A binding is selected exactly when both architectures are declared, and it is the two of them.
    -/
theorem ArchitectureBinding.select_ok_iff {declared : ArchitectureRequirements}
    {build target : ArchitectureReference} {binding : ArchitectureBinding} :
    select declared build target = .ok binding ↔
      DeclaresArchitectures declared build target ∧ binding = ⟨build, target⟩ := by
  unfold select
  simp only [bind_ok_iff, refuse_ok_iff, pure_ok_iff, not_not, allowsArchitecture_iff]
  constructor
  · rintro ⟨_, hbuild, _, htarget, rfl⟩
    exact ⟨⟨hbuild, htarget⟩, rfl⟩
  · rintro ⟨⟨hbuild, htarget⟩, rfl⟩
    exact ⟨(), hbuild, (), htarget, rfl⟩

/-! ## Requests -/

/-- What `request_id` writes. -/
def requestRecord {sha256 : Sha256} (source : SourceSnapshot) (inputs : BuildInputSet sha256)
    (architectures : ArchitectureBinding) (policy : BuildPolicy sha256) : IdentityWriter :=
  let writer := IdentityWriter.new.text (literal "libpkgbuild/build-request/1")
  let writer := writer.text source.identity.hex
  let writer := writer.text inputs.identity.text
  let writer := writer.text architectures.build.name
  let writer := writer.text architectures.target.name
  writer.text policy.identity.text

/-- `request_id`: the digest of the request record. -/
def requestId {sha256 : Sha256} (source : SourceSnapshot) (inputs : BuildInputSet sha256)
    (architectures : ArchitectureBinding) (policy : BuildPolicy sha256) :
    Except Error BuildRequestIdentity :=
  Identity.fromSha256 _ ((requestRecord source inputs architectures policy).finish sha256)

/-- `build_request`; only `seal` makes one. -/
structure BuildRequest (P : Platform) where
  subject : SelectedPackage
  source : SourceSnapshot
  inputs : BuildInputSet P.sha256
  architectures : ArchitectureBinding
  policy : BuildPolicy P.sha256
  identity : BuildRequestIdentity
  admitted : ∃ resolution subjectIdentity,
    BuildInputSet.admit P resolution subjectIdentity = .ok inputs
  subject_eq : subject = inputs.subject
  candidate_source : ∃ candidate, subject.candidate = some candidate ∧ candidate.source = source
  selected : ArchitectureBinding.select source.recipe.architectures subject.architectures.build
    subject.architectures.target = .ok architectures
  identity_eq : requestId source inputs architectures policy = .ok identity

/-- `build_request::seal`. -/
def BuildRequest.seal (P : Platform) (resolution : ResolutionResult)
    (subjectIdentity : PackageSelectionIdentity) (policy : BuildPolicy P.sha256) :
    Except Error (BuildRequest P) := do
  let inputs ← attach <| BuildInputSet.admit P resolution subjectIdentity
  let subject := inputs.1.subject
  let candidate ← attach (requireCandidate subject
    (invalidRequest (ascii "build subject lost catalog source authority")))
  let source := candidate.1.source
  let architectures ← attach (ArchitectureBinding.select source.recipe.architectures
    subject.architectures.build subject.architectures.target)
  let identity ← attach (requestId source inputs.1 architectures.1 policy)
  return {
    subject, source, policy
    inputs := inputs.1
    architectures := architectures.1
    identity := identity.1
    admitted := ⟨resolution, subjectIdentity, inputs.2⟩
    subject_eq := rfl
    candidate_source := ⟨candidate.1, requireCandidate_ok_iff.mp candidate.2, rfl⟩
    selected := architectures.2
    identity_eq := identity.2 }

namespace BuildRequest

variable {P : Platform}

/-- `release`: the source's own, which is not hashed a second time. -/
def release (request : BuildRequest P) : PackageRelease := request.source.recipe.release

def selectedProfiles (request : BuildRequest P) : List SelectedProfile :=
  request.source.recipe.selectedBuildProfiles

def buildProgram (request : BuildRequest P) : Program := request.source.recipe.buildProgram

/-- A request is determined by its inputs and its policy: subject, source and architectures are
    derived, and the identity is computed. -/
theorem ext {a b : BuildRequest P} (hinputs : a.inputs = b.inputs) (hpolicy : a.policy = b.policy) :
    a = b := by
  obtain ⟨candidate, hcandidate, hsource⟩ := a.candidate_source
  obtain ⟨candidate', hcandidate', hsource'⟩ := b.candidate_source
  have hsubject : a.subject = b.subject := by rw [a.subject_eq, b.subject_eq, hinputs]
  rw [hsubject] at hcandidate
  obtain rfl := Option.some.inj (hcandidate.symm.trans hcandidate')
  have hsources : a.source = b.source := hsource.symm.trans hsource'
  have hselected := a.selected
  rw [hsubject, hsources] at hselected
  have harchitectures := Except.ok.inj (hselected.symm.trans b.selected)
  have hidentity := a.identity_eq
  rw [hsources, hinputs, harchitectures, hpolicy] at hidentity
  have hids := Except.ok.inj (hidentity.symm.trans b.identity_eq)
  cases a; cases b
  cases hinputs; cases hpolicy; cases hsubject; cases hsources; cases harchitectures; cases hids
  rfl

/-- **Sealing.**  `seal` returns a request exactly when the request's inputs are what `admit`
    returns and its policy is the given one. -/
theorem seal_ok_iff {resolution : ResolutionResult} {subjectIdentity : PackageSelectionIdentity}
    {policy : BuildPolicy P.sha256} {request : BuildRequest P} :
    BuildRequest.seal P resolution subjectIdentity policy = .ok request ↔
      BuildInputSet.admit P resolution subjectIdentity = .ok request.inputs ∧
        request.policy = policy := by
  unfold BuildRequest.seal
  constructor
  · intro h
    -- the four steps of `seal`, of which only the first is asked for here
    obtain ⟨inputs, -, h⟩ := bind_ok_iff.mp h
    obtain ⟨candidate, -, h⟩ := bind_ok_iff.mp h
    obtain ⟨architectures, -, h⟩ := bind_ok_iff.mp h
    obtain ⟨identity, -, h⟩ := bind_ok_iff.mp h
    obtain rfl := pure_ok_iff.mp h
    exact ⟨inputs.2, rfl⟩
  · rintro ⟨hinputs, hpolicy⟩
    -- the request's own fields say that each step comes through
    obtain ⟨candidate, hcandidate, hsource⟩ := request.candidate_source
    rw [request.subject_eq] at hcandidate
    have hselect := request.selected
    rw [request.subject_eq, ← hsource] at hselect
    have hidentity := request.identity_eq
    rw [← hsource, hpolicy] at hidentity
    have hcandidate : requireCandidate request.inputs.subject
        (invalidRequest (ascii "build subject lost catalog source authority")) = .ok candidate :=
      requireCandidate_ok_iff.mpr hcandidate
    refine bind_ok_iff.mpr ⟨⟨request.inputs, hinputs⟩, attach_ok_iff.mpr hinputs, ?_⟩
    refine bind_ok_iff.mpr ⟨⟨candidate, hcandidate⟩, attach_ok_iff.mpr hcandidate, ?_⟩
    refine bind_ok_iff.mpr ⟨⟨request.architectures, hselect⟩, attach_ok_iff.mpr hselect, ?_⟩
    refine bind_ok_iff.mpr ⟨⟨request.identity, hidentity⟩, attach_ok_iff.mpr hidentity, ?_⟩
    exact congrArg Except.ok (ext rfl hpolicy.symm)

/-- Every request is one that `seal` returned. -/
theorem exists_seal (request : BuildRequest P) : ∃ resolution subjectIdentity policy,
    BuildRequest.seal P resolution subjectIdentity policy = .ok request := by
  obtain ⟨resolution, subjectIdentity, hinputs⟩ := request.admitted
  exact ⟨resolution, subjectIdentity, request.policy, seal_ok_iff.mpr ⟨hinputs, rfl⟩⟩

/-- The request over an admitted set whose architectures the source declares. -/
def ofAdmitted {resolution : ResolutionResult} {subjectIdentity : PackageSelectionIdentity}
    (set : BuildInputSet P.sha256) (candidate : CatalogCandidate) (policy : BuildPolicy P.sha256)
    (hset : BuildInputSet.admit P resolution subjectIdentity = .ok set)
    (hcandidate : set.subject.candidate = some candidate)
    (hdeclares : DeclaresArchitectures candidate.source.recipe.architectures
      set.subject.architectures.build set.subject.architectures.target) : BuildRequest P where
  subject := set.subject
  source := candidate.source
  inputs := set
  architectures := ⟨set.subject.architectures.build, set.subject.architectures.target⟩
  policy := policy
  identity := _
  admitted := ⟨resolution, subjectIdentity, hset⟩
  subject_eq := rfl
  candidate_source := ⟨candidate, hcandidate, rfl⟩
  selected := ArchitectureBinding.select_ok_iff.mpr ⟨hdeclares, rfl⟩
  identity_eq := Identity.fromSha256_finish _ _ _

/-- `seal` comes through exactly when the inputs are admitted and the source of the subject's
    candidate declares the subject's architectures. -/
theorem exists_seal_iff {resolution : ResolutionResult}
    {subjectIdentity : PackageSelectionIdentity} {policy : BuildPolicy P.sha256} :
    (∃ request, BuildRequest.seal P resolution subjectIdentity policy = .ok request) ↔
      ∃ set candidate, BuildInputSet.admit P resolution subjectIdentity = .ok set ∧
        set.subject.candidate = some candidate ∧
        DeclaresArchitectures candidate.source.recipe.architectures
          set.subject.architectures.build set.subject.architectures.target := by
  constructor
  · rintro ⟨request, hrequest⟩
    obtain ⟨hset, -⟩ := seal_ok_iff.mp hrequest
    obtain ⟨candidate, hcandidate, hsource⟩ := request.candidate_source
    obtain ⟨hdeclares, -⟩ := ArchitectureBinding.select_ok_iff.mp request.selected
    rw [request.subject_eq] at hcandidate hdeclares
    rw [← hsource] at hdeclares
    exact ⟨request.inputs, candidate, hset, hcandidate, hdeclares⟩
  · rintro ⟨set, candidate, hset, hcandidate, hdeclares⟩
    exact ⟨ofAdmitted set candidate policy hset hcandidate hdeclares, seal_ok_iff.mpr ⟨hset, rfl⟩⟩

end BuildRequest

end Pkgbuild

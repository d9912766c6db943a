/-
  One request, whatever sorted it.

  `std::sort` is used twice: on the active requirements, under the provider's `operator<`, and on
  the collected inputs, under their identities.  The standard says nothing about ties, so two
  machines may look at the requirements in different orders: they collect the inputs in different
  orders, and they may throw different errors for one bad resolution.  What they cannot do is
  disagree on WHETHER a request is sealed, or on anything that is hashed for it:

  * `Admitted.resorted`    — an admission under one order is, up to the order of the collected
                             inputs, an admission under any other;
  * `admit_resorted`       — so the sorted inputs have the same identities in the same places, and
                             are the same inputs unless two of their streams collide;
  * `seal_reproducible`    — two machines given the same facts in any two orders refuse both, or
                             seal requests of one identity.
-/
import Pkgbuild.AdmissionCanonical
import Pkgbuild.AdmissionSlice
import Pkgbuild.RequestAgreement

namespace Pkgbuild

open Checked RecordCode Pkgsource Pkgcatalog Pkgresolve

/-! ## Other machines -/

/-- What orders the lists of a platform. -/
structure Sorting (sha256 : Sha256) where
  requirementLess : ResolvedRequirement → ResolvedRequirement → Bool
  sortRequirements : StdSort requirementLess
  sortInputs : StdSort (@BuildInput.less sha256)

/-- The platform with its lists ordered by other means. -/
abbrev Platform.sortedBy (P : Platform) (S : Sorting P.sha256) : Platform :=
  ⟨P.sha256, P.selectedTarget, S.requirementLess, S.sortRequirements, S.sortInputs⟩

/-- The means it has. -/
abbrev Platform.sorting (P : Platform) : Sorting P.sha256 :=
  ⟨P.requirementLess, P.sortRequirements, P.sortInputs⟩

variable {P : Platform} {sha256 : Sha256} {resolution : ResolutionResult}
  {subject : PackageSelectionIdentity} {selection : SelectedPackage} {candidate : CatalogCandidate}
  {inputs : List (BuildInput P.sha256)}

/-! ## Inputs -/

/-- **An admission is one under every order.**  Another platform's sort puts the requirements into
    another order, and the answers with them. -/
theorem Admitted.resorted (h : Admitted P resolution subject selection candidate inputs)
    (S : Sorting P.sha256) : ∃ inputs' : List (BuildInput P.sha256), inputs'.Perm inputs ∧
      Admitted (P.sortedBy S) resolution subject selection candidate inputs' := by
  -- the two orders of the active requirements
  have hrequirements := (directRequirements_perm (P.sortedBy S) resolution subject
    candidate.source).trans (directRequirements_perm P resolution subject candidate.source).symm
  obtain ⟨inputs', hanswers, hperm⟩ := List.perm_comp_forall₂ hrequirements h.answers
  refine ⟨inputs', hperm, h.lookup, h.candidate_eq, h.agrees, h.architectures, hanswers, ?_, ?_⟩
  · exact (hperm.map _).nodup_iff.mpr h.distinct
  · intro edge hedge
    exact (hperm.map _).mem_iff.mpr (h.declared edge hedge)

/-- The two sets differ in the order of inputs of one identity, if at all. -/
structure SameSet (a b : BuildInputSet sha256) : Prop where
  subject : a.subject = b.subject
  resolution : a.resolution = b.resolution
  inputs : a.inputs.Perm b.inputs
  identities : a.inputs.map BuildInput.identity = b.inputs.map BuildInput.identity
  identity : a.identity = b.identity
  order : a.inputs = b.inputs ∨ Collides sha256 (a.inputs.map BuildInput.stream)

/-- Inputs sorted by their identities have the same identities in the same places. -/
theorem identities_resorted (S : Sorting P.sha256) {inputs' : List (BuildInput P.sha256)}
    (hperm : inputs.Perm inputs') :
    (P.sortInputs.run inputs).map BuildInput.identity
      = (S.sortInputs.run inputs').map BuildInput.identity := by
  have hhex := P.sortInputs.map_key_eq_of_perm S.sortInputs (fun _ _ => rfl)
    (hperm.map fun input => input.identity.hex)
  have hinj : Function.Injective fun identity : BuildInputIdentity => identity.hex :=
    fun _ _ => Identity.ext
  refine List.map_injective_iff.mpr hinj ?_
  rw [List.map_map, List.map_map]
  exact hhex

/-- What is admitted under one order is admitted under every other. -/
theorem admit_resorted (S : Sorting P.sha256) {set : BuildInputSet P.sha256}
    (hset : BuildInputSet.admit P resolution subject = .ok set) :
    ∃ set', BuildInputSet.admit (P.sortedBy S) resolution subject = .ok set' ∧
      SameSet set set' := by
  obtain ⟨selection, candidate, inputs, h, rfl⟩ := admit_ok_iff.mp hset
  obtain ⟨inputs', hperm, h'⟩ := h.resorted S
  have hidentities := identities_resorted S hperm.symm
  refine ⟨_, admit_ok_iff.mpr ⟨selection, candidate, inputs', h', rfl⟩, rfl, rfl, ?_, hidentities,
    ?_, ?_⟩
  · exact (P.sortInputs.perm inputs).trans (hperm.symm.trans (S.sortInputs.perm inputs').symm)
  · show Identity.ofDigest _ _ = Identity.ofDigest _ _
    rw [inputSetRecord_eq, inputSetRecord_eq, inputSetFields_congr hidentities]
  · by_cases hno : Collides P.sha256 (inputs.map BuildInput.stream)
    · refine Or.inr (hno.mono ?_)
      exact ((P.sortInputs.perm inputs).map BuildInput.stream).symm.subset
    · -- sorted strictly, there is one order
      have hno' : ¬ Collides P.sha256 (inputs'.map BuildInput.stream) :=
        fun hcollides => hno (hcollides.mono (hperm.map _).subset)
      have hpermuted : (P.sortInputs.run inputs).Perm (S.sortInputs.run inputs') :=
        (P.sortInputs.perm inputs).trans (hperm.symm.trans (S.sortInputs.perm inputs').symm)
      refine Or.inl (hpermuted.eq_of_pairwise (fun a b _ _ hab hba => ?_) (h.sorted_strictly hno)
        (h'.sorted_strictly hno'))
      have hlt := of_decide_eq_true hab
      exact absurd (of_decide_eq_true hba) (List.lt_asymm hlt)

/-! ## Requests -/

/-- Two machines sealed the same request, up to the order of inputs of one identity. -/
structure SameSealed {S : Sorting P.sha256} (a : BuildRequest P) (b : BuildRequest (P.sortedBy S)) :
    Prop where
  subject : a.subject = b.subject
  source : a.source = b.source
  inputs : SameSet a.inputs b.inputs
  architectures : a.architectures = b.architectures
  policy : a.policy = b.policy
  identity : a.identity = b.identity

/-- The parts follow from the inputs and the policy. -/
theorem sameSealed_of_inputs {S : Sorting P.sha256} {a : BuildRequest P}
    {b : BuildRequest (P.sortedBy S)} (hinputs : SameSet a.inputs b.inputs)
    (hpolicy : a.policy = b.policy) : SameSealed a b := by
  have hsubject : a.subject = b.subject := by
    rw [a.subject_eq, b.subject_eq, hinputs.subject]
  obtain ⟨candidate, hcandidate, hsource⟩ := a.candidate_source
  obtain ⟨candidate', hcandidate', hsource'⟩ := b.candidate_source
  rw [hsubject, hcandidate'] at hcandidate
  cases hcandidate
  have hsources : a.source = b.source := hsource.symm.trans hsource'
  have harchitectures : a.architectures = b.architectures := by
    have hselect := a.selected
    rw [hsources, hsubject, b.selected] at hselect
    exact (Except.ok.inj hselect).symm
  refine ⟨hsubject, hsources, hinputs, harchitectures, hpolicy, ?_⟩
  have hidentity : requestId a.source a.inputs a.architectures a.policy
      = requestId b.source b.inputs b.architectures b.policy := by
    unfold requestId requestRecord
    rw [hsources, hinputs.identity, harchitectures, hpolicy]
  exact Except.ok.inj (a.identity_eq.symm.trans (hidentity.trans b.identity_eq))

theorem seal_resorted (S : Sorting P.sha256) {policy : BuildPolicy P.sha256}
    {request : BuildRequest P}
    (h : BuildRequest.seal P resolution subject policy = .ok request) :
    ∃ request' : BuildRequest (P.sortedBy S),
      BuildRequest.seal (P.sortedBy S) resolution subject policy = .ok request' ∧
        SameSealed request request' := by
  obtain ⟨set, candidate, hset, hcandidate, hdeclares⟩ :=
    BuildRequest.exists_seal_iff.mp ⟨request, h⟩
  obtain ⟨hinputs, hpolicy⟩ := BuildRequest.seal_ok_iff.mp h
  obtain rfl := Except.ok.inj (hinputs.symm.trans hset)
  obtain ⟨set', hset', hsame⟩ := admit_resorted S hset
  rw [hsame.subject] at hcandidate hdeclares
  obtain ⟨request', hrequest'⟩ : ∃ request' : BuildRequest (P.sortedBy S),
      BuildRequest.seal (P.sortedBy S) resolution subject policy = .ok request' :=
    BuildRequest.exists_seal_iff.mpr ⟨set', candidate, hset', hcandidate, hdeclares⟩
  obtain ⟨hinputs', hpolicy'⟩ := BuildRequest.seal_ok_iff.mp hrequest'
  obtain rfl := Except.ok.inj (hset'.symm.trans hinputs')
  exact ⟨request', hrequest', sameSealed_of_inputs hsame (hpolicy.trans hpolicy'.symm)⟩

/-- A request is sealed from the same facts in every order. -/
theorem seal_reordered {resolution' : ResolutionResult} (h : Reordered resolution resolution')
    (policy : BuildPolicy P.sha256) (request : BuildRequest P) :
    BuildRequest.seal P resolution subject policy = .ok request ↔
      BuildRequest.seal P resolution' subject policy = .ok request := by
  rw [BuildRequest.seal_ok_iff, BuildRequest.seal_ok_iff]
  refine and_congr_left fun _ => admit_congr (h.sliceMatch subject) h.identity (fun _ _ _ _ => ?_) _
  rw [isCheckGoalMember_congr h.inCheckGoal_iff]

/-- **Requests are reproducible.**  Two machines that hash alike and know the same target
    architectures, but sort by other means, are given the same facts in two orders: either both
    refuse, or they seal the same request, with the same identity, and the same inputs in the same
    places unless two input streams of one digest are at hand. -/
theorem seal_reproducible (P : Platform) (S : Sorting P.sha256)
    (resolution resolution' : ResolutionResult) (h : Reordered resolution resolution')
    (subject : PackageSelectionIdentity) (policy : BuildPolicy P.sha256) :
    (∀ request, BuildRequest.seal P resolution subject policy = .ok request →
      ∃ request', BuildRequest.seal (P.sortedBy S) resolution' subject policy = .ok request' ∧
        SameSealed request request') ∧
    ∀ request' : BuildRequest (P.sortedBy S),
      BuildRequest.seal (P.sortedBy S) resolution' subject policy = .ok request' →
      ∃ request, BuildRequest.seal P resolution subject policy = .ok request ∧
        SameSealed request request' := by
  have hforward : ∀ request, BuildRequest.seal P resolution subject policy = .ok request →
      ∃ request', BuildRequest.seal (P.sortedBy S) resolution' subject policy = .ok request' ∧
        SameSealed request request' := by
    intro request hrequest
    exact seal_resorted S ((seal_reordered h policy request).mp hrequest)
  refine ⟨hforward, fun request' hrequest' => ?_⟩
  -- back to the first machine, and forward again
  obtain ⟨request, hrequest, -⟩ :=
    @seal_resorted (P.sortedBy S) resolution' subject P.sorting policy request' hrequest'
  have hrequest : BuildRequest.seal P resolution subject policy = .ok request :=
    (seal_reordered h policy request).mpr hrequest
  obtain ⟨request'', hrequest'', hsame⟩ := hforward request hrequest
  obtain rfl := Except.ok.inj (hrequest''.symm.trans hrequest')
  exact ⟨request, hrequest, hsame⟩

namespace Sample

/-- A machine on which no requirement is less than another, and which leaves such lists alone. -/
def recipeOrder : Sorting platform.sha256 where
  requirementLess _ _ := false
  sortRequirements := ⟨id, List.Perm.refl, fun _ => List.pairwise_of_forall fun _ _ => rfl⟩
  sortInputs := platform.sortInputs

theorem checkedResolution_sealed : ∃ request,
    BuildRequest.seal platform (checkedResolution [goal .check]) ⟨hex 0x61⟩ policy
      = .ok request := by
  decide +kernel

/-- Every list turned around. -/
def reversedResolution : ResolutionResult :=
  { checkedResolution [goal .check] with
    selections := (checkedResolution []).selections.reverse
    edges := (checkedResolution []).edges.reverse }

theorem reversedResolution_reordered :
    Reordered (checkedResolution [goal .check]) reversedResolution :=
  ⟨rfl, rfl, (List.reverse_perm _).symm, (List.reverse_perm _).symm, _, .refl _,
    List.forall₂_same.mpr fun _ _ => ⟨rfl, .refl _⟩⟩

end Sample

/-- The checked root, its requirements taken in recipe order on the other machine. -/
theorem seal_reproducible_reversed : ∃ request request',
    BuildRequest.seal Sample.platform (Sample.checkedResolution [Sample.goal .check])
      ⟨Sample.hex 0x61⟩ Sample.policy = .ok request ∧
    BuildRequest.seal (Sample.platform.sortedBy Sample.recipeOrder) Sample.reversedResolution
      ⟨Sample.hex 0x61⟩ Sample.policy = .ok request' ∧
    SameSealed request request' := by
  obtain ⟨request, hrequest⟩ := Sample.checkedResolution_sealed
  obtain ⟨request', hrequest', hsame⟩ := (seal_reproducible Sample.platform Sample.recipeOrder _ _
    Sample.reversedResolution_reordered ⟨Sample.hex 0x61⟩ Sample.policy).1 request hrequest
  exact ⟨request, request', hrequest, hrequest', hsame⟩

end Pkgbuild

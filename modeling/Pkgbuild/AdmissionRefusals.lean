/-
  Why admission refuses: the texts of `build_input_set::admit` and what they say.

  `admit` throws `invalid_request` under twelve texts.  Each is given here the fact about the
  resolution it reports (`AdmissionRefusal.Holds`), with no loop and no order in it:

      admit P R s = .error e  →  e is `invalid_request` with a text whose fact HOLDS of R and s;
      some fact holds of R and s  →  admit refuses.

  So a refusal can be trusted, and nothing the texts could report gets past (`admit_refuses_iff`).

  1. **Texts and facts** — `AdmissionRefusal`, `message`, `Holds`; what they talk about are the
     requirements active for the subject (`Activated`), the edges eligible for one, and the edge and
     selection that answer one (`Matched`).
  2. **Every thrown text is true** — the inversion of the code, piece by piece.  The turn of the
     requirement loop that refuses comes after turns that succeeded, so what was consumed before it
     belongs to requirements of its own.
  3. **Every fact refuses** — none of them is consistent with `Admitted`.
  4. **Sealing** — `build_request::seal` adds two refusals of its own, on the architectures the
     source declares; a third one in its text never occurs (`seal_refuses`).
-/
import Pkgbuild.Request

namespace Pkgbuild

open Checked Correspondence Pkgsource Pkgcatalog Pkgresolve

variable {P : Platform} {resolution : ResolutionResult} {subject : PackageSelectionIdentity}
  {candidate : CatalogCandidate} {requirement : ResolvedRequirement} {edge : RequirementEdge}
  {selection : SelectedPackage} {identity : PackageSelectionIdentity} {e : Error}

/-! ## Texts and facts -/

/-- The candidate of the only selection with the subject's identity. -/
def Candidate (resolution : ResolutionResult) (subject : PackageSelectionIdentity)
    (candidate : CatalogCandidate) : Prop :=
  ∃ selection, Lookup resolution subject selection ∧ selection.candidate = some candidate

/-- The subject has the requirement to answer. -/
def Activated (resolution : ResolutionResult) (subject : PackageSelectionIdentity)
    (requirement : ResolvedRequirement) : Prop :=
  ∃ candidate, Candidate resolution subject candidate ∧
    requirement ∈ active resolution subject candidate.source

/-- An edge of the subject, of the requirement's scope, to a selection of its package. -/
def Offers (resolution : ResolutionResult) (subject : PackageSelectionIdentity)
    (requirement : ResolvedRequirement) (edge : RequirementEdge) : Prop :=
  Eligible subject requirement edge ∧ Names resolution requirement edge

/-- The one edge that offers the requirement, and the selection it leads to. -/
structure Matched (resolution : ResolutionResult) (subject : PackageSelectionIdentity)
    (requirement : ResolvedRequirement) (edge : RequirementEdge) (selection : SelectedPackage) :
    Prop where
  sole : Sole (Offers resolution subject requirement) resolution.edges edge
  selection : Lookup resolution edge.required selection

/-- The identities admission looks up: the subject's, and those required by an eligible edge. -/
def LookedUp (resolution : ResolutionResult) (subject identity : PackageSelectionIdentity) : Prop :=
  identity = subject ∨ ∃ requirement, Activated resolution subject requirement ∧
    ∃ edge ∈ resolution.edges, Eligible subject requirement edge ∧ edge.required = identity

inductive AdmissionRefusal where
  | duplicateSelection
  | absentSelection
  | noCandidate
  | contradictsCatalog
  | architecturesDiffer
  | ambiguousAuthority
  | lacksAuthority
  | foreignEnvironment
  | foreignWitness
  | edgeReused
  | foreignScope
  | undeclaredInput
deriving DecidableEq

namespace AdmissionRefusal

/-- The text of the refusal. -/
def message : AdmissionRefusal → Bytes
  | duplicateSelection => ascii "resolution duplicates a package selection identity"
  | absentSelection => ascii "build subject or requirement names an absent package selection"
  | noCandidate => ascii "build subject must retain catalog source authority"
  | contradictsCatalog => ascii "build subject contradicts its catalog authority"
  | architecturesDiffer =>
      ascii "build subject architecture context differs from resolution request"
  | ambiguousAuthority => ascii "build requirement has ambiguous resolver authority"
  | lacksAuthority => ascii "build requirement lacks exact resolver authority"
  | foreignEnvironment => ascii "build requirement selected a non-build environment package"
  | foreignWitness => ascii "build requirement witness differs from source authority"
  | edgeReused => ascii "resolver edge satisfies more than one build requirement"
  | foreignScope => ascii "build input uses a non-build requirement scope"
  | undeclaredInput => ascii "resolution contains an undeclared direct build input"

/-- What the refusal reports. -/
def Holds (P : Platform) (resolution : ResolutionResult) (subject : PackageSelectionIdentity) :
    AdmissionRefusal → Prop
  | duplicateSelection => ∃ identity, LookedUp resolution subject identity ∧
      ∃ first second, [first, second].Sublist resolution.selections ∧
        first.identity = identity ∧ second.identity = identity
  | absentSelection => ∃ identity, LookedUp resolution subject identity ∧
      ∀ selection ∈ resolution.selections, selection.identity ≠ identity
  | noCandidate => ∃ selection, Lookup resolution subject selection ∧ selection.candidate = none
  | contradictsCatalog => ∃ selection candidate, Lookup resolution subject selection ∧
      selection.candidate = some candidate ∧ ContradictsCandidate selection candidate
  | architecturesDiffer => ∃ selection, Lookup resolution subject selection ∧
      selection.architectures ≠ expectedArchitectures P resolution selection
  | ambiguousAuthority => ∃ requirement, Activated resolution subject requirement ∧
      ∃ first second, [first, second].Sublist resolution.edges ∧
        Offers resolution subject requirement first ∧ Offers resolution subject requirement second
  | lacksAuthority => ∃ requirement, Activated resolution subject requirement ∧
      ∀ edge ∈ resolution.edges, ¬ Offers resolution subject requirement edge
  | foreignEnvironment => ∃ requirement, Activated resolution subject requirement ∧
      ∃ edge selection, Matched resolution subject requirement edge selection ∧
        selection.environment ≠ .build
  | foreignWitness => ∃ candidate, Candidate resolution subject candidate ∧
      ∃ requirement ∈ active resolution subject candidate.source,
        ∃ edge selection, Matched resolution subject requirement edge selection ∧
          WitnessDiffers candidate requirement edge
  | edgeReused => ∃ candidate, Candidate resolution subject candidate ∧
      ∃ first second, [first, second].Subperm (active resolution subject candidate.source) ∧
        ∃ edge edge' selection selection', Matched resolution subject first edge selection ∧
          Matched resolution subject second edge' selection' ∧ edge.identity = edge'.identity
  | foreignScope => ∃ requirement, Activated resolution subject requirement ∧
      requirement.scope.kind ≠ .build ∧ requirement.scope.kind ≠ .check
  | undeclaredInput => ∃ edge ∈ directEdges resolution subject,
      ∀ requirement edge' selection, Activated resolution subject requirement →
        Matched resolution subject requirement edge' selection → edge'.identity ≠ edge.identity

/-- The error thrown with the text. -/
def error (refusal : AdmissionRefusal) : Error := invalidRequest refusal.message

/-- The error is a refusal of admission, and what it says is true. -/
def Truthful (P : Platform) (resolution : ResolutionResult) (subject : PackageSelectionIdentity)
    (e : Error) : Prop :=
  ∃ refusal : AdmissionRefusal, e = refusal.error ∧ refusal.Holds P resolution subject

end AdmissionRefusal

open AdmissionRefusal

/-! ## Every thrown text is true -/

theorem Candidate.unique {candidate' : CatalogCandidate}
    (h : Candidate resolution subject candidate) (h' : Candidate resolution subject candidate') :
    candidate = candidate' := by
  obtain ⟨selection, hlookup, hcandidate⟩ := h
  obtain ⟨selection', hlookup', hcandidate'⟩ := h'
  obtain rfl := hlookup.unique hlookup'
  exact Option.some.inj (hcandidate.symm.trans hcandidate')

theorem Matched.unique {edge' : RequirementEdge} {selection' : SelectedPackage}
    (h : Matched resolution subject requirement edge selection)
    (h' : Matched resolution subject requirement edge' selection') :
    edge = edge' ∧ selection = selection' := by
  obtain rfl := h.sole.unique h'.sole
  exact ⟨rfl, h.selection.unique h'.selection⟩

/-- A lookup refuses an identity that two selections have, or none. -/
theorem requireSelection_error (h : requireSelection resolution identity = .error e)
    (hlooked : LookedUp resolution subject identity) : Truthful P resolution subject e := by
  unfold requireSelection at h
  rcases bind_error_iff.mp h with hscan | ⟨found, hscan, h⟩
  · rcases exists_of_scanSole_error hscan with ⟨_, -, hprobe⟩ | ⟨rfl, first, second, hsub, hx, hy⟩
    · cases hprobe
    · obtain ⟨_, hx⟩ := hx
      obtain ⟨_, hy⟩ := hy
      refine ⟨duplicateSelection, rfl, identity, hlooked, first, second, hsub, ?_, ?_⟩
      · by_contra hne
        simp [hne] at hx
      · by_contra hne
        simp [hne] at hy
  · cases found with
    | some selection => cases h
    | none =>
      obtain rfl := Except.error.inj h
      refine ⟨absentSelection, rfl, identity, hlooked, fun selection hmem heq => ?_⟩
      have hprobe := scanSole_none_iff.mp hscan selection hmem
      simp [heq] at hprobe

/-- A probe refuses where the lookup of its edge does. -/
theorem probeEdge_error (h : probeEdge resolution subject requirement edge = .error e) :
    Eligible subject requirement edge ∧ requireSelection resolution edge.required = .error e := by
  by_cases heligible : Eligible subject requirement edge
  · refine ⟨heligible, ?_⟩
    obtain ⟨hissuer, henvironment, hscope⟩ := heligible
    simp only [probeEdge, hissuer, henvironment, hscope, ne_eq, not_true_eq_false, or_self,
      if_false] at h
    rcases bind_error_iff.mp h with h | ⟨_, -, h⟩
    · exact h
    · cases h
  · rw [probeEdge_of_not_eligible heligible] at h
    cases h

/-- A probe finds exactly the edges that offer the requirement: of the right issuer, environment and
    scope, to a selection of the right package. -/
theorem offers_iff : (∃ found, probeEdge resolution subject requirement edge = .ok (some found)) ↔
    Offers resolution subject requirement edge := by
  constructor
  · rintro ⟨found, hfound⟩
    obtain ⟨heligible, -, hlookup, hpackage⟩ := probeEdge_some_iff.mp hfound
    exact ⟨heligible, heligible.2.2, found.2, hlookup, hpackage⟩
  · rintro ⟨heligible, -, selection, hlookup, hpackage⟩
    exact ⟨(edge, selection), probeEdge_some_iff.mpr ⟨heligible, rfl, hlookup, hpackage⟩⟩

/-- What the scan returns is what answers the requirement. -/
theorem matched_of_scan {again : Error} {found : RequirementEdge × SelectedPackage}
    (h : scanSole (probeEdge resolution subject requirement) again resolution.edges
      = .ok (some found)) : Matched resolution subject requirement found.1 found.2 := by
  obtain ⟨-, edge, hsole, hfound⟩ := scanSole_some_iff.mp h
  obtain ⟨-, hedge, hlookup, -⟩ := probeEdge_some_iff.mp hfound
  rw [hedge]
  exact ⟨(sole_congr fun edge _ => offers_iff).mp hsole, hlookup⟩

/-- **Step.**  A turn of the requirement loop refuses truthfully, or because the identity of the
    edge that answers the requirement was consumed. -/
theorem admitRequirement_error {sha256 : Sha256} {state : AdmitState sha256}
    (hcandidate : Candidate resolution subject candidate)
    (hactive : requirement ∈ active resolution subject candidate.source)
    (h : admitRequirement sha256 resolution subject candidate state requirement = .error e) :
    Truthful P resolution subject e ∨ e = edgeReused.error ∧
      ∃ edge selection, Matched resolution subject requirement edge selection ∧
        edge.identity ∈ state.consumed := by
  have hactivated : Activated resolution subject requirement := ⟨candidate, hcandidate, hactive⟩
  unfold admitRequirement at h
  rcases bind_error_iff.mp h with hscan | ⟨found, hscan, h⟩
  · left
    -- the scan threw: in the lookup of an eligible edge's selection, or at a second match
    rcases exists_of_scanSole_error hscan with
      ⟨edge, hedge, hprobe⟩ | ⟨rfl, first, second, hsub, hx, hy⟩
    · obtain ⟨heligible, hlookup⟩ := probeEdge_error hprobe
      refine requireSelection_error hlookup (Or.inr ?_)
      exact ⟨requirement, hactivated, edge, hedge, heligible, rfl⟩
    · exact ⟨ambiguousAuthority, rfl, requirement, hactivated, first, second, hsub,
        offers_iff.mp hx, offers_iff.mp hy⟩
  · cases found with
    | none =>
      obtain rfl := Except.error.inj h
      refine Or.inl ⟨lacksAuthority, rfl, requirement, hactivated, fun edge hedge hoffers => ?_⟩
      -- an edge that offers the requirement would have been found
      obtain ⟨found, hfound⟩ := offers_iff.mpr hoffers
      rw [scanSole_none_iff.mp hscan edge hedge] at hfound
      cases hfound
    | some found =>
      obtain ⟨edge, selection⟩ := found
      -- the scan found the match; what follows are the four checks on it, in the source's order
      have hmatched := matched_of_scan hscan
      rcases bind_error_iff.mp h with h | ⟨_, -, h⟩
      · obtain ⟨henvironment, rfl⟩ := refuse_error_iff.mp h
        exact Or.inl ⟨foreignEnvironment, rfl, requirement, hactivated, edge, selection, hmatched,
          henvironment⟩
      rcases bind_error_iff.mp h with h | ⟨_, -, h⟩
      · obtain ⟨hwitness, rfl⟩ := refuse_error_iff.mp h
        exact Or.inl ⟨foreignWitness, rfl, candidate, hcandidate, requirement, hactive, edge,
          selection, hmatched, hwitness⟩
      rcases bind_error_iff.mp h with h | ⟨_, -, h⟩
      · obtain ⟨hconsumed, rfl⟩ := refuse_error_iff.mp h
        exact Or.inr ⟨rfl, edge, selection, hmatched, hconsumed⟩
      rcases bind_error_iff.mp h with h | ⟨scope, -, h⟩
      · have hkind : ¬ (requirement.scope.kind = .build ∨ requirement.scope.kind = .check) := by
          rw [← inputScopeFrom_ok_iff]
          rintro ⟨scope, hscope⟩
          rw [hscope] at h
          cases h
        have hnot := not_or.mp hkind
        refine Or.inl ⟨foreignScope, ?_, requirement, hactivated, hnot⟩
        unfold inputScopeFrom at h
        split at h
        · cases h
        · cases h
        · exact (Except.error.inj h).symm
      · rcases bind_error_iff.mp h with h | ⟨_, -, h⟩
        · rw [inputId, Identity.fromSha256_finish] at h
          cases h
        · cases h

/-- An input that answers a requirement does so by its match. -/
theorem Answers.matched {sha256 : Sha256} {input : BuildInput sha256}
    (h : Answers resolution subject candidate requirement input) :
    Matched resolution subject requirement input.requirement input.selection := by
  have hkind := inputScopeFrom_ok_iff.mp ⟨input.scope, h.scope⟩
  have hsole := (sole_probeEdge_iff hkind).mpr h.sole
  exact ⟨(sole_congr fun edge _ => offers_iff).mp hsole, h.selection⟩

/-- **Run.**  The requirement loop refuses truthfully: an identity that was consumed before is that
    of the match of an earlier requirement. -/
theorem admitRequirements_error {sha256 : Sha256} {requirements : List ResolvedRequirement}
    (hcandidate : Candidate resolution subject candidate)
    (hperm : requirements.Perm (active resolution subject candidate.source))
    (h : requirements.foldlM (admitRequirement sha256 resolution subject candidate) ⟨[], []⟩
      = .error e) : Truthful P resolution subject e := by
  obtain ⟨before, requirement, after, state, rfl, hbefore, hturn⟩ := foldlM_error_iff.mp h
  obtain ⟨inputs, hanswers, -, rfl⟩ := (admitRequirements_ok_iff before state).mp hbefore
  have hactive : requirement ∈ active resolution subject candidate.source :=
    hperm.mem_iff.mp (by simp)
  rcases admitRequirement_error hcandidate hactive hturn with
    htruthful | ⟨rfl, edge, selection, hmatched, hconsumed⟩
  · exact htruthful
  · obtain ⟨input, hinput, hidentity⟩ := List.mem_map.mp hconsumed
    obtain ⟨earlier, hearlier, hanswer⟩ := exists_left_of_mem hanswers hinput
    have hsub : [earlier, requirement].Sublist (before ++ requirement :: after) :=
      (List.singleton_sublist.mpr hearlier).append
        (List.singleton_sublist.mpr List.mem_cons_self)
    exact ⟨edgeReused, rfl, candidate, hcandidate, earlier, requirement,
      hsub.subperm.trans hperm.subperm, input.requirement, edge, input.selection, selection,
      hanswer.matched, hmatched, hidentity⟩

/-- The second sweep refuses truthfully: the identities it knows are those of all matches. -/
theorem sweep_error {sha256 : Sha256} {inputs : List (BuildInput sha256)}
    {requirements : List ResolvedRequirement}
    (hcandidate : Candidate resolution subject candidate)
    (hperm : requirements.Perm (active resolution subject candidate.source))
    (hanswers : List.Forall₂ (Answers resolution subject candidate) requirements inputs)
    (h : forM resolution.edges (sweepEdge subject (inputs.map BuildInput.edgeIdentity))
      = .error e) : Truthful P resolution subject e := by
  obtain ⟨before, edge, after, hedges, -, hturn⟩ := forM_error_iff.mp h
  have hedge : edge ∈ resolution.edges := by simp [hedges]
  obtain ⟨⟨hdirect, hnot⟩, rfl⟩ := refuse_error_iff.mp hturn
  refine ⟨undeclaredInput, rfl, edge, mem_directEdges.mpr ⟨hedge, hdirect⟩, ?_⟩
  rintro requirement edge' selection ⟨candidate', hcandidate', hactive⟩ hmatched hidentity
  obtain rfl := hcandidate.unique hcandidate'
  obtain ⟨input, hinput, hanswer⟩ := exists_right_of_mem hanswers (hperm.mem_iff.mpr hactive)
  obtain ⟨rfl, -⟩ := hmatched.unique hanswer.matched
  exact hnot (List.mem_map.mpr ⟨input, hinput, hidentity⟩)

/-- **Refusals can be trusted.**  Whatever error `admit` throws, the fact it reports is one of the
    resolution; step by step along the source. -/
theorem admit_error (h : BuildInputSet.admit P resolution subject = .error e) :
    Truthful P resolution subject e := by
  unfold BuildInputSet.admit at h
  rcases bind_error_iff.mp h with h | ⟨selection, hselection, h⟩
  · exact requireSelection_error h (Or.inl rfl)
  -- from here on the subject is known, and with it the candidate
  have hlookup := requireSelection_ok_iff.mp hselection
  rcases bind_error_iff.mp h with h | ⟨candidate, hcandidate, h⟩
  · unfold requireCandidate at h
    split at h
    · rename_i hnone
      exact ⟨noCandidate, (Except.error.inj h).symm, selection, hlookup, hnone⟩
    · cases h
  have hsome := requireCandidate_ok_iff.mp hcandidate
  have hcandidate : Candidate resolution subject candidate := ⟨selection, hlookup, hsome⟩
  have hperm := directRequirements_perm P resolution subject candidate.source
  rcases bind_error_iff.mp h with h | ⟨_, -, h⟩
  · obtain ⟨hcontradicts, rfl⟩ := refuse_error_iff.mp h
    exact ⟨contradictsCatalog, rfl, selection, candidate, hlookup, hsome, hcontradicts⟩
  rcases bind_error_iff.mp h with h | ⟨_, -, h⟩
  · obtain ⟨harchitectures, rfl⟩ := refuse_error_iff.mp h
    exact ⟨architecturesDiffer, rfl, selection, hlookup, harchitectures⟩
  rcases bind_error_iff.mp h with h | ⟨state, hstate, h⟩
  · exact admitRequirements_error hcandidate hperm h
  -- the loop came through, so only the sweep is left
  obtain ⟨inputs, hanswers, -, rfl⟩ := (admitRequirements_ok_iff _ _).mp hstate
  rcases bind_error_iff.mp h with h | ⟨_, -, h⟩
  · exact sweep_error hcandidate hperm hanswers h
  rcases bind_error_iff.mp h with h | ⟨_, -, h⟩
  · rw [inputSetId, Identity.fromSha256_finish] at h
    cases h
  · cases h

/-! ## Every fact refuses -/

section Admitted

variable {inputs : List (BuildInput P.sha256)}
  (h : Admitted P resolution subject selection candidate inputs)

include h

theorem Admitted.has_candidate : Candidate resolution subject candidate :=
  ⟨selection, h.lookup, h.candidate_eq⟩

/-- What is activated for an admitted subject is answered. -/
theorem Admitted.answered (hactivated : Activated resolution subject requirement) :
    ∃ input ∈ inputs, Answers resolution subject candidate requirement input := by
  obtain ⟨candidate', hcandidate', hactive⟩ := hactivated
  obtain rfl := h.has_candidate.unique hcandidate'
  exact h.exists_input hactive

/-- What is looked up for an admitted subject is there, once. -/
theorem Admitted.resolved (hlooked : LookedUp resolution subject identity) :
    ∃ selection, Lookup resolution identity selection := by
  rcases hlooked with rfl | ⟨requirement, hactivated, edge, hedge, heligible, rfl⟩
  · exact ⟨selection, h.lookup⟩
  · obtain ⟨input, -, hanswer⟩ := h.answered hactivated
    have hkind := inputScopeFrom_ok_iff.mp ⟨input.scope, hanswer.scope⟩
    obtain ⟨hdirect, hscope⟩ := (eligible_iff_isDirect hkind).mp heligible
    exact hanswer.resolvable edge (mem_directEdges.mpr ⟨hedge, hdirect⟩) hscope

/-- Two requirements of an admitted subject are not matched with edges of one identity. -/
theorem Admitted.identity_ne {first second : ResolvedRequirement} {edge edge' : RequirementEdge}
    {selection selection' : SelectedPackage}
    (hpair : [first, second].Subperm (active resolution subject candidate.source))
    (hfirst : Matched resolution subject first edge selection)
    (hsecond : Matched resolution subject second edge' selection') :
    edge.identity ≠ edge'.identity := by
  intro hidentity
  have hperm := directRequirements_perm P resolution subject candidate.source
  obtain ⟨pair, hpair, hsub⟩ := hpair.trans hperm.symm.subperm
  obtain ⟨rest, hrest⟩ := hsub.exists_perm_append
  have hrest := hrest.trans (hpair.append_right rest)
  obtain ⟨inputs', hanswers, hinputs⟩ := List.perm_comp_forall₂ hrest.symm h.answers
  -- the two requirements first, so the two inputs first
  obtain ⟨input, others, hanswer, hothers, rfl⟩ := List.forall₂_cons_left_iff.mp hanswers
  obtain ⟨input', others, hanswer', -, rfl⟩ := List.forall₂_cons_left_iff.mp hothers
  have hdistinct := (hinputs.map BuildInput.edgeIdentity).nodup_iff.mpr h.distinct
  obtain ⟨rfl, -⟩ := hfirst.unique hanswer.matched
  obtain ⟨rfl, -⟩ := hsecond.unique hanswer'.matched
  have hidentity : input.edgeIdentity = input'.edgeIdentity := hidentity
  rw [List.map_cons, List.map_cons, hidentity] at hdistinct
  exact (List.nodup_cons.mp hdistinct).1 List.mem_cons_self

/-- **Admission refutes every refusal.**  Each of the twelve facts is at odds with one clause of the
    reading of an admission. -/
theorem Admitted.not_holds (refusal : AdmissionRefusal) :
    ¬ refusal.Holds P resolution subject := by
  cases refusal with
  | duplicateSelection =>
    rintro ⟨identity, hlooked, first, second, hpair, hfirst, hsecond⟩
    obtain ⟨selection, hlookup⟩ := h.resolved hlooked
    exact hlookup.not_pair hpair hfirst hsecond
  | absentSelection =>
    rintro ⟨identity, hlooked, habsent⟩
    obtain ⟨selection, hlookup⟩ := h.resolved hlooked
    exact habsent selection hlookup.mem hlookup.identity_eq
  | noCandidate =>
    rintro ⟨selection', hlookup, hnone⟩
    obtain rfl := h.lookup.unique hlookup
    rw [h.candidate_eq] at hnone
    cases hnone
  | contradictsCatalog =>
    rintro ⟨selection', candidate', hlookup, hcandidate, hcontradicts⟩
    obtain rfl := h.lookup.unique hlookup
    obtain rfl := Option.some.inj (h.candidate_eq.symm.trans hcandidate)
    exact h.agrees hcontradicts
  | architecturesDiffer =>
    rintro ⟨selection', hlookup, hdiffer⟩
    obtain rfl := h.lookup.unique hlookup
    exact hdiffer h.architectures
  | ambiguousAuthority =>
    rintro ⟨requirement, hactivated, first, second, hpair, hfirst, hsecond⟩
    obtain ⟨input, -, hanswer⟩ := h.answered hactivated
    exact hanswer.matched.sole.not_pair hpair hfirst hsecond
  | lacksAuthority =>
    rintro ⟨requirement, hactivated, hnone⟩
    obtain ⟨input, -, hanswer⟩ := h.answered hactivated
    exact hnone _ hanswer.matched.sole.mem hanswer.matched.sole.holds
  | foreignEnvironment =>
    rintro ⟨requirement, hactivated, edge, selection', hmatched, henvironment⟩
    obtain ⟨input, -, hanswer⟩ := h.answered hactivated
    obtain ⟨-, rfl⟩ := hmatched.unique hanswer.matched
    exact henvironment hanswer.environment
  | foreignWitness =>
    rintro ⟨candidate', hcandidate, requirement, hactive, edge, selection', hmatched, hwitness⟩
    obtain rfl := h.has_candidate.unique hcandidate
    obtain ⟨input, -, hanswer⟩ := h.exists_input hactive
    obtain ⟨rfl, -⟩ := hmatched.unique hanswer.matched
    exact hanswer.witness hwitness
  | edgeReused =>
    rintro ⟨candidate', hcandidate, first, second, hpair, edge, edge', selection, selection',
      hfirst, hsecond, hidentity⟩
    obtain rfl := h.has_candidate.unique hcandidate
    exact h.identity_ne hpair hfirst hsecond hidentity
  | foreignScope =>
    rintro ⟨requirement, hactivated, hbuild, hcheck⟩
    obtain ⟨input, -, hanswer⟩ := h.answered hactivated
    rcases inputScopeFrom_ok_iff.mp ⟨input.scope, hanswer.scope⟩ with hkind | hkind
    · exact hbuild hkind
    · exact hcheck hkind
  | undeclaredInput =>
    rintro ⟨edge, hedge, hundeclared⟩
    obtain ⟨input, hinput, hidentity⟩ := List.mem_map.mp (h.declared edge hedge)
    obtain ⟨requirement, hactive, hanswer⟩ := h.exists_answers hinput
    exact hundeclared requirement input.requirement input.selection
      ⟨candidate, h.has_candidate, hactive⟩ hanswer.matched hidentity

end Admitted

/-- **Refusals.**  Whatever `admit` throws is `invalid_request` under a text that is true of the
    resolution and the subject, and it throws exactly when one of the texts is true of them. -/
theorem admit_refuses_iff (P : Platform) (resolution : ResolutionResult)
    (subject : PackageSelectionIdentity) :
    (∀ e, BuildInputSet.admit P resolution subject = .error e →
      Truthful P resolution subject e) ∧
    ((∃ e, BuildInputSet.admit P resolution subject = .error e) ↔
      ∃ refusal : AdmissionRefusal, refusal.Holds P resolution subject) := by
  refine ⟨fun e => admit_error, ?_, ?_⟩
  · rintro ⟨e, h⟩
    obtain ⟨refusal, -, hholds⟩ := admit_error h
    exact ⟨refusal, hholds⟩
  · rintro ⟨refusal, hholds⟩
    cases hadmit : BuildInputSet.admit P resolution subject with
    | error e => exact ⟨e, rfl⟩
    | ok set =>
      obtain ⟨selection, candidate, inputs, hadmitted, -⟩ := admit_ok_iff.mp hadmit
      exact absurd hholds (hadmitted.not_holds refusal)

/-! ## Sealing -/

def undeclaredBuild : Error :=
  invalidRequest (ascii "selected build architecture is not declared by the source")

def undeclaredTarget : Error :=
  invalidRequest (ascii "selected target architecture is not declared by the source")

/-- The refusal of an admitted subject without a candidate. -/
def lostAuthority : Error :=
  invalidRequest (ascii "build subject lost catalog source authority")

/-- The error of `select`: the build architecture is looked at first. -/
def SelectRefuses (declared : ArchitectureRequirements) (build target : ArchitectureReference)
    (e : Error) : Prop :=
  ¬ (declared.build = [] ∨ build ∈ declared.build) ∧ e = undeclaredBuild ∨
    (declared.build = [] ∨ build ∈ declared.build) ∧
      ¬ (declared.target = [] ∨ target ∈ declared.target) ∧ e = undeclaredTarget

theorem select_error_iff {declared : ArchitectureRequirements}
    {build target : ArchitectureReference} :
    ArchitectureBinding.select declared build target = .error e ↔
      SelectRefuses declared build target e := by
  unfold ArchitectureBinding.select SelectRefuses
  simp only [bind_error_iff, refuse_error_iff, refuse_ok_iff, not_not, allowsArchitecture_iff]
  constructor
  · rintro (⟨hbuild, rfl⟩ | ⟨_, hbuild, ⟨htarget, rfl⟩ | ⟨_, -, h⟩⟩)
    · exact Or.inl ⟨hbuild, rfl⟩
    · exact Or.inr ⟨hbuild, htarget, rfl⟩
    · cases h
  · rintro (⟨hbuild, rfl⟩ | ⟨hbuild, htarget, rfl⟩)
    · exact Or.inl ⟨hbuild, rfl⟩
    · exact Or.inr ⟨(), hbuild, Or.inl ⟨htarget, rfl⟩⟩

/-- The subject of an admitted set has a candidate. -/
theorem admit_exists_candidate {set : BuildInputSet P.sha256}
    (h : BuildInputSet.admit P resolution subject = .ok set) :
    ∃ candidate, set.subject.candidate = some candidate := by
  obtain ⟨selection, candidate, inputs, hadmitted, rfl⟩ := admit_ok_iff.mp h
  exact ⟨candidate, hadmitted.candidate_eq⟩

/-- `seal` past admission: only `select` is left to refuse. -/
theorem seal_error_of_admitted {set : BuildInputSet P.sha256} {policy : BuildPolicy P.sha256}
    (hset : BuildInputSet.admit P resolution subject = .ok set)
    (hcandidate : set.subject.candidate = some candidate) :
    BuildRequest.seal P resolution subject policy = .error e ↔
      SelectRefuses candidate.source.recipe.architectures set.subject.architectures.build
        set.subject.architectures.target e := by
  rw [← select_error_iff]
  unfold BuildRequest.seal
  constructor
  · intro h
    rcases bind_error_iff.mp h with h | ⟨set', -, h⟩
    · rw [attach_error_iff, hset] at h
      cases h
    -- past admission: the candidate is there, and hashing cannot fail
    obtain rfl := Except.ok.inj (set'.2.symm.trans hset)
    rcases bind_error_iff.mp h with h | ⟨candidate', -, h⟩
    · rw [attach_error_iff, requireCandidate_ok_iff.mpr hcandidate] at h
      cases h
    have hcandidate' := requireCandidate_ok_iff.mp candidate'.2
    obtain rfl := Option.some.inj (hcandidate'.symm.trans hcandidate)
    rcases bind_error_iff.mp h with h | ⟨_, -, h⟩
    · exact attach_error_iff.mp h
    rcases bind_error_iff.mp h with h | ⟨_, -, h⟩
    · rw [attach_error_iff, requestId, Identity.fromSha256_finish] at h
      cases h
    · cases h
  · intro h
    refine bind_error_iff.mpr (Or.inr ⟨⟨set, hset⟩, attach_ok_iff.mpr hset, ?_⟩)
    have hrequired := @requireCandidate_ok_iff set.subject lostAuthority candidate
    have hrequired := hrequired.mpr hcandidate
    refine bind_error_iff.mpr (Or.inr ⟨⟨candidate, hrequired⟩, attach_ok_iff.mpr hrequired, ?_⟩)
    exact bind_error_iff.mpr (Or.inl (attach_error_iff.mpr h))

theorem admit_ne_lostAuthority (h : BuildInputSet.admit P resolution subject = .error e) :
    e ≠ lostAuthority := by
  obtain ⟨refusal, rfl, -⟩ := admit_error h
  intro heq
  have hmessage := congrArg Error.message heq
  cases refusal <;> exact absurd hmessage (by decide)

/-- **Refusals of sealing.**  `seal` refuses as admission does, and past admission exactly where
    the source of the subject's candidate does not declare the build architecture or, if it does,
    the target architecture.  That an admitted subject lost its candidate is never reported. -/
theorem seal_refuses (P : Platform) (resolution : ResolutionResult)
    (subject : PackageSelectionIdentity) (policy : BuildPolicy P.sha256) :
    (∀ e, BuildRequest.seal P resolution subject policy = .error e ↔
      BuildInputSet.admit P resolution subject = .error e ∨
      ∃ set candidate, BuildInputSet.admit P resolution subject = .ok set ∧
        set.subject.candidate = some candidate ∧
        SelectRefuses candidate.source.recipe.architectures set.subject.architectures.build
          set.subject.architectures.target e) ∧
    BuildRequest.seal P resolution subject policy ≠ .error lostAuthority := by
  have hiff : ∀ e, BuildRequest.seal P resolution subject policy = .error e ↔
      BuildInputSet.admit P resolution subject = .error e ∨
      ∃ set candidate, BuildInputSet.admit P resolution subject = .ok set ∧
        set.subject.candidate = some candidate ∧
        SelectRefuses candidate.source.recipe.architectures set.subject.architectures.build
          set.subject.architectures.target e := by
    intro e
    cases hadmit : BuildInputSet.admit P resolution subject with
    | error e' =>
      have hseal : BuildRequest.seal P resolution subject policy = .error e' :=
        bind_error_iff.mpr (Or.inl (attach_error_iff.mpr hadmit))
      -- `seal` passes on what admission threw
      simp [hseal]
    | ok set =>
      obtain ⟨candidate, hcandidate⟩ := admit_exists_candidate hadmit
      rw [seal_error_of_admitted hadmit hcandidate]
      constructor
      · exact fun h => Or.inr ⟨set, candidate, rfl, hcandidate, h⟩
      · rintro (h | ⟨set', candidate', hset, hcandidate', h⟩)
        · cases h
        · obtain rfl := Except.ok.inj hset
          obtain rfl := Option.some.inj (hcandidate.symm.trans hcandidate')
          exact h
  refine ⟨hiff, fun h => ?_⟩
  rcases (hiff lostAuthority).mp h with hadmit | ⟨_, _, -, -, ⟨-, heq⟩ | ⟨-, -, heq⟩⟩
  · exact admit_ne_lostAuthority hadmit rfl
  · exact absurd (congrArg Error.message heq) (by decide)
  · exact absurd (congrArg Error.message heq) (by decide)

end Pkgbuild

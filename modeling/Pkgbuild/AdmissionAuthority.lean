/-
  Resolver authority: admission as a bijection between requirements and edges.

  The manual page says it in one sentence: every source build or check requirement has one matching
  resolver edge, and missing, extra, ambiguous or cross-scope edges are rejected.  `Authorised` is
  the sentence as mathematics: naming is a BIJECTION between the positions of the active
  requirements and the positions of the direct edges, and every named edge carries the right
  selection environment and witness.

  When no two edges of the resolution share an identity, `admit` succeeds exactly on authorised
  subjects (`admit_iff_authorised`):

  * from the inputs to the bijection: the requirements of the inputs are the direct edges in another
    order (`Admitted.perm_directEdges`), and each is the sole edge naming its requirement;
  * from the bijection to the inputs: line the edges up with the SORTED requirements and turn each
    into an input (`Authorised.exists_answers`).
-/
import Pkgbuild.AdmissionSpec

namespace Pkgbuild

open Checked Correspondence Pkgsource Pkgcatalog Pkgresolve

/-! ## Authorised subjects -/

section Authorised

variable {P : Platform} {resolution : ResolutionResult} {subject : PackageSelectionIdentity}
  {selection : SelectedPackage} {candidate : CatalogCandidate} {inputs : List (BuildInput P.sha256)}

/-- The edge is the candidate source's own authority for the requirement. -/
structure Vouches (resolution : ResolutionResult) (candidate : CatalogCandidate)
    (requirement : ResolvedRequirement) (edge : RequirementEdge) : Prop where
  environment : ∀ required, Lookup resolution edge.required required → required.environment = .build
  kind : edge.witness.kind = .catalogSource
  source : edge.witness.catalogSource = some candidate.source.identity
  origins : edge.witness.catalogOrigins = requirement.origins

/-- The resolution authorises the build of the subject. -/
structure Authorised (P : Platform) (resolution : ResolutionResult)
    (subject : PackageSelectionIdentity) (selection : SelectedPackage)
    (candidate : CatalogCandidate) : Prop where
  lookup : Lookup resolution subject selection
  candidate_eq : selection.candidate = some candidate
  source : candidate.source.identity = selection.sourceSnapshot
  release : candidate.release.identity = selection.release.identity
  package : candidate.package = selection.package
  architectures : selection.architectures =
    ⟨resolution.request.architectures.build,
      P.selectedTarget resolution.request.architectures selection.environment⟩
  kind : ∀ requirement ∈ active resolution subject candidate.source,
    requirement.scope.kind = .build ∨ requirement.scope.kind = .check
  oneToOne : OneToOne (Names resolution) (active resolution subject candidate.source)
    (directEdges resolution subject)
  vouches : ∀ requirement ∈ active resolution subject candidate.source,
    ∀ edge ∈ directEdges resolution subject, Names resolution requirement edge →
      Vouches resolution candidate requirement edge

/-- The three comparisons of the subject with its candidate, as what has to be equal. -/
theorem not_contradictsCandidate_iff : ¬ ContradictsCandidate selection candidate ↔
    candidate.source.identity = selection.sourceSnapshot ∧
      candidate.release.identity = selection.release.identity ∧
      candidate.package = selection.package := by
  simp only [ContradictsCandidate, not_or, ne_eq, not_not]

/-- The four conditions on a witness, as what has to be so; that it has a source at all is in the
    second equation. -/
theorem not_witnessDiffers_iff {requirement : ResolvedRequirement} {edge : RequirementEdge} :
    ¬ WitnessDiffers candidate requirement edge ↔ edge.witness.kind = .catalogSource ∧
      edge.witness.catalogSource = some candidate.source.identity ∧
      edge.witness.catalogOrigins = requirement.origins := by
  simp only [WitnessDiffers, not_or, ne_eq, not_not]

/-- **What was admitted is authorised.**  The requirements of the inputs are the direct edges in
    another order, and they line up with the active requirements. -/
theorem Admitted.authorised (h : Admitted P resolution subject selection candidate inputs)
    (hdistinct : ((directEdges resolution subject).map RequirementEdge.identity).Nodup) :
    Authorised P resolution subject selection candidate := by
  obtain ⟨hsource, hrelease, hpackage⟩ := not_contradictsCandidate_iff.mp h.agrees
  have hactive := directRequirements_perm P resolution subject candidate.source
  have hline : List.Forall₂
      (fun requirement edge => Sole (Names resolution requirement)
        (directEdges resolution subject) edge)
      (directRequirements P candidate.source (isCheckGoalMember resolution subject))
      (inputs.map BuildInput.requirement) :=
    List.forall₂_map_right_iff.mpr (h.answers.imp fun _ _ hanswers => hanswers.sole)
  have hone := oneToOne_iff_lineUp.mpr ⟨_, hline, h.perm_directEdges hdistinct⟩
  refine ⟨h.lookup, h.candidate_eq, hsource, hrelease, hpackage, h.architectures, ?_,
    hone.perm_left hactive, ?_⟩
  · intro requirement hrequirement
    obtain ⟨input, -, hanswers⟩ := h.exists_input hrequirement
    exact inputScopeFrom_ok_iff.mp ⟨input.scope, hanswers.scope⟩
  · intro requirement hrequirement edge hedge hnames
    obtain ⟨input, -, hanswers⟩ := h.exists_input hrequirement
    -- the edge that names the requirement is the one that answered it
    obtain rfl := hanswers.sole.eq_of_mem hedge hnames
    obtain ⟨hkind, hwitness, horigins⟩ := not_witnessDiffers_iff.mp hanswers.witness
    refine ⟨?_, hkind, hwitness, horigins⟩
    intro required hrequired
    rw [hrequired.unique hanswers.selection]
    exact hanswers.environment

/-- The input `admit` makes of an edge. -/
def BuildInput.of (sha256 : Sha256) (scope : InputScope) (edge : RequirementEdge)
    (required : SelectedPackage) : BuildInput sha256 :=
  ⟨scope, edge, required, _, Identity.fromSha256_finish _ sha256 (inputRecord scope edge required)⟩

/-- The sole edge of an authorised requirement answers it. -/
theorem Authorised.exists_answers
    (h : Authorised P resolution subject selection candidate) {requirement : ResolvedRequirement}
    (hrequirement : requirement ∈ active resolution subject candidate.source)
    {edge : RequirementEdge}
    (hsole : Sole (Names resolution requirement) (directEdges resolution subject) edge) :
    ∃ input : BuildInput P.sha256,
      Answers resolution subject candidate requirement input ∧ input.requirement = edge := by
  obtain ⟨scope, hscope⟩ := inputScopeFrom_ok_iff.mpr (h.kind requirement hrequirement)
  obtain ⟨-, required, hlookup, -⟩ := hsole.holds
  have hvouches := h.vouches requirement hrequirement edge hsole.mem hsole.holds
  refine ⟨.of P.sha256 scope edge required, ⟨hscope, ?_, hsole, hlookup,
    hvouches.environment required hlookup, not_witnessDiffers_iff.mpr
      ⟨hvouches.kind, hvouches.source, hvouches.origins⟩⟩, rfl⟩
  -- every direct edge has a partner, so what it requires can be looked up
  intro other hother _
  obtain ⟨_, -, -, found, hfound, -⟩ := h.oneToOne.exists_left hother
  exact ⟨found, hfound⟩

/-- **What is authorised can be admitted.** -/
theorem Authorised.admitted (h : Authorised P resolution subject selection candidate)
    (hdistinct : ((directEdges resolution subject).map RequirementEdge.identity).Nodup) :
    ∃ inputs : List (BuildInput P.sha256),
      Admitted P resolution subject selection candidate inputs := by
  have hactive := directRequirements_perm P resolution subject candidate.source
  obtain ⟨edges, hline, hperm⟩ := oneToOne_iff_lineUp.mp (h.oneToOne.perm_left hactive.symm)
  have hanswered : List.Forall₂
      (fun requirement edge => ∃ input : BuildInput P.sha256,
        Answers resolution subject candidate requirement input ∧ input.requirement = edge)
      (directRequirements P candidate.source (isCheckGoalMember resolution subject)) edges := by
    -- each pair of the correspondence is one that the loop accepts
    have hboth := (List.forall₂_and_left _ _).mpr
      ⟨fun requirement hmem => hactive.mem_iff.mp hmem, hline⟩
    exact hboth.imp fun requirement edge ⟨hrequirement, hsole⟩ =>
      h.exists_answers hrequirement hsole
  obtain ⟨inputs, hanswers, rfl⟩ := exists_forall₂_of_map hanswered
  have hkeys : inputs.map BuildInput.edgeIdentity
      = (inputs.map BuildInput.requirement).map RequirementEdge.identity := List.map_map.symm
  refine ⟨inputs, h.lookup, h.candidate_eq,
    not_contradictsCandidate_iff.mpr ⟨h.source, h.release, h.package⟩, h.architectures, hanswers,
    ?_, ?_⟩
  · rw [hkeys]
    exact ((hperm.map _).nodup_iff).mpr hdistinct
  · intro edge hedge
    rw [hkeys]
    exact List.mem_map_of_mem (hperm.mem_iff.mpr hedge)

/-- **Admission is authority.**  When no two edges of the resolution share an identity, `admit`
    succeeds exactly on the subjects that the resolution authorises. -/
theorem admit_iff_authorised (P : Platform) (resolution : ResolutionResult)
    (subject : PackageSelectionIdentity)
    (hdistinct : (resolution.edges.map RequirementEdge.identity).Nodup) :
    (∃ set, BuildInputSet.admit P resolution subject = .ok set) ↔
      ∃ selection candidate, Authorised P resolution subject selection candidate := by
  have hdirect : ((directEdges resolution subject).map RequirementEdge.identity).Nodup :=
    hdistinct.sublist (List.filter_sublist.map _)
  constructor
  · rintro ⟨set, hset⟩
    obtain ⟨selection, candidate, inputs, h, -⟩ := admit_ok_iff.mp hset
    exact ⟨selection, candidate, h.authorised hdirect⟩
  · rintro ⟨selection, candidate, h⟩
    obtain ⟨inputs, hinputs⟩ := h.admitted hdirect
    exact ⟨_, admit_ok_iff.mpr ⟨selection, candidate, inputs, hinputs, rfl⟩⟩

end Authorised

/-! ### A worked example -/

namespace Sample

/-- A provider's identity: 64 times one hexadecimal digit. -/
def hex (digit : UInt8) : Text := ⟨List.replicate 64 digit, by simp⟩

/-- One architecture, for building and for running. -/
def architecture : ArchitectureReference := ⟨literal "x86_64"⟩

/-- A scope of a kind, with nothing else in it. -/
def scope (kind : RequirementScopeKind) : RequirementScope := ⟨kind, literal ""⟩

/-- What the root needs to build. -/
def tool : ResolvedRequirement := ⟨scope .build, ⟨literal "tool"⟩, [⟨literal "recipe.yml"⟩]⟩

/-- What the root needs to check. -/
def tester : ResolvedRequirement := ⟨scope .check, ⟨literal "tester"⟩, [⟨literal "recipe.yml"⟩]⟩

/-- The source of the root, which declares one build architecture and no target. -/
def source (checks : List ResolvedRequirement) : SourceSnapshot where
  identity := ⟨hex 0x63⟩
  recipe :=
    { release := ⟨⟨hex 0x64⟩⟩
      architectures := ⟨[architecture], []⟩
      buildRequirements := [tool]
      checkRequirements := checks
      selectedBuildProfiles := []
      buildProgram := ⟨literal "make"⟩ }

/-- A selection of the build environment. -/
def selected (identity : UInt8) (name : Text) (candidate : Option CatalogCandidate) :
    SelectedPackage where
  identity := ⟨hex identity⟩
  environment := .build
  architectures := ⟨architecture, architecture⟩
  candidate := candidate
  release := ⟨⟨hex 0x64⟩⟩
  sourceSnapshot := ⟨hex 0x63⟩
  package := ⟨name⟩

/-- The catalog's authority for the root. -/
def candidate (checks : List ResolvedRequirement) : CatalogCandidate :=
  ⟨source checks, ⟨⟨hex 0x64⟩⟩, ⟨literal "root"⟩⟩

/-- The root, selected with its candidate. -/
def root (checks : List ResolvedRequirement) : SelectedPackage :=
  selected 0x61 (literal "root") (some (candidate checks))

/-- A direct edge of the root, witnessed by its source. -/
def edge (identity required : UInt8) (kind : RequirementScopeKind) : RequirementEdge where
  issuer := ⟨hex 0x61⟩
  required := ⟨hex required⟩
  scope := scope kind
  environment := .build
  witness := ⟨.catalogSource, some ⟨hex 0x63⟩, [⟨literal "recipe.yml"⟩]⟩
  identity := ⟨hex identity⟩

/-- A goal of a kind with the root as its member. -/
def goal (kind : RequirementScopeKind) : ResolvedGoal :=
  ⟨⟨scope kind⟩, [⟨⟨hex 0x61⟩⟩]⟩

/-- A root that needs "tool" to build and `checks` to check, with "tool", "tester" and "other"
    selected. -/
def resolution (checks : List ResolvedRequirement) (edges : List RequirementEdge)
    (goals : List ResolvedGoal) : ResolutionResult where
  request := ⟨⟨architecture, architecture⟩⟩
  selections := [root checks, selected 0x62 (literal "tool") none,
    selected 0x65 (literal "tester") none, selected 0x66 (literal "other") none]
  edges := edges
  goals := goals
  identity := ⟨hex 0x38⟩

/-- The edge for "tool". -/
def toolEdge : RequirementEdge := edge 0x31 0x62 .build

/-- A root that needs "tool" to build, with an edge for it. -/
def toolResolution : ResolutionResult := resolution [] [toolEdge] []

/-- A root that needs "tool" to build and "tester" to check, with an edge for each. -/
def checkedResolution (goals : List ResolvedGoal) : ResolutionResult :=
  resolution [tester] [toolEdge, edge 0x32 0x65 .check] goals

/-- Insertion sort, and a hash that tells streams of different lengths apart. -/
def platform : Platform := .insertion fun stream => Vector.replicate 32 stream.length.toUInt8

/-- It is admitted, by running `admit`. -/
theorem toolResolution_admitted :
    ∃ set, BuildInputSet.admit platform toolResolution ⟨hex 0x61⟩ = .ok set := by
  decide +kernel

/-- With the root in a `check` goal both requirements are active, and both edges are used. -/
theorem checkedResolution_admitted :
    ∃ set, BuildInputSet.admit platform (checkedResolution [goal .check]) ⟨hex 0x61⟩
      = .ok set := by
  decide +kernel

/-- The root is looked up in it. -/
theorem checkedResolution_lookup (goals : List ResolvedGoal) :
    Lookup (checkedResolution goals) ⟨hex 0x61⟩ (root [tester]) := by
  -- the selections do not depend on the goals
  show Lookup (checkedResolution []) ⟨hex 0x61⟩ (root [tester])
  exact sole_iff_filter.mpr (by decide)

end Sample

/-- A build and a check requirement, an edge for each. -/
theorem admit_iff_authorised_checked :
    ((Sample.checkedResolution [Sample.goal .check]).edges.map RequirementEdge.identity).Nodup ∧
      ∃ selection candidate, Authorised Sample.platform
        (Sample.checkedResolution [Sample.goal .check]) ⟨Sample.hex 0x61⟩ selection candidate :=
  ⟨by decide, (admit_iff_authorised Sample.platform _ _ (by decide)).mp
    Sample.checkedResolution_admitted⟩

end Pkgbuild

/-
  What admission decides: the declarative reading of `build_input_set::admit`.

  `Admitted` says, without a loop, when a list of inputs is what `admit` builds for a subject.  Only
  a SLICE of the resolution appears in it — the selections with the subject's identity, the direct
  edges of the subject, the selections these edges require, and whether the subject is a member of a
  check goal — and the code is proved to compute exactly it:

      admit P R s = .ok set  ↔  ∃ S candidate inputs, Admitted … ∧ set = assemble P R S inputs

  (`admit_ok_iff`).  The proof follows the code: one lemma for each piece saying exactly when the
  piece comes through (`requireSelection_ok_iff`, `probeEdge_…`, `admitRequirement_ok_iff`), and
  the requirement loop by `Checked.foldlM_consume_iff`.

  The one place where the code looks OUTSIDE the slice is a requirement whose scope is neither build
  nor check: its edges are not direct.  Such a requirement never comes through (`inputScopeFrom`
  refuses it at the latest), so what the scan saw there does not matter.
-/
import Pkgbuild.Admission

namespace Pkgbuild

open Checked Correspondence Pkgsource Pkgcatalog Pkgresolve

/-! ## The declarative reading -/

/-- `selection` is the only selection of the resolution with the identity. -/
def Lookup (resolution : ResolutionResult) (identity : PackageSelectionIdentity)
    (selection : SelectedPackage) : Prop :=
  Sole (fun other => other.identity = identity) resolution.selections selection

/-- The direct edges of a subject, in resolution order. -/
def directEdges (resolution : ResolutionResult) (subject : PackageSelectionIdentity) :
    List RequirementEdge :=
  resolution.edges.filter fun edge => IsDirect subject edge

/-- The subject is a member of a goal of check scope. -/
def InCheckGoal (resolution : ResolutionResult) (subject : PackageSelectionIdentity) : Prop :=
  ∃ goal ∈ resolution.goals, goal.goal.scope.kind = .check ∧
    ∃ member ∈ goal.members, member.selection = subject

instance (resolution : ResolutionResult) (subject : PackageSelectionIdentity) :
    Decidable (InCheckGoal resolution subject) :=
  decidable_of_iff (isCheckGoalMember resolution subject = true)
    (by simp [isCheckGoalMember, InCheckGoal])

/-- The requirements active for a subject: the recipe's build requirements, and its check
    requirements when the subject is a member of a check goal. -/
def active (resolution : ResolutionResult) (subject : PackageSelectionIdentity)
    (source : SourceSnapshot) : List ResolvedRequirement :=
  activeRequirements source (decide (InCheckGoal resolution subject))

/-- The edge asks for the requirement: same scope, and the selection it requires is of the
    requirement's package. -/
def Names (resolution : ResolutionResult) (requirement : ResolvedRequirement)
    (edge : RequirementEdge) : Prop :=
  edge.scope = requirement.scope ∧
    ∃ selection, Lookup resolution edge.required selection ∧
      selection.package = requirement.package

/-- The input answers the requirement. -/
structure Answers {sha256 : Sha256} (resolution : ResolutionResult)
    (subject : PackageSelectionIdentity) (candidate : CatalogCandidate)
    (requirement : ResolvedRequirement) (input : BuildInput sha256) : Prop where
  scope : inputScopeFrom requirement.scope = .ok input.scope
  /-- No direct edge of this scope requires an absent or duplicated selection. -/
  resolvable : ∀ edge ∈ directEdges resolution subject, edge.scope = requirement.scope →
    ∃ selection, Lookup resolution edge.required selection
  sole : Sole (Names resolution requirement) (directEdges resolution subject) input.requirement
  selection : Lookup resolution input.requirement.required input.selection
  environment : input.selection.environment = .build
  witness : ¬ WitnessDiffers candidate requirement input.requirement

/-- `inputs` is what admission of `subject` collects, before sorting. -/
structure Admitted (P : Platform) (resolution : ResolutionResult)
    (subject : PackageSelectionIdentity) (selection : SelectedPackage)
    (candidate : CatalogCandidate) (inputs : List (BuildInput P.sha256)) : Prop where
  lookup : Lookup resolution subject selection
  candidate_eq : selection.candidate = some candidate
  agrees : ¬ ContradictsCandidate selection candidate
  architectures : selection.architectures = expectedArchitectures P resolution selection
  answers : List.Forall₂ (Answers resolution subject candidate)
    (directRequirements P candidate.source (isCheckGoalMember resolution subject)) inputs
  distinct : (inputs.map BuildInput.edgeIdentity).Nodup
  declared : ∀ edge ∈ directEdges resolution subject,
    edge.identity ∈ inputs.map BuildInput.edgeIdentity

/-- The set `admit` returns for collected inputs. -/
def assemble (P : Platform) (resolution : ResolutionResult) (subject : PackageSelectionIdentity)
    (selection : SelectedPackage) (inputs : List (BuildInput P.sha256)) :
    BuildInputSet P.sha256 where
  subject := selection
  resolution := resolution.identity
  inputs := P.sortInputs.run inputs
  identity := .ofDigest _
    (P.sha256 (inputSetRecord resolution.identity subject (P.sortInputs.run inputs)).stream)

/-! ## The pieces, one by one -/

section Pieces

variable {resolution : ResolutionResult} {subject : PackageSelectionIdentity}
  {candidate : CatalogCandidate} {requirement : ResolvedRequirement} {edge : RequirementEdge}

theorem requireSelection_ok_iff {identity : PackageSelectionIdentity}
    {selection : SelectedPackage} :
    requireSelection resolution identity = .ok selection ↔
      Lookup resolution identity selection := by
  unfold requireSelection
  rw [bind_ok_iff]
  constructor
  · rintro ⟨result, hscan, hresult⟩
    cases result with
    | none => cases hresult
    | some found =>
      obtain rfl := pure_ok_iff.mp hresult
      exact scanSole_test_iff.mp hscan
  · intro h
    exact ⟨some selection, scanSole_test_iff.mpr h, rfl⟩

theorem Lookup.identity_eq {identity : PackageSelectionIdentity} {selection : SelectedPackage}
    (h : Lookup resolution identity selection) : selection.identity = identity :=
  h.holds

theorem isCheckGoalMember_iff : isCheckGoalMember resolution subject = true ↔
    InCheckGoal resolution subject := by
  simp [isCheckGoalMember, InCheckGoal]

/-- The kind of requirement an input scope stands for. -/
def InputScope.kind : InputScope → RequirementScopeKind
  | .build => .build
  | .check => .check

/-- A scope is turned into the input scope of its kind. -/
theorem inputScopeFrom_eq_ok_iff {scope : RequirementScope} {inputScope : InputScope} :
    inputScopeFrom scope = .ok inputScope ↔ scope.kind = inputScope.kind := by
  unfold inputScopeFrom
  cases scope.kind <;> cases inputScope <;> simp [InputScope.kind]

/-- A scope is accepted exactly when its kind is build or check. -/
theorem inputScopeFrom_ok_iff {scope : RequirementScope} :
    (∃ inputScope, inputScopeFrom scope = .ok inputScope) ↔
      scope.kind = .build ∨ scope.kind = .check := by
  simp only [inputScopeFrom_eq_ok_iff]
  constructor
  · rintro ⟨inputScope, h⟩
    cases inputScope with
    | build => exact Or.inl h
    | check => exact Or.inr h
  · rintro (h | h)
    · exact ⟨.build, h⟩
    · exact ⟨.check, h⟩

/-- The edges the scan does not pass over. -/
def Eligible (subject : PackageSelectionIdentity) (requirement : ResolvedRequirement)
    (edge : RequirementEdge) : Prop :=
  edge.issuer = subject ∧ edge.environment = .build ∧ edge.scope = requirement.scope

theorem probeEdge_of_not_eligible (h : ¬ Eligible subject requirement edge) :
    probeEdge resolution subject requirement edge = .ok none := by
  rw [probeEdge, if_pos]
  by_contra hnot
  push Not at hnot
  exact h hnot

/-- The probe of an eligible edge throws exactly on an unresolvable requirement. -/
theorem probeEdge_ok_iff : (∃ found, probeEdge resolution subject requirement edge = .ok found) ↔
    (Eligible subject requirement edge →
      ∃ selection, Lookup resolution edge.required selection) := by
  by_cases h : Eligible subject requirement edge
  · obtain ⟨hissuer, henvironment, hscope⟩ := h
    simp only [probeEdge, hissuer, henvironment, hscope, ne_eq, not_true_eq_false, or_self,
      if_false, bind_ok_iff, requireSelection_ok_iff, pure_ok_iff, Eligible, and_self,
      forall_const]
    constructor
    · rintro ⟨_, selection, hlookup, -⟩
      exact ⟨selection, hlookup⟩
    · rintro ⟨selection, hlookup⟩
      exact ⟨_, selection, hlookup, rfl⟩
  · simp [probeEdge_of_not_eligible h, h]

/-- The probe finds an edge exactly when it is eligible and names the requirement. -/
theorem probeEdge_some_iff {found : RequirementEdge × SelectedPackage} :
    probeEdge resolution subject requirement edge = .ok (some found) ↔
      Eligible subject requirement edge ∧ found.1 = edge ∧
        Lookup resolution edge.required found.2 ∧ found.2.package = requirement.package := by
  by_cases h : Eligible subject requirement edge
  · obtain ⟨hissuer, henvironment, hscope⟩ := h
    simp only [probeEdge, hissuer, henvironment, hscope, ne_eq, not_true_eq_false, or_self,
      if_false, bind_ok_iff, requireSelection_ok_iff, pure_ok_iff, Eligible, and_self, true_and]
    constructor
    · rintro ⟨selection, hlookup, hfound⟩
      by_cases hpackage : selection.package = requirement.package
      · simp only [hpackage, not_true_eq_false, if_false, Option.some.injEq] at hfound
        subst hfound
        exact ⟨rfl, hlookup, hpackage⟩
      · simp [hpackage] at hfound
    · rintro ⟨rfl, hlookup, hpackage⟩
      exact ⟨found.2, hlookup, by simp [hpackage]⟩
  · simp [probeEdge_of_not_eligible h, h]

theorem mem_directEdges : edge ∈ directEdges resolution subject ↔
    edge ∈ resolution.edges ∧ IsDirect subject edge := by
  simp [directEdges]

/-- For a build or check requirement, the eligible edges are the direct edges of its scope. -/
theorem eligible_iff_isDirect
    (hkind : requirement.scope.kind = .build ∨ requirement.scope.kind = .check) :
    Eligible subject requirement edge ↔ IsDirect subject edge ∧ edge.scope = requirement.scope := by
  constructor
  · rintro ⟨hissuer, henvironment, hscope⟩
    exact ⟨⟨hissuer, henvironment, by rwa [hscope]⟩, hscope⟩
  · rintro ⟨⟨hissuer, henvironment, -⟩, hscope⟩
    exact ⟨hissuer, henvironment, hscope⟩

/-- A find of the scan is a direct edge naming the requirement. -/
theorem exists_probeEdge_iff
    (hkind : requirement.scope.kind = .build ∨ requirement.scope.kind = .check) :
    (∃ found, probeEdge resolution subject requirement edge = .ok (some found)) ↔
      IsDirect subject edge ∧ Names resolution requirement edge := by
  constructor
  · rintro ⟨found, hfound⟩
    obtain ⟨heligible, -, hlookup, hpackage⟩ := probeEdge_some_iff.mp hfound
    obtain ⟨hdirect, hscope⟩ := (eligible_iff_isDirect hkind).mp heligible
    exact ⟨hdirect, hscope, found.2, hlookup, hpackage⟩
  · rintro ⟨hdirect, hscope, selection, hlookup, hpackage⟩
    have heligible := (eligible_iff_isDirect hkind).mpr ⟨hdirect, hscope⟩
    exact ⟨(edge, selection), probeEdge_some_iff.mpr ⟨heligible, rfl, hlookup, hpackage⟩⟩

/-- The sole find among all edges is the sole direct edge naming the requirement. -/
theorem sole_probeEdge_iff
    (hkind : requirement.scope.kind = .build ∨ requirement.scope.kind = .check) :
    Sole (fun edge => ∃ found, probeEdge resolution subject requirement edge = .ok (some found))
        resolution.edges edge ↔
      Sole (Names resolution requirement) (directEdges resolution subject) edge := by
  have hdrop := sole_filter (b := edge) (l := resolution.edges)
    (p := fun edge => IsDirect subject edge ∧ Names resolution requirement edge)
    (q := fun edge => decide (IsDirect subject edge)) (fun edge _ h => decide_eq_true h.1)
  rw [sole_congr fun edge _ => exists_probeEdge_iff hkind, ← hdrop]
  refine sole_congr fun edge hedge => ?_
  have hdirect : IsDirect subject edge := by simpa using (List.mem_filter.mp hedge).2
  exact and_iff_right hdirect

/-- The scan throws exactly when a direct edge of the scope requires what cannot be looked up. -/
theorem probeEdges_ok_iff
    (hkind : requirement.scope.kind = .build ∨ requirement.scope.kind = .check) :
    (∀ edge ∈ resolution.edges, ∃ found, probeEdge resolution subject requirement edge
        = .ok found) ↔
      ∀ edge ∈ directEdges resolution subject, edge.scope = requirement.scope →
        ∃ selection, Lookup resolution edge.required selection := by
  simp only [probeEdge_ok_iff, eligible_iff_isDirect hkind, mem_directEdges]
  constructor
  · intro h edge hedge hscope
    exact h edge hedge.1 ⟨hedge.2, hscope⟩
  · intro h edge hedge hboth
    exact h edge ⟨hedge, hboth.1⟩ hboth.2

/-- **The edge scan**, for a build or check requirement: every direct edge of the scope resolves,
    and exactly one of them names the requirement. -/
theorem scanEdges_ok_iff {again : Error} {found : RequirementEdge × SelectedPackage}
    (hkind : requirement.scope.kind = .build ∨ requirement.scope.kind = .check) :
    scanSole (probeEdge resolution subject requirement) again resolution.edges
        = .ok (some found) ↔
      (∀ edge ∈ directEdges resolution subject, edge.scope = requirement.scope →
        ∃ selection, Lookup resolution edge.required selection) ∧
      Sole (Names resolution requirement) (directEdges resolution subject) found.1 ∧
      Lookup resolution found.1.required found.2 := by
  rw [scanSole_some_iff, probeEdges_ok_iff hkind]
  refine and_congr_right fun _ => ?_
  constructor
  · rintro ⟨edge, hedge, hprobe⟩
    obtain ⟨-, hfound, hlookup, -⟩ := probeEdge_some_iff.mp hprobe
    rw [hfound]
    exact ⟨(sole_probeEdge_iff hkind).mp hedge, hlookup⟩
  · rintro ⟨hsole, hlookup⟩
    refine ⟨found.1, (sole_probeEdge_iff hkind).mpr hsole, probeEdge_some_iff.mpr ?_⟩
    obtain ⟨-, hdirect⟩ := mem_directEdges.mp hsole.mem
    obtain ⟨hscope, selection, hselection, hpackage⟩ := hsole.holds
    obtain rfl := hlookup.unique hselection
    exact ⟨(eligible_iff_isDirect hkind).mpr ⟨hdirect, hscope⟩, rfl, hlookup, hpackage⟩

/-- **Step.**  A turn of the requirement loop answers the requirement by an input whose edge was
    not consumed before. -/
theorem admitRequirement_ok_iff {sha256 : Sha256} (state : AdmitState sha256)
    (requirement : ResolvedRequirement) (state' : AdmitState sha256) :
    admitRequirement sha256 resolution subject candidate state requirement = .ok state' ↔
      ∃ input, Answers resolution subject candidate requirement input ∧
        input.edgeIdentity ∉ state.consumed ∧ state' = state.push input := by
  unfold admitRequirement
  rw [bind_ok_iff]
  constructor
  · rintro ⟨found, hscan, h⟩
    cases found with
    | none => cases h
    | some found =>
      obtain ⟨edge, required⟩ := found
      obtain ⟨_, henvironment, h⟩ := bind_ok_iff.mp h
      obtain ⟨_, hwitness, h⟩ := bind_ok_iff.mp h
      obtain ⟨_, hconsumed, h⟩ := bind_ok_iff.mp h
      obtain ⟨scope, hscope, h⟩ := bind_ok_iff.mp h
      obtain ⟨identity, -, h⟩ := bind_ok_iff.mp h
      obtain rfl := pure_ok_iff.mp h
      -- the scope was accepted, so the scan looked at direct edges only
      have hkind := inputScopeFrom_ok_iff.mp ⟨scope, hscope⟩
      obtain ⟨hresolvable, hsole, hlookup⟩ := (scanEdges_ok_iff hkind).mp hscan
      have henvironment : required.environment = .build :=
        not_not.mp (refuse_ok_iff.mp henvironment)
      refine ⟨⟨scope, edge, required, identity.1, identity.2⟩, ?_, refuse_ok_iff.mp hconsumed, rfl⟩
      exact ⟨hscope, hresolvable, hsole, hlookup, henvironment, refuse_ok_iff.mp hwitness⟩
  · rintro ⟨input, hanswers, hfresh, rfl⟩
    have hkind := inputScopeFrom_ok_iff.mp ⟨input.scope, hanswers.scope⟩
    refine ⟨some (input.requirement, input.selection), ?_, ?_⟩
    · exact (scanEdges_ok_iff hkind).mpr
        ⟨hanswers.resolvable, hanswers.sole, hanswers.selection⟩
    · simp only [bind_ok_iff, refuse_ok_iff, pure_ok_iff, attach_ok_iff]
      exact ⟨(), not_not.mpr hanswers.environment, (), hanswers.witness, (), hfresh, input.scope,
        hanswers.scope, ⟨input.identity, input.identity_eq⟩, input.identity_eq, rfl⟩

end Pieces

/-! ## The whole of `admit` -/

theorem AdmitState.consumed_push {sha256 : Sha256} (state : AdmitState sha256)
    (input : BuildInput sha256) :
    (state.push input).consumed = state.consumed ++ [input.edgeIdentity] := rfl

theorem foldl_push {sha256 : Sha256} : ∀ (inputs : List (BuildInput sha256))
    (state : AdmitState sha256), inputs.foldl AdmitState.push state
      = ⟨state.inputs ++ inputs, state.consumed ++ inputs.map BuildInput.edgeIdentity⟩
  | [], state => by simp
  | input :: inputs, state => by
      rw [List.foldl_cons, foldl_push inputs]
      simp [AdmitState.push]

theorem requireCandidate_ok_iff {subject : SelectedPackage} {missing : Error}
    {candidate : CatalogCandidate} :
    requireCandidate subject missing = .ok candidate ↔ subject.candidate = some candidate := by
  unfold requireCandidate
  cases subject.candidate <;> simp

/-- **Run.**  The requirement loop collects exactly the lists of inputs that answer the
    requirements one by one from distinct edges. -/
theorem admitRequirements_ok_iff {sha256 : Sha256} {resolution : ResolutionResult}
    {subject : PackageSelectionIdentity} {candidate : CatalogCandidate}
    (requirements : List ResolvedRequirement) (state : AdmitState sha256) :
    requirements.foldlM (admitRequirement sha256 resolution subject candidate) ⟨[], []⟩
        = .ok state ↔
      ∃ inputs, List.Forall₂ (Answers resolution subject candidate) requirements inputs ∧
        (inputs.map BuildInput.edgeIdentity).Nodup ∧
        state = ⟨inputs, inputs.map BuildInput.edgeIdentity⟩ := by
  rw [foldlM_consume_iff AdmitState.consumed_push admitRequirement_ok_iff requirements ⟨[], []⟩
    state List.nodup_nil]
  simp only [foldl_push, List.nil_append]

/-- **Admission computes its reading.**  `admit` returns a set exactly when the reading holds of
    some list of inputs, and then it returns this list, sorted. -/
theorem admit_ok_iff {P : Platform} {resolution : ResolutionResult}
    {subject : PackageSelectionIdentity} {set : BuildInputSet P.sha256} :
    BuildInputSet.admit P resolution subject = .ok set ↔
      ∃ selection candidate inputs, Admitted P resolution subject selection candidate inputs ∧
        set = assemble P resolution subject selection inputs := by
  unfold BuildInputSet.admit
  constructor
  · intro h
    obtain ⟨selection, hlookup, h⟩ := bind_ok_iff.mp h
    obtain ⟨candidate, hcandidate, h⟩ := bind_ok_iff.mp h
    obtain ⟨_, hagrees, h⟩ := bind_ok_iff.mp h
    obtain ⟨_, harchitectures, h⟩ := bind_ok_iff.mp h
    obtain ⟨state, hstate, h⟩ := bind_ok_iff.mp h
    obtain ⟨_, hsweep, h⟩ := bind_ok_iff.mp h
    obtain ⟨identity, hidentity, h⟩ := bind_ok_iff.mp h
    obtain rfl := pure_ok_iff.mp h
    -- the loop's two lists are one list of answers and their edge identities
    obtain ⟨inputs, hanswers, hdistinct, rfl⟩ := (admitRequirements_ok_iff _ _).mp hstate
    have harchitectures : selection.architectures = expectedArchitectures P resolution selection :=
      not_not.mp (refuse_ok_iff.mp harchitectures)
    have hdeclared : ∀ edge ∈ directEdges resolution subject,
        edge.identity ∈ inputs.map BuildInput.edgeIdentity := by
      intro edge hedge
      obtain ⟨hmem, hdirect⟩ := mem_directEdges.mp hedge
      have hturn := refuse_ok_iff.mp (forM_ok_iff.mp hsweep edge hmem)
      exact not_not.mp fun hnot => hturn ⟨hdirect, hnot⟩
    refine ⟨selection, candidate, inputs, ?_, ?_⟩
    · exact ⟨requireSelection_ok_iff.mp hlookup, requireCandidate_ok_iff.mp hcandidate,
        refuse_ok_iff.mp hagrees, harchitectures, hanswers, hdistinct, hdeclared⟩
    · rw [inputSetId, Identity.fromSha256_finish] at hidentity
      obtain rfl := Except.ok.inj hidentity
      rfl
  · rintro ⟨selection, candidate, inputs, h, rfl⟩
    have hstate := (admitRequirements_ok_iff _ ⟨inputs, inputs.map BuildInput.edgeIdentity⟩).mpr
      ⟨inputs, h.answers, h.distinct, rfl⟩
    refine bind_ok_iff.mpr ⟨selection, requireSelection_ok_iff.mpr h.lookup, ?_⟩
    refine bind_ok_iff.mpr ⟨candidate, requireCandidate_ok_iff.mpr h.candidate_eq, ?_⟩
    refine bind_ok_iff.mpr ⟨(), refuse_ok_iff.mpr h.agrees, ?_⟩
    refine bind_ok_iff.mpr ⟨(), refuse_ok_iff.mpr (not_not.mpr h.architectures), ?_⟩
    refine bind_ok_iff.mpr ⟨_, hstate, ?_⟩
    refine bind_ok_iff.mpr ⟨(), forM_ok_iff.mpr fun edge hedge => refuse_ok_iff.mpr ?_, ?_⟩
    · rintro ⟨hdirect, hnot⟩
      exact hnot (h.declared edge (mem_directEdges.mpr ⟨hedge, hdirect⟩))
    · exact bind_ok_iff.mpr ⟨_, Identity.fromSha256_finish _ _ _, rfl⟩

/-! ## What an admitted list of inputs is -/

section Admitted

variable {P : Platform} {resolution : ResolutionResult} {subject : PackageSelectionIdentity}
  {selection : SelectedPackage} {candidate : CatalogCandidate} {inputs : List (BuildInput P.sha256)}

/-- The code activates the active requirements, in an order of its own. -/
theorem directRequirements_perm (P : Platform) (resolution : ResolutionResult)
    (subject : PackageSelectionIdentity) (source : SourceSnapshot) :
    (directRequirements P source (isCheckGoalMember resolution subject)).Perm
      (active resolution subject source) := by
  have hmember : isCheckGoalMember resolution subject = decide (InCheckGoal resolution subject) :=
    Bool.eq_iff_iff.mpr (isCheckGoalMember_iff.trans decide_eq_true_iff.symm)
  rw [hmember]
  exact P.sortRequirements.perm _

/-- The lining up of requirements with inputs, each requirement known to be active. -/
theorem Admitted.answers_active
    (h : Admitted P resolution subject selection candidate inputs) :
    List.Forall₂ (fun requirement input =>
      requirement ∈ active resolution subject candidate.source ∧
        Answers resolution subject candidate requirement input)
      (directRequirements P candidate.source (isCheckGoalMember resolution subject)) inputs := by
  refine (List.forall₂_and_left _ _).mpr ⟨fun requirement hrequirement => ?_, h.answers⟩
  exact (directRequirements_perm P resolution subject candidate.source).mem_iff.mp hrequirement

/-- Every input answers an active requirement. -/
theorem Admitted.exists_answers (h : Admitted P resolution subject selection candidate inputs)
    {input : BuildInput P.sha256} (hinput : input ∈ inputs) :
    ∃ requirement ∈ active resolution subject candidate.source,
      Answers resolution subject candidate requirement input :=
  exists_left_of_mem h.answers_active hinput |>.imp fun _ h => h.2

/-- Every active requirement is answered by an input. -/
theorem Admitted.exists_input (h : Admitted P resolution subject selection candidate inputs)
    {requirement : ResolvedRequirement}
    (hactive : requirement ∈ active resolution subject candidate.source) :
    ∃ input ∈ inputs, Answers resolution subject candidate requirement input :=
  exists_right_of_mem h.answers
    ((directRequirements_perm P resolution subject candidate.source).mem_iff.mpr hactive)

/-- One input for each active requirement. -/
theorem Admitted.length_eq (h : Admitted P resolution subject selection candidate inputs) :
    inputs.length = (active resolution subject candidate.source).length := by
  rw [← h.answers.length_eq]
  exact (directRequirements_perm P resolution subject candidate.source).length_eq

/-- The requirement of an input is a direct edge. -/
theorem Admitted.requirement_mem (h : Admitted P resolution subject selection candidate inputs)
    {input : BuildInput P.sha256} (hinput : input ∈ inputs) :
    input.requirement ∈ directEdges resolution subject := by
  obtain ⟨_, -, hanswers⟩ := h.exists_answers hinput
  exact hanswers.sole.mem

/-- What a requirement and the input that answers it have in common. -/
def requirementKey (requirement : ResolvedRequirement) : RequirementScope × PackageReference :=
  (requirement.scope, requirement.package)

def BuildInput.key {sha256 : Sha256} (input : BuildInput sha256) :
    RequirementScope × PackageReference :=
  (input.requirement.scope, input.package)

/-- The edge has the scope of the requirement, the selection its package. -/
theorem Answers.key_eq {sha256 : Sha256} {requirement : ResolvedRequirement}
    {input : BuildInput sha256} (h : Answers resolution subject candidate requirement input) :
    input.key = requirementKey requirement := by
  obtain ⟨hscope, required, hlookup, hpackage⟩ := h.sole.holds
  obtain rfl := hlookup.unique h.selection
  exact Prod.ext hscope hpackage

/-- An input's scope is the kind of its edge's scope. -/
theorem Admitted.scope_kind (h : Admitted P resolution subject selection candidate inputs)
    {input : BuildInput P.sha256} (hinput : input ∈ inputs) :
    input.requirement.scope.kind = input.scope.kind := by
  obtain ⟨requirement, -, hanswers⟩ := h.exists_answers hinput
  rw [hanswers.sole.holds.1]
  exact inputScopeFrom_eq_ok_iff.mp hanswers.scope

/-- The inputs have the scopes and packages of the active requirements. -/
theorem Admitted.keys (h : Admitted P resolution subject selection candidate inputs) :
    (inputs.map BuildInput.key).Perm
      ((active resolution subject candidate.source).map requirementKey) := by
  have hkeys : ∀ {requirements : List ResolvedRequirement} {inputs : List (BuildInput P.sha256)},
      List.Forall₂ (Answers resolution subject candidate) requirements inputs →
      inputs.map BuildInput.key = requirements.map requirementKey := by
    intro requirements inputs hanswers
    induction hanswers with
    | nil => rfl
    | cons hanswer _ ih => rw [List.map_cons, List.map_cons, hanswer.key_eq, ih]
  rw [hkeys h.answers]
  exact (directRequirements_perm P resolution subject candidate.source).map _

/-- **Distinct identities leave nothing over.**  When no two direct edges share an identity, the
    requirements of the inputs are the direct edges, each once. -/
theorem Admitted.perm_directEdges (h : Admitted P resolution subject selection candidate inputs)
    (hdistinct : ((directEdges resolution subject).map RequirementEdge.identity).Nodup) :
    (inputs.map BuildInput.requirement).Perm (directEdges resolution subject) := by
  have hkeys : (inputs.map BuildInput.requirement).map RequirementEdge.identity
      = inputs.map BuildInput.edgeIdentity := List.map_map
  refine perm_of_keys (hkeys ▸ h.distinct) hdistinct ?_ (hkeys ▸ h.declared)
  intro edge hedge
  obtain ⟨input, hinput, rfl⟩ := List.mem_map.mp hedge
  exact h.requirement_mem hinput

end Admitted

end Pkgbuild

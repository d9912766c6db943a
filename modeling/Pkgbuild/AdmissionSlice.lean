/-
  What admission reads of a resolution, and what it ignores.

  Admission of a subject looks at a SLICE of the resolution: the architectures of the request, the
  direct edges of the subject, the selections with the subject's identity or an identity these edges
  require, and whether the subject is a member of a check goal.  `SliceMatch` says that two
  resolutions have the same slice up to the order of edges and selections, and one lemma carries an
  admitted list of inputs from one to the other (`Admitted.transfer`).  Three consequences:

  1. **Order** — a resolution whose lists are permuted is admitted alike (`admit_reordered`);
  2. **Locality** — a resolution that differs outside the slice is admitted alike
     (`admit_sameSlice`);
  3. **Check goals** — when only the goals differ, the check requirements decide: with some of them,
     at most one of "member of a check goal" and "not a member" is admitted; with none, both are
     admitted alike (`check_activation`).
-/
import Pkgbuild.AdmissionAuthority

namespace Pkgbuild

open Checked Correspondence Pkgsource Pkgcatalog Pkgresolve

variable {P : Platform} {resolution resolution' : ResolutionResult}
  {subject : PackageSelectionIdentity} {selection : SelectedPackage} {candidate : CatalogCandidate}
  {requirement : ResolvedRequirement} {inputs : List (BuildInput P.sha256)}

/-! ## Carrying an admission over -/

/-- The two resolutions have the same slice for the subject, up to order and check goals. -/
structure SliceMatch (resolution resolution' : ResolutionResult)
    (subject : PackageSelectionIdentity) : Prop where
  architectures : resolution.request.architectures = resolution'.request.architectures
  edges : (directEdges resolution subject).Perm (directEdges resolution' subject)
  lookup : ∀ selection, Lookup resolution subject selection ↔ Lookup resolution' subject selection
  required : ∀ edge ∈ directEdges resolution subject, ∀ selection,
    Lookup resolution edge.required selection ↔ Lookup resolution' edge.required selection

theorem SliceMatch.symm (h : SliceMatch resolution resolution' subject) :
    SliceMatch resolution' resolution subject where
  architectures := h.architectures.symm
  edges := h.edges.symm
  lookup selection := (h.lookup selection).symm
  required edge hedge selection := (h.required edge (h.edges.mem_iff.mpr hedge) selection).symm

/-- A direct edge names the same requirements in both. -/
theorem SliceMatch.names_iff (h : SliceMatch resolution resolution' subject)
    {edge : RequirementEdge} (hedge : edge ∈ directEdges resolution subject) :
    Names resolution requirement edge ↔ Names resolution' requirement edge := by
  unfold Names
  simp only [h.required edge hedge]

/-- An answer in one is an answer in the other. -/
theorem Answers.transfer {sha256 : Sha256} {input : BuildInput sha256}
    (h : Answers resolution subject candidate requirement input)
    (hslice : SliceMatch resolution resolution' subject) :
    Answers resolution' subject candidate requirement input where
  scope := h.scope
  resolvable := by
    intro edge hedge hscope
    have hedge' := hslice.edges.mem_iff.mpr hedge
    obtain ⟨found, hfound⟩ := h.resolvable edge hedge' hscope
    exact ⟨found, (hslice.required edge hedge' found).mp hfound⟩
  sole := by
    have hsole := (sole_congr fun edge hedge => hslice.names_iff hedge).mp h.sole
    exact hsole.perm hslice.edges
  selection := (hslice.required _ h.sole.mem _).mp h.selection
  environment := h.environment
  witness := h.witness

/-- **Transfer.**  What is admitted in one resolution is admitted in every resolution of the same
    slice that activates the same requirements. -/
theorem Admitted.transfer (h : Admitted P resolution subject selection candidate inputs)
    (hslice : SliceMatch resolution resolution' subject)
    (hrequirements : directRequirements P candidate.source (isCheckGoalMember resolution subject)
      = directRequirements P candidate.source (isCheckGoalMember resolution' subject)) :
    Admitted P resolution' subject selection candidate inputs where
  lookup := (hslice.lookup selection).mp h.lookup
  candidate_eq := h.candidate_eq
  agrees := h.agrees
  architectures := by
    rw [h.architectures, expectedArchitectures, expectedArchitectures, hslice.architectures]
  answers := by
    rw [← hrequirements]
    exact h.answers.imp fun _ _ hanswers => hanswers.transfer hslice
  distinct := h.distinct
  declared edge hedge := h.declared edge (hslice.edges.mem_iff.mpr hedge)

theorem admit_transfer {set : BuildInputSet P.sha256}
    (hslice : SliceMatch resolution resolution' subject)
    (hidentity : resolution.identity = resolution'.identity)
    (hrequirements : ∀ selection candidate, Lookup resolution subject selection →
      selection.candidate = some candidate →
      directRequirements P candidate.source (isCheckGoalMember resolution subject)
        = directRequirements P candidate.source (isCheckGoalMember resolution' subject))
    (hset : BuildInputSet.admit P resolution subject = .ok set) :
    BuildInputSet.admit P resolution' subject = .ok set := by
  obtain ⟨selection, candidate, inputs, h, rfl⟩ := admit_ok_iff.mp hset
  have hrequirements := hrequirements selection candidate h.lookup h.candidate_eq
  refine admit_ok_iff.mpr ⟨selection, candidate, inputs, h.transfer hslice hrequirements, ?_⟩
  rw [assemble, assemble, hidentity]

/-- Resolutions of one slice and identity that activate the same requirements are admitted alike. -/
theorem admit_congr (hslice : SliceMatch resolution resolution' subject)
    (hidentity : resolution.identity = resolution'.identity)
    (hrequirements : ∀ selection candidate, Lookup resolution subject selection →
      selection.candidate = some candidate →
      directRequirements P candidate.source (isCheckGoalMember resolution subject)
        = directRequirements P candidate.source (isCheckGoalMember resolution' subject))
    (set : BuildInputSet P.sha256) :
    BuildInputSet.admit P resolution subject = .ok set ↔
      BuildInputSet.admit P resolution' subject = .ok set := by
  constructor
  · exact admit_transfer hslice hidentity hrequirements
  · refine admit_transfer hslice.symm hidentity.symm ?_
    intro selection candidate hlookup hcandidate
    exact (hrequirements selection candidate ((hslice.lookup selection).mpr hlookup)
      hcandidate).symm

/-- Membership in a check goal is all that the goals contribute. -/
theorem isCheckGoalMember_congr
    (h : InCheckGoal resolution subject ↔ InCheckGoal resolution' subject) :
    isCheckGoalMember resolution subject = isCheckGoalMember resolution' subject :=
  Bool.eq_iff_iff.mpr (isCheckGoalMember_iff.trans (h.trans isCheckGoalMember_iff.symm))

/-! ## Order -/

/-- The same facts, listed in another order. -/
structure Reordered (resolution resolution' : ResolutionResult) : Prop where
  request : resolution.request = resolution'.request
  identity : resolution.identity = resolution'.identity
  selections : resolution.selections.Perm resolution'.selections
  edges : resolution.edges.Perm resolution'.edges
  goals : ∃ goals, resolution.goals.Perm goals ∧
    List.Forall₂ (fun goal goal' => goal.goal = goal'.goal ∧ goal.members.Perm goal'.members)
      goals resolution'.goals

theorem Reordered.inCheckGoal_iff (h : Reordered resolution resolution') :
    InCheckGoal resolution subject ↔ InCheckGoal resolution' subject := by
  obtain ⟨goals, hperm, hall⟩ := h.goals
  constructor
  · rintro ⟨goal, hgoal, hkind, member, hmember, hselection⟩
    obtain ⟨goal', hgoal', heq, hmembers⟩ :=
      exists_right_of_mem hall (hperm.mem_iff.mp hgoal)
    exact ⟨goal', hgoal', heq ▸ hkind, member, hmembers.mem_iff.mp hmember, hselection⟩
  · rintro ⟨goal', hgoal', hkind, member, hmember, hselection⟩
    obtain ⟨goal, hgoal, heq, hmembers⟩ := exists_left_of_mem hall hgoal'
    exact ⟨goal, hperm.mem_iff.mpr hgoal, heq ▸ hkind, member, hmembers.mem_iff.mpr hmember,
      hselection⟩

theorem Reordered.sliceMatch (h : Reordered resolution resolution')
    (subject : PackageSelectionIdentity) : SliceMatch resolution resolution' subject := by
  have hlookup : ∀ identity selection,
      Lookup resolution identity selection ↔ Lookup resolution' identity selection := by
    intro identity selection
    exact ⟨fun hsole => hsole.perm h.selections, fun hsole => hsole.perm h.selections.symm⟩
  exact ⟨congrArg ResolutionRequest.architectures h.request, h.edges.filter _, hlookup subject,
    fun edge _ => hlookup edge.required⟩

/-- **Order does not matter.**  Whatever order the resolver lists selections, edges, goals and
    goal members in, `admit` returns the same set or fails. -/
theorem admit_reordered (P : Platform) (resolution resolution' : ResolutionResult)
    (subject : PackageSelectionIdentity) (h : Reordered resolution resolution')
    (set : BuildInputSet P.sha256) :
    BuildInputSet.admit P resolution subject = .ok set ↔
      BuildInputSet.admit P resolution' subject = .ok set := by
  refine admit_congr (h.sliceMatch subject) h.identity (fun _ _ _ _ => ?_) set
  rw [isCheckGoalMember_congr h.inCheckGoal_iff]

/-- The example with every list turned around. -/
theorem admit_reordered_reversed : ∃ set,
    BuildInputSet.admit Sample.platform (Sample.checkedResolution [Sample.goal .check])
        ⟨Sample.hex 0x61⟩ = .ok set ∧
      BuildInputSet.admit Sample.platform
        { Sample.checkedResolution [Sample.goal .check] with
          selections := (Sample.checkedResolution []).selections.reverse
          edges := (Sample.checkedResolution []).edges.reverse } ⟨Sample.hex 0x61⟩ = .ok set := by
  obtain ⟨set, hset⟩ := Sample.checkedResolution_admitted
  refine ⟨set, hset, (admit_reordered Sample.platform _ _ _ ?_ set).mp hset⟩
  exact ⟨rfl, rfl, (List.reverse_perm _).symm, (List.reverse_perm _).symm, _, .refl _,
    List.forall₂_same.mpr fun _ _ => ⟨rfl, .refl _⟩⟩

/-! ## Locality -/

/-- The two resolutions agree on the subject's slice, position by position. -/
structure SameSlice (resolution resolution' : ResolutionResult)
    (subject : PackageSelectionIdentity) : Prop where
  identity : resolution.identity = resolution'.identity
  architectures : resolution.request.architectures = resolution'.request.architectures
  edges : directEdges resolution subject = directEdges resolution' subject
  selections : ∀ identity,
    (identity = subject ∨ ∃ edge ∈ directEdges resolution subject, edge.required = identity) →
    resolution.selections.filter (fun selection => selection.identity = identity)
      = resolution'.selections.filter (fun selection => selection.identity = identity)
  checkGoal : InCheckGoal resolution subject ↔ InCheckGoal resolution' subject

theorem SameSlice.sliceMatch (h : SameSlice resolution resolution' subject) :
    SliceMatch resolution resolution' subject where
  architectures := h.architectures
  edges := .of_eq h.edges
  lookup selection := by
    unfold Lookup
    rw [sole_iff_filter, sole_iff_filter, h.selections subject (Or.inl rfl)]
  required edge hedge selection := by
    unfold Lookup
    rw [sole_iff_filter, sole_iff_filter, h.selections edge.required (Or.inr ⟨edge, hedge, rfl⟩)]

/-- **Nothing outside the slice matters.**  Two resolutions with the same slice for the subject are
    both refused, or both admitted with the same set. -/
theorem admit_sameSlice (P : Platform) (resolution resolution' : ResolutionResult)
    (subject : PackageSelectionIdentity) (h : SameSlice resolution resolution' subject)
    (set : BuildInputSet P.sha256) :
    BuildInputSet.admit P resolution subject = .ok set ↔
      BuildInputSet.admit P resolution' subject = .ok set := by
  refine admit_congr h.sliceMatch h.identity (fun _ _ _ _ => ?_) set
  rw [isCheckGoalMember_congr h.checkGoal]

/-- An edge of another issuer that repeats an identity and requires a selection nobody made, and a
    selection listed twice, change nothing. -/
theorem admit_sameSlice_malformed : ∃ set,
    BuildInputSet.admit Sample.platform (Sample.checkedResolution [Sample.goal .check])
        ⟨Sample.hex 0x61⟩ = .ok set ∧
      BuildInputSet.admit Sample.platform
        { Sample.checkedResolution [Sample.goal .check] with
          selections := (Sample.checkedResolution []).selections ++
            [Sample.selected 0x66 (literal "other") none]
          edges := { Sample.edge 0x31 0x67 .build with issuer := ⟨Sample.hex 0x66⟩ } ::
            (Sample.checkedResolution []).edges } ⟨Sample.hex 0x61⟩ = .ok set := by
  obtain ⟨set, hset⟩ := Sample.checkedResolution_admitted
  refine ⟨set, hset, (admit_sameSlice Sample.platform _ _ _ ⟨rfl, rfl, by decide, ?_, Iff.rfl⟩
    set).mp hset⟩
  rintro identity (rfl | ⟨edge, hedge, rfl⟩)
  · decide
  · revert edge
    decide

/-! ## Check goals -/

/-- The resolution with other goals. -/
def withGoals (resolution : ResolutionResult) (goals : List ResolvedGoal) : ResolutionResult :=
  { resolution with goals := goals }

/-- The recipe keeps build requirements and check requirements apart. -/
structure ScopedRecipe (source : SourceSnapshot) : Prop where
  build : ∀ requirement ∈ source.recipe.buildRequirements, requirement.scope.kind = .build
  check : ∀ requirement ∈ source.recipe.checkRequirements, requirement.scope.kind = .check

/-- A subject that is in no check goal has inputs of build scope only. -/
theorem Admitted.scope_build (h : Admitted P resolution subject selection candidate inputs)
    (hscoped : ScopedRecipe candidate.source) (hout : ¬ InCheckGoal resolution subject)
    {input : BuildInput P.sha256} (hinput : input ∈ inputs) : input.scope = .build := by
  obtain ⟨requirement, hrequirement, hanswers⟩ := h.exists_answers hinput
  rw [active, decide_eq_false hout] at hrequirement
  have hbuild : requirement ∈ candidate.source.recipe.buildRequirements := by
    simpa [activeRequirements] using hrequirement
  have hkind := inputScopeFrom_eq_ok_iff.mp hanswers.scope
  rw [hscoped.build requirement hbuild] at hkind
  cases hscope : input.scope with
  | build => rfl
  | check => simp [hscope, InputScope.kind] at hkind

/-- The key of a build requirement. -/
def isBuildKey (key : RequirementScope × PackageReference) : Bool := key.1.kind = .build

/-- Among the active requirements, those of build scope are the build requirements. -/
theorem filter_active_build (hscoped : ScopedRecipe candidate.source) :
    ((active resolution subject candidate.source).map requirementKey).filter isBuildKey
      = candidate.source.recipe.buildRequirements.map requirementKey := by
  rw [List.filter_map, active, activeRequirements, List.filter_append]
  have hall : candidate.source.recipe.buildRequirements.filter (isBuildKey ∘ requirementKey)
      = candidate.source.recipe.buildRequirements := by
    refine List.filter_eq_self.mpr fun requirement hrequirement => ?_
    exact decide_eq_true (hscoped.build requirement hrequirement)
  have hnone : ∀ requirements ⊆ candidate.source.recipe.checkRequirements,
      requirements.filter (isBuildKey ∘ requirementKey) = [] := by
    intro requirements hsub
    refine List.filter_eq_nil_iff.mpr fun requirement hrequirement => ?_
    simp [isBuildKey, requirementKey, hscoped.check requirement (hsub hrequirement)]
  rw [hall, hnone _ (by split <;> simp), List.append_nil]

/-- **The build inputs are the build requirements**, each once, by scope and package. -/
theorem Admitted.forScope_build (h : Admitted P resolution subject selection candidate inputs)
    (hscoped : ScopedRecipe candidate.source) :
    (((assemble P resolution subject selection inputs).forScope .build).map BuildInput.key).Perm
      (candidate.source.recipe.buildRequirements.map requirementKey) := by
  have hfilter : (inputs.filter fun input => input.scope = .build).map BuildInput.key
      = (inputs.map BuildInput.key).filter isBuildKey := by
    rw [List.filter_map]
    refine congrArg _ (List.filter_congr fun input hinput => ?_)
    show decide (input.scope = .build) = decide (input.requirement.scope.kind = .build)
    rw [h.scope_kind hinput]
    cases input.scope <;> rfl
  have hsorted := ((P.sortInputs.perm inputs).filter fun input => decide (input.scope = .build)).map
    BuildInput.key
  rw [hfilter] at hsorted
  have hkeys := h.keys.filter isBuildKey
  rw [filter_active_build hscoped] at hkeys
  exact hsorted.trans hkeys

/-- A check requirement admitted in a check goal leaves a direct edge that is nobody's requirement
    once the subject is in no check goal. -/
theorem Admitted.not_admitted_withGoals
    (h : Admitted P resolution subject selection candidate inputs)
    (hdistinct : (resolution.edges.map RequirementEdge.identity).Nodup)
    (hscoped : ScopedRecipe candidate.source) (hin : InCheckGoal resolution subject)
    {goals : List ResolvedGoal} (hout : ¬ InCheckGoal (withGoals resolution goals) subject)
    (hchecks : candidate.source.recipe.checkRequirements ≠ [])
    (inputs' : List (BuildInput P.sha256)) :
    ¬ Admitted P (withGoals resolution goals) subject selection candidate inputs' := by
  intro h'
  obtain ⟨requirement, hrequirement⟩ := List.exists_mem_of_ne_nil _ hchecks
  have hactive : requirement ∈ active resolution subject candidate.source := by
    rw [active, decide_eq_true hin]
    exact List.mem_append_right _ hrequirement
  obtain ⟨input, hinput, hanswers⟩ := h.exists_input hactive
  -- the sweep of the second run found the identity of the check edge consumed
  have hedge : input.requirement ∈ directEdges (withGoals resolution goals) subject :=
    hanswers.sole.mem
  obtain ⟨input', hinput', hidentity⟩ := List.mem_map.mp (h'.declared _ hedge)
  have hsame : input'.requirement = input.requirement :=
    List.inj_on_of_nodup_map hdistinct (mem_directEdges.mp (h'.requirement_mem hinput')).1
      (mem_directEdges.mp hedge).1 hidentity
  -- but the input that consumed it is a build input
  have hkind := h'.scope_kind hinput'
  rw [h'.scope_build hscoped hout hinput', hsame, hanswers.sole.holds.1,
    hscoped.check requirement hrequirement] at hkind
  simp [InputScope.kind] at hkind

/-- Other goals leave the slice as it is. -/
theorem sliceMatch_withGoals (resolution : ResolutionResult) (goals : List ResolvedGoal)
    (subject : PackageSelectionIdentity) :
    SliceMatch resolution (withGoals resolution goals) subject :=
  ⟨rfl, .refl _, fun _ => Iff.rfl, fun _ _ _ => Iff.rfl⟩

/-- **Check authority is activated by a check goal, and only by it.**  A resolution has the subject
    in a check goal; with other goals the subject is in none.  If the recipe has check requirements,
    at most one of the two is admitted; if it has none, they are admitted alike.  Outside check
    goals there are no check inputs, and either way the build inputs are the build requirements. -/
theorem check_activation (P : Platform) (resolution : ResolutionResult)
    (goals : List ResolvedGoal) (subject : PackageSelectionIdentity)
    (hscoped : ∀ selection candidate, Lookup resolution subject selection →
      selection.candidate = some candidate → ScopedRecipe candidate.source)
    (hdistinct : (resolution.edges.map RequirementEdge.identity).Nodup)
    (hin : InCheckGoal resolution subject)
    (hout : ¬ InCheckGoal (withGoals resolution goals) subject) :
    (∀ selection candidate, Lookup resolution subject selection →
      selection.candidate = some candidate →
      (candidate.source.recipe.checkRequirements ≠ [] →
        ¬ ((∃ set, BuildInputSet.admit P resolution subject = .ok set) ∧
          ∃ set, BuildInputSet.admit P (withGoals resolution goals) subject = .ok set)) ∧
      (candidate.source.recipe.checkRequirements = [] → ∀ set,
        BuildInputSet.admit P resolution subject = .ok set ↔
          BuildInputSet.admit P (withGoals resolution goals) subject = .ok set)) ∧
    (∀ set, BuildInputSet.admit P (withGoals resolution goals) subject = .ok set →
      set.forScope .check = []) ∧
    ∀ set candidate, BuildInputSet.admit P resolution subject = .ok set ∨
        BuildInputSet.admit P (withGoals resolution goals) subject = .ok set →
      set.subject.candidate = some candidate →
      ((set.forScope .build).map BuildInput.key).Perm
        (candidate.source.recipe.buildRequirements.map requirementKey) := by
  refine ⟨fun selection candidate hlookup hcandidate => ⟨?_, ?_⟩, ?_, ?_⟩
  · rintro hchecks ⟨⟨set, hset⟩, set', hset'⟩
    obtain ⟨selection₁, candidate₁, inputs, h, -⟩ := admit_ok_iff.mp hset
    obtain ⟨selection₂, candidate₂, inputs', h', -⟩ := admit_ok_iff.mp hset'
    -- both runs look up the same subject and candidate
    obtain rfl := hlookup.unique h.lookup
    obtain rfl := hlookup.unique h'.lookup
    obtain rfl := Option.some.inj (hcandidate.symm.trans h.candidate_eq)
    obtain rfl := Option.some.inj (hcandidate.symm.trans h'.candidate_eq)
    exact h.not_admitted_withGoals hdistinct (hscoped _ _ hlookup hcandidate) hin hout hchecks
      inputs' h'
  · intro hnone set
    refine admit_congr (sliceMatch_withGoals resolution goals subject) rfl ?_ set
    intro selection' candidate' hlookup' hcandidate'
    obtain rfl := hlookup.unique hlookup'
    obtain rfl := Option.some.inj (hcandidate.symm.trans hcandidate')
    simp only [directRequirements, activeRequirements, hnone, ite_self]
  · intro set hset
    obtain ⟨selection, candidate, inputs, h, rfl⟩ := admit_ok_iff.mp hset
    refine List.filter_eq_nil_iff.mpr fun input hinput => ?_
    rw [h.scope_build (hscoped _ _ h.lookup h.candidate_eq) hout (P.sortInputs.mem_run.mp hinput)]
    decide
  · rintro set candidate (hset | hset) hcandidate
    · obtain ⟨selection, candidate', inputs, h, rfl⟩ := admit_ok_iff.mp hset
      obtain rfl := Option.some.inj (hcandidate.symm.trans h.candidate_eq)
      exact h.forScope_build (hscoped _ _ h.lookup h.candidate_eq)
    · obtain ⟨selection, candidate', inputs, h, rfl⟩ := admit_ok_iff.mp hset
      obtain rfl := Option.some.inj (hcandidate.symm.trans h.candidate_eq)
      exact h.forScope_build (hscoped _ _ h.lookup h.candidate_eq)

/-- With a check requirement, the root is admitted in a check goal and not without one. -/
theorem check_activation_tester :
    (∃ set, BuildInputSet.admit Sample.platform (Sample.checkedResolution [Sample.goal .check])
      ⟨Sample.hex 0x61⟩ = .ok set) ∧
    ¬ ∃ set, BuildInputSet.admit Sample.platform (Sample.checkedResolution [])
      ⟨Sample.hex 0x61⟩ = .ok set := by
  have hlookup := Sample.checkedResolution_lookup [Sample.goal .check]
  have hscoped : ∀ selection candidate, Lookup (Sample.checkedResolution [Sample.goal .check])
      ⟨Sample.hex 0x61⟩ selection → selection.candidate = some candidate →
      ScopedRecipe candidate.source := by
    intro selection candidate hselection hcandidate
    obtain rfl := hselection.unique hlookup
    obtain rfl := Option.some.inj hcandidate
    exact ⟨by decide, by decide⟩
  have hactivation := check_activation Sample.platform _ [] ⟨Sample.hex 0x61⟩ hscoped (by decide)
    (by decide) (by decide)
  refine ⟨Sample.checkedResolution_admitted, ?_⟩
  intro hset
  exact (hactivation.1 _ _ hlookup rfl).1 (by decide) ⟨Sample.checkedResolution_admitted, hset⟩

end Pkgbuild

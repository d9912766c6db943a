/-
  Admission of direct build inputs: `build_input_set::admit` (`request.cpp`).

  `admit` takes a resolution and a subject selection, lines the subject's source requirements up
  with the resolver's edges, and returns the matched inputs in order of their identities.  The
  pieces, in the order the source runs them:

  * `requireSelection`   — the only selection with an identity, or a refusal;
  * `directRequirements` — build requirements, and check requirements when the subject is a member
                           of a check goal, sorted;
  * `admitRequirement`   — one turn of the requirement loop: scan ALL edges for the sole one that
                           answers the requirement, check it, and consume its identity;
  * `sweepEdge`          — the second sweep: every direct edge must have a consumed identity;
  * `inputId`, `inputSetId` — the hashed records.

  `Platform` gathers what the code takes from outside the repository: SHA-256, `std::sort`,
  the provider's ordering of requirements and its derived target architecture.
-/
import Pkgbuild.Base.SortContract
import Pkgbuild.Policy
import Pkgbuild.Provider

namespace Pkgbuild

open Checked Pkgsource Pkgcatalog Pkgresolve

/-! ## Build inputs -/

/-- What `input_id` writes: its domain, the scope's name, and the digits of the edge's and of the
    selection's identity.  A provider's `hex()` is written as any string is. -/
def inputRecord (scope : InputScope) (edge : RequirementEdge) (selection : SelectedPackage) :
    IdentityWriter :=
  let writer := IdentityWriter.new.text (literal "libpkgbuild/build-input/1")
  let writer := writer.text scope.toText
  let writer := writer.text edge.identity.hex
  writer.text selection.identity.hex

/-- `input_id`: the digest of that record. -/
def inputId (sha256 : Sha256) (scope : InputScope) (edge : RequirementEdge)
    (selection : SelectedPackage) : Except Error BuildInputIdentity :=
  Identity.fromSha256 _ ((inputRecord scope edge selection).finish sha256)

/-- `build_input`; only `admit` makes one. -/
structure BuildInput (sha256 : Sha256) where
  scope : InputScope
  requirement : RequirementEdge
  selection : SelectedPackage
  identity : BuildInputIdentity
  identity_eq : inputId sha256 scope requirement selection = .ok identity
deriving DecidableEq

namespace BuildInput

variable {sha256 : Sha256}

/-- `package`: that of the selected package. -/
def package (input : BuildInput sha256) : PackageReference := input.selection.package

/-- `operator<`. -/
def less (lhs rhs : BuildInput sha256) : Bool := lhs.identity.less rhs.identity

/-- The identity of the edge, which admission may consume once. -/
def edgeIdentity (input : BuildInput sha256) : RequirementEdgeIdentity := input.requirement.identity

/-- The identity follows from the other members. -/
theorem ext {a b : BuildInput sha256} (hscope : a.scope = b.scope)
    (hrequirement : a.requirement = b.requirement) (hselection : a.selection = b.selection) :
    a = b := by
  obtain ⟨scope, requirement, selection, identity, heq⟩ := a
  obtain ⟨scope', requirement', selection', identity', heq'⟩ := b
  cases hscope; cases hrequirement; cases hselection
  obtain rfl := Except.ok.inj (heq.symm.trans heq')
  rfl

end BuildInput

/-- What the code takes from outside the repository. -/
structure Platform where
  sha256 : Sha256
  /-- `architecture_context::selected_target` of libpkgresolve. -/
  selectedTarget : ArchitectureContext → ResolutionEnvironment → ArchitectureReference
  /-- `operator<` on libpkgsource's requirements. -/
  requirementLess : ResolvedRequirement → ResolvedRequirement → Bool
  /-- `std::sort` at the two types it is used at. -/
  sortRequirements : StdSort requirementLess
  sortInputs : StdSort (@BuildInput.less sha256)

/-- A platform with insertion sort for `std::sort`, requirements in the order of their package
    names, and the request's target architecture for every environment. -/
def Platform.insertion (sha256 : Sha256) : Platform where
  sha256 := sha256
  selectedTarget := fun architectures _ => architectures.target
  requirementLess := fun a b => decide (a.package.name.bytes < b.package.name.bytes)
  sortRequirements := .insertion (fun _ _ => rfl) (fun _ _ => List.lt_asymm)
    fun _ _ _ hxy hyz => List.not_lt.mpr (List.le_trans (List.not_lt.mp hxy) (List.not_lt.mp hyz))
  sortInputs := .insertion (fun _ _ => rfl) (fun _ _ => List.lt_asymm)
    fun _ _ _ hxy hyz => List.not_lt.mpr (List.le_trans (List.not_lt.mp hxy) (List.not_lt.mp hyz))

/-! ## The pieces of `admit` -/

/-- `require_selection`: a scan of ALL selections, which throws at a second match and, at the end,
    if there was none. -/
def requireSelection (resolution : ResolutionResult) (identity : PackageSelectionIdentity) :
    Except Error SelectedPackage := do
  let result ← scanSole
    (fun selection => .ok (if selection.identity = identity then some selection else none))
    (invalidRequest (ascii "resolution duplicates a package selection identity"))
    resolution.selections
  match result with
  | none =>
      .error (invalidRequest
        (ascii "build subject or requirement names an absent package selection"))
  | some selection => return selection

/-- `input_scope_from`: the two kinds of requirement that are built with. -/
def inputScopeFrom (scope : RequirementScope) : Except Error InputScope :=
  match scope.kind with
  | .build => .ok .build
  | .check => .ok .check
  | _ => .error (invalidRequest (ascii "build input uses a non-build requirement scope"))

/-- `is_check_goal_member`: some check goal, whatever else it is about, has the subject as a member.
    -/
def isCheckGoalMember (resolution : ResolutionResult) (subject : PackageSelectionIdentity) : Bool :=
  resolution.goals.any fun goal =>
    decide (goal.goal.scope.kind = .check) &&
      goal.members.any fun member => decide (member.selection = subject)

/-- The requirements `admit` activates, in recipe order. -/
def activeRequirements (source : SourceSnapshot) (includeCheck : Bool) : List ResolvedRequirement :=
  source.recipe.buildRequirements ++
    if includeCheck then source.recipe.checkRequirements else []

/-- `direct_requirements`: the active ones in the provider's order, ties as `std::sort` leaves them.
    -/
def directRequirements (P : Platform) (source : SourceSnapshot) (includeCheck : Bool) :
    List ResolvedRequirement :=
  P.sortRequirements.run (activeRequirements source includeCheck)

/-- The body of the edge scan: pass over edges of another issuer, environment or scope, look the
    required selection up — throwing if it is absent or duplicated — and compare packages. -/
def probeEdge (resolution : ResolutionResult) (subject : PackageSelectionIdentity)
    (requirement : ResolvedRequirement) (edge : RequirementEdge) :
    Except Error (Option (RequirementEdge × SelectedPackage)) :=
  if edge.issuer ≠ subject ∨ edge.environment ≠ .build ∨ edge.scope ≠ requirement.scope then
    .ok none
  else do
    let selected ← requireSelection resolution edge.required
    return if selected.package ≠ requirement.package then none else some (edge, selected)

/-- The edge's witness is not the candidate source's own declaration of the requirement. -/
def WitnessDiffers (candidate : CatalogCandidate) (requirement : ResolvedRequirement)
    (edge : RequirementEdge) : Prop :=
  edge.witness.kind ≠ .catalogSource ∨
    edge.witness.catalogSource ≠ some candidate.source.identity ∨
    edge.witness.catalogOrigins ≠ requirement.origins

instance (candidate : CatalogCandidate) (requirement : ResolvedRequirement)
    (edge : RequirementEdge) : Decidable (WitnessDiffers candidate requirement edge) :=
  inferInstanceAs (Decidable (_ ∨ _ ∨ _))

/-- The two lists the requirement loop builds. -/
structure AdmitState (sha256 : Sha256) where
  inputs : List (BuildInput sha256)
  consumed : List RequirementEdgeIdentity

/-- `consumed.insert` and `inputs.push_back`. -/
def AdmitState.push {sha256 : Sha256} (state : AdmitState sha256) (input : BuildInput sha256) :
    AdmitState sha256 :=
  ⟨state.inputs ++ [input], state.consumed ++ [input.edgeIdentity]⟩

/-- One turn of the requirement loop. -/
def admitRequirement (sha256 : Sha256) (resolution : ResolutionResult)
    (subject : PackageSelectionIdentity) (candidate : CatalogCandidate)
    (state : AdmitState sha256) (requirement : ResolvedRequirement) :
    Except Error (AdmitState sha256) := do
  let found ← scanSole (probeEdge resolution subject requirement)
    (invalidRequest (ascii "build requirement has ambiguous resolver authority"))
    resolution.edges
  match found with
  | none =>
      .error (invalidRequest (ascii "build requirement lacks exact resolver authority"))
  | some (edge, required) => do
      refuse (required.environment ≠ .build)
        (invalidRequest (ascii "build requirement selected a non-build environment package"))
      refuse (WitnessDiffers candidate requirement edge)
        (invalidRequest (ascii "build requirement witness differs from source authority"))
      refuse (edge.identity ∈ state.consumed)
        (invalidRequest (ascii "resolver edge satisfies more than one build requirement"))
      let scope ← inputScopeFrom requirement.scope
      let identity ← attach (inputId sha256 scope edge required)
      return state.push ⟨scope, edge, required, identity.1, identity.2⟩

/-- A direct edge of a subject: the edges the second sweep looks at. -/
def IsDirect (subject : PackageSelectionIdentity) (edge : RequirementEdge) : Prop :=
  edge.issuer = subject ∧ edge.environment = .build ∧
    (edge.scope.kind = .build ∨ edge.scope.kind = .check)

instance (subject : PackageSelectionIdentity) : DecidablePred (IsDirect subject) := fun _ =>
  inferInstanceAs (Decidable (_ ∧ _ ∧ _))

/-- One turn of the second sweep. -/
def sweepEdge (subject : PackageSelectionIdentity) (consumed : List RequirementEdgeIdentity)
    (edge : RequirementEdge) : Except Error Unit :=
  refuse (IsDirect subject edge ∧ edge.identity ∉ consumed)
    (invalidRequest (ascii "resolution contains an undeclared direct build input"))

/-- What `input_set_id` writes. -/
def inputSetRecord {sha256 : Sha256} (resolution : ResolutionResultIdentity)
    (subject : PackageSelectionIdentity) (inputs : List (BuildInput sha256)) : IdentityWriter :=
  let writer := IdentityWriter.new.text (literal "libpkgbuild/build-input-set/1")
  let writer := writer.text resolution.hex
  let writer := writer.text subject.hex
  let writer := writer.number (UInt64.ofNat inputs.length)
  inputs.foldl (fun writer input => writer.text input.identity.text) writer

/-- `input_set_id`: the digest of that record. -/
def inputSetId {sha256 : Sha256} (resolution : ResolutionResultIdentity)
    (subject : PackageSelectionIdentity) (inputs : List (BuildInput sha256)) :
    Except Error BuildInputSetIdentity :=
  Identity.fromSha256 _ ((inputSetRecord resolution subject inputs).finish sha256)

/-- `build_input_set`. -/
structure BuildInputSet (sha256 : Sha256) where
  subject : SelectedPackage
  resolution : ResolutionResultIdentity
  inputs : List (BuildInput sha256)
  identity : BuildInputSetIdentity

/-- The architecture context `admit` expects of a selection. -/
def expectedArchitectures (P : Platform) (resolution : ResolutionResult)
    (selection : SelectedPackage) : ArchitectureContext :=
  ⟨resolution.request.architectures.build,
    P.selectedTarget resolution.request.architectures selection.environment⟩

/-- The subject's members disagree with its candidate. -/
def ContradictsCandidate (subject : SelectedPackage) (candidate : CatalogCandidate) : Prop :=
  candidate.source.identity ≠ subject.sourceSnapshot ∨
    candidate.release.identity ≠ subject.release.identity ∨
    candidate.package ≠ subject.package

instance (subject : SelectedPackage) (candidate : CatalogCandidate) :
    Decidable (ContradictsCandidate subject candidate) :=
  inferInstanceAs (Decidable (_ ∨ _ ∨ _))

/-- The selection's candidate, or a refusal. -/
def requireCandidate (subject : SelectedPackage) (missing : Error) :
    Except Error CatalogCandidate :=
  match subject.candidate with
  | none => .error missing
  | some candidate => .ok candidate

/-- `build_input_set::admit`. -/
def BuildInputSet.admit (P : Platform) (resolution : ResolutionResult)
    (subjectIdentity : PackageSelectionIdentity) : Except Error (BuildInputSet P.sha256) := do
  let subject ← requireSelection resolution subjectIdentity
  let candidate ← requireCandidate subject
    (invalidRequest (ascii "build subject must retain catalog source authority"))
  refuse (ContradictsCandidate subject candidate)
    (invalidRequest (ascii "build subject contradicts its catalog authority"))
  refuse (subject.architectures ≠ expectedArchitectures P resolution subject)
    (invalidRequest
      (ascii "build subject architecture context differs from resolution request"))
  let requirements := directRequirements P candidate.source
    (isCheckGoalMember resolution subjectIdentity)
  let state ← requirements.foldlM
    (admitRequirement P.sha256 resolution subjectIdentity candidate) ⟨[], []⟩
  forM resolution.edges (sweepEdge subjectIdentity state.consumed)
  let inputs := P.sortInputs.run state.inputs
  let identity ← inputSetId resolution.identity subjectIdentity inputs
  return ⟨subject, resolution.identity, inputs, identity⟩

/-- `build_input_set::for_scope`. -/
def BuildInputSet.forScope {sha256 : Sha256} (set : BuildInputSet sha256) (scope : InputScope) :
    List (BuildInput sha256) :=
  set.inputs.filter fun input => input.scope = scope

end Pkgbuild

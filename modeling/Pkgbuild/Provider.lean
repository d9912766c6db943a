/-
  The records libpkgbuild reads from its providers (libpkgsource, libpkgcatalog, libpkgresolve).

  None of the three libraries is part of this repository.  Their values are taken here as plain
  records with lawful equality, holding exactly what libpkgbuild reads through their accessors;
  nothing is assumed about how they were made, so a resolution below may be as inconsistent as its
  fields allow.  Two conventions:

  * content that libpkgbuild only compares or hands on (the rest of a scope, an origin, a build
    program) is kept as opaque text;
  * an enumeration lists the enumerators libpkgbuild or its tests name, and `other` stands for
    every further one.

  What libpkgbuild CALLS in its providers (an ordering, a derived architecture) is not here: see
  `Platform`.
-/
import Pkgbuild.Identity

namespace Pkgsource

open Pkgbuild (Text)

/-- Which source was read.  Admission compares that of the subject, and of every witness, with the
    candidate's, and the record of a request begins with it. -/
@[ext] structure SourceSnapshotIdentity where
  hex : Text
deriving DecidableEq

/-- Which release a package is; only compared, between a selection and its catalog candidate. -/
structure PackageReleaseIdentity where
  hex : Text
deriving DecidableEq

/-- An architecture by its name.  A request writes the build and the target architecture it was
    sealed for. -/
@[ext] structure ArchitectureReference where
  name : Text
deriving DecidableEq

/-- A package by its name.  A requirement and the selection that meets it must have the same. -/
structure PackageReference where
  name : Text
deriving DecidableEq

/-- When a requirement is needed.  Only `build` and `check` make build inputs; edges of every other
    scope are no business of this library. -/
inductive RequirementScopeKind where
  | build
  | check
  | run
  | other (value : Nat)
deriving DecidableEq

/-- A scope.  An edge is matched to a requirement by the WHOLE scope, while the sweep over the
    remaining edges reads the kind alone; so a scope holds more than its kind here. -/
structure RequirementScope where
  kind : RequirementScopeKind
  /-- Whatever a scope holds besides its kind. -/
  detail : Text
deriving DecidableEq

/-- Where in a recipe a requirement was declared; compared with what an edge's witness says, and
    never read. -/
structure RequirementOrigin where
  content : Text
deriving DecidableEq

/-- A requirement of a recipe after the expansion of profiles.  `std::sort` puts requirements in an
    order of the provider's, which is a parameter of `Platform`. -/
structure ResolvedRequirement where
  scope : RequirementScope
  package : PackageReference
  origins : List RequirementOrigin
deriving DecidableEq

/-- Declared architectures; an empty list is unrestricted.  `architecture_binding::select` asks the
    first for the build, the second for the target architecture. -/
structure ArchitectureRequirements where
  build : List ArchitectureReference
  target : List ArchitectureReference
deriving DecidableEq

/-- A release; of it only the identity is read. -/
structure PackageRelease where
  identity : PackageReleaseIdentity
deriving DecidableEq

/-- A build profile that was selected; handed on to the executor as it is. -/
structure SelectedProfile where
  content : Text
deriving DecidableEq

/-- The build program of a recipe; handed on to the executor as it is. -/
structure Program where
  content : Text
deriving DecidableEq

/-- What a source says of building itself.  Admission reads the two lists of requirements, sealing
    the architectures; the rest is handed on. -/
structure Recipe where
  release : PackageRelease
  architectures : ArchitectureRequirements
  buildRequirements : List ResolvedRequirement
  checkRequirements : List ResolvedRequirement
  selectedBuildProfiles : List SelectedProfile
  buildProgram : Program
deriving DecidableEq

/-- A source under its identity.  Nothing here checks that the identity is that of the recipe: a
    provider vouches for it. -/
structure SourceSnapshot where
  identity : SourceSnapshotIdentity
  recipe : Recipe
deriving DecidableEq

end Pkgsource

namespace Pkgcatalog

open Pkgsource

/-- The catalog's authority for a selected package: the source it is built from, its release and its
    name.  A selection is admitted only if it agrees with all three. -/
structure CatalogCandidate where
  source : SourceSnapshot
  release : PackageRelease
  package : PackageReference
deriving DecidableEq

end Pkgcatalog

namespace Pkgresolve

open Pkgbuild (Text)
open Pkgsource Pkgcatalog

/-- Which selection is meant.  Subjects, issuers, requirements of edges and members of goals are all
    named so, and looked up in the selections by it. -/
@[ext] structure PackageSelectionIdentity where
  hex : Text
deriving DecidableEq

/-- Which edge is meant.  Admission remembers the edges it used under their identities, so edges
    that share one are taken for the same. -/
@[ext] structure RequirementEdgeIdentity where
  hex : Text
deriving DecidableEq

/-- Which resolution is meant; written into the record of every input set. -/
@[ext] structure ResolutionResultIdentity where
  hex : Text
deriving DecidableEq

/-- For which machine a package was selected.  Build inputs come from the build environment, and a
    subject may be selected for either. -/
inductive ResolutionEnvironment where
  | build
  | target
  | other (value : Nat)
deriving DecidableEq

/-- The architectures a package is built on and for. -/
structure ArchitectureContext where
  build : ArchitectureReference
  target : ArchitectureReference
deriving DecidableEq

/-- A package of the resolution, with the authority it was selected by. -/
structure SelectedPackage where
  identity : PackageSelectionIdentity
  environment : ResolutionEnvironment
  architectures : ArchitectureContext
  /-- Null for a selection without catalog source authority. -/
  candidate : Option CatalogCandidate
  release : PackageRelease
  sourceSnapshot : SourceSnapshotIdentity
  package : PackageReference
deriving DecidableEq

/-- What an edge was resolved by.  Admission takes the catalog's sources only. -/
inductive RequirementAuthorityKind where
  | catalogSource
  | other (value : Nat)
deriving DecidableEq

/-- Why an edge is in the resolution: the source that declared the requirement and the places where
    it did. -/
structure RequirementWitness where
  kind : RequirementAuthorityKind
  catalogSource : Option SourceSnapshotIdentity
  catalogOrigins : List RequirementOrigin
deriving DecidableEq

/-- One edge of the resolution: the issuer's requirement, in a scope and an environment, is met by
    the selection called `required`. -/
structure RequirementEdge where
  issuer : PackageSelectionIdentity
  required : PackageSelectionIdentity
  scope : RequirementScope
  environment : ResolutionEnvironment
  witness : RequirementWitness
  identity : RequirementEdgeIdentity
deriving DecidableEq

/-- What a goal was asked for; of it only the scope is read. -/
structure ResolutionGoal where
  scope : RequirementScope
deriving DecidableEq

/-- A selection that belongs to a goal, by its identity. -/
structure GoalMember where
  selection : PackageSelectionIdentity
deriving DecidableEq

/-- A goal and its members.  A subject that is a member of a `check` goal has its check requirements
    admitted too. -/
structure ResolvedGoal where
  goal : ResolutionGoal
  members : List GoalMember
deriving DecidableEq

/-- What was asked of the resolver; of it only the architectures are read. -/
structure ResolutionRequest where
  architectures : ArchitectureContext
deriving DecidableEq

/-- A resolution, as the resolver hands it over.  Its lists come in whatever order the resolver
    likes, and may hold one entry twice. -/
structure ResolutionResult where
  request : ResolutionRequest
  selections : List SelectedPackage
  edges : List RequirementEdge
  goals : List ResolvedGoal
  identity : ResolutionResultIdentity
deriving DecidableEq

end Pkgresolve

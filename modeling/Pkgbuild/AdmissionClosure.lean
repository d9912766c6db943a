/-
  How far admission is closed against extra edges.

  The second sweep of `admit` is there to reject every direct edge that is not the requirement of an
  input ("undeclared direct build input").  It recognises an edge by its IDENTITY: an edge that
  carries a consumed identity is taken for the edge that consumed it.  Nothing checks that a
  resolution gives its edges distinct identities, so:

  * an admitted subject has all its direct edges among the inputs exactly when these edges carry
    distinct identities (`Admitted.closed_iff`);
  * an extra direct edge slipped into an admitted resolution gets through exactly when it reuses an
    identity and names no active requirement (`GoesUnnoticed`), and then NOTHING else changes: the
    same inputs are admitted (`Admitted.insertEdge`).

  `closed_iff_distinct` puts the two together, and `stray_edge_admitted` is a resolution with such
  an edge.  `resolution_covered` reads it of all subjects of a resolution at once.
-/
import Pkgbuild.AdmissionAuthority

namespace Pkgbuild

open Checked Correspondence Pkgsource Pkgcatalog Pkgresolve

variable {P : Platform} {resolution : ResolutionResult} {subject : PackageSelectionIdentity}
  {selection : SelectedPackage} {candidate : CatalogCandidate} {inputs : List (BuildInput P.sha256)}

/-! ## Closed admission -/

/-- Every direct edge is the requirement of an input, and there are as many edges as inputs. -/
structure Closed {sha256 : Sha256} (resolution : ResolutionResult)
    (subject : PackageSelectionIdentity) (set : BuildInputSet sha256) : Prop where
  covered : ∀ edge ∈ directEdges resolution subject, ∃ input ∈ set.inputs,
    input.requirement.issuer = edge.issuer ∧ input.requirement.required = edge.required ∧
      input.requirement.scope = edge.scope ∧ input.requirement.witness = edge.witness
  counted : (directEdges resolution subject).length = set.inputs.length

/-- The resolution with one more edge. -/
def insertEdge (resolution : ResolutionResult) (before : List RequirementEdge)
    (edge : RequirementEdge) (after : List RequirementEdge) : ResolutionResult :=
  { resolution with edges := before ++ edge :: after }

/-- What an extra direct edge needs to go unnoticed: an identity already used by a direct edge, and
    a required selection of another package than any active requirement of its scope names. -/
def GoesUnnoticed (resolution : ResolutionResult) (subject : PackageSelectionIdentity)
    (source : SourceSnapshot) (edge : RequirementEdge) : Prop :=
  edge.identity ∈ (directEdges resolution subject).map RequirementEdge.identity ∧
    ∀ requirement ∈ active resolution subject source, edge.scope = requirement.scope →
      ∃ required, Lookup resolution edge.required required ∧
        required.package ≠ requirement.package

/-- **Closed exactly under distinct identities.**  The inputs' edges have distinct identities
    already; if there are no fewer of them than direct edges, neither do the direct edges repeat
    one. -/
theorem Admitted.closed_iff (h : Admitted P resolution subject selection candidate inputs) :
    Closed resolution subject (assemble P resolution subject selection inputs) ↔
      ((directEdges resolution subject).map RequirementEdge.identity).Nodup := by
  have hsub : inputs.map BuildInput.edgeIdentity
      ⊆ (directEdges resolution subject).map RequirementEdge.identity := by
    intro identity hidentity
    obtain ⟨input, hinput, rfl⟩ := List.mem_map.mp hidentity
    exact List.mem_map_of_mem (h.requirement_mem hinput)
  have hlength : (assemble P resolution subject selection inputs).inputs.length = inputs.length :=
    P.sortInputs.length_run inputs
  constructor
  · intro hclosed
    refine nodup_of_length_le h.distinct hsub ?_
    rw [List.length_map, List.length_map, hclosed.counted, hlength]
  · intro hdistinct
    have hperm := h.perm_directEdges hdistinct
    constructor
    · intro edge hedge
      obtain ⟨input, hinput, rfl⟩ := List.mem_map.mp (hperm.mem_iff.mpr hedge)
      exact ⟨input, P.sortInputs.mem_run.mpr hinput, rfl, rfl, rfl, rfl⟩
    · rw [hlength, ← hperm.length_eq, List.length_map]

section Insert

variable {before after : List RequirementEdge} {edge : RequirementEdge}

theorem directEdges_insertEdge (resolution : ResolutionResult) (before after : List RequirementEdge)
    (hdirect : IsDirect subject edge) :
    directEdges (insertEdge resolution before edge after) subject
      = (before.filter fun e => IsDirect subject e) ++
          edge :: after.filter fun e => IsDirect subject e := by
  show (before ++ edge :: after).filter _ = _
  rw [List.filter_append, List.filter_cons_of_pos (by simpa using hdirect)]

theorem directEdges_split (subject : PackageSelectionIdentity)
    (hedges : resolution.edges = before ++ after) :
    directEdges resolution subject
      = (before.filter fun e => IsDirect subject e) ++
          after.filter fun e => IsDirect subject e := by
  rw [directEdges, hedges, List.filter_append]

/-- An extra edge that went unnoticed named no requirement and reused an identity. -/
theorem Admitted.goesUnnoticed (h : Admitted P resolution subject selection candidate inputs)
    (hedges : resolution.edges = before ++ after) (hdirect : IsDirect subject edge)
    {inputs' : List (BuildInput P.sha256)}
    (h' : Admitted P (insertEdge resolution before edge after) subject selection candidate
      inputs') :
    GoesUnnoticed resolution subject candidate.source edge := by
  have hinsert := directEdges_insertEdge resolution before after hdirect
  have hsplit := directEdges_split subject hedges
  -- had the edge named an active requirement, that requirement's authority would be ambiguous
  have hsilent : ∀ requirement ∈ active resolution subject candidate.source,
      ¬ Names resolution requirement edge := by
    intro requirement hrequirement hnames
    obtain ⟨input, -, hanswers⟩ := h.exists_input hrequirement
    obtain ⟨input', -, hanswers'⟩ := h'.exists_input hrequirement
    have hsole := hanswers.sole
    have hsole' := hanswers'.sole
    rw [hsplit] at hsole
    rw [hinsert] at hsole'
    exact not_sole_insert hnames hsole _ hsole'
  constructor
  · have hmem : edge ∈ directEdges (insertEdge resolution before edge after) subject := by
      rw [hinsert]
      simp
    obtain ⟨input', hinput', hidentity⟩ := List.mem_map.mp (h'.declared edge hmem)
    obtain ⟨requirement, hrequirement, hanswers'⟩ := h'.exists_answers hinput'
    -- the input that consumed the identity answers its requirement by an OLD edge
    have hsole' := hanswers'.sole
    rw [hinsert] at hsole'
    have hold := ((sole_insert (hsilent requirement hrequirement)).mp hsole').mem
    rw [← hsplit] at hold
    exact hidentity ▸ List.mem_map_of_mem hold
  · intro requirement hrequirement hscope
    obtain ⟨input', -, hanswers'⟩ := h'.exists_input hrequirement
    obtain ⟨required, hlookup⟩ := hanswers'.resolvable edge (by rw [hinsert]; simp) hscope
    refine ⟨required, hlookup, fun hpackage => hsilent requirement hrequirement ?_⟩
    exact ⟨hscope, required, hlookup, hpackage⟩

/-- An extra edge that names no requirement and reuses an identity goes unnoticed: the same inputs
    are admitted. -/
theorem Admitted.insertEdge (h : Admitted P resolution subject selection candidate inputs)
    (hedges : resolution.edges = before ++ after) (hdirect : IsDirect subject edge)
    (hunnoticed : GoesUnnoticed resolution subject candidate.source edge) :
    Admitted P (insertEdge resolution before edge after) subject selection candidate inputs := by
  have hinsert := directEdges_insertEdge resolution before after hdirect
  have hsplit := directEdges_split subject hedges
  have hmem : ∀ other,
      other ∈ directEdges (Pkgbuild.insertEdge resolution before edge after) subject ↔
        other = edge ∨ other ∈ directEdges resolution subject := by
    intro other
    rw [hinsert, hsplit]
    simp only [List.mem_append, List.mem_cons]
    exact or_left_comm
  refine ⟨h.lookup, h.candidate_eq, h.agrees, h.architectures, ?_, h.distinct, ?_⟩
  · refine h.answers_active.imp fun requirement input ⟨hrequirement, hanswers⟩ => ?_
    refine ⟨hanswers.scope, ?_, ?_, hanswers.selection, hanswers.environment, hanswers.witness⟩
    · intro other hother hscope
      rcases (hmem other).mp hother with rfl | hold
      · obtain ⟨required, hlookup, -⟩ := hunnoticed.2 requirement hrequirement hscope
        exact ⟨required, hlookup⟩
      · exact hanswers.resolvable other hold hscope
    · -- the new edge leads to another package, so the sole answer stays the sole one
      have hsilent : ¬ Names resolution requirement edge := by
        rintro ⟨hscope, found, hfound, hpackage⟩
        obtain ⟨required, hlookup, hne⟩ := hunnoticed.2 requirement hrequirement hscope
        obtain rfl := hlookup.unique hfound
        exact hne hpackage
      have hsole := hanswers.sole
      rw [hsplit] at hsole
      rw [hinsert]
      exact (sole_insert hsilent).mpr hsole
  · intro other hother
    rcases (hmem other).mp hother with rfl | hold
    · -- the sweep sees an identity that the twin had consumed
      obtain ⟨twin, htwin, hidentity⟩ := List.mem_map.mp hunnoticed.1
      exact hidentity ▸ h.declared twin htwin
    · exact h.declared other hold

end Insert

/-- **How far admission is closed.**  On an admitted subject: the direct edges are the inputs'
    requirements, one for one, exactly when they carry distinct identities; and one more direct
    edge makes `admit` fail exactly when it does not go unnoticed. -/
theorem closed_iff_distinct (P : Platform) (resolution : ResolutionResult)
    (subject : PackageSelectionIdentity) (set : BuildInputSet P.sha256)
    (hset : BuildInputSet.admit P resolution subject = .ok set) :
    (Closed resolution subject set ↔
      ((directEdges resolution subject).map RequirementEdge.identity).Nodup) ∧
    ∃ candidate, set.subject.candidate = some candidate ∧
      ∀ before edge after, resolution.edges = before ++ after → IsDirect subject edge →
        ((∃ error, BuildInputSet.admit P (insertEdge resolution before edge after) subject
            = .error error) ↔
          ¬ GoesUnnoticed resolution subject candidate.source edge) := by
  obtain ⟨selection, candidate, inputs, h, rfl⟩ := admit_ok_iff.mp hset
  refine ⟨h.closed_iff, candidate, h.candidate_eq, ?_⟩
  intro before edge after hedges hdirect
  constructor
  · rintro ⟨error, herror⟩ hunnoticed
    have hok := admit_ok_iff.mpr ⟨selection, candidate, inputs,
      h.insertEdge hedges hdirect hunnoticed, rfl⟩
    rw [herror] at hok
    cases hok
  · intro hnoticed
    cases hadmission : BuildInputSet.admit P (insertEdge resolution before edge after) subject with
    | error error => exact ⟨error, rfl⟩
    | ok set' =>
      obtain ⟨selection', candidate', inputs', h', -⟩ := admit_ok_iff.mp hadmission
      -- the subject and its candidate are looked up as before
      obtain rfl := h.lookup.unique h'.lookup
      obtain rfl := Option.some.inj (h.candidate_eq.symm.trans h'.candidate_eq)
      exact absurd (h.goesUnnoticed hedges hdirect h') hnoticed

/-- The tool edge's identity on an edge to a package nobody asked for. -/
def Sample.strayEdge : RequirementEdge := Sample.edge 0x31 0x66 .build

/-- The resolution of one build requirement, with the stray edge behind the edge for it. -/
def Sample.strayResolution : ResolutionResult :=
  insertEdge Sample.toolResolution [Sample.toolEdge] Sample.strayEdge []

theorem Sample.strayResolution_admitted :
    ∃ set, BuildInputSet.admit Sample.platform Sample.strayResolution ⟨Sample.hex 0x61⟩
      = .ok set := by
  decide +kernel

/-- **A stray edge is admitted.**  The stray edge is a direct edge of the root; the resolution is
    admitted without it AND with it, and with it admission is not closed. -/
theorem stray_edge_admitted :
    IsDirect ⟨Sample.hex 0x61⟩ Sample.strayEdge ∧
      (∃ set, BuildInputSet.admit Sample.platform Sample.toolResolution ⟨Sample.hex 0x61⟩
        = .ok set) ∧
      ∃ set, BuildInputSet.admit Sample.platform Sample.strayResolution ⟨Sample.hex 0x61⟩
          = .ok set ∧
        ¬ Closed Sample.strayResolution ⟨Sample.hex 0x61⟩ set := by
  refine ⟨by decide, Sample.toolResolution_admitted, ?_⟩
  obtain ⟨set, hset⟩ := Sample.strayResolution_admitted
  obtain ⟨selection, candidate, inputs, h, rfl⟩ := admit_ok_iff.mp hset
  exact ⟨_, hset, fun hclosed => absurd (h.closed_iff.mp hclosed) (by decide)⟩

/-- Two direct edges of different identities, and admission is closed. -/
theorem closed_iff_distinct_checked : ∃ set,
    BuildInputSet.admit Sample.platform (Sample.checkedResolution [Sample.goal .check])
        ⟨Sample.hex 0x61⟩ = .ok set ∧
      Closed (Sample.checkedResolution [Sample.goal .check]) ⟨Sample.hex 0x61⟩ set := by
  obtain ⟨set, hset⟩ := Sample.checkedResolution_admitted
  exact ⟨set, hset, (closed_iff_distinct Sample.platform _ _ set hset).1.mpr (by decide)⟩

/-! ## A whole resolution -/

/-- The direct edges of all subjects together. -/
def directEdgesOf (resolution : ResolutionResult) (subjects : List PackageSelectionIdentity) :
    List RequirementEdge :=
  resolution.edges.filter fun edge => ∃ subject ∈ subjects, IsDirect subject edge

/-- Those of one subject are the ones it issues. -/
theorem filter_directEdgesOf {subjects : List PackageSelectionIdentity}
    (hmem : subject ∈ subjects) :
    (directEdgesOf resolution subjects).filter (fun edge => edge.issuer = subject)
      = directEdges resolution subject := by
  rw [directEdgesOf, directEdges, List.filter_filter]
  refine List.filter_congr fun edge _ => ?_
  rw [← Bool.decide_and, decide_eq_decide]
  constructor
  · rintro ⟨rfl, subject', -, hdirect⟩
    exact hdirect.1 ▸ hdirect
  · intro hdirect
    exact ⟨hdirect.1, subject, hmem, hdirect⟩

/-- The inputs use the direct edges up exactly if these have distinct identities. -/
theorem Admitted.perm_directEdges_iff
    (h : Admitted P resolution subject selection candidate inputs) :
    (inputs.map BuildInput.requirement).Perm (directEdges resolution subject) ↔
      ((directEdges resolution subject).map RequirementEdge.identity).Nodup := by
  constructor
  · intro hperm
    have hidentities := hperm.map RequirementEdge.identity
    rw [List.map_map] at hidentities
    exact hidentities.nodup_iff.mp h.distinct
  · exact h.perm_directEdges

/-- **A whole resolution is used up.**  Admit any number of different subjects of one resolution.
    Their inputs together use every direct edge of theirs, each exactly once, exactly when no
    subject has two direct edges of one identity; between subjects identities may repeat. -/
theorem resolution_covered (P : Platform) (resolution : ResolutionResult)
    (subjects : List PackageSelectionIdentity) (sets : List (BuildInputSet P.sha256))
    (hsubjects : subjects.Nodup)
    (hsets : List.Forall₂ (fun subject set => BuildInputSet.admit P resolution subject = .ok set)
      subjects sets) :
    (sets.flatMap fun set => set.inputs.map BuildInput.requirement).Perm
        (directEdgesOf resolution subjects) ↔
      ∀ subject ∈ subjects,
        ((directEdges resolution subject).map RequirementEdge.identity).Nodup := by
  -- the parts belong to different issuers, so they can be compared one by one
  have hissuers : List.Forall₂ (fun subject (part : List RequirementEdge) =>
      ∀ edge ∈ part, edge.issuer = subject) subjects
      (sets.map fun set => set.inputs.map BuildInput.requirement) := by
    refine List.forall₂_map_right_iff.mpr (hsets.imp fun subject set hset => ?_)
    obtain ⟨selection, candidate, inputs, h, rfl⟩ := admit_ok_iff.mp hset
    intro edge hedge
    obtain ⟨input, hinput, rfl⟩ := List.mem_map.mp hedge
    exact (mem_directEdges.mp (h.requirement_mem (P.sortInputs.mem_run.mp hinput))).2.1
  have hparts : List.Forall₂ (fun subject set =>
      (set.inputs.map BuildInput.requirement).Perm
        ((directEdgesOf resolution subjects).filter fun edge => edge.issuer = subject) ↔
      ((directEdges resolution subject).map RequirementEdge.identity).Nodup) subjects sets := by
    refine ((List.forall₂_and_left _ _).mpr ⟨fun _ => id, hsets⟩).imp ?_
    rintro subject set ⟨hmem, hset⟩
    obtain ⟨selection, candidate, inputs, h, rfl⟩ := admit_ok_iff.mp hset
    have hsorted := (P.sortInputs.perm inputs).map BuildInput.requirement
    rw [filter_directEdgesOf hmem, ← h.perm_directEdges_iff]
    exact hsorted.congr_left _
  rw [List.flatMap_def, flatten_perm_iff hsubjects hissuers, List.forall₂_map_right_iff]
  · constructor
    · intro hperms
      have hboth := List.Forall₂.mp (fun _ _ => Iff.mp) hparts hperms
      exact ((List.forall₂_and_left _ _).mp (hboth.imp fun _ _ h => ⟨h, trivial⟩)).1
    · intro hdistinct
      have hboth := (List.forall₂_and_left _ _).mpr ⟨hdistinct, hparts⟩
      exact hboth.imp fun _ _ ⟨h, hiff⟩ => hiff.mpr h
  · intro edge hedge
    obtain ⟨-, hmem⟩ := List.mem_filter.mp hedge
    obtain ⟨subject, hsubject, hdirect⟩ := of_decide_eq_true hmem
    exact hdirect.1 ▸ hsubject

/-- Two roots that need "tool" to build, each with an edge for it, of one identity. -/
def Sample.twoRoots : ResolutionResult :=
  { Sample.toolResolution with
    selections := Sample.selected 0x68 (literal "second")
        (some ⟨Sample.source [], ⟨⟨Sample.hex 0x64⟩⟩, ⟨literal "second"⟩⟩) ::
      Sample.toolResolution.selections
    edges := [Sample.toolEdge, { Sample.toolEdge with issuer := ⟨Sample.hex 0x68⟩ }] }

theorem Sample.twoRoots_admitted : ∀ subject ∈ [Sample.hex 0x61, Sample.hex 0x68],
    ∃ set, BuildInputSet.admit Sample.platform Sample.twoRoots ⟨subject⟩ = .ok set := by
  decide +kernel

/-- The two edges are used up. -/
theorem resolution_covered_twoRoots : ∃ set set',
    BuildInputSet.admit Sample.platform Sample.twoRoots ⟨Sample.hex 0x61⟩ = .ok set ∧
      BuildInputSet.admit Sample.platform Sample.twoRoots ⟨Sample.hex 0x68⟩ = .ok set' ∧
      ([set, set'].flatMap fun set => set.inputs.map BuildInput.requirement).Perm
        Sample.twoRoots.edges := by
  obtain ⟨set, hset⟩ := Sample.twoRoots_admitted _ List.mem_cons_self
  obtain ⟨set', hset'⟩ := Sample.twoRoots_admitted _ (List.mem_cons_of_mem _ List.mem_cons_self)
  refine ⟨set, set', hset, hset', ?_⟩
  exact (resolution_covered Sample.platform Sample.twoRoots [⟨Sample.hex 0x61⟩, ⟨Sample.hex 0x68⟩]
    [set, set'] (by decide) (.cons hset (.cons hset' .nil))).mpr (by decide)

end Pkgbuild

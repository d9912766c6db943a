/-
  Which edits of its edges an admitted resolution survives, and which of them the identity shows.

  Take an admitted resolution and put ANY list in the place of its edges — edges removed, added,
  reordered, aimed at another selection, given another scope or witness — as long as no two direct
  edges of the subject carry one identity, before or after.  Then

  * **Refused or replaced** — the edit is admitted exactly when the new direct edges, in some order,
    stand for the old ones one by one: same scope, same witness, and a selection of the same
    package, to be looked up in the build environment (`StandsFor`).  So nothing can be removed,
    added or exchanged for something the source did not ask for;
  * **Seen** — of the edits that are admitted, the identity of the input set shows those that touch
    an edge's identity, its required selection or the kind of its scope (`label`).

  The first rests on `Sole`: the requirements have distinct keys, each of them is named by the edge
  that stands for the old one and, since the keys of the others are different, by no other.
-/
import Pkgbuild.AdmissionCanonical

namespace Pkgbuild

open Checked Correspondence RecordCode Pkgsource Pkgcatalog Pkgresolve

variable {P : Platform} {sha256 : Sha256} {resolution : ResolutionResult}
  {edges : List RequirementEdge} {subject : PackageSelectionIdentity} {selection : SelectedPackage}
  {candidate : CatalogCandidate} {requirement : ResolvedRequirement} {edge edge' : RequirementEdge}

/-- The resolution with other edges. -/
def withEdges (resolution : ResolutionResult) (edges : List RequirementEdge) : ResolutionResult :=
  { resolution with edges := edges }

/-- `edge'` can take the place of `edge`. -/
structure StandsFor (resolution : ResolutionResult) (edge edge' : RequirementEdge) : Prop where
  scope : edge'.scope = edge.scope
  witness : edge'.witness = edge.witness
  required : ∃ old new, Lookup resolution edge.required old ∧
    Lookup resolution edge'.required new ∧ new.package = old.package ∧ new.environment = .build

/-! ## Admitted edits replace the edges one by one -/

/-- The source determines the whole witness. -/
theorem Answers.witness_eq {input : BuildInput sha256}
    (h : Answers resolution subject candidate requirement input) : input.requirement.witness
      = ⟨.catalogSource, some candidate.source.identity, requirement.origins⟩ := by
  obtain ⟨hkind, hsource, horigins⟩ := not_witnessDiffers_iff.mp h.witness
  rw [← hkind, ← hsource, ← horigins]

/-- Edges that answer one requirement stand for each other. -/
theorem Answers.standsFor {input input' : BuildInput sha256}
    (h : Answers resolution subject candidate requirement input)
    (h' : Answers (withEdges resolution edges) subject candidate requirement input') :
    StandsFor resolution input.requirement input'.requirement := by
  obtain ⟨hscope, old, hold, hpackage⟩ := h.sole.holds
  obtain ⟨hscope', new, hnew, hpackage'⟩ := h'.sole.holds
  obtain rfl := h'.selection.unique hnew
  refine ⟨hscope'.trans hscope.symm, ?_, old, _, hold, hnew, hpackage'.trans hpackage.symm,
    h'.environment⟩
  rw [h.witness_eq, h'.witness_eq]

section Edits

variable {inputs inputs' : List (BuildInput P.sha256)}

/-- The inputs admitted before and after an edit line up. -/
theorem Admitted.standsFor (h : Admitted P resolution subject selection candidate inputs)
    (h' : Admitted P (withEdges resolution edges) subject selection candidate inputs') :
    List.Forall₂ (StandsFor resolution) (inputs.map BuildInput.requirement)
      (inputs'.map BuildInput.requirement) := by
  refine List.forall₂_map_left_iff.mpr (List.forall₂_map_right_iff.mpr ?_)
  refine (forall₂_of_common h.answers h'.answers).imp ?_
  rintro input input' ⟨requirement, hanswers, hanswers'⟩
  exact hanswers.standsFor hanswers'

/-! ## Edges replaced one by one are admitted -/

/-- The edge has the scope, the selection it requires the package. -/
def NamesKey (resolution : ResolutionResult) (key : RequirementScope × PackageReference)
    (edge : RequirementEdge) : Prop :=
  edge.scope = key.1 ∧
    ∃ selection, Lookup resolution edge.required selection ∧ selection.package = key.2

/-- An edge that stands for an input's names the input's key, and no other. -/
theorem StandsFor.namesKey_iff {input : BuildInput sha256}
    (hstands : StandsFor resolution input.requirement edge)
    (hselection : Lookup resolution input.requirement.required input.selection)
    (key : RequirementScope × PackageReference) :
    NamesKey resolution key edge ↔ input.key = key := by
  obtain ⟨old, new, hold, hnew, hpackage, -⟩ := hstands.required
  obtain rfl := hselection.unique hold
  constructor
  · rintro ⟨hscope, found, hfound, hpackage'⟩
    obtain rfl := hnew.unique hfound
    exact Prod.ext (hstands.scope.symm.trans hscope) (hpackage.symm.trans hpackage')
  · rintro rfl
    exact ⟨hstands.scope, new, hnew, hpackage⟩

/-- What stands for the edge of an answer makes an answer, if it is the only one of the name. -/
theorem Answers.replace {input : BuildInput sha256}
    (h : Answers resolution subject candidate requirement input)
    (hstands : StandsFor resolution input.requirement edge')
    (hresolvable : ∀ edge ∈ directEdges (withEdges resolution edges) subject,
      ∃ selection, Lookup resolution edge.required selection)
    (hsole : Sole (Names resolution requirement) (directEdges (withEdges resolution edges) subject)
      edge') :
    ∃ input' : BuildInput sha256,
      Answers (withEdges resolution edges) subject candidate requirement input' ∧
        input'.requirement = edge' := by
  obtain ⟨_, new, -, hnew, -, henvironment⟩ := hstands.required
  have hwitness : ¬ WitnessDiffers candidate requirement edge' := by
    rw [not_witnessDiffers_iff, hstands.witness]
    exact not_witnessDiffers_iff.mp h.witness
  let input' : BuildInput sha256 :=
    ⟨input.scope, edge', new, _, Identity.fromSha256_finish _ _ _⟩
  refine ⟨input', ⟨h.scope, ?_, hsole, hnew, henvironment, hwitness⟩, rfl⟩
  exact fun edge hedge _ => hresolvable edge hedge

/-- New edges that stand for the old ones make new inputs. -/
theorem Admitted.replace (h : Admitted P resolution subject selection candidate inputs)
    {replaced : List RequirementEdge}
    (hstands : List.Forall₂ (StandsFor resolution) (inputs.map BuildInput.requirement) replaced)
    (hperm : replaced.Perm (directEdges (withEdges resolution edges) subject))
    (hdistinct : ((directEdges (withEdges resolution edges) subject).map
      RequirementEdge.identity).Nodup) :
    ∃ inputs', Admitted P (withEdges resolution edges) subject selection candidate inputs' := by
  have hlined : List.Forall₂ (fun input edge' => Lookup resolution input.requirement.required
      input.selection ∧ StandsFor resolution input.requirement edge') inputs replaced := by
    refine (List.forall₂_and_left _ _).mpr ⟨fun input hinput => ?_, ?_⟩
    · obtain ⟨_, -, hanswers⟩ := h.exists_answers hinput
      exact hanswers.selection
    · exact List.forall₂_map_left_iff.mp hstands
  have hresolvable : ∀ edge ∈ directEdges (withEdges resolution edges) subject,
      ∃ selection, Lookup resolution edge.required selection := by
    intro edge hedge
    obtain ⟨_, -, -, hedge⟩ := exists_left_of_mem hlined (hperm.mem_iff.mpr hedge)
    obtain ⟨_, new, -, hnew, -⟩ := hedge.required
    exact ⟨new, hnew⟩
  -- the keys are distinct, so that every requirement is named once
  have hsoles := sole_of_lineUp (fun input edge' key ⟨hlookup, hstands⟩ =>
    hstands.namesKey_iff hlookup key) hlined h.keys_nodup
  have hanswers : List.Forall₂ (fun requirement edge' => ∃ input' : BuildInput P.sha256,
      Answers (withEdges resolution edges) subject candidate requirement input' ∧
        input'.requirement = edge')
      (directRequirements P candidate.source (isCheckGoalMember resolution subject)) replaced := by
    have hboth := List.Forall₂.mp (fun _ _ => And.intro) hlined hsoles
    refine (forall₂_of_common h.answers.flip hboth).imp ?_
    rintro requirement edge' ⟨input, hanswers, ⟨-, hstands⟩, hsole⟩
    refine hanswers.replace hstands hresolvable (Sole.perm ?_ hperm)
    rw [hanswers.key_eq] at hsole
    exact hsole
  obtain ⟨inputs', hanswers', rfl⟩ := exists_forall₂_of_map hanswers
  have hidentities : (inputs'.map BuildInput.requirement).map RequirementEdge.identity
      = inputs'.map BuildInput.edgeIdentity := List.map_map
  have hpermuted := hperm.map RequirementEdge.identity
  rw [hidentities] at hpermuted
  refine ⟨inputs', h.lookup, h.candidate_eq, h.agrees, h.architectures, hanswers',
    hpermuted.nodup_iff.mpr hdistinct, ?_⟩
  exact fun edge hedge => hpermuted.mem_iff.mpr (List.mem_map_of_mem hedge)

/-- **Refused or replaced**, of the collected inputs. -/
theorem Admitted.exists_admitted_iff
    (h : Admitted P resolution subject selection candidate inputs)
    (hdistinct : ((directEdges resolution subject).map RequirementEdge.identity).Nodup)
    (hdistinct' : ((directEdges (withEdges resolution edges) subject).map
      RequirementEdge.identity).Nodup) :
    (∃ inputs', Admitted P (withEdges resolution edges) subject selection candidate inputs') ↔
      ∃ replaced, List.Forall₂ (StandsFor resolution) (directEdges resolution subject) replaced ∧
        replaced.Perm (directEdges (withEdges resolution edges) subject) := by
  have hperm := h.perm_directEdges hdistinct
  constructor
  · rintro ⟨inputs', h'⟩
    obtain ⟨replaced, hstands, hreplaced⟩ := List.perm_comp_forall₂ hperm.symm (h.standsFor h')
    exact ⟨replaced, hstands, hreplaced.trans (h'.perm_directEdges hdistinct')⟩
  · rintro ⟨replaced, hstands, hreplaced⟩
    obtain ⟨reordered, hstands', hreordered⟩ := List.perm_comp_forall₂ hperm hstands
    exact h.replace hstands' (hreordered.trans hreplaced) hdistinct'

/-! ## What the identity shows of an edit -/

/-- What the records behind an input set spell out of an edge. -/
def label (edge : RequirementEdge) :
    RequirementScopeKind × RequirementEdgeIdentity × PackageSelectionIdentity :=
  (edge.scope.kind, edge.identity, edge.required)

/-- The streams hashed for an input set. -/
def BuildInputSet.streams (set : BuildInputSet sha256) : List Bytes :=
  set.stream :: set.inputs.map BuildInput.stream

/-- An input's record spells out its edge's label. -/
theorem Admitted.labels (h : Admitted P resolution subject selection candidate inputs) :
    (inputs.map BuildInput.requirement).map label
      = (inputs.map BuildInput.triple).map (Prod.map InputScope.kind id) := by
  rw [List.map_map, List.map_map]
  refine List.map_congr_left fun input hinput => ?_
  obtain ⟨_, -, hanswers⟩ := h.exists_answers hinput
  show label input.requirement = (input.scope.kind, _, input.selection.identity)
  rw [label, h.scope_kind hinput, hanswers.selection.identity_eq]

theorem InputScope.kind_injective : Function.Injective kind := by
  intro a b h
  cases a <;> cases b <;> trivial

theorem Admitted.labels_perm_iff
    (h : Admitted P resolution subject selection candidate inputs)
    (h' : Admitted P (withEdges resolution edges) subject selection candidate inputs')
    (hdistinct : ((directEdges resolution subject).map RequirementEdge.identity).Nodup)
    (hdistinct' : ((directEdges (withEdges resolution edges) subject).map
      RequirementEdge.identity).Nodup) :
    ((directEdges resolution subject).map label).Perm
        ((directEdges (withEdges resolution edges) subject).map label) ↔
      (inputs.map BuildInput.triple).Perm (inputs'.map BuildInput.triple) := by
  have hinjective : Function.Injective (Prod.map InputScope.kind
      (id : RequirementEdgeIdentity × PackageSelectionIdentity → _)) :=
    InputScope.kind_injective.prodMap Function.injective_id
  have hold := (h.perm_directEdges hdistinct).map label
  have hnew := (h'.perm_directEdges hdistinct').map label
  rw [h.labels] at hold
  rw [h'.labels] at hnew
  rw [← hold.congr_left, ← hnew.congr_right]
  exact List.map_perm_map_iff hinjective

/-- Inputs of distinct edges have distinct triples, a triple having the edge's identity in it. -/
theorem Admitted.triples_nodup (h : Admitted P resolution subject selection candidate inputs) :
    (inputs.map BuildInput.triple).Nodup := by
  have hdistinct : ((inputs.map BuildInput.triple).map fun triple => triple.2.1).Nodup := by
    rw [List.map_map]
    exact h.distinct
  exact hdistinct.of_map

/-- The stream of an assembled set names the subject that was asked for, the selection found being
    of this identity. -/
theorem Admitted.stream_eq (h : Admitted P resolution subject selection candidate inputs) :
    (assemble P resolution subject selection inputs).stream
      = (inputSetRecord resolution.identity subject (P.sortInputs.run inputs)).stream := by
  show (inputSetRecord resolution.identity selection.identity (P.sortInputs.run inputs)).stream = _
  rw [h.lookup.identity_eq]

/-- **Seen**, of the collected inputs. -/
theorem Admitted.identity_eq_iff
    (h : Admitted P resolution subject selection candidate inputs)
    (h' : Admitted P (withEdges resolution edges) subject selection candidate inputs')
    (hno : ¬ Collides P.sha256 ((assemble P resolution subject selection inputs).streams ++
      (assemble P (withEdges resolution edges) subject selection inputs').streams)) :
    (assemble P (withEdges resolution edges) subject selection inputs').identity
        = (assemble P resolution subject selection inputs).identity ↔
      (inputs.map BuildInput.triple).Perm (inputs'.map BuildInput.triple) := by
  have hsorted := (P.sortInputs.perm inputs).map BuildInput.triple
  have hsorted' := (P.sortInputs.perm inputs').map BuildInput.triple
  constructor
  · intro hidentity
    -- down: the set's stream gives the input identities, and each of these its triple
    have hstream := Identity.stream_eq hno (Identity.fromSha256_finish _ _ _)
      (Identity.fromSha256_finish _ _ _) (h.stream_eq ▸ List.mem_cons_self)
      (h'.stream_eq ▸ List.mem_cons_self) hidentity.symm
    obtain ⟨-, -, hidentities⟩ := inputSetRecord_inj hstream
    have htriples : (P.sortInputs.run inputs).map BuildInput.triple
        = (P.sortInputs.run inputs').map BuildInput.triple :=
      map_triple_eq hno (fun _ hinput => List.mem_cons_of_mem _ (List.mem_map_of_mem hinput))
        (fun _ hinput => List.mem_cons_of_mem _ (List.mem_map_of_mem hinput)) hidentities
    rw [htriples] at hsorted
    exact hsorted.symm.trans hsorted'
  · intro hperm
    -- up: distinct triples sort to one sequence of identities
    have hidentities := identities_eq h'.triples_nodup h.triples_nodup
      fun _ => hperm.symm.mem_iff
    show Identity.ofDigest _ _ = Identity.ofDigest _ _
    rw [inputSetRecord_eq, inputSetRecord_eq, inputSetFields_congr hidentities]
    rfl

end Edits

/-- **Which edits of its edges an admitted resolution survives.**  No two direct edges of the
    subject carry one identity, before or after the edit.  The edit is admitted exactly when the new
    direct edges, in some order, stand for the old ones one by one; and then the identity of the
    input set is the old one exactly when the labels of the edges are, or else the streams hashed
    hold two different ones of one digest. -/
theorem admit_withEdges (P : Platform) (resolution : ResolutionResult)
    (subject : PackageSelectionIdentity) (set : BuildInputSet P.sha256)
    (hset : BuildInputSet.admit P resolution subject = .ok set)
    (hdistinct : ((directEdges resolution subject).map RequirementEdge.identity).Nodup)
    (edges : List RequirementEdge)
    (hdistinct' : ((directEdges (withEdges resolution edges) subject).map
      RequirementEdge.identity).Nodup) :
    ((∃ set', BuildInputSet.admit P (withEdges resolution edges) subject = .ok set') ↔
      ∃ replaced, List.Forall₂ (StandsFor resolution) (directEdges resolution subject) replaced ∧
        replaced.Perm (directEdges (withEdges resolution edges) subject)) ∧
    ∀ set', BuildInputSet.admit P (withEdges resolution edges) subject = .ok set' →
      (set'.identity = set.identity ↔ ((directEdges resolution subject).map label).Perm
        ((directEdges (withEdges resolution edges) subject).map label)) ∨
      Collides P.sha256 (set.streams ++ set'.streams) := by
  obtain ⟨selection, candidate, inputs, h, rfl⟩ := admit_ok_iff.mp hset
  -- the selections are not edited, so the subject is looked up as before
  have hsame : ∀ {set'}, BuildInputSet.admit P (withEdges resolution edges) subject = .ok set' →
      ∃ inputs', Admitted P (withEdges resolution edges) subject selection candidate inputs' ∧
        set' = assemble P (withEdges resolution edges) subject selection inputs' := by
    intro set' hset'
    obtain ⟨selection', candidate', inputs', h', rfl⟩ := admit_ok_iff.mp hset'
    obtain rfl := h.lookup.unique h'.lookup
    obtain rfl := Option.some.inj (h.candidate_eq.symm.trans h'.candidate_eq)
    exact ⟨inputs', h', rfl⟩
  constructor
  · rw [← h.exists_admitted_iff hdistinct hdistinct']
    constructor
    · rintro ⟨set', hset'⟩
      obtain ⟨inputs', h', -⟩ := hsame hset'
      exact ⟨inputs', h'⟩
    · rintro ⟨inputs', h'⟩
      exact ⟨_, admit_ok_iff.mpr ⟨selection, candidate, inputs', h', rfl⟩⟩
  · intro set' hset'
    obtain ⟨inputs', h', rfl⟩ := hsame hset'
    rw [h.labels_perm_iff h' hdistinct hdistinct']
    by_cases hno : Collides P.sha256 ((assemble P resolution subject selection inputs).streams ++
        (assemble P (withEdges resolution edges) subject selection inputs').streams)
    · exact Or.inr hno
    · exact Or.inl (h.identity_eq_iff h' hno)

/-- The tool edge under another identity. -/
def Sample.relabelledEdge : RequirementEdge := Sample.edge 0x33 0x62 .build

def Sample.testerEdge : RequirementEdge := Sample.edge 0x32 0x65 .check

/-- Of the two edges, the tool edge may be relabelled and put behind the other, and may not be left
    out. -/
theorem admit_withEdges_checked : ∃ set,
    BuildInputSet.admit Sample.platform (Sample.checkedResolution [Sample.goal .check])
        ⟨Sample.hex 0x61⟩ = .ok set ∧
      (∃ set', BuildInputSet.admit Sample.platform
        (withEdges (Sample.checkedResolution [Sample.goal .check])
          [Sample.testerEdge, Sample.relabelledEdge]) ⟨Sample.hex 0x61⟩ = .ok set') ∧
      ¬ ∃ set', BuildInputSet.admit Sample.platform
        (withEdges (Sample.checkedResolution [Sample.goal .check]) [Sample.testerEdge])
          ⟨Sample.hex 0x61⟩ = .ok set' := by
  obtain ⟨set, hset⟩ := Sample.checkedResolution_admitted
  have hedits := fun edges => admit_withEdges Sample.platform _ _ set hset (by decide) edges
  refine ⟨set, hset, ?_, ?_⟩
  · have htool : Lookup (Sample.checkedResolution [Sample.goal .check]) ⟨Sample.hex 0x62⟩
        (Sample.selected 0x62 (literal "tool") none) := sole_iff_filter.mpr (by decide)
    have htester : Lookup (Sample.checkedResolution [Sample.goal .check]) ⟨Sample.hex 0x65⟩
        (Sample.selected 0x65 (literal "tester") none) := sole_iff_filter.mpr (by decide)
    refine (hedits [Sample.testerEdge, Sample.relabelledEdge] (by decide)).1.mpr
      ⟨[Sample.relabelledEdge, Sample.testerEdge], ?_, .swap _ _ _⟩
    exact .cons ⟨rfl, rfl, _, _, htool, htool, rfl, rfl⟩
      (.cons ⟨rfl, rfl, _, _, htester, htester, rfl, rfl⟩ .nil)
  · rw [(hedits [Sample.testerEdge] (by decide)).1]
    rintro ⟨replaced, hstands, hperm⟩
    exact absurd (hstands.length_eq.trans hperm.length_eq) (by decide)

end Pkgbuild

/-
  An admitted set is a canonical, duplicate-free list.

  Nothing is assumed of the resolution: its edges may share identities, the recipe may list a
  requirement twice, the resolver may offer several edges for it.  What keeps the inputs apart is
  checked in two places only, and the rest follows:

  * the consumed set keeps EDGE IDENTITIES apart (`Admitted.distinct`);
  * scope and package determine the edge, because the scan found the only one of that name
    (`Admitted.edge_of_key`), so they are kept apart with it;
  * the record of an input spells its edge out, so without a collision the INPUT IDENTITIES are kept
    apart as well, and the sort by identity is strict.

  The lists of one scope are filters of one list, so each is a run of positions of it, in order, and
  every position is in the run of its own scope.
-/
import Pkgbuild.RequestIdentity

namespace Pkgbuild

open Checked Correspondence RecordCode Pkgsource Pkgcatalog Pkgresolve

variable {P : Platform} {resolution : ResolutionResult} {subject : PackageSelectionIdentity}
  {selection : SelectedPackage} {candidate : CatalogCandidate} {inputs : List (BuildInput P.sha256)}

/-! ## Distinct inputs -/

/-- Scope and package of an input name its edge: each of two inputs of one key was found by the scan
    for a requirement of that key, and the scan finds the only edge. -/
theorem Admitted.edge_of_key (h : Admitted P resolution subject selection candidate inputs)
    {a b : BuildInput P.sha256} (ha : a ∈ inputs) (hb : b ∈ inputs) (hkey : a.key = b.key) :
    a.edgeIdentity = b.edgeIdentity := by
  obtain ⟨requirement, -, hanswers⟩ := h.exists_answers ha
  obtain ⟨requirement', -, hanswers'⟩ := h.exists_answers hb
  have hkeys : requirementKey requirement = requirementKey requirement' := by
    rw [← hanswers.key_eq, ← hanswers'.key_eq, hkey]
  obtain ⟨hscope, hpackage⟩ := Prod.mk.inj hkeys
  have hnames : Names resolution requirement b.requirement := by
    have hnames' := hanswers'.sole.holds
    rwa [Names, ← hscope, ← hpackage] at hnames'
  have hedge := hanswers.sole.eq_of_mem hanswers'.sole.mem hnames
  rw [BuildInput.edgeIdentity, BuildInput.edgeIdentity, hedge]

/-- No two inputs have one scope and one package. -/
theorem Admitted.keys_nodup (h : Admitted P resolution subject selection candidate inputs) :
    (inputs.map BuildInput.key).Nodup :=
  nodup_of_determines h.distinct fun _ ha _ hb => h.edge_of_key ha hb

/-- Without a collision, no two inputs have one identity. -/
theorem Admitted.identities_nodup (h : Admitted P resolution subject selection candidate inputs)
    (hno : ¬ Collides P.sha256 (inputs.map BuildInput.stream)) :
    (inputs.map fun input => input.identity.hex).Nodup := by
  refine nodup_of_determines h.distinct fun a ha b hb hhex => ?_
  have hno' : ¬ Collides P.sha256 (inputs.map BuildInput.stream ++ inputs.map BuildInput.stream) :=
    fun hcollides => hno (hcollides.mono (List.append_subset.mpr ⟨fun _ => id, fun _ => id⟩))
  have htriple : a.triple = b.triple :=
    BuildInput.triple_eq hno' (List.mem_map_of_mem ha) (List.mem_map_of_mem hb)
      (Identity.ext hhex)
  exact congrArg (fun triple => triple.2.1) htriple

/-! ## Sorted inputs -/

/-- Without a collision, the sort by identity is strict. -/
theorem Admitted.sorted_strictly
    (h : Admitted P resolution subject selection candidate inputs)
    (hno : ¬ Collides P.sha256 (inputs.map BuildInput.stream)) :
    (P.sortInputs.run inputs).Pairwise fun a b => a.less b = true := by
  have hkeys := P.sortInputs.pairwise_lt_key (fun _ _ => rfl) (h.identities_nodup hno)
  rw [List.pairwise_map] at hkeys
  exact hkeys.imp fun hlt => decide_eq_true hlt

/-! ## The lists of one scope -/

/-- The positions of a set whose input has the scope. -/
def BuildInputSet.positions {sha256 : Sha256} (set : BuildInputSet sha256) (scope : InputScope) :
    List (Fin set.inputs.length) :=
  Correspondence.positions (fun input => decide (input.scope = scope)) set.inputs

/-- What `for_scope` returns stands at ascending positions of the set, and every position is one of
    its own scope only. -/
structure SplitByScope {sha256 : Sha256} (set : BuildInputSet sha256) : Prop where
  run : ∀ scope, set.forScope scope = (set.positions scope).map fun i => set.inputs[i]
  ascending : ∀ scope, (set.positions scope).Pairwise fun i j => i < j
  apart : ∀ i, ¬ (i ∈ set.positions .build ∧ i ∈ set.positions .check)
  complete : ∀ i, i ∈ set.positions .build ∨ i ∈ set.positions .check

theorem BuildInputSet.mem_positions {sha256 : Sha256} {set : BuildInputSet sha256}
    {scope : InputScope} {i : Fin set.inputs.length} :
    i ∈ set.positions scope ↔ set.inputs[i].scope = scope :=
  Correspondence.mem_positions.trans decide_eq_true_iff

/-- Any set is split by scope. -/
theorem BuildInputSet.splitByScope {sha256 : Sha256} (set : BuildInputSet sha256) :
    SplitByScope set where
  run _ := filter_eq_positions
  ascending _ := positions_ascending
  apart i := by
    rintro ⟨hbuild, hcheck⟩
    have hscope := (mem_positions.mp hbuild).symm.trans (mem_positions.mp hcheck)
    exact InputScope.noConfusion hscope
  complete i := by
    rw [mem_positions, mem_positions]
    cases set.inputs[i].scope with
    | build => exact Or.inl rfl
    | check => exact Or.inr rfl

/-! ## The whole set -/

/-- What an admitted set is, as a list. -/
structure CanonicalInputs (P : Platform) (resolution : ResolutionResult)
    (subject : PackageSelectionIdentity) (set : BuildInputSet P.sha256) : Prop where
  lookup : Lookup resolution subject set.subject
  /-- As many inputs as the recipe has active requirements. -/
  count : ∃ candidate, set.subject.candidate = some candidate ∧
    set.inputs.length = candidate.source.recipe.buildRequirements.length +
      if InCheckGoal resolution subject then candidate.source.recipe.checkRequirements.length else 0
  edges : (set.inputs.map BuildInput.edgeIdentity).Nodup
  /-- Edge scopes and packages. -/
  keys : (set.inputs.map BuildInput.key).Nodup
  ascending : set.inputs.Pairwise fun a b => b.less a = false
  strictly : set.inputs.Pairwise (fun a b => a.less b = true) ∨
    Collides P.sha256 (set.inputs.map BuildInput.stream)
  split : SplitByScope set

theorem length_active {source : SourceSnapshot} :
    (active resolution subject source).length = source.recipe.buildRequirements.length +
      if InCheckGoal resolution subject then source.recipe.checkRequirements.length else 0 := by
  rw [active, activeRequirements, List.length_append]
  by_cases hgoal : InCheckGoal resolution subject
  · simp only [hgoal, decide_true, if_true]
  · simp only [hgoal, decide_false, if_false, Bool.false_eq_true, List.length_nil]

/-- **An admitted set is canonical**: one input for each active requirement, no edge and no pair of
    scope and package twice, in ascending order of identity — strictly, or two different streams of
    inputs have one digest — and split into build and check inputs. -/
theorem admit_canonical (P : Platform) (resolution : ResolutionResult)
    (subject : PackageSelectionIdentity) (set : BuildInputSet P.sha256)
    (hset : BuildInputSet.admit P resolution subject = .ok set) :
    CanonicalInputs P resolution subject set := by
  obtain ⟨selection, candidate, inputs, h, rfl⟩ := admit_ok_iff.mp hset
  have hperm : (P.sortInputs.run inputs).Perm inputs := P.sortInputs.perm inputs
  refine ⟨h.lookup, ⟨candidate, h.candidate_eq, ?_⟩, ?_, ?_, P.sortInputs.sorted inputs, ?_,
    BuildInputSet.splitByScope _⟩
  · have hlength : (P.sortInputs.run inputs).length = inputs.length := hperm.length_eq
    exact hlength.trans (h.length_eq.trans length_active)
  · exact (hperm.map _).nodup_iff.mpr h.distinct
  · exact (hperm.map _).nodup_iff.mpr h.keys_nodup
  · by_cases hno : Collides P.sha256 ((P.sortInputs.run inputs).map BuildInput.stream)
    · exact Or.inr hno
    · -- the streams are those of the collected inputs, in another order
      have hstreams := hperm.map BuildInput.stream
      exact Or.inl (h.sorted_strictly fun hcollides => hno (hcollides.mono hstreams.symm.subset))

/-- A root with a build and a check requirement. -/
theorem admit_canonical_checked : ∃ set : BuildInputSet Sample.platform.sha256,
    BuildInputSet.admit Sample.platform (Sample.checkedResolution [Sample.goal .check])
      ⟨Sample.hex 0x61⟩ = .ok set ∧
    CanonicalInputs Sample.platform (Sample.checkedResolution [Sample.goal .check])
      ⟨Sample.hex 0x61⟩ set := by
  obtain ⟨set, hset⟩ := Sample.checkedResolution_admitted
  exact ⟨set, hset, admit_canonical Sample.platform _ _ set hset⟩

end Pkgbuild

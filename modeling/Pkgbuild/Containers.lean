/-
  The containers of the source: `std::set` and `std::map` under the library's `operator<`.

  The rest of the development keeps what `payload_manifest::seal` and `build_input_set::admit` have
  seen in lists and asks them by equality.  The source keeps it in ordered containers, which know
  keys by `operator<` alone, and its `regular` holds POINTERS into the vector of entries.  Here the
  two functions are written with the containers, over any standard library that keeps the contract
  (`StdMap`), and shown to compute the same, refusals included:

  * `seal_in_containers`  — `operator<` of `payload_path` tells all paths apart, so the containers
                            mirror the lists (`Mirrors`); a pointer is a position of the vector, so
                            none can dangle;
  * `admit_in_containers` — the same for the consumed edges, as long as the provider's `operator<`
                            tells all edge identities apart.
-/
import Pkgbuild.Base.OrderedTable
import Pkgbuild.Manifest
import Pkgbuild.AdmissionAuthority

namespace Pkgbuild

open Checked OrderedTable Pkgsource Pkgcatalog Pkgresolve

/-! ## Orders -/

/-- Texts compared byte by byte tell apart what they are the text of. -/
theorem strictTotal_bytes {κ : Type*} {key : κ → Bytes} (hkey : ∀ a b, key a = key b → a = b) :
    StrictTotal fun a b => decide (key a < key b) := by
  refine .ofKey (fun _ _ => rfl) (fun _ _ => List.lt_asymm) (fun x y z hxz => ?_) ?_
  · by_contra hneither
    obtain ⟨hxy, hyz⟩ := not_or.mp hneither
    exact List.not_lt.mpr (List.le_trans (List.not_lt.mp hyz) (List.not_lt.mp hxy)) hxz
  · intro a b hab hba
    exact hkey a b (List.le_antisymm (List.not_lt.mp hba) (List.not_lt.mp hab))

/-- `operator<` of `payload_path`. -/
def PayloadPath.less (lhs rhs : PayloadPath) : Bool := decide (lhs.value.bytes < rhs.value.bytes)

/-- Paths are compared by their bytes, which tell them apart. -/
theorem PayloadPath.strictTotal : StrictTotal PayloadPath.less :=
  strictTotal_bytes fun _ _ h => PayloadPath.ext (Text.ext h)

/-! ## Sealing a manifest -/

section Seal

variable (entries : List PayloadEntry) (S : StdSet PayloadPath.less)
  (M : StdMap PayloadPath.less (Fin entries.length))

/-- `seen` and `regular`. -/
structure SealTables (S : StdSet PayloadPath.less) {size : Nat}
    (M : StdMap PayloadPath.less (Fin size)) where
  seen : S.Table
  regular : M.Table

/-- The checks on a hard link; `anchor->second` points into the vector. -/
def checkHardlinkIn (regular : M.Table) (entry : PayloadEntry) : Except Error Unit :=
  match entry.hardlinkTarget with
  | none => .error (invalidModel (ascii "hard-link entry lacks its regular payload anchor"))
  | some target => do
      refuse (entry.path = target) (invalidModel (ascii "hard-link entry cannot target itself"))
      match M.find regular target with
      | none =>
          .error (invalidModel
            (ascii "hard-link target must name an earlier regular payload entry"))
      | some anchor =>
          refuse (¬ SameInode entry (entries.get anchor))
            (invalidModel (ascii "hard-link metadata differs from its regular payload anchor"))

/-- One turn of the loop of `seal`, at a position of the vector. -/
def sealEntryIn (tables : SealTables S M) (i : Fin entries.length) :
    Except Error (SealTables S M) := do
  let entry := entries.get i
  let seen := S.emplace tables.seen entry.path ()
  refuse (seen.2 = false)
    (invalidModel (ascii "payload manifest contains a duplicate path: " ++ entry.path.value.bytes))
  let regular :=
    if entry.type = .regular then (M.emplace tables.regular entry.path i).1 else tables.regular
  if entry.type = .hardlink then checkHardlinkIn entries M regular entry
  return ⟨seen.1, regular⟩

/-- `payload_manifest::seal`: the entries and the identity of the manifest. -/
def PayloadManifest.sealIn (sha256 : Sha256) :
    Except Error (List PayloadEntry × PayloadManifestIdentity) := do
  let _ ← (List.finRange entries.length).foldlM (sealEntryIn entries S M) ⟨S.empty, M.empty⟩
  let identity ← manifestId sha256 entries
  return (entries, identity)

variable {entries S M}

/-- The containers hold what the lists hold. -/
structure Mirrors (tables : SealTables S M) (state : SealState) : Prop where
  seen : ∀ path, S.find tables.seen path ≠ none ↔ path ∈ state.seen
  regular : ∀ path, (M.find tables.regular path).map entries.get = state.regular.lookup path

/-- Two empty containers beside two empty lists. -/
theorem mirrors_empty : Mirrors (⟨S.empty, M.empty⟩ : SealTables S M) ⟨[], []⟩ := by
  refine ⟨fun path => ?_, fun path => ?_⟩
  · simp [S.find_empty]
  · simp [M.find_empty]

/-- A fresh path goes into the set as it goes into the list. -/
theorem seen_emplace {seen : S.Table} {paths : List PayloadPath} {path : PayloadPath}
    (h : ∀ path, S.find seen path ≠ none ↔ path ∈ paths) (hfresh : path ∉ paths)
    (other : PayloadPath) :
    S.find (S.emplace seen path ()).1 other ≠ none ↔ other ∈ paths ++ [path] := by
  have hnone : S.find seen path = none := not_not.mp (mt (h path).mp hfresh)
  rw [S.find_emplace_none PayloadPath.strictTotal hnone, List.mem_append, List.mem_singleton, ← h]
  by_cases hother : other = path
  · simp [hother]
  · simp [hother]

/-- A pointer to an entry goes into the map as the entry goes into the table. -/
theorem regular_emplace {regular : M.Table} {table : List (PayloadPath × PayloadEntry)}
    (h : ∀ path, (M.find regular path).map entries.get = table.lookup path)
    (i : Fin entries.length) (path : PayloadPath) :
    (M.find (M.emplace regular (entries.get i).path i).1 path).map entries.get
      = (emplace table (entries.get i)).lookup path := by
  have hkey := h (entries.get i).path
  cases hfind : M.find regular (entries.get i).path with
  | some j =>
    rw [hfind, Option.map_some] at hkey
    have hsome : M.find regular (entries.get i).path ≠ none := by
      rw [hfind]
      exact Option.some_ne_none j
    -- the key is taken, in the map as in the table
    rw [M.find_emplace_some hsome, h, emplace, ← hkey, if_pos (Option.isSome_some)]
  | none =>
    rw [hfind, Option.map_none] at hkey
    have hemplace : emplace table (entries.get i)
        = table ++ [((entries.get i).path, entries.get i)] := by
      rw [emplace, ← hkey]
      rfl
    rw [M.find_emplace_none PayloadPath.strictTotal hfind, hemplace, List.lookup_append, ← h path,
      List.lookup_cons, List.lookup_nil]
    by_cases hpath : path = (entries.get i).path
    · rw [if_pos hpath, hpath, hfind, beq_self_eq_true]
      rfl
    · rw [if_neg hpath, beq_eq_false_iff_ne.mpr hpath, Option.or_none]

/-- Asked through the containers or through the lists, a link is accepted or refused alike, and with
    the same error. -/
theorem checkHardlinkIn_eq {regular : M.Table} {table : List (PayloadPath × PayloadEntry)}
    (h : ∀ path, (M.find regular path).map entries.get = table.lookup path)
    (entry : PayloadEntry) :
    checkHardlinkIn entries M regular entry = checkHardlink table entry := by
  unfold checkHardlinkIn checkHardlink
  cases entry.hardlinkTarget with
  | none => rfl
  | some target =>
    refine bind_congr fun _ => ?_
    rw [← h target]
    cases M.find regular target <;> rfl

/-- **Step.**  A turn over the containers and one over the lists that they mirror refuse alike, or
    leave containers that mirror the lists again. -/
theorem sealEntryIn_agrees {tables : SealTables S M} {state : SealState} (h : Mirrors tables state)
    (i : Fin entries.length) :
    Agree Mirrors (sealEntryIn entries S M tables i) (sealEntry state (entries.get i)) := by
  have hrefused : (S.emplace tables.seen (entries.get i).path ()).2 = false ↔
      (entries.get i).path ∈ state.seen := S.inserted_eq_false_iff.trans (h.seen _)
  have hregular : ∀ path, ((M.find (if (entries.get i).type = .regular then
      (M.emplace tables.regular (entries.get i).path i).1
        else tables.regular) path).map entries.get)
      = (if (entries.get i).type = .regular then emplace state.regular (entries.get i)
          else state.regular).lookup path := by
    intro path
    by_cases htype : (entries.get i).type = .regular
    · rw [if_pos htype, if_pos htype]
      exact regular_emplace h.regular i path
    · rw [if_neg htype, if_neg htype]
      exact h.regular path
  unfold sealEntryIn sealEntry
  simp only
  by_cases hseen : (entries.get i).path ∈ state.seen
  · -- `emplace` says no exactly where the list has the path
    rw [refuse, refuse, if_pos (hrefused.mpr hseen), if_pos hseen]
    exact .error _
  · rw [refuse_congr hrefused]
    refine (Agree.refl _).bind fun _ _ _ => ?_
    have hstate : Mirrors (⟨(S.emplace tables.seen (entries.get i).path ()).1,
        if (entries.get i).type = .regular then (M.emplace tables.regular (entries.get i).path i).1
        else tables.regular⟩ : SealTables S M) ⟨state.seen ++ [(entries.get i).path],
        if (entries.get i).type = .regular then emplace state.regular (entries.get i)
        else state.regular⟩ := ⟨seen_emplace h.seen hseen, hregular⟩
    by_cases hlink : (entries.get i).type = .hardlink
    · rw [if_pos hlink, if_pos hlink, checkHardlinkIn_eq hregular]
      exact (Agree.refl _).bind fun _ _ _ => .ok hstate
    · rw [if_neg hlink, if_neg hlink]
      exact .ok hstate

/-- The loop over the entries as a loop over their positions. -/
theorem sealEntries_eq_positions (entries : List PayloadEntry) :
    sealEntries entries
      = (List.finRange entries.length).foldlM (fun state i => sealEntry state (entries.get i))
          ⟨[], []⟩ := by
  unfold sealEntries
  conv_lhs => rw [← List.map_get_finRange entries]
  rw [List.foldlM_map]

/-- **Run.**  So do the two loops, from empty containers and empty lists, by induction over the
    positions of the vector. -/
theorem sealEntriesIn_agrees : Agree Mirrors
    ((List.finRange entries.length).foldlM (sealEntryIn entries S M) ⟨S.empty, M.empty⟩)
    (sealEntries entries) := by
  rw [sealEntries_eq_positions]
  exact agree_foldlM (fun _ _ i _ h => sealEntryIn_agrees h i) mirrors_empty

end Seal

/-- **`seal` in its containers.**  Over any standard library, `payload_manifest::seal` with
    `std::set` and a `std::map` of pointers returns the entries and the identity of the manifest,
    or refuses, as `PayloadManifest.seal` does. -/
theorem seal_in_containers (sha256 : Sha256) (entries : List PayloadEntry)
    (S : StdSet PayloadPath.less) (M : StdMap PayloadPath.less (Fin entries.length)) :
    PayloadManifest.sealIn entries S M sha256
      = (PayloadManifest.seal sha256 entries).map fun manifest =>
          (manifest.entries, manifest.identity) := by
  rw [← agree_eq_iff]
  refine Agree.map ?_
  unfold PayloadManifest.sealIn PayloadManifest.seal
  -- the loops agree, and past them nothing reads the containers
  refine sealEntriesIn_agrees.attach.bind fun tables state _ => ?_
  refine (Agree.refl _).attach.bind fun identity attached hidentity => ?_
  subst hidentity
  exact .ok rfl

namespace Sample

theorem normalize_a : normalize (literal "a").bytes = .ok (literal "a").bytes := by
  unfold normalize
  rw [parseLoop_last (by decide) (by decide)]
  rfl

theorem normalize_b : normalize (literal "b").bytes = .ok (literal "b").bytes := by
  unfold normalize
  rw [parseLoop_last (by decide) (by decide)]
  rfl

/-- A regular file "a". -/
def file : PayloadEntry where
  path := ⟨literal "a", literal "a", normalize_a⟩
  type := .regular
  mode := 0o644
  uid := 0
  gid := 0
  size := 1
  modificationTime := ⟨0, 0⟩
  symlinkTarget := none
  hardlinkTarget := none
  device := none
  regularContent := some ⟨⟨renderHex (Vector.replicate 32 0), renderHex_canonical _⟩⟩
  mode_le := by decide
  nanoseconds_lt := by decide
  shape := ⟨rfl, rfl, rfl, rfl⟩

/-- A hard link "b" to it. -/
def fileLink : PayloadEntry where
  path := ⟨literal "b", literal "b", normalize_b⟩
  type := .hardlink
  mode := 0o644
  uid := 0
  gid := 0
  size := 0
  modificationTime := ⟨0, 0⟩
  symlinkTarget := none
  hardlinkTarget := some file.path
  device := none
  regularContent := none
  mode_le := by decide
  nanoseconds_lt := by decide
  shape := ⟨rfl, rfl, rfl, rfl, rfl⟩

/-- Search trees of paths. -/
def pathTree (υ : Type) : StdMap PayloadPath.less υ :=
  SearchTree.map PayloadPath.strictTotal.toStrictWeak

end Sample

/-- In search trees, a file and a link to it seal; the link in front of the file does not. -/
theorem seal_in_containers_trees :
    (∃ out, PayloadManifest.sealIn [Sample.file, Sample.fileLink] (Sample.pathTree Unit)
      (Sample.pathTree _) Sample.platform.sha256 = .ok out) ∧
    ¬ ∃ out, PayloadManifest.sealIn [Sample.fileLink, Sample.file] (Sample.pathTree Unit)
      (Sample.pathTree _) Sample.platform.sha256 = .ok out := by
  rw [seal_in_containers, seal_in_containers]
  decide +kernel

/-! ## Admission -/

section Admit

variable {edgeLess : RequirementEdgeIdentity → RequirementEdgeIdentity → Bool}
  (S : StdSet edgeLess)

/-- `inputs` and `consumed`. -/
structure AdmitTables (sha256 : Sha256) (S : StdSet edgeLess) where
  inputs : List (BuildInput sha256)
  consumed : S.Table

/-- One turn of the requirement loop. -/
def admitRequirementIn (sha256 : Sha256) (resolution : ResolutionResult)
    (subject : PackageSelectionIdentity) (candidate : CatalogCandidate)
    (tables : AdmitTables sha256 S) (requirement : ResolvedRequirement) :
    Except Error (AdmitTables sha256 S) := do
  let found ← scanSole (probeEdge resolution subject requirement)
    (invalidRequest (ascii "build requirement has ambiguous resolver authority"))
    resolution.edges
  match found with
  | some (edge, required) => do
      refuse (required.environment ≠ .build)
        (invalidRequest (ascii "build requirement selected a non-build environment package"))
      refuse (WitnessDiffers candidate requirement edge)
        (invalidRequest (ascii "build requirement witness differs from source authority"))
      let consumed := S.emplace tables.consumed edge.identity ()
      refuse (consumed.2 = false)
        (invalidRequest (ascii "resolver edge satisfies more than one build requirement"))
      let scope ← inputScopeFrom requirement.scope
      let ⟨identity, hidentity⟩ ← attach (inputId sha256 scope edge required)
      return ⟨tables.inputs ++ [⟨scope, edge, required, identity, hidentity⟩], consumed.1⟩
  | none =>
      .error (invalidRequest (ascii "build requirement lacks exact resolver authority"))

/-- One turn of the second sweep. -/
def sweepEdgeIn (subject : PackageSelectionIdentity) (consumed : S.Table)
    (edge : RequirementEdge) : Except Error Unit :=
  refuse (IsDirect subject edge ∧ S.find consumed edge.identity = none)
    (invalidRequest (ascii "resolution contains an undeclared direct build input"))

/-- `build_input_set::admit`. -/
def BuildInputSet.admitIn (P : Platform) (resolution : ResolutionResult)
    (subjectIdentity : PackageSelectionIdentity) : Except Error (BuildInputSet P.sha256) := do
  let subject ← requireSelection resolution subjectIdentity
  let candidate ← requireCandidate subject
    (invalidRequest (ascii "build subject must retain catalog source authority"))
  refuse (ContradictsCandidate subject candidate)
    (invalidRequest (ascii "build subject contradicts its catalog authority"))
  refuse (subject.architectures ≠ expectedArchitectures P resolution subject)
    (invalidRequest
      (ascii "build subject architecture context differs from resolution request"))
  let requirements := directRequirements P candidate.source
    (isCheckGoalMember resolution subjectIdentity)
  let tables ← requirements.foldlM
    (admitRequirementIn S P.sha256 resolution subjectIdentity candidate) ⟨[], S.empty⟩
  forM resolution.edges (sweepEdgeIn S subjectIdentity tables.consumed)
  let inputs := P.sortInputs.run tables.inputs
  let identity ← inputSetId resolution.identity subjectIdentity inputs
  return ⟨subject, resolution.identity, inputs, identity⟩

variable {S} {sha256 : Sha256} {resolution : ResolutionResult}
  {subject : PackageSelectionIdentity} {candidate : CatalogCandidate}

/-- The set holds what the list of consumed identities holds. -/
structure AdmitMirrors (tables : AdmitTables sha256 S) (state : AdmitState sha256) : Prop where
  inputs : tables.inputs = state.inputs
  consumed : ∀ identity, S.find tables.consumed identity ≠ none ↔ identity ∈ state.consumed

/-- An identity goes into the set as it goes into the list. -/
theorem AdmitMirrors.push (hless : StrictTotal edgeLess) {tables : AdmitTables sha256 S}
    {state : AdmitState sha256} (h : AdmitMirrors tables state) {input : BuildInput sha256}
    (hfresh : input.edgeIdentity ∉ state.consumed) :
    AdmitMirrors ⟨tables.inputs ++ [input], (S.emplace tables.consumed input.edgeIdentity ()).1⟩
      (state.push input) := by
  have hnone : S.find tables.consumed input.edgeIdentity = none :=
    not_not.mp (mt (h.consumed _).mp hfresh)
  refine ⟨congrArg (· ++ [input]) h.inputs, fun identity => ?_⟩
  rw [S.find_emplace_none hless hnone, AdmitState.consumed_push, List.mem_append,
    List.mem_singleton, ← h.consumed]
  by_cases hidentity : identity = input.edgeIdentity
  · simp [hidentity]
  · simp [hidentity]

/-- **Step.**  A turn of the requirement loop asks the set of consumed identities once, and gets the
    answer the list gives. -/
theorem admitRequirementIn_agrees (hless : StrictTotal edgeLess) {tables : AdmitTables sha256 S}
    {state : AdmitState sha256} (h : AdmitMirrors tables state)
    (requirement : ResolvedRequirement) :
    Agree AdmitMirrors
      (admitRequirementIn S sha256 resolution subject candidate tables requirement)
      (admitRequirement sha256 resolution subject candidate state requirement) := by
  unfold admitRequirementIn admitRequirement
  refine (Agree.refl _).bind fun found _ hfound => ?_
  subst hfound
  cases found with
  | none => exact .error _
  | some found =>
    obtain ⟨edge, required⟩ := found
    -- two checks alike, and then the set is asked what the list is asked
    have hrefused : (S.emplace tables.consumed edge.identity ()).2 = false ↔
        edge.identity ∈ state.consumed := S.inserted_eq_false_iff.trans (h.consumed _)
    refine (Agree.refl _).bind fun _ _ _ => (Agree.refl _).bind fun _ _ _ => ?_
    by_cases hconsumed : edge.identity ∈ state.consumed
    · simp only
      rw [refuse, refuse, if_pos (hrefused.mpr hconsumed), if_pos hconsumed]
      exact .error _
    · simp only
      rw [refuse_congr hrefused]
      refine (Agree.refl _).bind fun _ _ _ => ?_
      refine (Agree.refl _).bind fun scope _ hscope => ?_
      subst hscope
      refine (Agree.refl _).bind fun identity _ hidentity => ?_
      subst hidentity
      have hfresh : (⟨scope, edge, required, identity.1, identity.2⟩ :
          BuildInput sha256).edgeIdentity ∉ state.consumed := hconsumed
      exact .ok (h.push hless hfresh)

/-- The sweep asks the set what it asks the list. -/
theorem sweepEdgeIn_eq {consumed : S.Table} {identities : List RequirementEdgeIdentity}
    (h : ∀ identity, S.find consumed identity ≠ none ↔ identity ∈ identities) :
    sweepEdgeIn S subject consumed = sweepEdge subject identities := by
  funext edge
  refine refuse_congr (and_congr_right fun _ => ?_)
  rw [← h, not_not]

end Admit

/-- **`admit` in its container.**  With the consumed identities in a `std::set` of any standard
    library, under an `operator<` of the provider that tells them all apart, admission computes what
    `BuildInputSet.admit` does. -/
theorem admit_in_containers (P : Platform)
    (edgeLess : RequirementEdgeIdentity → RequirementEdgeIdentity → Bool)
    (hless : StrictTotal edgeLess) (S : StdSet edgeLess) (resolution : ResolutionResult)
    (subject : PackageSelectionIdentity) :
    BuildInputSet.admitIn S P resolution subject
      = BuildInputSet.admit P resolution subject := by
  rw [← agree_eq_iff]
  unfold BuildInputSet.admitIn BuildInputSet.admit
  refine (Agree.refl _).bind fun selection _ hselection => ?_
  subst hselection
  refine (Agree.refl _).bind fun candidate _ hcandidate => ?_
  subst hcandidate
  refine (Agree.refl _).bind fun _ _ _ => (Agree.refl _).bind fun _ _ _ => ?_
  have hstart : AdmitMirrors (⟨[], S.empty⟩ : AdmitTables P.sha256 S) ⟨[], []⟩ :=
    ⟨rfl, fun identity => by simp [S.find_empty]⟩
  refine (agree_foldlM (fun _ _ requirement _ h =>
    admitRequirementIn_agrees hless h requirement) hstart).bind fun tables state h => ?_
  rw [sweepEdgeIn_eq h.consumed, h.inputs]
  exact Agree.refl _

namespace Sample

/-- An order of edge identities by their digits. -/
def edgeLess (lhs rhs : RequirementEdgeIdentity) : Bool := decide (lhs.hex.bytes < rhs.hex.bytes)

/-- Edge identities are compared by their digits, which tell them apart. -/
theorem strictTotal_edgeLess : StrictTotal edgeLess := by
  refine strictTotal_bytes fun a b h => ?_
  obtain ⟨_⟩ := a
  obtain ⟨_⟩ := b
  exact congrArg _ (Text.ext h)

end Sample

/-- Two edges, consumed through a search tree. -/
theorem admit_in_containers_checked : StrictTotal Sample.edgeLess ∧
    ∃ set, BuildInputSet.admitIn (SearchTree.map Sample.strictTotal_edgeLess.toStrictWeak)
      Sample.platform (Sample.checkedResolution [Sample.goal .check]) ⟨Sample.hex 0x61⟩
        = .ok set := by
  refine ⟨Sample.strictTotal_edgeLess, ?_⟩
  rw [admit_in_containers Sample.platform Sample.edgeLess Sample.strictTotal_edgeLess]
  exact Sample.checkedResolution_admitted

end Pkgbuild

/-
  What a request identity binds.

  A request identity is a digest of digests: the request record holds the identities of the input
  set and of the policy, the input set those of the inputs, the policy that of the environment.
  With SHA-256 an arbitrary function, two requests of one identity either exhibit a COLLISION among
  the streams hashed for them (`requestStreams`), or agree on everything the records spell out
  (`SameRequest`).  Level by level:

  * a record's stream determines its fields (`…Record_inj`);
  * without a collision, an identity determines the stream it is the digest of
    (`Identity.stream_eq`).

  The converse needs the SORT: the inputs of the two requests are the same set, and sorting by
  identity puts the same identities into the same sequence (`identities_eq`).
-/
import Pkgbuild.RequestAgreement
import Pkgbuild.Records

namespace Pkgbuild

open Checked RecordCode Pkgsource Pkgcatalog Pkgresolve

variable {P : Platform} {sha256 : Sha256}

/-! ## The streams behind a request -/

namespace BuildInput

/-- The bytes hashed for an input. -/
def stream (input : BuildInput sha256) : Bytes :=
  (inputRecord input.scope input.requirement input.selection).stream

/-- What an input's record spells out. -/
def triple (input : BuildInput sha256) :
    InputScope × RequirementEdgeIdentity × PackageSelectionIdentity :=
  (input.scope, input.requirement.identity, input.selection.identity)

end BuildInput

/-- The bytes hashed for an environment. -/
def EnvironmentPolicy.stream (policy : EnvironmentPolicy sha256) : Bytes :=
  (environmentRecord policy.parallelism policy.fileCreationMask policy.sourceDateEpoch).stream

/-- The bytes hashed for a policy; the environment is in them by its identity. -/
def BuildPolicy.stream (policy : BuildPolicy sha256) : Bytes :=
  (policyRecord policy.environment policy.outputLayout).stream

/-- The bytes hashed for an input set; the inputs are in them by their identities, in their order.
    -/
def BuildInputSet.stream (set : BuildInputSet sha256) : Bytes :=
  (inputSetRecord set.resolution set.subject.identity set.inputs).stream

/-- The bytes hashed for a request itself; what it is made of is in them by identities and two
    names. -/
def BuildRequest.stream (request : BuildRequest P) : Bytes :=
  (requestRecord request.source request.inputs request.architectures request.policy).stream

/-- The streams hashed while computing a request identity. -/
def requestStreams (request : BuildRequest P) : List Bytes :=
  request.stream :: request.policy.stream :: request.policy.environment.stream ::
    request.inputs.stream :: request.inputs.inputs.map BuildInput.stream

section Membership

variable (request : BuildRequest P)

/-- The request's own stream is one of those hashed for it. -/
theorem stream_mem : request.stream ∈ requestStreams request := List.mem_cons_self

theorem policy_stream_mem : request.policy.stream ∈ requestStreams request :=
  List.mem_cons_of_mem _ List.mem_cons_self

/-- So is that of the environment under the policy. -/
theorem environment_stream_mem : request.policy.environment.stream ∈ requestStreams request :=
  List.mem_cons_of_mem _ (List.mem_cons_of_mem _ List.mem_cons_self)

theorem inputs_stream_mem : request.inputs.stream ∈ requestStreams request :=
  List.mem_cons_of_mem _ (List.mem_cons_of_mem _ (List.mem_cons_of_mem _ List.mem_cons_self))

/-- So is that of each input of the set. -/
theorem input_stream_mem {input : BuildInput P.sha256} (h : input ∈ request.inputs.inputs) :
    input.stream ∈ requestStreams request :=
  List.mem_cons_of_mem _ (List.mem_cons_of_mem _ (List.mem_cons_of_mem _ (List.mem_cons_of_mem _
    (List.mem_map_of_mem h))))

end Membership

/-- The set an admitted subject's inputs are hashed into. -/
theorem BuildRequest.inputs_identity (request : BuildRequest P) :
    inputSetId request.inputs.resolution request.inputs.subject.identity request.inputs.inputs
      = .ok request.inputs.identity := by
  obtain ⟨resolution, subject, hset⟩ := request.admitted
  obtain ⟨selection, candidate, inputs, h, hassemble⟩ := admit_ok_iff.mp hset
  have hsubject : (assemble P resolution subject selection inputs).subject.identity = subject :=
    h.lookup.identity_eq
  rw [hassemble, hsubject]
  exact Identity.fromSha256_finish _ _ _

/-! ## What each record spells out -/

/-- An input's record is three texts behind its domain, and three texts are read back. -/
theorem inputRecord_inj {scope scope' : InputScope} {edge edge' : RequirementEdge}
    {selection selection' : SelectedPackage}
    (h : (inputRecord scope edge selection).stream = (inputRecord scope' edge' selection').stream) :
    scope = scope' ∧ edge.identity = edge'.identity ∧ selection.identity = selection'.identity := by
  have hfields : inputFields scope edge selection = inputFields scope' edge' selection' :=
    writeAll_inj rfl h
  simp only [inputFields, List.cons.injEq, Field.text.injEq, true_and, and_true] at hfields
  obtain ⟨hscope, hedge, hselection⟩ := hfields
  exact ⟨InputScope.toText_inj hscope, RequirementEdgeIdentity.ext hedge,
    PackageSelectionIdentity.ext hselection⟩

/-- The list of identities ends with the stream, so its count is not needed to read it back. -/
theorem inputSetRecord_inj {resolution resolution' : ResolutionResultIdentity}
    {subject subject' : PackageSelectionIdentity} {inputs inputs' : List (BuildInput sha256)}
    (h : (inputSetRecord resolution subject inputs).stream
      = (inputSetRecord resolution' subject' inputs').stream) :
    resolution = resolution' ∧ subject = subject' ∧
      inputs.map BuildInput.identity = inputs'.map BuildInput.identity := by
  rw [inputSetRecord_eq, inputSetRecord_eq, inputSetFields, inputSetFields] at h
  obtain ⟨hfields, hlist⟩ := writeAll_cut (by rfl) h
  simp only [List.cons.injEq, Field.text.injEq, true_and] at hfields
  obtain ⟨hresolution, hsubject, -⟩ := hfields
  refine ⟨ResolutionResultIdentity.ext hresolution, PackageSelectionIdentity.ext hsubject, ?_⟩
  -- behind the count the stream is a list of blocks, one an identity
  have hblocks : ∀ list : List (BuildInput sha256),
      fieldCode.emitAll (list.flatMap fun input => [.text input.identity.text])
        = (list.map BuildInput.identity).flatMap fun identity =>
            (Field.text identity.text).emit := by
    intro list
    rw [emitAll_flatMap, List.flatMap_map]
    exact List.flatMap_congr fun _ _ => List.append_nil _
  rw [hblocks, hblocks] at hlist
  refine flatMap_inj (fun identity => emit_ne_nil _) (fun {a b u v} hcut => ?_) hlist
  obtain ⟨htext, huv⟩ := emit_text_cut hcut
  exact ⟨Identity.text_inj htext, huv⟩

/-- A policy's record gives back which environment it is of and the word for its layout. -/
theorem policyRecord_inj {environment environment' : EnvironmentPolicy sha256}
    {outputLayout outputLayout' : OutputLayoutKind}
    (h : (policyRecord environment outputLayout).stream
      = (policyRecord environment' outputLayout').stream) :
    environment.identity = environment'.identity ∧
      outputLayout.toText = outputLayout'.toText := by
  have hfields : policyFields environment outputLayout = policyFields environment' outputLayout' :=
    writeAll_inj rfl h
  simp only [policyFields, List.cons.injEq, Field.text.injEq, true_and, and_true] at hfields
  exact ⟨Identity.text_inj hfields.1, hfields.2⟩

/-- An environment's record gives back its three numbers.  The epoch is behind a presence flag, so a
    missing one is not taken for zero. -/
theorem environmentRecord_inj {parallelism parallelism' fileCreationMask fileCreationMask' : UInt32}
    {sourceDateEpoch sourceDateEpoch' : Option Int64}
    (h : (environmentRecord parallelism fileCreationMask sourceDateEpoch).stream
      = (environmentRecord parallelism' fileCreationMask' sourceDateEpoch').stream) :
    parallelism = parallelism' ∧ fileCreationMask = fileCreationMask' ∧
      sourceDateEpoch = sourceDateEpoch' := by
  rw [environmentRecord_eq, environmentRecord_eq, environmentFields, environmentFields] at h
  obtain ⟨hfields, hepoch⟩ := writeAll_cut (by rfl) h
  simp only [List.cons.injEq, Field.number.injEq, true_and, and_true] at hfields
  refine ⟨UInt32.toUInt64_inj.mp hfields.1, UInt32.toUInt64_inj.mp hfields.2, ?_⟩
  refine emitAll_optional_inj [.number] (fun _ => rfl) (fun {a b} h => ?_) hepoch
  exact int64_ext (Field.number.inj (List.cons.inj h).1)

/-- A request's record gives back the identities in it and the names of the architectures, which are
    all an architecture has. -/
theorem requestRecord_inj {source source' : SourceSnapshot} {inputs inputs' : BuildInputSet sha256}
    {architectures architectures' : ArchitectureBinding} {policy policy' : BuildPolicy sha256}
    (h : (requestRecord source inputs architectures policy).stream
      = (requestRecord source' inputs' architectures' policy').stream) :
    source.identity = source'.identity ∧ inputs.identity = inputs'.identity ∧
      architectures = architectures' ∧ policy.identity = policy'.identity := by
  have hfields : requestFields source inputs architectures policy
      = requestFields source' inputs' architectures' policy' := writeAll_inj rfl h
  simp only [requestFields, List.cons.injEq, Field.text.injEq, true_and, and_true] at hfields
  obtain ⟨hsource, hinputs, hbuild, htarget, hpolicy⟩ := hfields
  refine ⟨SourceSnapshotIdentity.ext hsource, Identity.text_inj hinputs, ?_,
    Identity.text_inj hpolicy⟩
  have hbuild := ArchitectureReference.ext hbuild
  have htarget := ArchitectureReference.ext htarget
  cases architectures; cases architectures'
  cases hbuild; cases htarget
  rfl

/-! ## Requests of one identity -/

/-- The two requests agree on everything their records spell out. -/
structure SameRequest (a b : BuildRequest P) : Prop where
  source : a.source.identity = b.source.identity
  resolution : a.inputs.resolution = b.inputs.resolution
  subject : a.subject.identity = b.subject.identity
  /-- The same set of scopes, edges and selected packages. -/
  inputs : ∀ triple, triple ∈ a.inputs.inputs.map BuildInput.triple ↔
    triple ∈ b.inputs.inputs.map BuildInput.triple
  build : a.architectures.build.name = b.architectures.build.name
  target : a.architectures.target.name = b.architectures.target.name
  parallelism : a.policy.environment.parallelism = b.policy.environment.parallelism
  fileCreationMask : a.policy.environment.fileCreationMask = b.policy.environment.fileCreationMask
  sourceDateEpoch : a.policy.environment.sourceDateEpoch = b.policy.environment.sourceDateEpoch
  outputLayout : a.policy.outputLayout = b.policy.outputLayout

/-- Inputs of one identity spell out the same triple, unless their streams collide. -/
theorem BuildInput.triple_eq {streams streams' : List Bytes}
    (hno : ¬ Collides sha256 (streams ++ streams'))
    {a b : BuildInput sha256} (ha : a.stream ∈ streams) (hb : b.stream ∈ streams')
    (h : a.identity = b.identity) : a.triple = b.triple := by
  obtain ⟨hscope, hedge, hselection⟩ :=
    inputRecord_inj (Identity.stream_eq hno a.identity_eq b.identity_eq ha hb h)
  rw [triple, triple, hscope, hedge, hselection]

/-- Input by input, and so list by list. -/
theorem map_triple_eq {streams streams' : List Bytes}
    (hno : ¬ Collides sha256 (streams ++ streams')) :
    ∀ {as bs : List (BuildInput sha256)},
      (∀ input ∈ as, input.stream ∈ streams) → (∀ input ∈ bs, input.stream ∈ streams') →
      as.map BuildInput.identity = bs.map BuildInput.identity →
      as.map BuildInput.triple = bs.map BuildInput.triple
  | [], [], _, _, _ => rfl
  | [], _ :: _, _, _, h => by simp at h
  | _ :: _, [], _, _, h => by simp at h
  | a :: as, b :: bs, ha, hb, h => by
      obtain ⟨hhead, htail⟩ := List.cons.inj h
      rw [List.map_cons, List.map_cons,
        BuildInput.triple_eq hno (ha a List.mem_cons_self) (hb b List.mem_cons_self) hhead,
        map_triple_eq hno (fun input hinput => ha input (List.mem_cons_of_mem _ hinput))
          (fun input hinput => hb input (List.mem_cons_of_mem _ hinput)) htail]

/-- **Binding.**  Without a collision, a request identity determines the request record and, through
    the identities in it, every record below. -/
theorem sameRequest_of_identity_eq {a b : BuildRequest P}
    (hno : ¬ Collides P.sha256 (requestStreams a ++ requestStreams b))
    (h : a.identity = b.identity) : SameRequest a b := by
  -- the request record
  have hrequest := Identity.stream_eq hno a.identity_eq b.identity_eq (stream_mem a)
    (stream_mem b) h
  obtain ⟨hsource, hinputs, harchitectures, hpolicy⟩ := requestRecord_inj hrequest
  -- the policy record, and the environment record under it
  have hpolicies := Identity.stream_eq hno a.policy.identity_eq b.policy.identity_eq
    (policy_stream_mem a) (policy_stream_mem b) hpolicy
  obtain ⟨henvironment, -⟩ := policyRecord_inj hpolicies
  have henvironments := Identity.stream_eq hno a.policy.environment.identity_eq
    b.policy.environment.identity_eq (environment_stream_mem a) (environment_stream_mem b)
    henvironment
  obtain ⟨hparallelism, hmask, hepoch⟩ := environmentRecord_inj henvironments
  -- the record of the input set, and those of the inputs under it
  have hsets := Identity.stream_eq hno a.inputs_identity b.inputs_identity (inputs_stream_mem a)
    (inputs_stream_mem b) hinputs
  obtain ⟨hresolution, hsubject, hidentities⟩ := inputSetRecord_inj hsets
  have htriples := map_triple_eq hno (fun _ hinput => input_stream_mem a hinput)
    (fun _ hinput => input_stream_mem b hinput) hidentities
  refine ⟨hsource, hresolution, ?_, ?_, ?_, ?_, hparallelism, hmask, hepoch, ?_⟩
  · rw [a.subject_eq, b.subject_eq]
    exact hsubject
  · rw [htriples]
    exact fun _ => Iff.rfl
  · rw [harchitectures]
  · rw [harchitectures]
  · rw [a.policy.outputLayout_eq, b.policy.outputLayout_eq]

/-! ## Requests that agree -/

/-- The identity of an input is a function of its triple. -/
def tripleIdentity (sha256 : Sha256)
    (triple : InputScope × RequirementEdgeIdentity × PackageSelectionIdentity) :
    BuildInputIdentity :=
  .ofDigest _ (sha256 (IdentityWriter.new.writeAll
    [.text RecordKind.buildInput.domain, .text triple.1.toText, .text triple.2.1.hex,
      .text triple.2.2.hex]).stream)

/-- So inputs of one triple have one identity, whatever resolutions they came from. -/
theorem BuildInput.identity_eq_triple (input : BuildInput sha256) :
    input.identity = tripleIdentity sha256 input.triple := Identity.eq_ofDigest input.identity_eq

/-- The inputs of a request come from a list with distinct edges, sorted. -/
theorem BuildRequest.exists_inputs (request : BuildRequest P) :
    ∃ inputs : List (BuildInput P.sha256),
      (inputs.map BuildInput.triple).Nodup ∧ request.inputs.inputs = P.sortInputs.run inputs := by
  obtain ⟨resolution, subject, hset⟩ := request.admitted
  obtain ⟨selection, candidate, inputs, h, hassemble⟩ := admit_ok_iff.mp hset
  refine ⟨inputs, ?_, by rw [hassemble]; rfl⟩
  have hdistinct : ((inputs.map BuildInput.triple).map fun triple => triple.2.1).Nodup := by
    rw [List.map_map]
    exact h.distinct
  exact hdistinct.of_map

/-- **The sort is canonical.**  Two sorted lists of inputs spelling out the same set of triples have
    the same identities in the same order. -/
theorem identities_eq {as bs : List (BuildInput P.sha256)}
    (ha : (as.map BuildInput.triple).Nodup) (hb : (bs.map BuildInput.triple).Nodup)
    (h : ∀ triple, triple ∈ as.map BuildInput.triple ↔ triple ∈ bs.map BuildInput.triple) :
    (P.sortInputs.run as).map BuildInput.identity
      = (P.sortInputs.run bs).map BuildInput.identity := by
  have htriples := (List.perm_ext_iff_of_nodup ha hb).mpr h
  -- the sort key of an input is computed from its triple
  have hkeys : ∀ list : List (BuildInput P.sha256),
      list.map (fun input => input.identity.hex)
        = (list.map BuildInput.triple).map fun triple => (tripleIdentity P.sha256 triple).hex := by
    intro list
    rw [List.map_map]
    refine List.map_congr_left fun input _ => ?_
    show input.identity.hex = (tripleIdentity P.sha256 input.triple).hex
    rw [input.identity_eq_triple]
  have hperm : (as.map fun input => input.identity.hex).Perm
      (bs.map fun input => input.identity.hex) := by
    rw [hkeys as, hkeys bs]
    exact htriples.map _
  have hhex := P.sortInputs.map_key_eq (fun _ _ => rfl) hperm
  have hinj : Function.Injective fun identity : BuildInputIdentity => identity.hex :=
    fun _ _ => Identity.ext
  refine List.map_injective_iff.mpr hinj ?_
  rw [List.map_map, List.map_map]
  exact hhex

/-- Requests that agree on what the records spell out have one identity. -/
theorem identity_eq_of_sameRequest {a b : BuildRequest P} (h : SameRequest a b) :
    a.identity = b.identity := by
  obtain ⟨as, hdistinct, ha⟩ := a.exists_inputs
  obtain ⟨bs, hdistinct', hb⟩ := b.exists_inputs
  -- the input sets
  have hset : a.inputs.identity = b.inputs.identity := by
    have htriples : ∀ triple, triple ∈ as.map BuildInput.triple ↔
        triple ∈ bs.map BuildInput.triple := by
      intro triple
      have hiff := h.inputs triple
      rw [ha, hb] at hiff
      rw [((P.sortInputs.perm as).map _).mem_iff, ((P.sortInputs.perm bs).map _).mem_iff] at hiff
      exact hiff
    have hidentities := identities_eq hdistinct hdistinct' htriples
    rw [← ha, ← hb] at hidentities
    have hsubject := h.subject
    rw [a.subject_eq, b.subject_eq] at hsubject
    rw [Identity.eq_ofDigest a.inputs_identity, Identity.eq_ofDigest b.inputs_identity,
      inputSetRecord_eq, inputSetRecord_eq, inputSetFields_congr hidentities, h.resolution,
      hsubject]
  -- the policies
  have hpolicy : a.policy.identity = b.policy.identity := by
    have henvironment : a.policy.environment.identity = b.policy.environment.identity := by
      rw [Identity.eq_ofDigest a.policy.environment.identity_eq,
        Identity.eq_ofDigest b.policy.environment.identity_eq, h.parallelism, h.fileCreationMask,
        h.sourceDateEpoch]
    rw [Identity.eq_ofDigest a.policy.identity_eq, Identity.eq_ofDigest b.policy.identity_eq,
      policyRecord, policyRecord, henvironment, h.outputLayout]
  rw [Identity.eq_ofDigest a.identity_eq, Identity.eq_ofDigest b.identity_eq, requestRecord,
    requestRecord, h.source, hset, h.build, h.target, hpolicy]

/-- **A request identity binds the request.**  Two sealed requests of one identity exhibit a
    collision among the streams hashed for them, or agree; and requests that agree have one
    identity.  (Every `BuildRequest` is one that `seal` returned: `BuildRequest.exists_seal`.) -/
theorem request_identity_binds (P : Platform) (a b : BuildRequest P) :
    (a.identity = b.identity →
      Collides P.sha256 (requestStreams a ++ requestStreams b) ∨ SameRequest a b) ∧
    (SameRequest a b → a.identity = b.identity) := by
  refine ⟨?_, identity_eq_of_sameRequest⟩
  intro h
  by_cases hno : Collides P.sha256 (requestStreams a ++ requestStreams b)
  · exact Or.inl hno
  · exact Or.inr (sameRequest_of_identity_eq hno h)

end Pkgbuild

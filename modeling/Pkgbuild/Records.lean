/-
  The nine record kinds, and the one schema they all follow.

  Every identity of the library is the digest of a record: a domain text and then fields.  This file
  reads the nine writers as field lists and the format as a `Layout`:

  1. **Fields** — `…Fields` lists the calls of each writer, and `…Record_eq` says the writer makes
     exactly these calls;
  2. **The layout** — `recordLayout` branches on the leading domain text.  Four things in it depend
     on VALUES already written: the record kind, the outcome of a result, the presence flags of
     optional groups and the counts of the two lists;
  3. **All nine follow it** — `Record.fits`, and so no stream of a record is a prefix of another's
     unless the fields are the same (`Record.fields_cut`).

  A count is eight bytes, so the layout reads it back only for lists shorter than 2^64, as every
  `std::vector` is.  Injectivity of the two lists does not need the count: see `entries_inj` and
  `inputSetRecord_inj`, which hold at any length.
-/
import Pkgbuild.FieldStream
import Pkgbuild.Result

namespace Pkgbuild

open RecordCode Pkgsource Pkgcatalog Pkgresolve

/-! ## Streams and fields -/

/-- Fields are written one after the other, in two parts as in one. -/
theorem writeAll_append (writer : IdentityWriter) (fields fields' : List Field) :
    writer.writeAll (fields ++ fields') = (writer.writeAll fields).writeAll fields' :=
  List.foldl_append

/-- A loop of block writers writes the blocks' fields. -/
theorem foldl_eq_writeAll {γ : Type} {write : IdentityWriter → γ → IdentityWriter}
    {fields : γ → List Field}
    (hwrite : ∀ writer block, write writer block = writer.writeAll (fields block)) :
    ∀ (blocks : List γ) (writer : IdentityWriter),
      blocks.foldl write writer = writer.writeAll (blocks.flatMap fields)
  | [], _ => rfl
  | block :: blocks, writer => by
      rw [List.foldl_cons, foldl_eq_writeAll hwrite blocks, hwrite, List.flatMap_cons,
        writeAll_append]

/-- Records with fields of the same kinds have different streams. -/
theorem writeAll_inj {fields fields' : List Field}
    (hkinds : fields.map Field.kind = fields'.map Field.kind)
    (h : (IdentityWriter.new.writeAll fields).stream
      = (IdentityWriter.new.writeAll fields').stream) : fields = fields' := by
  rw [stream_new_writeAll, stream_new_writeAll] at h
  have hcut : fieldCode.emitAll fields ++ [] = fieldCode.emitAll fields' ++ [] := by
    rw [List.append_nil, List.append_nil]
    exact h
  exact (emitAll_cut fieldCode hkinds hcut).1

/-- Fields of the same kinds in front are cut off, whatever follows. -/
theorem writeAll_cut {fields fields' rest rest' : List Field}
    (hkinds : fields.map Field.kind = fields'.map Field.kind)
    (h : (IdentityWriter.new.writeAll (fields ++ rest)).stream
      = (IdentityWriter.new.writeAll (fields' ++ rest')).stream) :
    fields = fields' ∧ fieldCode.emitAll rest = fieldCode.emitAll rest' := by
  rw [stream_new_writeAll, stream_new_writeAll, emitAll_append, emitAll_append] at h
  exact emitAll_cut fieldCode hkinds h

/-! ## Optional groups -/

/-- A group behind its presence flag. -/
def optionalFields {α : Type} (fields : α → List Field) : Option α → List Field
  | none => [.boolean false]
  | some value => .boolean true :: fields value

/-- The layout of a group behind its presence flag. -/
def optionalLayout (kinds : List FieldKind) (rest : Layout Field FieldKind) :
    Layout Field FieldKind :=
  .field .boolean fun flag => if flag = .boolean true then Layout.fixed kinds rest else rest

/-- A group of fields of known kinds fits behind its flag, present or not, if what follows fits. -/
theorem fits_optional {α : Type} {fields : α → List Field} {kinds : List FieldKind}
    (hkinds : ∀ value, (fields value).map Field.kind = kinds) {rest : Layout Field FieldKind}
    {tail : List Field} (htail : rest.Fits fieldCode tail) (value : Option α) :
    (optionalLayout kinds rest).Fits fieldCode (optionalFields fields value ++ tail) := by
  cases value with
  | none =>
    refine ⟨rfl, ?_⟩
    show (if Field.boolean false = .boolean true then _ else rest).Fits fieldCode tail
    rw [if_neg (by decide)]
    exact htail
  | some value =>
    refine ⟨rfl, ?_⟩
    show (if Field.boolean true = .boolean true then Layout.fixed kinds rest else _).Fits
      fieldCode _
    rw [if_pos rfl]
    exact Layout.fits_fixed fieldCode htail (hkinds value)

/-- A group of fixed width is cut off by its flag. -/
theorem optionalFields_cut {α : Type} {fields : α → List Field} (width : Nat)
    (hwidth : ∀ value, (fields value).length = width)
    (hfields : ∀ {a b}, fields a = fields b → a = b) {a b : Option α} {rest rest' : List Field}
    (h : optionalFields fields a ++ rest = optionalFields fields b ++ rest') :
    a = b ∧ rest = rest' := by
  cases a with
  | none =>
    cases b with
    | none => exact ⟨rfl, (List.cons.inj h).2⟩
    | some b =>
      have hflag := (List.cons.inj h).1
      exact absurd hflag (by decide)
  | some a =>
    cases b with
    | none =>
      have hflag := (List.cons.inj h).1
      exact absurd hflag (by decide)
    | some b =>
      obtain ⟨hgroup, hrest⟩ := List.append_inj (List.cons.inj h).2 (by rw [hwidth, hwidth])
      rw [hfields hgroup]
      exact ⟨rfl, hrest⟩

/-- A group that ends a record is read back from the stream. -/
theorem emitAll_optional_inj {α : Type} {fields : α → List Field} (kinds : List FieldKind)
    (hkinds : ∀ value, (fields value).map Field.kind = kinds)
    (hfields : ∀ {a b}, fields a = fields b → a = b) {a b : Option α}
    (h : fieldCode.emitAll (optionalFields fields a)
      = fieldCode.emitAll (optionalFields fields b)) :
    a = b := by
  have hstop : Layout.stop.Fits fieldCode [] := rfl
  have ha := fits_optional hkinds hstop a
  have hb := fits_optional hkinds hstop b
  rw [← List.append_nil (optionalFields fields a), ← List.append_nil (optionalFields fields b)] at h
  have hcut := (Layout.Fits.cut fieldCode ha hb (congrArg (· ++ []) h)).1
  refine (optionalFields_cut kinds.length (fun value => ?_) hfields hcut).1
  rw [← hkinds value, List.length_map]

/-! ## Payload entries -/

/-- The calls of `writePayloadEntry`. -/
def entryFields (entry : PayloadEntry) : List Field :=
  [.text entry.path.value, .text entry.type.toText, .number entry.mode.toUInt64, .number entry.uid,
    .number entry.gid, .number entry.size, .number entry.modificationTime.seconds.toUInt64,
    .number entry.modificationTime.nanoseconds.toUInt64] ++
  (optionalFields (fun target => [.text target]) entry.symlinkTarget ++
  (optionalFields (fun target => [.text target.value]) entry.hardlinkTarget ++
  (optionalFields (fun device => [.number device.major, .number device.minor]) entry.device ++
  optionalFields (fun content => [.text content.text]) entry.regularContent)))

/-- The calls of `writePayloadEntry` are the fields of the entry, in each of the sixteen cases of
    its optional members. -/
theorem writePayloadEntry_eq (writer : IdentityWriter) (entry : PayloadEntry) :
    writePayloadEntry writer entry = writer.writeAll (entryFields entry) := by
  unfold writePayloadEntry entryFields
  cases entry.symlinkTarget <;> cases entry.hardlinkTarget <;> cases entry.device <;>
    cases entry.regularContent <;> rfl

/-- One entry and then `rest`. -/
def entryLayout (rest : Layout Field FieldKind) : Layout Field FieldKind :=
  Layout.fixed [.text, .text, .number, .number, .number, .number, .number, .number]
    (optionalLayout [.text] (optionalLayout [.text] (optionalLayout [.number, .number]
      (optionalLayout [.text] rest))))

/-- An entry's fields fit its layout: eight of known kinds, and four groups behind their flags. -/
theorem fits_entry (entry : PayloadEntry) (rest : Layout Field FieldKind) (tail : List Field)
    (htail : rest.Fits fieldCode tail) :
    (entryLayout rest).Fits fieldCode (entryFields entry ++ tail) := by
  unfold entryFields entryLayout
  rw [List.append_assoc, List.append_assoc, List.append_assoc, List.append_assoc]
  refine Layout.fits_fixed fieldCode ?_ rfl
  apply fits_optional (by intro _; rfl)
  apply fits_optional (by intro _; rfl)
  apply fits_optional (by intro _; rfl)
  apply fits_optional (by intro _; rfl)
  exact htail

/-- The cast of a signed number to the writer's unsigned one loses nothing. -/
theorem int64_ext {a b : Int64} (h : a.toUInt64 = b.toUInt64) : a = b := by
  cases a; cases b; cases h; rfl

/-- **The fields of an entry determine it.** -/
theorem entryFields_inj {a b : PayloadEntry} (h : entryFields a = entryFields b) : a = b := by
  obtain ⟨hfixed, h⟩ := List.append_inj h rfl
  obtain ⟨hsymlink, h⟩ := optionalFields_cut 1 (fun _ => rfl) (by simp) h
  obtain ⟨hhardlink, h⟩ := optionalFields_cut 1 (fun _ => rfl)
    (fun {a b} h => PayloadPath.ext (by simpa using h)) h
  obtain ⟨hdevice, h⟩ := optionalFields_cut 2 (fun _ => rfl)
    (fun {a b} h => by cases a; cases b; simpa using h) h
  have h : optionalFields (fun content => [Field.text content.text]) a.regularContent ++ []
      = optionalFields (fun content => [Field.text content.text]) b.regularContent ++ [] := by
    rw [List.append_nil, List.append_nil]
    exact h
  obtain ⟨hcontent, -⟩ := optionalFields_cut 1 (fun _ => rfl)
    (fun {a b} h => Sha256Digest.text_inj (by simpa using h)) h
  -- eight fixed fields, whose words and widened numbers are read back one by one
  simp only [List.cons.injEq, Field.text.injEq, Field.number.injEq, and_true] at hfixed
  obtain ⟨hpath, htype, hmode, huid, hgid, hsize, hseconds, hnanoseconds⟩ := hfixed
  have hpath := PayloadPath.ext hpath
  have htype := PayloadEntryType.toText_inj htype
  have hmode := UInt32.toUInt64_inj.mp hmode
  have hseconds := int64_ext hseconds
  have hnanoseconds := UInt32.toUInt64_inj.mp hnanoseconds
  have htime : a.modificationTime = b.modificationTime := by
    cases ha : a.modificationTime
    cases hb : b.modificationTime
    rw [ha, hb] at hseconds hnanoseconds
    cases hseconds
    cases hnanoseconds
    rfl
  cases a; cases b
  cases hpath; cases htype; cases hmode; cases huid; cases hgid; cases hsize; cases htime
  cases hsymlink; cases hhardlink; cases hdevice; cases hcontent
  rfl

/-- **Entry lists are told apart** by their streams, whatever their lengths: an entry is a non-empty
    block that is cut off in only one way. -/
theorem entries_inj {entries entries' : List PayloadEntry}
    (h : fieldCode.emitAll (entries.flatMap entryFields)
      = fieldCode.emitAll (entries'.flatMap entryFields)) : entries = entries' := by
  rw [emitAll_flatMap, emitAll_flatMap] at h
  refine flatMap_inj (fun entry hempty => ?_) (fun {a b u v} hcut => ?_) h
  · -- the path alone is not empty on the stream
    have hpath := (List.append_eq_nil_iff.mp (emitAll_cons fieldCode _ _ ▸ hempty)).1
    exact emit_ne_nil _ hpath
  · have hfits : ∀ entry, (entryLayout .stop).Fits fieldCode (entryFields entry) := by
      intro entry
      have hentry := fits_entry entry .stop [] rfl
      rwa [List.append_nil] at hentry
    obtain ⟨hfields, huv⟩ := Layout.Fits.cut fieldCode (hfits a) (hfits b) hcut
    exact ⟨entryFields_inj hfields, huv⟩

/-! ## The nine record kinds -/

/-- The kinds of records, each with its domain text. -/
inductive RecordKind where
  | buildInput
  | buildInputSet
  | buildPolicy
  | buildRequest
  | environmentPolicy
  | payloadManifest
  | artifact
  | artifactBinding
  | buildResult
deriving DecidableEq

namespace RecordKind

/-- The domain texts of the source, in which the version of the format is a part of the text. -/
def domainName : RecordKind → String
  | buildInput => "libpkgbuild/build-input/1"
  | buildInputSet => "libpkgbuild/build-input-set/1"
  | buildPolicy => "libpkgbuild/build-policy/1"
  | buildRequest => "libpkgbuild/build-request/1"
  | environmentPolicy => "libpkgbuild/environment-policy/1"
  | payloadManifest => "libpkgbuild/payload-manifest/1"
  | artifact => "libpkgbuild/artifact/1"
  | artifactBinding => "libpkgbuild/artifact-binding/1"
  | buildResult => "libpkgbuild/build-result/1"

/-- They are short enough to be strings. -/
theorem size_domainName (kind : RecordKind) : (ascii kind.domainName).length < 2 ^ 64 := by
  cases kind <;> decide

/-- The text every record of the kind opens with. -/
def domain (kind : RecordKind) : Text := literal kind.domainName kind.size_domainName

/-- All kinds; a reader who knows them looks the domain text up here. -/
def all : List RecordKind :=
  [buildInput, buildInputSet, buildPolicy, buildRequest, environmentPolicy, payloadManifest,
    artifact, artifactBinding, buildResult]

/-- The kind a leading field announces. -/
def ofDomain (field : Field) : Option RecordKind := all.find? fun kind => field = .text kind.domain

/-- The domain texts are told apart. -/
theorem ofDomain_domain (kind : RecordKind) : ofDomain (.text kind.domain) = some kind := by
  cases kind <;> decide

/-- A list as long as its count says. -/
def counted (block : Layout Field FieldKind → Layout Field FieldKind) : Layout Field FieldKind :=
  .field .number fun count =>
    match count with
    | .number count => Layout.times block count.toNat .stop
    | _ => .stop

/-- The fields after the domain text. -/
def body : RecordKind → Layout Field FieldKind
  | buildInput => Layout.fixed [.text, .text, .text] .stop
  | buildInputSet => Layout.fixed [.text, .text] (counted (Layout.fixed [.text]))
  | buildPolicy => Layout.fixed [.text, .text] .stop
  | buildRequest => Layout.fixed [.text, .text, .text, .text, .text] .stop
  | environmentPolicy =>
      Layout.fixed [.text, .text, .text, .text, .number, .number] (optionalLayout [.number] .stop)
  | payloadManifest => counted entryLayout
  | artifact => Layout.fixed [.text, .text, .number, .text] .stop
  | artifactBinding => Layout.fixed [.text, .text, .text, .text] .stop
  | buildResult => .field .text fun outcome =>
      if outcome = .text BuildOutcome.succeeded.toText then
        Layout.fixed [.text, .text, .text, .text, .text] .stop
      else Layout.fixed [.text, .text, .text] .stop

end RecordKind

/-- **The record format**: a domain text, and the body of the kind it announces. -/
def recordLayout : Layout Field FieldKind :=
  .field .text fun domain =>
    match RecordKind.ofDomain domain with
    | some kind => kind.body
    | none => .stop

/-! ## The fields of each record -/

section Fields

variable {P : Platform} {sha256 : Sha256}

/-- The calls of `input_id`. -/
def inputFields (scope : InputScope) (edge : RequirementEdge) (selection : SelectedPackage) :
    List Field :=
  [.text RecordKind.buildInput.domain, .text scope.toText, .text edge.identity.hex,
    .text selection.identity.hex]

/-- The calls of `input_set_id`: the count of the inputs stands before their identities. -/
def inputSetFields (resolution : ResolutionResultIdentity) (subject : PackageSelectionIdentity)
    (inputs : List (BuildInput sha256)) : List Field :=
  [.text RecordKind.buildInputSet.domain, .text resolution.hex, .text subject.hex,
    .number (UInt64.ofNat inputs.length)] ++
  inputs.flatMap fun input => [.text input.identity.text]

/-- The calls of `policy_id`. -/
def policyFields (environment : EnvironmentPolicy sha256) (outputLayout : OutputLayoutKind) :
    List Field :=
  [.text RecordKind.buildPolicy.domain, .text environment.identity.text, .text outputLayout.toText]

/-- The calls of `request_id`. -/
def requestFields (source : SourceSnapshot) (inputs : BuildInputSet sha256)
    (architectures : ArchitectureBinding) (policy : BuildPolicy sha256) : List Field :=
  [.text RecordKind.buildRequest.domain, .text source.identity.hex, .text inputs.identity.text,
    .text architectures.build.name, .text architectures.target.name, .text policy.identity.text]

/-- The calls of `environment_id`: the four fixed policies, two numbers, and the epoch behind its
    flag. -/
def environmentFields (parallelism fileCreationMask : UInt32) (sourceDateEpoch : Option Int64) :
    List Field :=
  [.text RecordKind.environmentPolicy.domain, .text LocalePolicy.cUtf8.toText,
    .text TimezonePolicy.utc.toText, .text NetworkPolicy.denied.toText,
    .text HomePolicy.isolated.toText, .number parallelism.toUInt64,
    .number fileCreationMask.toUInt64] ++
  optionalFields (fun epoch => [.number epoch.toUInt64]) sourceDateEpoch

/-- The calls of `manifest_id`: the count of the entries stands before their fields. -/
def manifestFields (entries : List PayloadEntry) : List Field :=
  [.text RecordKind.payloadManifest.domain, .number (UInt64.ofNat entries.length)] ++
  entries.flatMap entryFields

/-- The calls of `artifact_id`. -/
def artifactFields (encoding : ArtifactEncoding) (compression : ArtifactCompression)
    (byteCount : UInt64) (digest : Sha256Digest) : List Field :=
  [.text RecordKind.artifact.domain, .text encoding.toText, .text compression.toText,
    .number byteCount, .text digest.text]

/-- The calls of `binding_id`. -/
def bindingFields (request : BuildRequest P) (payload : PayloadManifest P.sha256)
    (artifact : SealedArtifact P.sha256) : List Field :=
  [.text RecordKind.artifactBinding.domain, .text request.identity.text,
    .text payload.identity.text, .text artifact.identity.text, .text artifact.completeDigest.text]

/-- The calls of `success_id`. -/
def successFields (request : BuildRequest P) (payload : PayloadManifest P.sha256)
    (artifact : SealedArtifact P.sha256) (binding : ArtifactBindingIdentity)
    (execution : ExecutionEvidenceIdentity) : List Field :=
  [.text RecordKind.buildResult.domain, .text BuildOutcome.succeeded.toText,
    .text request.identity.text, .text payload.identity.text, .text artifact.identity.text,
    .text binding.text, .text execution.text]

/-- The calls of `failure_id`, which share the domain with those of `success_id` and differ from the
    outcome on. -/
def failureFields (request : BuildRequest P) (execution : ExecutionEvidenceIdentity)
    (failure : FailureEvidenceIdentity) : List Field :=
  [.text RecordKind.buildResult.domain, .text BuildOutcome.failed.toText,
    .text request.identity.text, .text execution.text, .text failure.text]

/-- The loop over the inputs writes one field for each. -/
theorem inputSetRecord_eq (resolution : ResolutionResultIdentity)
    (subject : PackageSelectionIdentity) (inputs : List (BuildInput sha256)) :
    inputSetRecord resolution subject inputs
      = IdentityWriter.new.writeAll (inputSetFields resolution subject inputs) := by
  rw [inputSetFields, writeAll_append]
  apply foldl_eq_writeAll
  intro writer input
  rfl

/-- The record of a set reads the identities of its inputs only. -/
theorem inputSetFields_congr {a b : List (BuildInput sha256)}
    (h : a.map BuildInput.identity = b.map BuildInput.identity)
    (resolution : ResolutionResultIdentity) (subject : PackageSelectionIdentity) :
    inputSetFields resolution subject a = inputSetFields resolution subject b := by
  have hlength : a.length = b.length := by simpa using congrArg List.length h
  have hflat : ∀ inputs : List (BuildInput sha256),
      (inputs.flatMap fun input => [Field.text input.identity.text])
        = (inputs.map BuildInput.identity).flatMap fun identity => [.text identity.text] := by
    intro inputs
    rw [List.flatMap_map]
  rw [inputSetFields, inputSetFields, hlength, hflat, hflat, h]

/-- With and without an epoch. -/
theorem environmentRecord_eq (parallelism fileCreationMask : UInt32)
    (sourceDateEpoch : Option Int64) :
    environmentRecord parallelism fileCreationMask sourceDateEpoch
      = IdentityWriter.new.writeAll
          (environmentFields parallelism fileCreationMask sourceDateEpoch) := by
  cases sourceDateEpoch <;> rfl

/-- The loop over the entries writes the fields of each. -/
theorem manifestRecord_eq (entries : List PayloadEntry) :
    manifestRecord entries = IdentityWriter.new.writeAll (manifestFields entries) := by
  rw [manifestFields, writeAll_append]
  exact foldl_eq_writeAll writePayloadEntry_eq entries _

end Fields

/-! ## All nine follow the layout -/

/-- What the library hashes, one constructor for each way of writing a record.  A vector is shorter
    than 2^64, so its length is the count that is written. -/
inductive Record (P : Platform) where
  | buildInput (scope : InputScope) (edge : RequirementEdge) (selection : SelectedPackage)
  | buildInputSet (resolution : ResolutionResultIdentity) (subject : PackageSelectionIdentity)
      (inputs : List (BuildInput P.sha256)) (size_lt : inputs.length < 2 ^ 64)
  | buildPolicy (environment : EnvironmentPolicy P.sha256) (outputLayout : OutputLayoutKind)
  | buildRequest (source : SourceSnapshot) (inputs : BuildInputSet P.sha256)
      (architectures : ArchitectureBinding) (policy : BuildPolicy P.sha256)
  | environmentPolicy (parallelism fileCreationMask : UInt32) (sourceDateEpoch : Option Int64)
  | payloadManifest (entries : List PayloadEntry) (size_lt : entries.length < 2 ^ 64)
  | artifact (encoding : ArtifactEncoding) (compression : ArtifactCompression)
      (byteCount : UInt64) (digest : Sha256Digest)
  | artifactBinding (request : BuildRequest P) (payload : PayloadManifest P.sha256)
      (artifact : SealedArtifact P.sha256)
  | succeeded (request : BuildRequest P) (payload : PayloadManifest P.sha256)
      (artifact : SealedArtifact P.sha256) (binding : ArtifactBindingIdentity)
      (execution : ExecutionEvidenceIdentity)
  | failed (request : BuildRequest P) (execution : ExecutionEvidenceIdentity)
      (failure : FailureEvidenceIdentity)

namespace Record

variable {P : Platform}

/-- The writer the library finishes for the record. -/
def writer : Record P → IdentityWriter
  | buildInput scope edge selection => inputRecord scope edge selection
  | buildInputSet resolution subject inputs _ => inputSetRecord resolution subject inputs
  | buildPolicy environment outputLayout => policyRecord environment outputLayout
  | buildRequest source inputs architectures policy =>
      requestRecord source inputs architectures policy
  | environmentPolicy parallelism fileCreationMask sourceDateEpoch =>
      environmentRecord parallelism fileCreationMask sourceDateEpoch
  | payloadManifest entries _ => manifestRecord entries
  | artifact encoding compression byteCount digest =>
      artifactRecord encoding compression byteCount digest
  | artifactBinding request payload sealedArtifact => bindingRecord request payload sealedArtifact
  | succeeded request payload sealedArtifact binding execution =>
      successRecord request payload sealedArtifact binding execution
  | failed request execution failure => failureRecord request execution failure

/-- The calls a record is made of, as a list. -/
def fields : Record P → List Field
  | buildInput scope edge selection => inputFields scope edge selection
  | buildInputSet resolution subject inputs _ => inputSetFields resolution subject inputs
  | buildPolicy environment outputLayout => policyFields environment outputLayout
  | buildRequest source inputs architectures policy =>
      requestFields source inputs architectures policy
  | environmentPolicy parallelism fileCreationMask sourceDateEpoch =>
      environmentFields parallelism fileCreationMask sourceDateEpoch
  | payloadManifest entries _ => manifestFields entries
  | artifact encoding compression byteCount digest =>
      artifactFields encoding compression byteCount digest
  | artifactBinding request payload sealedArtifact => bindingFields request payload sealedArtifact
  | succeeded request payload sealedArtifact binding execution =>
      successFields request payload sealedArtifact binding execution
  | failed request execution failure => failureFields request execution failure

/-- The kind of a record; both ways of writing a result are of one kind. -/
def kind : Record P → RecordKind
  | buildInput .. => .buildInput
  | buildInputSet .. => .buildInputSet
  | buildPolicy .. => .buildPolicy
  | buildRequest .. => .buildRequest
  | environmentPolicy .. => .environmentPolicy
  | payloadManifest .. => .payloadManifest
  | artifact .. => .artifact
  | artifactBinding .. => .artifactBinding
  | succeeded .. | failed .. => .buildResult

/-- The outcome a result record is about. -/
def outcome : Record P → Option BuildOutcome
  | succeeded .. => some .succeeded
  | failed .. => some .failed
  | _ => none

/-- The bytes hashed for the record. -/
def stream (record : Record P) : Bytes := record.writer.stream

/-- What the source writes call by call is the list of the record's fields, written in order. -/
theorem writer_eq (record : Record P) :
    record.writer = IdentityWriter.new.writeAll record.fields := by
  cases record with
  | buildInputSet resolution subject inputs _ => exact inputSetRecord_eq resolution subject inputs
  | environmentPolicy parallelism fileCreationMask sourceDateEpoch =>
    exact environmentRecord_eq parallelism fileCreationMask sourceDateEpoch
  | payloadManifest entries _ => exact manifestRecord_eq entries
  | _ => rfl

/-- So its stream is what these fields emit. -/
theorem stream_eq (record : Record P) : record.stream = fieldCode.emitAll record.fields := by
  rw [stream, writer_eq, stream_new_writeAll]

/-- After the domain text, the body of the kind has to fit. -/
theorem fits_of_body {kind : RecordKind} {fields : List Field}
    (h : kind.body.Fits fieldCode fields) :
    recordLayout.Fits fieldCode (.text kind.domain :: fields) := by
  refine ⟨rfl, ?_⟩
  show (match RecordKind.ofDomain (.text kind.domain) with
    | some kind => kind.body
    | none => .stop).Fits fieldCode fields
  rw [RecordKind.ofDomain_domain]
  exact h

/-- A list shorter than 2^64 is as long as its count says. -/
theorem fits_counted {γ : Type} {block : Layout Field FieldKind → Layout Field FieldKind}
    {fields : γ → List Field}
    (hblock : ∀ g L tail, L.Fits fieldCode tail → (block L).Fits fieldCode (fields g ++ tail))
    {blocks : List γ} (hsize : blocks.length < 2 ^ 64) :
    (RecordKind.counted block).Fits fieldCode
      (.number (UInt64.ofNat blocks.length) :: blocks.flatMap fields) := by
  refine ⟨rfl, ?_⟩
  show (Layout.times block (UInt64.ofNat blocks.length).toNat .stop).Fits fieldCode _
  rw [UInt64.toNat_ofNat', Nat.mod_eq_of_lt hsize]
  have hstop : Layout.stop.Fits fieldCode [] := rfl
  have htimes := Layout.fits_times fieldCode hblock hstop blocks
  rwa [List.append_nil] at htimes

/-- **Every record follows the format.**  Kind by kind: its fields are those of the layout, and its
    lists are as long as the counts before them say. -/
theorem fits (record : Record P) : recordLayout.Fits fieldCode record.fields := by
  cases record with
  -- a count and as many identities
  | buildInputSet resolution subject inputs size_lt =>
    apply fits_of_body
    refine ⟨rfl, rfl, fits_counted (fun input L tail htail => ?_) size_lt⟩
    exact Layout.fits_fixed fieldCode htail rfl
  | environmentPolicy parallelism fileCreationMask sourceDateEpoch =>
    apply fits_of_body
    refine ⟨rfl, rfl, rfl, rfl, rfl, rfl, ?_⟩
    have hstop : Layout.stop.Fits fieldCode [] := rfl
    rw [← List.append_nil (optionalFields _ sourceDateEpoch)]
    exact fits_optional (by intro _; rfl) hstop sourceDateEpoch
  -- a count and as many entries
  | payloadManifest entries size_lt =>
    apply fits_of_body
    exact fits_counted fits_entry size_lt
  -- the outcome decides how many fields follow
  | succeeded request payload artifact binding execution =>
    apply fits_of_body
    exact ⟨rfl, Layout.fits_fixed_stop fieldCode rfl⟩
  | failed request execution failure =>
    apply fits_of_body
    exact ⟨rfl, Layout.fits_fixed_stop fieldCode rfl⟩
  | _ =>
    apply fits_of_body
    exact Layout.fits_fixed_stop fieldCode rfl

/-- Two records whose streams agree up to trailing bytes have the same fields. -/
theorem fields_cut {a b : Record P} {u v : Bytes} (h : a.stream ++ u = b.stream ++ v) :
    a.fields = b.fields ∧ u = v := by
  rw [stream_eq, stream_eq] at h
  exact Layout.Fits.cut fieldCode a.fits b.fits h

/-- What a reader learns from the first two fields: the kind, and the outcome of a result. -/
def readKind : List Field → Option (RecordKind × Option BuildOutcome)
  | [] => none
  | domain :: rest =>
      match RecordKind.ofDomain domain with
      | some .buildResult =>
          some (.buildResult, if rest.head? = some (.text BuildOutcome.succeeded.toText) then
            some .succeeded else some .failed)
      | some kind => some (kind, none)
      | none => none

/-- The domain text alone decides, except for a result. -/
theorem readKind_domain {kind : RecordKind} (h : kind ≠ .buildResult) (rest : List Field) :
    readKind (.text kind.domain :: rest) = some (kind, none) := by
  rw [readKind, RecordKind.ofDomain_domain]
  cases kind <;> first | rfl | exact absurd rfl h

/-- Of a result the second field is read as well, which is the word for the outcome. -/
theorem readKind_buildResult (outcome : BuildOutcome) (rest : List Field) :
    readKind (.text RecordKind.buildResult.domain :: .text outcome.toText :: rest)
      = some (.buildResult, some outcome) := by
  rw [readKind, RecordKind.ofDomain_domain]
  cases outcome <;> rfl

/-- A reader learns the kind and the outcome of every record right. -/
theorem readKind_fields (record : Record P) :
    readKind record.fields = some (record.kind, record.outcome) := by
  cases record with
  | succeeded request payload artifact binding execution => exact readKind_buildResult .succeeded _
  | failed request execution failure => exact readKind_buildResult .failed _
  | _ => exact readKind_domain (by decide) _

/-- **Records of different kinds, or results of different outcomes, are told apart** by any prefix
    of their streams that is long enough to hold one of them. -/
theorem stream_ne {a b : Record P} (h : (a.kind, a.outcome) ≠ (b.kind, b.outcome)) (u v : Bytes) :
    a.stream ++ u ≠ b.stream ++ v := by
  intro heq
  have hfields := congrArg readKind (fields_cut heq).1
  rw [readKind_fields, readKind_fields] at hfields
  exact h (Option.some.inj hfields)

end Record

/-- **The record format is uniquely decodable.**  For any left-to-right schema, two records
    following it are cut off a stream in only one way, so neither is a prefix of the other; every
    record the library hashes follows the one schema of `recordLayout`; and streams of records of
    different kinds, or of results of different outcomes, never agree, whatever follows them. -/
theorem record_format (P : Platform) :
    (∀ (S : Schema Field FieldKind) (fields fields' : List Field),
      Follows fieldCode S [] fields → Follows fieldCode S [] fields' →
      (∀ u v : Bytes, (IdentityWriter.new.writeAll fields).stream ++ u
          = (IdentityWriter.new.writeAll fields').stream ++ v → fields = fields' ∧ u = v) ∧
      ((IdentityWriter.new.writeAll fields).stream
          <+: (IdentityWriter.new.writeAll fields').stream → fields = fields')) ∧
    (∀ record : Record P, ∃ fields, record.writer = IdentityWriter.new.writeAll fields ∧
      Follows fieldCode recordLayout.schema [] fields ∧
      fields.head? = some (.text record.kind.domain)) ∧
    ∀ (a b : Record P) (u v : Bytes), (a.kind, a.outcome) ≠ (b.kind, b.outcome) →
      a.writer.stream ++ u ≠ b.writer.stream ++ v := by
  refine ⟨?_, ?_, ?_⟩
  · -- any schema: the kind of a field may depend on the fields before it
    intro S fields fields' hfields hfields'
    have hcut : ∀ u v : Bytes, (IdentityWriter.new.writeAll fields).stream ++ u
        = (IdentityWriter.new.writeAll fields').stream ++ v → fields = fields' ∧ u = v := by
      intro u v h
      rw [stream_new_writeAll, stream_new_writeAll] at h
      exact Follows.cut fieldCode hfields hfields' h
    refine ⟨hcut, ?_⟩
    rintro ⟨u, hu⟩
    exact (hcut u [] (by rw [hu, List.append_nil])).1
  · intro record
    have hfollows := (Layout.fits_iff_follows fieldCode recordLayout record.fields).mp record.fits
    have hdomain : record.fields.head? = some (.text record.kind.domain) := by
      cases record <;> rfl
    exact ⟨record.fields, record.writer_eq, hfollows, hdomain⟩
  · intro a b u v h
    exact Record.stream_ne h u v

end Pkgbuild

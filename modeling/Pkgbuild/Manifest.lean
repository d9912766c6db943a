/-
  Payload manifests and sealed artifacts (`model.cpp`).

  1. **Records** — `write_payload_entry`, `manifest_id` and `artifact_id`, call by call.
  2. **Sealing a manifest** — one pass over the entries with two tables, the paths seen so far and
     the regular entries seen so far by path; a hard link must find its anchor in the second.
  3. **What sealing means** — `sealEntries_ok_iff`: the pass comes through exactly when no path
     stands twice and every hard link has an EARLIER regular entry at its target, of the same mode,
     ownership and modification time.  The state after a prefix is a function of the prefix
     (`SealState.view`), so `foldlM_prefix_iff` turns the pass into a statement about all pairs of
     positions.
  4. **Artifacts** — `sealed_artifact::make`.

  Both classes have private constructors; their structures carry what their factory established.
-/
import Pkgbuild.Payload

namespace Pkgbuild

open Checked

/-! ## Records -/

/-- `write_payload_entry`: eight fields that every entry has, the time being two of them and its
    seconds converted to an unsigned number, and then the four optional groups, each behind its
    presence flag. -/
def writePayloadEntry (writer : IdentityWriter) (entry : PayloadEntry) : IdentityWriter :=
  let writer := writer.text entry.path.value
  let writer := writer.text entry.type.toText
  let writer := writer.number entry.mode.toUInt64
  let writer := writer.number entry.uid
  let writer := writer.number entry.gid
  let writer := writer.number entry.size
  let writer := writer.number entry.modificationTime.seconds.toUInt64
  let writer := writer.number entry.modificationTime.nanoseconds.toUInt64
  let writer := writer.boolean entry.symlinkTarget.isSome
  let writer := match entry.symlinkTarget with
    | some target => writer.text target
    | none => writer
  let writer := writer.boolean entry.hardlinkTarget.isSome
  let writer := match entry.hardlinkTarget with
    | some target => writer.text target.value
    | none => writer
  let writer := writer.boolean entry.device.isSome
  let writer := match entry.device with
    | some device => (writer.number device.major).number device.minor
    | none => writer
  let writer := writer.boolean entry.regularContent.isSome
  match entry.regularContent with
    | some content => writer.text content.text
    | none => writer

/-- What `manifest_id` writes. -/
def manifestRecord (entries : List PayloadEntry) : IdentityWriter :=
  let writer := IdentityWriter.new.text (literal "libpkgbuild/payload-manifest/1")
  let writer := writer.number (UInt64.ofNat entries.length)
  entries.foldl writePayloadEntry writer

/-- `manifest_id`: the digest of the manifest record. -/
def manifestId (sha256 : Sha256) (entries : List PayloadEntry) :
    Except Error PayloadManifestIdentity :=
  Identity.fromSha256 _ ((manifestRecord entries).finish sha256)

/-- What `artifact_id` writes. -/
def artifactRecord (encoding : ArtifactEncoding) (compression : ArtifactCompression)
    (byteCount : UInt64) (digest : Sha256Digest) : IdentityWriter :=
  let writer := IdentityWriter.new.text (literal "libpkgbuild/artifact/1")
  let writer := writer.text encoding.toText
  let writer := writer.text compression.toText
  let writer := writer.number byteCount
  writer.text digest.text

/-- `artifact_id`: the digest of the artifact record. -/
def artifactId (sha256 : Sha256) (encoding : ArtifactEncoding) (compression : ArtifactCompression)
    (byteCount : UInt64) (digest : Sha256Digest) : Except Error ArtifactIdentity :=
  Identity.fromSha256 _ ((artifactRecord encoding compression byteCount digest).finish sha256)

/-! ## Sealing a manifest -/

/-- The two tables of `seal`: `seen` and the regular entries by path. -/
structure SealState where
  seen : List PayloadPath
  regular : List (PayloadPath × PayloadEntry)

/-- `regular.emplace(path, &entry)`: an occupied key keeps its value. -/
def emplace (regular : List (PayloadPath × PayloadEntry)) (entry : PayloadEntry) :
    List (PayloadPath × PayloadEntry) :=
  if (regular.lookup entry.path).isSome then regular else regular ++ [(entry.path, entry)]

/-- The entries agree on what a shared inode has only once. -/
def SameInode (entry anchor : PayloadEntry) : Prop :=
  entry.mode = anchor.mode ∧ entry.uid = anchor.uid ∧ entry.gid = anchor.gid ∧
    entry.modificationTime = anchor.modificationTime

instance (entry anchor : PayloadEntry) : Decidable (SameInode entry anchor) :=
  inferInstanceAs (Decidable (_ ∧ _))

/-- The checks on a hard link against the regular entries before it. -/
def checkHardlink (regular : List (PayloadPath × PayloadEntry)) (entry : PayloadEntry) :
    Except Error Unit :=
  match entry.hardlinkTarget with
  | none => .error (invalidModel (ascii "hard-link entry lacks its regular payload anchor"))
  | some target => do
      refuse (entry.path = target) (invalidModel (ascii "hard-link entry cannot target itself"))
      match regular.lookup target with
      | none =>
          .error (invalidModel
            (ascii "hard-link target must name an earlier regular payload entry"))
      | some anchor =>
          refuse (¬ SameInode entry anchor)
            (invalidModel (ascii "hard-link metadata differs from its regular payload anchor"))

/-- One turn of the loop of `seal`. -/
def sealEntry (state : SealState) (entry : PayloadEntry) : Except Error SealState := do
  refuse (entry.path ∈ state.seen)
    (invalidModel (ascii "payload manifest contains a duplicate path: " ++ entry.path.value.bytes))
  let regular := if entry.type = .regular then emplace state.regular entry else state.regular
  if entry.type = .hardlink then checkHardlink regular entry
  return ⟨state.seen ++ [entry.path], regular⟩

/-- The loop of `seal`. -/
def sealEntries (entries : List PayloadEntry) : Except Error SealState :=
  entries.foldlM sealEntry ⟨[], []⟩

/-- `payload_manifest`: entries that came through the loop, and the digest of their record. -/
structure PayloadManifest (sha256 : Sha256) where
  entries : List PayloadEntry
  identity : PayloadManifestIdentity
  sealed : ∃ state, sealEntries entries = .ok state
  identity_eq : manifestId sha256 entries = .ok identity

/-- `payload_manifest::seal`. -/
def PayloadManifest.seal (sha256 : Sha256) (entries : List PayloadEntry) :
    Except Error (PayloadManifest sha256) := do
  let state ← attach (sealEntries entries)
  let identity ← attach (manifestId sha256 entries)
  return ⟨entries, identity.1, ⟨state.1, state.2⟩, identity.2⟩

/-- `operator==` of the entry vectors: as many entries, and equal ones in the same places. -/
def equalEntries (lhs rhs : List PayloadEntry) : Bool := lhs.isEqv rhs PayloadEntry.equal

/-- Compared position by position, vectors are equal exactly when they are the same vector. -/
theorem equalEntries_iff : ∀ {lhs rhs : List PayloadEntry}, equalEntries lhs rhs = true ↔ lhs = rhs
  | [], [] => by simp [equalEntries]
  | [], _ :: _ => by simp [equalEntries]
  | _ :: _, [] => by simp [equalEntries]
  | entry :: lhs, entry' :: rhs => by
      show (entry.equal entry' && equalEntries lhs rhs) = true ↔ _
      rw [Bool.and_eq_true, PayloadEntry.equal_iff, equalEntries_iff, List.cons.injEq]

/-- `operator==`. -/
def PayloadManifest.equal {sha256 : Sha256} (lhs rhs : PayloadManifest sha256) : Bool :=
  lhs.identity == rhs.identity && equalEntries lhs.entries rhs.entries

/-! ## What sealing means -/

/-- The tables after a prefix. -/
def SealState.view (before : List PayloadEntry) : SealState where
  seen := before.map PayloadEntry.path
  regular := (before.filter fun entry => entry.type = .regular).map fun entry => (entry.path, entry)

/-- What the loop asks of an entry, given the entries before it. -/
def GoodEntry (before : List PayloadEntry) (entry : PayloadEntry) : Prop :=
  entry.path ∉ before.map PayloadEntry.path ∧
    (entry.type = .hardlink → ∃ target anchor, entry.hardlinkTarget = some target ∧
      entry.path ≠ target ∧ (SealState.view before).regular.lookup target = some anchor ∧
      SameInode entry anchor)

/-- The table of the regular files seen so far finds, under a path, the first entry with it. -/
theorem lookup_map_path {entries : List PayloadEntry} {target : PayloadPath} :
    (entries.map fun entry => (entry.path, entry)).lookup target
      = entries.find? (fun entry => target == entry.path) := by
  induction entries with
  | nil => rfl
  | cons entry entries ih =>
    rw [List.map_cons, List.lookup_cons, List.find?_cons, ih]

/-- A fresh path goes to the end of the table. -/
theorem emplace_view {before : List PayloadEntry} {entry : PayloadEntry}
    (h : entry.path ∉ before.map PayloadEntry.path) :
    emplace (SealState.view before).regular entry
      = (SealState.view before).regular ++ [(entry.path, entry)] := by
  have hnone : (SealState.view before).regular.lookup entry.path = none := by
    rw [SealState.view, lookup_map_path, List.find?_eq_none]
    intro other hother
    simp only [beq_iff_eq]
    intro heq
    exact h (List.mem_map.mpr ⟨other, List.mem_of_mem_filter hother, heq.symm⟩)
  rw [emplace, hnone]
  rfl

/-- A hard link passes exactly when a regular file it agrees with stands in the table under its
    target. -/
theorem checkHardlink_ok_iff {regular : List (PayloadPath × PayloadEntry)} {entry : PayloadEntry}
    {u : Unit} :
    checkHardlink regular entry = .ok u ↔
      ∃ target anchor, entry.hardlinkTarget = some target ∧ entry.path ≠ target ∧
        regular.lookup target = some anchor ∧ SameInode entry anchor := by
  unfold checkHardlink
  cases htarget : entry.hardlinkTarget with
  | none => simp
  | some target =>
    cases hanchor : regular.lookup target with
    | none => simp [bind_ok_iff, hanchor]
    | some anchor => simp [bind_ok_iff, hanchor]

/-- A turn on a fresh path extends the tables as the source does. -/
theorem view_concat {before : List PayloadEntry} {entry : PayloadEntry}
    (hfresh : entry.path ∉ before.map PayloadEntry.path) :
    SealState.view (before ++ [entry]) = ⟨(SealState.view before).seen ++ [entry.path],
      if entry.type = .regular then emplace (SealState.view before).regular entry
      else (SealState.view before).regular⟩ := by
  by_cases htype : entry.type = .regular
  · rw [if_pos htype, emplace_view hfresh]
    simp [SealState.view, htype]
  · rw [if_neg htype]
    simp [SealState.view, htype]

/-- **Step.**  A turn comes through exactly on a good entry, and leaves the tables of the longer
    prefix. -/
theorem sealEntry_ok_iff (before : List PayloadEntry) (entry : PayloadEntry) (state : SealState) :
    sealEntry (SealState.view before) entry = .ok state ↔
      GoodEntry before entry ∧ state = SealState.view (before ++ [entry]) := by
  unfold sealEntry
  rw [bind_ok_iff]
  simp only [refuse_ok_iff]
  by_cases hlink : entry.type = .hardlink
  · -- a link is checked against the table, and does not go into it
    have hregular : entry.type ≠ .regular := by rw [hlink]; decide
    simp only [hlink, if_true, bind_ok_iff, pure_ok_iff]
    constructor
    · rintro ⟨_, hfresh, _, hcheck, rfl⟩
      refine ⟨⟨hfresh, fun _ => checkHardlink_ok_iff.mp hcheck⟩, ?_⟩
      rw [view_concat hfresh, if_neg hregular]
      rfl
    · rintro ⟨⟨hfresh, hgood⟩, rfl⟩
      refine ⟨(), hfresh, (), checkHardlink_ok_iff.mpr (hgood hlink), ?_⟩
      rw [view_concat hfresh, if_neg hregular]
      rfl
  · simp only [hlink, if_false, pure_ok_iff]
    constructor
    · rintro ⟨_, hfresh, rfl⟩
      exact ⟨⟨hfresh, fun h => absurd h hlink⟩, (view_concat hfresh).symm⟩
    · rintro ⟨⟨hfresh, -⟩, rfl⟩
      exact ⟨(), hfresh, (view_concat hfresh).symm⟩

/-- **Run.**  The loop comes through exactly when every entry is good against the entries before
    it. -/
theorem sealEntries_ok_iff {entries : List PayloadEntry} :
    (∃ state, sealEntries entries = .ok state) ↔
      ∀ before entry after, entries = before ++ entry :: after → GoodEntry before entry := by
  have hrun := foldlM_prefix_iff sealEntry_ok_iff entries []
  constructor
  · rintro ⟨state, h⟩ before entry after hsplit
    exact ((hrun state).mp h).1 before entry after hsplit
  · intro h
    exact ⟨_, (hrun _).mpr ⟨h, rfl⟩⟩

/-! ## Artifacts -/

/-- `sealed_artifact`. -/
structure SealedArtifact (sha256 : Sha256) where
  encoding : ArtifactEncoding
  compression : ArtifactCompression
  byteCount : UInt64
  completeDigest : Sha256Digest
  identity : ArtifactIdentity
  encoding_eq : encoding = .packageTar
  supported : compression.Supported
  identity_eq : artifactId sha256 encoding compression byteCount completeDigest = .ok identity

/-- `sealed_artifact::make`. -/
def SealedArtifact.make (sha256 : Sha256) (encoding : ArtifactEncoding)
    (compression : ArtifactCompression) (byteCount : UInt64) (completeDigest : Sha256Digest) :
    Except Error (SealedArtifact sha256) := do
  let tar ← attach (refuse (encoding ≠ .packageTar)
    (invalidModel (ascii "unsupported artifact encoding")))
  let known ← attach (refuse (¬ compression.Supported)
    (invalidModel (ascii "unsupported artifact compression")))
  let identity ← attach (artifactId sha256 encoding compression byteCount completeDigest)
  return ⟨encoding, compression, byteCount, completeDigest, identity.1,
    not_not.mp (refuse_ok_iff.mp tar.2), not_not.mp (refuse_ok_iff.mp known.2), identity.2⟩

end Pkgbuild

/-
  What a payload manifest means: the file tree its entries make.

  Read in vector order, a hard link is one more name for a file that is there and every other entry
  a new file (`PayloadEntry.instruction`).  Nothing of the checks of `payload_manifest::seal` is in
  this reading: a file system refuses a name that is taken and a link to nothing, and that is all.
  The tree is a FLAT table of names: a path is a name as a whole, no directory has to be there
  before what is in it, and nothing is asked of the parents of a path (nor does `seal` look at
  them).

  1. **Acceptance** — `seal` accepts a vector exactly when it extracts and the tree then shows at
     the path of EVERY entry what the entry says (`seal_iff_extracts`): the metadata, and for a hard
     link a regular file created under the target.
  2. **Contents** — what else the tree shows: its names are the paths, names share a file exactly
     when they have one root, a file has as many names as links to it and one (`sealed_tree`).

  Which manifests make one tree is the subject of `PayloadOrder`.
-/
import Pkgbuild.Base.FileTree
import Pkgbuild.ManifestAnchors

namespace Pkgbuild

open FileTree

/-! ## Entries as instructions -/

/-- What an entry says of the file it makes. -/
structure PayloadAttributes where
  type : PayloadEntryType
  mode : UInt32
  uid : UInt64
  gid : UInt64
  size : UInt64
  modificationTime : PayloadTime
  symlinkTarget : Option Text
  device : Option DeviceNumber
  regularContent : Option Sha256Digest
deriving DecidableEq

namespace PayloadEntry

variable {entry other : PayloadEntry} {path target : PayloadPath} {made : PayloadAttributes}

/-- What the members say of the file: all but its path and whether it is a link. -/
def attributes (entry : PayloadEntry) : PayloadAttributes :=
  ⟨entry.type, entry.mode, entry.uid, entry.gid, entry.size, entry.modificationTime,
    entry.symlinkTarget, entry.device, entry.regularContent⟩

/-- A hard link names a file, every other entry makes one. -/
def instruction (entry : PayloadEntry) : Instruction PayloadPath PayloadAttributes :=
  match entry.hardlinkTarget with
  | some target => .link entry.path target
  | none => .create entry.path entry.attributes

/-- The path under which the entry's file is created. -/
def root (entry : PayloadEntry) : PayloadPath := entry.hardlinkTarget.getD entry.path

@[simp] theorem instruction_name (entry : PayloadEntry) : entry.instruction.name = entry.path := by
  unfold instruction
  cases entry.hardlinkTarget <;> rfl

/-- An entry with a target, and no other, is an instruction to link. -/
theorem instruction_eq_link_iff :
    entry.instruction = .link path target ↔
      entry.path = path ∧ entry.hardlinkTarget = some target := by
  unfold instruction
  cases entry.hardlinkTarget <;> simp

/-- An entry without a target is an instruction to create what it says. -/
theorem instruction_eq_create_iff :
    entry.instruction = .create path made ↔
      entry.path = path ∧ entry.attributes = made ∧ entry.hardlinkTarget = none := by
  unfold instruction
  cases entry.hardlinkTarget <;> simp

theorem root_of_target (h : entry.hardlinkTarget = some target) : entry.root = target := by
  rw [root, h]
  rfl

theorem root_of_none (h : entry.hardlinkTarget = none) : entry.root = entry.path := by
  rw [root, h]
  rfl

/-- Path, target and attributes are all there is to an entry. -/
theorem ext (hpath : entry.path = other.path)
    (htarget : entry.hardlinkTarget = other.hardlinkTarget)
    (hattributes : entry.attributes = other.attributes) : entry = other := by
  cases entry
  cases other
  simp only [attributes, PayloadAttributes.mk.injEq] at hattributes
  simp_all

/-- Hard links that agree on what a shared inode has only once have the same attributes. -/
theorem attributes_of_hardlink (h : entry.type = .hardlink) (h' : other.type = .hardlink)
    (hsame : SameInode entry other) : entry.attributes = other.attributes := by
  obtain ⟨hmode, huid, hgid, htime⟩ := hsame
  have hshape := entry.shape
  have hshape' := other.shape
  rw [h] at hshape
  rw [h'] at hshape'
  obtain ⟨hsize, hsymlink, -, hdevice, hcontent⟩ := hshape
  obtain ⟨hsize', hsymlink', -, hdevice', hcontent'⟩ := hshape'
  simp only [attributes, h, h', hmode, huid, hgid, htime, hsize, hsize', hsymlink, hsymlink',
    hdevice, hdevice', hcontent, hcontent']

end PayloadEntry

open PayloadEntry

/-- The entries of a vector, made one after the other. -/
def extractEntries (entries : List PayloadEntry) : Option (Tree PayloadPath PayloadAttributes) :=
  Tree.extract (entries.map instruction)

variable {entries : List PayloadEntry} {entry anchor : PayloadEntry} {sha256 : Sha256}
  {tree : Tree PayloadPath PayloadAttributes}

/-- The tree shows at the entry's path what the entry says: its mode, ownership and time, and for a
    hard link a regular file created under its target. -/
def Realised (tree : Tree PayloadPath PayloadAttributes) (entry : PayloadEntry) : Prop :=
  ∃ made, tree.stat entry.path = some made ∧
    entry.mode = made.attributes.mode ∧ entry.uid = made.attributes.uid ∧
    entry.gid = made.attributes.gid ∧ entry.modificationTime = made.attributes.modificationTime ∧
    (entry.type = .hardlink →
      entry.hardlinkTarget = some made.birth ∧ made.attributes.type = .regular)

/-! ## Acceptance -/

/-- A position of the mapped vector is one of the vector. -/
theorem map_instruction_eq_append {before after : List (Instruction PayloadPath PayloadAttributes)}
    {path target : PayloadPath}
    (h : entries.map instruction = before ++ .link path target :: after) :
    ∃ before' entry after', entries = before' ++ entry :: after' ∧
      before'.map instruction = before ∧ entry.hardlinkTarget = some target := by
  obtain ⟨before', rest, rfl, hbefore, hrest⟩ := List.map_eq_append_iff.mp h
  obtain ⟨entry, after', rfl, hentry, -⟩ := List.map_eq_cons_iff.mp hrest
  exact ⟨before', entry, after', rfl, hbefore, (instruction_eq_link_iff.mp hentry).2⟩

/-- The names the instructions make are the paths of the vector. -/
theorem map_name_instruction (entries : List PayloadEntry) :
    (entries.map instruction).map Instruction.name = entries.map PayloadEntry.path := by
  rw [List.map_map]
  exact List.map_congr_left fun entry _ => instruction_name entry

/-- No hard link comes before its target. -/
def LinksFollow (entries : List PayloadEntry) : Prop :=
  ∀ before entry after target, entries = before ++ entry :: after →
    entry.hardlinkTarget = some target → target ∈ before.map PayloadEntry.path

/-- A vector extracts exactly when no path comes twice and no link comes before its target. -/
theorem exists_extractEntries_iff : (∃ tree, extractEntries entries = some tree) ↔
    (entries.map PayloadEntry.path).Nodup ∧ LinksFollow entries := by
  rw [extractEntries, Tree.exists_extract_iff, map_name_instruction]
  refine and_congr_right fun _ => ?_
  constructor
  · rintro h before entry after target rfl htarget
    have hlink : entry.instruction = .link entry.path target :=
      instruction_eq_link_iff.mpr ⟨rfl, htarget⟩
    have hmem := h (before.map instruction) entry.path target (after.map instruction)
      (by rw [List.map_append, List.map_cons, hlink])
    rwa [map_name_instruction] at hmem
  · intro h before path target after hsplit
    obtain ⟨before', entry, after', rfl, rfl, htarget⟩ := map_instruction_eq_append hsplit
    rw [map_name_instruction]
    exact h before' entry after' target rfl htarget

/-- An entry that is not a hard link stands in the tree as it is. -/
theorem stat_of_entry (h : extractEntries entries = some tree) (hentry : entry ∈ entries)
    (hnone : entry.hardlinkTarget = none) :
    tree.stat entry.path = some ⟨entry.path, entry.attributes⟩ := by
  have hcreate : entry.instruction = .create entry.path entry.attributes :=
    instruction_eq_create_iff.mpr ⟨rfl, rfl, hnone⟩
  obtain ⟨made, hstat, hmade⟩ := Tree.holds_of_extract h _ (List.mem_map_of_mem hentry)
  rw [instruction_name] at hstat
  rw [hstat, ← hmade, hcreate]
  rfl

/-- A hard link stands in the tree as its target does. -/
theorem stat_of_link (h : extractEntries entries = some tree) (hentry : entry ∈ entries)
    {target : PayloadPath} (htarget : entry.hardlinkTarget = some target) :
    tree.stat entry.path = tree.stat target := by
  have hlink : entry.instruction = .link entry.path target :=
    instruction_eq_link_iff.mpr ⟨rfl, htarget⟩
  obtain ⟨made, hstat, hmade⟩ := Tree.holds_of_extract h _ (List.mem_map_of_mem hentry)
  rw [instruction_name] at hstat
  rw [hlink] at hmade
  exact hstat.trans hmade.symm

/-- A hard link with an anchor stands in the tree as its anchor. -/
theorem stat_of_anchor (h : extractEntries entries = some tree) (hentry : entry ∈ entries)
    (hanchor : anchor ∈ entries) (htype : anchor.type = .regular)
    (htarget : entry.hardlinkTarget = some anchor.path) :
    tree.stat entry.path = some ⟨anchor.path, anchor.attributes⟩ := by
  have hnone : anchor.hardlinkTarget = none := by
    rw [hardlinkTarget_eq_none_iff, htype]
    decide
  rw [stat_of_link h hentry htarget, stat_of_entry h hanchor hnone]

/-- The entry a file was created by. -/
theorem exists_creator (h : extractEntries entries = some tree) {path : PayloadPath}
    {made : File PayloadPath PayloadAttributes} (hstat : tree.stat path = some made) :
    ∃ creator ∈ entries, creator.path = made.birth ∧ creator.attributes = made.attributes ∧
      creator.hardlinkTarget = none := by
  obtain ⟨creator, hcreator, hinstruction⟩ := List.mem_map.mp (Tree.created_of_extract h hstat)
  exact ⟨creator, hcreator, instruction_eq_create_iff.mp hinstruction⟩

/-- Entries of one path are one entry. -/
theorem eq_of_path (hnodup : (entries.map PayloadEntry.path).Nodup) {other : PayloadEntry}
    (hentry : entry ∈ entries) (hother : other ∈ entries) (hpath : entry.path = other.path) :
    entry = other :=
  List.inj_on_of_nodup_map hnodup hentry hother hpath

/-- The loop of `seal` comes through exactly when the vector extracts and the tree shows what it
    says. -/
theorem sealEntries_iff_extracts : (∃ state, sealEntries entries = .ok state) ↔
    ∃ tree, extractEntries entries = some tree ∧ ∀ entry ∈ entries, Realised tree entry := by
  rw [sealEntries_iff_splits]
  constructor
  · rintro ⟨hnodup, hanchored⟩
    -- a link's anchor stands before it, so the vector extracts
    have hfollow : LinksFollow entries := by
      intro before entry after target hsplit htarget
      obtain ⟨anchor, hanchor, -, htarget', -⟩ :=
        hanchored before entry after hsplit (type_of_hardlinkTarget htarget)
      obtain rfl := Option.some.inj (htarget.symm.trans htarget')
      exact List.mem_map_of_mem hanchor
    obtain ⟨tree, htree⟩ := exists_extractEntries_iff.mpr ⟨hnodup, hfollow⟩
    refine ⟨tree, htree, fun entry hentry => ?_⟩
    -- a link shows its anchor, everything else itself
    by_cases hlink : entry.type = .hardlink
    · obtain ⟨before, after, hsplit⟩ := List.append_of_mem hentry
      obtain ⟨anchor, hanchor, htype, htarget, hmode, huid, hgid, htime⟩ :=
        hanchored before entry after hsplit hlink
      have hmem : anchor ∈ entries := hsplit ▸ List.mem_append_left _ hanchor
      exact ⟨_, stat_of_anchor htree hentry hmem htype htarget, hmode, huid, hgid, htime,
        fun _ => ⟨htarget, htype⟩⟩
    · have hnone := hardlinkTarget_eq_none_iff.mpr hlink
      exact ⟨_, stat_of_entry htree hentry hnone, rfl, rfl, rfl, rfl, fun h => absurd h hlink⟩
  · rintro ⟨tree, htree, hrealised⟩
    obtain ⟨hnodup, hfollow⟩ := exists_extractEntries_iff.mp ⟨tree, htree⟩
    refine ⟨hnodup, fun before entry after hsplit hlink => ?_⟩
    have hentry : entry ∈ entries := by simp [hsplit]
    obtain ⟨made, hstat, hmode, huid, hgid, htime, hanchor⟩ := hrealised entry hentry
    obtain ⟨htarget, htype⟩ := hanchor hlink
    obtain ⟨anchor, hmem, hpath⟩ :=
      List.mem_map.mp (hfollow before entry after made.birth hsplit htarget)
    -- the entry that stands at the target is the one that created the file
    obtain ⟨creator, hcreator, hbirth, hattributes, -⟩ := exists_creator htree hstat
    obtain rfl := eq_of_path hnodup hcreator (hsplit ▸ List.mem_append_left _ hmem)
      (hbirth.trans hpath.symm)
    refine ⟨creator, hmem, ?_, hpath ▸ htarget, ?_⟩
    · exact (congrArg PayloadAttributes.type hattributes).trans htype
    · rw [← hattributes] at hmode huid hgid htime
      exact ⟨hmode, huid, hgid, htime⟩

/-- **Acceptance.**  `seal` accepts a vector exactly when a file system can make its entries in
    order, and the tree then shows what every one of them says. -/
theorem seal_iff_extracts (sha256 : Sha256) (entries : List PayloadEntry) :
    (∃ manifest, PayloadManifest.seal sha256 entries = .ok manifest) ↔
      ∃ tree, extractEntries entries = some tree ∧ ∀ entry ∈ entries, Realised tree entry :=
  exists_seal_iff.trans sealEntries_iff_extracts

/-! ## Contents -/

/-- A vector with the tree that shows what its entries say. -/
structure Extracted (entries : List PayloadEntry) (tree : Tree PayloadPath PayloadAttributes) :
    Prop where
  extracts : extractEntries entries = some tree
  realised : ∀ entry ∈ entries, Realised tree entry

/-- The entries of a manifest were sealed, so there is a tree of them. -/
theorem exists_extracted (manifest : PayloadManifest sha256) :
    ∃ tree, Extracted manifest.entries tree := by
  obtain ⟨tree, hextracts, hrealised⟩ := sealEntries_iff_extracts.mp manifest.sealed
  exact ⟨tree, hextracts, hrealised⟩

namespace Extracted

variable {other : PayloadEntry} (h : Extracted entries tree)

include h

/-- One entry a path: a file system takes no name twice. -/
theorem nodup : (entries.map PayloadEntry.path).Nodup :=
  (exists_extractEntries_iff.mp ⟨tree, h.extracts⟩).1

/-- The tree has the paths of the vector for names, and no others. -/
theorem stat_ne_none_iff {path : PayloadPath} :
    tree.stat path ≠ none ↔ path ∈ entries.map PayloadEntry.path := by
  rw [← map_name_instruction]
  exact Tree.stat_ne_none_iff h.extracts

/-- **Anchors.**  At the path of an entry the tree shows the entry at its root, which made the file
    and agrees with it on mode, ownership and time. -/
theorem exists_anchor (hentry : entry ∈ entries) :
    ∃ anchor ∈ entries, anchor.path = entry.root ∧ anchor.hardlinkTarget = none ∧
      SameInode entry anchor ∧ tree.stat entry.path = some ⟨anchor.path, anchor.attributes⟩ := by
  cases htarget : entry.hardlinkTarget with
  | none =>
    exact ⟨entry, hentry, (root_of_none htarget).symm, htarget, ⟨rfl, rfl, rfl, rfl⟩,
      stat_of_entry h.extracts hentry htarget⟩
  | some target =>
    obtain ⟨made, hstat, hmode, huid, hgid, htime, hlink⟩ := h.realised entry hentry
    obtain ⟨htarget', -⟩ := hlink (type_of_hardlinkTarget htarget)
    obtain ⟨anchor, hanchor, hpath, hattributes, hnone⟩ := exists_creator h.extracts hstat
    rw [← hattributes] at hmode huid hgid htime
    refine ⟨anchor, hanchor, ?_, hnone, ⟨hmode, huid, hgid, htime⟩, ?_⟩
    · rw [root_of_target htarget', hpath]
    · rw [hstat, hpath, hattributes]

/-- No entry is linked to itself. -/
theorem root_eq_path_iff (hentry : entry ∈ entries) :
    entry.root = entry.path ↔ entry.hardlinkTarget = none := by
  constructor
  · intro hroot
    obtain ⟨anchor, hanchor, hpath, hnone, -⟩ := h.exists_anchor hentry
    rw [eq_of_path h.nodup hentry hanchor (hroot.symm.trans hpath.symm)]
    exact hnone
  · exact root_of_none

/-- Names lead to one file exactly when their entries have one root. -/
theorem file_eq_iff (hentry : entry ∈ entries) (hother : other ∈ entries) :
    tree.file entry.path = tree.file other.path ↔ entry.root = other.root := by
  obtain ⟨anchor, hanchor, hroot, -, -, hstat⟩ := h.exists_anchor hentry
  obtain ⟨anchor', hanchor', hroot', -, -, hstat'⟩ := h.exists_anchor hother
  rw [Tree.file_eq_iff hstat, hstat', ← hroot, ← hroot', Option.some.injEq, File.mk.injEq]
  constructor
  · exact fun heq => heq.1.symm
  · intro heq
    obtain rfl := eq_of_path h.nodup hanchor hanchor' heq
    exact ⟨rfl, rfl⟩

/-- Hard links make no files; every other entry makes one. -/
theorem length_files : tree.files.length = entries.countP fun entry => entry.type ≠ .hardlink := by
  rw [Tree.files_of_extract h.extracts, List.length_filterMap_eq_countP, List.countP_map]
  refine List.countP_congr fun entry _ => ?_
  rw [decide_eq_true_iff, ← hardlinkTarget_eq_none_iff, Function.comp_apply, instruction]
  cases entry.hardlinkTarget <;> simp [Instruction.created]

/-- **Link counts.**  A file has the name it was made under and one for every hard link to it. -/
theorem countP_names (hentry : entry ∈ entries) :
    (entries.countP fun other => tree.file other.path = tree.file entry.path)
      = (entries.countP fun other => other.hardlinkTarget = some entry.root) + 1 := by
  obtain ⟨anchor, hanchor, hroot, hnone, -⟩ := h.exists_anchor hentry
  have hcount : entries.count anchor = 1 :=
    List.count_eq_one_of_mem h.nodup.of_map hanchor
  rw [List.countP_eq_countP_filter_add _ _
    (fun other : PayloadEntry => decide (other.hardlinkTarget = some entry.root)),
    List.countP_filter, List.countP_filter, ← hcount, List.count]
  -- those linked to the root, and the one entry that stands at it
  congr 1
  · refine List.countP_congr fun other hother => ?_
    rw [Bool.and_eq_true, decide_eq_true_iff, decide_eq_true_iff, h.file_eq_iff hother hentry]
    exact ⟨And.right, fun htarget => ⟨root_of_target htarget, htarget⟩⟩
  · refine List.countP_congr fun other hother => ?_
    rw [Bool.and_eq_true, Bool.not_eq_true', decide_eq_true_iff, decide_eq_false_iff_not,
      beq_iff_eq, h.file_eq_iff hother hentry]
    constructor
    · rintro ⟨hsame, hnotlink⟩
      -- what has the root and is no link to it stands at the root
      have hown : other.hardlinkTarget = none := by
        by_contra hne
        obtain ⟨target, htarget⟩ := Option.ne_none_iff_exists'.mp hne
        exact hnotlink (htarget.trans (congrArg some ((root_of_target htarget).symm.trans hsame)))
      exact eq_of_path h.nodup hother hanchor
        ((root_of_none hown).symm.trans (hsame.trans hroot.symm))
    · rintro rfl
      refine ⟨(root_of_none hnone).trans hroot, ?_⟩
      rw [hnone]
      exact Option.some_ne_none _ ∘ Eq.symm

end Extracted

/-- **Contents.**  The entries of a manifest make a tree.  Its names are their paths; a path shows
    the attributes of the entry at its root, which is not a hard link and agrees with the entry on
    mode, ownership and time; two paths lead to one file exactly when their entries have one root;
    there is a file for every entry but the hard links, and it has one name more than links to
    it. -/
theorem sealed_tree (sha256 : Sha256) (manifest : PayloadManifest sha256) :
    ∃ tree, extractEntries manifest.entries = some tree ∧
      (∀ path, tree.stat path ≠ none ↔ path ∈ manifest.entries.map PayloadEntry.path) ∧
      tree.files.length = (manifest.entries.countP fun entry => entry.type ≠ .hardlink) ∧
      ∀ entry ∈ manifest.entries,
        (∃ anchor ∈ manifest.entries, anchor.path = entry.root ∧ anchor.type ≠ .hardlink ∧
          SameInode entry anchor ∧
          tree.stat entry.path = some ⟨anchor.path, anchor.attributes⟩) ∧
        (∀ other ∈ manifest.entries,
          tree.file entry.path = tree.file other.path ↔ entry.root = other.root) ∧
        (manifest.entries.countP fun other => tree.file other.path = tree.file entry.path)
          = (manifest.entries.countP fun other => other.hardlinkTarget = some entry.root) + 1 := by
  obtain ⟨tree, h⟩ := exists_extracted manifest
  refine ⟨tree, h.extracts, fun path => h.stat_ne_none_iff, h.length_files, fun entry hentry => ?_⟩
  obtain ⟨anchor, hanchor, hroot, hnone, hsame, hstat⟩ := h.exists_anchor hentry
  refine ⟨⟨anchor, hanchor, hroot, ?_, hsame, hstat⟩, ?_, h.countP_names hentry⟩
  · exact hardlinkTarget_eq_none_iff.mp hnone
  · intro other hother
    exact h.file_eq_iff hentry hother

end Pkgbuild

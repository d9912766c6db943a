/-
  Which manifests make the same file tree, and in which orders their entries seal.

  A file system keeps what a file holds and which names lead to it, not the name it was created
  under.  So a manifest has a freedom that its tree does not show: of the names of a file, one
  carries the entry that makes it and the others are hard links to that one, and it is all the same
  which.  `a` regular and `b` a link to `a`, or `b` regular and `a` a link to `b`: one tree.

  1. **Re-anchoring** — `reanchor`, an entry of the vector in which the files are made under other
     names of theirs; what the choice of the names must keep (`Anchoring`).
  2. **Acceptance** — a re-anchored vector seals, in every order that keeps links behind their
     targets (`sealEntries_reanchored`).  One such order is that with the links last.
  3. **Order** — the trees of two manifests are alike exactly when the entries of the one, in some
     order, are the re-anchored entries of the other.  Nothing was re-anchored exactly when the
     trees also agree on the name each file was created under (`sealed_order`).
-/
import Pkgbuild.PayloadTree

namespace Pkgbuild

open Correspondence FileTree PayloadEntry

/-! ## Re-anchoring -/

namespace PayloadEntry

/-- The entry at another path. -/
def moved (entry : PayloadEntry) (path : PayloadPath) : PayloadEntry := { entry with path }

/-- What a hard link has beside its target. -/
theorem shape_hardlink (target : PayloadPath) :
    EntryShape 0 none (some target) none none .hardlink :=
  ⟨rfl, rfl, rfl, rfl, rfl⟩

/-- A hard link where the entry is, with its mode, ownership and time. -/
def linked (entry : PayloadEntry) (target : PayloadPath) : PayloadEntry where
  path := entry.path
  type := .hardlink
  mode := entry.mode
  uid := entry.uid
  gid := entry.gid
  size := 0
  modificationTime := entry.modificationTime
  symlinkTarget := none
  hardlinkTarget := some target
  device := none
  regularContent := none
  mode_le := entry.mode_le
  nanoseconds_lt := entry.nanoseconds_lt
  shape := shape_hardlink target

end PayloadEntry

/-- The entry of the vector at a path. -/
def entryAt (entries : List PayloadEntry) (path : PayloadPath) : Option PayloadEntry :=
  entries.find? fun entry => path == entry.path

/-- The entry after the file of every root was given to the name that `anchors` chooses for it:
    there the root's own entry goes, and elsewhere is a link to it. -/
def reanchor (entries : List PayloadEntry) (anchors : PayloadPath → PayloadPath)
    (entry : PayloadEntry) : PayloadEntry :=
  if entry.path = anchors entry.root then
    ((entryAt entries entry.root).getD entry).moved entry.path
  else
    entry.linked (anchors entry.root)

/-- What is chosen for a root is the path of an entry with this root. -/
def Anchoring (entries : List PayloadEntry) (anchors : PayloadPath → PayloadPath) : Prop :=
  ∀ entry ∈ entries, ∃ chosen ∈ entries, chosen.path = anchors entry.root ∧
    chosen.root = entry.root

/-- The root of the vector's entry at a path. -/
def rootAt (entries : List PayloadEntry) (path : PayloadPath) : PayloadPath :=
  ((entryAt entries path).map PayloadEntry.root).getD path

section Reanchoring

variable {entries entries' : List PayloadEntry} {entry other anchor : PayloadEntry}
  {anchors : PayloadPath → PayloadPath} {tree tree' : Tree PayloadPath PayloadAttributes}

/-- With distinct paths, the entry found at a path is the entry that has it. -/
theorem entryAt_eq_some_iff (hnodup : (entries.map PayloadEntry.path).Nodup) {path : PayloadPath} :
    entryAt entries path = some entry ↔ entry ∈ entries ∧ entry.path = path :=
  find?_key_iff hnodup

/-- At the path of an entry its root is found. -/
theorem rootAt_of_mem (hnodup : (entries.map PayloadEntry.path).Nodup) (hentry : entry ∈ entries) :
    rootAt entries entry.path = entry.root := by
  rw [rootAt, (entryAt_eq_some_iff hnodup).mpr ⟨hentry, rfl⟩]
  rfl

@[simp] theorem reanchor_path : (reanchor entries anchors entry).path = entry.path := by
  unfold reanchor
  split <;> rfl

/-- Where the file goes, its entry goes. -/
theorem reanchor_of_chosen (hnodup : (entries.map PayloadEntry.path).Nodup)
    (hanchor : anchor ∈ entries) (hroot : anchor.path = entry.root)
    (hchosen : entry.path = anchors entry.root) :
    reanchor entries anchors entry = anchor.moved entry.path := by
  rw [reanchor, if_pos hchosen, (entryAt_eq_some_iff hnodup).mpr ⟨hanchor, hroot⟩]
  rfl

/-- Everywhere else, a link to it. -/
theorem reanchor_of_not_chosen (hchosen : entry.path ≠ anchors entry.root) :
    reanchor entries anchors entry = entry.linked (anchors entry.root) :=
  if_neg hchosen

/-- The paths of the vector stay, in their order. -/
theorem map_path_reanchor (entries : List PayloadEntry) (anchors : PayloadPath → PayloadPath) :
    (entries.map (reanchor entries anchors)).map PayloadEntry.path
      = entries.map PayloadEntry.path := by
  rw [List.map_map]
  exact List.map_congr_left fun entry _ => reanchor_path

namespace Extracted

variable (h : Extracted entries tree)

include h

/-- The new root is the one that was chosen. -/
theorem root_reanchor (hentry : entry ∈ entries) :
    (reanchor entries anchors entry).root = anchors entry.root := by
  by_cases hchosen : entry.path = anchors entry.root
  · obtain ⟨anchor, hanchor, hroot, hnone, -⟩ := h.exists_anchor hentry
    rw [reanchor_of_chosen h.nodup hanchor hroot hchosen, ← hchosen]
    exact root_of_none hnone
  · rw [reanchor_of_not_chosen hchosen]
    exact root_of_target rfl

/-- Choosing each file's own root changes nothing. -/
theorem reanchor_id (hentry : entry ∈ entries) : reanchor entries id entry = entry := by
  obtain ⟨anchor, hanchor, hroot, hnone, hsame, -⟩ := h.exists_anchor hentry
  by_cases hchosen : entry.path = entry.root
  · obtain rfl := eq_of_path h.nodup hentry hanchor (hchosen.trans hroot.symm)
    exact reanchor_of_chosen h.nodup hentry hroot hchosen
  · rw [reanchor_of_not_chosen hchosen]
    have hlink : entry.hardlinkTarget = some entry.root := by
      obtain ⟨target, htarget⟩ := Option.ne_none_iff_exists'.mp
        fun hown => hchosen (root_of_none hown).symm
      rw [htarget, root_of_target htarget]
    exact PayloadEntry.ext rfl hlink.symm
      (attributes_of_hardlink rfl (type_of_hardlinkTarget hlink) ⟨rfl, rfl, rfl, rfl⟩)

theorem map_reanchor_id : entries.map (reanchor entries id) = entries := by
  rw [List.map_congr_left fun entry hentry => h.reanchor_id hentry, List.map_id']

/-- The files can stay where they are. -/
theorem anchoring_id : Anchoring entries id := by
  intro entry hentry
  obtain ⟨anchor, hanchor, hpath, hnone, -⟩ := h.exists_anchor hentry
  exact ⟨anchor, hanchor, hpath, (root_of_none hnone).trans hpath⟩

/-- Different roots are given different names. -/
theorem anchors_inj (hanchors : Anchoring entries anchors) (hentry : entry ∈ entries)
    (hother : other ∈ entries) :
    anchors entry.root = anchors other.root ↔ entry.root = other.root := by
  constructor
  · intro heq
    obtain ⟨chosen, hchosen, hpath, hroot⟩ := hanchors entry hentry
    obtain ⟨chosen', hchosen', hpath', hroot'⟩ := hanchors other hother
    obtain rfl := eq_of_path h.nodup hchosen hchosen' (hpath.trans (heq.trans hpath'.symm))
    exact hroot.symm.trans hroot'
  · exact congrArg anchors

/-- What a link leads to is a regular file. -/
theorem type_of_anchor (hentry : entry ∈ entries) (hlink : entry.type = .hardlink)
    (hanchor : anchor ∈ entries) (hroot : anchor.path = entry.root) : anchor.type = .regular := by
  obtain ⟨made, hstat, -, -, -, -, hmade⟩ := h.realised entry hentry
  obtain ⟨found, hfound, hroot', -, -, hstat'⟩ := h.exists_anchor hentry
  obtain rfl := eq_of_path h.nodup hanchor hfound (hroot.trans hroot'.symm)
  obtain rfl := Option.some.inj (hstat'.symm.trans hstat)
  exact (hmade hlink).2

end Extracted

end Reanchoring

/-! ## Acceptance -/

/-- The entries with the hard links behind the others. -/
def linksLast (entries : List PayloadEntry) : List PayloadEntry :=
  (entries.filter fun entry => entry.type ≠ .hardlink) ++
    entries.filter fun entry => entry.type = .hardlink

/-- Nothing is lost by moving the links behind the others. -/
theorem linksLast_perm (entries : List PayloadEntry) : (linksLast entries).Perm entries := by
  have hsplit := List.filter_append_perm (fun entry : PayloadEntry => entry.type ≠ .hardlink)
    entries
  refine List.Perm.trans (List.Perm.of_eq ?_) hsplit
  simp [linksLast]

/-- With the links behind everything else, each comes after its target if that is no link. -/
theorem linksLast_follow {entries : List PayloadEntry}
    (htargets : ∀ entry ∈ entries, ∀ target ∈ entry.hardlinkTarget,
      ∃ anchor ∈ entries, anchor.path = target ∧ anchor.type ≠ .hardlink) :
    LinksFollow (linksLast entries) := by
  intro before entry after target hsplit htarget
  have hlink := type_of_hardlinkTarget htarget
  have hentry : entry ∈ entries := by
    rw [← (linksLast_perm entries).mem_iff, hsplit]
    simp
  obtain ⟨anchor, hanchor, hpath, hnot⟩ := htargets entry hentry target htarget
  have hfirst : anchor ∈ entries.filter fun entry => entry.type ≠ .hardlink :=
    List.mem_filter.mpr ⟨hanchor, decide_eq_true hnot⟩
  have hbefore : anchor ∈ before := by
    rcases List.append_eq_append_iff.mp hsplit with ⟨rest, rfl, -⟩ | ⟨rest, hrest, hafter⟩
    · exact List.mem_append_left _ hfirst
    · cases rest with
      | nil => rwa [hrest, List.append_nil] at hfirst
      | cons first rest =>
        -- the link would stand among the entries that are none
        obtain ⟨rfl, -⟩ := List.cons.inj hafter
        have hmem : entry ∈ entries.filter fun entry => entry.type ≠ .hardlink := by
          rw [hrest]
          simp
        exact absurd hlink (of_decide_eq_true (List.mem_filter.mp hmem).2)
  rw [← hpath]
  exact List.mem_map_of_mem hbefore

section Accepting

variable {entries entries' : List PayloadEntry} {entry anchor chosen : PayloadEntry}
  {anchors : PayloadPath → PayloadPath} {tree tree' : Tree PayloadPath PayloadAttributes}

/-- What seals does not link before the target. -/
theorem linksFollow_of_sealed (h : ∃ state, sealEntries entries = .ok state) :
    LinksFollow entries := by
  obtain ⟨tree, htree, -⟩ := sealEntries_iff_extracts.mp h
  exact (exists_extractEntries_iff.mp ⟨tree, htree⟩).2

namespace Extracted

variable (h : Extracted entries tree)

include h

/-- **New anchors.**  The file of an entry is made where it was chosen to be, by the entry at the
    root, moved there. -/
theorem exists_chosen (hanchors : Anchoring entries anchors) (hentry : entry ∈ entries) :
    ∃ chosen ∈ entries, ∃ anchor ∈ entries, chosen.path = anchors entry.root ∧
      chosen.root = entry.root ∧ anchor.path = entry.root ∧ anchor.hardlinkTarget = none ∧
      SameInode entry anchor ∧ tree.stat entry.path = some ⟨anchor.path, anchor.attributes⟩ ∧
      reanchor entries anchors chosen = anchor.moved chosen.path := by
  obtain ⟨chosen, hchosen, hpath, hroot⟩ := hanchors entry hentry
  obtain ⟨anchor, hanchor, hpath', hnone, hsame, hstat⟩ := h.exists_anchor hentry
  refine ⟨chosen, hchosen, anchor, hanchor, hpath, hroot, hpath', hnone, hsame, hstat, ?_⟩
  exact reanchor_of_chosen h.nodup hanchor (hpath'.trans hroot.symm) (hroot.symm ▸ hpath)

/-- A link of the re-anchored vector leads to a regular file that agrees with it. -/
theorem exists_anchor_reanchored (hanchors : Anchoring entries anchors) (hentry : entry ∈ entries)
    (hlink : (reanchor entries anchors entry).type = .hardlink) :
    ∃ chosen ∈ entries,
      (reanchor entries anchors entry).hardlinkTarget = some chosen.path ∧
      (reanchor entries anchors chosen).type = .regular ∧
      SameInode (reanchor entries anchors entry) (reanchor entries anchors chosen) := by
  obtain ⟨chosen, hchosen, anchor, hanchor, hpath, hroot, hanchorpath, hnone, hsame, -, hmoved⟩ :=
    h.exists_chosen hanchors hentry
  have hnot : entry.path ≠ anchors entry.root := by
    intro hself
    rw [reanchor_of_chosen h.nodup hanchor hanchorpath hself] at hlink
    exact hardlinkTarget_eq_none_iff.mp hnone hlink
  -- of two entries of one file at most one makes it, so there is a link to what makes it
  have hregular : anchor.type = .regular := by
    by_cases htype : entry.type = .hardlink
    · exact h.type_of_anchor hentry htype hanchor hanchorpath
    · refine h.type_of_anchor hchosen ?_ hanchor (hanchorpath.trans hroot.symm)
      by_contra hchosentype
      have hown := root_of_none (hardlinkTarget_eq_none_iff.mpr htype)
      have hown' := root_of_none (hardlinkTarget_eq_none_iff.mpr hchosentype)
      exact hnot (hown.symm.trans (hroot.symm.trans (hown'.trans hpath)))
  rw [reanchor_of_not_chosen hnot]
  refine ⟨chosen, hchosen, congrArg some hpath.symm, ?_⟩
  rw [hmoved]
  exact ⟨hregular, hsame⟩

/-- **Acceptance.**  A re-anchored vector seals in every order that keeps links behind their
    targets. -/
theorem sealEntries_reanchored (hanchors : Anchoring entries anchors)
    (hperm : entries'.Perm (entries.map (reanchor entries anchors))) :
    (∃ state, sealEntries entries' = .ok state) ↔ LinksFollow entries' := by
  have hnodup : (entries'.map PayloadEntry.path).Nodup := by
    rw [(hperm.map PayloadEntry.path).nodup_iff, map_path_reanchor]
    exact h.nodup
  refine ⟨linksFollow_of_sealed, fun hfollow => ?_⟩
  refine sealEntries_iff_splits.mpr ⟨hnodup, fun before linked after hsplit hlink => ?_⟩
  have hmem : linked ∈ entries' := by simp [hsplit]
  obtain ⟨entry, hentry, rfl⟩ := List.mem_map.mp (hperm.mem_iff.mp hmem)
  obtain ⟨chosen, hchosen, htarget, htype, hsame⟩ :=
    h.exists_anchor_reanchored hanchors hentry hlink
  -- what stands before the link at its target is the entry that was chosen
  obtain ⟨anchor, hanchor, hpath⟩ :=
    List.mem_map.mp (hfollow before _ after chosen.path hsplit htarget)
  have hmem' : reanchor entries anchors chosen ∈ entries' :=
    hperm.mem_iff.mpr (List.mem_map_of_mem hchosen)
  have hanchor' : anchor ∈ entries' := hsplit ▸ List.mem_append_left _ hanchor
  obtain rfl := eq_of_path hnodup hanchor' hmem' (hpath.trans reanchor_path.symm)
  exact ⟨_, hanchor, htype, htarget.trans (congrArg some hpath.symm), hsame⟩

/-- Links last is such an order, whatever was chosen. -/
theorem linksLast_reanchored (hanchors : Anchoring entries anchors) :
    ∃ state, sealEntries (linksLast (entries.map (reanchor entries anchors))) = .ok state := by
  refine (h.sealEntries_reanchored hanchors (linksLast_perm _)).mpr (linksLast_follow ?_)
  intro linked hlinked target htarget
  obtain ⟨entry, hentry, rfl⟩ := List.mem_map.mp hlinked
  obtain ⟨chosen, hchosen, htarget', htype, -⟩ :=
    h.exists_anchor_reanchored hanchors hentry (type_of_hardlinkTarget htarget)
  obtain rfl := Option.some.inj (htarget.symm.trans htarget')
  refine ⟨_, List.mem_map_of_mem hchosen, reanchor_path, ?_⟩
  rw [htype]
  decide

end Extracted

end Accepting

/-! ## Order -/

section Ordering

variable {entries entries' : List PayloadEntry} {entry other : PayloadEntry}
  {anchors anchors' : PayloadPath → PayloadPath} {tree tree' : Tree PayloadPath PayloadAttributes}

/-- The attributes contain what a shared inode has only once. -/
theorem sameInode_of_attributes (h : entry.attributes = other.attributes) :
    SameInode entry other := by
  simp only [attributes, PayloadAttributes.mk.injEq] at h
  obtain ⟨-, hmode, huid, hgid, -, htime, -⟩ := h
  exact ⟨hmode, huid, hgid, htime⟩

/-- Only what is chosen for the entry's own root matters to it. -/
theorem reanchor_congr (h : anchors entry.root = anchors' entry.root) :
    reanchor entries anchors entry = reanchor entries anchors' entry := by
  rw [reanchor, reanchor, h]

namespace Extracted

variable (h : Extracted entries tree) (h' : Extracted entries' tree')

include h h'

/-- **A file system does not see the anchors.** -/
theorem alike_reanchored (hanchors : Anchoring entries anchors)
    (hperm : entries'.Perm (entries.map (reanchor entries anchors))) : Tree.Alike tree tree' := by
  have hmem : ∀ entry ∈ entries, reanchor entries anchors entry ∈ entries' :=
    fun entry hentry => hperm.mem_iff.mpr (List.mem_map_of_mem hentry)
  have hnames : ∀ path, tree.stat path ≠ none ↔ tree'.stat path ≠ none := by
    intro path
    rw [h.stat_ne_none_iff, h'.stat_ne_none_iff, (hperm.map PayloadEntry.path).mem_iff,
      map_path_reanchor]
  refine Tree.alike_of_names (fun path => not_iff_not.mp (hnames path)) ?_ ?_
  · intro path hpath
    obtain ⟨entry, hentry, rfl⟩ := List.mem_map.mp (h.stat_ne_none_iff.mp hpath)
    obtain ⟨chosen, hchosen, anchor, -, hpath, -, -, -, -, hstat, hmoved⟩ :=
      h.exists_chosen hanchors hentry
    obtain ⟨new, hnew, hroot, -, -, hstat'⟩ := h'.exists_anchor (hmem entry hentry)
    -- the file is now made by the entry that made it before, at the path that was chosen
    rw [h.root_reanchor hentry, ← hpath] at hroot
    obtain rfl : new = anchor.moved chosen.path :=
      eq_of_path h'.nodup hnew (hmoved ▸ hmem chosen hchosen) hroot
    rw [reanchor_path] at hstat'
    rw [Tree.look_of_stat hstat, Tree.look_of_stat hstat']
    rfl
  · intro path path' hpath hpath'
    obtain ⟨entry, hentry, rfl⟩ := List.mem_map.mp (h.stat_ne_none_iff.mp hpath)
    obtain ⟨other, hother, rfl⟩ := List.mem_map.mp (h.stat_ne_none_iff.mp hpath')
    have hshared := h'.file_eq_iff (hmem entry hentry) (hmem other hother)
    rw [reanchor_path, reanchor_path, h.root_reanchor hentry, h.root_reanchor hother] at hshared
    rw [h.file_eq_iff hentry hother, hshared, h.anchors_inj hanchors hentry hother]

/-- A name of the one tree is a name of the other. -/
theorem exists_at (halike : Tree.Alike tree tree') (hentry : entry ∈ entries) :
    ∃ other ∈ entries', other.path = entry.path := by
  have hshown : tree.stat entry.path ≠ none :=
    h.stat_ne_none_iff.mpr (List.mem_map_of_mem hentry)
  rw [Ne, halike.stat_eq_none_iff, ← Ne, h'.stat_ne_none_iff] at hshown
  exact List.mem_map.mp hshown

/-- The entry of the other manifest at the root of an entry has the root of that at its path: the
    two paths share a file in the one tree and so in the other. -/
theorem rootAt_root (halike : Tree.Alike tree tree') (hentry : entry ∈ entries)
    (hother : other ∈ entries') (hpath : other.path = entry.path) :
    rootAt entries' entry.root = other.root := by
  obtain ⟨anchor, hanchor, hroot, hnone, -⟩ := h.exists_anchor hentry
  obtain ⟨anchor', hanchor', hpath'⟩ := h.exists_at h' halike hanchor
  have hshared : tree.file anchor.path = tree.file entry.path :=
    (h.file_eq_iff hanchor hentry).mpr ((root_of_none hnone).trans hroot)
  rw [halike.shares, ← hpath', ← hpath, h'.file_eq_iff hanchor' hother] at hshared
  rw [← hroot, ← hpath', rootAt_of_mem h'.nodup hanchor', hshared]

/-- The roots of the other manifest are names of the same files. -/
theorem anchoring_rootAt (halike : Tree.Alike tree tree') :
    Anchoring entries (rootAt entries') := by
  intro entry hentry
  obtain ⟨other, hother, hpath⟩ := h.exists_at h' halike hentry
  obtain ⟨anchor, hanchor, hroot, hnone, -⟩ := h'.exists_anchor hother
  have hback : Tree.Alike tree' tree := halike.symm
  obtain ⟨chosen, hchosen, hpath'⟩ := h'.exists_at h hback hanchor
  refine ⟨chosen, hchosen, ?_, ?_⟩
  · rw [h.rootAt_root h' halike hentry hother hpath, hpath', hroot]
  · have hshared : tree'.file anchor.path = tree'.file other.path :=
      (h'.file_eq_iff hanchor hother).mpr ((root_of_none hnone).trans hroot)
    rw [hback.shares, ← hpath', hpath, h.file_eq_iff hchosen hentry] at hshared
    exact hshared

/-- Entries at one path show the same mode, ownership and time. -/
theorem sameInode_of_alike (halike : Tree.Alike tree tree') (hentry : entry ∈ entries)
    (hother : other ∈ entries') (hpath : other.path = entry.path) : SameInode entry other := by
  obtain ⟨anchor, -, -, -, hsame, hstat⟩ := h.exists_anchor hentry
  obtain ⟨anchor', -, -, -, hsame', hstat'⟩ := h'.exists_anchor hother
  have hlook := halike.look_eq entry.path
  rw [Tree.look_of_stat hstat, ← hpath, Tree.look_of_stat hstat', Option.some.injEq] at hlook
  exact hsame.trans ((sameInode_of_attributes hlook).trans hsame'.symm)

/-- Re-anchored at the roots of the other manifest, an entry is the other's at its path. -/
theorem reanchor_eq (halike : Tree.Alike tree tree') (hentry : entry ∈ entries)
    (hother : other ∈ entries') (hpath : other.path = entry.path) :
    reanchor entries (rootAt entries') entry = other := by
  have hroot := h.rootAt_root h' halike hentry hother hpath
  by_cases hown : other.hardlinkTarget = none
  · -- the other makes the file here, as the entry at the root did there
    have hchosen : entry.path = rootAt entries' entry.root := by
      rw [hroot, root_of_none hown, hpath]
    obtain ⟨anchor, hanchor, hpath', hnone, -, hstat⟩ := h.exists_anchor hentry
    rw [reanchor_of_chosen h.nodup hanchor hpath' hchosen]
    have hlook := halike.look_eq entry.path
    rw [Tree.look_of_stat hstat, ← hpath,
      Tree.look_of_stat (stat_of_entry h'.extracts hother hown), Option.some.injEq] at hlook
    exact PayloadEntry.ext hpath.symm (hnone.trans hown.symm) hlook
  · have hchosen : entry.path ≠ rootAt entries' entry.root := by
      rw [hroot, ← hpath]
      exact fun hself => hown ((h'.root_eq_path_iff hother).mp hself.symm)
    obtain ⟨target, htarget⟩ := Option.ne_none_iff_exists'.mp hown
    rw [reanchor_of_not_chosen hchosen, hroot, root_of_target htarget]
    have hsame : SameInode entry other := h.sameInode_of_alike h' halike hentry hother hpath
    exact PayloadEntry.ext hpath.symm htarget.symm
      (attributes_of_hardlink rfl (type_of_hardlinkTarget htarget) hsame)

/-- **And nothing else.**  What makes a tree that looks the same is a re-anchoring. -/
theorem perm_of_alike (halike : Tree.Alike tree tree') :
    entries'.Perm (entries.map (reanchor entries (rootAt entries'))) := by
  have hnodup : (entries.map (reanchor entries (rootAt entries'))).Nodup := by
    refine List.Nodup.of_map PayloadEntry.path ?_
    rw [map_path_reanchor]
    exact h.nodup
  refine (List.perm_ext_iff_of_nodup h'.nodup.of_map hnodup).mpr fun other => ?_
  rw [List.mem_map]
  constructor
  · intro hother
    obtain ⟨entry, hentry, hpath⟩ := h'.exists_at h halike.symm hother
    exact ⟨entry, hentry, h.reanchor_eq h' halike hentry hother hpath.symm⟩
  · rintro ⟨entry, hentry, rfl⟩
    obtain ⟨other, hother, hpath⟩ := h.exists_at h' halike hentry
    rw [h.reanchor_eq h' halike hentry hother hpath]
    exact hother

/-- If the trees also agree on the names the files were created under, nothing was re-anchored. -/
theorem perm_of_stat_eq (hstat : ∀ path, tree.stat path = tree'.stat path) :
    entries.Perm entries' := by
  have halike := Tree.alike_of_stat_eq hstat
  have hsame : ∀ entry ∈ entries, reanchor entries (rootAt entries') entry = entry := by
    intro entry hentry
    obtain ⟨other, hother, hpath⟩ := h.exists_at h' halike hentry
    obtain ⟨anchor, -, hroot, -, -, hshown⟩ := h.exists_anchor hentry
    obtain ⟨anchor', -, hroot', -, -, hshown'⟩ := h'.exists_anchor hother
    -- one file is shown there, so it was created under one name
    rw [hpath, ← hstat, hshown, Option.some.injEq, File.mk.injEq] at hshown'
    have hid : rootAt entries' entry.root = id entry.root := by
      rw [h.rootAt_root h' halike hentry hother hpath, ← hroot', ← hshown'.1, hroot]
      rfl
    rw [reanchor_congr hid, h.reanchor_id hentry]
  have hperm := h.perm_of_alike h' halike
  rw [List.map_congr_left hsame, List.map_id'] at hperm
  exact hperm.symm

end Extracted

end Ordering

/-- **Order.**  To a file system, two manifests make the same tree exactly when the entries of the
    one are, in some order, those of the other with every file made under a name of its own that was
    chosen for it.  The trees also agree on the name each file was created under exactly when the
    manifests hold the same entries.  Whatever names are chosen, an order of the entries seals
    exactly when no link comes before its target, and with the links behind everything else it
    always does; this holds of the entries as they are, too. -/
theorem sealed_order (sha256 : Sha256) (manifest : PayloadManifest sha256) :
    (∀ manifest' : PayloadManifest sha256, ∃ tree tree',
      extractEntries manifest.entries = some tree ∧
      extractEntries manifest'.entries = some tree' ∧
      (Tree.Alike tree tree' ↔ ∃ anchors, Anchoring manifest.entries anchors ∧
        manifest'.entries.Perm (manifest.entries.map (reanchor manifest.entries anchors))) ∧
      ((∀ path, tree.stat path = tree'.stat path) ↔
        manifest.entries.Perm manifest'.entries)) ∧
    (∀ anchors, Anchoring manifest.entries anchors →
      (∀ entries, entries.Perm (manifest.entries.map (reanchor manifest.entries anchors)) →
        ((∃ manifest', PayloadManifest.seal sha256 entries = .ok manifest') ↔
          LinksFollow entries)) ∧
      ∃ manifest', PayloadManifest.seal sha256
        (linksLast (manifest.entries.map (reanchor manifest.entries anchors))) = .ok manifest') ∧
    (∀ entries, entries.Perm manifest.entries →
      ((∃ manifest', PayloadManifest.seal sha256 entries = .ok manifest') ↔ LinksFollow entries)) ∧
    (linksLast manifest.entries).Perm manifest.entries ∧
    ∃ manifest', PayloadManifest.seal sha256 (linksLast manifest.entries) = .ok manifest' := by
  obtain ⟨tree, h⟩ := exists_extracted manifest
  have hseals : ∀ anchors, Anchoring manifest.entries anchors →
      (∀ entries, entries.Perm (manifest.entries.map (reanchor manifest.entries anchors)) →
        ((∃ manifest', PayloadManifest.seal sha256 entries = .ok manifest') ↔
          LinksFollow entries)) ∧
      ∃ manifest', PayloadManifest.seal sha256
        (linksLast (manifest.entries.map (reanchor manifest.entries anchors)))
          = .ok manifest' := by
    intro anchors hanchors
    refine ⟨fun entries hperm => ?_, exists_seal_iff.mpr (h.linksLast_reanchored hanchors)⟩
    exact exists_seal_iff.trans (h.sealEntries_reanchored hanchors hperm)
  have hown := hseals id h.anchoring_id
  rw [h.map_reanchor_id] at hown
  refine ⟨fun manifest' => ?_, hseals, hown.1, linksLast_perm _, hown.2⟩
  obtain ⟨tree', h'⟩ := exists_extracted manifest'
  refine ⟨tree, tree', h.extracts, h'.extracts, ⟨?_, ?_⟩, h.perm_of_stat_eq h', ?_⟩
  · intro halike
    exact ⟨_, h.anchoring_rootAt h' halike, h.perm_of_alike h' halike⟩
  · rintro ⟨anchors, hanchors, hperm⟩
    exact h.alike_reanchored h' hanchors hperm
  · intro hperm
    exact Tree.stat_eq_of_perm h.extracts h'.extracts (hperm.map instruction)

end Pkgbuild

/-
  Which entry vectors a manifest seals, position by position.

  `payload_manifest::seal` is one pass with two tables.  `sealEntries_ok_iff` already reads the pass
  as a statement about prefixes; here the prefixes become positions:

      seal succeeds  ↔  no two positions have one path, and every hard link has an EARLIER regular
                        entry at its target that agrees with it on mode, ownership and time.

  The step from tables to positions is that a table of distinct paths answers a lookup with the ONLY
  entry at that path (`lookup_regular_iff`), so a target cannot be shadowed.  What a sealed manifest
  then looks like — one anchor for each hard link, no link to a link, no self-link, agreement of all
  links to one anchor — follows from the positions alone (`Anchored`).
-/
import Pkgbuild.Manifest

namespace Pkgbuild

open Checked Correspondence

variable {entries before : List PayloadEntry} {entry : PayloadEntry} {sha256 : Sha256}

/-! ## From tables to positions -/

/-- Among entries of distinct paths, the table's answer is the regular entry at the path. -/
theorem lookup_regular_iff (hpaths : (before.map PayloadEntry.path).Nodup) {target : PayloadPath}
    {anchor : PayloadEntry} :
    (SealState.view before).regular.lookup target = some anchor ↔
      anchor ∈ before ∧ anchor.type = .regular ∧ anchor.path = target := by
  have hregular := hpaths.sublist
    ((List.filter_sublist (p := fun entry => entry.type = .regular)).map PayloadEntry.path)
  rw [SealState.view, lookup_map_path, find?_key_iff hregular, List.mem_filter, decide_eq_true_iff,
    and_assoc]

/-- An entry is good after entries of distinct paths exactly when its path is fresh and, if it is a
    hard link, its anchor is among them. -/
theorem goodEntry_iff (hpaths : (before.map PayloadEntry.path).Nodup) :
    GoodEntry before entry ↔ entry.path ∉ before.map PayloadEntry.path ∧
      (entry.type = .hardlink → ∃ anchor ∈ before, anchor.type = .regular ∧
        entry.hardlinkTarget = some anchor.path ∧ SameInode entry anchor) := by
  unfold GoodEntry
  refine and_congr_right fun hfresh => ?_
  constructor
  · intro h hlink
    obtain ⟨target, anchor, htarget, -, hlookup, hsame⟩ := h hlink
    obtain ⟨hmem, htype, rfl⟩ := (lookup_regular_iff hpaths).mp hlookup
    exact ⟨anchor, hmem, htype, htarget, hsame⟩
  · intro h hlink
    obtain ⟨anchor, hmem, htype, htarget, hsame⟩ := h hlink
    have hnotself : entry.path ≠ anchor.path := by
      intro hself
      exact hfresh (hself ▸ List.mem_map_of_mem hmem)
    have hlookup := (lookup_regular_iff hpaths).mpr ⟨hmem, htype, rfl⟩
    exact ⟨anchor.path, anchor, htarget, hnotself, hlookup, hsame⟩

/-- **The loop, split by split.**  It comes through exactly when paths are distinct and every hard
    link has its anchor among the entries before it. -/
theorem sealEntries_iff_splits : (∃ state, sealEntries entries = .ok state) ↔
    (entries.map PayloadEntry.path).Nodup ∧
      ∀ before entry after, entries = before ++ entry :: after → entry.type = .hardlink →
        ∃ anchor ∈ before, anchor.type = .regular ∧
          entry.hardlinkTarget = some anchor.path ∧ SameInode entry anchor := by
  have hbefore : (entries.map PayloadEntry.path).Nodup → ∀ {before entry after},
      entries = before ++ entry :: after → (before.map PayloadEntry.path).Nodup := by
    rintro hnodup before entry after rfl
    exact hnodup.sublist ((List.sublist_append_left before _).map PayloadEntry.path)
  rw [sealEntries_ok_iff]
  constructor
  · intro h
    have hnodup : (entries.map PayloadEntry.path).Nodup :=
      nodup_map_iff_splits.mpr fun before entry after hsplit => (h before entry after hsplit).1
    refine ⟨hnodup, fun before entry after hsplit => ?_⟩
    exact ((goodEntry_iff (hbefore hnodup hsplit)).mp (h before entry after hsplit)).2
  · rintro ⟨hnodup, hanchored⟩ before entry after hsplit
    refine (goodEntry_iff (hbefore hnodup hsplit)).mpr ⟨?_, hanchored before entry after hsplit⟩
    exact nodup_map_iff_splits.mp hnodup before entry after hsplit

/-- No two positions have the same path. -/
def DistinctPaths (entries : List PayloadEntry) : Prop :=
  ∀ i j : Fin entries.length, entries[i].path = entries[j].path → i = j

/-- The positions of distinct paths, as a property of the list of paths. -/
theorem distinctPaths_iff_nodup :
    DistinctPaths entries ↔ (entries.map PayloadEntry.path).Nodup := by
  rw [List.Nodup, List.pairwise_map, List.pairwise_iff_getElem]
  constructor
  · intro h i j hi hj hlt hpath
    have heq := congrArg Fin.val (h ⟨i, hi⟩ ⟨j, hj⟩ hpath)
    simp only at heq
    omega
  · intro h i j hpath
    rcases Nat.lt_trichotomy i.1 j.1 with hlt | heq | hgt
    · exact absurd hpath (h i.1 j.1 i.2 j.2 hlt)
    · exact Fin.ext heq
    · exact absurd hpath.symm (h j.1 i.1 j.2 i.2 hgt)

/-- Position `j` anchors the hard link at position `i`. -/
def AnchoredAt (entries : List PayloadEntry) (i j : Fin entries.length) : Prop :=
  j < i ∧ entries[j].type = .regular ∧ entries[i].hardlinkTarget = some entries[j].path ∧
    SameInode entries[i] entries[j]

/-- Every hard link has an earlier anchor. -/
def Anchored (entries : List PayloadEntry) : Prop :=
  ∀ i : Fin entries.length, entries[i].type = .hardlink → ∃ j, AnchoredAt entries i j

/-- The entry at a position and the entries before it, as the loop splits the vector. -/
theorem split_at (entries : List PayloadEntry) (i : Fin entries.length) :
    entries = entries.take i ++ entries[i] :: entries.drop (i + 1) := by
  rw [Fin.getElem_fin, ← List.drop_eq_getElem_cons i.2, List.take_append_drop]

/-- **The loop, position by position.**  A split of the vector is a position, and what stands before
    the entry are the earlier positions. -/
theorem sealEntries_iff_positions :
    (∃ state, sealEntries entries = .ok state) ↔ DistinctPaths entries ∧ Anchored entries := by
  rw [sealEntries_iff_splits, distinctPaths_iff_nodup]
  refine and_congr_right fun _ => ?_
  constructor
  · intro h i hlink
    obtain ⟨anchor, hanchor, htype, htarget, hsame⟩ := h _ _ _ (split_at entries i) hlink
    obtain ⟨j, hj, rfl⟩ := List.mem_take_iff_getElem.mp hanchor
    exact ⟨⟨j, by omega⟩, Fin.lt_def.mpr (by simp only; omega), htype, htarget, hsame⟩
  · rintro hanchored before entry after rfl hlink
    -- the anchor's position is before that of the entry, so the anchor is in the prefix
    have hlength : before.length < (before ++ entry :: after).length := by simp
    obtain ⟨j, hlt, htype, htarget, hsame⟩ :=
      hanchored ⟨before.length, hlength⟩ (by simpa using hlink)
    have hj : j.1 < before.length := hlt
    have hget : (before ++ entry :: after)[j] = before[j.1] := by
      rw [Fin.getElem_fin, List.getElem_append_left hj]
    rw [hget] at htype htarget hsame
    simp only [Fin.getElem_fin, List.getElem_append_right (Nat.le_refl _), Nat.sub_self,
      List.getElem_cons_zero] at htarget hsame
    exact ⟨before[j.1], List.getElem_mem hj, htype, htarget, hsame⟩

/-! ## What a sealed manifest looks like -/

/-- A manifest is determined by its entries. -/
theorem PayloadManifest.ext {a b : PayloadManifest sha256} (h : a.entries = b.entries) : a = b := by
  obtain ⟨entries, identity, _, hidentity⟩ := a
  obtain ⟨entries', identity', _, hidentity'⟩ := b
  cases h
  obtain rfl := Except.ok.inj (hidentity.symm.trans hidentity')
  rfl

/-- `seal` returns the manifest of the vector it was given, if there is one. -/
theorem seal_ok_iff {manifest : PayloadManifest sha256} :
    PayloadManifest.seal sha256 entries = .ok manifest ↔ manifest.entries = entries := by
  unfold PayloadManifest.seal
  constructor
  · intro h
    obtain ⟨state, -, h⟩ := bind_ok_iff.mp h
    obtain ⟨identity, -, h⟩ := bind_ok_iff.mp h
    obtain rfl := pure_ok_iff.mp h
    rfl
  · rintro rfl
    obtain ⟨state, hstate⟩ := manifest.sealed
    have hidentity := manifest.identity_eq
    refine bind_ok_iff.mpr ⟨⟨state, hstate⟩, attach_ok_iff.mpr hstate, ?_⟩
    refine bind_ok_iff.mpr ⟨⟨manifest.identity, hidentity⟩, attach_ok_iff.mpr hidentity, ?_⟩
    exact congrArg Except.ok (PayloadManifest.ext rfl)

/-- Hashing cannot fail, so `seal` comes through when its loop does. -/
theorem exists_seal_iff : (∃ manifest, PayloadManifest.seal sha256 entries = .ok manifest) ↔
    ∃ state, sealEntries entries = .ok state := by
  simp only [seal_ok_iff]
  constructor
  · rintro ⟨manifest, rfl⟩
    exact manifest.sealed
  · intro hsealed
    exact ⟨⟨entries, _, hsealed, Identity.fromSha256_finish _ _ _⟩, rfl⟩

/-- The refusal that no entry of a factory can bring about: a hard link without a target. -/
def lacksAnchor : Error :=
  invalidModel (ascii "hard-link entry lacks its regular payload anchor")

section Refusals

-- what sealing avoids: anything but its other refusals, `invalid_model` under texts of their own
variable {bad : Error → Prop}
  (hbad : ∀ message, message ≠ lacksAnchor.message → ¬ bad (invalidModel message))

include hbad

/-- A hard link that a factory made has a target, so its checks keep to their other refusals. -/
theorem checkHardlink_avoids {regular : List (PayloadPath × PayloadEntry)}
    (hlink : entry.type = .hardlink) : Avoids bad (checkHardlink regular entry) := by
  obtain ⟨target, htarget⟩ := PayloadEntry.exists_hardlinkTarget hlink
  unfold checkHardlink
  rw [htarget]
  refine Avoids.bind (avoids_refuse (hbad _ (by decide))) fun _ => ?_
  cases regular.lookup target with
  | none => exact avoids_error (hbad _ (by decide))
  | some anchor => exact avoids_refuse (hbad _ (by decide))

/-- So does a turn of the loop; a duplicate path is refused under a text of its own. -/
theorem sealEntry_avoids (state : SealState) (entry : PayloadEntry) :
    Avoids bad (sealEntry state entry) := by
  have hduplicate : ascii "payload manifest contains a duplicate path: " ++ entry.path.value.bytes
      ≠ lacksAnchor.message := by
    intro h
    -- the two texts differ in their first byte
    have hhead := congrArg List.head? h
    rw [show (ascii "payload manifest contains a duplicate path: " ++
      entry.path.value.bytes).head? = some 0x70 from rfl] at hhead
    exact absurd hhead (by decide)
  unfold sealEntry
  refine Avoids.bind (avoids_refuse (hbad _ hduplicate)) fun _ => ?_
  by_cases hlink : entry.type = .hardlink
  · simp only [hlink, if_true]
    exact (checkHardlink_avoids hbad hlink).bind fun _ => avoids_ok
  · simp only [hlink, if_false]
    exact avoids_ok

/-- **What sealing never throws.**  The loop avoids it turn by turn, and hashing throws nothing. -/
theorem seal_avoids (sha256 : Sha256) (entries : List PayloadEntry) :
    Avoids bad (PayloadManifest.seal sha256 entries) := by
  have hloop : Avoids bad (sealEntries entries) := avoids_foldlM (sealEntry_avoids hbad)
  exact hloop.attach.bind fun _ => Identity.avoids_finish.attach.bind fun _ => avoids_ok

end Refusals

/-- The refusal for want of an anchor is dead code. -/
theorem seal_ne_lacksAnchor (sha256 : Sha256) (entries : List PayloadEntry) :
    PayloadManifest.seal sha256 entries ≠ .error lacksAnchor := by
  intro h
  have hseal : Avoids (· = lacksAnchor) (PayloadManifest.seal sha256 entries) := by
    refine seal_avoids ?_ sha256 entries
    intro message hne heq
    exact hne (congrArg Error.message heq)
  exact hseal lacksAnchor h rfl

/-- Agreement on a shared inode goes both ways, ... -/
theorem SameInode.symm {entry other : PayloadEntry} (h : SameInode entry other) :
    SameInode other entry := by
  obtain ⟨hmode, huid, hgid, htime⟩ := h
  exact ⟨hmode.symm, huid.symm, hgid.symm, htime.symm⟩

/-- ... and on from one entry to the next: links to one anchor agree with each other. -/
theorem SameInode.trans {entry other third : PayloadEntry} (h : SameInode entry other)
    (h' : SameInode other third) : SameInode entry third := by
  obtain ⟨hmode, huid, hgid, htime⟩ := h
  obtain ⟨hmode', huid', hgid', htime'⟩ := h'
  exact ⟨hmode.trans hmode', huid.trans huid', hgid.trans hgid', htime.trans htime'⟩

/-- At distinct paths, the anchor of a hard link stands at the only position with its target. -/
theorem AnchoredAt.eq_of_target (hpaths : DistinctPaths entries) {i j k : Fin entries.length}
    (h : AnchoredAt entries i j) (hk : entries[i].hardlinkTarget = some entries[k].path) :
    k = j := by
  obtain ⟨-, -, htarget, -⟩ := h
  exact hpaths k j (Option.some.inj (hk.symm.trans htarget))

/-- **Sealing a manifest.**  `seal` succeeds exactly when no two positions have one path and every
    hard link has an earlier anchor.  It returns the vector unchanged; every hard link then has
    exactly one anchor, at the only position with the target path; no hard link targets itself, and
    hard links to one anchor agree with it and with each other.  The refusal of a hard link without
    a target never occurs. -/
theorem seal_iff_anchored (sha256 : Sha256) (entries : List PayloadEntry) :
    ((∃ manifest, PayloadManifest.seal sha256 entries = .ok manifest) ↔
      DistinctPaths entries ∧ Anchored entries) ∧
    (∀ manifest, PayloadManifest.seal sha256 entries = .ok manifest →
      manifest.entries = entries ∧
      ∀ i : Fin entries.length, entries[i].type = .hardlink →
        entries[i].hardlinkTarget ≠ some entries[i].path ∧
        ∃ j : Fin entries.length, AnchoredAt entries i j ∧
          (∀ k : Fin entries.length, entries[i].hardlinkTarget = some entries[k].path → k = j) ∧
          ∀ i' : Fin entries.length, entries[i'].type = .hardlink →
            entries[i'].hardlinkTarget = entries[i].hardlinkTarget →
            AnchoredAt entries i' j ∧ SameInode entries[i'] entries[i]) ∧
    PayloadManifest.seal sha256 entries ≠ .error lacksAnchor := by
  refine ⟨exists_seal_iff.trans sealEntries_iff_positions, ?_, seal_ne_lacksAnchor sha256 entries⟩
  intro manifest hmanifest
  obtain ⟨hpaths, hanchored⟩ :=
    sealEntries_iff_positions.mp (exists_seal_iff.mp ⟨manifest, hmanifest⟩)
  refine ⟨seal_ok_iff.mp hmanifest, ?_⟩
  intro i hlink
  obtain ⟨j, hj⟩ := hanchored i hlink
  refine ⟨?_, j, hj, fun k hk => hj.eq_of_target hpaths hk, ?_⟩
  · intro hself
    -- the link would be its own, earlier anchor
    have hij := hj.eq_of_target hpaths hself
    have hlt := hj.1
    rw [hij] at hlt
    exact Nat.lt_irrefl _ hlt
  · intro i' hlink' htarget'
    obtain ⟨j', hj'⟩ := hanchored i' hlink'
    -- both anchors stand at the one target
    obtain rfl := hj.eq_of_target hpaths (htarget'.symm.trans hj'.2.2.1)
    exact ⟨hj', hj'.2.2.2.trans hj.2.2.2.symm⟩

end Pkgbuild

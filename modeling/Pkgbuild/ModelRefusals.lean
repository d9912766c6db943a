/-
  Why paths and manifests are refused: the texts of `payload_path::parse` and
  `payload_manifest::seal` (`model.cpp`).

  Both functions walk a sequence, the pieces of a path or the entries of a payload, and throw at the
  first element they cannot take.  Here is said, for every input, WHICH text they throw:

  * `path_refuses`     — the input is not relative; or its first bad component holds a forbidden
                         byte or is ".."; or there is no bad component and none that names
                         anything;
  * `manifest_refuses` — the entries before some entry seal, and the entry repeats one of their
                         paths, links to itself, has no regular entry at its target among them, or
                         one that differs from it.

  The refusals of one element are inductive predicates, a constructor for each `throw`, whose
  premises say what the checks before it have ruled out; so an element has at most one
  (`EntryRefusal.unique`).
-/
import Pkgbuild.ManifestAnchors
import Pkgbuild.PathGrammar

namespace Pkgbuild

open Checked Components Correspondence

/-! ## Paths -/

/-- Thrown before the scan, for an input that is empty or begins with a slash. -/
def notRelative : Error := invalidModel (ascii "payload path must be non-empty and relative")

/-- Thrown at the first byte of the scan that is NUL, LF or CR. -/
def forbiddenByte : Error := invalidModel (ascii "payload path contains a forbidden byte")

/-- Thrown at the first component that is "..", whatever stands before or after it. -/
def escapesRoot : Error := invalidModel (ascii "payload path escapes the package root")

/-- Thrown after the scan, when no component names anything. -/
def emptyPath : Error := invalidModel (ascii "payload path normalizes to an empty value")

/-- What is thrown at a component.  Which forbidden byte it is does not matter: the text names none.
    -/
inductive ComponentRefusal (part : Bytes) : Error → Prop
  | forbidden {byte : UInt8} (hmem : byte ∈ part) (h : IsForbiddenByte byte) :
      ComponentRefusal part forbiddenByte
  | escapes (h : part = dotDot) : ComponentRefusal part escapesRoot

/-- What is thrown at a path, in the order of the source: each case says that none of the earlier
    ones holds. -/
inductive PathRefusal (input : Bytes) : Error → Prop
  | relative (h : input = [] ∨ input.head? = some slash) : PathRefusal input notRelative
  | component {before : List Bytes} {part : Bytes} {after : List Bytes} {e : Error}
      (hrelative : ¬ (input = [] ∨ input.head? = some slash))
      (hsplit : components input = before ++ part :: after)
      (hbefore : ∀ piece ∈ before, ∀ e, ¬ ComponentRefusal piece e)
      (h : ComponentRefusal part e) : PathRefusal input e
  | unnamed (hrelative : ¬ (input = [] ∨ input.head? = some slash))
      (hall : ∀ piece ∈ components input, ∀ e, ¬ ComponentRefusal piece e)
      (h : ∀ piece ∈ components input, piece = [] ∨ piece = dot) : PathRefusal input emptyPath

variable {input part : Bytes} {e : Error}

/-- The checks on a component throw what there is to throw at it.  The two do not meet: ".." has no
    forbidden byte. -/
theorem checkPart_error_iff : checkPart part = .error e ↔ ComponentRefusal part e := by
  have hclean : ∀ byte ∈ dotDot, ¬ IsForbiddenByte byte := by
    have hdot : ¬ IsForbiddenByte 0x2E := by decide
    show ∀ byte ∈ ([0x2E, 0x2E] : Bytes), ¬ IsForbiddenByte byte
    exact List.forall_mem_cons.mpr ⟨hdot, List.forall_mem_singleton.mpr hdot⟩
  unfold checkPart
  rw [bind_error_iff]
  constructor
  · rintro (h | ⟨_, -, h⟩)
    · obtain ⟨before, byte, after, rfl, -, hbyte⟩ := forM_error_iff.mp h
      obtain ⟨hforbidden, rfl⟩ := refuse_error_iff.mp hbyte
      exact .forbidden (by simp) hforbidden
    · obtain ⟨hescapes, rfl⟩ := refuse_error_iff.mp h
      exact .escapes hescapes
  · intro h
    cases h with
    | @forbidden byte hmem hforbidden =>
      -- the first forbidden byte is refused, whichever it is
      cases hrun : forM part (fun byte => refuse (IsForbiddenByte byte) forbiddenByte) with
      | ok u => exact absurd hforbidden (refuse_ok_iff.mp (forM_ok_iff.mp hrun byte hmem))
      | error e =>
        obtain ⟨_, _, _, -, -, hbyte⟩ := forM_error_iff.mp hrun
        obtain ⟨-, rfl⟩ := refuse_error_iff.mp hbyte
        exact Or.inl hrun
    -- no byte of ".." is forbidden, so the scan of the bytes comes through
    | escapes h =>
      refine Or.inr ⟨(), ?_, refuse_error_iff.mpr ⟨h, rfl⟩⟩
      subst h
      exact forM_ok_iff.mpr fun byte hbyte => refuse_ok_iff.mpr (hclean byte hbyte)

/-- And they let through what there is nothing to throw at. -/
theorem checkPart_ok_iff_not_refused :
    checkPart part = .ok () ↔ ∀ e, ¬ ComponentRefusal part e := by
  cases h : checkPart part with
  | ok u =>
    refine iff_of_true rfl fun e he => ?_
    rw [checkPart_error_iff.mpr he] at h
    cases h
  | error e => exact iff_of_false (by simp) fun hnot => hnot e (checkPart_error_iff.mp h)

/-- Nothing is kept exactly when every component is empty or ".". -/
theorem location_eq_nil_iff :
    location input = [] ↔ ∀ piece ∈ components input, piece = [] ∨ piece = dot := by
  unfold location
  rw [List.filter_eq_nil_iff]
  refine forall₂_congr fun piece _ => ?_
  rw [isName_iff, not_and_or, not_not, not_not]

/-- **A path.**  The first thing wrong with it is what `normalize` throws: before the scan, at the
    first bad component, or after the last. -/
theorem normalize_error_iff : normalize input = .error e ↔ PathRefusal input e := by
  have hloop : parseLoop input 0 [] = (do
      forM (components input) checkPart
      return location input) := parseLoop_eq (Nat.zero_le _)
  unfold normalize
  rw [hloop]
  constructor
  · intro h
    rcases bind_error_iff.mp h with h | ⟨_, hrelative, h⟩
    · obtain ⟨hnot, rfl⟩ := refuse_error_iff.mp h
      exact .relative hnot
    -- past the first check, the scan or what it kept is refused
    have hrelative := refuse_ok_iff.mp hrelative
    rcases bind_error_iff.mp h with h | ⟨parts, hparts, h⟩
    · rcases bind_error_iff.mp h with h | ⟨_, -, h⟩
      · obtain ⟨before, part, after, hsplit, hbefore, hpart⟩ := forM_error_iff.mp h
        exact .component hrelative hsplit
          (fun piece hpiece => checkPart_ok_iff_not_refused.mp (hbefore piece hpiece))
          (checkPart_error_iff.mp hpart)
      · cases h
    obtain ⟨_, hchecks, hparts⟩ := bind_ok_iff.mp hparts
    obtain rfl := pure_ok_iff.mp hparts
    have hall := forM_ok_iff.mp hchecks
    rcases bind_error_iff.mp h with h | ⟨_, -, h⟩
    · obtain ⟨hnone, rfl⟩ := refuse_error_iff.mp h
      exact .unnamed hrelative
        (fun piece hpiece => checkPart_ok_iff_not_refused.mp (hall piece hpiece))
        (location_eq_nil_iff.mp hnone)
    · cases h
  · intro h
    cases h with
    | relative h => exact bind_error_iff.mpr (Or.inl (refuse_error_iff.mpr ⟨h, rfl⟩))
    | @component before part after e hrelative hsplit hbefore h =>
      refine bind_error_iff.mpr (Or.inr ⟨(), refuse_ok_iff.mpr hrelative, ?_⟩)
      refine bind_error_iff.mpr (Or.inl (bind_error_iff.mpr (Or.inl ?_)))
      exact forM_error_iff.mpr ⟨before, part, after, hsplit,
        fun piece hpiece => checkPart_ok_iff_not_refused.mpr (hbefore piece hpiece),
        checkPart_error_iff.mpr h⟩
    | unnamed hrelative hall h =>
      refine bind_error_iff.mpr (Or.inr ⟨(), refuse_ok_iff.mpr hrelative, ?_⟩)
      refine bind_error_iff.mpr (Or.inr ⟨location input, bind_ok_iff.mpr ⟨(), ?_, rfl⟩, ?_⟩)
      · exact forM_ok_iff.mpr fun piece hpiece =>
          checkPart_ok_iff_not_refused.mpr (hall piece hpiece)
      · have hnone := location_eq_nil_iff.mpr h
        exact bind_error_iff.mpr (Or.inl (refuse_error_iff.mpr ⟨hnone, rfl⟩))

/-- **Refusals of `parse`.**  Which of its texts an input gets. -/
theorem path_refuses (input : Text) (e : Error) :
    PayloadPath.parse input = .error e ↔ PathRefusal input.bytes e := by
  rw [← normalize_error_iff]
  unfold PayloadPath.parse
  rw [bind_error_iff, attach_error_iff]
  constructor
  · rintro (h | ⟨_, -, h⟩)
    · exact h
    · cases h
  · exact Or.inl

/-! ## Manifests -/

/-- The text of a path that stands twice names the path. -/
def duplicatePath (path : PayloadPath) : Error :=
  invalidModel (ascii "payload manifest contains a duplicate path: " ++ path.value.bytes)

/-- Thrown at a hard link to its own path. -/
def targetsItself : Error := invalidModel (ascii "hard-link entry cannot target itself")

/-- Thrown at a hard link whose target no earlier regular entry has. -/
def noEarlierRegular : Error :=
  invalidModel (ascii "hard-link target must name an earlier regular payload entry")

/-- Thrown at a hard link that disagrees with its anchor on mode, ownership or time. -/
def metadataDiffers : Error :=
  invalidModel (ascii "hard-link metadata differs from its regular payload anchor")

/-- What is thrown at an entry, given the entries before it. -/
inductive EntryRefusal (before : List PayloadEntry) (entry : PayloadEntry) : Error → Prop
  | duplicate (h : entry.path ∈ before.map PayloadEntry.path) :
      EntryRefusal before entry (duplicatePath entry.path)
  | itself (hfresh : entry.path ∉ before.map PayloadEntry.path)
      (h : entry.hardlinkTarget = some entry.path) : EntryRefusal before entry targetsItself
  | noAnchor {target : PayloadPath} (hfresh : entry.path ∉ before.map PayloadEntry.path)
      (htarget : entry.hardlinkTarget = some target) (hother : entry.path ≠ target)
      (h : ∀ anchor ∈ before, anchor.type = .regular → anchor.path ≠ target) :
      EntryRefusal before entry noEarlierRegular
  | differs {anchor : PayloadEntry} (hfresh : entry.path ∉ before.map PayloadEntry.path)
      (hanchor : anchor ∈ before) (htype : anchor.type = .regular)
      (htarget : entry.hardlinkTarget = some anchor.path) (h : ¬ SameInode entry anchor) :
      EntryRefusal before entry metadataDiffers

variable {entries before : List PayloadEntry} {entry : PayloadEntry} {sha256 : Sha256}

/-- The checks on a hard link, after entries of distinct paths. -/
theorem checkHardlink_error_iff (hpaths : (before.map PayloadEntry.path).Nodup)
    (hlink : entry.type = .hardlink) (hfresh : entry.path ∉ before.map PayloadEntry.path) :
    checkHardlink (SealState.view before).regular entry = .error e ↔
      EntryRefusal before entry e := by
  obtain ⟨target, htarget⟩ := PayloadEntry.exists_hardlinkTarget hlink
  unfold checkHardlink
  simp only [htarget]
  rw [bind_error_iff, refuse_error_iff]
  constructor
  · rintro (⟨hself, rfl⟩ | ⟨_, hother, h⟩)
    · exact .itself hfresh (hself ▸ htarget)
    -- the table has the regular entries of distinct paths, so what it finds is the anchor
    have hother := refuse_ok_iff.mp hother
    cases hlookup : (SealState.view before).regular.lookup target with
    | none =>
      rw [hlookup] at h
      obtain rfl := Except.error.inj h
      refine .noAnchor hfresh htarget hother fun anchor hanchor htype hpath => ?_
      rw [(lookup_regular_iff hpaths).mpr ⟨hanchor, htype, hpath⟩] at hlookup
      cases hlookup
    | some anchor =>
      rw [hlookup] at h
      obtain ⟨hdiffers, rfl⟩ := refuse_error_iff.mp h
      obtain ⟨hanchor, htype, rfl⟩ := (lookup_regular_iff hpaths).mp hlookup
      exact .differs hfresh hanchor htype htarget hdiffers
  · intro h
    cases h with
    | duplicate hmem => exact absurd hmem hfresh
    | itself _ hself => exact Or.inl ⟨Option.some.inj (hself.symm.trans htarget), rfl⟩
    | @noAnchor target' _ htarget' hother hnone =>
      obtain rfl := Option.some.inj (htarget.symm.trans htarget')
      refine Or.inr ⟨(), refuse_ok_iff.mpr hother, ?_⟩
      cases hlookup : (SealState.view before).regular.lookup target with
      | none => rfl
      | some anchor =>
        obtain ⟨hanchor, htype, hpath⟩ := (lookup_regular_iff hpaths).mp hlookup
        exact absurd hpath (hnone anchor hanchor htype)
    | @differs anchor _ hanchor htype htarget' hdiffers =>
      obtain rfl := Option.some.inj (htarget.symm.trans htarget')
      -- the link's own path is fresh, so its anchor is not the link itself
      have hother : entry.path ≠ anchor.path := by
        intro hpath
        exact hfresh (hpath ▸ List.mem_map_of_mem hanchor)
      refine Or.inr ⟨(), refuse_ok_iff.mpr hother, ?_⟩
      rw [(lookup_regular_iff hpaths).mpr ⟨hanchor, htype, rfl⟩]
      exact refuse_error_iff.mpr ⟨hdiffers, rfl⟩

/-- **Step.**  Behind entries of distinct paths a turn throws what the first of its four refusals
    throws that applies to the entry. -/
theorem sealEntry_error_iff (hpaths : (before.map PayloadEntry.path).Nodup) :
    sealEntry (SealState.view before) entry = .error e ↔ EntryRefusal before entry e := by
  by_cases hfresh : entry.path ∈ before.map PayloadEntry.path
  · -- a path seen before is refused first, whatever else is wrong
    have hrun : sealEntry (SealState.view before) entry = .error (duplicatePath entry.path) :=
      bind_error_iff.mpr (Or.inl (refuse_error_iff.mpr ⟨hfresh, rfl⟩))
    rw [hrun, Except.error.injEq]
    constructor
    · rintro rfl
      exact .duplicate hfresh
    · intro h
      cases h with
      | duplicate => rfl
      | itself hnot => exact absurd hfresh hnot
      | noAnchor hnot => exact absurd hfresh hnot
      | differs hnot => exact absurd hfresh hnot
  · unfold sealEntry
    rw [bind_error_iff, refuse_error_iff]
    by_cases hlink : entry.type = .hardlink
    · have hregular : entry.type ≠ .regular := by rw [hlink]; decide
      rw [← checkHardlink_error_iff hpaths hlink hfresh]
      simp only [if_pos hlink, if_neg hregular]
      constructor
      · rintro (⟨hmem, -⟩ | ⟨_, -, h⟩)
        · exact absurd hmem hfresh
        rcases bind_error_iff.mp h with h | ⟨_, -, h⟩
        · exact h
        · cases h
      · intro h
        exact Or.inr ⟨(), refuse_ok_iff.mpr hfresh, bind_error_iff.mpr (Or.inl h)⟩
    · simp only [if_neg hlink]
      constructor
      · rintro (⟨hmem, -⟩ | ⟨_, -, h⟩)
        · exact absurd hmem hfresh
        · cases h
      · intro h
        cases h with
        | duplicate hmem => exact absurd hmem hfresh
        | itself _ htarget => exact absurd (PayloadEntry.type_of_hardlinkTarget htarget) hlink
        | noAnchor _ htarget => exact absurd (PayloadEntry.type_of_hardlinkTarget htarget) hlink
        | differs _ _ _ htarget => exact absurd (PayloadEntry.type_of_hardlinkTarget htarget) hlink

/-- An entry is refused for one reason: the loop, which is a function, throws every one of them. -/
theorem EntryRefusal.unique (hpaths : (before.map PayloadEntry.path).Nodup) {e' : Error}
    (h : EntryRefusal before entry e) (h' : EntryRefusal before entry e') : e = e' := by
  have hrun := (sealEntry_error_iff hpaths).mpr h
  rw [(sealEntry_error_iff hpaths).mpr h'] at hrun
  exact (Except.error.inj hrun).symm

/-- **Refusals of sealing.**  `seal` throws what it throws at the first entry behind entries that
    seal. -/
theorem manifest_refuses (sha256 : Sha256) (entries : List PayloadEntry) (e : Error) :
    PayloadManifest.seal sha256 entries = .error e ↔
      ∃ before entry after, entries = before ++ entry :: after ∧
        (∃ manifest, PayloadManifest.seal sha256 before = .ok manifest) ∧
        EntryRefusal before entry e := by
  have hseal : PayloadManifest.seal sha256 entries = .error e ↔ sealEntries entries = .error e := by
    unfold PayloadManifest.seal
    rw [bind_error_iff, attach_error_iff]
    constructor
    · rintro (h | ⟨_, -, h⟩)
      · exact h
      rcases bind_error_iff.mp h with h | ⟨_, -, h⟩
      · rw [attach_error_iff, manifestId, Identity.fromSha256_finish] at h
        cases h
      · cases h
    · exact Or.inl
  have hloop := @foldlM_prefix_error_iff _ _ _ _ SealState.view _ sealEntry_ok_iff entries e
  rw [hseal]
  refine hloop.trans ?_
  refine exists_congr fun before => exists_congr fun entry => exists_congr fun after => ?_
  refine and_congr_right fun _ => ?_
  rw [exists_seal_iff]
  refine and_congr_right fun hbefore => sealEntry_error_iff ?_
  exact (sealEntries_iff_splits.mp hbefore).1

end Pkgbuild

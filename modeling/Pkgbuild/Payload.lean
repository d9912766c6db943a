/-
  Payload entries (`model.cpp`).

  `payload_entry` is one record for seven kinds of object, with four optional members.  Its
  constructor is private and checks only the mode and the nanoseconds; which members are present is
  decided by the seven factories.  Both facts are fields of `PayloadEntry` (`mode_le`,
  `nanoseconds_lt`, `shape`), so every entry is one a factory returned
  (`PayloadEntry.factory_built`) and statements about all entries are statements about factory-built
  ones.
-/
import Pkgbuild.PayloadPath
import Pkgbuild.Vocabulary

namespace Pkgbuild

open Checked

/-! ## Small values -/

/-- `sha256_digest`: a digest its owner hands over as text, which is checked as an identity's text
    is. -/
structure Sha256Digest extends Sha256Hex
deriving DecidableEq

namespace Sha256Digest

/-- The public constructor. -/
def make (hex : Bytes) : Except Error Sha256Digest := do
  let checked ← Sha256Hex.check hex
  return ⟨checked⟩

/-- A digest is its text. -/
theorem text_inj {a b : Sha256Digest} (h : a.text = b.text) : a = b := by
  cases a; cases b
  exact congrArg mk (Sha256Hex.ext (congrArg Text.bytes h))

end Sha256Digest

/-- `payload_time`: seconds, which may be before the epoch, and nanoseconds, whose bound an entry's
    constructor checks. -/
structure PayloadTime where
  seconds : Int64
  nanoseconds : UInt32
deriving DecidableEq

/-- `device_number`: a device by its major and minor number, any two. -/
structure DeviceNumber where
  major : UInt64
  minor : UInt64
deriving DecidableEq

/-- `require_line_safe`: the text of the refusal begins with the name of the field that was checked.
    -/
def requireLineSafe (value : Bytes) (field : String) : Except Error Unit := do
  refuse (value = []) (invalidModel (ascii field ++ ascii " must not be empty"))
  forM value fun byte =>
    refuse (IsForbiddenByte byte)
      (invalidModel (ascii field ++ ascii " contains a forbidden byte"))

/-- What `requireLineSafe` accepts. -/
def IsLineSafe (value : Bytes) : Prop := value ≠ [] ∧ ∀ byte ∈ value, ¬ IsForbiddenByte byte

/-- The check against what it accepts. -/
theorem requireLineSafe_ok_iff {value : Bytes} {field : String} {u : Unit} :
    requireLineSafe value field = .ok u ↔ IsLineSafe value := by
  unfold requireLineSafe IsLineSafe
  simp [bind_ok_iff, forM_ok_iff]

/-! ## Entries -/

/-- Which members an entry of a type has, as the factory of the type fills them in. -/
def EntryShape (size : UInt64) (symlinkTarget : Option Text) (hardlinkTarget : Option PayloadPath)
    (device : Option DeviceNumber) (regularContent : Option Sha256Digest) :
    PayloadEntryType → Prop
  | .regular =>
      symlinkTarget = none ∧ hardlinkTarget = none ∧ device = none ∧ regularContent.isSome
  | .directory | .fifo =>
      size = 0 ∧ symlinkTarget = none ∧ hardlinkTarget = none ∧ device = none ∧
        regularContent = none
  | .symlink =>
      size = 0 ∧ (∃ target ∈ symlinkTarget, IsLineSafe target.bytes) ∧ hardlinkTarget = none ∧
        device = none ∧ regularContent = none
  | .hardlink =>
      size = 0 ∧ symlinkTarget = none ∧ hardlinkTarget.isSome ∧ device = none ∧
        regularContent = none
  | .characterDevice | .blockDevice =>
      size = 0 ∧ symlinkTarget = none ∧ hardlinkTarget = none ∧ device.isSome ∧
        regularContent = none

/-- `payload_entry`: path, type and metadata, four members of which the type decides whether they
    are there, and what the constructor and the factory checked. -/
structure PayloadEntry where
  path : PayloadPath
  type : PayloadEntryType
  mode : UInt32
  uid : UInt64
  gid : UInt64
  size : UInt64
  modificationTime : PayloadTime
  symlinkTarget : Option Text
  hardlinkTarget : Option PayloadPath
  device : Option DeviceNumber
  regularContent : Option Sha256Digest
  mode_le : mode ≤ 0o7777
  nanoseconds_lt : modificationTime.nanoseconds < 1000000000
  shape : EntryShape size symlinkTarget hardlinkTarget device regularContent type
deriving DecidableEq

namespace PayloadEntry

/-- The private constructor: the two checks every factory shares. -/
def make (path : PayloadPath) (type : PayloadEntryType) (mode : UInt32) (uid gid size : UInt64)
    (modificationTime : PayloadTime) (symlinkTarget : Option Text)
    (hardlinkTarget : Option PayloadPath) (device : Option DeviceNumber)
    (regularContent : Option Sha256Digest)
    (shape : EntryShape size symlinkTarget hardlinkTarget device regularContent type) :
    Except Error PayloadEntry :=
  if hmode : 0o7777 < mode then
    .error (invalidModel (ascii "payload mode exceeds POSIX permission and special bits"))
  else if hnanoseconds : 1000000000 ≤ modificationTime.nanoseconds then
    .error (invalidModel (ascii "payload timestamp nanoseconds are out of range"))
  else
    .ok { path, type, mode, uid, gid, size, modificationTime, symlinkTarget, hardlinkTarget,
          device, regularContent, shape,
          mode_le := UInt32.not_lt.mp hmode
          nanoseconds_lt := UInt32.not_le.mp hnanoseconds }

/-- `payload_entry::regular`: the only entry whose size is the caller's, and the only one with a
    content digest. -/
def regular (path : PayloadPath) (mode : UInt32) (uid gid size : UInt64)
    (modificationTime : PayloadTime) (content : Sha256Digest) : Except Error PayloadEntry :=
  make path .regular mode uid gid size modificationTime none none none (some content)
    ⟨rfl, rfl, rfl, rfl⟩

/-- `payload_entry::directory`: path and metadata alone. -/
def directory (path : PayloadPath) (mode : UInt32) (uid gid : UInt64)
    (modificationTime : PayloadTime) : Except Error PayloadEntry :=
  make path .directory mode uid gid 0 modificationTime none none none none
    ⟨rfl, rfl, rfl, rfl, rfl⟩

/-- `payload_entry::symlink`: any target that is not empty and has no line breaks.  It is text and
    is not resolved. -/
def symlink (path : PayloadPath) (mode : UInt32) (uid gid : UInt64)
    (modificationTime : PayloadTime) (target : Text) : Except Error PayloadEntry := do
  let checked ← attach (requireLineSafe target.bytes "symbolic-link target")
  make path .symlink mode uid gid 0 modificationTime (some target) none none none
    ⟨rfl, ⟨target, rfl, requireLineSafe_ok_iff.mp checked.2⟩, rfl, rfl, rfl⟩

/-- `payload_entry::hardlink`: the target is a path of the payload, which the manifest looks up. -/
def hardlink (path : PayloadPath) (mode : UInt32) (uid gid : UInt64)
    (modificationTime : PayloadTime) (target : PayloadPath) : Except Error PayloadEntry :=
  make path .hardlink mode uid gid 0 modificationTime none (some target) none none
    ⟨rfl, rfl, rfl, rfl, rfl⟩

/-- `payload_entry::fifo`: path and metadata alone, as for a directory. -/
def fifo (path : PayloadPath) (mode : UInt32) (uid gid : UInt64)
    (modificationTime : PayloadTime) : Except Error PayloadEntry :=
  make path .fifo mode uid gid 0 modificationTime none none none none
    ⟨rfl, rfl, rfl, rfl, rfl⟩

/-- `payload_entry::character_device`: the device number besides. -/
def characterDevice (path : PayloadPath) (mode : UInt32) (uid gid : UInt64)
    (modificationTime : PayloadTime) (device : DeviceNumber) : Except Error PayloadEntry :=
  make path .characterDevice mode uid gid 0 modificationTime none none (some device) none
    ⟨rfl, rfl, rfl, rfl, rfl⟩

/-- `payload_entry::block_device`: the same under another type. -/
def blockDevice (path : PayloadPath) (mode : UInt32) (uid gid : UInt64)
    (modificationTime : PayloadTime) (device : DeviceNumber) : Except Error PayloadEntry :=
  make path .blockDevice mode uid gid 0 modificationTime none none (some device) none
    ⟨rfl, rfl, rfl, rfl, rfl⟩

/-- One of the seven factories returned the entry. -/
inductive Built (entry : PayloadEntry) : Prop
  | regular {path mode uid gid size time content}
      (h : PayloadEntry.regular path mode uid gid size time content = .ok entry)
  | directory {path mode uid gid time}
      (h : PayloadEntry.directory path mode uid gid time = .ok entry)
  | symlink {path mode uid gid time target}
      (h : PayloadEntry.symlink path mode uid gid time target = .ok entry)
  | hardlink {path mode uid gid time target}
      (h : PayloadEntry.hardlink path mode uid gid time target = .ok entry)
  | fifo {path mode uid gid time} (h : PayloadEntry.fifo path mode uid gid time = .ok entry)
  | characterDevice {path mode uid gid time device}
      (h : PayloadEntry.characterDevice path mode uid gid time device = .ok entry)
  | blockDevice {path mode uid gid time device}
      (h : PayloadEntry.blockDevice path mode uid gid time device = .ok entry)

/-- The constructor rebuilds any entry from its members. -/
theorem make_self (entry : PayloadEntry) :
    make entry.path entry.type entry.mode entry.uid entry.gid entry.size entry.modificationTime
      entry.symlinkTarget entry.hardlinkTarget entry.device entry.regularContent entry.shape
      = .ok entry := by
  have hmode : ¬ 0o7777 < entry.mode := UInt32.not_lt.mpr entry.mode_le
  have hnanoseconds : ¬ 1000000000 ≤ entry.modificationTime.nanoseconds :=
    UInt32.not_le.mpr entry.nanoseconds_lt
  rw [make, dif_neg hmode, dif_neg hnanoseconds]

/-- **No entry but a factory's.**  The factory of the entry's type, given the entry's members,
    returns the entry. -/
theorem factory_built (entry : PayloadEntry) : Built entry := by
  have hself := make_self entry
  obtain ⟨path, type, mode, uid, gid, size, time, symlinkTarget, hardlinkTarget, device, content,
    hmode, hnanoseconds, shape⟩ := entry
  cases type with
  | regular =>
    obtain ⟨rfl, rfl, rfl, hcontent⟩ := shape
    obtain ⟨content, rfl⟩ := Option.isSome_iff_exists.mp hcontent
    exact .regular hself
  | directory =>
    obtain ⟨rfl, rfl, rfl, rfl, rfl⟩ := shape
    exact .directory hself
  | symlink =>
    obtain ⟨rfl, ⟨target, rfl, hsafe⟩, rfl, rfl, rfl⟩ := shape
    refine .symlink (bind_ok_iff.mpr ⟨⟨(), requireLineSafe_ok_iff.mpr hsafe⟩, ?_, hself⟩)
    exact attach_ok_iff.mpr (requireLineSafe_ok_iff.mpr hsafe)
  | hardlink =>
    obtain ⟨rfl, rfl, htarget, rfl, rfl⟩ := shape
    obtain ⟨target, rfl⟩ := Option.isSome_iff_exists.mp htarget
    exact .hardlink hself
  | fifo =>
    obtain ⟨rfl, rfl, rfl, rfl, rfl⟩ := shape
    exact .fifo hself
  | characterDevice =>
    obtain ⟨rfl, rfl, rfl, hdevice, rfl⟩ := shape
    obtain ⟨device, rfl⟩ := Option.isSome_iff_exists.mp hdevice
    exact .characterDevice hself
  | blockDevice =>
    obtain ⟨rfl, rfl, rfl, hdevice, rfl⟩ := shape
    obtain ⟨device, rfl⟩ := Option.isSome_iff_exists.mp hdevice
    exact .blockDevice hself

/-- `operator==`: member by member, the eleven of them. -/
def equal (lhs rhs : PayloadEntry) : Bool :=
  lhs.path == rhs.path && lhs.type == rhs.type && lhs.mode == rhs.mode && lhs.uid == rhs.uid &&
    lhs.gid == rhs.gid && lhs.size == rhs.size && lhs.modificationTime == rhs.modificationTime &&
    lhs.symlinkTarget == rhs.symlinkTarget && lhs.hardlinkTarget == rhs.hardlinkTarget &&
    lhs.device == rhs.device && lhs.regularContent == rhs.regularContent

/-- No member is left out of the comparison. -/
theorem equal_iff {lhs rhs : PayloadEntry} : lhs.equal rhs = true ↔ lhs = rhs := by
  cases lhs; cases rhs
  simp [equal, and_assoc]

/-- A hard link always has a target. -/
theorem exists_hardlinkTarget {entry : PayloadEntry} (h : entry.type = .hardlink) :
    ∃ target, entry.hardlinkTarget = some target := by
  have hshape := entry.shape
  rw [h] at hshape
  exact Option.isSome_iff_exists.mp hshape.2.2.1

/-- Only a hard link has a target. -/
theorem hardlinkTarget_eq_none_iff {entry : PayloadEntry} :
    entry.hardlinkTarget = none ↔ entry.type ≠ .hardlink := by
  have hshape := entry.shape
  cases htype : entry.type <;> rw [htype] at hshape
  case hardlink =>
    obtain ⟨target, htarget⟩ := exists_hardlinkTarget htype
    simp [htarget]
  case regular => simpa using hshape.2.1
  all_goals simpa using hshape.2.2.1

/-- An entry with a target is a hard link, by the shape of the other types. -/
theorem type_of_hardlinkTarget {entry : PayloadEntry} {target : PayloadPath}
    (h : entry.hardlinkTarget = some target) : entry.type = .hardlink := by
  by_contra hne
  rw [hardlinkTarget_eq_none_iff.mpr hne] at h
  cases h

end PayloadEntry

end Pkgbuild

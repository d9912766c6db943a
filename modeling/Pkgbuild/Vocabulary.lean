/-
  The closed vocabularies of `model.h` and their spellings (`to_string`).

  A C++ scoped enumeration can hold values outside its enumerators, and the tests pass such values
  in (`static_cast<output_layout_kind>(99)`).  Where a public function takes an enumeration from its
  caller, `other` stands for such a value and is spelled "unknown"; where the library only ever
  produces the named enumerators, there is no `other`.

  The spellings go into the hashed records, so what matters about them is that they are told apart:
  one `_toText_inj` lemma for each vocabulary with more than one enumerator.
-/
import Pkgbuild.Identity

namespace Pkgbuild

/-- `input_scope`, of a build input.  `input_scope_from` makes it from a requirement's scope and
    refuses the scopes there is no word for. -/
inductive InputScope where
  | build
  | check
deriving DecidableEq

/-- Its word in the record of an input. -/
def InputScope.toText : InputScope → Text
  | .build => literal "build"
  | .check => literal "check"

/-- `locale_policy`: the one locale a hermetic environment has. -/
inductive LocalePolicy where
  | cUtf8
deriving DecidableEq

def LocalePolicy.toText : LocalePolicy → Text
  | .cUtf8 => literal "C.UTF-8"

/-- `timezone_policy`: the one time zone a hermetic environment has. -/
inductive TimezonePolicy where
  | utc
deriving DecidableEq

def TimezonePolicy.toText : TimezonePolicy → Text
  | .utc => literal "UTC"

/-- `network_policy`: the one answer a hermetic environment gives to the network. -/
inductive NetworkPolicy where
  | denied
deriving DecidableEq

def NetworkPolicy.toText : NetworkPolicy → Text
  | .denied => literal "denied"

/-- `home_policy`: the one home directory a hermetic environment has. -/
inductive HomePolicy where
  | isolated
deriving DecidableEq

def HomePolicy.toText : HomePolicy → Text
  | .isolated => literal "isolated"

/-- `output_layout_kind`.  `build_policy::make` takes it from its caller, and refuses what is not
    `packageRoot`. -/
inductive OutputLayoutKind where
  | packageRoot
  | other (value : Nat)
deriving DecidableEq

/-- Its word in the record of a policy; no policy is made with "unknown". -/
def OutputLayoutKind.toText : OutputLayoutKind → Text
  | .packageRoot => literal "package-root"
  | .other _ => literal "unknown"

/-- `payload_entry_type`: the seven kinds of object, one factory for each. -/
inductive PayloadEntryType where
  | regular
  | directory
  | symlink
  | hardlink
  | fifo
  | characterDevice
  | blockDevice
deriving DecidableEq

/-- Its word, the second field of an entry's record; what it is decides how the rest reads. -/
def PayloadEntryType.toText : PayloadEntryType → Text
  | .regular => literal "regular"
  | .directory => literal "directory"
  | .symlink => literal "symlink"
  | .hardlink => literal "hardlink"
  | .fifo => literal "fifo"
  | .characterDevice => literal "character-device"
  | .blockDevice => literal "block-device"

/-- `artifact_encoding`.  `sealed_artifact::make` takes it from its caller, and refuses what is not
    `packageTar`. -/
inductive ArtifactEncoding where
  | packageTar
  | other (value : Nat)
deriving DecidableEq

/-- Its word in the record of an artifact. -/
def ArtifactEncoding.toText : ArtifactEncoding → Text
  | .packageTar => literal "package-tar"
  | .other _ => literal "unknown"

/-- `artifact_compression`.  `sealed_artifact::make` takes it from its caller, and refuses what is
    not one of the four. -/
inductive ArtifactCompression where
  | none
  | gzip
  | xz
  | zstd
  | other (value : Nat)
deriving DecidableEq

/-- Its word in the record of an artifact. -/
def ArtifactCompression.toText : ArtifactCompression → Text
  | .none => literal "none"
  | .gzip => literal "gzip"
  | .xz => literal "xz"
  | .zstd => literal "zstd"
  | .other _ => literal "unknown"

/-- A compression `sealed_artifact::make` lets through. -/
def ArtifactCompression.Supported : ArtifactCompression → Prop
  | .none | .gzip | .xz | .zstd => True
  | .other _ => False

instance : DecidablePred ArtifactCompression.Supported := fun compression =>
  match compression with
  | .none | .gzip | .xz | .zstd => isTrue trivial
  | .other _ => isFalse id

/-- `build_outcome`: which of the two factories a build result came from. -/
inductive BuildOutcome where
  | succeeded
  | failed
deriving DecidableEq

/-- Its word, the second field of a result's record.  The two kinds of result share their domain,
    and this is what tells them apart. -/
def BuildOutcome.toText : BuildOutcome → Text
  | .succeeded => literal "succeeded"
  | .failed => literal "failed"

/-! ## Spellings are told apart -/

/-- No two scopes are spelled alike, so an input's record says which scope it is of. -/
theorem InputScope.toText_inj : ∀ {a b : InputScope}, a.toText = b.toText → a = b := by
  intro a b h
  cases a <;> cases b <;> first | rfl | exact absurd h (by decide)

/-- No two of the seven types are spelled alike, so the record of an entry says which members
    follow. -/
theorem PayloadEntryType.toText_inj : ∀ {a b : PayloadEntryType}, a.toText = b.toText → a = b := by
  intro a b h
  cases a <;> cases b <;> first | rfl | exact absurd h (by decide)

/-- Past the check of `make` no two compressions are spelled alike; "unknown" would be a word for
    many. -/
theorem ArtifactCompression.toText_inj {a b : ArtifactCompression} (ha : a.Supported)
    (hb : b.Supported) (h : a.toText = b.toText) : a = b := by
  cases a <;> cases b <;>
    first | rfl | exact ha.elim | exact hb.elim | exact absurd h (by decide)

end Pkgbuild

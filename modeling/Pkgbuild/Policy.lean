/-
  Closed build policies: `environment_policy` (`model.cpp`) and `build_policy` (`request.cpp`).

  An environment policy fixes locale, time zone, network and home, and takes three numbers from the
  caller; `hermetic` is the only way to make one, so its checks and the identity it computed are
  fields.  A build policy is an environment policy and an output layout under one more identity.
-/
import Pkgbuild.PayloadPath
import Pkgbuild.Vocabulary

namespace Pkgbuild

open Checked

/-- `invalid` of `request.cpp`. -/
def invalidRequest (message : Bytes) : Error := ⟨.invalidRequest, message⟩

/-! ## Environment policies -/

/-- What `environment_id` writes.  The fixed policies are written too, so that an environment of
    another kind could not have the same record. -/
def environmentRecord (parallelism fileCreationMask : UInt32) (sourceDateEpoch : Option Int64) :
    IdentityWriter :=
  let writer := IdentityWriter.new.text (literal "libpkgbuild/environment-policy/1")
  let writer := writer.text LocalePolicy.cUtf8.toText
  let writer := writer.text TimezonePolicy.utc.toText
  let writer := writer.text NetworkPolicy.denied.toText
  let writer := writer.text HomePolicy.isolated.toText
  let writer := writer.number parallelism.toUInt64
  let writer := writer.number fileCreationMask.toUInt64
  let writer := writer.boolean sourceDateEpoch.isSome
  match sourceDateEpoch with
    | some epoch => writer.number epoch.toUInt64
    | none => writer

/-- `environment_id`. -/
def environmentId (sha256 : Sha256) (parallelism fileCreationMask : UInt32)
    (sourceDateEpoch : Option Int64) : Except Error EnvironmentPolicyIdentity :=
  Identity.fromSha256 _
    ((environmentRecord parallelism fileCreationMask sourceDateEpoch).finish sha256)

/-- `source_date_epoch && *source_date_epoch < 0`. -/
def NegativeEpoch (sourceDateEpoch : Option Int64) : Prop := ∃ epoch ∈ sourceDateEpoch, epoch < 0

instance (sourceDateEpoch : Option Int64) : Decidable (NegativeEpoch sourceDateEpoch) :=
  match sourceDateEpoch with
  | none => isFalse (by rintro ⟨_, h, -⟩; cases h)
  | some epoch => decidable_of_iff (epoch < 0) (by simp [NegativeEpoch])

/-- `environment_policy`: what the caller may choose, with the checks it passed, and the identity
    computed from it. -/
structure EnvironmentPolicy (sha256 : Sha256) where
  parallelism : UInt32
  fileCreationMask : UInt32
  sourceDateEpoch : Option Int64
  identity : EnvironmentPolicyIdentity
  parallelism_ne_zero : parallelism ≠ 0
  fileCreationMask_le : ¬ 0o777 < fileCreationMask
  sourceDateEpoch_nonneg : ¬ NegativeEpoch sourceDateEpoch
  identity_eq : environmentId sha256 parallelism fileCreationMask sourceDateEpoch = .ok identity

/-- `environment_policy::hermetic`: the parallelism is checked first, then the mask, then the epoch.
    -/
def EnvironmentPolicy.hermetic (sha256 : Sha256) (parallelism fileCreationMask : UInt32)
    (sourceDateEpoch : Option Int64) : Except Error (EnvironmentPolicy sha256) := do
  let positive ← attach (refuse (parallelism = 0)
    (invalidModel (ascii "build parallelism must be greater than zero")))
  let posix ← attach (refuse (0o777 < fileCreationMask)
    (invalidModel (ascii "file creation mask exceeds POSIX permission bits")))
  let epoch ← attach (refuse (NegativeEpoch sourceDateEpoch)
    (invalidModel (ascii "SOURCE_DATE_EPOCH must not be negative")))
  let identity ← attach (environmentId sha256 parallelism fileCreationMask sourceDateEpoch)
  return ⟨parallelism, fileCreationMask, sourceDateEpoch, identity.1, refuse_ok_iff.mp positive.2,
    refuse_ok_iff.mp posix.2, refuse_ok_iff.mp epoch.2, identity.2⟩

namespace EnvironmentPolicy

variable {sha256 : Sha256} (policy : EnvironmentPolicy sha256)

/-- `locale()`.  The four fixed policies have no member: every environment is hermetic. -/
def locale (_ : EnvironmentPolicy sha256) : LocalePolicy := .cUtf8
/-- `timezone()`. -/
def timezone (_ : EnvironmentPolicy sha256) : TimezonePolicy := .utc
/-- `network()`. -/
def network (_ : EnvironmentPolicy sha256) : NetworkPolicy := .denied
/-- `home()`. -/
def home (_ : EnvironmentPolicy sha256) : HomePolicy := .isolated

/-- `hermetic` accepts exactly its documented range; the identity is computed last and never
    refused. -/
theorem exists_hermetic_iff {parallelism fileCreationMask : UInt32}
    {sourceDateEpoch : Option Int64} :
    (∃ policy, hermetic sha256 parallelism fileCreationMask sourceDateEpoch = .ok policy) ↔
      parallelism ≠ 0 ∧ ¬ 0o777 < fileCreationMask ∧ ¬ NegativeEpoch sourceDateEpoch := by
  constructor
  · rintro ⟨policy, h⟩
    unfold hermetic at h
    obtain ⟨⟨_, hpositive⟩, -, h⟩ := bind_ok_iff.mp h
    obtain ⟨⟨_, hposix⟩, -, h⟩ := bind_ok_iff.mp h
    obtain ⟨⟨_, hepoch⟩, -, h⟩ := bind_ok_iff.mp h
    exact ⟨refuse_ok_iff.mp hpositive, refuse_ok_iff.mp hposix, refuse_ok_iff.mp hepoch⟩
  · rintro ⟨hpositive, hposix, hepoch⟩
    unfold hermetic
    simp only [bind_ok_iff, pure_ok_iff, attach_ok_iff]
    exact ⟨_, ⟨(), refuse_ok_iff.mpr hpositive⟩, refuse_ok_iff.mpr hpositive,
      ⟨(), refuse_ok_iff.mpr hposix⟩, refuse_ok_iff.mpr hposix,
      ⟨(), refuse_ok_iff.mpr hepoch⟩, refuse_ok_iff.mpr hepoch,
      ⟨_, Identity.fromSha256_finish _ _ _⟩, Identity.fromSha256_finish _ _ _, rfl⟩

end EnvironmentPolicy

/-! ## Build policies -/

/-- What `policy_id` writes: the environment by its identity, and the word for the layout. -/
def policyRecord {sha256 : Sha256} (environment : EnvironmentPolicy sha256)
    (outputLayout : OutputLayoutKind) : IdentityWriter :=
  let writer := IdentityWriter.new.text (literal "libpkgbuild/build-policy/1")
  let writer := writer.text environment.identity.text
  writer.text outputLayout.toText

/-- `policy_id`. -/
def policyId {sha256 : Sha256} (environment : EnvironmentPolicy sha256)
    (outputLayout : OutputLayoutKind) : Except Error BuildPolicyIdentity :=
  Identity.fromSha256 _ ((policyRecord environment outputLayout).finish sha256)

/-- `build_policy`: an environment and the one layout there is, with the identity computed from
    them. -/
structure BuildPolicy (sha256 : Sha256) where
  environment : EnvironmentPolicy sha256
  outputLayout : OutputLayoutKind
  identity : BuildPolicyIdentity
  outputLayout_eq : outputLayout = .packageRoot
  identity_eq : policyId environment outputLayout = .ok identity

/-- `build_policy::make`: the layout is checked, and then the identity computed. -/
def BuildPolicy.make {sha256 : Sha256} (environment : EnvironmentPolicy sha256)
    (outputLayout : OutputLayoutKind) : Except Error (BuildPolicy sha256) := do
  let supported ← attach (refuse (outputLayout ≠ .packageRoot)
    (invalidRequest (ascii "unsupported build output layout")))
  let identity ← attach (policyId environment outputLayout)
  return ⟨environment, outputLayout, identity.1, not_not.mp (refuse_ok_iff.mp supported.2),
    identity.2⟩

end Pkgbuild

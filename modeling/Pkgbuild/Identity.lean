/-
  Identities, and the canonical record stream they are digests of
  (`identity_support.cpp`, `identity.cpp`, `error.cpp`).

  1. **Strings** — a `std::string` is a byte list whose size fits `size_t` (`Text`).  Comparison is
     byte-wise, as `std::char_traits<char>` has it.
  2. **Errors** — `pkgbuild::error` is a code and a message, and every refusal below is an
     `Except Error` with the message of the source.
  3. **Digests in hexadecimal** — `identity_writer::finish` renders 32 bytes two digits each;
     `require_sha256_hex` accepts 64 lower-case digits.  Every rendered digest is accepted
     (`renderHex_canonical`) and no two digests are rendered alike (`renderHex_injective`).
  4. **Identities** — the eleven classes of `PKGBUILD_DEFINE_IDENTITY` are one structure over their
     `Domain`; what their constructor checks is carried by `Sha256Hex`.
  5. **The writer** — `identity_writer` as the byte stream handed to OpenSSL so far.  SHA-256 is a
     PARAMETER, any function from streams to 32 bytes, and no call fails; the class as it is, with
     an OpenSSL any call of which may fail, is in `WriterObject`.
-/
import Mathlib.Algebra.Ring.Nat
import Pkgbuild.Base.BlockCode
import Pkgbuild.Base.Checked

namespace Pkgbuild

open Checked

/-! ## Strings -/

/-- The contents of a string or of a buffer.  Bytes are compared and never decoded: no encoding is
    assumed of a name, a path or a message. -/
abbrev Bytes := List UInt8

/-- The bytes of a string literal of the source (all of them are ASCII). -/
def ascii (s : String) : Bytes := s.toList.map fun c => c.toNat.toUInt8

/-- A `std::string`: any bytes, as many as `size_t` can count. -/
structure Text where
  bytes : Bytes
  size_lt : bytes.length < 2 ^ 64
deriving DecidableEq

/-- `value.size()`. -/
def Text.size (value : Text) : UInt64 := UInt64.ofNat value.bytes.length

/-- A string literal as a string. -/
def literal (s : String) (h : (ascii s).length < 2 ^ 64 := by decide) : Text := ⟨ascii s, h⟩

/-- A string is its bytes; the bound on its length is a fact about them and adds nothing. -/
theorem Text.ext {a b : Text} (h : a.bytes = b.bytes) : a = b := by
  cases a; cases b; cases h; rfl

/-! ## Errors -/

/-- `error_code`, as far as the modelled calls throw it. -/
inductive ErrorCode where
  | invalidIdentity
  | identityFailed
  | invalidModel
  | invalidRequest
  | invalidResult
deriving DecidableEq

/-- `error`: the code, and the message as `what()` returns it. -/
structure Error where
  code : ErrorCode
  message : Bytes
deriving DecidableEq

/-! ## Digests in hexadecimal -/

/-- What SHA-256 returns. -/
abbrev Digest := Vector UInt8 32

/-- The hash function, known only as a function of the stream it is given; nothing is assumed of it,
    so whatever it could break on is said where it is used (`Collides`). -/
abbrev Sha256 := Bytes → Digest

/-- `out << std::hex << n`: the digits of `n`, no more of them than needed.  The stream has the
    global locale, since `finish` does not imbue the classic one; this is what it prints under a
    locale that does not group digits. -/
def streamHex (n : Nat) : Bytes := (Nat.toDigits 16 n).map fun c => c.toNat.toUInt8

/-- `std::setw(width)` under `std::setfill(fill)`, right-adjusted.  It fills up and never cuts. -/
def setw (width : Nat) (fill : UInt8) (value : Bytes) : Bytes :=
  List.replicate (width - value.length) fill ++ value

/-- One turn of the rendering loop of `finish`. -/
def renderByte (byte : UInt8) : Bytes := setw 2 0x30 (streamHex byte.toNat)

/-- The text `finish` builds from the 32 digest bytes, which are all of what OpenSSL wrote: another
    size was refused before. -/
def renderHex (digest : Digest) : Bytes := digest.toList.flatMap renderByte

/-- A digit `0`-`9` or `a`-`f`. -/
def IsHexByte (byte : UInt8) : Prop :=
  (0x30 ≤ byte ∧ byte ≤ 0x39) ∨ (0x61 ≤ byte ∧ byte ≤ 0x66)

instance (byte : UInt8) : Decidable (IsHexByte byte) := inferInstanceAs (Decidable (_ ∨ _))

/-- `require_sha256_hex`.  The width is checked before any byte is looked at, and both refusals have
    the code `invalid_identity`. -/
def requireSha256Hex (value : Bytes) : Except Error Unit := do
  refuse (value.length ≠ 64) ⟨.invalidIdentity, ascii "SHA-256 value has wrong width"⟩
  forM value fun byte =>
    refuse (¬ IsHexByte byte)
      ⟨.invalidIdentity, ascii "SHA-256 value is not canonical lowercase hexadecimal"⟩

/-- What `requireSha256Hex` accepts: 64 lower-case hexadecimal digits. -/
def IsSha256Hex (value : Bytes) : Prop := value.length = 64 ∧ ∀ byte ∈ value, IsHexByte byte

/-- The check against what it accepts: its early exits change which text is thrown, not what gets
    through. -/
theorem requireSha256Hex_ok_iff {value : Bytes} {u : Unit} :
    requireSha256Hex value = .ok u ↔ IsSha256Hex value := by
  unfold requireSha256Hex IsSha256Hex
  simp [bind_ok_iff, forM_ok_iff]

/-- Hexadecimal text that passed `require_sha256_hex`. -/
structure Sha256Hex where
  hex : Bytes
  canonical : IsSha256Hex hex
deriving DecidableEq

namespace Sha256Hex

/-- `require_sha256_hex(hex)`, and the text that passed. -/
def check (hex : Bytes) : Except Error Sha256Hex := do
  let checked ← attach (requireSha256Hex hex)
  return ⟨hex, requireSha256Hex_ok_iff.mp checked.2⟩

/-- `hex()` as the writer receives it. -/
def text (value : Sha256Hex) : Text := ⟨value.hex, by rw [value.canonical.1]; decide⟩

theorem ext {a b : Sha256Hex} (h : a.hex = b.hex) : a = b := by
  cases a; cases b; cases h; rfl

/-- A value comes out of the check exactly for its own text, so whoever holds a value knows the
    check would pass again. -/
theorem check_ok_iff {hex : Bytes} {value : Sha256Hex} :
    check hex = .ok value ↔ value.hex = hex := by
  unfold check
  rw [bind_ok_iff]
  constructor
  · rintro ⟨_, -, h⟩
    exact (pure_ok_iff.mp h) ▸ rfl
  · rintro rfl
    have hok : requireSha256Hex value.hex = .ok () := requireSha256Hex_ok_iff.mpr value.canonical
    exact ⟨⟨(), hok⟩, attach_ok_iff.mpr hok, rfl⟩

end Sha256Hex

/-- The digit of a nibble. -/
def hexDigit (n : Nat) : UInt8 := if n < 10 then 0x30 + n.toUInt8 else 0x57 + n.toUInt8

/-- Width and fill give every byte exactly its two nibbles, the high one first. -/
theorem renderByte_eq (byte : UInt8) :
    renderByte byte = [hexDigit (byte.toNat / 16), hexDigit (byte.toNat % 16)] := by
  have hall : ∀ n < 256, setw 2 0x30 (streamHex n) = [hexDigit (n / 16), hexDigit (n % 16)] := by
    -- the formatting of all 256 bytes is compared with the table of digits
    decide +kernel
  exact hall byte.toNat byte.toNat_lt

/-- What the renderer writes for a nibble is in one of the two ranges the check asks for. -/
theorem hexDigit_isHexByte {n : Nat} (h : n < 16) : IsHexByte (hexDigit n) := by
  have hall : ∀ n < 16, IsHexByte (hexDigit n) := by decide
  exact hall n h

/-- Sixteen nibbles have sixteen digits: the decimal digits and the letters do not overlap. -/
theorem hexDigit_inj {m n : Nat} (hm : m < 16) (hn : n < 16) (h : hexDigit m = hexDigit n) :
    m = n := by
  have hall : ∀ m < 16, ∀ n < 16, hexDigit m = hexDigit n → m = n := by decide
  exact hall m hm n hn h

/-- Two digits give both nibbles of a byte back, and so the byte. -/
theorem renderByte_inj {a b : UInt8} (h : renderByte a = renderByte b) : a = b := by
  rw [renderByte_eq, renderByte_eq] at h
  obtain ⟨hhigh, hlow⟩ := List.cons.inj h
  have ha := a.toNat_lt
  have hb := b.toNat_lt
  have hdiv := hexDigit_inj (by omega) (by omega) hhigh
  have hmod := hexDigit_inj (by omega) (by omega) (List.cons.inj hlow).1
  -- a byte is sixteen times its high nibble and the low one
  exact UInt8.toNat_inj.mp (by omega)

/-- Two digits a byte, whatever the byte. -/
def hexCode : BlockCode UInt8 UInt8 where
  block := renderByte
  width := 2
  length_block byte := by rw [renderByte_eq]; rfl
  block_inj := renderByte_inj

/-- A digest is rendered byte by byte, so what holds of all block codes holds of the rendering. -/
theorem renderHex_eq (digest : Digest) : renderHex digest = hexCode.encode digest.toList := rfl

/-- **Every rendered digest is accepted** by the check on its way back in. -/
theorem renderHex_canonical (digest : Digest) : IsSha256Hex (renderHex digest) := by
  refine ⟨?_, fun byte hbyte => ?_⟩
  · rw [renderHex_eq, hexCode.length_encode, Vector.length_toList]
    rfl
  · obtain ⟨b, -, hb⟩ := List.mem_flatMap.mp hbyte
    have hlt := b.toNat_lt
    rw [renderByte_eq] at hb
    rcases List.mem_cons.mp hb with rfl | hb
    · exact hexDigit_isHexByte (by omega)
    · rw [List.mem_singleton.mp hb]
      exact hexDigit_isHexByte (by omega)

/-- No two digests are rendered alike. -/
theorem renderHex_injective {a b : Digest} (h : renderHex a = renderHex b) : a = b := by
  have hlength : a.toList.length = b.toList.length := by
    rw [Vector.length_toList, Vector.length_toList]
  exact Vector.toList_inj.mp (hexCode.encode_inj hlength h)

/-! ## Identities -/

/-- The identity classes of `identity.h`, one for each use of `PKGBUILD_DEFINE_IDENTITY`. -/
inductive Domain where
  | buildInput
  | buildInputSet
  | environmentPolicy
  | buildPolicy
  | buildRequest
  | payloadManifest
  | artifact
  | artifactBinding
  | executionEvidence
  | failureEvidence
  | buildResult
deriving DecidableEq

/-- A value of one identity class.  The classes differ in nothing but their name, which keeps an
    identity of one kind from being taken for one of another. -/
structure Identity (d : Domain) extends Sha256Hex
deriving DecidableEq

/-- Of a scope, an edge and the selection it requires. -/
abbrev BuildInputIdentity := Identity .buildInput
/-- Of a resolution, a subject and the identities of its inputs in their sorted order. -/
abbrev BuildInputSetIdentity := Identity .buildInputSet
/-- Of the hermetic environment: its fixed policies, the parallelism, the mask and the epoch. -/
abbrev EnvironmentPolicyIdentity := Identity .environmentPolicy
/-- Of an environment and an output layout. -/
abbrev BuildPolicyIdentity := Identity .buildPolicy
/-- Of a source, an input set, two architectures and a policy. -/
abbrev BuildRequestIdentity := Identity .buildRequest
/-- Of the entries of a payload, in the order of the vector. -/
abbrev PayloadManifestIdentity := Identity .payloadManifest
/-- Of an encoding, a compression, a byte count and the digest of the complete artifact. -/
abbrev ArtifactIdentity := Identity .artifact
/-- Of a request, a payload and an artifact that belong together. -/
abbrev ArtifactBindingIdentity := Identity .artifactBinding
/-- Handed over by the executor; this library writes it into a result and never computes one. -/
abbrev ExecutionEvidenceIdentity := Identity .executionEvidence
/-- Handed over by the executor, for a build that failed. -/
abbrev FailureEvidenceIdentity := Identity .failureEvidence
/-- Of a result, whichever of the two outcomes it has. -/
abbrev BuildResultIdentity := Identity .buildResult

namespace Identity

variable {d : Domain}

/-- `type_name::from_sha256`, public: the caller's text is checked like any other. -/
def fromSha256 (d : Domain) (hex : Bytes) : Except Error (Identity d) := do
  let checked ← Sha256Hex.check hex
  return ⟨checked⟩

/-- `operator<`: the hexadecimal texts, byte-wise. -/
def less (lhs rhs : Identity d) : Bool := decide (lhs.hex < rhs.hex)

theorem ext {a b : Identity d} (h : a.hex = b.hex) : a = b := by
  cases a; cases b
  exact congrArg mk (Sha256Hex.ext h)

theorem text_inj {a b : Identity d} (h : a.text = b.text) : a = b :=
  ext (congrArg Text.bytes h)

/-- A text becomes an identity exactly when it is the text of one; the class adds no check of its
    own. -/
theorem fromSha256_ok_iff {hex : Bytes} {identity : Identity d} :
    fromSha256 d hex = .ok identity ↔ identity.hex = hex := by
  unfold fromSha256
  rw [bind_ok_iff]
  constructor
  · rintro ⟨checked, hchecked, h⟩
    obtain rfl := pure_ok_iff.mp h
    exact Sha256Hex.check_ok_iff.mp hchecked
  · intro h
    exact ⟨identity.toSha256Hex, Sha256Hex.check_ok_iff.mpr h, rfl⟩

/-- The identity of a digest. -/
def ofDigest (d : Domain) (digest : Digest) : Identity d :=
  ⟨⟨renderHex digest, renderHex_canonical digest⟩⟩

/-- Identities of one class are equal only if the digests are, since the rendering loses nothing. -/
theorem ofDigest_inj {a b : Digest} (h : ofDigest d a = ofDigest d b) : a = b :=
  renderHex_injective (congrArg (fun identity => identity.hex) h)

end Identity

/-! ## The writer -/

/-- The eight bytes of `number`, filled in from the last one back: byte `index` from the end
    holds bits `8 * index` and up. -/
def bigEndian (value : UInt64) : Bytes :=
  (List.range 8).foldl (fun bytes index => (value >>> (8 * index.toUInt64)).toUInt8 :: bytes) []

/-- `identity_writer`: the stream hashed so far.  The three methods append to it and `finish` reads
    it. -/
structure IdentityWriter where
  stream : Bytes

namespace IdentityWriter

/-- A fresh digest context. -/
def new : IdentityWriter := ⟨[]⟩

/-- `number`: the eight bytes of the value, whatever the value, so that the reader of a stream knows
    where the next field starts. -/
def number (writer : IdentityWriter) (value : UInt64) : IdentityWriter :=
  ⟨writer.stream ++ bigEndian value⟩

/-- `text`: the length as a number and then the bytes; without the length two texts in a row could
    be cut in more than one place. -/
def text (writer : IdentityWriter) (value : Text) : IdentityWriter :=
  ⟨(writer.number value.size).stream ++ value.bytes⟩

/-- `boolean`: a number that is 0 or 1. -/
def boolean (writer : IdentityWriter) (value : Bool) : IdentityWriter :=
  writer.number (if value then 1 else 0)

/-- Hash the stream and render the digest. -/
def finish (sha256 : Sha256) (writer : IdentityWriter) : Bytes := renderHex (sha256 writer.stream)

end IdentityWriter

/-- `type_name::from_sha256(writer.finish())` never refuses: it is the identity of the digest. -/
theorem Identity.fromSha256_finish (d : Domain) (sha256 : Sha256) (writer : IdentityWriter) :
    fromSha256 d (writer.finish sha256) = .ok (ofDigest d (sha256 writer.stream)) :=
  fromSha256_ok_iff.mpr rfl

/-- So it avoids every error. -/
theorem Identity.avoids_finish {bad : Error → Prop} {d : Domain} {sha256 : Sha256}
    {writer : IdentityWriter} : Avoids bad (fromSha256 d (writer.finish sha256)) := by
  rw [fromSha256_finish]
  exact avoids_ok

/-- An identity computed by the library is that of the digest of its stream. -/
theorem Identity.eq_ofDigest {d : Domain} {sha256 : Sha256} {writer : IdentityWriter}
    {identity : Identity d} (h : fromSha256 d (writer.finish sha256) = .ok identity) :
    identity = ofDigest d (sha256 writer.stream) :=
  Except.ok.inj (h.symm.trans (fromSha256_finish d sha256 writer))

end Pkgbuild

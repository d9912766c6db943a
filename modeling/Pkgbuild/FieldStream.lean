/-
  The canonical record format, field by field.

  `identity_writer` tags nothing: `text("")`, `number(0)` and `boolean(false)` all write eight zero
  bytes.  What it does give is a `Code` in the sense of `RecordCode` — a field is cut off a stream
  in only one way ONCE ITS KIND IS KNOWN:

  * a number is eight bytes and they determine it (`bigEndian_injective`);
  * a boolean is the number 0 or 1;
  * a text is its size, as a number, and then exactly that many bytes.

  So every general result about codes holds of the streams the writer produces, and the identity of
  a record is a digest of `fieldCode.emitAll` of its fields (`stream_writeAll`).
-/
import Pkgbuild.Base.RecordCode
import Pkgbuild.Identity

namespace Pkgbuild

open RecordCode

/-! ## Fields -/

/-- One call on the writer, as data: a record is a list of these. -/
inductive Field where
  | text (value : Text)
  | number (value : UInt64)
  | boolean (value : Bool)
deriving DecidableEq

/-- The kinds of fields.  The stream does not say which kind comes next: a reader has to know. -/
inductive FieldKind where
  | text
  | number
  | boolean
deriving DecidableEq

/-- The kind of a field. -/
def Field.kind : Field → FieldKind
  | .text _ => .text
  | .number _ => .number
  | .boolean _ => .boolean

namespace IdentityWriter

/-- The call a field stands for. -/
def write (writer : IdentityWriter) : Field → IdentityWriter
  | .text value => writer.text value
  | .number value => writer.number value
  | .boolean value => writer.boolean value

/-- A sequence of calls. -/
def writeAll (writer : IdentityWriter) (fields : List Field) : IdentityWriter :=
  fields.foldl write writer

/-- A number adds its eight bytes. -/
@[simp] theorem stream_number (writer : IdentityWriter) (value : UInt64) :
    (writer.number value).stream = writer.stream ++ bigEndian value := rfl

/-- A text adds its size and its bytes. -/
@[simp] theorem stream_text (writer : IdentityWriter) (value : Text) :
    (writer.text value).stream = writer.stream ++ (bigEndian value.size ++ value.bytes) := by
  simp [text]

/-- A boolean adds the eight bytes of 0 or 1. -/
@[simp] theorem stream_boolean (writer : IdentityWriter) (value : Bool) :
    (writer.boolean value).stream = writer.stream ++ bigEndian (if value then 1 else 0) := rfl

end IdentityWriter

/-- The bytes a field adds to a stream. -/
def Field.emit (field : Field) : Bytes := (IdentityWriter.new.write field).stream

/-- What a text adds does not depend on what was written before. -/
theorem Field.emit_text (value : Text) :
    (Field.text value).emit = bigEndian value.size ++ value.bytes := by
  simp [emit, IdentityWriter.write, IdentityWriter.new]

/-! ## Cutting a field off a stream -/

/-- Eight bytes, whatever the number. -/
theorem length_bigEndian (value : UInt64) : (bigEndian value).length = 8 := rfl

/-- Byte `8 - index` of a number, as a natural number. -/
theorem toNat_shiftRight_toUInt8 (value : UInt64) {shift : UInt64} (h : shift.toNat < 64) :
    (value >>> shift).toUInt8.toNat = value.toNat / 2 ^ shift.toNat % 256 := by
  rw [UInt64.toNat_toUInt8, UInt64.toNat_shiftRight, Nat.mod_eq_of_lt h, Nat.shiftRight_eq_div_pow]

/-- Numbers below `256 ^ n` with the same `n` base-256 digits are equal. -/
theorem eq_of_digits : ∀ (n : Nat) {a b : Nat}, a < 256 ^ n → b < 256 ^ n →
    (∀ index < n, a / 256 ^ index % 256 = b / 256 ^ index % 256) → a = b
  | 0, a, b, ha, hb, _ => by
      rw [Nat.pow_zero] at ha hb
      omega
  | n + 1, a, b, ha, hb, h => by
      rw [Nat.pow_succ] at ha hb
      have hlow := h 0 (by omega)
      rw [Nat.pow_zero, Nat.div_one, Nat.div_one] at hlow
      have hhigh : a / 256 = b / 256 := by
        refine eq_of_digits n (Nat.div_lt_of_lt_mul (by omega)) (Nat.div_lt_of_lt_mul (by omega)) ?_
        intro index hindex
        have hdigit := h (index + 1) (by omega)
        rwa [Nat.pow_succ', ← Nat.div_div_eq_div_mul, ← Nat.div_div_eq_div_mul] at hdigit
      omega

/-- Eight bytes determine the number. -/
theorem bigEndian_injective {a b : UInt64} (h : bigEndian a = bigEndian b) : a = b := by
  have hbyte : ∀ index < 8, a.toNat / 256 ^ index % 256 = b.toNat / 256 ^ index % 256 := by
    -- the eight bytes are the digits of the number to base 256
    have hall : ∀ index ∈ List.range 8, (a >>> (8 * index.toUInt64)).toUInt8
        = (b >>> (8 * index.toUInt64)).toUInt8 := by
      simp only [bigEndian, List.range_succ, List.range_zero, List.nil_append, List.cons_append,
        List.foldl_cons, List.foldl_nil, List.cons.injEq] at h
      simp only [List.range_succ, List.range_zero, List.nil_append, List.cons_append,
        List.forall_mem_cons]
      obtain ⟨h7, h6, h5, h4, h3, h2, h1, h0, -⟩ := h
      exact ⟨h0, h1, h2, h3, h4, h5, h6, h7, by simp⟩
    intro index hindex
    have hshift : (8 * index.toUInt64).toNat = 8 * index := by
      have hi : index.toUInt64.toNat = index := by
        show (UInt64.ofNat index).toNat = index
        rw [UInt64.toNat_ofNat', Nat.mod_eq_of_lt (by omega)]
      rw [UInt64.toNat_mul, hi]
      show 8 * index % 2 ^ 64 = 8 * index
      omega
    have heq := congrArg UInt8.toNat (hall index (List.mem_range.mpr hindex))
    rw [toNat_shiftRight_toUInt8 a (by omega), toNat_shiftRight_toUInt8 b (by omega), hshift,
      Nat.pow_mul] at heq
    exact heq
  exact UInt64.toNat_inj.mp (eq_of_digits 8 a.toNat_lt b.toNat_lt hbyte)

/-- So a number is cut off a stream by its width. -/
theorem bigEndian_cut {a b : UInt64} {u v : Bytes} (h : bigEndian a ++ u = bigEndian b ++ v) :
    a = b ∧ u = v := by
  obtain ⟨hab, huv⟩ := List.append_inj h (by rw [length_bigEndian, length_bigEndian])
  exact ⟨bigEndian_injective hab, huv⟩

/-- A text is cut off a stream by its size. -/
theorem emit_text_cut {a b : Text} {u v : Bytes}
    (h : (Field.text a).emit ++ u = (Field.text b).emit ++ v) : a = b ∧ u = v := by
  rw [Field.emit_text, Field.emit_text, List.append_assoc, List.append_assoc] at h
  obtain ⟨hsize, hrest⟩ := bigEndian_cut h
  have hlength : a.bytes.length = b.bytes.length := by
    have hnat := congrArg UInt64.toNat hsize
    rwa [Text.size, Text.size, UInt64.toNat_ofNat', UInt64.toNat_ofNat',
      Nat.mod_eq_of_lt a.size_lt, Nat.mod_eq_of_lt b.size_lt] at hnat
  obtain ⟨hbytes, huv⟩ := List.append_inj hrest hlength
  exact ⟨Text.ext hbytes, huv⟩

/-- **The writer's fields form a code**: self-delimiting once the kind is known. -/
def fieldCode : Code Field FieldKind UInt8 where
  kind := Field.kind
  emit := Field.emit
  cut := by
    intro a b u v hkind h
    cases a with
    | text a =>
      cases b with
      | text b =>
        obtain ⟨rfl, huv⟩ := emit_text_cut h
        exact ⟨rfl, huv⟩
      | number b => cases hkind
      | boolean b => cases hkind
    | number a =>
      cases b with
      | text b => cases hkind
      | number b =>
        obtain ⟨rfl, huv⟩ := bigEndian_cut h
        exact ⟨rfl, huv⟩
      | boolean b => cases hkind
    | boolean a =>
      cases b with
      | text b => cases hkind
      | number b => cases hkind
      | boolean b =>
        obtain ⟨hab, huv⟩ := bigEndian_cut h
        cases a <;> cases b <;> first | exact ⟨rfl, huv⟩ | cases hab

/-! ## Streams of records -/

/-- A field adds its own bytes and changes nothing before them. -/
theorem stream_write (writer : IdentityWriter) (field : Field) :
    (writer.write field).stream = writer.stream ++ field.emit := by
  cases field with
  | text value => rw [Field.emit_text]; exact writer.stream_text value
  | number value => rfl
  | boolean value => rfl

/-- **What the writer hashes** is the stream of its calls' fields. -/
theorem stream_writeAll : ∀ (fields : List Field) (writer : IdentityWriter),
    (writer.writeAll fields).stream = writer.stream ++ fieldCode.emitAll fields
  | [], writer => (List.append_nil _).symm
  | field :: fields, writer => by
      show ((writer.write field).writeAll fields).stream = _
      rw [stream_writeAll fields, stream_write, emitAll_cons, List.append_assoc]
      rfl

/-- The stream of a record, from a fresh context. -/
theorem stream_new_writeAll (fields : List Field) :
    (IdentityWriter.new.writeAll fields).stream = fieldCode.emitAll fields :=
  stream_writeAll fields .new

/-- A field alone is never empty on the stream. -/
theorem emit_ne_nil (field : Field) : field.emit ≠ [] := by
  cases field <;> simp [Field.emit, IdentityWriter.write, bigEndian, List.range_succ]

/-! ## One level of hashing -/

/-- **One level.**  Without a collision, an identity determines the stream it was computed from. -/
theorem Identity.stream_eq {d : Domain} {as bs : List Bytes} {sha256 : Sha256}
    (hno : ¬ Collides sha256 (as ++ bs))
    {writer writer' : IdentityWriter} {identity identity' : Identity d}
    (hwriter : fromSha256 d (writer.finish sha256) = .ok identity)
    (hwriter' : fromSha256 d (writer'.finish sha256) = .ok identity')
    (ha : writer.stream ∈ as) (hb : writer'.stream ∈ bs) (h : identity = identity') :
    writer.stream = writer'.stream := by
  rw [eq_ofDigest hwriter, eq_ofDigest hwriter'] at h
  exact eq_of_not_collides hno (List.mem_append_left _ ha) (List.mem_append_right _ hb)
    (ofDigest_inj h)

end Pkgbuild

/-
  What a manifest identity binds: the entry vector, entry by entry and in order.

  The stream of a manifest is a domain text, a count, and the entries one after the other with
  nothing between them.  An entry is a non-empty block that is cut off a stream in only one way —
  eight fields of known kinds and four groups behind their flags — so the stream can be read back
  into entries (`manifestRecord_inj`).  Two manifests of one identity therefore hold the same
  entries, or the two streams are a collision of SHA-256.

  `operator==` of manifests asks for both, and of entries for every member
  (`PayloadEntry.equal_iff`), so the three comparisons tell the same vectors apart.
-/
import Pkgbuild.ManifestAnchors
import Pkgbuild.Records

namespace Pkgbuild

open RecordCode

variable {sha256 : Sha256}

/-! ## Reading entries back -/

/-- The bytes hashed for a manifest's identity. -/
def PayloadManifest.stream (manifest : PayloadManifest sha256) : Bytes :=
  (manifestRecord manifest.entries).stream

/-- The entries end with the stream, so their count is not needed to read them back. -/
theorem manifestRecord_inj {entries entries' : List PayloadEntry}
    (h : (manifestRecord entries).stream = (manifestRecord entries').stream) :
    entries = entries' := by
  rw [manifestRecord_eq, manifestRecord_eq, manifestFields, manifestFields] at h
  exact entries_inj (writeAll_cut (by rfl) h).2

/-! ## Manifests under their identities -/

/-- The identity is computed from the entries and nothing else. -/
theorem PayloadManifest.identity_congr {a b : PayloadManifest sha256} (h : a.entries = b.entries) :
    a.identity = b.identity := by
  rw [ext h]

section Members

variable {as bs : List Bytes}

/-- Without a collision, a manifest identity determines the entries. -/
theorem PayloadManifest.entries_eq (hno : ¬ Collides sha256 (as ++ bs))
    {a b : PayloadManifest sha256} (ha : a.stream ∈ as) (hb : b.stream ∈ bs)
    (h : a.identity = b.identity) : a.entries = b.entries :=
  manifestRecord_inj (Identity.stream_eq hno a.identity_eq b.identity_eq ha hb h)

end Members

/-- `operator==` looks at the identities too, but the entries alone decide. -/
theorem PayloadManifest.equal_iff {a b : PayloadManifest sha256} :
    a.equal b = true ↔ a.entries = b.entries := by
  rw [equal, Bool.and_eq_true, equalEntries_iff, beq_iff_eq]
  constructor
  · rintro ⟨-, hentries⟩
    exact hentries
  · intro hentries
    exact ⟨identity_congr hentries, hentries⟩

/-- Identities agree exactly when the entries do, or the two streams collide. -/
theorem PayloadManifest.identity_iff_or_collision (a b : PayloadManifest sha256) :
    (a.identity = b.identity ↔ a.entries = b.entries) ∨
      a.stream ≠ b.stream ∧ sha256 a.stream = sha256 b.stream := by
  by_cases hstream : a.stream = b.stream
  · -- one stream: one vector, and one identity with it
    have hentries : a.entries = b.entries := manifestRecord_inj hstream
    exact Or.inl ⟨fun _ => hentries, identity_congr⟩
  · rcases eq_or_ne (sha256 a.stream) (sha256 b.stream) with hdigest | hdigest
    · exact Or.inr ⟨hstream, hdigest⟩
    · refine Or.inl ⟨fun hidentity => ?_, identity_congr⟩
      rw [Identity.eq_ofDigest a.identity_eq, Identity.eq_ofDigest b.identity_eq] at hidentity
      exact absurd (Identity.ofDigest_inj hidentity) hdigest

/-- **A manifest identity binds the entry vector.**  The manifests sealed from two vectors have one
    identity exactly when the vectors are equal entry by entry, or else the two streams hashed are
    different streams of one digest; `operator==` of the manifests is equality of the vectors in any
    case.  The stream alone, of vectors sealed or not, determines the vector, and so its order. -/
theorem manifest_identity_binds (sha256 : Sha256) (xs ys : List PayloadEntry) :
    (∀ a b : PayloadManifest sha256, PayloadManifest.seal sha256 xs = .ok a →
      PayloadManifest.seal sha256 ys = .ok b →
      ((a.identity = b.identity ↔ equalEntries xs ys = true) ∨
        (manifestRecord xs).stream ≠ (manifestRecord ys).stream ∧
          sha256 (manifestRecord xs).stream = sha256 (manifestRecord ys).stream) ∧
      (a.equal b = true ↔ equalEntries xs ys = true)) ∧
    ((manifestRecord xs).stream = (manifestRecord ys).stream → xs = ys) ∧
    (xs.Perm ys → xs ≠ ys → (manifestRecord xs).stream ≠ (manifestRecord ys).stream) := by
  refine ⟨?_, manifestRecord_inj, ?_⟩
  · intro a b ha hb
    obtain rfl := seal_ok_iff.mp ha
    obtain rfl := seal_ok_iff.mp hb
    rw [equalEntries_iff]
    exact ⟨PayloadManifest.identity_iff_or_collision a b, PayloadManifest.equal_iff⟩
  · -- another order is another vector
    intro _ hne hstream
    exact hne (manifestRecord_inj hstream)

end Pkgbuild

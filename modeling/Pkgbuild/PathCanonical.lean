/-
  Payload paths are canonical: one path for each location, whatever the spelling.

  The text of a path is the canonical form of its input (`canon isName slash`), so the general facts
  about canonical forms apply once the input is in the grammar and the location is not empty:

  1. a path's own text is in the grammar again and parses to the path itself;
  2. two inputs give one path exactly when they lead to one location;
  3. a slash between two inputs is a slash between their paths.

  `payload_manifest::seal` compares nothing but these texts.  With (2), what it refuses is two
  entries at one LOCATION, and the anchor it looks for is at the LOCATION a link was spelled with
  (`Spelled.exists_seal_iff_locations`).
-/
import Pkgbuild.ManifestAnchors
import Pkgbuild.PathGrammar

namespace Pkgbuild

open Components

/-! ## Normal forms in the grammar -/

section Grammar

variable {input other : Bytes}

theorem InGrammar.location_ne_nil (h : InGrammar input) : location input ≠ [] :=
  location_ne_nil_iff.mpr h.named

/-- The normal form is cut into the named components and nothing else. -/
theorem InGrammar.components_canon (h : InGrammar input) :
    components (canon isName slash input) = location input :=
  splitOn_canon h.location_ne_nil

/-- A component of the normal form is one of the input's, and none of the three special pieces. -/
theorem InGrammar.canon_component (h : InGrammar input) {part : Bytes}
    (hpart : part ∈ components (canon isName slash input)) :
    part ∈ components input ∧ part ≠ [] ∧ part ≠ dot ∧ part ≠ dotDot := by
  rw [h.components_canon] at hpart
  have hmem : part ∈ components input := List.mem_of_mem_filter hpart
  obtain ⟨hnil, hdot⟩ := isName_of_mem_location hpart
  refine ⟨hmem, hnil, hdot, ?_⟩
  rintro rfl
  exact h.inside hmem

/-- No slash stands at the front of a normal form, ... -/
theorem InGrammar.head?_canon (h : InGrammar input) :
    (canon isName slash input).head? ≠ some slash := by
  intro hslash
  exact (h.canon_component (nil_mem_splitOn_of_head? hslash)).2.1 rfl

/-- ... and none at its end. -/
theorem InGrammar.getLast?_canon (h : InGrammar input) :
    (canon isName slash input).getLast? ≠ some slash := by
  intro hslash
  exact (h.canon_component (nil_mem_splitOn_of_getLast? hslash)).2.1 rfl

/-- **The normal form is in the grammar.** -/
theorem InGrammar.canon (h : InGrammar input) : InGrammar (canon isName slash input) where
  nonempty := by
    intro hempty
    -- an empty text has one, empty, component
    have hcomponents := h.components_canon
    rw [hempty, components, List.splitOn_nil] at hcomponents
    have hmem : [] ∈ location input := hcomponents ▸ List.mem_singleton_self _
    exact (isName_of_mem_location hmem).1 rfl
  relative := h.head?_canon
  clean := clean_iff.mp fun _ hpart => clean_iff.mpr h.clean _ (h.canon_component hpart).1
  inside := by
    intro hescape
    exact (h.canon_component hescape).2.2.2 rfl
  named := by
    obtain ⟨part, hpart⟩ := List.exists_mem_of_ne_nil _ h.location_ne_nil
    exact ⟨part, h.components_canon ▸ hpart, isName_of_mem_location hpart⟩

/-- Inputs of the grammar joined by a slash are in the grammar. -/
theorem InGrammar.append (h : InGrammar input) (h' : InGrammar other) :
    InGrammar (input ++ slash :: other) := by
  have hcomponents : components (input ++ slash :: other) = components input ++ components other :=
    List.splitOn_append_cons_self _ _
  refine ⟨by simp, ?_, ?_, ?_, ?_⟩
  · rw [List.head?_append_of_ne_nil _ h.nonempty]
    exact h.relative
  · rw [← clean_iff, hcomponents]
    intro part hpart
    rcases List.mem_append.mp hpart with hpart | hpart
    · exact clean_iff.mpr h.clean part hpart
    · exact clean_iff.mpr h'.clean part hpart
  · rw [hcomponents]
    intro hescape
    rcases List.mem_append.mp hescape with hescape | hescape
    · exact h.inside hescape
    · exact h'.inside hescape
  · obtain ⟨part, hpart, hname⟩ := h.named
    exact ⟨part, hcomponents ▸ List.mem_append_left _ hpart, hname⟩

end Grammar

/-! ## Paths -/

namespace PayloadPath

variable {x y z : Text} {p q : PayloadPath}

theorem parse_ok_iff_canon :
    parse x = .ok p ↔ InGrammar x.bytes ∧ p.value.bytes = canon isName slash x.bytes :=
  parse_ok_iff.trans normalize_ok_iff

/-- A path parses to itself. -/
theorem parse_value (h : parse x = .ok p) : parse p.value = .ok p := by
  obtain ⟨hgrammar, hvalue⟩ := parse_ok_iff_canon.mp h
  refine parse_ok_iff_canon.mpr ⟨hvalue ▸ hgrammar.canon, ?_⟩
  rw [hvalue, canon_canon hgrammar.location_ne_nil]

/-- Every path came out of `parse`, so every path parses to itself. -/
theorem parse_self (p : PayloadPath) : parse p.value = .ok p := by
  obtain ⟨input, hinput⟩ := p.parsed
  exact parse_value (parse_ok_iff.mpr hinput)

/-- **One path for each location.** -/
theorem eq_iff_location (hx : parse x = .ok p) (hy : parse y = .ok q) :
    p = q ↔ location x.bytes = location y.bytes := by
  obtain ⟨hgrammar, hvalue⟩ := parse_ok_iff_canon.mp hx
  obtain ⟨hgrammar', hvalue'⟩ := parse_ok_iff_canon.mp hy
  have hinj : p.value.bytes = q.value.bytes ↔ location x.bytes = location y.bytes := by
    rw [hvalue, hvalue']
    exact canon_inj hgrammar.location_ne_nil hgrammar'.location_ne_nil
  rw [← hinj]
  constructor
  · rintro rfl
    rfl
  · intro h
    exact ext (Text.ext h)

/-- A slash between the inputs is a slash between the paths. -/
theorem parse_append (hx : parse x = .ok p) (hy : parse y = .ok q)
    (hz : z.bytes = x.bytes ++ slash :: y.bytes) :
    ∃ r, parse z = .ok r ∧ r.value.bytes = p.value.bytes ++ slash :: q.value.bytes := by
  obtain ⟨hgrammar, hvalue⟩ := parse_ok_iff_canon.mp hx
  obtain ⟨hgrammar', hvalue'⟩ := parse_ok_iff_canon.mp hy
  have hjoined : InGrammar z.bytes := hz ▸ hgrammar.append hgrammar'
  obtain ⟨r, hr⟩ := exists_parse_iff.mpr ⟨_, normalize_ok_iff.mpr ⟨hjoined, rfl⟩⟩
  refine ⟨r, hr, ?_⟩
  rw [(parse_ok_iff_canon.mp hr).2, hz, hvalue, hvalue',
    canon_append_cons hgrammar.location_ne_nil hgrammar'.location_ne_nil]

end PayloadPath

/-! ## Sealing, by locations -/

/-- How the paths of an entry vector were spelled: the entry's own at each position, and the target
    at each hard link. -/
structure Spelled (entries : List PayloadEntry) (spelling target : Fin entries.length → Text) :
    Prop where
  path : ∀ i, PayloadPath.parse (spelling i) = .ok (entries.get i).path
  link : ∀ i, (entries.get i).type = .hardlink →
    ∃ p, PayloadPath.parse (target i) = .ok p ∧ (entries.get i).hardlinkTarget = some p

/-- Position `j` anchors the hard link at position `i`, by what the two were spelled with. -/
def AnchoredByLocation (entries : List PayloadEntry) (spelling target : Fin entries.length → Text)
    (i j : Fin entries.length) : Prop :=
  j < i ∧ (entries.get j).type = .regular ∧
    location (target i).bytes = location (spelling j).bytes ∧
    SameInode (entries.get i) (entries.get j)

/-- Every vector is spelled by the texts of its own paths. -/
theorem spelled_values (entries : List PayloadEntry) :
    Spelled entries (fun i => (entries.get i).path.value)
      fun i => ((entries.get i).hardlinkTarget.getD (entries.get i).path).value where
  path i := PayloadPath.parse_self (entries.get i).path
  link i hlink := by
    obtain ⟨p, hp⟩ := PayloadEntry.exists_hardlinkTarget hlink
    refine ⟨p, ?_, hp⟩
    rw [hp]
    exact PayloadPath.parse_self p

section Sealing

variable {sha256 : Sha256} {entries : List PayloadEntry}
  {spelling target : Fin entries.length → Text}

theorem Spelled.path_eq_iff (h : Spelled entries spelling target) (i j : Fin entries.length) :
    (entries.get i).path = (entries.get j).path ↔
      location (spelling i).bytes = location (spelling j).bytes :=
  PayloadPath.eq_iff_location (h.path i) (h.path j)

theorem Spelled.anchoredAt_iff (h : Spelled entries spelling target) {i : Fin entries.length}
    (hlink : (entries.get i).type = .hardlink) (j : Fin entries.length) :
    AnchoredAt entries i j ↔ AnchoredByLocation entries spelling target i j := by
  obtain ⟨p, hp, htarget⟩ := h.link i hlink
  have hname : (entries.get i).hardlinkTarget = some (entries.get j).path ↔
      location (target i).bytes = location (spelling j).bytes := by
    rw [htarget, Option.some.injEq]
    exact PayloadPath.eq_iff_location hp (h.path j)
  exact and_congr_right fun _ => and_congr_right fun _ => and_congr_left fun _ => hname

/-- **Sealing decides about locations.**  However the paths were spelled, `seal` refuses exactly
    when two entries are at one location or a hard link lacks an earlier anchor at the location of
    its target. -/
theorem Spelled.exists_seal_iff_locations (h : Spelled entries spelling target) :
    (∃ manifest, PayloadManifest.seal sha256 entries = .ok manifest) ↔
      (∀ i j, location (spelling i).bytes = location (spelling j).bytes → i = j) ∧
      ∀ i, (entries.get i).type = .hardlink →
        ∃ j, AnchoredByLocation entries spelling target i j := by
  rw [exists_seal_iff, sealEntries_iff_positions]
  refine and_congr ?_ ?_
  · refine forall_congr' fun i => forall_congr' fun j => ?_
    rw [← h.path_eq_iff i j]
    exact Iff.rfl
  · refine forall_congr' fun i => forall_congr' fun hlink => exists_congr fun j => ?_
    exact h.anchoredAt_iff hlink j

end Sealing

/-- **Payload paths are canonical representatives of locations.**  A path's text parses to the path
    itself and is free of special pieces and of slashes at its ends; two accepted inputs give one
    path exactly when they lead to one location; a slash between two inputs is a slash between their
    paths.  So sealing a manifest, which compares texts, decides about locations, whatever the
    spellings. -/
theorem paths_canonical (sha256 : Sha256) :
    (∀ (x : Text) (p : PayloadPath), PayloadPath.parse x = .ok p →
      PayloadPath.parse p.value = .ok p ∧
      (∀ part ∈ components p.value.bytes, part ≠ [] ∧ part ≠ dot ∧ part ≠ dotDot) ∧
      p.value.bytes.head? ≠ some slash ∧ p.value.bytes.getLast? ≠ some slash) ∧
    (∀ (x y : Text) (p q : PayloadPath), PayloadPath.parse x = .ok p → PayloadPath.parse y = .ok q →
      (p = q ↔ location x.bytes = location y.bytes)) ∧
    (∀ (x y z : Text) (p q : PayloadPath), PayloadPath.parse x = .ok p →
      PayloadPath.parse y = .ok q → z.bytes = x.bytes ++ slash :: y.bytes →
      ∃ r, PayloadPath.parse z = .ok r ∧ r.value.bytes = p.value.bytes ++ slash :: q.value.bytes) ∧
    ∀ (entries : List PayloadEntry) (spelling target : Fin entries.length → Text),
      Spelled entries spelling target →
      ((∃ manifest, PayloadManifest.seal sha256 entries = .ok manifest) ↔
        (∀ i j, location (spelling i).bytes = location (spelling j).bytes → i = j) ∧
        ∀ i, (entries.get i).type = .hardlink →
          ∃ j, AnchoredByLocation entries spelling target i j) := by
  refine ⟨?_, fun _ _ _ _ => PayloadPath.eq_iff_location, fun _ _ _ _ _ => PayloadPath.parse_append,
    fun _ _ _ => Spelled.exists_seal_iff_locations⟩
  intro x p hp
  obtain ⟨hgrammar, hvalue⟩ := PayloadPath.parse_ok_iff_canon.mp hp
  refine ⟨PayloadPath.parse_value hp, ?_, hvalue ▸ hgrammar.head?_canon,
    hvalue ▸ hgrammar.getLast?_canon⟩
  intro part hpart
  rw [hvalue] at hpart
  exact (hgrammar.canon_component hpart).2

end Pkgbuild

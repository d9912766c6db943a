/-
  The grammar of `payload_path::parse`, and its normal form.

  Beside the scanning loop of the source stands a declarative reading of what it is for: cut the
  input at every '/', refuse a forbidden byte or a piece "..", drop the pieces "" and ".", and join
  what is left (`components`, `InGrammar`, `location`).

  1. **The loop is the split** — `parseLoop_eq`: from any position on, the loop checks the pieces of
     the rest of the input one after the other and keeps the named ones.  Induction along the loop;
     each turn takes the first piece of the split off the rest.
  2. **The loop ends** — `parseTurns` runs single turns of the loop without any reason to stop, and
     `parseTurns_eq` says that one turn a component is enough.
  3. **Acceptance and normal form** — `normalize_ok_iff`.
-/
import Pkgbuild.Base.Components
import Pkgbuild.PayloadPath

namespace Pkgbuild

open Checked Components

/-! ## The grammar -/

/-- The maximal slash-free pieces of the input. -/
def components (input : Bytes) : List Bytes := input.splitOn slash

/-- A piece that names something: neither "" nor ".". -/
def isName (part : Bytes) : Bool := part ≠ [] ∧ part ≠ dot

/-- The components that name something, in order: where in the package the path leads. -/
def location (input : Bytes) : List Bytes := (components input).filter isName

/-- What `parse` accepts. -/
structure InGrammar (input : Bytes) : Prop where
  nonempty : input ≠ []
  relative : input.head? ≠ some slash
  clean : ∀ byte ∈ input, ¬ IsForbiddenByte byte
  inside : dotDot ∉ components input
  named : ∃ part ∈ components input, part ≠ [] ∧ part ≠ dot

theorem isName_iff {part : Bytes} : isName part = true ↔ part ≠ [] ∧ part ≠ dot := by
  unfold isName
  exact decide_eq_true_iff

theorem keepPart_eq (parts : List Bytes) (part : Bytes) :
    keepPart parts part = parts ++ [part].filter isName := by
  unfold keepPart
  by_cases h : part ≠ [] ∧ part ≠ dot
  · rw [if_pos h, List.filter_cons_of_pos (isName_iff.mpr h), List.filter_nil]
  · rw [if_neg h, List.filter_cons_of_neg (fun hname => h (isName_iff.mp hname)), List.filter_nil,
      List.append_nil]

theorem checkPart_ok_iff {part : Bytes} {u : Unit} :
    checkPart part = .ok u ↔ (∀ byte ∈ part, ¬ IsForbiddenByte byte) ∧ part ≠ dotDot := by
  unfold checkPart
  simp only [bind_ok_iff, forM_ok_iff, refuse_ok_iff, exists_const]

/-! ## The loop is the split -/

/-- The piece before the next slash, and what comes after it. -/
theorem splitOn_drop_of_find_some {input : Bytes} {start stop : Nat}
    (hfind : find input slash start = some stop) :
    (input.drop start).splitOn slash
      = substr input start (stop - start) :: (input.drop (stop + 1)).splitOn slash := by
  obtain ⟨index, hindex, rfl⟩ := Option.map_eq_some_iff.mp hfind
  rw [splitOn_of_findIdx?_some hindex, List.drop_drop, substr, Nat.add_sub_cancel_left,
    Nat.add_assoc]

/-- The last piece runs to the end of the input. -/
theorem splitOn_drop_of_find_none {input : Bytes} {start : Nat}
    (hfind : find input slash start = none) :
    (input.drop start).splitOn slash = [substr input start (input.length - start)] := by
  have hindex := Option.map_eq_none_iff.mp hfind
  have hrest : substr input start (input.length - start) = input.drop start := by
    rw [substr, ← List.length_drop, List.take_length]
  rw [splitOn_of_findIdx?_none hindex, hrest]

/-- **Simulation.**  From any position inside the input, or one past its end, the loop checks the
    pieces of the rest in order and keeps the named ones. -/
theorem parseLoop_eq {input : Bytes} : ∀ {start : Nat} {parts : List Bytes}, start ≤ input.length →
    parseLoop input start parts = (do
      forM ((input.drop start).splitOn slash) checkPart
      return parts ++ ((input.drop start).splitOn slash).filter isName) := by
  intro start parts
  induction start, parts using parseLoop.induct input with
  | case1 start parts hstart hfind =>
    intro _
    rw [parseLoop_last hstart hfind, splitOn_drop_of_find_none hfind, keepPart_eq, List.forM_cons,
      List.forM_nil, bind_assoc]
    rfl
  | case2 start parts hstart stop hfind ih =>
    intro _
    have hstop := find_some hfind
    -- the loop goes on behind the slash, which is still inside the input or right at its end
    have hrest := ih (show stop + 1 ≤ input.length by omega)
    rw [parseLoop_next hstart hfind, hrest, splitOn_drop_of_find_some hfind, keepPart_eq,
      List.forM_cons, bind_assoc, ← List.singleton_append (l := List.splitOn _ _),
      List.filter_append, List.append_assoc]
  | case3 start parts hstart =>
    intro h
    exact absurd h hstart

/-! ## The loop ends -/

/-- What one turn of the scanning loop does next. -/
inductive Turn where
  | next (start : Nat) (parts : List Bytes)
  | done (result : Except Error (List Bytes))

/-- One turn of the loop, its test included. -/
def parseTurn (input : Bytes) (start : Nat) (parts : List Bytes) : Turn :=
  if start ≤ input.length then
    let stop := find input slash start
    let part := substr input start (stop.getD input.length - start)
    match checkPart part, stop with
    | .error e, _ => .done (.error e)
    | .ok _, none => .done (.ok (keepPart parts part))
    | .ok _, some stop => .next (stop + 1) (keepPart parts part)
  else .done (.ok parts)

/-- At most `turns` turns; `none` if the loop is still running then. -/
def parseTurns (input : Bytes) : Nat → Nat → List Bytes → Option (Except Error (List Bytes))
  | 0, _, _ => none
  | turns + 1, start, parts =>
      match parseTurn input start parts with
      | .next start parts => parseTurns input turns start parts
      | .done result => some result

/-- **One turn a component is enough**, and the turns compute what the loop does. -/
theorem parseTurns_eq {input : Bytes} : ∀ {turns start : Nat} {parts : List Bytes},
    start ≤ input.length → ((input.drop start).splitOn slash).length ≤ turns →
    parseTurns input turns start parts = some (parseLoop input start parts)
  | 0, start, parts, _, hturns => by
      have hne := List.splitOn_ne_nil slash (input.drop start)
      exact absurd (List.length_eq_zero_iff.mp (Nat.le_zero.mp hturns)) hne
  | turns + 1, start, parts, hstart, hturns => by
      rw [parseTurns, parseTurn, if_pos hstart]
      cases hfind : find input slash start with
      | none =>
        -- the last component: the loop ends in this turn
        rw [parseLoop_last hstart hfind]
        cases hcheck : checkPart (substr input start (input.length - start)) with
        | error e => simp [hcheck, bind, Except.bind]
        | ok _ => simp [hcheck, bind, Except.bind, pure, Except.pure]
      | some stop =>
        -- one component less is left, and one turn
        have hstop := find_some hfind
        rw [splitOn_drop_of_find_some hfind, List.length_cons] at hturns
        have hrest : parseTurns input turns (stop + 1) (keepPart parts
            (substr input start (stop - start))) = some (parseLoop input (stop + 1) _) :=
          parseTurns_eq (by omega) (by omega)
        rw [parseLoop_next hstart hfind]
        cases hcheck : checkPart (substr input start (stop - start)) with
        | error e => simp [hcheck, bind, Except.bind]
        | ok _ => simpa [hcheck, bind, Except.bind] using hrest

example : parseTurns (ascii "./usr//bin/") 5 0 [] = some (.ok [ascii "usr", ascii "bin"]) := by
  decide

/-! ## Acceptance and normal form -/

theorem isName_of_mem_location {input part : Bytes} (h : part ∈ location input) :
    part ≠ [] ∧ part ≠ dot :=
  isName_iff.mp (List.of_mem_filter h)

theorem location_ne_nil_iff {input : Bytes} :
    location input ≠ [] ↔ ∃ part ∈ components input, part ≠ [] ∧ part ≠ dot := by
  constructor
  · intro h
    obtain ⟨part, hpart⟩ := List.exists_mem_of_ne_nil _ h
    exact ⟨part, List.mem_of_mem_filter hpart, isName_of_mem_location hpart⟩
  · rintro ⟨part, hpart, hname⟩
    exact List.ne_nil_of_mem (List.mem_filter.mpr ⟨hpart, isName_iff.mpr hname⟩)

/-- A slash is no forbidden byte, so the pieces of an input are clean exactly when the input is. -/
theorem clean_iff {input : Bytes} :
    (∀ part ∈ components input, ∀ byte ∈ part, ¬ IsForbiddenByte byte) ↔
      ∀ byte ∈ input, ¬ IsForbiddenByte byte := by
  have hslash : ¬ IsForbiddenByte slash := by decide
  constructor
  · intro h byte hbyte hforbidden
    have hne : byte ≠ slash := by
      rintro rfl
      exact hslash hforbidden
    obtain ⟨part, hpart, hmem⟩ := (mem_iff_mem_splitOn hne).mp hbyte
    exact h part hpart byte hmem hforbidden
  · intro h part hpart byte hbyte
    have hne : byte ≠ slash := by
      rintro rfl
      exact not_mem_of_mem_splitOn hpart hbyte
    exact h byte ((mem_iff_mem_splitOn hne).mpr ⟨part, hpart, hbyte⟩)

/-- The joining loop writes a slash before every part but the first, parts being non-empty. -/
theorem foldl_joinPart_eq : ∀ (parts : List Bytes) {normalized : Bytes}, normalized ≠ [] →
    (∀ part ∈ parts, part ≠ []) →
    parts.foldl joinPart normalized = [slash].intercalate (normalized :: parts)
  | [], normalized, _, _ => by rw [List.foldl_nil, List.intercalate_singleton]
  | part :: parts, normalized, hnormalized, hparts => by
      have hjoin : joinPart normalized part = normalized ++ [slash] ++ part := by
        rw [joinPart, if_pos hnormalized]
      have hne : joinPart normalized part ≠ [] := by simp [hjoin]
      have hrest : ∀ part ∈ parts, part ≠ [] := fun part hpart =>
        hparts part (List.mem_cons_of_mem _ hpart)
      rw [List.foldl_cons, foldl_joinPart_eq parts hne hrest, hjoin, intercalate_append_cons,
        List.intercalate_cons_cons]

theorem joinParts_eq {parts : List Bytes} (h : ∀ part ∈ parts, part ≠ []) :
    joinParts parts = [slash].intercalate parts := by
  cases parts with
  | nil => rfl
  | cons part parts =>
    have hpart := h part List.mem_cons_self
    exact foldl_joinPart_eq parts hpart fun part hpart => h part (List.mem_cons_of_mem _ hpart)

/-- **`parse` computes the normal form of its grammar.** -/
theorem normalize_ok_iff {input value : Bytes} :
    normalize input = .ok value ↔
      InGrammar input ∧ value = [slash].intercalate (location input) := by
  have hjoin : joinParts (location input) = [slash].intercalate (location input) :=
    joinParts_eq fun part hpart => (isName_of_mem_location hpart).1
  have hloop : parseLoop input 0 [] = (do
      forM (components input) checkPart
      return location input) := parseLoop_eq (Nat.zero_le _)
  unfold normalize
  rw [hloop]
  simp only [bind_ok_iff, refuse_ok_iff, forM_ok_iff, pure_ok_iff, exists_const, not_or]
  constructor
  · rintro ⟨⟨hnonempty, hrelative⟩, parts, ⟨hchecks, rfl⟩, hnamed, rfl⟩
    have hchecked := fun part hpart => checkPart_ok_iff.mp (hchecks part hpart)
    refine ⟨⟨hnonempty, hrelative, ?_, ?_, location_ne_nil_iff.mp hnamed⟩, hjoin⟩
    · exact clean_iff.mp fun part hpart => (hchecked part hpart).1
    · exact fun hescape => (hchecked dotDot hescape).2 rfl
  · rintro ⟨⟨hnonempty, hrelative, hclean, hinside, hnamed⟩, rfl⟩
    have hchecks : ∀ part ∈ components input, checkPart part = .ok () := by
      intro part hpart
      refine checkPart_ok_iff.mpr ⟨clean_iff.mpr hclean part hpart, ?_⟩
      rintro rfl
      exact hinside hpart
    exact ⟨⟨hnonempty, hrelative⟩, location input, ⟨hchecks, rfl⟩, location_ne_nil_iff.mpr hnamed,
      hjoin⟩

/-- **`payload_path::parse` and its grammar.**  It accepts exactly the inputs of the grammar and
    stores their named components joined by single slashes; its loop is through after one turn a
    component. -/
theorem parse_grammar (input : Text) :
    ((∃ path, PayloadPath.parse input = .ok path) ↔ InGrammar input.bytes) ∧
    (∀ path, PayloadPath.parse input = .ok path →
      path.value.bytes = [slash].intercalate (location input.bytes)) ∧
    parseTurns input.bytes (components input.bytes).length 0 []
      = some (parseLoop input.bytes 0 []) := by
  refine ⟨?_, ?_, parseTurns_eq (Nat.zero_le _) (Nat.le_refl _)⟩
  · rw [PayloadPath.exists_parse_iff]
    constructor
    · rintro ⟨value, hvalue⟩
      exact (normalize_ok_iff.mp hvalue).1
    · intro hgrammar
      exact ⟨_, normalize_ok_iff.mpr ⟨hgrammar, rfl⟩⟩
  · intro path hpath
    exact (normalize_ok_iff.mp (PayloadPath.parse_ok_iff.mp hpath)).2

end Pkgbuild

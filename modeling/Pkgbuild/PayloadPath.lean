/-
  `payload_path`: canonical paths inside a package payload (`model.cpp`).

  `parse` walks the input once, cutting it at every '/'.  Each piece is checked (no NUL, LF or CR,
  not ".."), the pieces other than "" and "." are kept, and what is kept is joined by single
  slashes.  The loop is modelled with the source's own index arithmetic: `begin` runs to one past
  the end for a trailing slash, and `find` returning `npos` ends the walk.

  The class has no public constructor besides `parse`, so a `PayloadPath` carries the fact that its
  text came out of `parse` (`parsed`).  For that the text must be a `Text` again: the normal form is
  never longer than the input (`normalize_length_le`), by the loop invariant that the pieces kept so
  far, one separator each, fit into the part of the input already walked.
-/
import Pkgbuild.Identity

namespace Pkgbuild

open Checked

/-- `invalid` of `model.cpp`. -/
def invalidModel (message : Bytes) : Error := ⟨.invalidModel, message⟩

/-- NUL, LF and CR: the bytes that would end a line or a C string. -/
def IsForbiddenByte (byte : UInt8) : Prop := byte = 0x00 ∨ byte = 0x0A ∨ byte = 0x0D

instance (byte : UInt8) : Decidable (IsForbiddenByte byte) := inferInstanceAs (Decidable (_ ∨ _))

/-! ## String views -/

/-- `input.find(byte, start)`; `none` is `npos`.  The position counts from the front of the input,
    not from `start`. -/
def find (input : Bytes) (byte : UInt8) (start : Nat) : Option Nat :=
  ((input.drop start).findIdx? (· == byte)).map (start + ·)

/-- `input.substr(start, length)`, which stops at the end of the input. -/
def substr (input : Bytes) (start length : Nat) : Bytes := (input.drop start).take length

/-- A position that is found lies in the input and not before the start, so the scan moves on. -/
theorem find_some {input : Bytes} {byte : UInt8} {start stop : Nat}
    (h : find input byte start = some stop) : start ≤ stop ∧ stop < input.length := by
  obtain ⟨index, hindex, rfl⟩ := Option.map_eq_some_iff.mp h
  have hlt := (List.findIdx?_eq_some_iff_getElem.mp hindex).1
  rw [List.length_drop] at hlt
  omega

/-- A piece is no longer than what was asked for. -/
theorem length_substr (input : Bytes) (start length : Nat) :
    (substr input start length).length ≤ length := by
  rw [substr, List.length_take]
  exact Nat.min_le_left _ _

/-! ## Parsing -/

/-- The separator of components. -/
def slash : UInt8 := 0x2F

/-- The two pieces `parse` treats by name: "." is dropped, ".." refused. -/
def dot : Bytes := ascii "."
def dotDot : Bytes := ascii ".."

/-- The checks on one piece of the input: its bytes first, in their order, and then whether it
    climbs out of the package. -/
def checkPart (part : Bytes) : Except Error Unit := do
  forM part fun byte =>
    refuse (IsForbiddenByte byte) (invalidModel (ascii "payload path contains a forbidden byte"))
  refuse (part = dotDot) (invalidModel (ascii "payload path escapes the package root"))

/-- `if (!part.empty() && part != ".") parts.emplace_back(part);` -/
def keepPart (parts : List Bytes) (part : Bytes) : List Bytes :=
  if part ≠ [] ∧ part ≠ dot then parts ++ [part] else parts

/-- The scanning loop of `parse`, from position `start` with `parts` kept so far. -/
def parseLoop (input : Bytes) (start : Nat) (parts : List Bytes) : Except Error (List Bytes) :=
  if start ≤ input.length then
    match _h : find input slash start with
    | none => do
        checkPart (substr input start (input.length - start))
        return keepPart parts (substr input start (input.length - start))
    | some stop => do
        checkPart (substr input start (stop - start))
        parseLoop input (stop + 1) (keepPart parts (substr input start (stop - start)))
  else return parts
termination_by input.length + 1 - start
decreasing_by
  have := find_some _h
  omega

/-- The loop's last turn: no further slash. -/
theorem parseLoop_last {input : Bytes} {start : Nat} {parts : List Bytes}
    (hstart : start ≤ input.length) (hfind : find input slash start = none) :
    parseLoop input start parts = (do
      checkPart (substr input start (input.length - start))
      return keepPart parts (substr input start (input.length - start))) := by
  rw [parseLoop, if_pos hstart]
  split
  · rfl
  · rename_i stop hsome
    exact absurd (hfind.symm.trans hsome) (by simp)

/-- A turn that ends at a slash. -/
theorem parseLoop_next {input : Bytes} {start stop : Nat} {parts : List Bytes}
    (hstart : start ≤ input.length) (hfind : find input slash start = some stop) :
    parseLoop input start parts = (do
      checkPart (substr input start (stop - start))
      parseLoop input (stop + 1) (keepPart parts (substr input start (stop - start)))) := by
  rw [parseLoop, if_pos hstart]
  split
  · rename_i hnone
    exact absurd (hfind.symm.trans hnone) (by simp)
  · rename_i stop' hsome
    obtain rfl := Option.some.inj (hfind.symm.trans hsome)
    rfl

/-- One turn of the joining loop of `parse`. -/
def joinPart (normalized part : Bytes) : Bytes :=
  (if normalized ≠ [] then normalized ++ [slash] else normalized) ++ part

/-- The joining loop, from the empty string. -/
def joinParts (parts : List Bytes) : Bytes := parts.foldl joinPart []

/-- The text `payload_path::parse` stores, or its refusal. -/
def normalize (input : Bytes) : Except Error Bytes := do
  refuse (input = [] ∨ input.head? = some slash)
    (invalidModel (ascii "payload path must be non-empty and relative"))
  let parts ← parseLoop input 0 []
  refuse (parts = []) (invalidModel (ascii "payload path normalizes to an empty value"))
  return joinParts parts

/-! ## The normal form is no longer than the input -/

/-- The room `parts` take, one separator each; the joined text takes one separator less. -/
def weight (parts : List Bytes) : Nat := (parts.map fun part => part.length + 1).sum

/-- Keeping a piece costs its length and one, and dropping it nothing. -/
theorem weight_keepPart (parts : List Bytes) (part : Bytes) :
    weight (keepPart parts part) ≤ weight parts + part.length + 1 := by
  unfold keepPart
  split
  · simp only [weight, List.map_append, List.map_cons, List.map_nil, List.sum_append,
      List.sum_cons, List.sum_nil]
    omega
  · omega

/-- **Loop invariant.**  What is kept fits into what has been walked. -/
theorem parseLoop_weight {input : Bytes} : ∀ {start : Nat} {parts parts' : List Bytes},
    parseLoop input start parts = .ok parts' → weight parts ≤ start → start ≤ input.length + 1 →
    weight parts' ≤ input.length + 1 := by
  intro start parts
  induction start, parts using parseLoop.induct input with
  | case1 start parts hstart hfind =>
    -- no further slash: the last piece runs to the end of the input
    intro parts' h hweight hle
    rw [parseLoop_last hstart hfind] at h
    obtain ⟨_, -, h⟩ := bind_ok_iff.mp h
    obtain rfl := pure_ok_iff.mp h
    have hkeep := weight_keepPart parts (substr input start (input.length - start))
    have hpart := length_substr input start (input.length - start)
    omega
  | case2 start parts hstart stop hfind ih =>
    intro parts' h hweight hle
    have hstop := find_some hfind
    rw [parseLoop_next hstart hfind] at h
    obtain ⟨_, -, h⟩ := bind_ok_iff.mp h
    have hkeep := weight_keepPart parts (substr input start (stop - start))
    have hpart := length_substr input start (stop - start)
    exact ih h (by omega) (by omega)
  -- past a trailing slash: nothing is left to scan
  | case3 start parts hstart =>
    intro parts' h hweight hle
    rw [parseLoop, if_neg hstart] at h
    obtain rfl := pure_ok_iff.mp h
    omega

/-- A part and its separator are all that a turn adds. -/
theorem length_joinPart (normalized part : Bytes) :
    (joinPart normalized part).length ≤ normalized.length + (part.length + 1) := by
  unfold joinPart
  split
  · simp only [List.length_append, List.length_singleton]; omega
  · simp only [List.length_append]; omega

/-- The joined text fits into the room of the parts, whatever was there before; by induction on the
    parts. -/
theorem length_foldl_joinPart : ∀ (parts : List Bytes) (normalized : Bytes),
    (parts.foldl joinPart normalized).length ≤ normalized.length + weight parts
  | [], normalized => by simp [weight]
  | part :: parts, normalized => by
      have ih := length_foldl_joinPart parts (joinPart normalized part)
      have hpart := length_joinPart normalized part
      simp only [List.foldl_cons, weight, List.map_cons, List.sum_cons] at ih ⊢
      omega

/-- The first part takes no separator. -/
theorem length_joinParts {parts : List Bytes} (h : parts ≠ []) :
    (joinParts parts).length + 1 ≤ weight parts := by
  obtain ⟨part, parts, rfl⟩ := List.exists_cons_of_ne_nil h
  have hfold := length_foldl_joinPart parts part
  show (parts.foldl joinPart part).length + 1 ≤ weight (part :: parts)
  simp only [weight, List.map_cons, List.sum_cons] at hfold ⊢
  omega

/-- The normal form is no longer than the input, so it is a string when the input is one. -/
theorem normalize_length_le {input value : Bytes} (h : normalize input = .ok value) :
    value.length ≤ input.length := by
  unfold normalize at h
  obtain ⟨_, -, h⟩ := bind_ok_iff.mp h
  obtain ⟨parts, hparts, h⟩ := bind_ok_iff.mp h
  obtain ⟨_, hne, h⟩ := bind_ok_iff.mp h
  obtain rfl := pure_ok_iff.mp h
  have hweight := parseLoop_weight hparts (by simp [weight]) (by omega)
  have hjoin := length_joinParts (refuse_ok_iff.mp hne)
  omega

/-! ## The class -/

/-- `payload_path`: text that came out of `parse`. -/
structure PayloadPath where
  value : Text
  parsed : ∃ input : Text, normalize input.bytes = .ok value.bytes
deriving DecidableEq

/-- `payload_path::parse`. -/
def PayloadPath.parse (input : Text) : Except Error PayloadPath := do
  let normalized ← attach (normalize input.bytes)
  return ⟨⟨normalized.1, Nat.lt_of_le_of_lt (normalize_length_le normalized.2) input.size_lt⟩,
    input, normalized.2⟩

/-- A path is its text: which input it was parsed from is forgotten. -/
theorem PayloadPath.ext {a b : PayloadPath} (h : a.value = b.value) : a = b := by
  cases a; cases b; cases h; rfl

/-- Every path is the parse of some input, and nothing else is. -/
theorem PayloadPath.parse_ok_iff {input : Text} {path : PayloadPath} :
    parse input = .ok path ↔ normalize input.bytes = .ok path.value.bytes := by
  unfold parse
  rw [bind_ok_iff]
  constructor
  · rintro ⟨normalized, -, h⟩
    obtain rfl := pure_ok_iff.mp h
    exact normalized.2
  · intro h
    exact ⟨⟨path.value.bytes, h⟩, attach_ok_iff.mpr h, pure_ok_iff.mpr (ext rfl)⟩

/-- `parse` succeeds exactly when the text has a normal form; the bound on its length never stands
    in the way. -/
theorem PayloadPath.exists_parse_iff {input : Text} :
    (∃ path, parse input = .ok path) ↔ ∃ value, normalize input.bytes = .ok value := by
  constructor
  · rintro ⟨path, hpath⟩
    exact ⟨_, parse_ok_iff.mp hpath⟩
  · rintro ⟨value, hvalue⟩
    have hsize := Nat.lt_of_le_of_lt (normalize_length_le hvalue) input.size_lt
    exact ⟨⟨⟨value, hsize⟩, input, hvalue⟩, parse_ok_iff.mpr hvalue⟩

end Pkgbuild

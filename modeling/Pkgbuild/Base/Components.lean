/-
  Separated lists: cut a list at a separator, drop some of the pieces, join what is left.

  Cutting is core's `List.splitOn` and joining its `List.intercalate`; they are inverse to each
  other where that is possible.  What is added here is the pair taken together:

  1. **Joining** — what is in a join, and the join of two runs of pieces;
  2. **Scanning** — a walk that looks for the next separator and takes the piece before it meets
     exactly the pieces of the split (`splitOn_of_findIdx?_none`, `splitOn_of_findIdx?_some`);
  3. **Pieces** — no piece holds the separator, every other element is in some piece, and a
     separator at either end of a list leaves an empty piece;
  4. **Kept pieces** — `canon keep sep l` joins the pieces `keep` lets through.  It is a canonical
     form: it is its own canonical form, it determines the kept pieces, and it turns a separator
     between two lists into a separator between their canonical forms.
-/
import Mathlib.Data.List.Basic

namespace Components

variable {α : Type*} {sep : α}

/-! ## Joining -/

/-- What is joined comes from the pieces or is the separator. -/
theorem mem_intercalate {x : α} (hx : x ≠ sep) : ∀ {pieces : List (List α)},
    x ∈ [sep].intercalate pieces ↔ ∃ piece ∈ pieces, x ∈ piece
  | [] => by simp
  | [piece] => by simp
  | piece :: piece' :: pieces => by
      rw [List.intercalate_cons_cons, List.mem_append, List.mem_append, mem_intercalate hx,
        List.exists_mem_cons_iff (p := (x ∈ ·)), List.mem_singleton]
      simp [hx]

/-- What stands in front of the first piece stays in front. -/
theorem intercalate_append_cons {front piece : List α} {pieces : List (List α)} :
    [sep].intercalate ((front ++ piece) :: pieces)
      = front ++ [sep].intercalate (piece :: pieces) := by
  cases pieces with
  | nil => rw [List.intercalate_singleton, List.intercalate_singleton]
  | cons piece' pieces =>
    rw [List.intercalate_cons_cons, List.intercalate_cons_cons]
    simp only [List.append_assoc]

theorem intercalate_append : ∀ {pieces pieces' : List (List α)}, pieces ≠ [] → pieces' ≠ [] →
    [sep].intercalate (pieces ++ pieces')
      = [sep].intercalate pieces ++ sep :: [sep].intercalate pieces'
  | [], _, h, _ => absurd rfl h
  | [piece], pieces', _, h' => by
      rw [List.singleton_append, List.intercalate_cons_of_ne_nil h', List.intercalate_singleton,
        List.append_assoc, List.singleton_append]
  | piece :: piece' :: pieces, pieces', _, h' => by
      have ih := intercalate_append (List.cons_ne_nil piece' pieces) h'
      rw [List.cons_append, List.intercalate_cons_of_ne_nil (by simp), ih,
        List.intercalate_cons_of_ne_nil (List.cons_ne_nil _ _)]
      simp only [List.append_assoc]

variable [BEq α] [LawfulBEq α]

/-! ## Scanning for the separator -/

/-- No separator ahead: the rest is the last piece. -/
theorem splitOn_of_findIdx?_none {l : List α} (h : l.findIdx? (· == sep) = none) :
    l.splitOn sep = [l] := by
  refine List.splitOn_eq_singleton fun hsep => ?_
  have hne := List.findIdx?_eq_none_iff.mp h sep hsep
  rw [beq_self_eq_true] at hne
  exact Bool.noConfusion hne

/-- The next separator ends the first piece. -/
theorem splitOn_of_findIdx?_some {l : List α} {i : Nat} (h : l.findIdx? (· == sep) = some i) :
    l.splitOn sep = l.take i :: (l.drop (i + 1)).splitOn sep := by
  obtain ⟨hi, hat, hbefore⟩ := List.findIdx?_eq_some_iff_getElem.mp h
  have hcut : l = l.take i ++ sep :: l.drop (i + 1) := by
    have hdrop := List.drop_eq_getElem_cons hi
    rw [eq_of_beq hat] at hdrop
    rw [← hdrop, List.take_append_drop]
  have hfree : sep ∉ l.take i := by
    intro hsep
    obtain ⟨j, hj, hjsep⟩ := List.mem_iff_getElem.mp hsep
    rw [List.length_take] at hj
    rw [List.getElem_take] at hjsep
    have hnot := hbefore j (by omega)
    rw [hjsep, beq_self_eq_true] at hnot
    exact hnot rfl
  have hsplit := List.splitOn_append_cons_self_of_not_mem hfree (l.drop (i + 1))
  rwa [← hcut] at hsplit

/-! ## The pieces -/

/-- A piece is free of the separator.  Induction on the list: a separator opens a new piece,
    anything else joins the first one. -/
theorem not_mem_of_mem_splitOn : ∀ {l piece : List α}, piece ∈ l.splitOn sep → sep ∉ piece
  | [], piece, h => by
      rw [List.splitOn_nil] at h
      rw [List.mem_singleton.mp h]
      exact List.not_mem_nil
  | x :: l, piece, h => by
      rw [List.splitOn_cons_eq_if_modifyHead] at h
      split at h
      · rcases List.mem_cons.mp h with rfl | h
        · exact List.not_mem_nil
        · exact not_mem_of_mem_splitOn h
      · rename_i hx
        -- no separator: the element joins the first piece of the rest
        obtain ⟨first, rest, hsplit⟩ := List.exists_cons_of_ne_nil (List.splitOn_ne_nil sep l)
        have hpieces : ∀ piece ∈ first :: rest, sep ∉ piece := by
          intro piece hpiece
          exact not_mem_of_mem_splitOn (l := l) (hsplit ▸ hpiece)
        rw [hsplit, List.modifyHead_cons] at h
        rcases List.mem_cons.mp h with rfl | h
        · rw [List.mem_cons, not_or]
          refine ⟨?_, hpieces first List.mem_cons_self⟩
          rintro rfl
          exact hx (beq_self_eq_true _)
        · exact hpieces piece (List.mem_cons_of_mem _ h)

/-- Every element but the separator is in some piece. -/
theorem mem_iff_mem_splitOn {x : α} (hx : x ≠ sep) {l : List α} :
    x ∈ l ↔ ∃ piece ∈ l.splitOn sep, x ∈ piece := by
  rw [← mem_intercalate hx, List.intercalate_splitOn]

/-- A list that opens with the separator has an empty piece. -/
theorem nil_mem_splitOn_of_head? {l : List α} (h : l.head? = some sep) : [] ∈ l.splitOn sep := by
  obtain ⟨rest, rfl⟩ := List.head?_eq_some_iff.mp h
  have hsplit := List.splitOn_append_cons_self [] rest (a := sep)
  rw [List.nil_append] at hsplit
  rw [hsplit, List.splitOn_nil]
  exact List.mem_cons_self

/-- So has a list that ends with it. -/
theorem nil_mem_splitOn_of_getLast? {l : List α} (h : l.getLast? = some sep) :
    [] ∈ l.splitOn sep := by
  obtain ⟨rest, rfl⟩ := List.getLast?_eq_some_iff.mp h
  rw [List.splitOn_append_cons_self, List.splitOn_nil]
  exact List.mem_append_right _ List.mem_cons_self

/-! ## Kept pieces -/

/-- The pieces `keep` lets through, in order. -/
def kept (keep : List α → Bool) (sep : α) (l : List α) : List (List α) :=
  (l.splitOn sep).filter keep

/-- They, joined again. -/
def canon (keep : List α → Bool) (sep : α) (l : List α) : List α :=
  [sep].intercalate (kept keep sep l)

variable {keep : List α → Bool} {l m : List α}

/-- The canonical form is cut into exactly the kept pieces. -/
theorem splitOn_canon (h : kept keep sep l ≠ []) :
    (canon keep sep l).splitOn sep = kept keep sep l := by
  refine List.splitOn_intercalate sep (fun piece hpiece => ?_) h
  exact not_mem_of_mem_splitOn (List.mem_of_mem_filter hpiece)

/-- None of them is dropped a second time. -/
theorem kept_canon (h : kept keep sep l ≠ []) :
    kept keep sep (canon keep sep l) = kept keep sep l := by
  rw [kept, splitOn_canon h]
  exact List.filter_eq_self.mpr fun piece hpiece => List.of_mem_filter hpiece

theorem canon_canon (h : kept keep sep l ≠ []) :
    canon keep sep (canon keep sep l) = canon keep sep l := by
  rw [canon, kept_canon h]
  rfl

/-- **The canonical form determines the kept pieces.** -/
theorem canon_inj (hl : kept keep sep l ≠ []) (hm : kept keep sep m ≠ []) :
    canon keep sep l = canon keep sep m ↔ kept keep sep l = kept keep sep m := by
  constructor
  · intro h
    rw [← splitOn_canon hl, ← splitOn_canon hm, h]
  · intro h
    rw [canon, canon, h]

theorem kept_append_cons : kept keep sep (l ++ sep :: m) = kept keep sep l ++ kept keep sep m := by
  rw [kept, List.splitOn_append_cons_self, List.filter_append]
  rfl

/-- **Concatenation.**  A separator between two lists is one between their canonical forms. -/
theorem canon_append_cons (hl : kept keep sep l ≠ []) (hm : kept keep sep m ≠ []) :
    canon keep sep (l ++ sep :: m) = canon keep sep l ++ sep :: canon keep sep m := by
  rw [canon, kept_append_cons, intercalate_append hl hm]
  rfl

end Components

/-
  Fixed-width block codes: every symbol is written as a block of the same width.

  A text of blocks needs no separators.  Between texts of the same number of symbols, encoding is
  injective (`encode_inj`); it reaches every string of whole blocks (`exists_encode`); and where the
  blocks are ordered as their symbols are, the encoded strings are ordered as the texts, both
  lexicographically (`encode_lt_iff`).  Each is an induction over the two texts that takes one block
  off the front.
-/
import Mathlib.Algebra.Ring.Nat
import Mathlib.Data.List.Basic

/-- Symbols `α`, written as blocks over `β`. -/
structure BlockCode (α β : Type*) where
  block : α → List β
  width : Nat
  length_block : ∀ a, (block a).length = width
  block_inj : ∀ {a b}, block a = block b → a = b

namespace BlockCode

variable {α β : Type*} (C : BlockCode α β)

/-- The blocks of a text, one after the other. -/
def encode (as : List α) : List β := as.flatMap C.block

theorem encode_cons (a : α) (as : List α) : C.encode (a :: as) = C.block a ++ C.encode as :=
  List.flatMap_cons

theorem length_encode : ∀ as : List α, (C.encode as).length = as.length * C.width
  | [] => (Nat.zero_mul _).symm
  | a :: as => by
      have ih := length_encode as
      rw [encode_cons, List.length_append, C.length_block, ih, List.length_cons, Nat.succ_mul]
      omega

/-- A text of known length is read back block by block. -/
theorem encode_inj : ∀ {as bs : List α}, as.length = bs.length → C.encode as = C.encode bs → as = bs
  | [], [], _, _ => rfl
  | [], _ :: _, hlength, _ => by simp at hlength
  | _ :: _, [], hlength, _ => by simp at hlength
  | a :: as, b :: bs, hlength, h => by
      rw [encode_cons, encode_cons] at h
      obtain ⟨hblock, hrest⟩ := List.append_inj h (by rw [C.length_block, C.length_block])
      rw [C.block_inj hblock, encode_inj (Nat.succ.inj hlength) hrest]

/-- Where every block over the letters `p` encodes a symbol, every string of whole blocks over them
    encodes a text. -/
theorem exists_encode {p : β → Prop}
    (hblock : ∀ piece : List β, piece.length = C.width → (∀ x ∈ piece, p x) →
      ∃ a, C.block a = piece) :
    ∀ (n : Nat) {l : List β}, l.length = n * C.width → (∀ x ∈ l, p x) →
      ∃ as : List α, as.length = n ∧ C.encode as = l
  | 0, l, hlength, _ => by
      rw [Nat.zero_mul] at hlength
      exact ⟨[], rfl, (List.length_eq_zero_iff.mp hlength).symm⟩
  | n + 1, l, hlength, hp => by
      rw [Nat.succ_mul] at hlength
      have htake : (l.take C.width).length = C.width := by
        rw [List.length_take]
        omega
      have hdrop : (l.drop C.width).length = n * C.width := by
        rw [List.length_drop]
        omega
      obtain ⟨a, ha⟩ := hblock _ htake fun x hx => hp x (List.mem_of_mem_take hx)
      obtain ⟨as, hn, has⟩ :=
        exists_encode hblock n hdrop fun x hx => hp x (List.mem_of_mem_drop hx)
      refine ⟨a :: as, by rw [List.length_cons, hn], ?_⟩
      rw [encode_cons, ha, has, List.take_append_drop]

/-! ## Order -/

section Order

variable [LT α] [LT β]

/-- Strings are compared by their fronts first, if these are equally long. -/
theorem append_lt_append_iff : ∀ {us vs ws xs : List β}, us.length = vs.length →
    (us ++ ws < vs ++ xs ↔ us < vs ∨ us = vs ∧ ws < xs)
  | [], [], _, _, _ => by simp
  | [], _ :: _, _, _, hlength => by simp at hlength
  | _ :: _, [], _, _, hlength => by simp at hlength
  | u :: us, v :: vs, ws, xs, hlength => by
      have ih : us ++ ws < vs ++ xs ↔ us < vs ∨ us = vs ∧ ws < xs :=
        append_lt_append_iff (Nat.succ.inj hlength)
      rw [List.cons_append, List.cons_append, List.cons_lt_cons_iff, List.cons_lt_cons_iff, ih,
        List.cons.injEq]
      tauto

/-- **Encoding keeps the lexicographic order**, if the blocks are ordered as the symbols are. -/
theorem encode_lt_iff (hblock : ∀ a b, C.block a < C.block b ↔ a < b) :
    ∀ {as bs : List α}, as.length = bs.length → (C.encode as < C.encode bs ↔ as < bs)
  | [], [], _ => by
      show ([] : List β) < [] ↔ ([] : List α) < []
      simp
  | [], _ :: _, hlength => by simp at hlength
  | _ :: _, [], hlength => by simp at hlength
  | a :: as, b :: bs, hlength => by
      have ih := encode_lt_iff hblock (Nat.succ.inj hlength)
      have hsame : C.block a = C.block b ↔ a = b := ⟨C.block_inj, congrArg C.block⟩
      rw [encode_cons, encode_cons, append_lt_append_iff (by rw [C.length_block, C.length_block]),
        hblock, hsame, ih, List.cons_lt_cons_iff]

end Order

end BlockCode

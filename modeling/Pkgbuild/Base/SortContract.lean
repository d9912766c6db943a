/-
  `std::sort` by its contract: SOME sorted permutation, nothing said about ties.

  A program that sorts may rely on two things only — the output is a permutation of the input, and
  no later element is less than an earlier one.  `StdSort less` is any function with these two
  properties, so what is proved about a program taking one holds for every implementation, stable
  or not.  What a sort by a key DOES determine is the sequence of keys, whoever sorts
  (`map_key_eq_of_perm`), which is strictly ascending when they are distinct (`pairwise_lt_key`).
  The contract is not empty: insertion sort meets it (`insertion`).
-/
import Mathlib.Data.List.Sort

/-- A sorting function for `less`, known by its contract alone. -/
structure StdSort {α : Type*} (less : α → α → Bool) where
  run : List α → List α
  perm : ∀ l, (run l).Perm l
  sorted : ∀ l, (run l).Pairwise fun a b => less b a = false

namespace StdSort

variable {α κ : Type*} {less : α → α → Bool} (S : StdSort less)

@[simp] theorem mem_run {l : List α} {a : α} : a ∈ S.run l ↔ a ∈ l := (S.perm l).mem_iff

@[simp] theorem length_run (l : List α) : (S.run l).length = l.length := (S.perm l).length_eq

section Key

variable [LT κ] [DecidableLT κ] {key : α → κ}

/-- Sorting by a key leaves the keys in ascending order. -/
theorem pairwise_key (hless : ∀ a b, less a b = decide (key a < key b)) (l : List α) :
    ((S.run l).map key).Pairwise fun a b => ¬ b < a := by
  rw [List.pairwise_map]
  refine (S.sorted l).imp fun {a b} h => ?_
  rw [hless] at h
  exact of_decide_eq_false h

/-- **Keys are canonical.**  Two lists with the same keys, in any order, are sorted into the same
    sequence of keys, even by two different functions. -/
theorem map_key_eq_of_perm [Std.Trichotomous (α := κ) (· < ·)] (T : StdSort less)
    (hless : ∀ a b, less a b = decide (key a < key b)) {l l' : List α}
    (h : (l.map key).Perm (l'.map key)) : (S.run l).map key = (T.run l').map key := by
  have hperm : ((S.run l).map key).Perm ((T.run l').map key) :=
    (((S.perm l).map key).trans h).trans ((T.perm l').map key).symm
  refine hperm.eq_of_pairwise (fun a b _ _ hba hab => ?_) (S.pairwise_key hless l)
    (T.pairwise_key hless l')
  exact @Std.Trichotomous.trichotomous κ (· < ·) _ a b hab hba

/-- The same for one function run twice. -/
theorem map_key_eq [Std.Trichotomous (α := κ) (· < ·)]
    (hless : ∀ a b, less a b = decide (key a < key b)) {l l' : List α}
    (h : (l.map key).Perm (l'.map key)) : (S.run l).map key = (S.run l').map key :=
  S.map_key_eq_of_perm S hless h

/-- Distinct keys come out strictly ascending. -/
theorem pairwise_lt_key [Std.Trichotomous (α := κ) (· < ·)]
    (hless : ∀ a b, less a b = decide (key a < key b)) {l : List α} (h : (l.map key).Nodup) :
    ((S.run l).map key).Pairwise fun a b => a < b := by
  have hnodup : ((S.run l).map key).Nodup := ((S.perm l).map key).nodup_iff.mpr h
  refine ((S.pairwise_key hless l).and hnodup).imp fun {a b} hab => ?_
  obtain ⟨hnot, hne⟩ := hab
  by_contra hlt
  exact hne (@Std.Trichotomous.trichotomous κ (· < ·) _ a b hlt hnot)

/-- Insertion sort by a key, for keys ordered by a strict weak order. -/
def insertion (hless : ∀ a b, less a b = decide (key a < key b))
    (hasymm : ∀ x y : κ, x < y → ¬ y < x)
    (htrans : ∀ x y z : κ, ¬ y < x → ¬ z < y → ¬ z < x) : StdSort less where
  run := List.insertionSort fun a b => less b a = false
  perm := List.perm_insertionSort _
  sorted := by
    -- the comparison to sort by is "not greater", which is total and transitive
    have htotal : Std.Total fun a b => less b a = false := by
      refine ⟨fun a b => ?_⟩
      simp only [hless, decide_eq_false_iff_not]
      by_cases h : key b < key a
      · exact Or.inr (hasymm _ _ h)
      · exact Or.inl h
    have htransitive : IsTrans α fun a b => less b a = false := by
      refine ⟨fun a b c hab hbc => ?_⟩
      simp only [hless, decide_eq_false_iff_not] at hab hbc ⊢
      exact htrans _ _ _ hab hbc
    exact List.pairwise_insertionSort _

end Key

end StdSort

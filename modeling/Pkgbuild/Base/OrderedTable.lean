/-
  Ordered containers by their contract: `std::map` and `std::set`.

  A container knows its keys by `operator<` only.  Two keys neither of which is less are one key to
  it; `emplace` leaves the value of an occupied key alone and says whether it put one in; `find`
  returns the value of an equivalent key.  `StdMap less υ` is anything that does this, so what is
  proved about a program using one holds for every standard library.

  1. **Orders** — strict weak orders of keys, and those in which equivalent keys are equal;
  2. **The contract** — `StdMap`; a set is a map to nothing;
  3. **It can be met** — search trees do, as long as the keys are ordered strictly and weakly.  The
     path to a key is the same before and after another key was put in, so no invariant about the
     whole tree is needed.
-/
import Mathlib.Logic.Basic

namespace OrderedTable

universe u v

variable {κ : Type u} {υ : Type v} {less : κ → κ → Bool} {a b c : κ}

/-! ## Orders -/

/-- Neither key is less than the other. -/
def Equivalent (less : κ → κ → Bool) (a b : κ) : Prop := less a b = false ∧ less b a = false

instance : Decidable (Equivalent less a b) := inferInstanceAs (Decidable (_ ∧ _))

/-- What the standard library asks of `operator<`. -/
structure StrictWeak (less : κ → κ → Bool) : Prop where
  asymm : ∀ a b, less a b = true → less b a = false
  /-- Whatever stands between two keys is apart from one of them. -/
  between : ∀ a b c, less a c = true → less a b = true ∨ less b c = true

/-- An order that tells all keys apart. -/
structure StrictTotal (less : κ → κ → Bool) : Prop extends StrictWeak less where
  eq_of_equivalent : ∀ a b, Equivalent less a b → a = b

namespace StrictWeak

variable (h : StrictWeak less)

include h

/-- A key is not less than itself: asymmetry would deny it what it says. -/
theorem irrefl (a : κ) : less a a = false := by
  cases hless : less a a with
  | false => rfl
  | true => exact hless ▸ h.asymm a a hless

/-- Chains of smaller keys: the third key cannot come between the first two. -/
theorem trans (hab : less a b = true) (hbc : less b c = true) : less a c = true := by
  rcases h.between a c b hab with hac | hcb
  · exact hac
  · rw [h.asymm b c hbc] at hcb
    cases hcb

/-- Equivalent keys are less than the same keys. -/
theorem less_of_equivalent (hab : Equivalent less a b) (hbc : less b c = true) :
    less a c = true := by
  rcases h.between b a c hbc with hba | hac
  · rw [hab.2] at hba
    cases hba
  · exact hac

/-- The same keys are less than equivalent keys. -/
theorem less_equivalent (hab : less a b = true) (hbc : Equivalent less b c) :
    less a c = true := by
  rcases h.between a c b hab with hac | hcb
  · exact hac
  · rw [hbc.2] at hcb
    cases hcb

end StrictWeak

theorem Equivalent.symm (h : Equivalent less a b) : Equivalent less b a := ⟨h.2, h.1⟩

/-- In a total order, equivalence is equality. -/
theorem StrictTotal.equivalent_iff (h : StrictTotal less) : Equivalent less a b ↔ a = b := by
  constructor
  · exact h.eq_of_equivalent a b
  · rintro rfl
    exact ⟨h.irrefl a, h.irrefl a⟩

/-- The order of keys by a part that tells them apart. -/
theorem StrictTotal.ofKey {ι : Type*} [LT ι] [DecidableLT ι] {key : κ → ι}
    (hless : ∀ a b, less a b = decide (key a < key b))
    (hasymm : ∀ x y : ι, x < y → ¬ y < x)
    (hbetween : ∀ x y z : ι, x < z → x < y ∨ y < z)
    (hequal : ∀ a b, ¬ key a < key b → ¬ key b < key a → a = b) : StrictTotal less where
  asymm a b h := by
    rw [hless] at h ⊢
    exact decide_eq_false (hasymm _ _ (of_decide_eq_true h))
  between a b c h := by
    rw [hless] at h ⊢
    rw [hless b c, decide_eq_true_iff, decide_eq_true_iff]
    exact hbetween _ (key b) _ (of_decide_eq_true h)
  eq_of_equivalent a b h := by
    rw [Equivalent, hless, hless, decide_eq_false_iff_not, decide_eq_false_iff_not] at h
    exact hequal a b h.1 h.2

/-! ## The contract -/

/-- `std::map` from `κ` to `υ` in the order `less`. -/
structure StdMap (less : κ → κ → Bool) (υ : Type v) where
  Table : Type
  empty : Table
  find : Table → κ → Option υ
  /-- The table with the key in it, and whether it was put in. -/
  emplace : Table → κ → υ → Table × Bool
  find_empty : ∀ k, find empty k = none
  inserted : ∀ t k v, (emplace t k v).2 = (find t k).isNone
  find_emplace : ∀ t k v k', find (emplace t k v).1 k'
    = if Equivalent less k' k ∧ (find t k).isNone then some v else find t k'

/-- `std::set`. -/
abbrev StdSet (less : κ → κ → Bool) := StdMap less Unit

namespace StdMap

variable (M : StdMap less υ) {t : M.Table} {k k' : κ} {value : υ}

/-- `emplace` says no exactly when the key, or an equivalent one, was found before. -/
theorem inserted_eq_false_iff : (M.emplace t k value).2 = false ↔ M.find t k ≠ none := by
  rw [M.inserted]
  cases M.find t k <;> simp

/-- A key that is put in is found, and no other key is. -/
theorem find_emplace_none [DecidableEq κ] (hless : StrictTotal less) (hnone : M.find t k = none) :
    M.find (M.emplace t k value).1 k' = if k' = k then some value else M.find t k' := by
  rw [M.find_emplace, hnone]
  by_cases hkey : k' = k
  · rw [if_pos hkey, if_pos ⟨hless.equivalent_iff.mpr hkey, rfl⟩]
  · rw [if_neg hkey, if_neg fun h => hkey (hless.equivalent_iff.mp h.1)]

/-- An occupied key keeps its value. -/
theorem find_emplace_some (hsome : M.find t k ≠ none) :
    M.find (M.emplace t k value).1 k' = M.find t k' := by
  rw [M.find_emplace, if_neg]
  rintro ⟨-, hnone⟩
  exact hsome (Option.isNone_iff_eq_none.mp hnone)

end StdMap

/-! ## It can be met -/

/-- Binary trees of keys with their values.  Nothing says that the keys are in order. -/
inductive SearchTree (κ : Type u) (υ : Type v) where
  | leaf
  | node (left : SearchTree κ υ) (key : κ) (value : υ) (right : SearchTree κ υ)

namespace SearchTree

variable (less)

/-- Down the tree, asking `less` both ways at every key met. -/
def find : SearchTree κ υ → κ → Option υ
  | leaf, _ => none
  | node left key value right, k =>
      if less k key then find left k
      else if less key k then find right k
      else some value

/-- The same way down, and a new leaf where it ends.  An equivalent key met on it keeps its value.
    -/
def emplace : SearchTree κ υ → κ → υ → SearchTree κ υ
  | leaf, k, v => node leaf k v leaf
  | node left key value right, k, v =>
      if less k key then node (emplace left k v) key value right
      else if less key k then node left key value (emplace right k v)
      else node left key value right

variable {less}

/-- Where the search for a key goes left, it goes left for every equivalent key; likewise right. -/
theorem find_emplace (h : StrictWeak less) : ∀ (t : SearchTree κ υ) (k : κ) (v : υ) (k' : κ),
    (t.emplace less k v).find less k'
      = if Equivalent less k' k ∧ (t.find less k).isNone then some v else t.find less k'
  | leaf, k, v, k' => by
      -- an empty tree: only the new key can be found in it
      by_cases hequivalent : Equivalent less k' k
      · rw [if_pos ⟨hequivalent, rfl⟩]
        simp [emplace, find, hequivalent.1, hequivalent.2]
      · rw [if_neg fun hboth => hequivalent hboth.1]
        simp only [emplace, find]
        cases hto : less k' k with
        | true => rfl
        | false =>
          cases hfrom : less k k' with
          | true => rfl
          | false => exact absurd ⟨hto, hfrom⟩ hequivalent
  | node left key value right, k, v, k' => by
      cases hleft : less k key with
      | true =>
        -- the key goes left; a search that goes right passes it by, and is for another key
        simp only [emplace, find, hleft, if_true]
        cases hleft' : less k' key with
        | true => simpa using find_emplace h left k v k'
        | false =>
          have hapart : ¬ Equivalent less k' k := by
            intro hequivalent
            rw [h.less_of_equivalent hequivalent hleft] at hleft'
            cases hleft'
          simp [hapart]
      | false =>
        cases hright : less key k with
        | true =>
          -- the key goes right, and so does every search for it
          simp only [emplace, find, hleft, hright, if_true, if_false, Bool.false_eq_true]
          cases hright' : less key k' with
          | true =>
            have hnot : less k' key = false := h.asymm key k' hright'
            simpa [hnot] using find_emplace h right k v k'
          | false =>
            have hapart : ¬ Equivalent less k' k := by
              intro hequivalent
              rw [h.less_equivalent hright hequivalent.symm] at hright'
              cases hright'
            simp [hapart]
        | false =>
          -- the key is there
          simp [emplace, find, hleft, hright]

/-- Search trees as a map. -/
def map {κ υ : Type} {less : κ → κ → Bool} (h : StrictWeak less) : StdMap less υ where
  Table := SearchTree κ υ
  empty := leaf
  find := find less
  emplace := fun t k v => (t.emplace less k v, (t.find less k).isNone)
  find_empty := fun _ => rfl
  inserted := fun _ _ _ => rfl
  find_emplace := find_emplace h

end SearchTree

end OrderedTable

/-
  Handles: what a client may do with things it acquires, uses and gives back.

  A log is a list of acts, each about one handle at most.  `held` is the set of handles acquired and
  not yet released; a log is `Disciplined` when every use and every release is of a held handle and
  no held handle is acquired again.  Whether the acts are calls on an allocator, a lock service or a
  library with opaque pointers makes no difference.

  1. **One act at a time** — `disciplined_concat`, and a violation is never undone;
  2. **Nothing twice** — in a disciplined log a handle is released as often as it was acquired, but
     for the time it is held (`Disciplined.count_eq`);
  3. **Owners** — `Owned holding slots`: the held handles are the contents of the slots, each in one
     slot only.  What acquiring into a new slot, releasing out of a slot and doing nothing to the
     set of held handles mean for the owners.
-/
import Mathlib.Data.Finset.Basic

namespace Handles

variable {η : Type*}

/-- What one event does. -/
inductive Act (η : Type*) where
  | acquire (handle : η)
  | touch (handle : η)
  | release (handle : η)
  /-- No handle is involved. -/
  | idle
  /-- Something that is no handle is used as one. -/
  | stray
deriving DecidableEq

section Logs

variable [DecidableEq η]

/-- The handles held after an act. -/
def Act.run (holding : Finset η) : Act η → Finset η
  | .acquire handle => insert handle holding
  | .release handle => holding.erase handle
  | .touch _ | .idle | .stray => holding

/-- The handles held after a log. -/
def held (log : List (Act η)) : Finset η := log.foldl Act.run ∅

/-- The act is in order, given what is held. -/
def Act.Allowed (holding : Finset η) : Act η → Prop
  | .acquire handle => handle ∉ holding
  | .touch handle | .release handle => handle ∈ holding
  | .idle => True
  | .stray => False

/-- Every act of the log was in order when it was made. -/
def Disciplined (log : List (Act η)) : Prop :=
  ∀ before act after, log = before ++ act :: after → act.Allowed (held before)

variable {log : List (Act η)} {act : Act η} {handle : η}

/-! ## One act at a time -/

@[simp] theorem held_nil : held ([] : List (Act η)) = ∅ := rfl

/-- What is held after more calls is what they make of what was held before. -/
theorem held_append (log more : List (Act η)) :
    held (log ++ more) = more.foldl Act.run (held log) := List.foldl_append

/-- The last call acts on what the others left. -/
@[simp] theorem held_concat : held (log ++ [act]) = act.run (held log) := held_append log [act]

/-- Only what was acquired is held. -/
theorem acquire_mem_of_held : ∀ {log : List (Act η)}, handle ∈ held log →
    Act.acquire handle ∈ log := by
  intro log
  induction log using List.reverseRecOn with
  | nil =>
    intro h
    simp at h
  | append_singleton log act ih =>
    intro h
    rw [held_concat] at h
    refine List.mem_append.mpr ?_
    cases act with
    | acquire other =>
      rcases Finset.mem_insert.mp h with rfl | h
      · exact Or.inr List.mem_cons_self
      · exact Or.inl (ih h)
    | release other => exact Or.inl (ih (Finset.mem_of_mem_erase h))
    | touch other => exact Or.inl (ih h)
    | idle => exact Or.inl (ih h)
    | stray => exact Or.inl (ih h)

theorem disciplined_nil : Disciplined ([] : List (Act η)) := by
  intro before act after h
  cases before <;> cases h

/-- A beginning of a disciplined log is disciplined. -/
theorem Disciplined.left {more : List (Act η)} (h : Disciplined (log ++ more)) :
    Disciplined log := by
  rintro before act after rfl
  refine h before act (after ++ more) ?_
  rw [List.append_assoc, List.cons_append]

/-- A log keeps the rules exactly when the calls before the last do and the last is allowed then. -/
theorem disciplined_concat :
    Disciplined (log ++ [act]) ↔ Disciplined log ∧ act.Allowed (held log) := by
  constructor
  · intro h
    exact ⟨h.left, h log act [] rfl⟩
  · rintro ⟨hlog, hact⟩ before act' after hsplit
    rcases List.eq_nil_or_concat after with rfl | ⟨rest, last, rfl⟩
    · obtain ⟨rfl, hlast⟩ := List.append_inj' hsplit rfl
      cases hlast
      exact hact
    · refine hlog before act' rest ?_
      have hsplit : log ++ [act] = (before ++ act' :: rest) ++ [last] := by
        rw [hsplit, List.append_assoc, List.cons_append, List.concat_eq_append]
      exact (List.append_inj' hsplit rfl).1

/-- Touching held handles keeps a log disciplined and what is held. -/
theorem Disciplined.touches (h : Disciplined log) (hheld : handle ∈ held log) :
    ∀ {more : List (Act η)}, (∀ act ∈ more, act = .touch handle) →
      Disciplined (log ++ more) ∧ held (log ++ more) = held log := by
  intro more
  induction more using List.reverseRecOn with
  | nil =>
    intro _
    rw [List.append_nil]
    exact ⟨h, rfl⟩
  | append_singleton more act ih =>
    intro hmore
    obtain ⟨hlog, hkeep⟩ := ih fun act hact => hmore act (List.mem_append_left _ hact)
    obtain rfl := hmore act (List.mem_append_right _ List.mem_cons_self)
    rw [← List.append_assoc, held_concat, disciplined_concat]
    refine ⟨⟨hlog, ?_⟩, hkeep⟩
    show handle ∈ held (log ++ more)
    rw [hkeep]
    exact hheld

/-! ## Nothing twice -/

/-- **The balance.**  A handle is acquired once more than released exactly while it is held. -/
theorem Disciplined.count_eq (handle : η) : ∀ {log : List (Act η)}, Disciplined log →
    log.count (.acquire handle)
      = log.count (.release handle) + if handle ∈ held log then 1 else 0 := by
  intro log
  induction log using List.reverseRecOn with
  | nil =>
    intro _
    simp
  | append_singleton log act ih =>
    intro h
    obtain ⟨hlog, hallowed⟩ := disciplined_concat.mp h
    have hcount := ih hlog
    rw [List.count_append, List.count_append, held_concat]
    cases act with
    | acquire other =>
      by_cases heq : other = handle
      · subst heq
        -- the rule says that it was free
        have hfree : other ∉ held log := hallowed
        simp only [hfree, if_false] at hcount
        simp [Act.run, hcount]
      · have hne : handle ≠ other := fun h => heq h.symm
        simp [Act.run, hcount, heq, hne]
    | release other =>
      by_cases heq : other = handle
      · subst heq
        -- the rule says that it was held
        have hheld : other ∈ held log := hallowed
        simp only [hheld, if_true] at hcount
        simp [Act.run, hcount]
      · have hne : handle ≠ other := fun h => heq h.symm
        simp [Act.run, hcount, heq, hne]
    | touch other =>
      have hkeep : Act.run (held log) (.touch other) = held log := rfl
      rw [hkeep]
      simpa using hcount
    | idle =>
      have hkeep : Act.run (held log) .idle = held log := rfl
      rw [hkeep]
      simpa using hcount
    | stray => exact hallowed.elim

end Logs

/-! ## Owners -/

/-- Writing back what a slot holds changes nothing. -/
theorem set_getElem?_self {α : Type*} {slots : List α} {i : Nat} {slot : α}
    (hi : slots[i]? = some slot) : slots.set i slot = slots := by
  obtain ⟨hlt, rfl⟩ := List.getElem?_eq_some_iff.mp hi
  exact List.set_getElem_self hlt

/-- The held handles are the contents of the slots, and no two slots hold the same one. -/
structure Owned (holding : Finset η) (slots : List (Option η)) : Prop where
  held_iff : ∀ handle, handle ∈ holding ↔ ∃ i : Nat, slots[i]? = some (some handle)
  sole : ∀ {i j : Nat} {handle : η}, slots[i]? = some (some handle) →
    slots[j]? = some (some handle) → i = j

namespace Owned

variable {holding : Finset η} {slots : List (Option η)} {handle : η} {i : Nat}

theorem empty : Owned (∅ : Finset η) [] := by
  constructor
  · intro handle
    simp
  · intro i j handle hi
    simp at hi

/-- A slot's handle is held. -/
theorem held (h : Owned holding slots) (hi : slots[i]? = some (some handle)) : handle ∈ holding :=
  (h.held_iff handle).mpr ⟨i, hi⟩

/-- A handle of another slot is another handle. -/
theorem ne (h : Owned holding slots) (hi : slots[i]? = some (some handle)) {j : Nat} {other : η}
    (hj : slots[j]? = some (some other)) (hij : j ≠ i) : other ≠ handle := by
  rintro rfl
  exact hij (h.sole hj hi)

theorem concat_none (h : Owned holding slots) : Owned holding (slots ++ [none]) := by
  have hslot : ∀ {i : Nat} {handle : η}, (slots ++ [none])[i]? = some (some handle) ↔
      slots[i]? = some (some handle) := by
    intro i handle
    rcases Nat.lt_trichotomy i slots.length with hlt | rfl | hgt
    · rw [List.getElem?_append_left hlt]
    · simp
    · rw [List.getElem?_eq_none (by simp; omega), List.getElem?_eq_none (by omega)]
  constructor
  · intro handle
    simp only [hslot]
    exact h.held_iff handle
  · intro i j handle hi hj
    exact h.sole (hslot.mp hi) (hslot.mp hj)

/-- A new slot with a handle just acquired. -/
theorem concat_some [DecidableEq η] (h : Owned holding slots) (hfree : handle ∉ holding) :
    Owned (insert handle holding) (slots ++ [some handle]) := by
  have hslot : ∀ {i : Nat} {other : η}, (slots ++ [some handle])[i]? = some (some other) ↔
      slots[i]? = some (some other) ∨ i = slots.length ∧ other = handle := by
    intro i other
    rcases Nat.lt_trichotomy i slots.length with hlt | rfl | hgt
    · rw [List.getElem?_append_left hlt]
      have hne : i ≠ slots.length := by omega
      simp [hne]
    · simp [eq_comm]
    · rw [List.getElem?_eq_none (by simp; omega), List.getElem?_eq_none (by omega)]
      have hne : i ≠ slots.length := by omega
      simp [hne]
  constructor
  · intro other
    simp only [hslot, Finset.mem_insert, h.held_iff other]
    constructor
    · rintro (rfl | ⟨i, hi⟩)
      · exact ⟨slots.length, Or.inr ⟨rfl, rfl⟩⟩
      · exact ⟨i, Or.inl hi⟩
    · rintro ⟨i, hi | ⟨-, rfl⟩⟩
      · exact Or.inr ⟨i, hi⟩
      · exact Or.inl rfl
  · intro i j other hi hj
    -- a handle just acquired is in none of the old slots
    rcases hslot.mp hi with hold | ⟨hlast, hnew⟩
    · rcases hslot.mp hj with hold' | ⟨-, hnew'⟩
      · exact h.sole hold hold'
      · exact absurd (h.held (hnew' ▸ hold)) hfree
    · rcases hslot.mp hj with hold' | ⟨hlast', -⟩
      · exact absurd (h.held (hnew ▸ hold')) hfree
      · exact hlast.trans hlast'.symm

/-- A slot is emptied and its handle released. -/
theorem set_none [DecidableEq η] (h : Owned holding slots) (hi : slots[i]? = some (some handle)) :
    Owned (holding.erase handle) (slots.set i none) := by
  have hslot : ∀ {j : Nat} {other : η}, (slots.set i none)[j]? = some (some other) ↔
      j ≠ i ∧ slots[j]? = some (some other) := by
    intro j other
    by_cases hij : i = j
    · subst hij
      rw [List.getElem?_set_self']
      simp
    · rw [List.getElem?_set_ne hij]
      exact (and_iff_right fun hji => hij hji.symm).symm
  constructor
  · intro other
    simp only [hslot, Finset.mem_erase, h.held_iff other]
    constructor
    · rintro ⟨hne, j, hj⟩
      refine ⟨j, ?_, hj⟩
      rintro rfl
      exact hne (Option.some.inj (Option.some.inj (hj.symm.trans hi)))
    · rintro ⟨j, hji, hj⟩
      exact ⟨h.ne hi hj hji, j, hj⟩
  · intro j k other hj hk
    exact h.sole (hslot.mp hj).2 (hslot.mp hk).2

theorem set_none_of_none (h : Owned holding slots) (hi : slots[i]? = some none) :
    Owned holding (slots.set i none) := by
  rw [set_getElem?_self hi]
  exact h

/-- With no slot left occupied, nothing is held. -/
theorem eq_empty (h : Owned holding slots) (hnone : ∀ slot ∈ slots, slot = none) :
    holding = ∅ := by
  refine Finset.eq_empty_iff_forall_notMem.mpr fun handle hhandle => ?_
  obtain ⟨i, hi⟩ := (h.held_iff handle).mp hhandle
  have hslot := hnone _ (List.mem_of_getElem? hi)
  cases hslot

end Owned

end Handles

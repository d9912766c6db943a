/-
  Sole occurrences, and one-to-one correspondences between two lists.

  `Sole p l b` says that `b` stands at the ONLY position of `l` satisfying `p` — a statement about
  positions, so a list holding `b` twice has no sole `b`.  It is what a scan that fails at its
  second match establishes.

  `OneToOne rel xs ys` says that `rel` IS a bijection between the positions of `xs` and the
  positions of `ys`.  Its list form (`oneToOne_iff_lineUp`) is the one programs produce: `ys`,
  suitably reordered, lines up with `xs`, each entry being the sole one its partner is related to.

  1. **Sole** — readings through `filter`, indices and permutations;
  2. **Lined up** — partners in two lists lined up entry by entry;
  3. **OneToOne** — the list form and its invariance under reordering `xs`;
  4. **Keys** — what distinct keys force: two lists with the same distinct keys are permutations of
     each other (`perm_of_keys`), a search by key finds the only entry (`find?_key_iff`), a key that
     determines a distinct one is distinct (`nodup_of_determines`), and a list no longer than its
     distinct sublist of keys has distinct keys itself (`nodup_of_length_le`); read from the left,
     they are the keys of which none was met before (`nodup_map_iff_splits`);
  5. **Classes** — a list put together from one part for each class;
  6. **Positions** — a filtered list as the positions it keeps.
-/
import Mathlib.Data.Fintype.EquivFin
import Mathlib.Data.List.Forall2
import Mathlib.Data.List.OfFn
import Mathlib.Data.List.Perm.Subperm

namespace Correspondence

variable {α β κ : Type*}

/-! ## Sole occurrences -/

/-- `b` stands at the only position of `l` whose element satisfies `p`. -/
def Sole (p : β → Prop) (l : List β) (b : β) : Prop :=
  ∃ pre post, l = pre ++ b :: post ∧ p b ∧ (∀ c ∈ pre, ¬ p c) ∧ ∀ c ∈ post, ¬ p c

section Sole

variable {p q : β → Prop} {l l' : List β} {b c : β}

theorem Sole.mem (h : Sole p l b) : b ∈ l := by
  obtain ⟨pre, post, rfl, -⟩ := h
  simp

theorem Sole.holds (h : Sole p l b) : p b := by
  obtain ⟨_, _, _, hb, -⟩ := h
  exact hb

/-- Whoever satisfies `p` is the sole occurrence. -/
theorem Sole.eq_of_mem (h : Sole p l b) (hc : c ∈ l) (hpc : p c) : c = b := by
  obtain ⟨pre, post, rfl, -, hpre, hpost⟩ := h
  rcases List.mem_append.mp hc with hc | hc
  · exact absurd hpc (hpre c hc)
  · rcases List.mem_cons.mp hc with rfl | hc
    · rfl
    · exact absurd hpc (hpost c hc)

theorem Sole.unique (h : Sole p l b) (h' : Sole p l c) : b = c :=
  h'.eq_of_mem h.mem h.holds

/-- The reading through `filter`: exactly one position survives. -/
theorem sole_iff_filter [DecidablePred p] :
    Sole p l b ↔ l.filter (fun c => decide (p c)) = [b] := by
  rw [List.filter_eq_cons_iff]
  constructor
  · rintro ⟨pre, post, hl, hb, hpre, hpost⟩
    exact ⟨pre, post, hl, by simpa using hpre, by simpa using hb,
      List.filter_eq_nil_iff.mpr (by simpa using hpost)⟩
  · rintro ⟨pre, post, hl, hpre, hb, hpost⟩
    exact ⟨pre, post, hl, by simpa using hb, by simpa using hpre,
      by simpa using List.filter_eq_nil_iff.mp hpost⟩

/-- A sole occurrence stands once. -/
theorem Sole.count_le_one [DecidableEq β] (h : Sole p l b) : l.count b ≤ 1 := by
  classical
  calc l.count b
      ≤ l.countP (fun c => decide (p c)) := by
        refine List.countP_mono_left fun c _ hc => ?_
        have hcb : c = b := by simpa using hc
        simpa [hcb] using h.holds
    _ = 1 := by
        rw [List.countP_eq_length_filter, sole_iff_filter.mp h]
        rfl

/-- The reading through `filterMap`: a partial function is defined at exactly one position. -/
theorem filterMap_eq_singleton_iff {f : α → Option β} {l : List α} {b : β} :
    l.filterMap f = [b] ↔ ∃ a, Sole (fun x => f x ≠ none) l a ∧ f a = some b := by
  rw [List.filterMap_eq_cons_iff]
  constructor
  · rintro ⟨pre, a, post, hl, hpre, ha, hpost⟩
    refine ⟨a, ⟨pre, post, hl, by simp [ha], by simpa using hpre, ?_⟩, ha⟩
    simpa using List.filterMap_eq_nil_iff.mp hpost
  · rintro ⟨a, ⟨pre, post, hl, -, hpre, hpost⟩, ha⟩
    exact ⟨pre, a, post, hl, by simpa using hpre, ha,
      List.filterMap_eq_nil_iff.mpr (by simpa using hpost)⟩

theorem sole_congr (h : ∀ c ∈ l, p c ↔ q c) : Sole p l b ↔ Sole q l b := by
  classical
  rw [sole_iff_filter, sole_iff_filter,
    List.filter_congr fun c hc => decide_eq_decide.mpr (h c hc)]

/-- Two positions cannot both be the sole one. -/
theorem Sole.not_pair (h : Sole p l b) {x y : β} (hsub : [x, y].Sublist l) (hx : p x) : ¬ p y := by
  classical
  intro hy
  have hfilter := hsub.filter fun c => decide (p c)
  rw [sole_iff_filter.mp h, List.filter_eq_self.mpr (by simp [hx, hy])] at hfilter
  exact absurd hfilter.length_le (by simp)

/-- Order does not matter to a sole occurrence. -/
theorem Sole.perm (h : Sole p l b) (hl : l.Perm l') : Sole p l' b := by
  classical
  rw [sole_iff_filter] at h ⊢
  exact List.perm_singleton.mp (h ▸ (hl.symm.filter _))

/-- Dropping elements that fail `p` anyway keeps the sole occurrence, and so does adding them. -/
theorem sole_filter {q : β → Bool} (h : ∀ c ∈ l, p c → q c = true) :
    Sole p (l.filter q) b ↔ Sole p l b := by
  classical
  rw [sole_iff_filter, sole_iff_filter, List.filter_filter]
  rw [List.filter_congr fun c hc => ?_]
  by_cases hp : p c
  · simp [hp, h c hc hp]
  · simp [hp]

/-- Inserting an element that fails `p` changes nothing. -/
theorem sole_insert {pre post : List β} (hc : ¬ p c) :
    Sole p (pre ++ c :: post) b ↔ Sole p (pre ++ post) b := by
  classical
  simp [sole_iff_filter, hc]

/-- Inserting an element that satisfies `p` leaves no sole occurrence of another position. -/
theorem not_sole_insert {pre post : List β} (hc : p c) (h : Sole p (pre ++ post) b) (d : β) :
    ¬ Sole p (pre ++ c :: post) d := by
  classical
  intro hd
  rw [sole_iff_filter] at h hd
  have hlen := congrArg List.length h
  have hlen' := congrArg List.length hd
  simp only [List.filter_append, List.filter_cons, hc, List.length_append, decide_true, if_true,
    List.length_cons, List.length_nil] at hlen hlen'
  omega

/-- The reading through indices. -/
theorem sole_iff_index :
    Sole p l b ↔ ∃ j : Fin l.length, l[j] = b ∧ ∀ k : Fin l.length, p l[k] ↔ k = j := by
  constructor
  · rintro ⟨pre, post, rfl, hb, hpre, hpost⟩
    refine ⟨⟨pre.length, by simp⟩, by simp, ?_⟩
    intro k
    constructor
    · intro hk
      apply Fin.ext
      -- before the element, at it, or behind it
      rcases Nat.lt_trichotomy k.1 pre.length with hlt | heq | hgt
      · refine absurd hk ?_
        simpa [List.getElem_append_left hlt] using hpre _ (List.getElem_mem hlt)
      · exact heq
      · refine absurd hk ?_
        have hk2 : k.1 - pre.length - 1 < post.length := by
          have := k.2; simp only [List.length_append, List.length_cons] at this; omega
        have hget : (pre ++ b :: post)[k] = post[k.1 - pre.length - 1] := by
          rw [Fin.getElem_fin, List.getElem_append_right (by omega), List.getElem_cons,
            dif_neg (by omega)]
        rw [hget]
        exact hpost _ (List.getElem_mem hk2)
    · rintro rfl
      simpa using hb
  · rintro ⟨j, rfl, hj⟩
    refine ⟨l.take j, l.drop (j + 1), by simp, (hj j).mpr rfl, ?_, ?_⟩
    · intro c hc hpc
      obtain ⟨k, hk, rfl⟩ := List.mem_take_iff_getElem.mp hc
      have := congrArg Fin.val ((hj ⟨k, by omega⟩).mp hpc)
      simp only at this
      omega
    · intro c hc hpc
      obtain ⟨k, hk, rfl⟩ := List.mem_drop_iff_getElem.mp hc
      have := congrArg Fin.val ((hj ⟨j + 1 + k, by omega⟩).mp hpc)
      simp only at this
      omega

end Sole

/-! ## Lists lined up one by one -/

variable {rel : α → β → Prop} {xs xs' : List α} {ys zs : List β}

/-- Every entry on the left has its partner on the right. -/
theorem exists_right_of_mem {xs : List α} {ys : List β} (h : List.Forall₂ rel xs ys) {x : α}
    (hx : x ∈ xs) : ∃ y ∈ ys, rel x y := by
  induction h with
  | nil => cases hx
  | cons hrel _ ih =>
    rcases List.mem_cons.mp hx with rfl | hx
    · exact ⟨_, List.mem_cons_self, hrel⟩
    · obtain ⟨y, hy, hxy⟩ := ih hx
      exact ⟨y, List.mem_cons_of_mem _ hy, hxy⟩

/-- Every entry on the right has its partner on the left. -/
theorem exists_left_of_mem {xs : List α} {ys : List β} (h : List.Forall₂ rel xs ys) {y : β}
    (hy : y ∈ ys) : ∃ x ∈ xs, rel x y :=
  exists_right_of_mem h.flip hy

/-- Lining up with a list of images is lining up with a list of preimages. -/
theorem exists_forall₂_of_map {γ : Type*} {R : α → γ → Prop} {f : γ → β} : ∀ {xs : List α}
    {ys : List β}, List.Forall₂ (fun x y => ∃ c, R x c ∧ f c = y) xs ys →
    ∃ cs, List.Forall₂ R xs cs ∧ cs.map f = ys
  | _, _, .nil => ⟨[], .nil, rfl⟩
  | _, _, .cons ⟨c, hc, hfc⟩ hrest => by
      obtain ⟨cs, hcs, rfl⟩ := exists_forall₂_of_map hrest
      exact ⟨c :: cs, .cons hc hcs, by rw [List.map_cons, hfc]⟩

/-- Related as before, as far as the entries go. -/
theorem forall₂_congr_mem {S : α → β → Prop} {xs : List α} {ys : List β}
    (h : ∀ x ∈ xs, ∀ y, rel x y ↔ S x y) : List.Forall₂ rel xs ys ↔ List.Forall₂ S xs ys := by
  constructor
  · intro hrel
    exact ((List.forall₂_and_left _ _).mpr ⟨h, hrel⟩).imp fun x y ⟨hiff, hxy⟩ => (hiff y).mp hxy
  · intro hS
    exact ((List.forall₂_and_left _ _).mpr ⟨h, hS⟩).imp fun x y ⟨hiff, hxy⟩ => (hiff y).mpr hxy

/-- Two lists lined up with the same list are lined up with each other. -/
theorem forall₂_of_common {γ : Type*} {R : α → β → Prop} {S : α → γ → Prop} : ∀ {xs : List α}
    {ys : List β} {zs : List γ}, List.Forall₂ R xs ys → List.Forall₂ S xs zs →
    List.Forall₂ (fun y z => ∃ x, R x y ∧ S x z) ys zs
  | _, _, _, .nil, .nil => .nil
  | _, _, _, .cons hR hRs, .cons hS hSs => .cons ⟨_, hR, hS⟩ (forall₂_of_common hRs hSs)

/-- When partners are told apart by distinct keys, everyone's partner is the sole one of its key. -/
theorem sole_of_lineUp {key : α → κ} {p : κ → β → Prop}
    (hp : ∀ x y k, rel x y → (p k y ↔ key x = k)) (h : List.Forall₂ rel xs ys)
    (hkeys : (xs.map key).Nodup) :
    List.Forall₂ (fun x y => Sole (p (key x)) ys y) xs ys := by
  induction h with
  | nil => exact .nil
  | @cons x y xs ys hxy hall ih =>
    obtain ⟨hx, hxs⟩ := List.nodup_cons.mp hkeys
    refine .cons ⟨[], ys, rfl, (hp x y _ hxy).mpr rfl, by simp, ?_⟩ ?_
    · intro z hz hpz
      obtain ⟨x', hx', hrel⟩ := exists_left_of_mem hall hz
      exact hx ((hp x' z _ hrel).mp hpz ▸ List.mem_map_of_mem hx')
    · refine (List.forall₂_and_left _ _).mpr ⟨fun _ => id, ih hxs⟩ |>.imp ?_
      rintro x' y' ⟨hx', hsole⟩
      have hne : ¬ p (key x') y := fun hpy =>
        hx ((hp x y _ hxy).mp hpy ▸ List.mem_map_of_mem hx')
      exact (@sole_insert _ _ y' y [] ys hne).mpr hsole

/-! ## One-to-one correspondence -/

/-- `rel` is a bijection between the positions of `xs` and the positions of `ys`. -/
def OneToOne (rel : α → β → Prop) (xs : List α) (ys : List β) : Prop :=
  ∃ σ : Fin xs.length ≃ Fin ys.length, ∀ i j, rel xs[i] ys[j] ↔ j = σ i

/-- Listing `ys` along a bijection of positions reorders it. -/
theorem perm_ofFn_equiv {n : Nat} (σ : Fin n ≃ Fin ys.length) :
    (List.ofFn fun i => ys[σ i]).Perm ys := by
  rw [← Multiset.coe_eq_coe, ← Fin.univ_val_map]
  calc Finset.univ.val.map (fun i => ys[σ i])
      = (Finset.univ.val.map σ).map (fun j : Fin ys.length => ys[j]) :=
        (Multiset.map_map _ _ _).symm
    _ = Finset.univ.val.map (fun j : Fin ys.length => ys[j]) := by
        rw [Multiset.map_univ_val_equiv]
    _ = ys := by
        rw [Fin.univ_val_map]
        exact congrArg _ List.ofFn_getElem

/-- When every entry is somebody's sole match, no entry stands twice. -/
theorem nodup_of_lineUp (hall : List.Forall₂ (fun x z => Sole (rel x) ys z) xs zs)
    (hperm : zs.Perm ys) : ys.Nodup := by
  classical
  refine List.nodup_iff_count_le_one.mpr fun y => ?_
  by_cases hy : y ∈ ys
  · obtain ⟨x, -, hsole⟩ := exists_left_of_mem hall (hperm.mem_iff.mpr hy)
    exact hsole.count_le_one
  · rw [List.count_eq_zero.mpr hy]
    omega

/-- The list form: `ys` reordered lines up with `xs`. -/
theorem oneToOne_iff_lineUp :
    OneToOne rel xs ys ↔
      ∃ zs, List.Forall₂ (fun x z => Sole (rel x) ys z) xs zs ∧ zs.Perm ys := by
  constructor
  · rintro ⟨σ, hσ⟩
    refine ⟨List.ofFn fun i => ys[σ i], ?_, perm_ofFn_equiv σ⟩
    refine List.forall₂_iff_get.mpr ⟨by simp, ?_⟩
    intro i hi hi'
    exact sole_iff_index.mpr ⟨σ ⟨i, hi⟩, by simp, fun k => hσ ⟨i, hi⟩ k⟩
  · rintro ⟨zs, hall, hperm⟩
    have hzs : zs.Nodup := hperm.nodup_iff.mpr (nodup_of_lineUp hall hperm)
    obtain ⟨hlen, hget⟩ := List.forall₂_iff_get.mp hall
    choose f hf hrel using fun i : Fin xs.length =>
      sole_iff_index.mp (hget i.1 i.2 (by rw [← hlen]; exact i.2))
    -- two positions of `xs` with one partner would be one position of `zs`
    have hinj : Function.Injective f := by
      intro i i' hii
      have hsame : zs.get ⟨i, hlen ▸ i.2⟩ = zs.get ⟨i', hlen ▸ i'.2⟩ := by
        rw [← hf i, ← hf i', hii]
      exact Fin.ext (Fin.mk.inj (List.nodup_iff_injective_get.mp hzs hsame))
    have hcard : Fintype.card (Fin xs.length) = Fintype.card (Fin ys.length) := by
      simp [hlen, hperm.length_eq]
    exact ⟨Equiv.ofBijective f ((Fintype.bijective_iff_injective_and_card f).mpr ⟨hinj, hcard⟩),
      fun i j => hrel i j⟩

/-- The order of the left list does not matter. -/
theorem OneToOne.perm_left (h : OneToOne rel xs ys) (hx : xs.Perm xs') : OneToOne rel xs' ys := by
  obtain ⟨zs, hall, hperm⟩ := oneToOne_iff_lineUp.mp h
  obtain ⟨zs', hall', hperm'⟩ := List.perm_comp_forall₂ hx.symm hall
  exact oneToOne_iff_lineUp.mpr ⟨zs', hall', hperm'.trans hperm⟩

/-- Every entry on the right has a partner. -/
theorem OneToOne.exists_left (h : OneToOne rel xs ys) {y : β} (hy : y ∈ ys) :
    ∃ x ∈ xs, rel x y := by
  obtain ⟨σ, hσ⟩ := h
  obtain ⟨j, hj, rfl⟩ := List.mem_iff_getElem.mp hy
  refine ⟨xs[σ.symm ⟨j, hj⟩], List.getElem_mem _, ?_⟩
  exact (hσ (σ.symm ⟨j, hj⟩) ⟨j, hj⟩).mpr (by simp)

/-! ## What distinct keys force -/

variable {key : β → κ}

/-- Two lists of entries with distinct keys, the first inside the second and meeting every key of
    it, hold the same entries. -/
theorem perm_of_keys (hzs : (zs.map key).Nodup) (hys : (ys.map key).Nodup) (hsub : zs ⊆ ys)
    (hmeet : ∀ y ∈ ys, key y ∈ zs.map key) : zs.Perm ys := by
  refine (List.perm_ext_iff_of_nodup hzs.of_map hys.of_map).mpr fun y => ⟨fun h => hsub h, ?_⟩
  intro hy
  obtain ⟨z, hz, hkey⟩ := List.mem_map.mp (hmeet y hy)
  exact List.inj_on_of_nodup_map hys (hsub hz) hy hkey ▸ hz

/-- A search by key finds the only entry with that key. -/
theorem find?_key_iff [DecidableEq κ] (hys : (ys.map key).Nodup) {k : κ} {y : β} :
    ys.find? (fun entry => k == key entry) = some y ↔ y ∈ ys ∧ key y = k := by
  constructor
  · intro h
    have hkey : k = key y := by simpa using List.find?_some h
    exact ⟨List.mem_of_find?_eq_some h, hkey.symm⟩
  · rintro ⟨hy, rfl⟩
    cases hfound : ys.find? fun entry => key y == key entry with
    | none =>
      have hnone := List.find?_eq_none.mp hfound y hy
      simp at hnone
    | some found =>
      have hkey : key y = key found := by simpa using List.find?_some hfound
      rw [List.inj_on_of_nodup_map hys (List.mem_of_find?_eq_some hfound) hy hkey.symm]

/-- Keys are distinct exactly when none of them stands before itself, whoever reads the list from
    left to right.  Induction from the right: the last key is fresh, and the others are distinct. -/
theorem nodup_map_iff_splits :
    (ys.map key).Nodup ↔
      ∀ before y after, ys = before ++ y :: after → key y ∉ before.map key := by
  constructor
  · rintro h before y after rfl hmem
    rw [List.map_append, List.map_cons] at h
    obtain ⟨-, -, hdisjoint⟩ := List.nodup_append.mp h
    exact hdisjoint _ hmem _ List.mem_cons_self rfl
  · intro h
    induction ys using List.reverseRecOn with
    | nil => exact List.nodup_nil
    | append_singleton ys last ih =>
      have hys : (ys.map key).Nodup := by
        refine ih fun before y after hsplit => h before y (after ++ [last]) ?_
        rw [hsplit, List.append_assoc, List.cons_append]
      rw [List.map_append, List.map_singleton, List.nodup_append_comm, List.singleton_append,
        List.nodup_cons]
      exact ⟨h ys last [] rfl, hys⟩

/-- A key that determines a distinct one is distinct itself. -/
theorem nodup_of_determines {κ' : Type*} {key' : β → κ'} (hys : (ys.map key).Nodup)
    (hdet : ∀ y ∈ ys, ∀ y' ∈ ys, key' y = key' y' → key y = key y') : (ys.map key').Nodup := by
  refine hys.of_map.map_on fun y hy y' hy' hkey => ?_
  exact List.inj_on_of_nodup_map hys hy hy' (hdet y hy y' hy' hkey)

/-- A list whose elements contain all of a duplicate-free list, and which is no longer than it,
    has no duplicates itself. -/
theorem nodup_of_length_le {ks ls : List κ} (hks : ks.Nodup) (hsub : ks ⊆ ls)
    (hlen : ls.length ≤ ks.length) : ls.Nodup :=
  ((List.subperm_of_subset hks hsub).perm_of_length_le hlen).nodup_iff.mp hks

/-! ## Classes -/

/-- Removing one class leaves the others. -/
theorem filter_class [DecidableEq κ] {cls : β → κ} {k k' : κ} {l : List β} (hne : k' ≠ k) :
    ((l.filter fun b => !decide (cls b = k)).filter fun b => cls b = k')
      = l.filter fun b => cls b = k' := by
  rw [List.filter_filter]
  refine List.filter_congr fun b _ => ?_
  by_cases hb : cls b = k'
  · simp [hb, hne]
  · simp [hb]

/-- A list is put together from one part for each class exactly when every part is its class. -/
theorem flatten_perm_iff [DecidableEq κ] {cls : β → κ} {ks : List κ} {parts : List (List β)}
    (hks : ks.Nodup) (hparts : List.Forall₂ (fun k part => ∀ b ∈ part, cls b = k) ks parts)
    {l : List β} (hl : ∀ b ∈ l, cls b ∈ ks) :
    parts.flatten.Perm l ↔
      List.Forall₂ (fun k part => part.Perm (l.filter fun b => cls b = k)) ks parts := by
  induction hparts generalizing l with
  | nil =>
    obtain rfl := List.eq_nil_iff_forall_not_mem.mpr fun b hb => List.not_mem_nil (hl b hb)
    simp
  | @cons k part ks parts hpart hparts ih =>
    obtain ⟨hk, hks⟩ := List.nodup_cons.mp hks
    have hothers : ∀ b ∈ parts.flatten, cls b ≠ k := by
      intro b hb hbk
      obtain ⟨part', hpart', hb⟩ := List.mem_flatten.mp hb
      obtain ⟨k', hk', hcls⟩ := exists_left_of_mem hparts hpart'
      exact hk (hbk ▸ (hcls b hb).symm ▸ hk')
    -- the class in front is cut off the list
    have hsplit := List.filter_append_perm (fun b => decide (cls b = k)) l
    have hrest := @ih hks (l.filter fun b => !decide (cls b = k)) fun b hb => by
      obtain ⟨hb, hne⟩ := List.mem_filter.mp hb
      exact (List.mem_cons.mp (hl b hb)).resolve_left (by simpa using hne)
    have hsame : ∀ k' ∈ ks, ((l.filter fun b => !decide (cls b = k)).filter
        fun b => cls b = k') = l.filter fun b => cls b = k' :=
      fun k' hk' => filter_class fun hkk => hk (hkk ▸ hk')
    rw [forall₂_congr_mem fun k' hk' part => by rw [hsame k' hk']] at hrest
    rw [List.flatten_cons, List.forall₂_cons, ← hrest]
    constructor
    · intro h
      have hfront := h.filter fun b => decide (cls b = k)
      have hback := h.filter fun b => !decide (cls b = k)
      rw [List.filter_append, List.filter_eq_self.mpr (by simpa using hpart),
        List.filter_eq_nil_iff.mpr (by simpa using hothers), List.append_nil] at hfront
      rw [List.filter_append, List.filter_eq_nil_iff.mpr (by simpa using hpart),
        List.filter_eq_self.mpr (by simpa using hothers), List.nil_append] at hback
      exact ⟨hfront, hback⟩
    · rintro ⟨hfront, hback⟩
      exact (hfront.append hback).trans hsplit

/-! ## Positions -/

/-- The positions of `l` whose element `keep` lets through. -/
def positions (keep : α → Bool) (l : List α) : List (Fin l.length) :=
  (List.finRange l.length).filter fun i => keep l[i]

section Positions

variable {keep : α → Bool} {l : List α}

theorem mem_positions {i : Fin l.length} : i ∈ positions keep l ↔ keep l[i] = true := by
  rw [positions, List.mem_filter]
  exact and_iff_right (List.mem_finRange i)

/-- They are in ascending order, ... -/
theorem positions_ascending : (positions keep l).Pairwise fun i j => i < j :=
  (List.pairwise_lt_finRange _).sublist List.filter_sublist

/-- ... and a filtered list is what stands at them. -/
theorem filter_eq_positions : l.filter keep = (positions keep l).map fun i => l[i] := by
  have hall : (List.finRange l.length).map (fun i => l[i]) = l := List.map_getElem_finRange l
  calc l.filter keep
      = ((List.finRange l.length).map fun i => l[i]).filter keep := by rw [hall]
    _ = (positions keep l).map fun i => l[i] := by rw [List.filter_map]; rfl

end Positions

end Correspondence

/-
  Checked programs: straight-line code that can refuse, and its loops, over `Except`.

  The C++ idioms this file gives a vocabulary for, each with ONE lemma saying exactly when it
  comes through:

  * `if (bad) throw e;`                 — `refuse`,       read back by `refuse_ok_iff`;
  * `auto v = f(); … uses of v …`       — `attach`,       which keeps the fact `f = .ok v` in scope;
  * a pointer to the only match, failing at the second match of a scan
                                        — `scanSole`,     read back by `scanSole_some_iff`;
  * `for (x : xs) check(x);`            — `forM`,         read back by `forM_ok_iff`;
  * a loop over `(output, used keys)` that must never use a key twice
                                        — `foldlM_consume_iff`;
  * a loop whose state is a function of the elements already seen
                                        — `foldlM_prefix_iff`.

  A loop that refuses does so in its first bad turn (`foldlM_error_iff`), a scan at a throwing probe
  or its second find (`exists_of_scanSole_error`), and a `mapM` comes through element by element
  (`mapM_ok_iff`).  Which errors a program never throws is a property of its pieces: `Avoids bad`
  has one rule for each of the idioms above; so has `Agree`, for two programs that keep the same
  data in different ways.

  Nothing here knows what is being scanned: values, errors and states are arbitrary types.
-/
import Pkgbuild.Base.Correspondence

namespace Checked

open Correspondence

universe u

variable {ε κ : Type*} {α β σ : Type u}

/-! ## Guards and sequencing -/

/-- `refuse c e` — the guard `if (c) throw e;`. -/
def refuse (c : Prop) [Decidable c] (e : ε) : Except ε Unit := if c then .error e else .ok ()

/-- A check lets through exactly what its condition is false of. -/
@[simp] theorem refuse_ok_iff {c : Prop} [Decidable c] {e : ε} {u : Unit} :
    refuse c e = .ok u ↔ ¬ c := by
  unfold refuse; split <;> simp_all

/-- `attach x` — the value of `x` together with the fact that `x` returned it. -/
def attach (x : Except ε α) : Except ε {a : α // x = .ok a} :=
  match x with
  | .ok a => .ok ⟨a, rfl⟩
  | .error e => .error e

/-- Attaching the fact that a result was returned does not change which one is. -/
theorem attach_ok_iff {x : Except ε α} {a : {a : α // x = .ok a}} :
    attach x = .ok a ↔ x = .ok a.1 := by
  obtain ⟨a, rfl⟩ := a
  simp [attach]

/-- A sequence returns exactly when both of its halves do. -/
theorem bind_ok_iff {x : Except ε α} {f : α → Except ε β} {b : β} :
    (x >>= f) = .ok b ↔ ∃ a, x = .ok a ∧ f a = .ok b := by
  cases x with
  | error e => simp [bind, Except.bind]
  | ok a => simp [bind, Except.bind]

/-- A sequence refuses in its first half or, past it, in its second. -/
theorem bind_error_iff {x : Except ε α} {f : α → Except ε β} {e : ε} :
    (x >>= f) = .error e ↔ x = .error e ∨ ∃ a, x = .ok a ∧ f a = .error e := by
  cases x with
  | error e' => simp [bind, Except.bind]
  | ok a => simp [bind, Except.bind]

/-- And it throws its one error exactly when its condition is true. -/
theorem refuse_error_iff {c : Prop} [Decidable c] {e e' : ε} :
    refuse c e = .error e' ↔ c ∧ e = e' := by
  unfold refuse; split <;> simp_all

/-- Equivalent conditions check the same. -/
theorem refuse_congr {c c' : Prop} [Decidable c] [Decidable c'] {e : ε} (h : c ↔ c') :
    refuse c e = refuse c' e := by
  by_cases hc : c
  · rw [refuse, refuse, if_pos hc, if_pos (h.mp hc)]
  · rw [refuse, refuse, if_neg hc, if_neg (mt h.mpr hc)]

/-- Nor does it change which error is thrown. -/
theorem attach_error_iff {x : Except ε α} {e : ε} : attach x = .error e ↔ x = .error e := by
  cases x <;> simp [attach]

/-- The fact may be left unused. -/
theorem attach_bind {x : Except ε α} {f : α → Except ε β} :
    (attach x >>= fun a => f a.1) = x >>= f := by
  cases x <;> rfl

/-- Whether a program comes through can be computed. -/
instance decidableComesThrough {x : Except ε α} : Decidable (∃ a, x = .ok a) :=
  match x with
  | .ok a => isTrue ⟨a, rfl⟩
  | .error _ => isFalse (by simp)

/-- A program that returns a value returns that one. -/
theorem pure_ok_iff {a b : α} : (pure a : Except ε α) = .ok b ↔ a = b := by
  simp [pure, Except.pure]

/-! ## Loops that only check -/

/-- A checking loop comes through exactly when every element passes. -/
theorem forM_ok_iff {f : α → Except ε Unit} : ∀ {l : List α} {u : Unit},
    forM l f = .ok u ↔ ∀ x ∈ l, f x = .ok ()
  | [], u => by simp [pure, Except.pure]
  | x :: l, u => by
      rw [List.forM_cons, bind_ok_iff]
      constructor
      · rintro ⟨⟨⟩, hx, hl⟩
        exact List.forall_mem_cons.mpr ⟨hx, forM_ok_iff.mp hl⟩
      · intro h
        exact ⟨(), (List.forall_mem_cons.mp h).1, forM_ok_iff.mpr (List.forall_mem_cons.mp h).2⟩

/-- A loop that collects comes through exactly with what every element gives. -/
theorem mapM_ok_iff {f : α → Except ε β} : ∀ {l : List α} {r : List β},
    l.mapM f = .ok r ↔ List.Forall₂ (fun x y => f x = .ok y) l r
  | [], r => by
      rw [List.mapM_nil, pure_ok_iff, List.forall₂_nil_left_iff, eq_comm]
  | x :: l, r => by
      rw [List.mapM_cons, bind_ok_iff, List.forall₂_cons_left_iff]
      refine exists_congr fun y => ?_
      rw [bind_ok_iff]
      constructor
      · rintro ⟨hx, ys, hys, hr⟩
        exact ⟨ys, hx, mapM_ok_iff.mp hys, (pure_ok_iff.mp hr).symm⟩
      · rintro ⟨ys, hx, hys, rfl⟩
        exact ⟨hx, ys, mapM_ok_iff.mpr hys, rfl⟩

/-- A loop that maps comes through exactly when each of its elements does; by induction on the list.
    -/
theorem exists_mapM_iff {f : α → Except ε β} : ∀ {l : List α},
    (∃ r, l.mapM f = .ok r) ↔ ∀ x ∈ l, ∃ y, f x = .ok y
  | [] => by simp [pure, Except.pure]
  | x :: l => by
      have ih := @exists_mapM_iff f l
      simp only [mapM_ok_iff] at ih ⊢
      rw [List.forall_mem_cons, ← ih]
      constructor
      · rintro ⟨_, hr⟩
        obtain ⟨y, ys, hx, hys, rfl⟩ := List.forall₂_cons_left_iff.mp hr
        exact ⟨⟨y, hx⟩, ys, hys⟩
      · rintro ⟨⟨y, hx⟩, ys, hys⟩
        exact ⟨y :: ys, .cons hx hys⟩

/-! ## The scan for a sole match -/

/-- `scanSole probe again l` — scan `l`, remembering what `probe` found; a second find throws
    `again`, and a throwing `probe` stops the scan. -/
def scanSole (probe : α → Except ε (Option β)) (again : ε) (l : List α) : Except ε (Option β) :=
  l.foldlM (fun found x => do
    match ← probe x, found with
    | none, found => pure found
    | some b, none => pure (some b)
    | some _, some _ => throw again) none

/-- What the probe finds along `l`, all of it, duplicates kept. -/
def hits (probe : α → Except ε (Option β)) (l : List α) : List β :=
  l.filterMap fun x => match probe x with
    | .ok found => found
    | .error _ => none

/-- The scan, started with `found` in hand. -/
private theorem foldlM_scanSole_ok_iff {probe : α → Except ε (Option β)} {again : ε} :
    ∀ (l : List α) (found r : Option β),
    l.foldlM (fun found x => do
      match ← probe x, found with
      | none, found => pure found
      | some b, none => pure (some b)
      | some _, some _ => throw again) found = (.ok r : Except ε (Option β)) ↔
    (∀ x ∈ l, ∃ o, probe x = .ok o) ∧ found.toList ++ hits probe l = r.toList := by
  intro l
  induction l with
  | nil =>
    intro found r
    cases found <;> cases r <;> simp [hits, pure, Except.pure]
  | cons x l ih =>
    intro found r
    rw [List.foldlM_cons, bind_ok_iff]
    cases hx : probe x with
    | error e => simp [bind, Except.bind, hx]
    | ok o =>
      have hhits : hits probe (x :: l) = o.toList ++ hits probe l := by
        unfold hits
        rw [List.filterMap_cons, hx]
        cases o <;> rfl
      have hall : (∀ y ∈ x :: l, ∃ o, probe y = .ok o) ↔ ∀ y ∈ l, ∃ o, probe y = .ok o := by
        simp [hx]
      rw [hall, hhits]
      cases o with
      | none => simpa [bind, Except.bind, pure, Except.pure] using ih found r
      | some b =>
        cases found with
        | none => simpa [bind, Except.bind, pure, Except.pure] using ih (some b) r
        | some b' =>
          -- a second find: the scan throws, and two finds are not the list of an `Option`
          cases r <;> simp [bind, Except.bind, throw, throwThe, MonadExceptOf.throw]

/-- **The scan's reading.**  It returns a find exactly when no probe throws and exactly one
    position of the list is a find, this one. -/
theorem scanSole_some_iff {probe : α → Except ε (Option β)} {again : ε} {l : List α} {b : β} :
    scanSole probe again l = .ok (some b) ↔
      (∀ x ∈ l, ∃ o, probe x = .ok o) ∧
      ∃ a, Sole (fun x => ∃ c, probe x = .ok (some c)) l a ∧ probe a = .ok (some b) := by
  unfold scanSole
  rw [foldlM_scanSole_ok_iff]
  refine and_congr_right fun hall => ?_
  simp only [Option.toList_none, List.nil_append, Option.toList_some]
  unfold hits
  rw [filterMap_eq_singleton_iff]
  refine exists_congr fun a => and_congr (sole_congr fun x hx => ?_) ?_
  · obtain ⟨o, ho⟩ := hall x hx
    cases o <;> simp [ho]
  · cases h : probe a with
    | error e => simp
    | ok o => simp

/-- The scan with a plain test for a probe. -/
theorem scanSole_test_iff {p : α → Prop} [DecidablePred p] {again : ε} {l : List α} {b : α} :
    scanSole (fun x => .ok (if p x then some x else none)) again l = .ok (some b) ↔ Sole p l b := by
  rw [scanSole_some_iff]
  have hfind : ∀ x : α, (∃ c, (.ok (if p x then some x else none) : Except ε (Option α))
      = .ok (some c)) ↔ p x := by
    intro x
    by_cases h : p x <;> simp [h]
  constructor
  · rintro ⟨-, a, hsole, ha⟩
    have hp : p a := (hfind a).mp hsole.holds
    simp only [hp, if_true, Except.ok.injEq, Option.some.injEq] at ha
    exact ha ▸ (sole_congr fun x _ => hfind x).mp hsole
  · intro h
    exact ⟨fun x _ => ⟨_, rfl⟩, b, (sole_congr fun x _ => hfind x).mpr h, by simp [h.holds]⟩

/-! ## Loops with a state -/

/-- A refusing loop refuses in one of its turns. -/
theorem exists_of_foldlM_error {step : σ → α → Except ε σ} {e : ε} : ∀ {l : List α} {s : σ},
    l.foldlM step s = .error e → ∃ s' x, x ∈ l ∧ step s' x = .error e
  | [], s, h => by cases h
  | x :: l, s, h => by
      rw [List.foldlM_cons] at h
      rcases bind_error_iff.mp h with hx | ⟨s', -, hl⟩
      · exact ⟨s, x, List.mem_cons_self, hx⟩
      · obtain ⟨s'', y, hy, hstep⟩ := exists_of_foldlM_error hl
        exact ⟨s'', y, List.mem_cons_of_mem _ hy, hstep⟩

/-- **Consuming loop.**  Each turn answers `a` with some `b`, and refuses a `b` whose key was
    used before.  The whole loop comes through exactly when the elements can be answered one by
    one under pairwise distinct keys — none of them used at the start — and then it has pushed
    the answers in order. -/
theorem foldlM_consume_iff {step : σ → α → Except ε σ} {push : σ → β → σ} {key : β → κ}
    {used : σ → List κ} {Answers : α → β → Prop}
    (hused : ∀ s b, used (push s b) = used s ++ [key b])
    (hstep : ∀ s a s', step s a = .ok s' ↔
      ∃ b, Answers a b ∧ key b ∉ used s ∧ s' = push s b) :
    ∀ (l : List α) (s s' : σ), (used s).Nodup →
      (l.foldlM step s = .ok s' ↔
        ∃ bs, List.Forall₂ Answers l bs ∧ (used s ++ bs.map key).Nodup ∧
          s' = bs.foldl push s) := by
  intro l
  induction l with
  | nil =>
    intro s s' hs
    simp only [List.foldlM_nil, pure_ok_iff, List.forall₂_nil_left_iff]
    constructor
    · rintro rfl
      exact ⟨[], rfl, by simpa using hs, rfl⟩
    · rintro ⟨bs, rfl, -, rfl⟩
      rfl
  | cons a l ih =>
    intro s s' hs
    rw [List.foldlM_cons, bind_ok_iff]
    constructor
    · rintro ⟨s₁, h₁, h₂⟩
      -- the first answer's key is fresh, and from then on used
      obtain ⟨b, hab, hkey, rfl⟩ := (hstep s a s₁).mp h₁
      have hs₁ : (used (push s b)).Nodup := by
        rw [hused]
        refine List.nodup_append.mpr ⟨hs, by simp, ?_⟩
        rintro k hk k' hk' rfl
        exact hkey (List.mem_singleton.mp hk' ▸ hk)
      obtain ⟨bs, hbs, hnodup, rfl⟩ := (ih (push s b) s' hs₁).mp h₂
      refine ⟨b :: bs, .cons hab hbs, ?_, rfl⟩
      simpa [hused] using hnodup
    · rintro ⟨bs, hall, hnodup, rfl⟩
      obtain ⟨b, bs, hab, hbs, rfl⟩ := List.forall₂_cons_left_iff.mp hall
      have hnodup' : (used (push s b) ++ bs.map key).Nodup := by simpa [hused] using hnodup
      have hkey : key b ∉ used s := by
        intro hk
        exact (List.nodup_append.mp hnodup).2.2 _ hk _ (by simp) rfl
      refine ⟨push s b, (hstep s a _).mpr ⟨b, hab, hkey, rfl⟩, ?_⟩
      exact (ih (push s b) _ (List.nodup_append.mp hnodup').1).mpr ⟨bs, hbs, hnodup', rfl⟩

/-- **Prefix-determined loop.**  If the state after a prefix is `view` of that prefix, and a turn
    comes through exactly when `Good prefix x`, then the loop comes through exactly when every
    element is good against the elements before it. -/
theorem foldlM_prefix_iff {step : σ → α → Except ε σ} {view : List α → σ}
    {Good : List α → α → Prop}
    (hstep : ∀ pre x s', step (view pre) x = .ok s' ↔ Good pre x ∧ s' = view (pre ++ [x])) :
    ∀ (l pre : List α) (s' : σ),
      l.foldlM step (view pre) = .ok s' ↔
        (∀ a x b, l = a ++ x :: b → Good (pre ++ a) x) ∧ s' = view (pre ++ l) := by
  intro l
  induction l with
  | nil =>
    intro pre s'
    simp only [List.foldlM_nil, pure_ok_iff, List.append_nil]
    constructor
    · rintro rfl
      exact ⟨fun a x b h => by simp at h, rfl⟩
    · exact fun h => h.2.symm
  | cons y l ih =>
    intro pre s'
    rw [List.foldlM_cons, bind_ok_iff]
    constructor
    · rintro ⟨s₁, h₁, h₂⟩
      obtain ⟨hy, rfl⟩ := (hstep pre y s₁).mp h₁
      obtain ⟨hgood, rfl⟩ := (ih (pre ++ [y]) s').mp h₂
      refine ⟨fun a x b hl => ?_, by simp⟩
      -- a split of the whole list is one at its head, or one of the rest
      cases a with
      | nil =>
        obtain ⟨rfl, -⟩ := List.cons.inj hl
        simpa using hy
      | cons z a =>
        obtain ⟨rfl, htail⟩ := List.cons.inj hl
        simpa using hgood a x b htail
    · rintro ⟨hgood, rfl⟩
      refine ⟨view (pre ++ [y]), (hstep pre y _).mpr ⟨by simpa using hgood [] y l rfl, rfl⟩, ?_⟩
      refine (ih (pre ++ [y]) _).mpr ⟨fun a x b hl => ?_, by simp⟩
      simpa using hgood (y :: a) x b (by rw [hl]; rfl)

/-! ## Where a loop refuses -/

/-- **First refusal.**  A loop refuses in the first turn that does, and as this turn does. -/
theorem foldlM_error_iff {step : σ → α → Except ε σ} {e : ε} : ∀ {l : List α} {s : σ},
    l.foldlM step s = .error e ↔
      ∃ pre x post s', l = pre ++ x :: post ∧ pre.foldlM step s = .ok s' ∧ step s' x = .error e
  | [], s => by simp [pure, Except.pure]
  | x :: l, s => by
      rw [List.foldlM_cons, bind_error_iff]
      constructor
      · rintro (hx | ⟨s₁, hx, hl⟩)
        · exact ⟨[], x, l, s, rfl, rfl, hx⟩
        · obtain ⟨pre, y, post, s', rfl, hpre, hy⟩ := foldlM_error_iff.mp hl
          refine ⟨x :: pre, y, post, s', rfl, ?_, hy⟩
          rw [List.foldlM_cons, hx]
          exact hpre
      · rintro ⟨pre, y, post, s', hsplit, hpre, hy⟩
        cases pre with
        | nil =>
          obtain ⟨rfl, rfl⟩ := List.cons.inj hsplit
          obtain rfl := pure_ok_iff.mp hpre
          exact Or.inl hy
        | cons z pre =>
          obtain ⟨rfl, rfl⟩ := List.cons.inj hsplit
          rw [List.foldlM_cons, bind_ok_iff] at hpre
          obtain ⟨s₁, hx, hpre⟩ := hpre
          exact Or.inr ⟨s₁, hx, foldlM_error_iff.mpr ⟨pre, y, post, s', rfl, hpre, hy⟩⟩

/-- A prefix-determined loop refuses at the first element that is not good. -/
theorem foldlM_prefix_error_iff {step : σ → α → Except ε σ} {view : List α → σ}
    {Good : List α → α → Prop}
    (hstep : ∀ pre x s', step (view pre) x = .ok s' ↔ Good pre x ∧ s' = view (pre ++ [x]))
    {l : List α} {e : ε} :
    l.foldlM step (view []) = .error e ↔
      ∃ pre x post, l = pre ++ x :: post ∧ (∃ s, pre.foldlM step (view []) = .ok s) ∧
        step (view pre) x = .error e := by
  rw [foldlM_error_iff]
  have hview : ∀ {pre s}, pre.foldlM step (view []) = .ok s → s = view pre :=
    fun {pre s} h => ((foldlM_prefix_iff hstep pre [] s).mp h).2
  constructor
  · rintro ⟨pre, x, post, s, rfl, hpre, hx⟩
    obtain rfl := hview hpre
    exact ⟨pre, x, post, rfl, ⟨_, hpre⟩, hx⟩
  · rintro ⟨pre, x, post, rfl, ⟨s, hpre⟩, hx⟩
    obtain rfl := hview hpre
    exact ⟨pre, x, post, _, rfl, hpre, hx⟩

/-- A checking loop refuses at its first element that fails. -/
theorem forM_error_iff {f : α → Except ε Unit} {e : ε} : ∀ {l : List α},
    forM l f = .error e ↔
      ∃ pre x post, l = pre ++ x :: post ∧ (∀ y ∈ pre, f y = .ok ()) ∧ f x = .error e
  | [] => by simp [pure, Except.pure]
  | x :: l => by
      rw [List.forM_cons, bind_error_iff]
      constructor
      · rintro (hx | ⟨⟨⟩, hx, hl⟩)
        · exact ⟨[], x, l, rfl, by simp, hx⟩
        · obtain ⟨pre, y, post, rfl, hpre, hy⟩ := forM_error_iff.mp hl
          exact ⟨x :: pre, y, post, rfl, List.forall_mem_cons.mpr ⟨hx, hpre⟩, hy⟩
      · rintro ⟨pre, y, post, hsplit, hpre, hy⟩
        cases pre with
        | nil =>
          obtain ⟨rfl, rfl⟩ := List.cons.inj hsplit
          exact Or.inl hy
        | cons z pre =>
          obtain ⟨rfl, rfl⟩ := List.cons.inj hsplit
          obtain ⟨hz, hpre⟩ := List.forall_mem_cons.mp hpre
          exact Or.inr ⟨(), hz, forM_error_iff.mpr ⟨pre, y, post, rfl, hpre, hy⟩⟩

/-- A scan refuses at a throwing probe or at its second find. -/
theorem exists_of_scanSole_error {probe : α → Except ε (Option β)} {again : ε} {l : List α} {e : ε}
    (h : scanSole probe again l = .error e) :
    (∃ x ∈ l, probe x = .error e) ∨
      e = again ∧ ∃ x y, [x, y].Sublist l ∧ (∃ b, probe x = .ok (some b)) ∧
        ∃ b, probe y = .ok (some b) := by
  obtain ⟨pre, y, post, found, rfl, hpre, hy⟩ := foldlM_error_iff.mp h
  rcases bind_error_iff.mp hy with hy | ⟨hit, hhit, hy⟩
  · exact Or.inl ⟨y, by simp, hy⟩
  · cases hit with
    | none => cases hy
    | some b =>
      cases found with
      | none => cases hy
      | some b' =>
        -- something was found before `y`, so `again` was thrown at the second find
        obtain ⟨-, hhits⟩ := (foldlM_scanSole_ok_iff pre none (some b')).mp hpre
        have hhits : hits probe pre = [b'] := hhits
        have hfirst : b' ∈ hits probe pre := by
          rw [hhits]
          exact List.mem_singleton_self b'
        obtain ⟨x, hx, hxhit⟩ := List.mem_filterMap.mp hfirst
        refine Or.inr ⟨(Except.error.inj hy).symm, x, y, ?_, ?_, b, hhit⟩
        · exact (List.singleton_sublist.mpr hx).append (List.singleton_sublist.mpr (by simp))
        · cases hprobe : probe x with
          | error e => simp [hprobe] at hxhit
          | ok o =>
            rw [hprobe] at hxhit
            exact ⟨b', congrArg Except.ok hxhit⟩

/-- The scan finds nothing exactly when no probe does. -/
theorem scanSole_none_iff {probe : α → Except ε (Option β)} {again : ε} {l : List α} :
    scanSole probe again l = .ok none ↔ ∀ x ∈ l, probe x = .ok none := by
  unfold scanSole
  rw [foldlM_scanSole_ok_iff]
  simp only [Option.toList_none, List.nil_append, hits, List.filterMap_eq_nil_iff]
  constructor
  · rintro ⟨hall, hnone⟩ x hx
    obtain ⟨o, ho⟩ := hall x hx
    have hfound := hnone x hx
    rw [ho] at hfound
    exact ho.trans (congrArg Except.ok hfound)
  · intro h
    refine ⟨fun x hx => ⟨none, h x hx⟩, fun x hx => ?_⟩
    rw [h x hx]

/-! ## Errors a program avoids -/

/-- No refusal of `x` is a bad one. -/
def Avoids (bad : ε → Prop) (x : Except ε α) : Prop := ∀ e, x = .error e → ¬ bad e

section Avoids

variable {bad : ε → Prop}

theorem avoids_ok {a : α} : Avoids bad (.ok a : Except ε α) := by
  intro e h
  cases h

/-- An error that is not bad may be thrown. -/
theorem avoids_error {e : ε} (h : ¬ bad e) : Avoids bad (.error e : Except ε α) := by
  intro e' he
  exact Except.error.inj he ▸ h

/-- So may a check throw it. -/
theorem avoids_refuse {c : Prop} [Decidable c] {e : ε} (h : ¬ bad e) : Avoids bad (refuse c e) := by
  intro e' he
  exact (refuse_error_iff.mp he).2 ▸ h

/-- Attaching a fact adds no error. -/
theorem Avoids.attach {x : Except ε α} (h : Avoids bad x) : Avoids bad (attach x) := by
  intro e he
  exact h e (attach_error_iff.mp he)

/-- A program whose two halves avoid the bad errors avoids them. -/
theorem Avoids.bind {x : Except ε α} {f : α → Except ε β} (hx : Avoids bad x)
    (hf : ∀ a, Avoids bad (f a)) : Avoids bad (x >>= f) := by
  intro e h
  rcases bind_error_iff.mp h with h | ⟨a, -, h⟩
  · exact hx e h
  · exact hf a e h

/-- So does a loop, whatever its state, if each turn does. -/
theorem avoids_foldlM {step : σ → α → Except ε σ} {l : List α} {s : σ}
    (h : ∀ s x, Avoids bad (step s x)) : Avoids bad (l.foldlM step s) := by
  intro e he
  obtain ⟨s', x, -, hturn⟩ := exists_of_foldlM_error he
  exact h s' x e hturn

/-- And a loop without a state. -/
theorem avoids_forM {f : α → Except ε Unit} (h : ∀ x, Avoids bad (f x)) :
    ∀ l : List α, Avoids bad (forM l f)
  | [] => avoids_ok
  | x :: l => by
      rw [List.forM_cons]
      exact (h x).bind fun _ => avoids_forM h l

/-- A scan throws what its probe throws, and one error of its own at a second match. -/
theorem avoids_scanSole {probe : α → Except ε (Option β)} {again : ε} {l : List α}
    (hprobe : ∀ x, Avoids bad (probe x)) (hagain : ¬ bad again) :
    Avoids bad (scanSole probe again l) := by
  refine avoids_foldlM fun found x => (hprobe x).bind fun hit => ?_
  cases hit with
  | none => exact avoids_ok
  | some b =>
    cases found with
    | none => exact avoids_ok
    | some b' => exact avoids_error hagain

end Avoids

/-! ## Two programs side by side -/

/-- The programs refuse with one error, or come through with related values. -/
inductive Agree (R : α → β → Prop) : Except ε α → Except ε β → Prop
  | error (e : ε) : Agree R (.error e) (.error e)
  | ok {a : α} {b : β} (h : R a b) : Agree R (.ok a) (.ok b)

section Agree

variable {τ : Type u} {R : α → β → Prop}

/-- Programs agree up to equality exactly when they are equal. -/
theorem agree_eq_iff {x y : Except ε α} : Agree (fun a b => a = b) x y ↔ x = y := by
  constructor
  · intro h
    cases h with
    | error e => rfl
    | ok h => rw [h]
  · rintro rfl
    cases x with
    | error e => exact .error e
    | ok a => exact .ok rfl

theorem Agree.refl (x : Except ε α) : Agree (fun a b => a = b) x x := agree_eq_iff.mpr rfl

/-- Related values, and halves that agree from there on; equal errors pass by on both sides. -/
theorem Agree.bind {x : Except ε α} {y : Except ε β} {f : α → Except ε σ} {g : β → Except ε τ}
    {S : σ → τ → Prop} (h : Agree R x y) (hfg : ∀ a b, R a b → Agree S (f a) (g b)) :
    Agree S (x >>= f) (y >>= g) := by
  cases h with
  | error e => exact .error e
  | ok h => exact hfg _ _ h

/-- A fact attached on one side does not stand in the way. -/
theorem Agree.attach {x : Except ε α} {y : Except ε β} (h : Agree R x y) :
    Agree (fun a b => R a b.1) x (Checked.attach y) := by
  cases h with
  | error e => exact .error e
  | ok h => exact .ok h

/-- What is read off one of the results may be read off after the run. -/
theorem Agree.map {x : Except ε α} {y : Except ε β} {f : β → τ} {S : α → τ → Prop}
    (h : Agree (fun a b => S a (f b)) x y) : Agree S x (y.map f) := by
  cases h with
  | error e => exact .error e
  | ok h => exact .ok h

/-- Loops over one list agree if their turns do. -/
theorem agree_foldlM {S : σ → τ → Prop} {step : σ → α → Except ε σ} {step' : τ → α → Except ε τ} :
    ∀ {l : List α} {s : σ} {t : τ},
      (∀ s t, ∀ x ∈ l, S s t → Agree S (step s x) (step' t x)) → S s t →
      Agree S (l.foldlM step s) (l.foldlM step' t)
  | [], _, _, _, h => .ok h
  | x :: l, s, t, hturn, h => by
      rw [List.foldlM_cons, List.foldlM_cons]
      refine (hturn s t x List.mem_cons_self h).bind fun s' t' h' => ?_
      exact agree_foldlM (fun s t y hy => hturn s t y (List.mem_cons_of_mem _ hy)) h'

end Agree

end Checked

/-
  Commands that throw: state, exceptions and scopes.

  A `Command` runs in a state and returns or throws.  What it did before it threw STAYS done: the
  state is not rolled back, as it is not in a language with exceptions and side effects.  `within`
  is the RAII pattern: build an object, run a body that may change it, destroy it however
  the body ends; an object whose construction throws is not destroyed.

  `Triple P c Q E` is total correctness with two ways out: from a state in `P`, the command returns
  a value and a state in `Q`, or throws an error in a state in `E`.  One rule for each way of
  building a command: `triple_pure`, `Triple.bind`, `Triple.forM`, `Triple.within`.

  A command that keeps an invariant runs on the states that have it (`restricted`).
  `Tracks A c x` says that `c` computes what the pure program `x` does unless its surroundings stop
  it; a program that asks its surroundings in many places tracks the pure one as soon as each of its
  pieces does.

  Nothing here knows the states, the errors or the objects.
-/
import Mathlib.Data.List.Basic
import Pkgbuild.Base.Checked

namespace Commands

variable {σ ω ε α β : Type}

/-- A computation on a state that returns or throws, keeping its effects either way: the exceptions
    are inside the state and not around it. -/
abbrev Command (σ ε : Type) := ExceptT ε (StateM σ)

/-- Run a command from a state. -/
def exec (c : Command σ ε α) (s : σ) : Except ε α × σ := c.run.run s

@[simp] theorem exec_pure (a : α) (s : σ) : exec (pure a : Command σ ε α) s = (.ok a, s) := rfl

/-- So does throwing: what was done before stays done, and nothing is undone. -/
@[simp] theorem exec_throw (e : ε) (s : σ) :
    exec (throw e : Command σ ε α) s = (.error e, s) := rfl

@[simp] theorem exec_get (s : σ) : exec (get : Command σ ε σ) s = (.ok s, s) := rfl

@[simp] theorem exec_set (s s' : σ) : exec (set s' : Command σ ε PUnit) s = (.ok ⟨⟩, s') := rfl

@[simp] theorem exec_lift (x : Except ε α) (s : σ) :
    exec (liftM x : Command σ ε α) s = (x, s) := rfl

/-- One command after the other: the second starts in the state the first left, and is not run at
    all if the first threw. -/
theorem exec_bind (c : Command σ ε α) (f : α → Command σ ε β) (s : σ) :
    exec (c >>= f) s = match exec c s with
      | (.ok a, s') => exec (f a) s'
      | (.error e, s') => (.error e, s') := by
  show (match c.run.run s with
    | (r, s') => (ExceptT.bindCont f r).run s') = _
  unfold exec
  rcases c.run.run s with ⟨r, s'⟩
  cases r with
  | ok a => rfl
  | error e => rfl

/-- Build an object, run the body on it, destroy it on both ways out. -/
def within (construct : Command σ ε ω) (body : Command (σ × ω) ε α) (destroy : ω → σ → σ) :
    Command σ ε α := ExceptT.mk fun s =>
  match exec construct s with
  | (.error e, s') => (.error e, s')
  | (.ok object, s') =>
      match exec body (s', object) with
      | (result, (s'', object')) => (result, destroy object' s'')

/-- A scope, run: the destructor sees the object and the state as the body left them, whether the
    body returned or threw. -/
theorem exec_within (construct : Command σ ε ω) (body : Command (σ × ω) ε α)
    (destroy : ω → σ → σ) (s : σ) :
    exec (within construct body destroy) s = match exec construct s with
      | (.error e, s') => (.error e, s')
      | (.ok object, s') =>
          match exec body (s', object) with
          | (result, (s'', object')) => (result, destroy object' s'') := rfl

/-! ## Triples -/

/-- From a state in `P` the command returns into `Q` or throws into `E`. -/
def Triple (P : σ → Prop) (c : Command σ ε α) (Q : α → σ → Prop) (E : ε → σ → Prop) : Prop :=
  ∀ s, P s → match exec c s with
    | (.ok a, s') => Q a s'
    | (.error e, s') => E e s'

section Rules

variable {P P' : σ → Prop} {c : Command σ ε α} {Q Q' : α → σ → Prop} {E E' : ε → σ → Prop}

/-- What a triple says of a run that returned. -/
theorem Triple.ok (h : Triple P c Q E) {s s' : σ} {a : α} (hs : P s)
    (hexec : exec c s = (.ok a, s')) : Q a s' := by
  have hout := h s hs
  rwa [hexec] at hout

/-- What a triple says of a run that threw. -/
theorem Triple.error (h : Triple P c Q E) {s s' : σ} {e : ε} (hs : P s)
    (hexec : exec c s = (.error e, s')) : E e s' := by
  have hout := h s hs
  rwa [hexec] at hout

/-- Both ways out, read off a run. -/
theorem triple_of_exec
    (hok : ∀ s s' a, P s → exec c s = (.ok a, s') → Q a s')
    (herror : ∀ s s' e, P s → exec c s = (.error e, s') → E e s') : Triple P c Q E := by
  intro s hs
  rcases hrun : exec c s with ⟨r, s'⟩
  cases r with
  | ok a => exact hok s s' a hs hrun
  | error e => exact herror s s' e hs hrun

/-- Returning a value establishes what was said about this value. -/
theorem triple_pure {a : α} : Triple (Q a) (pure a : Command σ ε α) Q E := by
  intro s hs
  exact hs

/-- Consequence. -/
theorem Triple.weaken (h : Triple P c Q E) (hP : ∀ s, P' s → P s) (hQ : ∀ a s, Q a s → Q' a s)
    (hE : ∀ e s, E e s → E' e s) : Triple P' c Q' E' := by
  refine triple_of_exec (fun s s' a hs hexec => ?_) (fun s s' e hs hexec => ?_)
  · exact hQ a s' (h.ok (hP s hs) hexec)
  · exact hE e s' (h.error (hP s hs) hexec)

/-- What a precondition supposes may be named before the command runs. -/
theorem triple_exists {ι : Sort*} {P : ι → σ → Prop} (h : ∀ i, Triple (P i) c Q E) :
    Triple (fun s => ∃ i, P i s) c Q E := by
  rintro s ⟨i, hs⟩
  exact h i s hs

/-- A fact that does not mention the state may be assumed before the command runs. -/
theorem triple_of_fact {p : Prop} (h : p → Triple P c Q E) : Triple (fun s => p ∧ P s) c Q E := by
  rintro s ⟨hp, hs⟩
  exact h hp s hs

/-- Sequencing: an error of either half ends the whole. -/
theorem Triple.bind {R : α → σ → Prop} {f : α → Command σ ε β} {S : β → σ → Prop}
    (hc : Triple P c R E) (hf : ∀ a, Triple (R a) (f a) S E) : Triple P (c >>= f) S E := by
  intro s hs
  rw [exec_bind]
  rcases hrun : exec c s with ⟨r, s'⟩
  -- an error of the first half passes the second by
  cases r with
  | ok a => exact hf a s' (hc.ok hs hrun)
  | error e => exact hc.error hs hrun

/-- Loops: an invariant over the elements done so far. -/
theorem Triple.forM {γ : Type} {f : γ → Command σ ε PUnit} {I : List γ → σ → Prop}
    (hstep : ∀ done x, Triple (I done) (f x) (fun _ => I (done ++ [x])) E) :
    ∀ (l done : List γ), Triple (I done) (l.forM f) (fun _ => I (done ++ l)) E
  | [], done => by
      rw [List.append_nil]
      exact triple_pure (Q := fun _ => I done) (a := PUnit.unit)
  | x :: l, done => by
      -- the head joins what is done, and the tail is the induction
      have htail := Triple.forM hstep l (done ++ [x])
      rw [List.append_assoc, List.singleton_append] at htail
      exact (hstep done x).bind fun _ => htail

/-- **Scopes.**  The body starts where construction ends, and both of its ways out pass through the
    destructor; an error of the constructor does not. -/
theorem Triple.within {construct : Command σ ε ω} {body : Command (σ × ω) ε α}
    {destroy : ω → σ → σ} {I : σ × ω → Prop} {P : σ → Prop} {Q : α → σ → Prop} {E : ε → σ → Prop}
    (hconstruct : Triple P construct (fun object s => I (s, object)) E)
    (hbody : Triple I body (fun a s => Q a (destroy s.2 s.1)) fun e s => E e (destroy s.2 s.1)) :
    Triple P (Commands.within construct body destroy) Q E := by
  intro s hs
  rw [exec_within]
  rcases hrun : exec construct s with ⟨r, s'⟩
  -- without an object there is nothing to destroy
  cases r with
  | error e => exact hconstruct.error hs hrun
  | ok object =>
    have hinside := hbody (s', object) (hconstruct.ok hs hrun)
    rcases hrest : exec body (s', object) with ⟨result, s'', object'⟩
    rw [hrest] at hinside
    simp only [hrest]
    cases result with
    | ok a => exact hinside
    | error e => exact hinside

end Rules

/-! ## States that have an invariant -/

/-- A command that keeps `I`, on the states that have it. -/
def restricted {I : σ → Prop} (c : Command σ ε α) (h : ∀ s, I s → I (exec c s).2) :
    Command {s // I s} ε α :=
  ExceptT.mk fun s => ((exec c s.1).1, ⟨(exec c s.1).2, h s.1 s.2⟩)

/-! ## Tracking a pure program -/

/-- What a command may have done to the state when it is left by itself (`none`) or was stopped by
    an error.  Doing nothing is always accounted for, and accounts of one thing after another add
    up. -/
structure Account (σ ε : Type) where
  Does : σ → Option ε → σ → Prop
  refl : ∀ s, Does s none s
  trans : ∀ {s s' s'' o}, Does s none s' → Does s' o s'' → Does s o s''

/-- The command is left with what `x` is, or it was stopped; either way what it did is accounted
    for. -/
def Tracks (A : Account σ ε) (c : Command σ ε α) (x : Except ε α) : Prop :=
  ∀ s, ∃ stopped, A.Does s stopped (exec c s).2 ∧ (exec c s).1 = stopped.elim x .error

section Tracks

variable {A : Account σ ε} {c : Command σ ε α} {x : Except ε α}

/-- A value without effects tracks itself. -/
theorem tracks_pure (a : α) : Tracks A (pure a : Command σ ε α) (.ok a) := by
  intro s
  exact ⟨none, A.refl s, rfl⟩

/-- A pure program run as a command tracks itself, refusals included. -/
theorem tracks_lift (x : Except ε α) : Tracks A (liftM x : Command σ ε α) x := by
  intro s
  exact ⟨none, A.refl s, rfl⟩

/-- Throwing an error of its own accord tracks the pure refusal. -/
theorem tracks_throw (e : ε) : Tracks A (throw e : Command σ ε α) (.error e) := by
  intro s
  exact ⟨none, A.refl s, rfl⟩

/-- Whether the first half refuses or is stopped, the second is not run. -/
theorem Tracks.bind {f : α → Command σ ε β} {g : α → Except ε β} (hc : Tracks A c x)
    (hf : ∀ a, Tracks A (f a) (g a)) : Tracks A (c >>= f) (x >>= g) := by
  intro s
  obtain ⟨stopped, hdoes, hresult⟩ := hc s
  rw [exec_bind]
  rcases hrun : exec c s with ⟨r, s'⟩
  rw [hrun] at hdoes hresult
  cases stopped with
  -- stopped in the first half: the whole is stopped by the same error
  | some e =>
    obtain rfl : r = .error e := hresult
    exact ⟨some e, hdoes, rfl⟩
  -- a refusal of the pure program is no stop, and is the result of both
  | none =>
    obtain rfl : r = x := hresult
    cases r with
    | error e => exact ⟨none, hdoes, rfl⟩
    | ok a =>
      obtain ⟨stopped, hrest, hvalue⟩ := hf a s'
      exact ⟨stopped, A.trans hdoes hrest, hvalue⟩

/-- A loop tracks a loop if each turn does; by induction on the list, the turn in front bound to the
    rest. -/
theorem Tracks.foldlM {γ : Type} {step : α → γ → Command σ ε α} {step' : α → γ → Except ε α}
    (hstep : ∀ a g, Tracks A (step a g) (step' a g)) :
    ∀ (l : List γ) (a : α), Tracks A (l.foldlM step a) (l.foldlM step' a)
  | [], a => tracks_pure a
  | g :: l, a => by
      rw [List.foldlM_cons, List.foldlM_cons]
      exact (hstep a g).bind fun a' => Tracks.foldlM hstep l a'

/-- A command that returned was not stopped, so the pure program returned the same. -/
theorem Tracks.ok (h : Tracks A c x) {s s' : σ} {a : α} (hexec : exec c s = (.ok a, s')) :
    x = .ok a := by
  obtain ⟨stopped, -, hresult⟩ := h s
  rw [hexec] at hresult
  cases stopped with
  | none => exact hresult.symm
  | some e => cases hresult

/-- The command, its value with the fact that the pure program returned it. -/
def Tracks.attach (h : Tracks A c x) : Command σ ε {a // x = .ok a} := ExceptT.mk fun s =>
  match hexec : exec c s with
  | (.ok a, s') => (.ok ⟨a, h.ok hexec⟩, s')
  | (.error e, s') => (.error e, s')

/-- Attaching the fact changes neither the state nor the value. -/
theorem Tracks.exec_attach (h : Tracks A c x) {s s' : σ} {r : Except ε α}
    (hexec : exec c s = (r, s')) : ∃ r', exec h.attach s = (r', s') ∧ r'.map Subtype.val = r := by
  show ∃ r', (match hexec : exec c s with
    | (.ok a, s') => (.ok ⟨a, h.ok hexec⟩, s')
    | (.error e, s') => (.error e, s') : Except ε {a // x = .ok a} × σ) = (r', s') ∧
      r'.map Subtype.val = r
  split
  · rename_i hexec'
    obtain ⟨rfl, rfl⟩ := Prod.mk.inj (hexec.symm.trans hexec')
    exact ⟨_, rfl, rfl⟩
  · rename_i hexec'
    obtain ⟨rfl, rfl⟩ := Prod.mk.inj (hexec.symm.trans hexec')
    exact ⟨_, rfl, rfl⟩

/-- So it tracks the pure program with the fact attached there. -/
theorem Tracks.attach_tracks (h : Tracks A c x) : Tracks A h.attach (Checked.attach x) := by
  intro s
  obtain ⟨stopped, hdoes, hresult⟩ := h s
  rcases hexec : exec c s with ⟨r, s'⟩
  rw [hexec] at hdoes hresult
  obtain ⟨r', hattach, rfl⟩ := h.exec_attach hexec
  rw [hattach]
  refine ⟨stopped, hdoes, ?_⟩
  cases stopped with
  | none =>
    cases r' with
    | ok a =>
      obtain ⟨a, rfl⟩ := a
      rfl
    | error e =>
      obtain rfl : Except.error e = x := hresult
      rfl
  | some e =>
    cases r' with
    | ok a => cases hresult
    | error e' => exact congrArg Except.error (Except.error.inj hresult)

end Tracks

end Commands

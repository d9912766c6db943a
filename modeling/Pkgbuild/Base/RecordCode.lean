/-
  Records of untagged fields: when a concatenation of field encodings can be cut back into fields.

  A `Code` encodes tokens so that two tokens OF THE SAME KIND can be cut off the front of a stream
  in only one way (`cut`).  Nothing is asked of tokens of different kinds: their encodings may
  coincide, so a reader has to know which kind comes next.  The results say what such knowledge is
  enough for:

  1. **Fixed layouts** (`emitAll_cut`) — two runs of tokens of the same kinds;
  2. **Repeated blocks** (`flatMap_inj`) — a list of self-delimiting blocks up to the end of the
     stream, whatever its length;
  3. **Adaptive schemas** (`Follows.cut`) — the kind of each next token, or the end of the record,
     is ANY function of the tokens already written.  One induction on the first record, reading the
     schema at the common prefix, settles equality, prefixes and trailing bytes at once;
  4. **Layouts** — a finite, executable way of writing an adaptive schema down, as a tree that
     branches on the token just read (`follows_schema_iff`);
  5. **Collisions** — what equal digests of streams taken from a known list amount to.
-/
import Mathlib.Data.List.Basic

namespace RecordCode

variable {τ κ α γ δ : Type*}

/-- An encoding of tokens that is self-delimiting within each kind. -/
structure Code (τ κ α : Type*) where
  /-- What a reader has to know to decode the token. -/
  kind : τ → κ
  /-- What the token is written as. -/
  emit : τ → List α
  /-- Tokens of one kind are cut off a stream in only one way. -/
  cut : ∀ {a b : τ} {u v : List α}, kind a = kind b → emit a ++ u = emit b ++ v → a = b ∧ u = v

/-- The stream of a run of tokens. -/
def Code.emitAll (C : Code τ κ α) (ts : List τ) : List α := ts.flatMap C.emit

variable (C : Code τ κ α)

@[simp] theorem emitAll_nil : C.emitAll [] = [] := rfl

@[simp] theorem emitAll_cons (t : τ) (ts : List τ) :
    C.emitAll (t :: ts) = C.emit t ++ C.emitAll ts := List.flatMap_cons

/-- Writing is a homomorphism: nothing stands between two runs of tokens. -/
@[simp] theorem emitAll_append (ts us : List τ) :
    C.emitAll (ts ++ us) = C.emitAll ts ++ C.emitAll us := List.flatMap_append

/-- A run made of blocks is written block by block. -/
theorem emitAll_flatMap (f : γ → List τ) (gs : List γ) :
    C.emitAll (gs.flatMap f) = gs.flatMap fun g => C.emitAll (f g) := List.flatMap_assoc

/-! ## Fixed layouts and repeated blocks -/

/-- Runs of tokens of the same kinds are cut off a stream in only one way. -/
theorem emitAll_cut : ∀ {as bs : List τ} {u v : List α}, as.map C.kind = bs.map C.kind →
    C.emitAll as ++ u = C.emitAll bs ++ v → as = bs ∧ u = v
  | [], [], u, v, _, h => ⟨rfl, h⟩
  | [], _ :: _, _, _, hk, _ => by simp at hk
  | _ :: _, [], _, _, hk, _ => by simp at hk
  | a :: as, b :: bs, u, v, hk, h => by
      obtain ⟨hab, hks⟩ := List.cons.inj hk
      rw [emitAll_cons, emitAll_cons, List.append_assoc, List.append_assoc] at h
      obtain ⟨rfl, hrest⟩ := C.cut hab h
      obtain ⟨rfl, rfl⟩ := emitAll_cut hks hrest
      exact ⟨rfl, rfl⟩

/-- Lists of non-empty self-delimiting blocks have different streams, whatever their lengths. -/
theorem flatMap_inj {f : γ → List α} (hne : ∀ g, f g ≠ [])
    (hcut : ∀ {g h : γ} {u v : List α}, f g ++ u = f h ++ v → g = h ∧ u = v) :
    ∀ {gs hs : List γ}, gs.flatMap f = hs.flatMap f → gs = hs
  | [], [], _ => rfl
  | [], h :: hs, he => by
      rw [List.flatMap_nil, List.flatMap_cons] at he
      exact absurd (List.append_eq_nil_iff.mp he.symm).1 (hne h)
  | g :: gs, [], he => by
      rw [List.flatMap_nil, List.flatMap_cons] at he
      exact absurd (List.append_eq_nil_iff.mp he).1 (hne g)
  | g :: gs, h :: hs, he => by
      rw [List.flatMap_cons, List.flatMap_cons] at he
      obtain ⟨rfl, hrest⟩ := hcut he
      rw [flatMap_inj hne hcut hrest]

/-! ## Adaptive schemas -/

/-- A left-to-right schema: from the tokens already written, the kind of the next token, or `none`
    for the end of the record. -/
abbrev Schema (τ κ : Type*) := List τ → Option κ

/-- `ts`, written after `sofar`, follows the schema to its end. -/
def Follows (S : Schema τ κ) : List τ → List τ → Prop
  | sofar, [] => S sofar = none
  | sofar, t :: ts => S sofar = some (C.kind t) ∧ Follows S (sofar ++ [t]) ts

/-- **Unique decoding.**  Two records following one schema are cut off a stream in only one way.
    Induction on the first record: at the common prefix the schema tells both records the same
    thing — stop, or a token of one kind, which is then the same token. -/
theorem Follows.cut {S : Schema τ κ} : ∀ {as bs sofar : List τ} {u v : List α},
    Follows C S sofar as → Follows C S sofar bs →
    C.emitAll as ++ u = C.emitAll bs ++ v → as = bs ∧ u = v
  | [], [], _, u, v, _, _, h => ⟨rfl, h⟩
  | [], b :: bs, _, u, v, ha, hb, _ => by
      -- the schema would say stop and go on at one prefix
      have hstop := ha.symm.trans hb.1
      simp at hstop
  | a :: as, [], _, u, v, ha, hb, _ => by
      have hstop := hb.symm.trans ha.1
      simp at hstop
  | a :: as, b :: bs, sofar, u, v, ha, hb, h => by
      -- one schema, one prefix: the next tokens are of one kind
      have hab : C.kind a = C.kind b := Option.some.inj (ha.1.symm.trans hb.1)
      rw [emitAll_cons, emitAll_cons, List.append_assoc, List.append_assoc] at h
      obtain ⟨rfl, hrest⟩ := C.cut hab h
      obtain ⟨rfl, rfl⟩ := Follows.cut ha.2 hb.2 hrest
      exact ⟨rfl, rfl⟩

/-! ## Layouts: schemas written as trees -/

/-- A record layout: stop, or one field of a known kind and a continuation that sees it. -/
inductive Layout (τ κ : Type*) where
  | stop
  | field (k : κ) (next : τ → Layout τ κ)

namespace Layout

/-- The schema of a layout: walk down the tree along the tokens already written. -/
def schema : Layout τ κ → Schema τ κ
  | stop, _ => none
  | field k _, [] => some k
  | field _ next, t :: ts => (next t).schema ts

/-- `ts` is a complete record of the layout. -/
def Fits : Layout τ κ → List τ → Prop
  | stop, ts => ts = []
  | field _ _, [] => False
  | field k next, t :: ts => C.kind t = k ∧ (next t).Fits ts

/-- The sub-layout left after `sofar`. -/
def after : Layout τ κ → List τ → Layout τ κ
  | L, [] => L
  | stop, _ :: _ => stop
  | field _ next, t :: ts => (next t).after ts

/-- Before the first token all of the layout is left. -/
@[simp] theorem after_nil (L : Layout τ κ) : L.after [] = L := by cases L <;> rfl

/-- What the schema says after a run of tokens is what the sub-layout left there says. -/
theorem schema_append : ∀ (L : Layout τ κ) (sofar ts : List τ),
    L.schema (sofar ++ ts) = (L.after sofar).schema ts
  | L, [], ts => by cases L <;> rfl
  | stop, _ :: _, ts => by cases ts <;> rfl
  | field _ next, t :: sofar, ts => schema_append (next t) sofar ts

/-- What is left after two runs is what the second leaves of what the first left. -/
theorem after_append : ∀ (L : Layout τ κ) (sofar ts : List τ),
    L.after (sofar ++ ts) = (L.after sofar).after ts
  | L, [], ts => by cases L <;> rfl
  | stop, _ :: _, ts => by cases ts <;> rfl
  | field _ next, t :: sofar, ts => after_append (next t) sofar ts

/-- Following the schema of a layout from `sofar` on is fitting what the layout has left. -/
theorem follows_schema_iff (L : Layout τ κ) : ∀ (ts sofar : List τ),
    Follows C L.schema sofar ts ↔ (L.after sofar).Fits C ts
  | [], sofar => by
      show L.schema sofar = none ↔ _
      have h := schema_append L sofar []
      rw [List.append_nil] at h
      rw [h]
      cases L.after sofar <;> simp [schema, Fits]
  | t :: ts, sofar => by
      show L.schema sofar = some (C.kind t) ∧ Follows C L.schema (sofar ++ [t]) ts ↔ _
      have h := schema_append L sofar []
      rw [List.append_nil] at h
      rw [follows_schema_iff L ts (sofar ++ [t]), after_append, h]
      cases L.after sofar with
      | stop => simp [schema, Fits]
      | field k next => simp [schema, Fits, after, eq_comm]

/-- A record fits a layout exactly when it follows the layout's schema. -/
theorem fits_iff_follows (L : Layout τ κ) (ts : List τ) :
    L.Fits C ts ↔ Follows C L.schema [] ts := by
  rw [follows_schema_iff, after_nil]

/-- Two records of one layout are cut off a stream in only one way. -/
theorem Fits.cut {L : Layout τ κ} {as bs : List τ} {u v : List α} (ha : L.Fits C as)
    (hb : L.Fits C bs) (h : C.emitAll as ++ u = C.emitAll bs ++ v) : as = bs ∧ u = v :=
  Follows.cut C ((fits_iff_follows C L as).mp ha) ((fits_iff_follows C L bs).mp hb) h

/-! ### Building layouts -/

/-- Fields of the given kinds, whatever their values, and then `rest`. -/
def fixed (ks : List κ) (rest : Layout τ κ) : Layout τ κ :=
  ks.foldr (fun k L => field k fun _ => L) rest

/-- Tokens of the given kinds fill the fixed fields, and what fits the rest follows them. -/
theorem fits_fixed {rest : Layout τ κ} {ts : List τ} (hts : rest.Fits C ts) :
    ∀ {ks : List κ} {as : List τ}, as.map C.kind = ks → (fixed ks rest).Fits C (as ++ ts)
  | _, [], rfl => hts
  | _, _ :: _, rfl => ⟨rfl, fits_fixed hts rfl⟩

theorem fits_fixed_stop {ks : List κ} {as : List τ} (h : as.map C.kind = ks) :
    (fixed ks stop).Fits C as := by
  have hfits := fits_fixed C (show (stop : Layout τ κ).Fits C [] from rfl) h
  rwa [List.append_nil] at hfits

/-- `n` blocks of one shape and then `rest`. -/
def times (block : Layout τ κ → Layout τ κ) : Nat → Layout τ κ → Layout τ κ
  | 0, rest => rest
  | n + 1, rest => block (times block n rest)

/-- If a block fits in front of whatever fits, then as many blocks fit as are counted out. -/
theorem fits_times {block : Layout τ κ → Layout τ κ} {f : γ → List τ}
    (hblock : ∀ g L ts, L.Fits C ts → (block L).Fits C (f g ++ ts)) {rest : Layout τ κ}
    {ts : List τ} (hts : rest.Fits C ts) :
    ∀ gs : List γ, (times block gs.length rest).Fits C (gs.flatMap f ++ ts)
  | [] => hts
  | g :: gs => by
      rw [List.flatMap_cons, List.append_assoc]
      exact hblock g _ _ (fits_times hblock hts gs)

end Layout

/-! ## Collisions -/

variable {ς : Type*}

/-- Two different streams of the list have the same digest. -/
def Collides (hash : ς → δ) (streams : List ς) : Prop :=
  ∃ a ∈ streams, ∃ b ∈ streams, a ≠ b ∧ hash a = hash b

/-- A collision is a matter of which streams are listed, not of their order or number. -/
theorem Collides.mono {hash : ς → δ} {as bs : List ς} (h : Collides hash as) (hsub : as ⊆ bs) :
    Collides hash bs := by
  obtain ⟨a, ha, b, hb, hcollision⟩ := h
  exact ⟨a, hsub ha, b, hsub hb, hcollision⟩

/-- Equal digests of listed streams: the same stream, or a collision is exhibited. -/
theorem eq_or_collides {hash : ς → δ} {streams : List ς} {a b : ς} (ha : a ∈ streams)
    (hb : b ∈ streams) (h : hash a = hash b) : a = b ∨ Collides hash streams := by
  by_cases hab : a = b
  · exact Or.inl hab
  · exact Or.inr ⟨a, ha, b, hb, hab, h⟩

/-- Without a collision, the digest determines a listed stream. -/
theorem eq_of_not_collides {hash : ς → δ} {streams : List ς} (hno : ¬ Collides hash streams)
    {a b : ς} (ha : a ∈ streams) (hb : b ∈ streams) (h : hash a = hash b) : a = b :=
  (eq_or_collides ha hb h).resolve_right hno

end RecordCode

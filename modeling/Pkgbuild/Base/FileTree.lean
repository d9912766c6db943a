/-
  File trees whose files may have several names, and the instructions that make them.

  A tree is a table of names over a numbered table of files: a name leads to the number of its file,
  and two names with one number are hard links to one file.  It is FLAT: a name has no directory
  that would have to be there first.  Every file remembers the name it was created under; this is a
  record of the extraction that no file system keeps, and what two trees look like to a file system
  is compared without it.

  1. **Trees** — `Tree`, with its two invariants as fields; `stat`, what a name leads to, with the
     record of its creation.  Names share a file exactly when they have one `stat`
     (`file_eq_iff`).  `look` is what a file system shows of `stat`, and trees are `Alike` that show
     the same at every name and share the same files.
  2. **Instructions** — `create` and `link`, which fail as the calls of a file system do: the name
     is taken, or there is nothing to link to.  `stat_perform` says what one instruction does.
  3. **Extraction** — the instructions of a list one after the other, from nothing.  It comes
     through exactly when no name is made twice and every link comes after its target
     (`exists_extract_iff`).  In the tree it leaves EVERY instruction holds (`holds_of_extract`) and
     every file was created by one (`created_of_extract`).
  4. **Order** — the tree depends on the instructions alone, not on their order
     (`stat_eq_of_perm`).

  Names and what files hold are arbitrary types.
-/
import Mathlib.Data.List.Induction
import Mathlib.Data.List.Nodup
import Mathlib.Logic.Function.Basic

namespace FileTree

universe u v

variable {N : Type u} {A : Type v}

/-! ## Trees -/

/-- A file: what it holds, and the name it was created under.  A file system shows the first
    (`Tree.look`); the second is kept to say where a file of an extraction came from. -/
structure File (N : Type u) (A : Type v) where
  birth : N
  attributes : A

/-- Names over numbered files.  No name leads out of the table, and every file still has the name
    it was created under. -/
structure Tree (N : Type u) (A : Type v) where
  file : N → Option Nat
  files : List (File N A)
  bound : ∀ name i, file name = some i → i < files.length
  born : ∀ i made, files[i]? = some made → file made.birth = some i

namespace Tree

variable {t t' : Tree N A} {name other : N} {made made' : File N A}

/-- What a name leads to, with the record of its creation. -/
def stat (t : Tree N A) (name : N) : Option (File N A) := (t.file name).bind fun i => t.files[i]?

/-- No names, no files: where an extraction starts. -/
def empty : Tree N A where
  file := fun _ => none
  files := []
  bound := fun _ _ h => by cases h
  born := fun _ _ h => by cases h

@[simp] theorem stat_empty : (empty : Tree N A).stat name = none := rfl

/-- What a name leads to, in two steps: a number, and what the table has at it. -/
theorem stat_eq_some_iff : t.stat name = some made ↔
    ∃ i, t.file name = some i ∧ t.files[i]? = some made :=
  Option.bind_eq_some_iff

/-- Every name leads to a file. -/
theorem stat_eq_none_iff : t.stat name = none ↔ t.file name = none := by
  cases hfile : t.file name with
  | none => simp [stat, hfile]
  | some i =>
    have hlt := t.bound name i hfile
    simp [stat, hfile, List.getElem?_eq_getElem hlt]

/-- **Sharing can be seen.**  Two names are links to one file exactly when they lead to the same:
    files created under different names are different. -/
theorem file_eq_iff (h : t.stat name = some made) :
    t.file name = t.file other ↔ t.stat other = some made := by
  obtain ⟨i, hname, hi⟩ := stat_eq_some_iff.mp h
  constructor
  · intro hsame
    exact stat_eq_some_iff.mpr ⟨i, hsame.symm.trans hname, hi⟩
  · intro hother
    obtain ⟨j, hother, hj⟩ := stat_eq_some_iff.mp hother
    have hij : some i = some j := (t.born i made hi).symm.trans (t.born j made hj)
    rw [hname, hother, hij]

/-- What a file system shows at a name. -/
def look (t : Tree N A) (name : N) : Option A := (t.stat name).map File.attributes

/-- To a file system the trees are one: they show the same at every name, and the names of a file in
    the one are those of a file in the other. -/
structure Alike (t t' : Tree N A) : Prop where
  look_eq : ∀ name, t.look name = t'.look name
  shares : ∀ name other, t.file name = t.file other ↔ t'.file name = t'.file other

/-- A file system shows a file without the name of its creation. -/
theorem look_of_stat (h : t.stat name = some made) : t.look name = some made.attributes := by
  rw [look, h]
  rfl

/-- What a file system shows nothing of is not there. -/
theorem look_eq_none_iff : t.look name = none ↔ t.stat name = none := Option.map_eq_none_iff

/-- Trees with the same names are alike if they are where there is something to see. -/
theorem alike_of_names (hnames : ∀ name, t.stat name = none ↔ t'.stat name = none)
    (hlook : ∀ name, t.stat name ≠ none → t.look name = t'.look name)
    (hshares : ∀ name other, t.stat name ≠ none → t.stat other ≠ none →
      (t.file name = t.file other ↔ t'.file name = t'.file other)) : Alike t t' := by
  refine ⟨fun name => ?_, fun name other => ?_⟩
  · by_cases hname : t.stat name = none
    · rw [look_eq_none_iff.mpr hname, look_eq_none_iff.mpr ((hnames name).mp hname)]
    · exact hlook name hname
  · by_cases hname : t.stat name = none
    · -- an absent name shares its file with the absent names
      rw [stat_eq_none_iff.mp hname, stat_eq_none_iff.mp ((hnames name).mp hname), eq_comm,
        ← stat_eq_none_iff, hnames other, stat_eq_none_iff, eq_comm]
    · by_cases hother : t.stat other = none
      · have hother' := (hnames other).mp hother
        rw [stat_eq_none_iff.mp hother, stat_eq_none_iff.mp hother', ← stat_eq_none_iff,
          ← stat_eq_none_iff, hnames name]
      · exact hshares name other hname hother

theorem Alike.stat_eq_none_iff (h : Alike t t') : t.stat name = none ↔ t'.stat name = none := by
  rw [← look_eq_none_iff, h.look_eq, look_eq_none_iff]

theorem Alike.symm (h : Alike t t') : Alike t' t :=
  ⟨fun name => (h.look_eq name).symm, fun name other => (h.shares name other).symm⟩

/-- Trees that agree on the names of creation too are alike: what shares a file can be seen. -/
theorem alike_of_stat_eq (h : ∀ name, t.stat name = t'.stat name) : Alike t t' := by
  refine alike_of_names (fun name => by rw [h]) (fun name _ => by rw [look, look, h]) ?_
  intro name other hname _
  obtain ⟨made, hmade⟩ := Option.ne_none_iff_exists'.mp hname
  rw [file_eq_iff hmade, file_eq_iff ((h name).symm.trans hmade), h other]

end Tree

/-! ## Instructions -/

/-- The calls an extraction makes: a new file, or one more name for a file. -/
inductive Instruction (N : Type u) (A : Type v) where
  | create (name : N) (attributes : A)
  | link (name target : N)

namespace Instruction

/-- The name an instruction makes. -/
def name : Instruction N A → N
  | create name _ => name
  | link name _ => name

/-- What an instruction finds or makes for its name. -/
def made (t : Tree N A) : Instruction N A → Option (File N A)
  | create name attributes => some ⟨name, attributes⟩
  | link _ target => t.stat target

/-- The file an instruction adds. -/
def created : Instruction N A → Option (File N A)
  | create name attributes => some ⟨name, attributes⟩
  | link _ _ => none

/-- The instruction comes true in the tree: its name leads to what it asks for. -/
def Holds (t : Tree N A) (instruction : Instruction N A) : Prop :=
  ∃ made, t.stat instruction.name = some made ∧ instruction.made t = some made

end Instruction

namespace Tree

open Instruction

variable [DecidableEq N] {t t' : Tree N A} {instruction : Instruction N A}
  {l l' : List (Instruction N A)} {name : N} {made : File N A}

/-- One more name, for a file that is there. -/
theorem bound_update {size size' i : Nat} (hsize : ∀ other j, t.file other = some j → j < size)
    (hle : size ≤ size') (hi : i < size') (other : N) (j : Nat)
    (h : Function.update t.file name (some i) other = some j) : j < size' := by
  by_cases hother : other = name
  · rw [hother, Function.update_self] at h
    exact Option.some.inj h ▸ hi
  · rw [Function.update_of_ne hother] at h
    have hlt := hsize other j h
    omega

/-- A fresh name is none that a file was created under. -/
theorem born_update (fresh : t.file name = none) {i j : Nat} (h : t.files[j]? = some made) :
    Function.update t.file name (some i) made.birth = some j := by
  have hborn := t.born j made h
  have hne : made.birth ≠ name := by
    rintro rfl
    rw [fresh] at hborn
    cases hborn
  rw [Function.update_of_ne hne, hborn]

/-- With a new file at the end of the table and its name bound to it, every file still has the name
    it was created under. -/
theorem born_update_concat (fresh : t.file name = none) (attributes : A) (j : Nat)
    (made : File N A) (h : (t.files ++ [⟨name, attributes⟩])[j]? = some made) :
    Function.update t.file name (some t.files.length) made.birth = some j := by
  -- an older file, the new one, or none
  rcases Nat.lt_trichotomy j t.files.length with hlt | rfl | hgt
  · rw [List.getElem?_append_left hlt] at h
    exact born_update fresh h
  · rw [List.getElem?_concat_length] at h
    obtain rfl := Option.some.inj h
    exact Function.update_self _ _ _
  · have hlength : (t.files ++ [(⟨name, attributes⟩ : File N A)]).length ≤ j := by
      rw [List.length_append, List.length_singleton]
      omega
    rw [List.getElem?_eq_none hlength] at h
    cases h

/-- A new file under a fresh name. -/
def create (t : Tree N A) (name : N) (attributes : A) (fresh : t.file name = none) : Tree N A where
  file := Function.update t.file name (some t.files.length)
  files := t.files ++ [⟨name, attributes⟩]
  bound := bound_update t.bound (List.length_append ▸ Nat.le_add_right _ _)
    (List.length_append ▸ Nat.lt_succ_self _)
  born := born_update_concat fresh attributes

/-- A fresh name for a file that is there. -/
def link (t : Tree N A) (name : N) (i : Nat) (fresh : t.file name = none)
    (hi : i < t.files.length) : Tree N A where
  file := Function.update t.file name (some i)
  files := t.files
  bound := bound_update t.bound (Nat.le_refl _) hi
  born := fun _ _ h => born_update fresh h

/-- One instruction; `none` if the name is taken or the target of a link is missing. -/
def perform (t : Tree N A) : Instruction N A → Option (Tree N A)
  | .create name attributes =>
      if fresh : t.file name = none then some (t.create name attributes fresh) else none
  | .link name target =>
      if fresh : t.file name = none then
        match htarget : t.file target with
        | none => none
        | some i => some (t.link name i fresh (t.bound target i htarget))
      else none

/-- A new file is seen under its name, and everything else as before. -/
theorem stat_create {attributes : A} (fresh : t.file name = none) (other : N) :
    (t.create name attributes fresh).stat other
      = if other = name then some ⟨name, attributes⟩ else t.stat other := by
  show ((Function.update t.file name (some t.files.length) other).bind
    fun i => (t.files ++ [⟨name, attributes⟩])[i]?) = _
  by_cases hother : other = name
  · rw [if_pos hother, hother, Function.update_self]
    exact List.getElem?_concat_length
  · rw [if_neg hother, Function.update_of_ne hother, stat]
    cases hfile : t.file other with
    | none => rfl
    | some i => exact List.getElem?_append_left (t.bound other i hfile)

/-- A new name shows the file it was given; other names show what they showed. -/
theorem stat_link {i : Nat} (fresh : t.file name = none) (hi : i < t.files.length) (other : N) :
    (t.link name i fresh hi).stat other = if other = name then t.files[i]? else t.stat other := by
  show ((Function.update t.file name (some i) other).bind fun i => t.files[i]?) = _
  by_cases hother : other = name
  · rw [if_pos hother, hother, Function.update_self]
    rfl
  · rw [if_neg hother, Function.update_of_ne hother, stat]

/-- **Step.**  An instruction whose name is fresh, and which finds or makes a file, gives this file
    the name; whatever else is seen of the tree stays. -/
theorem stat_perform (h : t.perform instruction = some t') :
    t.stat instruction.name = none ∧ instruction.made t ≠ none ∧
      t'.files = t.files ++ instruction.created.toList ∧
      ∀ other, t'.stat other
        = if other = instruction.name then instruction.made t else t.stat other := by
  cases instruction with
  | create name attributes =>
    rw [perform] at h
    split at h
    · rename_i fresh
      obtain rfl := Option.some.inj h
      exact ⟨stat_eq_none_iff.mpr fresh, Option.some_ne_none _, rfl, stat_create fresh⟩
    · cases h
  | link name target =>
    rw [perform] at h
    split at h
    · rename_i fresh
      split at h
      · cases h
      · rename_i i htarget
        obtain rfl := Option.some.inj h
        have hi := t.bound target i htarget
        have hmade : t.stat target = t.files[i]? := by rw [stat, htarget]; rfl
        -- no new file: the name is bound to the one at the target
        refine ⟨stat_eq_none_iff.mpr fresh, ?_, (List.append_nil _).symm, ?_⟩
        · show t.stat target ≠ none
          rw [Ne, stat_eq_none_iff, htarget]
          exact Option.some_ne_none i
        · intro other
          show (t.link name i fresh hi).stat other = if other = name then t.stat target else _
          rw [hmade, stat_link fresh hi]
    · cases h

/-- An instruction fails for two reasons only: its name is taken, or there is nothing to link to. -/
theorem exists_perform_iff : (∃ t', t.perform instruction = some t') ↔
    t.stat instruction.name = none ∧ instruction.made t ≠ none := by
  constructor
  · rintro ⟨t', h⟩
    exact ⟨(stat_perform h).1, (stat_perform h).2.1⟩
  · rintro ⟨hfresh, hmade⟩
    have hfresh := stat_eq_none_iff.mp hfresh
    cases instruction with
    | create name attributes => exact ⟨_, dif_pos hfresh⟩
    | link name target =>
      have hfresh : t.file name = none := hfresh
      have htarget : t.file target ≠ none := fun h => hmade (stat_eq_none_iff.mpr h)
      refine Option.isSome_iff_exists.mp ?_
      rw [perform, dif_pos hfresh]
      split
      · rename_i hnone
        exact absurd hnone htarget
      · rfl

/-- What a name leads to, it leads to for good. -/
theorem stat_mono (h : t.perform instruction = some t') (hstat : t.stat name = some made) :
    t'.stat name = some made := by
  obtain ⟨hfresh, -, -, hstat'⟩ := stat_perform h
  have hne : name ≠ instruction.name := by
    rintro rfl
    rw [hfresh] at hstat
    cases hstat
  rw [hstat', if_neg hne, hstat]

/-- What came true stays true. -/
theorem holds_mono {earlier : Instruction N A} (h : t.perform instruction = some t')
    (hholds : earlier.Holds t) : earlier.Holds t' := by
  obtain ⟨made, hname, hmade⟩ := hholds
  refine ⟨made, stat_mono h hname, ?_⟩
  cases earlier with
  | create name attributes => exact hmade
  | link name target => exact stat_mono h hmade

/-- An instruction comes true. -/
theorem holds_perform (h : t.perform instruction = some t') : instruction.Holds t' := by
  obtain ⟨hfresh, hmade, -, hstat⟩ := stat_perform h
  obtain ⟨made, hmade⟩ := Option.ne_none_iff_exists'.mp hmade
  refine ⟨made, by rw [hstat, if_pos rfl, hmade], ?_⟩
  cases instruction with
  | create name attributes => exact hmade
  | link name target => exact stat_mono h hmade

/-! ## Extraction -/

/-- The instructions of a list, one after the other, from nothing. -/
def extract (l : List (Instruction N A)) : Option (Tree N A) := l.foldlM perform empty

/-- The last instruction comes after the extraction of the others. -/
theorem extract_concat : extract (l ++ [instruction]) = some t' ↔
    ∃ t, extract l = some t ∧ t.perform instruction = some t' := by
  rw [extract, List.foldlM_append]
  show ((extract l).bind fun t => [instruction].foldlM perform t) = some t' ↔ _
  simp only [Option.bind_eq_some_iff, List.foldlM_cons, List.foldlM_nil, bind_pure]

/-- The names of the tree are those the instructions make. -/
theorem stat_ne_none_iff (h : extract l = some t) :
    t.stat name ≠ none ↔ name ∈ l.map Instruction.name := by
  induction l using List.reverseRecOn generalizing t name with
  | nil =>
    obtain rfl := Option.some.inj h
    simp
  | append_singleton l instruction ih =>
    obtain ⟨t₀, h₀, hstep⟩ := extract_concat.mp h
    obtain ⟨-, hmade, -, hstat⟩ := stat_perform hstep
    rw [hstat, List.map_append, List.mem_append, ← ih h₀]
    -- the last instruction adds its own name and no other
    by_cases hname : name = instruction.name
    · simp [hname, hmade]
    · simp [hname]

/-- **Run.**  Every instruction holds in the tree. -/
theorem holds_of_extract (h : extract l = some t) : ∀ instruction ∈ l, instruction.Holds t := by
  induction l using List.reverseRecOn generalizing t with
  | nil => simp
  | append_singleton l last ih =>
    obtain ⟨t₀, h₀, hstep⟩ := extract_concat.mp h
    intro instruction hmem
    -- what held before still holds, and the last instruction holds after it
    rcases List.mem_append.mp hmem with hmem | hlast
    · exact holds_mono hstep (ih h₀ instruction hmem)
    · obtain rfl := List.mem_singleton.mp hlast
      exact holds_perform hstep

/-- Every file of the tree was created by an instruction. -/
theorem created_of_extract (h : extract l = some t) (hstat : t.stat name = some made) :
    .create made.birth made.attributes ∈ l := by
  induction l using List.reverseRecOn generalizing t name with
  | nil =>
    obtain rfl := Option.some.inj h
    cases hstat
  | append_singleton l last ih =>
    obtain ⟨t₀, h₀, hstep⟩ := extract_concat.mp h
    obtain ⟨-, -, -, hstat'⟩ := stat_perform hstep
    rw [hstat'] at hstat
    split at hstat
    · cases last with
      | create name attributes =>
        obtain rfl := Option.some.inj hstat
        simp
      | link name target => exact List.mem_append_left _ (ih h₀ hstat)
    · exact List.mem_append_left _ (ih h₀ hstat)

/-- The files of the tree, in the order of their creation. -/
theorem files_of_extract (h : extract l = some t) : t.files = l.filterMap Instruction.created := by
  induction l using List.reverseRecOn generalizing t with
  | nil =>
    obtain rfl := Option.some.inj h
    rfl
  | append_singleton l last ih =>
    obtain ⟨t₀, h₀, hstep⟩ := extract_concat.mp h
    obtain ⟨-, -, hfiles, -⟩ := stat_perform hstep
    rw [hfiles, ih h₀, List.filterMap_append]
    cases last <;> rfl

/-- **When extraction comes through.**  No name is made twice, and what is linked to was made
    before. -/
theorem exists_extract_iff : (∃ t, extract l = some t) ↔
    (l.map Instruction.name).Nodup ∧
      ∀ before name target after, l = before ++ .link name target :: after →
        target ∈ before.map Instruction.name := by
  induction l using List.reverseRecOn with
  | nil => simp [extract]
  | append_singleton l last ih =>
    rw [List.map_append, List.nodup_append_comm, List.map_singleton, List.singleton_append,
      List.nodup_cons]
    constructor
    · rintro ⟨t', hrun⟩
      obtain ⟨t, h, hstep⟩ := extract_concat.mp hrun
      obtain ⟨hfresh, hmade, -⟩ := stat_perform hstep
      obtain ⟨hnodup, hlinks⟩ := ih.mp ⟨t, h⟩
      refine ⟨⟨?_, hnodup⟩, ?_⟩
      · intro hmem
        exact (stat_ne_none_iff h).mpr hmem hfresh
      · intro before name target after hsplit
        -- the link is the last instruction, or one that came through before
        rcases List.eq_nil_or_concat after with rfl | ⟨after, x, rfl⟩
        · obtain ⟨rfl, hlast⟩ := List.append_inj' hsplit rfl
          obtain rfl := (List.cons.inj hlast).1
          exact (stat_ne_none_iff h).mp hmade
        · rw [List.concat_eq_append, ← List.cons_append, ← List.append_assoc] at hsplit
          exact hlinks before name target after (List.append_inj' hsplit rfl).1
    · rintro ⟨⟨hfresh, hnodup⟩, hlinks⟩
      -- the others come through, and the last finds its name free and its target made
      obtain ⟨t, h⟩ := ih.mpr ⟨hnodup, fun before name target after hsplit =>
        hlinks before name target (after ++ [last]) (by simp [hsplit])⟩
      have hstep : ∃ t', t.perform last = some t' := by
        refine exists_perform_iff.mpr ⟨?_, ?_⟩
        · exact not_not.mp fun hne => hfresh ((stat_ne_none_iff h).mp hne)
        · cases last with
          | create name attributes => exact Option.some_ne_none _
          | link name target =>
            exact (stat_ne_none_iff h).mpr (hlinks l name target [] rfl)
      obtain ⟨t', hstep⟩ := hstep
      exact ⟨t', extract_concat.mpr ⟨t, h, hstep⟩⟩

/-! ## Order -/

/-- A tree in which the instructions hold shows all that their extraction shows. -/
theorem stat_of_holds (h : extract l = some t)
    (hholds : ∀ instruction ∈ l, instruction.Holds t')
    (hstat : t.stat name = some made) : t'.stat name = some made := by
  induction l using List.reverseRecOn generalizing t name with
  | nil =>
    obtain rfl := Option.some.inj h
    cases hstat
  | append_singleton l last ih =>
    obtain ⟨t₀, h₀, hstep⟩ := extract_concat.mp h
    obtain ⟨-, -, -, hstat'⟩ := stat_perform hstep
    have ih := fun {name} => @ih t₀ name h₀ fun instruction hmem =>
      hholds instruction (List.mem_append_left _ hmem)
    obtain ⟨made', hname, hmade⟩ := hholds last (by simp)
    rw [hstat'] at hstat
    split at hstat
    · rename_i heq
      rw [heq, hname, ← hmade]
      cases last with
      | create name attributes => exact hstat
      | link name target => exact ih hstat
    · exact ih hstat

/-- **Order does not matter.**  Extractions of the same instructions show the same tree. -/
theorem stat_eq_of_perm (h : extract l = some t) (h' : extract l' = some t') (hperm : l.Perm l')
    (name : N) : t.stat name = t'.stat name := by
  have hto := @stat_of_holds N A _ t t' l name
  have hfrom := @stat_of_holds N A _ t' t l' name
  cases hstat : t.stat name with
  | some made =>
    refine (hto h (fun instruction hmem => ?_) hstat).symm
    exact holds_of_extract h' instruction (hperm.mem_iff.mp hmem)
  | none =>
    cases hstat' : t'.stat name with
    | none => rfl
    | some made =>
      refine hstat.symm.trans (hfrom h' (fun instruction hmem => ?_) hstat')
      exact holds_of_extract h instruction (hperm.mem_iff.mpr hmem)

end Tree

end FileTree

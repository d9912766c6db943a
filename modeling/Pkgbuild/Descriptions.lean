/-
  From strings to a sealed manifest, and back.

  A caller writes paths, hard-link targets and content digests as strings; `payload_path::parse`,
  the constructor of `sha256_digest`, the seven factories and `payload_manifest::seal` turn them
  into a manifest, whose accessors hand strings out again.  Two questions about the whole way:

  * **Back** — are the values the accessors hand out accepted, and do they lead to the same
    manifest?  `create_ok_iff`: a factory call and the accessors of the entry it returned determine
    each other;
  * **Forth** — which differences between two callers' strings reach the identity?
    Spellings of one location do not (`Description.meaning`), and everything else does.

  `descriptions_sealed` answers both.
-/
import Pkgbuild.ManifestIdentity
import Pkgbuild.PathCanonical

namespace Pkgbuild

open Checked

/-! ## Descriptions -/

/-- What the factory of one type is given beside the members that all entries have.  Link targets
    are of type `τ`. -/
inductive Particulars (τ : Type) where
  | regular (size : UInt64) (content : Bytes)
  | directory
  | symlink (target : Text)
  | hardlink (target : τ)
  | fifo
  | characterDevice (device : DeviceNumber)
  | blockDevice (device : DeviceNumber)

/-- The arguments of a factory, with paths of type `τ`. -/
structure Description (τ : Type) where
  path : τ
  mode : UInt32
  uid : UInt64
  gid : UInt64
  modificationTime : PayloadTime
  particulars : Particulars τ

variable {τ σ : Type}

/-- Only the target of a hard link is a path. -/
def Particulars.map (f : τ → σ) : Particulars τ → Particulars σ
  | regular size content => .regular size content
  | directory => .directory
  | symlink target => .symlink target
  | hardlink target => .hardlink (f target)
  | fifo => .fifo
  | characterDevice device => .characterDevice device
  | blockDevice device => .blockDevice device

/-- The same description with every path put through `f`. -/
def Description.map (f : τ → σ) (d : Description τ) : Description σ :=
  ⟨f d.path, d.mode, d.uid, d.gid, d.modificationTime, d.particulars.map f⟩

/-- No two particulars become one unless two targets do. -/
theorem Particulars.map_injective {f : τ → σ} (hf : Function.Injective f) :
    Function.Injective (map f) := by
  intro a b h
  cases a <;> cases b <;> simp_all [map, hf.eq_iff]

/-- Telling paths apart is enough to tell descriptions apart. -/
theorem Description.map_injective {f : τ → σ} (hf : Function.Injective f) :
    Function.Injective (map f) := by
  intro a b h
  obtain ⟨path, mode, uid, gid, time, particulars⟩ := a
  obtain ⟨path', mode', uid', gid', time', particulars'⟩ := b
  simp only [map, mk.injEq] at h
  obtain ⟨hpath, rfl, rfl, rfl, rfl, hparticulars⟩ := h
  rw [hf hpath, Particulars.map_injective hf hparticulars]

/-! ## The factories -/

/-- The factory of the type, called. -/
def Description.create (d : Description PayloadPath) : Except Error PayloadEntry :=
  match d.particulars with
  | .regular size content => do
      let content ← Sha256Digest.make content
      PayloadEntry.regular d.path d.mode d.uid d.gid size d.modificationTime content
  | .directory => PayloadEntry.directory d.path d.mode d.uid d.gid d.modificationTime
  | .symlink target => PayloadEntry.symlink d.path d.mode d.uid d.gid d.modificationTime target
  | .hardlink target => PayloadEntry.hardlink d.path d.mode d.uid d.gid d.modificationTime target
  | .fifo => PayloadEntry.fifo d.path d.mode d.uid d.gid d.modificationTime
  | .characterDevice device =>
      PayloadEntry.characterDevice d.path d.mode d.uid d.gid d.modificationTime device
  | .blockDevice device =>
      PayloadEntry.blockDevice d.path d.mode d.uid d.gid d.modificationTime device

/-- What the accessors of an entry say, as far as its type has it. -/
def PayloadEntry.particulars (entry : PayloadEntry) : Particulars PayloadPath :=
  match entry.type with
  | .regular => .regular entry.size ((entry.regularContent.map fun content => content.hex).getD [])
  | .directory => .directory
  | .symlink => .symlink (entry.symlinkTarget.getD entry.path.value)
  | .hardlink => .hardlink (entry.hardlinkTarget.getD entry.path)
  | .fifo => .fifo
  | .characterDevice => .characterDevice (entry.device.getD ⟨0, 0⟩)
  | .blockDevice => .blockDevice (entry.device.getD ⟨0, 0⟩)

/-- The arguments of the factory call that an entry came from, read off its accessors. -/
def PayloadEntry.describe (entry : PayloadEntry) : Description PayloadPath :=
  ⟨entry.path, entry.mode, entry.uid, entry.gid, entry.modificationTime, entry.particulars⟩

/-- The string of a digest passes the constructor's check and gives the digest back. -/
theorem Sha256Digest.make_hex (digest : Sha256Digest) : make digest.hex = .ok digest := by
  have hchecked : Sha256Hex.check digest.hex = .ok digest.toSha256Hex :=
    Sha256Hex.check_ok_iff.mpr rfl
  unfold make
  rw [hchecked]
  rfl

/-- What the accessors say is accepted, and describes the entry. -/
theorem create_describe (entry : PayloadEntry) : entry.describe.create = .ok entry := by
  have hself := entry.make_self
  obtain ⟨path, type, mode, uid, gid, size, time, symlinkTarget, hardlinkTarget, device, content,
    hmode, hnanoseconds, shape⟩ := entry
  cases type with
  | regular =>
    -- the digest goes out as a string and comes back through its constructor
    obtain ⟨rfl, rfl, rfl, hcontent⟩ := shape
    obtain ⟨content, rfl⟩ := Option.isSome_iff_exists.mp hcontent
    show (Sha256Digest.make content.hex >>= fun content =>
      PayloadEntry.regular path mode uid gid size time content) = _
    rw [Sha256Digest.make_hex]
    exact hself
  | directory =>
    obtain ⟨rfl, rfl, rfl, rfl, rfl⟩ := shape
    exact hself
  | symlink =>
    -- the factory checks the target again, which the entry's shape says is safe
    obtain ⟨rfl, ⟨target, rfl, hsafe⟩, rfl, rfl, rfl⟩ := shape
    refine bind_ok_iff.mpr ⟨⟨(), requireLineSafe_ok_iff.mpr hsafe⟩, ?_, hself⟩
    exact attach_ok_iff.mpr (requireLineSafe_ok_iff.mpr hsafe)
  | hardlink =>
    obtain ⟨rfl, rfl, htarget, rfl, rfl⟩ := shape
    obtain ⟨target, rfl⟩ := Option.isSome_iff_exists.mp htarget
    exact hself
  | fifo =>
    obtain ⟨rfl, rfl, rfl, rfl, rfl⟩ := shape
    exact hself
  | characterDevice =>
    obtain ⟨rfl, rfl, rfl, hdevice, rfl⟩ := shape
    obtain ⟨device, rfl⟩ := Option.isSome_iff_exists.mp hdevice
    exact hself
  | blockDevice =>
    obtain ⟨rfl, rfl, rfl, hdevice, rfl⟩ := shape
    obtain ⟨device, rfl⟩ := Option.isSome_iff_exists.mp hdevice
    exact hself

/-- The constructor checks two members and leaves all as they were given. -/
theorem PayloadEntry.make_ok {path : PayloadPath} {type : PayloadEntryType} {mode : UInt32}
    {uid gid size : UInt64} {time : PayloadTime} {symlinkTarget : Option Text}
    {hardlinkTarget : Option PayloadPath} {device : Option DeviceNumber}
    {content : Option Sha256Digest}
    {shape : EntryShape size symlinkTarget hardlinkTarget device content type}
    {entry : PayloadEntry}
    (h : make path type mode uid gid size time symlinkTarget hardlinkTarget device content shape
      = .ok entry) :
    ∃ hmode hnanoseconds, entry = ⟨path, type, mode, uid, gid, size, time, symlinkTarget,
      hardlinkTarget, device, content, hmode, hnanoseconds, shape⟩ := by
  unfold make at h
  split at h
  · cases h
  · split at h
    · cases h
    · exact ⟨_, _, (Except.ok.inj h).symm⟩

/-- What a factory was given is what the accessors say. -/
theorem describe_of_create {d : Description PayloadPath} {entry : PayloadEntry}
    (h : d.create = .ok entry) : d = entry.describe := by
  obtain ⟨path, mode, uid, gid, time, particulars⟩ := d
  cases particulars with
  | regular size content =>
    obtain ⟨digest, hdigest, h⟩ := bind_ok_iff.mp h
    obtain ⟨checked, hchecked, hmake⟩ := bind_ok_iff.mp hdigest
    obtain rfl := pure_ok_iff.mp hmake
    obtain rfl := Sha256Hex.check_ok_iff.mp hchecked
    obtain ⟨_, _, rfl⟩ := PayloadEntry.make_ok h
    rfl
  | symlink target =>
    obtain ⟨_, -, h⟩ := bind_ok_iff.mp h
    obtain ⟨_, _, rfl⟩ := PayloadEntry.make_ok h
    rfl
  | directory | hardlink | fifo | characterDevice | blockDevice =>
    obtain ⟨_, _, rfl⟩ := PayloadEntry.make_ok h
    rfl

/-- **A factory call and its entry determine each other.** -/
theorem create_ok_iff {d : Description PayloadPath} {entry : PayloadEntry} :
    d.create = .ok entry ↔ d = entry.describe := by
  constructor
  · exact describe_of_create
  · rintro rfl
    exact create_describe entry

/-! ## Paths -/

/-- The caller parses the target of a hard link, and nothing else in the particulars. -/
def Particulars.parse : Particulars Text → Except Error (Particulars PayloadPath)
  | regular size content => .ok (.regular size content)
  | directory => .ok .directory
  | symlink target => .ok (.symlink target)
  | hardlink target => do
      let target ← PayloadPath.parse target
      return .hardlink target
  | fifo => .ok .fifo
  | characterDevice device => .ok (.characterDevice device)
  | blockDevice device => .ok (.blockDevice device)

/-- The caller parses the paths; what the factory checks is left for later. -/
def Description.parse (d : Description Text) : Except Error (Description PayloadPath) := do
  let path ← PayloadPath.parse d.path
  let particulars ← d.particulars.parse
  return ⟨path, d.mode, d.uid, d.gid, d.modificationTime, particulars⟩

/-- Where a path leads. -/
def PayloadPath.place (path : PayloadPath) : List Bytes := location path.value.bytes

/-- Paths are canonical: no two of them lead to one place. -/
theorem PayloadPath.place_injective : Function.Injective place := fun a b h =>
  (eq_iff_location (parse_self a) (parse_self b)).mpr h

/-- A spelling leads where its path leads. -/
theorem PayloadPath.place_of_parse {input : Text} {path : PayloadPath}
    (h : parse input = .ok path) : location input.bytes = path.place :=
  (eq_iff_location h (parse_self path)).mp rfl

/-- What a description says: a spelling stands for the location it leads to. -/
def Description.meaning (d : Description Text) : Description (List Bytes) :=
  d.map fun path => location path.bytes

/-- A hard link's target leads where it led before it was parsed. -/
theorem Particulars.map_of_parse {p : Particulars Text} {parsed : Particulars PayloadPath}
    (h : p.parse = .ok parsed) :
    p.map (fun path => location path.bytes) = parsed.map PayloadPath.place := by
  cases p with
  | hardlink target =>
    obtain ⟨path, hpath, h⟩ := bind_ok_iff.mp h
    obtain rfl := pure_ok_iff.mp h
    exact congrArg Particulars.hardlink (PayloadPath.place_of_parse hpath)
  | _ =>
    obtain rfl := Except.ok.inj h
    rfl

/-- Parsing keeps the meaning. -/
theorem Description.meaning_of_parse {d : Description Text} {parsed : Description PayloadPath}
    (h : d.parse = .ok parsed) : d.meaning = parsed.map PayloadPath.place := by
  obtain ⟨path, hpath, h⟩ := bind_ok_iff.mp h
  obtain ⟨particulars, hparticulars, h⟩ := bind_ok_iff.mp h
  obtain rfl := pure_ok_iff.mp h
  simp only [meaning, map, PayloadPath.place_of_parse hpath,
    Particulars.map_of_parse hparticulars]

theorem Particulars.parse_values (p : Particulars PayloadPath) :
    (p.map PayloadPath.value).parse = .ok p := by
  cases p with
  | hardlink target =>
    show (PayloadPath.parse target.value >>= fun target => pure (Particulars.hardlink target)) = _
    rw [PayloadPath.parse_self]
    rfl
  | _ => rfl

/-- A description written out with canonical strings is parsed back. -/
theorem Description.parse_values (d : Description PayloadPath) :
    (d.map PayloadPath.value).parse = .ok d := by
  show (PayloadPath.parse d.path.value >>= fun path =>
    (d.particulars.map PayloadPath.value).parse >>= fun particulars =>
      pure (⟨path, d.mode, d.uid, d.gid, d.modificationTime, particulars⟩ :
        Description PayloadPath)) = _
  rw [PayloadPath.parse_self, Particulars.parse_values]
  rfl

/-! ## The whole way -/

/-- Parse the paths and call the factory. -/
def Description.build (d : Description Text) : Except Error PayloadEntry := do
  let parsed ← d.parse
  parsed.create

/-- What the accessors of an entry hand out. -/
def PayloadEntry.described (entry : PayloadEntry) : Description Text :=
  entry.describe.map PayloadPath.value

/-- Build the entries and seal them. -/
def sealDescribed (sha256 : Sha256) (descriptions : List (Description Text)) :
    Except Error (PayloadManifest sha256) := do
  let entries ← descriptions.mapM Description.build
  PayloadManifest.seal sha256 entries

/-- What is handed out builds the entry again. -/
theorem build_described (entry : PayloadEntry) : entry.described.build = .ok entry :=
  bind_ok_iff.mpr ⟨entry.describe, entry.describe.parse_values, create_ok_iff.mpr rfl⟩

/-- An entry holds what its description means. -/
theorem meaning_of_build {d : Description Text} {entry : PayloadEntry}
    (h : d.build = .ok entry) : d.meaning = entry.describe.map PayloadPath.place := by
  obtain ⟨parsed, hparsed, h⟩ := bind_ok_iff.mp h
  obtain rfl := create_ok_iff.mp h
  exact Description.meaning_of_parse hparsed

/-- Nothing else: descriptions of one meaning build one entry. -/
theorem entry_eq_iff_meaning {d d' : Description Text} {entry entry' : PayloadEntry}
    (h : d.build = .ok entry) (h' : d'.build = .ok entry') :
    entry = entry' ↔ d.meaning = d'.meaning := by
  rw [meaning_of_build h, meaning_of_build h']
  constructor
  · rintro rfl
    rfl
  · intro hmeaning
    have hdescribe := Description.map_injective PayloadPath.place_injective hmeaning
    have hcreate := create_ok_iff.mpr hdescribe
    rw [create_describe entry] at hcreate
    exact Except.ok.inj hcreate

/-- Vector by vector: one entry at each place, built from descriptions of one meaning. -/
theorem entries_eq_iff_meaning : ∀ {ds ds' : List (Description Text)}
    {entries entries' : List PayloadEntry},
    List.Forall₂ (fun d entry => d.build = .ok entry) ds entries →
    List.Forall₂ (fun d entry => d.build = .ok entry) ds' entries' →
    (entries = entries' ↔ ds.map Description.meaning = ds'.map Description.meaning)
  | _, _, _, _, .nil, .nil => by simp
  | _, _, _, _, .nil, .cons _ _ => by simp
  | _, _, _, _, .cons _ _, .nil => by simp
  | _, _, _, _, .cons h hs, .cons h' hs' => by
      rw [List.map_cons, List.map_cons, List.cons.injEq, List.cons.injEq,
        entry_eq_iff_meaning h h', entries_eq_iff_meaning hs hs']

/-! ## What is accepted -/

/-- The strings in the particulars are what their checks ask for: 64 lower-case digits, a link text
    of one line, a path of the grammar. -/
def Particulars.Acceptable : Particulars Text → Prop
  | regular _ content => IsSha256Hex content
  | symlink target => IsLineSafe target.bytes
  | hardlink target => InGrammar target.bytes
  | directory | fifo | characterDevice _ | blockDevice _ => True

/-- The strings pass their checks, and the two numbers are in range. -/
structure Description.Acceptable (d : Description Text) : Prop where
  path : InGrammar d.path.bytes
  mode : d.mode ≤ 0o7777
  nanoseconds : d.modificationTime.nanoseconds < 1000000000
  particulars : d.particulars.Acceptable

/-- `parse` accepts the grammar and nothing else. -/
theorem PayloadPath.exists_parse_iff_inGrammar {input : Text} :
    (∃ path, parse input = .ok path) ↔ InGrammar input.bytes := by
  constructor
  · rintro ⟨path, hpath⟩
    exact (parse_ok_iff_canon.mp hpath).1
  · intro h
    obtain ⟨value, hvalue⟩ : ∃ value, normalize input.bytes = .ok value :=
      ⟨_, normalize_ok_iff.mpr ⟨h, rfl⟩⟩
    exact exists_parse_iff.mpr ⟨value, hvalue⟩

/-- The constructor's two checks. -/
theorem PayloadEntry.exists_make_iff {path : PayloadPath} {type : PayloadEntryType} {mode : UInt32}
    {uid gid size : UInt64} {time : PayloadTime} {symlinkTarget : Option Text}
    {hardlinkTarget : Option PayloadPath} {device : Option DeviceNumber}
    {content : Option Sha256Digest}
    {shape : EntryShape size symlinkTarget hardlinkTarget device content type} :
    (∃ entry, make path type mode uid gid size time symlinkTarget hardlinkTarget device content
      shape = .ok entry) ↔ mode ≤ 0o7777 ∧ time.nanoseconds < 1000000000 := by
  constructor
  · rintro ⟨entry, h⟩
    obtain ⟨hmode, hnanoseconds, -⟩ := make_ok h
    exact ⟨hmode, hnanoseconds⟩
  · rintro ⟨hmode, hnanoseconds⟩
    rw [make, dif_neg (UInt32.not_lt.mpr hmode), dif_neg (UInt32.not_le.mpr hnanoseconds)]
    exact ⟨_, rfl⟩

/-- The constructor accepts canonical digests and nothing else. -/
theorem Sha256Digest.exists_make_iff {content : Bytes} :
    (∃ digest, make content = .ok digest) ↔ IsSha256Hex content := by
  constructor
  · rintro ⟨digest, h⟩
    obtain ⟨checked, hchecked, -⟩ := bind_ok_iff.mp h
    obtain rfl := Sha256Hex.check_ok_iff.mp hchecked
    exact checked.canonical
  · intro h
    exact ⟨⟨⟨content, h⟩⟩, make_hex ⟨⟨content, h⟩⟩⟩

/-- The strings in the particulars are accepted exactly if they are well formed, and then the
    factory checks the mode and the nanoseconds. -/
theorem exists_create_iff {path : PayloadPath} {mode : UInt32} {uid gid : UInt64}
    {time : PayloadTime} {p : Particulars Text} :
    (∃ parsed entry, p.parse = .ok parsed ∧
      (⟨path, mode, uid, gid, time, parsed⟩ : Description PayloadPath).create = .ok entry) ↔
    p.Acceptable ∧ mode ≤ 0o7777 ∧ time.nanoseconds < 1000000000 := by
  cases p with
  | regular size content =>
    -- the content is the constructor's to accept
    rw [Particulars.Acceptable, ← Sha256Digest.exists_make_iff]
    constructor
    · rintro ⟨_, entry, ⟨⟩, h⟩
      obtain ⟨digest, hdigest, h⟩ := bind_ok_iff.mp h
      exact ⟨⟨digest, hdigest⟩, PayloadEntry.exists_make_iff.mp ⟨entry, h⟩⟩
    · rintro ⟨⟨digest, hdigest⟩, hranges⟩
      obtain ⟨entry, h⟩ := PayloadEntry.exists_make_iff.mpr hranges
      exact ⟨_, entry, rfl, bind_ok_iff.mpr ⟨digest, hdigest, h⟩⟩
  | symlink target =>
    constructor
    · rintro ⟨_, entry, ⟨⟩, h⟩
      obtain ⟨checked, -, h⟩ := bind_ok_iff.mp h
      exact ⟨requireLineSafe_ok_iff.mp checked.2, PayloadEntry.exists_make_iff.mp ⟨entry, h⟩⟩
    · rintro ⟨hsafe, hranges⟩
      obtain ⟨entry, h⟩ := PayloadEntry.exists_make_iff.mpr hranges
      refine ⟨_, entry, rfl, bind_ok_iff.mpr ⟨⟨(), requireLineSafe_ok_iff.mpr hsafe⟩, ?_, h⟩⟩
      exact attach_ok_iff.mpr (requireLineSafe_ok_iff.mpr hsafe)
  | hardlink target =>
    -- the target is parsed by the caller, before the factory
    rw [Particulars.Acceptable, ← PayloadPath.exists_parse_iff_inGrammar]
    constructor
    · rintro ⟨_, entry, hparsed, h⟩
      obtain ⟨target', htarget', hparsed⟩ := bind_ok_iff.mp hparsed
      obtain rfl := pure_ok_iff.mp hparsed
      exact ⟨⟨target', htarget'⟩, PayloadEntry.exists_make_iff.mp ⟨entry, h⟩⟩
    · rintro ⟨⟨target', htarget'⟩, hranges⟩
      obtain ⟨entry, h⟩ := PayloadEntry.exists_make_iff.mpr hranges
      exact ⟨_, entry, bind_ok_iff.mpr ⟨target', htarget', rfl⟩, h⟩
  | directory | fifo | characterDevice | blockDevice =>
    constructor
    · rintro ⟨_, entry, ⟨⟩, h⟩
      exact ⟨trivial, PayloadEntry.exists_make_iff.mp ⟨entry, h⟩⟩
    · rintro ⟨-, hranges⟩
      obtain ⟨entry, h⟩ := PayloadEntry.exists_make_iff.mpr hranges
      exact ⟨_, entry, rfl, h⟩

/-- A description is built exactly when it is acceptable. -/
theorem exists_build_iff {d : Description Text} :
    (∃ entry, d.build = .ok entry) ↔ d.Acceptable := by
  constructor
  · rintro ⟨entry, h⟩
    obtain ⟨_, hparsed, hcreate⟩ := bind_ok_iff.mp h
    obtain ⟨path, hpath, h⟩ := bind_ok_iff.mp hparsed
    obtain ⟨particulars, hparticulars, h⟩ := bind_ok_iff.mp h
    obtain rfl := pure_ok_iff.mp h
    obtain ⟨hacceptable, hmode, hnanoseconds⟩ :=
      exists_create_iff.mp ⟨particulars, entry, hparticulars, hcreate⟩
    exact ⟨PayloadPath.exists_parse_iff_inGrammar.mp ⟨path, hpath⟩, hmode, hnanoseconds,
      hacceptable⟩
  · intro h
    obtain ⟨path, hpath⟩ := PayloadPath.exists_parse_iff_inGrammar.mpr h.path
    obtain ⟨particulars, entry, hparticulars, hcreate⟩ :=
      (@exists_create_iff path d.mode d.uid d.gid d.modificationTime d.particulars).mpr
        ⟨h.particulars, h.mode, h.nanoseconds⟩
    refine ⟨entry, bind_ok_iff.mpr ⟨_, bind_ok_iff.mpr ⟨path, hpath, ?_⟩, hcreate⟩⟩
    exact bind_ok_iff.mpr ⟨particulars, hparticulars, rfl⟩

/-- `anchor` is a regular file at the target of the hard link `link`, of the same inode. -/
def Anchors (anchor link : Description (List Bytes)) : Prop :=
  (∃ size content, anchor.particulars = .regular size content) ∧
    link.particulars = .hardlink anchor.path ∧ link.mode = anchor.mode ∧ link.uid = anchor.uid ∧
    link.gid = anchor.gid ∧ link.modificationTime = anchor.modificationTime

/-- One entry a location, and every hard link behind its anchor. -/
structure WellAnchored (meanings : List (Description (List Bytes))) : Prop where
  distinct : (meanings.map Description.path).Nodup
  anchored : ∀ before link after, meanings = before ++ link :: after →
    (∃ target, link.particulars = .hardlink target) → ∃ anchor ∈ before, Anchors anchor link

/-- What an entry means. -/
def PayloadEntry.meaning (entry : PayloadEntry) : Description (List Bytes) :=
  entry.describe.map PayloadPath.place

/-- Whether an entry is a hard link can be told from its meaning. -/
theorem meaning_hardlink_iff {entry : PayloadEntry} :
    (∃ target, entry.meaning.particulars = .hardlink target) ↔ entry.type = .hardlink := by
  show (∃ target, entry.particulars.map PayloadPath.place = .hardlink target) ↔ _
  unfold PayloadEntry.particulars
  cases entry.type <;> simp [Particulars.map]

/-- Of an entry that is a link, anchoring by meanings is what `seal` checks on paths. -/
theorem anchors_meaning_iff {anchor link : PayloadEntry} (hlink : link.type = .hardlink) :
    Anchors anchor.meaning link.meaning ↔ anchor.type = .regular ∧
      link.hardlinkTarget = some anchor.path ∧ SameInode link anchor := by
  have hregular : (∃ size content, anchor.meaning.particulars = .regular size content) ↔
      anchor.type = .regular := by
    show (∃ size content, anchor.particulars.map PayloadPath.place = .regular size content) ↔ _
    unfold PayloadEntry.particulars
    cases anchor.type <;> simp [Particulars.map]
  have htarget : link.meaning.particulars = .hardlink anchor.meaning.path ↔
      link.hardlinkTarget = some anchor.path := by
    obtain ⟨target, htarget⟩ := PayloadEntry.exists_hardlinkTarget hlink
    have hparticulars : link.particulars = .hardlink target := by
      unfold PayloadEntry.particulars
      rw [hlink, htarget]
      rfl
    show link.particulars.map PayloadPath.place = .hardlink anchor.path.place ↔ _
    rw [hparticulars, htarget, Option.some.injEq, Particulars.map, Particulars.hardlink.injEq]
    exact PayloadPath.place_injective.eq_iff
  unfold Anchors SameInode
  rw [hregular, htarget]
  exact Iff.rfl

/-- **The loop of `seal`, by meanings.**  Paths are compared as texts, which is to compare
    locations, and anchors are found by comparing paths. -/
theorem sealEntries_iff_wellAnchored {entries : List PayloadEntry} :
    (∃ state, sealEntries entries = .ok state) ↔
      WellAnchored (entries.map PayloadEntry.meaning) := by
  have hpaths : ((entries.map PayloadEntry.meaning).map Description.path).Nodup ↔
      (entries.map PayloadEntry.path).Nodup := by
    have hplaces : (entries.map PayloadEntry.meaning).map Description.path
        = (entries.map PayloadEntry.path).map PayloadPath.place := by
      rw [List.map_map, List.map_map]
      rfl
    rw [hplaces, List.nodup_map_iff PayloadPath.place_injective]
  rw [sealEntries_iff_splits]
  constructor
  · rintro ⟨hnodup, hanchored⟩
    refine ⟨hpaths.mpr hnodup, ?_⟩
    intro before link after hsplit hlink
    -- a link's anchor among the entries before it means an anchor among their meanings
    obtain ⟨entries₁, entries₂, rfl, rfl, htail⟩ := List.map_eq_append_iff.mp hsplit
    obtain ⟨entry, entries₃, rfl, rfl, rfl⟩ := List.map_eq_cons_iff.mp htail
    have htype := meaning_hardlink_iff.mp hlink
    obtain ⟨anchor, hanchor, hgood⟩ := hanchored _ _ _ rfl htype
    exact ⟨anchor.meaning, List.mem_map_of_mem hanchor, (anchors_meaning_iff htype).mpr hgood⟩
  · rintro ⟨hdistinct, hanchored⟩
    refine ⟨hpaths.mp hdistinct, ?_⟩
    intro before entry after hsplit htype
    -- and the anchor that is meant is the meaning of one of them
    obtain ⟨meaning, hmeaning, hanchors⟩ := hanchored (before.map PayloadEntry.meaning)
      entry.meaning (after.map PayloadEntry.meaning)
      (by rw [hsplit, List.map_append, List.map_cons]) (meaning_hardlink_iff.mpr htype)
    obtain ⟨anchor, hanchor, rfl⟩ := List.mem_map.mp hmeaning
    exact ⟨anchor, hanchor, (anchors_meaning_iff htype).mp hanchors⟩

theorem map_meaning_of_build {ds : List (Description Text)} {entries : List PayloadEntry}
    (h : List.Forall₂ (fun d entry => Description.build d = .ok entry) ds entries) :
    ds.map Description.meaning = entries.map PayloadEntry.meaning := by
  induction h with
  | nil => rfl
  | cons h _ ih =>
    rw [List.map_cons, List.map_cons, ih, meaning_of_build h]
    rfl

/-- Whether descriptions are sealed is a matter of each one's strings and of all their meanings. -/
theorem exists_sealDescribed_iff {sha256 : Sha256} {ds : List (Description Text)} :
    (∃ manifest, sealDescribed sha256 ds = .ok manifest) ↔
      (∀ d ∈ ds, d.Acceptable) ∧ WellAnchored (ds.map Description.meaning) := by
  have hacceptable : (∃ entries, ds.mapM Description.build = .ok entries) ↔
      ∀ d ∈ ds, d.Acceptable := by
    rw [exists_mapM_iff]
    exact forall_congr' fun d => imp_congr_right fun _ => exists_build_iff
  rw [← hacceptable]
  constructor
  · rintro ⟨manifest, h⟩
    obtain ⟨entries, hentries, hseal⟩ := bind_ok_iff.mp h
    rw [map_meaning_of_build (mapM_ok_iff.mp hentries)]
    exact ⟨⟨entries, hentries⟩,
      sealEntries_iff_wellAnchored.mp (exists_seal_iff.mp ⟨manifest, hseal⟩)⟩
  · rintro ⟨⟨entries, hentries⟩, hanchored⟩
    rw [map_meaning_of_build (mapM_ok_iff.mp hentries)] at hanchored
    obtain ⟨manifest, hseal⟩ := exists_seal_iff.mpr (sealEntries_iff_wellAnchored.mpr hanchored)
    exact ⟨manifest, bind_ok_iff.mpr ⟨entries, hentries, hseal⟩⟩

/-- What the accessors hand out is sealed as the manifest it was read off. -/
theorem sealDescribed_described {sha256 : Sha256} (manifest : PayloadManifest sha256) :
    sealDescribed sha256 (manifest.entries.map PayloadEntry.described) = .ok manifest := by
  have hbuilt : (manifest.entries.map PayloadEntry.described).mapM Description.build
      = .ok manifest.entries := by
    refine mapM_ok_iff.mpr (List.forall₂_map_left_iff.mpr ?_)
    exact List.forall₂_same.mpr fun entry _ => build_described entry
  exact bind_ok_iff.mpr ⟨manifest.entries, hbuilt, seal_ok_iff.mpr rfl⟩

/-- **From strings to a manifest, and back.**  Descriptions are sealed exactly when their strings
    and numbers pass the checks and their meanings are well anchored.  What the accessors of a
    manifest's entries hand out is accepted and seals the same manifest.  Two callers' descriptions
    are sealed under one identity exactly when they mean the same, entry by entry, or else the two
    streams hashed are different streams of one digest. -/
theorem descriptions_sealed (sha256 : Sha256) :
    (∀ ds, (∃ manifest, sealDescribed sha256 ds = .ok manifest) ↔
      (∀ d ∈ ds, d.Acceptable) ∧ WellAnchored (ds.map Description.meaning)) ∧
    (∀ manifest : PayloadManifest sha256,
      sealDescribed sha256 (manifest.entries.map PayloadEntry.described) = .ok manifest) ∧
    ∀ (ds ds' : List (Description Text)) (a b : PayloadManifest sha256),
      sealDescribed sha256 ds = .ok a → sealDescribed sha256 ds' = .ok b →
      (a.identity = b.identity ↔ ds.map Description.meaning = ds'.map Description.meaning) ∨
        a.stream ≠ b.stream ∧ sha256 a.stream = sha256 b.stream := by
  refine ⟨fun _ => exists_sealDescribed_iff, sealDescribed_described, ?_⟩
  intro ds ds' a b ha hb
  obtain ⟨entries, hentries, ha⟩ := bind_ok_iff.mp ha
  obtain ⟨entries', hentries', hb⟩ := bind_ok_iff.mp hb
  obtain rfl := seal_ok_iff.mp ha
  obtain rfl := seal_ok_iff.mp hb
  rw [← entries_eq_iff_meaning (mapM_ok_iff.mp hentries) (mapM_ok_iff.mp hentries')]
  exact PayloadManifest.identity_iff_or_collision a b

end Pkgbuild

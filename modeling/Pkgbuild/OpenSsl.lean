/-
  OpenSSL's digest interface, as `identity_support.cpp` uses it.

  OpenSSL is not part of this repository.  What it answers may depend on everything that happened
  before, so it is a PARAMETER that answers each call from the log of the earlier ones
  (`OpenSsl`), and any of its calls may fail at any time.  Two things are promised, and only for as
  long as the client kept the rules (`Disciplined`):

  * a context it hands out is not one that is still allocated (`fresh`);
  * a context that was initialised and then updated without a failure is finalised, if at all, to
    the 32 bytes of the digest of what it was updated with (`digests`).

  The log says everything else: which contexts are allocated (`EvpCall.act`), what a context has
  been fed (`streamOf`), which call failed first (`EvpCall.Failed`).
-/
import Pkgbuild.Base.Handles
import Pkgbuild.Identity

namespace Pkgbuild

open Handles

/-! ## The log -/

/-- A pointer to an `EVP_MD_CTX`; null is `none`. -/
abbrev Pointer := Nat

/-- A call on OpenSSL, with what the caller sees of the answer: a pointer, a status, and for the
    digest the size (its bytes are in the answer, `DigestAnswer`). -/
inductive EvpCall where
  /-- `EVP_MD_CTX_new`. -/
  | new (answer : Option Pointer)
  /-- `EVP_DigestInit_ex` with `EVP_sha256()`. -/
  | init (context : Pointer) (status : Int)
  /-- `EVP_DigestUpdate`; the writer does not check its context here. -/
  | update (context : Option Pointer) (data : Bytes) (status : Int)
  /-- `EVP_DigestFinal_ex`. -/
  | final (context : Pointer) (status : Int) (size : UInt32)
  /-- `EVP_MD_CTX_free`. -/
  | free (context : Pointer)
deriving DecidableEq

/-- All calls so far, the first one first.  OpenSSL answers from it, and everything said about a run
    is said about the calls it appended. -/
abbrev EvpLog := List EvpCall

namespace EvpCall

/-- The context the call is about. -/
def context : EvpCall → Option Pointer
  | new answer => answer
  | update context _ _ => context
  | init context _ | final context _ _ | free context => some context

/-- What the call does to the allocated contexts.  An update without a context is a `stray` act,
    which no rule allows. -/
def act : EvpCall → Act Pointer
  | new none => .idle
  | new (some context) => .acquire context
  | update none _ _ => .stray
  | init context _ | update (some context) _ _ | final context _ _ => .touch context
  | free context => .release context

/-- The call did not do what it was asked for, by the test the caller makes: a null pointer, a
    status other than 1, a digest of another size than 32. -/
def Failed : EvpCall → Prop
  | new answer => answer = none
  | init _ status | update _ _ status => status ≠ 1
  | final _ status size => status ≠ 1 ∨ size ≠ 32
  | free _ => False

instance : DecidablePred Failed
  | new answer => inferInstanceAs (Decidable (answer = none))
  | init _ status | update _ _ status => inferInstanceAs (Decidable (status ≠ 1))
  | final _ status size => inferInstanceAs (Decidable (status ≠ 1 ∨ size ≠ 32))
  | free _ => isFalse id

/-- What its context has been fed afterwards; `none` when its digest is not defined, before it was
    initialised or after an update that failed. -/
def follow (stream : Option Bytes) : EvpCall → Option Bytes
  | init _ status => if status = 1 then some [] else none
  | update _ data status => if status = 1 then stream.map (· ++ data) else none
  | new _ | final _ _ _ | free _ => none

end EvpCall

/-- The acts of a log, which are all the rules of `Handles` look at. -/
def acts (log : EvpLog) : List (Act Pointer) := log.map EvpCall.act

/-- The contexts allocated after a log: handed out and not given back. -/
def allocated (log : EvpLog) : Finset Pointer := held (acts log)

/-- What a context has been fed after a log: the data of its updates since it was last initialised,
    as long as none failed. -/
def streamOf (log : EvpLog) (context : Pointer) : Option Bytes :=
  log.foldl (fun stream call => if call.context = some context then call.follow stream else stream)
    none

/-- The acts of a log in two pieces, so that what is known of the first part can be kept while the
    second grows. -/
@[simp] theorem acts_append (log more : EvpLog) : acts (log ++ more) = acts log ++ acts more :=
  List.map_append

/-- One more call changes the allocated contexts by what it does to its own. -/
@[simp] theorem allocated_concat (log : EvpLog) (call : EvpCall) :
    allocated (log ++ [call]) = call.act.run (allocated log) := by
  unfold allocated
  rw [acts_append]
  exact held_concat

/-- A log keeps the rules exactly when all but its last call did and that one was allowed then. -/
theorem disciplined_call {log : EvpLog} {call : EvpCall} :
    Disciplined (acts (log ++ [call])) ↔
      Disciplined (acts log) ∧ call.act.Allowed (allocated log) := by
  rw [acts_append]
  exact disciplined_concat

/-- What a context has been fed is carried on from where the first part of the log left it. -/
theorem streamOf_append (log more : EvpLog) (context : Pointer) :
    streamOf (log ++ more) context = more.foldl (fun stream call =>
      if call.context = some context then call.follow stream else stream) (streamOf log context) :=
  List.foldl_append

/-- A call about the context. -/
theorem streamOf_concat {log : EvpLog} {call : EvpCall} {context : Pointer}
    (h : call.context = some context) :
    streamOf (log ++ [call]) context = call.follow (streamOf log context) := by
  rw [streamOf_append]
  exact if_pos h

/-- **Frame.**  Calls about other contexts do not change what a context has been fed. -/
theorem streamOf_frame {context : Pointer} : ∀ {more : EvpLog} (log : EvpLog),
    (∀ call ∈ more, call.context ≠ some context) →
    streamOf (log ++ more) context = streamOf log context
  | [], log, _ => by rw [List.append_nil]
  | call :: more, log, h => by
      have hhead : streamOf (log ++ [call]) context = streamOf log context := by
        rw [streamOf_append]
        exact if_neg (h call List.mem_cons_self)
      have htail := streamOf_frame (log ++ [call]) fun call hcall =>
        h call (List.mem_cons_of_mem _ hcall)
      rw [List.append_assoc, List.singleton_append] at htail
      rw [htail, hhead]

/-- The first call of a log that failed; the one whose refusal a caller sees, since nothing is
    called after it but the destructor. -/
def firstFailure (log : EvpLog) : Option EvpCall := log.find? fun call => decide call.Failed

/-- No call is the first that failed exactly when none failed. -/
theorem firstFailure_eq_none_iff {log : EvpLog} :
    firstFailure log = none ↔ ∀ call ∈ log, ¬ call.Failed := by
  simp [firstFailure]

/-- Past calls that did not fail, the first failure is that of the rest. -/
theorem firstFailure_append {log : EvpLog} (h : ∀ call ∈ log, ¬ call.Failed) (more : EvpLog) :
    firstFailure (log ++ more) = firstFailure more := by
  have hnone : firstFailure log = none := firstFailure_eq_none_iff.mpr h
  unfold firstFailure at hnone ⊢
  rw [List.find?_append, hnone, Option.none_or]

/-- A failure in front is the first one, whatever failed after it. -/
theorem firstFailure_cons {call : EvpCall} (h : call.Failed) (more : EvpLog) :
    firstFailure (call :: more) = some call :=
  List.find?_cons_of_pos (decide_eq_true h)

/-! ## The provider -/

/-- What `EVP_DigestFinal_ex` leaves: its status, the buffer of `EVP_MAX_MD_SIZE` bytes and the
    size it claims to have written. -/
structure DigestAnswer where
  status : Int
  bytes : Vector UInt8 64
  size : UInt32

/-- OpenSSL, answering from the log of the calls so far.  Four functions answer (what
    `EVP_MD_CTX_free` does is in the log), and two laws say what is promised to a client that kept
    the rules. -/
structure OpenSsl where
  sha256 : Sha256
  mdCtxNew : EvpLog → Option Pointer
  digestInit : EvpLog → Pointer → Int
  digestUpdate : EvpLog → Option Pointer → Bytes → Int
  digestFinal : EvpLog → Pointer → DigestAnswer
  fresh : ∀ log context, Disciplined (acts log) → mdCtxNew log = some context →
    context ∉ allocated log
  digests : ∀ log context stream, Disciplined (acts log) → streamOf log context = some stream →
    (digestFinal log context).status = 1 → (digestFinal log context).size = 32 ∧
      (digestFinal log context).bytes.toList.take 32 = (sha256 stream).toList

/-- A context above all that the log mentions, allocated or not. -/
def freshPointer (log : EvpLog) : Pointer :=
  Nat.succ (log.foldr (fun call bound => Nat.max (call.context.getD 0) bound) 0)

/-- Every context a call of the log is about is below the bound, by induction on the log. -/
theorem lt_freshPointer {call : EvpCall} {context : Pointer}
    (hcontext : call.context = some context) :
    ∀ {log : EvpLog}, call ∈ log → context < freshPointer log
  | other :: log, hcall => by
      show context < Nat.succ (Nat.max (other.context.getD 0) (log.foldr _ 0))
      rcases List.mem_cons.mp hcall with rfl | hcall
      · rw [hcontext]
        exact Nat.lt_succ_of_le (Nat.le_max_left _ _)
      · have hlt := lt_freshPointer hcontext hcall
        exact Nat.lt_of_lt_of_le hlt (Nat.succ_le_succ (Nat.le_max_right _ _))

/-- So it is not allocated: an allocated context was handed out by some call. -/
theorem freshPointer_notMem (log : EvpLog) : freshPointer log ∉ allocated log := by
  intro h
  obtain ⟨call, hcall, hact⟩ := List.mem_map.mp (acquire_mem_of_held h)
  have hcontext : call.context = some (freshPointer log) := by
    -- only a successful `EVP_MD_CTX_new` acquires
    unfold EvpCall.act at hact
    split at hact <;> cases hact
    rfl
  exact Nat.lt_irrefl _ (lt_freshPointer hcontext hcall)

/-- A digest in a buffer of `EVP_MAX_MD_SIZE` bytes. -/
def padded (digest : Digest) : Vector UInt8 64 :=
  (digest ++ (Vector.replicate 32 0 : Vector UInt8 32) : Vector UInt8 (32 + 32))

/-- Of the buffer the 32 bytes of the digest are read, and the filling never is. -/
theorem take_padded (digest : Digest) : (padded digest).toList.take 32 = digest.toList := by
  have hlength : digest.toList.length = 32 := Vector.length_toList
  unfold padded
  rw [Vector.toList_append, List.take_append_of_le_length (by omega)]
  exact List.take_of_length_le (by omega)

/-- An OpenSSL whose call number `n` fails when `fails n`, and does what it is asked for
    otherwise. -/
def OpenSsl.scripted (sha256 : Sha256) (fails : Nat → Bool) : OpenSsl where
  sha256 := sha256
  mdCtxNew log := if fails log.length then none else some (freshPointer log)
  digestInit log _ := if fails log.length then 0 else 1
  digestUpdate log _ _ := if fails log.length then 0 else 1
  digestFinal log context :=
    ⟨if fails log.length then 0 else 1,
      padded (sha256 ((streamOf log context).getD [])), 32⟩
  fresh log context _ h := by
    split at h
    · cases h
    · exact Option.some.inj h ▸ freshPointer_notMem log
  digests log context stream _ hstream _ := by
    refine ⟨rfl, ?_⟩
    show (padded (sha256 ((streamOf log context).getD []))).toList.take 32 = _
    rw [hstream]
    exact take_padded (sha256 stream)

end Pkgbuild

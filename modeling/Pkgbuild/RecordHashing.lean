/-
  The `…_id` functions on a failing OpenSSL.

  Every identity the library computes comes out of a function of one shape: a local
  `identity_writer`, the fields of a record, and `return type::from_sha256(writer.finish())`, with
  the writer destroyed on every way out (`identify`).  The other files take such a function to be a
  digest of a stream.  Here it is run on OpenSSL, any call of which may fail:

  * if no call fails, it returns the identity the other files say it returns;
  * else it throws `identity_failed` with the text of the FIRST call that failed, and makes no
    further call but to give its context back;
  * on both ways out the rules were kept, and exactly the contexts allocated before are allocated.

  `Left` says all three.  The proof follows the scope: the constructor's two cases, the loop rule
  for the fields, the two cases of `finish`, and the destructor on both ways out.
-/
import Pkgbuild.Records
import Pkgbuild.WriterObject

namespace Pkgbuild

open Checked Commands Handles IdentityWriterObject RecordCode

/-- The body of an `…_id` function. -/
def identifyBody (ssl : OpenSsl) (d : Domain) (fields : List Field) : Method (Identity d) := do
  fields.forM (write ssl)
  let hex ← finish ssl
  liftM (Identity.fromSha256 d hex)

/-- An `…_id` function: the writer lives for the body. -/
def identify (ssl : OpenSsl) (d : Domain) (fields : List Field) :
    Command EvpLog Error (Identity d) :=
  within (construct ssl) (identifyBody ssl d fields) destroy

/-- The function is left with what was allocated before: with a value in `Q` if no call failed, with
    the error of the first one that did otherwise. -/
def Left {α : Type} (log : EvpLog) (Q : α → Prop) (result : Except Error α) (log' : EvpLog) :
    Prop :=
  ∃ calls, log' = log ++ calls ∧ Disciplined (acts log') ∧ allocated log' = allocated log ∧
    match firstFailure calls with
    | none => ∃ value, result = .ok value ∧ Q value
    | some call => result = .error call.refusal

section Scope

variable {ssl : OpenSsl} {log log₁ : EvpLog} {context : Pointer} {calls more : EvpLog} {d : Domain}

/-- Giving back a new context leaves what was allocated before. -/
theorem free_cases (hlog : Disciplined (acts log₁)) (hnew : context ∉ allocated log)
    (hallocated : allocated log₁ = insert context (allocated log)) :
    Disciplined (acts (log₁ ++ [.free context])) ∧
      allocated (log₁ ++ [.free context]) = allocated log := by
  constructor
  · refine disciplined_call.mpr ⟨hlog, ?_⟩
    rw [hallocated]
    exact Finset.mem_insert_self _ _
  · rw [allocated_concat, hallocated]
    exact Finset.erase_insert hnew

namespace IdentityWriterObject

/-- Updates of the new context keep what construction established. -/
theorem Built.updates (h : Built log context calls)
    (hmore : ∀ call ∈ more, IsUpdate context call) :
    Disciplined (acts (log ++ calls ++ more)) ∧
      allocated (log ++ calls ++ more) = insert context (allocated log) := by
  have hheld : context ∈ allocated (log ++ calls) := by
    rw [h.allocated_eq]
    exact Finset.mem_insert_self _ _
  obtain ⟨hlog, hallocated⟩ := disciplined_updates h.disciplined hheld hmore
  exact ⟨hlog, hallocated.trans h.allocated_eq⟩

/-- **A stopped write** leaves the function with its error. -/
theorem Built.left_stopped {α : Type} {Q : α → Prop} (h : Built log context calls)
    (hstopped : Stopped context (log ++ calls) log₁) :
    Left log Q (.error updateFailed) (destroy ⟨some context⟩ log₁) := by
  obtain ⟨updates, last, rfl, hupdates, hlast, hfailed⟩ := hstopped
  have hmore : ∀ call ∈ updates ++ [last], IsUpdate context call := by
    intro call hcall
    rcases List.mem_append.mp hcall with hcall | hcall
    · exact (hupdates call hcall).1
    · exact List.mem_singleton.mp hcall ▸ hlast
  obtain ⟨hlog, hallocated⟩ := h.updates hmore
  obtain ⟨hdisciplined, hback⟩ := free_cases hlog h.fresh hallocated
  refine ⟨calls ++ updates ++ last :: [.free context], ?_, hdisciplined, hback, ?_⟩
  · show log ++ calls ++ (updates ++ [last]) ++ [.free context] = _
    simp
  · have hgood : ∀ call ∈ calls ++ updates, ¬ call.Failed := by
      intro call hcall
      rcases List.mem_append.mp hcall with hcall | hcall
      · exact h.succeeded call hcall
      · exact (hupdates call hcall).2
    rw [firstFailure_append hgood, firstFailure_cons hfailed]
    exact congrArg Except.error hlast.refusal_eq.symm

/-- **A record that was written** is left by the digest, or by its failure. -/
theorem Built.left_fed (h : Built log context calls) {bytes : Bytes}
    (hfed : Fed context (log ++ calls) bytes log₁) :
    Triple (· = (log₁, (⟨some context⟩ : IdentityWriterObject)))
      (do let hex ← finish ssl
          liftM (Identity.fromSha256 d hex))
      (fun identity state => Left log (· = Identity.ofDigest d (ssl.sha256 bytes)) (.ok identity)
        (destroy state.2 state.1))
      fun error state => Left log (· = Identity.ofDigest d (ssl.sha256 bytes)) (.error error)
        (destroy state.2 state.1) := by
  obtain ⟨updates, rfl, hupdates, hstream⟩ := hfed
  obtain ⟨hlog, hallocated⟩ := h.updates fun call hcall => (hupdates call hcall).1
  have hheld : context ∈ allocated (log ++ calls ++ updates) := by
    rw [hallocated]
    exact Finset.mem_insert_self _ _
  have hgood : ∀ call ∈ calls ++ updates, ¬ call.Failed := by
    intro call hcall
    rcases List.mem_append.mp hcall with hcall | hcall
    · exact h.succeeded call hcall
    · exact (hupdates call hcall).2
  rintro _ rfl
  rw [exec_bind]
  rcases finish_cases ssl hlog hheld with ⟨hex, last, hrun, hdigested⟩ | ⟨call, hrun, hundigested⟩
  · -- the digest: of the domain text and everything the fields added
    have hhex : hex = (IdentityWriter.mk bytes).finish ssl.sha256 := by
      refine hdigested.hex_eq bytes ?_
      rw [hstream, h.stream]
      rfl
    rw [hrun]
    simp only [exec_lift, hhex, Identity.fromSha256_finish]
    refine ⟨calls ++ updates ++ last, ?_, hdigested.disciplined, ?_, ?_⟩
    · show log ++ calls ++ updates ++ last = _
      simp
    · show allocated (log ++ calls ++ updates ++ last) = _
      rw [hdigested.allocated_eq, hallocated]
      exact Finset.erase_insert h.fresh
    · rw [firstFailure_append hgood, firstFailure_eq_none_iff.mpr hdigested.succeeded]
      exact ⟨_, rfl, rfl⟩
  · have hall : allocated (log ++ calls ++ updates ++ [call]) = insert context (allocated log) :=
      hundigested.allocated_eq.trans hallocated
    -- a call failed: the writer still has its context, and the destructor frees it
    obtain ⟨hdisciplined, hback⟩ := free_cases hundigested.disciplined h.fresh hall
    rw [hrun]
    refine ⟨calls ++ updates ++ call :: [.free context], ?_, hdisciplined, hback, ?_⟩
    · show log ++ calls ++ updates ++ [call] ++ [.free context] = _
      simp
    · rw [firstFailure_append hgood, firstFailure_cons hundigested.failed]
      exact congrArg Except.error hundigested.refusal_eq.symm

end IdentityWriterObject

end Scope

/-- **An `…_id` function**, whatever OpenSSL does. -/
theorem triple_identify {ssl : OpenSsl} {log : EvpLog} (hlog : Disciplined (acts log)) (d : Domain)
    (fields : List Field) :
    Triple (· = log) (identify ssl d fields)
      (fun identity log' => Left log
        (· = Identity.ofDigest d (ssl.sha256 (fieldCode.emitAll fields))) (.ok identity) log')
      fun error log' => Left log
        (· = Identity.ofDigest d (ssl.sha256 (fieldCode.emitAll fields))) (.error error) log' := by
  unfold identify
  refine Triple.within (I := fun state => ∃ context calls, Built log context calls ∧
    state = (log ++ calls, (⟨some context⟩ : IdentityWriterObject))) ?_ ?_
  · rintro _ rfl
    rcases construct_cases ssl hlog with ⟨context, calls, hrun, hbuilt⟩ | ⟨calls, hrun, hunbuilt⟩
    · rw [hrun]
      exact ⟨context, calls, hbuilt, rfl⟩
    · rw [hrun]
      -- no writer came about, and the constructor gave back what it had
      obtain ⟨call, hcall, hrefusal⟩ := hunbuilt.failed
      refine ⟨calls, rfl, hunbuilt.disciplined, hunbuilt.allocated_eq, ?_⟩
      rw [hcall]
      exact congrArg Except.error hrefusal.symm
  · refine triple_exists fun context => triple_exists fun calls => triple_of_fact fun hbuilt => ?_
    have hwrite := @triple_writeAll ssl context (log ++ calls) fields
    refine (hwrite.weaken ?_ (fun _ _ hfed => hfed) ?_).bind fun _ => ?_
    · rintro _ rfl
      exact feeding_start
    · rintro error ⟨log₁, object⟩ ⟨hobject, rfl, hstopped⟩
      obtain rfl : object = ⟨some context⟩ := hobject
      exact hbuilt.left_stopped hstopped
    · rintro ⟨log₁, object⟩ ⟨hobject, hfed⟩
      obtain rfl : object = ⟨some context⟩ := hobject
      exact hbuilt.left_fed hfed _ rfl

/-! ## The records -/

namespace Record

variable {P : Platform}

/-- The identity class of the record. -/
def idDomain : Record P → Domain
  | buildInput .. => .buildInput
  | buildInputSet .. => .buildInputSet
  | buildPolicy .. => .buildPolicy
  | buildRequest .. => .buildRequest
  | environmentPolicy .. => .environmentPolicy
  | payloadManifest .. => .payloadManifest
  | artifact .. => .artifact
  | artifactBinding .. => .artifactBinding
  | succeeded .. | failed .. => .buildResult

end Record

/-- **Hashing a record.**  Whatever OpenSSL does and whoever else uses it, the `…_id` function of a
    record keeps its rules and leaves exactly the contexts allocated that were.  It returns the
    identity that the record's stream has if none of its calls fails, and throws `identity_failed`
    with the text of the first call that fails otherwise. -/
theorem record_identify (P : Platform) (ssl : OpenSsl) (hssl : ssl.sha256 = P.sha256)
    (record : Record P) (log : EvpLog) (hlog : Disciplined (acts log)) :
    ∃ calls, (exec (identify ssl record.idDomain record.fields) log).2 = log ++ calls ∧
      Disciplined (acts (log ++ calls)) ∧ allocated (log ++ calls) = allocated log ∧
      match firstFailure calls with
      | none => (exec (identify ssl record.idDomain record.fields) log).1
          = Identity.fromSha256 record.idDomain (record.writer.finish P.sha256)
      | some call => (exec (identify ssl record.idDomain record.fields) log).1
          = .error call.refusal ∧ call.refusal.code = .identityFailed := by
  have htriple := @triple_identify ssl log hlog record.idDomain record.fields
  rw [← record.stream_eq, hssl] at htriple
  rcases hrun : exec (identify ssl record.idDomain record.fields) log with ⟨result, log'⟩
  have hleft : Left log (· = Identity.ofDigest record.idDomain (P.sha256 record.stream)) result
      log' := by
    cases result with
    | ok identity => exact htriple.ok rfl hrun
    | error error => exact htriple.error rfl hrun
  obtain ⟨calls, rfl, hdisciplined, hallocated, hresult⟩ := hleft
  refine ⟨calls, rfl, hdisciplined, hallocated, ?_⟩
  cases hfirst : firstFailure calls with
  | none =>
    rw [hfirst] at hresult
    obtain ⟨identity, rfl, rfl⟩ := hresult
    exact (Identity.fromSha256_finish _ _ _).symm
  | some call =>
    rw [hfirst] at hresult
    refine ⟨hresult, ?_⟩
    cases call <;> rfl

/-- The record of an environment policy, hashed while a context of somebody else is allocated, by an
    OpenSSL whose fourth call fails. -/
theorem record_identify_update_fails :
    ∃ calls, (exec (identify (.scripted (fun _ => Vector.replicate 32 0) (· == 3))
        .environmentPolicy (environmentFields 4 0o22 none)) [.new (some 7)]).2
        = [.new (some 7)] ++ calls ∧
      Disciplined (acts ([.new (some 7)] ++ calls)) ∧
      allocated ([.new (some 7)] ++ calls) = allocated [.new (some 7)] ∧
      match firstFailure calls with
      | none => (exec (identify (.scripted (fun _ => Vector.replicate 32 0) (· == 3))
          .environmentPolicy (environmentFields 4 0o22 none)) [.new (some 7)]).1
          = Identity.fromSha256 .environmentPolicy
              ((environmentRecord 4 0o22 none).finish fun _ => Vector.replicate 32 0)
      | some call => (exec (identify (.scripted (fun _ => Vector.replicate 32 0) (· == 3))
          .environmentPolicy (environmentFields 4 0o22 none)) [.new (some 7)]).1
          = .error call.refusal ∧ call.refusal.code = .identityFailed := by
  have hlog : Disciplined (acts [.new (some 7)]) := by
    have hcall := @disciplined_call [] (.new (some 7))
    exact hcall.mpr ⟨disciplined_nil, Finset.notMem_empty 7⟩
  exact record_identify (.insertion fun _ => Vector.replicate 32 0)
    (.scripted (fun _ => Vector.replicate 32 0) (· == 3)) rfl (.environmentPolicy 4 0o22 none)
    [.new (some 7)] hlog

end Pkgbuild

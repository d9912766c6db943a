/-
  `identity_writer` as the C++ object it is (`identity_support.cpp`).

  `IdentityWriter` (in `Identity`) is what the class is FOR: a byte stream that is hashed at the
  end.  This file is the class itself: one member, a pointer to an OpenSSL context, null once the
  digest was taken; every method a sequence of OpenSSL calls any of which may fail, and an exception
  leaves the object and OpenSSL as they are at that moment.

  1. **The methods** — constructor, destructor, `update`, `number`, `text`, `boolean`, `finish`;
  2. **What feeding does** — `Fed`, `Stopped`: a write appends updates of its own context to the
     log, and either all of them succeed and the context has been fed the field, or the last one
     fails and the write throws;
  3. **What finishing does** — `exec_finish_some`, `exec_finish_none`;
  4. **What is never undone** — a log in which a rule was broken stays one, and a write without a
     context breaks a rule (`triple_write_null`).
-/
import Pkgbuild.Base.Commands
import Pkgbuild.FieldStream
import Pkgbuild.OpenSsl

namespace Pkgbuild

open Checked Commands Handles

/-! ## The class -/

/-- An `identity_writer`: its one member. -/
structure IdentityWriterObject where
  context : Option Pointer
deriving DecidableEq

/-- A method runs on OpenSSL and on its object. -/
abbrev Method := Command (EvpLog × IdentityWriterObject) Error

/-- The errors of the class have one code, `identity_failed`, and four texts. -/
def identityFailed (message : Bytes) : Error := ⟨.identityFailed, message⟩

/-- Thrown by the constructor, for either of its two calls. -/
def initializationFailed : Error := identityFailed (ascii "SHA-256 initialization failed")
/-- Thrown by every write, from whichever of its updates. -/
def updateFailed : Error := identityFailed (ascii "SHA-256 update failed")
/-- Thrown by `finish` for a failed call and for a digest of the wrong size. -/
def finalizationFailed : Error := identityFailed (ascii "SHA-256 finalization failed")
/-- Thrown by a second `finish`, without a call on OpenSSL. -/
def alreadyFinalized : Error := identityFailed (ascii "SHA-256 identity already finalized")

/-- The error thrown where a call failed.  `EVP_MD_CTX_free` cannot fail, and stands with the
    updates only to have a value. -/
def EvpCall.refusal : EvpCall → Error
  | .new _ | .init _ _ => initializationFailed
  | .update _ _ _ | .free _ => updateFailed
  | .final _ _ _ => finalizationFailed

namespace IdentityWriterObject

variable (ssl : OpenSsl)

/-- `identity_writer::identity_writer`. -/
def construct : Command EvpLog Error IdentityWriterObject := do
  let log ← get
  match ssl.mdCtxNew log with
  | none => do
      set (log ++ [EvpCall.new none])
      throw initializationFailed
  | some context => do
      let log := log ++ [EvpCall.new (some context)]
      let status := ssl.digestInit log context
      let log := log ++ [EvpCall.init context status]
      if status ≠ 1 then do
        set (log ++ [EvpCall.free context])
        throw initializationFailed
      else do
        set log
        return ⟨some context⟩

/-- `identity_writer::~identity_writer`: a writer that was finished, or whose construction threw,
    has no context left to free. -/
def destroy (writer : IdentityWriterObject) (log : EvpLog) : EvpLog :=
  match writer.context with
  | some context => log ++ [.free context]
  | none => log

/-- `update`. -/
def update (data : Bytes) : Method Unit := do
  let (log, writer) ← get
  let status := ssl.digestUpdate log writer.context data
  set (log ++ [EvpCall.update writer.context data status], writer)
  liftM (refuse (status ≠ 1) updateFailed)

/-- `identity_writer::number`. -/
def number (value : UInt64) : Method Unit := update ssl (bigEndian value)

/-- `identity_writer::text`. -/
def text (value : Text) : Method Unit := do
  number ssl value.size
  update ssl value.bytes

/-- `identity_writer::boolean`. -/
def boolean (value : Bool) : Method Unit := number ssl (if value then 1 else 0)

/-- The rendering loop of `finish`, over as many bytes as OpenSSL says it wrote. -/
def render (answer : DigestAnswer) : Bytes :=
  (answer.bytes.toList.take answer.size.toNat).flatMap renderByte

/-- `identity_writer::finish`.  The context is freed only after a digest was taken: a `finish` that
    threw can be tried again. -/
def finish : Method Bytes := do
  let (log, writer) ← get
  match writer.context with
  | none => throw alreadyFinalized
  | some context => do
      let answer := ssl.digestFinal log context
      let log := log ++ [EvpCall.final context answer.status answer.size]
      set (log, writer)
      liftM (refuse (answer.status ≠ 1 ∨ answer.size ≠ 32) finalizationFailed)
      set (log ++ [EvpCall.free context], IdentityWriterObject.mk none)
      return render answer

/-- The call a field stands for; the `…_id` functions are sequences of these. -/
def write : Field → Method Unit
  | .text value => text ssl value
  | .number value => number ssl value
  | .boolean value => boolean ssl value

/-! ## What construction does -/

section Constructing

variable {ssl : OpenSsl} {context : Pointer} {log : EvpLog}

/-- Without a context nothing is initialised and nothing is given back. -/
theorem exec_construct_null (h : ssl.mdCtxNew log = none) :
    exec (construct ssl) log = (.error initializationFailed, log ++ [.new none]) := by
  unfold construct
  rw [exec_bind, exec_get]
  simp only [h]
  rfl

/-- A context that cannot be initialised is given back at once, and the member is null when the
    constructor throws; so no destructor runs for it. -/
theorem exec_construct_some {status : Int} (h : ssl.mdCtxNew log = some context)
    (hstatus : ssl.digestInit (log ++ [.new (some context)]) context = status) :
    exec (construct ssl) log =
      if status ≠ 1 then
        (.error initializationFailed,
          log ++ [.new (some context)] ++ [.init context status] ++ [.free context])
      else (.ok ⟨some context⟩, log ++ [.new (some context)] ++ [.init context status]) := by
  unfold construct
  rw [exec_bind, exec_get]
  simp only [h, hstatus]
  by_cases hinit : status ≠ 1
  · rw [if_pos hinit, if_pos hinit]
    rfl
  · rw [if_neg hinit, if_neg hinit]
    rfl

/-- After `calls`, the writer has a context of its own. -/
structure Built (log : EvpLog) (context : Pointer) (calls : EvpLog) : Prop where
  disciplined : Disciplined (acts (log ++ calls))
  fresh : context ∉ allocated log
  allocated_eq : allocated (log ++ calls) = insert context (allocated log)
  own : ∀ call ∈ calls, call.context = some context
  succeeded : ∀ call ∈ calls, ¬ call.Failed
  stream : streamOf (log ++ calls) context = some []

/-- After `calls`, of which one failed, nothing is left of the attempt. -/
structure Unbuilt (log calls : EvpLog) : Prop where
  disciplined : Disciplined (acts (log ++ calls))
  allocated_eq : allocated (log ++ calls) = allocated log
  foreign : ∀ call ∈ calls, ∀ context ∈ call.context, context ∉ allocated log
  failed : ∃ call, firstFailure calls = some call ∧ call.refusal = initializationFailed

/-- **Construction**, whichever of its two calls fails: a writer with a fresh context that nothing
    was fed to, or no writer and nothing left allocated. -/
theorem construct_cases (ssl : OpenSsl) (hlog : Disciplined (acts log)) :
    (∃ context calls, exec (construct ssl) log = (.ok ⟨some context⟩, log ++ calls) ∧
      Built log context calls) ∨
    ∃ calls, exec (construct ssl) log = (.error initializationFailed, log ++ calls) ∧
      Unbuilt log calls := by
  rcases hnew : ssl.mdCtxNew log with _ | context
  · refine Or.inr ⟨[.new none], exec_construct_null hnew, ?_, allocated_concat _ _, ?_, ?_⟩
    · exact disciplined_call.mpr ⟨hlog, trivial⟩
    · intro call hcall context hcontext
      obtain rfl := List.mem_singleton.mp hcall
      cases hcontext
    · exact ⟨_, @firstFailure_cons (.new none) rfl [], rfl⟩
  · have hfree := ssl.fresh log context hlog hnew
    generalize hstatus : ssl.digestInit (log ++ [.new (some context)]) context = status
    have hnewcall : ¬ (EvpCall.new (some context)).Failed := nofun
    have hbuilt : allocated (log ++ [.new (some context)]) = insert context (allocated log) :=
      allocated_concat _ _
    have hinit : Disciplined (acts (log ++ [.new (some context)] ++ [.init context status])) := by
      refine disciplined_call.mpr ⟨disciplined_call.mpr ⟨hlog, hfree⟩, ?_⟩
      rw [hbuilt]
      exact Finset.mem_insert_self _ _
    have hallocated : allocated (log ++ [.new (some context)] ++ [.init context status])
        = insert context (allocated log) := (allocated_concat _ _).trans hbuilt
    have hrun := exec_construct_some hnew hstatus
    by_cases hfailed : status ≠ 1
    · -- the initialisation failed: three calls, the last of which undoes the first
      rw [if_pos hfailed, List.append_assoc, List.append_assoc] at hrun
      refine Or.inr ⟨_, hrun, ?_, ?_, ?_, ?_⟩
      · rw [← List.append_assoc, ← List.append_assoc]
        refine disciplined_call.mpr ⟨hinit, ?_⟩
        rw [hallocated]
        exact Finset.mem_insert_self _ _
      · rw [← List.append_assoc, ← List.append_assoc, allocated_concat, hallocated]
        exact Finset.erase_insert hfree
      · intro call hcall own hown
        simp only [List.singleton_append, List.mem_cons, List.not_mem_nil, or_false] at hcall
        rcases hcall with rfl | rfl | rfl <;> exact Option.some.inj hown ▸ hfree
      · refine ⟨.init context status, ?_, rfl⟩
        rw [firstFailure_append (by simpa using hnewcall)]
        exact @firstFailure_cons (.init context status) hfailed _
    · -- both calls went through, and the context is the writer's
      rw [if_neg hfailed, List.append_assoc] at hrun
      refine Or.inl ⟨context, _, hrun, ?_, hfree, ?_, ?_, ?_, ?_⟩
      · rw [← List.append_assoc]
        exact hinit
      · rw [← List.append_assoc]
        exact hallocated
      · intro call hcall
        simp only [List.singleton_append, List.mem_cons, List.not_mem_nil, or_false] at hcall
        rcases hcall with rfl | rfl <;> rfl
      · intro call hcall
        simp only [List.singleton_append, List.mem_cons, List.not_mem_nil, or_false] at hcall
        rcases hcall with rfl | rfl
        · exact hnewcall
        · exact hfailed
      · rw [← List.append_assoc, streamOf_concat rfl]
        exact if_pos (not_not.mp hfailed)

end Constructing

/-! ## What feeding does -/

/-- A call of a write to the context. -/
def IsUpdate (context : Pointer) (call : EvpCall) : Prop :=
  ∃ data status, call = .update (some context) data status

/-- `log'` continues `log` by successful updates that fed the context `bytes`. -/
def Fed (context : Pointer) (log : EvpLog) (bytes : Bytes) (log' : EvpLog) : Prop :=
  ∃ calls, log' = log ++ calls ∧ (∀ call ∈ calls, IsUpdate context call ∧ ¬ call.Failed) ∧
    streamOf log' context = (streamOf log context).map (· ++ bytes)

/-- `log'` continues `log` by updates of the context, of which the last one alone failed. -/
def Stopped (context : Pointer) (log log' : EvpLog) : Prop :=
  ∃ calls last, log' = log ++ (calls ++ [last]) ∧
    (∀ call ∈ calls, IsUpdate context call ∧ ¬ call.Failed) ∧ IsUpdate context last ∧ last.Failed

section Feeding

variable {ssl : OpenSsl} {context : Pointer} {log log₁ log₂ : EvpLog} {bytes more : Bytes}

/-- An update is about its context. -/
theorem IsUpdate.context_eq {call : EvpCall} (h : IsUpdate context call) :
    call.context = some context := by
  obtain ⟨data, status, rfl⟩ := h
  rfl

/-- Where an update fails, `update` throws this. -/
theorem IsUpdate.refusal_eq {call : EvpCall} (h : IsUpdate context call) :
    call.refusal = updateFailed := by
  obtain ⟨data, status, rfl⟩ := h
  rfl

/-- Updates of an allocated context keep the rules and allocate nothing. -/
theorem disciplined_updates (hlog : Disciplined (acts log)) (hcontext : context ∈ allocated log)
    {more : EvpLog} (hmore : ∀ call ∈ more, IsUpdate context call) :
    Disciplined (acts (log ++ more)) ∧ allocated (log ++ more) = allocated log := by
  unfold allocated
  rw [acts_append]
  refine hlog.touches hcontext fun act hact => ?_
  obtain ⟨call, hcall, rfl⟩ := List.mem_map.mp hact
  obtain ⟨data, status, rfl⟩ := hmore call hcall
  rfl

theorem fed_refl : Fed context log [] log := by
  refine ⟨[], (List.append_nil log).symm, by simp, ?_⟩
  cases streamOf log context <;> simp

/-- What is fed twice is fed one after the other. -/
theorem Fed.trans (h : Fed context log bytes log₁) (h' : Fed context log₁ more log₂) :
    Fed context log (bytes ++ more) log₂ := by
  obtain ⟨calls, rfl, hcalls, hstream⟩ := h
  obtain ⟨calls', rfl, hcalls', hstream'⟩ := h'
  refine ⟨calls ++ calls', List.append_assoc _ _ _, ?_, ?_⟩
  · intro call hcall
    rcases List.mem_append.mp hcall with hcall | hcall
    · exact hcalls call hcall
    · exact hcalls' call hcall
  · rw [hstream', hstream]
    cases streamOf log context <;> simp

/-- A write that is stopped after others were not is stopped all the same: only the last call
    failed. -/
theorem Fed.stopped (h : Fed context log bytes log₁) (h' : Stopped context log₁ log₂) :
    Stopped context log log₂ := by
  obtain ⟨calls, rfl, hcalls, -⟩ := h
  obtain ⟨calls', last, rfl, hcalls', hlast⟩ := h'
  refine ⟨calls ++ calls', last, by simp, ?_, hlast⟩
  intro call hcall
  rcases List.mem_append.mp hcall with hcall | hcall
  · exact hcalls call hcall
  · exact hcalls' call hcall

/-- The object keeps its context, which has been fed `bytes` since `log`. -/
def Feeding (context : Pointer) (log : EvpLog) (bytes : Bytes)
    (state : EvpLog × IdentityWriterObject) : Prop :=
  state.2 = ⟨some context⟩ ∧ Fed context log bytes state.1

/-- The object keeps its context, and a write to it was stopped. -/
def Halted (context : Pointer) (log : EvpLog) (error : Error)
    (state : EvpLog × IdentityWriterObject) : Prop :=
  state.2 = ⟨some context⟩ ∧ error = updateFailed ∧ Stopped context log state.1

/-- Before the first write the log is the one it starts from. -/
theorem feeding_start : Feeding context log [] (log, ⟨some context⟩) := ⟨rfl, fed_refl⟩

/-- One call of `update`: the call is logged with its status, and a status other than 1 throws.  The
    object is the same afterwards. -/
theorem exec_update (data : Bytes) (log : EvpLog) (writer : IdentityWriterObject) :
    exec (update ssl data) (log, writer)
      = (refuse (ssl.digestUpdate log writer.context data ≠ 1) updateFailed,
          (log ++ [.update writer.context data (ssl.digestUpdate log writer.context data)],
            writer)) := rfl

/-- **One update.**  It extends the log by one call, about this context, and throws exactly if the
    call fails. -/
theorem triple_update (data : Bytes) :
    Triple (Feeding context log bytes) (update ssl data)
      (fun _ => Feeding context log (bytes ++ data)) (Halted context log) := by
  rintro ⟨log₁, writer⟩ ⟨hwriter, hfed⟩
  obtain rfl : writer = ⟨some context⟩ := hwriter
  rw [exec_update]
  by_cases hstatus : ssl.digestUpdate log₁ (some context) data = 1
  · have hok : refuse (ssl.digestUpdate log₁ (some context) data ≠ 1) updateFailed = .ok () :=
      refuse_ok_iff.mpr (not_not.mpr hstatus)
    simp only [hok]
    refine ⟨rfl, hfed.trans ⟨_, rfl, ?_, ?_⟩⟩
    · intro call hcall
      obtain rfl := List.mem_singleton.mp hcall
      exact ⟨⟨_, _, rfl⟩, not_not.mpr hstatus⟩
    · exact (streamOf_concat rfl).trans (if_pos hstatus)
  · have herror : refuse (ssl.digestUpdate log₁ (some context) data ≠ 1) updateFailed
        = .error updateFailed := refuse_error_iff.mpr ⟨hstatus, rfl⟩
    simp only [herror]
    exact ⟨rfl, rfl, hfed.stopped ⟨[], _, rfl, by simp, ⟨_, _, rfl⟩, hstatus⟩⟩

/-- **One write.**  All of the field reaches the context, or the write throws. -/
theorem triple_write (field : Field) :
    Triple (Feeding context log bytes) (write ssl field)
      (fun _ => Feeding context log (bytes ++ field.emit)) (Halted context log) := by
  cases field with
  -- a text is two updates, of its length and of its bytes
  | text value =>
    rw [Field.emit_text, ← List.append_assoc]
    exact (triple_update (bigEndian value.size)).bind fun _ => triple_update value.bytes
  | number value => exact triple_update (bigEndian value)
  | boolean value => exact triple_update (bigEndian (if value then 1 else 0))

/-- **A record.**  Field after field, by the loop rule. -/
theorem triple_writeAll (fields : List Field) :
    Triple (Feeding context log []) (fields.forM (write ssl))
      (fun _ => Feeding context log (fieldCode.emitAll fields)) (Halted context log) := by
  have hloop := Triple.forM (I := fun done => Feeding context log (fieldCode.emitAll done))
    (f := write ssl) (E := Halted context log) (fun done field => ?_) fields []
  · exact hloop
  · have hconcat : fieldCode.emitAll (done ++ [field]) = fieldCode.emitAll done ++ field.emit := by
      rw [RecordCode.emitAll_append, RecordCode.emitAll_cons, RecordCode.emitAll_nil,
        List.append_nil]
      rfl
    rw [hconcat]
    exact triple_write field

end Feeding

/-! ## What finishing does -/

section Finishing

variable {ssl : OpenSsl} {context : Pointer} {log : EvpLog}

/-- A second `finish` touches nothing. -/
theorem exec_finish_none (log : EvpLog) :
    exec (finish ssl) (log, ⟨none⟩) = (.error alreadyFinalized, (log, ⟨none⟩)) := rfl

/-- The first one takes the digest and gives the context back, or throws and keeps it. -/
theorem exec_finish_some {answer : DigestAnswer} (hanswer : ssl.digestFinal log context = answer) :
    exec (finish ssl) (log, ⟨some context⟩) =
      if answer.status ≠ 1 ∨ answer.size ≠ 32 then
        (.error finalizationFailed,
          (log ++ [.final context answer.status answer.size], ⟨some context⟩))
      else
        (.ok (render answer),
          (log ++ [.final context answer.status answer.size] ++ [.free context], ⟨none⟩)) := by
  unfold finish
  rw [exec_bind, exec_get]
  simp only [hanswer, exec_bind, exec_set, exec_lift, exec_pure]
  by_cases h : answer.status ≠ 1 ∨ answer.size ≠ 32
  · simp only [refuse, if_pos h]
  · simp only [refuse, if_neg h]

/-- The digest of a context that was fed without a failure is that of what it was fed. -/
theorem render_eq {stream : Bytes} (hlog : Disciplined (acts log))
    (hstream : streamOf log context = some stream)
    (hstatus : (ssl.digestFinal log context).status = 1) :
    render (ssl.digestFinal log context) = (IdentityWriter.mk stream).finish ssl.sha256 := by
  obtain ⟨hsize, hbytes⟩ := ssl.digests log context stream hlog hstream hstatus
  unfold render
  rw [hsize]
  show ((ssl.digestFinal log context).bytes.toList.take 32).flatMap renderByte = _
  rw [hbytes]
  rfl

/-- After `calls`, the context was given back.  The digest is what OpenSSL answered, and that of
    what the context was fed where this is defined. -/
structure Digested (ssl : OpenSsl) (log : EvpLog) (context : Pointer) (calls : EvpLog)
    (hex : Bytes) : Prop where
  disciplined : Disciplined (acts (log ++ calls))
  allocated_eq : allocated (log ++ calls) = (allocated log).erase context
  calls_eq : calls = [.final context 1 32, .free context]
  answer_eq : hex = render (ssl.digestFinal log context)
  hex_eq : ∀ stream, streamOf log context = some stream →
    hex = (IdentityWriter.mk stream).finish ssl.sha256

/-- The calls of a digest are about its context. -/
theorem Digested.own {calls : EvpLog} {hex : Bytes} (h : Digested ssl log context calls hex) :
    ∀ call ∈ calls, call.context = some context := by
  rw [h.calls_eq]
  intro call hcall
  simp only [List.mem_cons, List.not_mem_nil, or_false] at hcall
  rcases hcall with rfl | rfl <;> rfl

theorem Digested.succeeded {calls : EvpLog} {hex : Bytes}
    (h : Digested ssl log context calls hex) : ∀ call ∈ calls, ¬ call.Failed := by
  rw [h.calls_eq]
  intro call hcall
  simp only [List.mem_cons, List.not_mem_nil, or_false] at hcall
  rcases hcall with rfl | rfl
  · exact fun hfailed => hfailed.elim (· rfl) (· rfl)
  · exact id

/-- After `call`, which failed, the context is still there. -/
structure Undigested (log : EvpLog) (context : Pointer) (call : EvpCall) : Prop where
  disciplined : Disciplined (acts (log ++ [call]))
  allocated_eq : allocated (log ++ [call]) = allocated log
  own : call.context = some context
  failed : call.Failed
  refusal_eq : call.refusal = finalizationFailed

/-- **Finishing** a writer that has its context: the digest is taken and the context freed, or a
    call fails and the writer keeps it. -/
theorem finish_cases (ssl : OpenSsl) (hlog : Disciplined (acts log))
    (hheld : context ∈ allocated log) :
    (∃ hex calls, exec (finish ssl) (log, ⟨some context⟩) = (.ok hex, (log ++ calls, ⟨none⟩)) ∧
      Digested ssl log context calls hex) ∨
    ∃ call, exec (finish ssl) (log, ⟨some context⟩)
        = (.error finalizationFailed, (log ++ [call], ⟨some context⟩)) ∧
      Undigested log context call := by
  generalize hanswer : ssl.digestFinal log context = answer
  have hfinal : Disciplined (acts (log ++ [.final context answer.status answer.size])) :=
    disciplined_call.mpr ⟨hlog, hheld⟩
  have hallocated : allocated (log ++ [.final context answer.status answer.size])
      = allocated log := allocated_concat _ _
  have hrun := exec_finish_some hanswer
  by_cases hfailed : answer.status ≠ 1 ∨ answer.size ≠ 32
  · -- the call failed, or its digest has another size: the context stays
    rw [if_pos hfailed] at hrun
    exact Or.inr ⟨_, hrun, hfinal, hallocated, rfl, hfailed, rfl⟩
  · rw [if_neg hfailed, List.append_assoc] at hrun
    obtain ⟨hstatus, hsize⟩ := not_or.mp hfailed
    rw [not_not] at hstatus hsize
    refine Or.inl ⟨_, _, hrun, ?_, ?_, ?_, ?_, ?_⟩
    · rw [← List.append_assoc]
      exact disciplined_call.mpr ⟨hfinal, hallocated.symm ▸ hheld⟩
    · rw [← List.append_assoc, allocated_concat, hallocated]
      rfl
    · rw [hstatus, hsize]
      rfl
    · rw [hanswer]
    · intro stream hstream
      have hrender := render_eq hlog hstream (hanswer.symm ▸ hstatus)
      rwa [hanswer] at hrender

end Finishing

/-! ## What is never undone -/

/-- A rule was broken somewhere in the log. -/
def Spoiled (log : EvpLog) : Prop := ¬ Disciplined (acts log)

section Spoiling

variable {ssl : OpenSsl} {log : EvpLog}

/-- A broken rule stays broken whatever is called later. -/
theorem Spoiled.append (h : Spoiled log) (more : EvpLog) : Spoiled (log ++ more) := by
  intro hdisciplined
  rw [acts_append] at hdisciplined
  exact h hdisciplined.left

/-- Updates do not repair a log, whether they return or throw. -/
theorem triple_update_spoiled (data : Bytes) :
    Triple (fun state => Spoiled state.1) (update ssl data) (fun _ state => Spoiled state.1)
      fun _ state => Spoiled state.1 := by
  rintro ⟨log, writer⟩ h
  rw [exec_update]
  cases refuse (ssl.digestUpdate log writer.context data ≠ 1) updateFailed with
  | ok _ => exact h.append _
  | error _ => exact h.append _

/-- Nor do writes, field by field. -/
theorem triple_write_spoiled (field : Field) :
    Triple (fun state => Spoiled state.1) (write ssl field) (fun _ state => Spoiled state.1)
      fun _ state => Spoiled state.1 := by
  cases field with
  | text value =>
    exact (triple_update_spoiled (bigEndian value.size)).bind fun _ =>
      triple_update_spoiled value.bytes
  | number value => exact triple_update_spoiled (bigEndian value)
  | boolean value => exact triple_update_spoiled (bigEndian (if value then 1 else 0))

/-- Nor does `finish`, whichever way it goes. -/
theorem triple_finish_spoiled :
    Triple (fun state => Spoiled state.1) (finish ssl) (fun _ state => Spoiled state.1)
      fun _ state => Spoiled state.1 := by
  rintro ⟨log, ⟨_ | context⟩⟩ h
  · exact h
  · rw [exec_finish_some rfl]
    generalize ssl.digestFinal log context = answer
    by_cases hfailed : answer.status ≠ 1 ∨ answer.size ≠ 32
    · rw [if_pos hfailed]
      exact h.append _
    · rw [if_neg hfailed]
      exact Spoiled.append (h.append _) _

/-- Nor does the construction of another writer. -/
theorem triple_construct_spoiled :
    Triple Spoiled (construct ssl) (fun _ => Spoiled) fun _ => Spoiled := by
  intro log h
  rcases hnew : ssl.mdCtxNew log with _ | context
  · rw [exec_construct_null hnew]
    exact h.append _
  · rw [exec_construct_some hnew rfl]
    generalize ssl.digestInit (log ++ [.new (some context)]) context = status
    by_cases hfailed : status ≠ 1
    · rw [if_pos hfailed]
      exact ((h.append _).append _).append _
    · rw [if_neg hfailed]
      exact (h.append _).append _

/-- Nor does destruction. -/
theorem Spoiled.destroy (h : Spoiled log) (writer : IdentityWriterObject) :
    Spoiled (writer.destroy log) := by
  obtain ⟨_ | context⟩ := writer
  · exact h
  · exact h.append _

/-- **The misuse.**  A write without a context hands OpenSSL a null pointer. -/
theorem triple_write_null (field : Field) :
    Triple (fun state => state.2 = ⟨none⟩) (write ssl field) (fun _ state => Spoiled state.1)
      fun _ state => Spoiled state.1 := by
  have hupdate : ∀ data, Triple (fun state => state.2 = ⟨none⟩) (update ssl data)
      (fun _ state => Spoiled state.1) fun _ state => Spoiled state.1 := by
    rintro data ⟨log, writer⟩ hwriter
    obtain rfl : writer = ⟨none⟩ := hwriter
    -- the call is there whatever its status, and no rule allows it
    have hstray : ∀ status, Spoiled (log ++ [.update none data status]) := by
      intro status h
      exact (disciplined_call.mp h).2
    rw [exec_update]
    cases refuse (ssl.digestUpdate log none data ≠ 1) updateFailed with
    | ok _ => exact hstray _
    | error _ => exact hstray _
  cases field with
  | text value => exact (hupdate (bigEndian value.size)).bind fun _ =>
      triple_update_spoiled value.bytes
  | number value => exact hupdate (bigEndian value)
  | boolean value => exact hupdate (bigEndian (if value then 1 else 0))

end Spoiling

end IdentityWriterObject

end Pkgbuild

/-
  Any number of writers, in any order of calls.

  A program that uses `identity_writer` builds objects, calls their methods, catches what they throw
  and goes on, and destroys them; several objects can be alive at once and all of them share
  OpenSSL.  `WriterPool.run` is such a program; nothing is assumed about it except that a call goes
  to an object that exists.  Two questions:

  * **Is it safe?**  A call on OpenSSL must be about a context that is allocated.  The one way to
    break this is to write to a writer after its `finish` RETURNED: the context is null then, and
    `number` does not look.  A second `finish` is caught.  With that one call excluded, every run is
    safe, and every context is freed as often as it was allocated, but for those of the writers
    still alive (`writers_disciplined`).
  * **Is it what the class is for?**  `Explains` describes each writer by a `WriterView`: a stream
    that grows, or a writer some write of which failed.  Every run is one of that machine
    (`writers_explained`).  A digest is that of the writer's own stream, whatever happened to the
    others in between; only after a failed write is it whatever OpenSSL answers.  An exception is
    the refusal of the first call that failed among those of the very action that threw it, or that
    of a second `finish`, which makes no call (`Blamed`).

  The invariant behind both is `Related`: the log is disciplined, the allocated contexts are those
  of the writers, each its own, and each context has been fed what the writer's view says.
-/
import Pkgbuild.WriterObject

namespace Pkgbuild

open Checked Commands Handles IdentityWriterObject

/-! ## The program -/

/-- A step of a program that uses writers, numbered in the order of their construction. -/
inductive WriterAction where
  | construct
  | write (writer : Nat) (field : Field)
  | finish (writer : Nat)
  | destroy (writer : Nat)
deriving DecidableEq

/-- What the program sees of an action: that it returned, a digest, or the error it caught. -/
inductive Outcome where
  | done
  | digest (hex : Bytes)
  | threw (error : Error)
  /-- There is no such object. -/
  | absent
deriving DecidableEq

/-- The objects, `none` for one that is destroyed or was never built. -/
structure WriterPool where
  log : EvpLog
  writers : List (Option IdentityWriterObject)

namespace WriterPool

/-- Before any call. -/
def start : WriterPool := ⟨[], []⟩

/-- The object of a number; none before its construction, after its destruction, and where
    construction threw. -/
def object (pool : WriterPool) (writer : Nat) : Option IdentityWriterObject :=
  (pool.writers[writer]?).join

/-- Run a method on an object of the pool. -/
def call {α : Type} (pool : WriterPool) (writer : Nat) (method : Method α) (seen : α → Outcome) :
    Outcome × WriterPool :=
  match pool.object writer with
  | none => (.absent, pool)
  | some object =>
      match exec method (pool.log, object) with
      | (.ok value, (log, object)) => (seen value, ⟨log, pool.writers.set writer (some object)⟩)
      | (.error error, (log, object)) =>
          (.threw error, ⟨log, pool.writers.set writer (some object)⟩)

section Call

variable {α : Type} {pool : WriterPool} {i : Nat} {method : Method α} {seen : α → Outcome}
  {object object' : IdentityWriterObject} {log : EvpLog}

theorem call_absent (h : pool.object i = none) : pool.call i method seen = (.absent, pool) := by
  rw [call, h]

/-- A method that returned: the object is as it left it, and the program sees the value. -/
theorem call_ok (h : pool.object i = some object) {value : α}
    (hrun : exec method (pool.log, object) = (.ok value, (log, object'))) :
    pool.call i method seen = (seen value, ⟨log, pool.writers.set i (some object')⟩) := by
  simp only [call, h, hrun]

/-- A method that threw: the object is as the exception left it, and the program goes on. -/
theorem call_error (h : pool.object i = some object) {error : Error}
    (hrun : exec method (pool.log, object) = (.error error, (log, object'))) :
    pool.call i method seen = (.threw error, ⟨log, pool.writers.set i (some object')⟩) := by
  simp only [call, h, hrun]

end Call

/-- One action.  An exception is caught and seen, and a writer whose construction threw keeps its
    number without an object. -/
def perform (ssl : OpenSsl) (pool : WriterPool) : WriterAction → Outcome × WriterPool
  | .construct =>
      match exec (construct ssl) pool.log with
      | (.ok object, log) => (.done, ⟨log, pool.writers ++ [some object]⟩)
      | (.error error, log) => (.threw error, ⟨log, pool.writers ++ [none]⟩)
  | .write writer field => pool.call writer (write ssl field) fun _ => .done
  | .finish writer => pool.call writer (finish ssl) .digest
  | .destroy writer =>
      match pool.object writer with
      | none => (.absent, pool)
      | some object => (.done, ⟨object.destroy pool.log, pool.writers.set writer none⟩)

/-- The actions one after the other, whatever the outcomes. -/
def run (ssl : OpenSsl) : List WriterAction → WriterPool → List Outcome × WriterPool
  | [], pool => ([], pool)
  | action :: actions, pool =>
      let first := pool.perform ssl action
      let rest := run ssl actions first.2
      (first.1 :: rest.1, rest.2)

/-- The contexts of the objects. -/
def contexts (pool : WriterPool) : List (Option Pointer) :=
  pool.writers.map fun object => object.bind IdentityWriterObject.context

/-- The action writes to a writer whose digest was taken. -/
def WritesFinished (pool : WriterPool) (action : WriterAction) : Prop :=
  ∃ writer field, action = .write writer field ∧ pool.object writer = some ⟨none⟩

/-- No action of the run does. -/
def Lawful (ssl : OpenSsl) : List WriterAction → WriterPool → Prop
  | [], _ => True
  | action :: actions, pool =>
      ¬ pool.WritesFinished action ∧ Lawful ssl actions (pool.perform ssl action).2

instance (pool : WriterPool) : DecidablePred pool.WritesFinished
  | .construct | .finish _ | .destroy _ => isFalse (by rintro ⟨_, _, h, -⟩; cases h)
  | .write i field => decidable_of_iff (pool.object i = some ⟨none⟩)
      ⟨fun h => ⟨i, field, rfl, h⟩, by rintro ⟨_, _, h, hobject⟩; cases h; exact hobject⟩

instance (ssl : OpenSsl) : ∀ actions pool, Decidable (Lawful ssl actions pool)
  | [], _ => isTrue trivial
  | action :: actions, pool =>
      have : Decidable (Lawful ssl actions (pool.perform ssl action).2) :=
        instDecidableLawful ssl actions _
      inferInstanceAs (Decidable (_ ∧ _))

end WriterPool

/-! ## What a writer is for -/

/-- A writer, without OpenSSL. -/
inductive WriterView where
  | writing (writer : IdentityWriter)
  /-- A write or the digest failed. -/
  | broken
  | finished
  | gone

/-- The writer has a context. -/
def WriterView.Open : WriterView → Prop
  | writing _ | broken => True
  | finished | gone => False

/-- What an action may do to the writers, which calls on OpenSSL it may make, and what the program
    may see of it.  An action that returns made no call that failed; an exception is the refusal of
    the first of the action's OWN calls that failed, but for the second `finish`, which makes no
    call.  `log` is what happened before; it only says what OpenSSL answers to a broken writer. -/
inductive Explains (ssl : OpenSsl) (log : EvpLog) :
    List WriterView → WriterAction → EvpLog → Outcome → List WriterView → Prop
  | constructed {views calls} (hcalls : firstFailure calls = none) :
      Explains ssl log views .construct calls .done (views ++ [.writing .new])
  | unconstructed {views calls call} (hcalls : firstFailure calls = some call)
      (hrefusal : call.refusal = initializationFailed) :
      Explains ssl log views .construct calls (.threw initializationFailed) (views ++ [.gone])
  | wrote {views : List WriterView} {i field calls writer} (h : views[i]? = some (.writing writer))
      (hcalls : firstFailure calls = none) :
      Explains ssl log views (.write i field) calls .done
        (views.set i (.writing (writer.write field)))
  | wroteBroken {views : List WriterView} {i field calls} (h : views[i]? = some .broken)
      (hcalls : firstFailure calls = none) :
      Explains ssl log views (.write i field) calls .done (views.set i .broken)
  | stopped {views : List WriterView} {i field calls view call} (h : views[i]? = some view)
      (hopen : view.Open) (hcalls : firstFailure calls = some call)
      (hrefusal : call.refusal = updateFailed) :
      Explains ssl log views (.write i field) calls (.threw updateFailed) (views.set i .broken)
  | finished {views : List WriterView} {i calls writer} (h : views[i]? = some (.writing writer))
      (hcalls : firstFailure calls = none) :
      Explains ssl log views (.finish i) calls (.digest (writer.finish ssl.sha256))
        (views.set i .finished)
  /-- OpenSSL promises nothing here, and the program gets what it answered. -/
  | finishedBroken {views : List WriterView} {i context} (h : views[i]? = some .broken) :
      Explains ssl log views (.finish i) [.final context 1 32, .free context]
        (.digest (render (ssl.digestFinal log context))) (views.set i .finished)
  | unfinished {views : List WriterView} {i calls view call} (h : views[i]? = some view)
      (hopen : view.Open) (hcalls : firstFailure calls = some call)
      (hrefusal : call.refusal = finalizationFailed) :
      Explains ssl log views (.finish i) calls (.threw finalizationFailed) (views.set i .broken)
  | again {views : List WriterView} {i} (h : views[i]? = some .finished) :
      Explains ssl log views (.finish i) [] (.threw alreadyFinalized) views
  | destroyed {views : List WriterView} {i calls view} (h : views[i]? = some view)
      (halive : view ≠ .gone) (hcalls : firstFailure calls = none) :
      Explains ssl log views (.destroy i) calls .done (views.set i .gone)
  | absentWrite {views : List WriterView} {i field} (h : ∀ view ∈ views[i]?, view = .gone) :
      Explains ssl log views (.write i field) [] .absent views
  | absentFinish {views : List WriterView} {i} (h : ∀ view ∈ views[i]?, view = .gone) :
      Explains ssl log views (.finish i) [] .absent views
  | absentDestroy {views : List WriterView} {i} (h : ∀ view ∈ views[i]?, view = .gone) :
      Explains ssl log views (.destroy i) [] .absent views

/-- A run of that machine after a log, action by action: what each called, and what was seen. -/
inductive ExplainsAll (ssl : OpenSsl) :
    EvpLog → List WriterView → List WriterAction → List EvpLog → List Outcome → List WriterView →
      Prop
  | nil {log views} : ExplainsAll ssl log views [] [] [] views
  | cons {log views views' views'' action calls outcome actions more outcomes}
      (h : Explains ssl log views action calls outcome views')
      (hrest : ExplainsAll ssl (log ++ calls) views' actions more outcomes views'') :
      ExplainsAll ssl log views (action :: actions) (calls :: more) (outcome :: outcomes) views''

/-- An object and the view of it, after a log. -/
inductive Viewed (log : EvpLog) : Option IdentityWriterObject → WriterView → Prop
  | gone : Viewed log none .gone
  | finished : Viewed log (some ⟨none⟩) .finished
  | broken (context : Pointer) : Viewed log (some ⟨some context⟩) .broken
  | writing (context : Pointer) (writer : IdentityWriter)
      (h : streamOf log context = some writer.stream) :
      Viewed log (some ⟨some context⟩) (.writing writer)

/-- **The invariant.** -/
structure Related (pool : WriterPool) (views : List WriterView) : Prop where
  disciplined : Disciplined (acts pool.log)
  owned : Owned (allocated pool.log) pool.contexts
  viewed : ∀ i : Nat, Option.Rel (Viewed pool.log) pool.writers[i]? views[i]?

/-- Before any call there is nothing to relate. -/
theorem related_start : Related .start [] := ⟨disciplined_nil, Owned.empty, fun _ => .none⟩

section Invariant

variable {pool : WriterPool} {views : List WriterView} {i : Nat}

/-- Calls about other contexts leave a view as it is. -/
theorem Viewed.frame {log more : EvpLog} {object : Option IdentityWriterObject} {view : WriterView}
    (h : Viewed log object view)
    (hmore : ∀ call ∈ more, ∀ context, object = some ⟨some context⟩ → call.context ≠ some context) :
    Viewed (log ++ more) object view := by
  cases h with
  | gone => exact .gone
  | finished => exact .finished
  | broken context => exact .broken context
  | writing context writer hstream =>
    refine .writing context writer ?_
    rw [streamOf_frame log fun call hcall => hmore call hcall context rfl]
    exact hstream

/-- An object of the pool has a slot of its own. -/
theorem WriterPool.object_eq_some_iff {object : IdentityWriterObject} :
    pool.object i = some object ↔ pool.writers[i]? = some (some object) := by
  unfold WriterPool.object
  cases pool.writers[i]? with
  | none => simp
  | some slot => simp

/-- A context of the pool is the member of an object. -/
theorem WriterPool.contexts_getElem? {context : Pointer} :
    pool.contexts[i]? = some (some context) ↔ pool.writers[i]? = some (some ⟨some context⟩) := by
  unfold WriterPool.contexts
  rw [List.getElem?_map]
  cases pool.writers[i]? with
  | none => simp
  | some slot =>
    cases slot with
    | none => simp
    | some object =>
      obtain ⟨own⟩ := object
      simp

/-- The view of an object. -/
theorem Related.exists_view (h : Related pool views) {slot : Option IdentityWriterObject}
    (hi : pool.writers[i]? = some slot) :
    ∃ view, views[i]? = some view ∧ Viewed pool.log slot view := by
  have hview := h.viewed i
  rw [hi] at hview
  rcases hv : views[i]? with _ | view
  · rw [hv] at hview
    cases hview
  · rw [hv] at hview
    cases hview with
    | some hrel => exact ⟨view, rfl, hrel⟩

/-- An object that does not exist has no view but `gone`. -/
theorem Related.absent (h : Related pool views) (hi : pool.object i = none) :
    ∀ view ∈ views[i]?, view = .gone := by
  intro view hview
  have hrel := h.viewed i
  rw [Option.mem_def.mp hview] at hrel
  unfold WriterPool.object at hi
  rcases hslot : pool.writers[i]? with _ | slot
  · rw [hslot] at hrel
    cases hrel
  · rw [hslot] at hrel hi
    obtain rfl : slot = none := hi
    cases hrel with
    | some hrel =>
      cases hrel
      rfl

/-- Calls about the context of one object keep the views of the others. -/
theorem Related.set (h : Related pool views) {object : IdentityWriterObject}
    (hi : pool.writers[i]? = some (some object)) {more : EvpLog}
    (hmore : ∀ call ∈ more, ∃ context, object = ⟨some context⟩ ∧ call.context = some context)
    {slot : Option IdentityWriterObject} {view : WriterView}
    (hdisciplined : Disciplined (acts (pool.log ++ more)))
    (howned : Owned (allocated (pool.log ++ more))
      (pool.contexts.set i (slot.bind IdentityWriterObject.context)))
    (hview : Viewed (pool.log ++ more) slot view) :
    Related ⟨pool.log ++ more, pool.writers.set i slot⟩ (views.set i view) := by
  obtain ⟨old, hold, -⟩ := h.exists_view hi
  refine ⟨hdisciplined, ?_, ?_⟩
  · unfold WriterPool.contexts at howned ⊢
    rw [List.map_set]
    exact howned
  · intro j
    show Option.Rel (Viewed (pool.log ++ more)) (pool.writers.set i slot)[j]? (views.set i view)[j]?
    by_cases hij : i = j
    · subst hij
      rw [List.getElem?_set_self', List.getElem?_set_self', hi, hold]
      exact .some hview
    · rw [List.getElem?_set_ne hij, List.getElem?_set_ne hij]
      have hrel := h.viewed j
      generalize hslot : pool.writers[j]? = other at hrel ⊢
      generalize views[j]? = old' at hrel ⊢
      cases hrel with
      | none => exact .none
      | some hrel =>
        refine .some (hrel.frame fun call hcall own hown hsame => ?_)
        -- two objects never have one context
        obtain ⟨context, rfl, hcontext⟩ := hmore call hcall
        rw [hown, ← Option.some.inj (hcontext.symm.trans hsame)] at hslot
        exact hij (h.owned.sole (WriterPool.contexts_getElem?.mpr hi)
          (WriterPool.contexts_getElem?.mpr hslot))

/-- There are as many views as slots: neither list may be longer. -/
theorem Related.length_eq (h : Related pool views) : pool.writers.length = views.length := by
  rcases Nat.lt_trichotomy pool.writers.length views.length with hlt | heq | hgt
  · have hrel := h.viewed pool.writers.length
    rw [List.getElem?_eq_none (Nat.le_refl _), List.getElem?_eq_getElem hlt] at hrel
    cases hrel
  · exact heq
  · have hrel := h.viewed views.length
    rw [List.getElem?_eq_none (Nat.le_refl _), List.getElem?_eq_getElem hgt] at hrel
    cases hrel

/-- A new object, after calls about contexts that were not allocated. -/
theorem Related.concat (h : Related pool views) {more : EvpLog}
    (hmore : ∀ call ∈ more, ∀ context ∈ call.context, context ∉ allocated pool.log)
    {slot : Option IdentityWriterObject} {view : WriterView}
    (hdisciplined : Disciplined (acts (pool.log ++ more)))
    (howned : Owned (allocated (pool.log ++ more))
      (pool.contexts ++ [slot.bind IdentityWriterObject.context]))
    (hview : Viewed (pool.log ++ more) slot view) :
    Related ⟨pool.log ++ more, pool.writers ++ [slot]⟩ (views ++ [view]) := by
  refine ⟨hdisciplined, ?_, ?_⟩
  · unfold WriterPool.contexts at howned ⊢
    rw [List.map_append]
    exact howned
  · intro j
    show Option.Rel (Viewed (pool.log ++ more)) (pool.writers ++ [slot])[j]? (views ++ [view])[j]?
    have hlength := h.length_eq
    rcases Nat.lt_trichotomy j pool.writers.length with hlt | rfl | hgt
    · rw [List.getElem?_append_left hlt, List.getElem?_append_left (by omega)]
      have hrel := h.viewed j
      generalize hslot : pool.writers[j]? = other at hrel ⊢
      generalize views[j]? = old at hrel ⊢
      cases hrel with
      | none => exact .none
      | some hrel =>
        refine .some (hrel.frame fun call hcall own hown hsame => ?_)
        -- the context of an object is allocated
        rw [hown] at hslot
        exact hmore call hcall own hsame (h.owned.held (WriterPool.contexts_getElem?.mpr hslot))
    · rw [List.getElem?_append_right (Nat.le_refl _), List.getElem?_append_right (by omega)]
      simp only [hlength, Nat.sub_self, List.getElem?_cons_zero]
      exact .some hview
    · rw [List.getElem?_eq_none (by simp; omega), List.getElem?_eq_none (by simp; omega)]
      exact .none

/-- An object keeps its context: the owners stay as they are. -/
theorem WriterPool.contexts_set_self {context : Pointer}
    (hi : pool.writers[i]? = some (some ⟨some context⟩)) :
    pool.contexts.set i (some context) = pool.contexts :=
  set_getElem?_self (WriterPool.contexts_getElem?.mpr hi)

/-- Whoever has a context is seen as open. -/
theorem Viewed.isOpen {log : EvpLog} {context : Pointer} {view : WriterView}
    (h : Viewed log (some ⟨some context⟩) view) : view.Open := by
  cases h with
  | broken => trivial
  | writing => trivial

/-- Updates of an object's own context may change its view, and nothing else. -/
theorem Related.updated (h : Related pool views) {context : Pointer}
    (hi : pool.writers[i]? = some (some ⟨some context⟩)) {more : EvpLog}
    (hmore : ∀ call ∈ more, IsUpdate context call) {view : WriterView}
    (hview : Viewed (pool.log ++ more) (some ⟨some context⟩) view) :
    Related ⟨pool.log ++ more, pool.writers.set i (some ⟨some context⟩)⟩ (views.set i view) := by
  have hheld : context ∈ allocated pool.log :=
    h.owned.held (WriterPool.contexts_getElem?.mpr hi)
  obtain ⟨hlog, hallocated⟩ := disciplined_updates h.disciplined hheld hmore
  refine h.set hi (fun call hcall => ⟨context, rfl, (hmore call hcall).context_eq⟩) hlog ?_ hview
  rw [hallocated]
  exact (WriterPool.contexts_set_self hi).symm ▸ h.owned

end Invariant

/-! ## One step -/

/-- An action made `calls` and ended in a pool where the invariant holds again, and the machine of
    views does the same. -/
structure Accounted (ssl : OpenSsl) (pool : WriterPool) (views : List WriterView)
    (action : WriterAction) (seen : Outcome × WriterPool) (calls : EvpLog)
    (views' : List WriterView) : Prop where
  log_eq : seen.2.log = pool.log ++ calls
  explained : Explains ssl pool.log views action calls seen.1 views'
  related : Related seen.2 views'

section Step

variable {ssl : OpenSsl} {pool : WriterPool} {views : List WriterView} {i : Nat}

/-- What makes no call leaves the pool as it is. -/
theorem Related.idle (h : Related pool views) {action : WriterAction} {outcome : Outcome}
    (hexplained : Explains ssl pool.log views action [] outcome views) :
    Accounted ssl pool views action (outcome, pool) [] views :=
  ⟨(List.append_nil _).symm, hexplained, h⟩

/-- A new writer has a fresh context that was fed nothing, or is gone and left nothing behind. -/
theorem related_construct (h : Related pool views) : ∃ calls views',
    Accounted ssl pool views .construct (pool.perform ssl .construct) calls views' := by
  unfold WriterPool.perform
  rcases construct_cases ssl h.disciplined with ⟨context, calls, hrun, hbuilt⟩ |
    ⟨calls, hrun, hunbuilt⟩
  · rw [hrun]
    refine ⟨calls, _, rfl, .constructed (firstFailure_eq_none_iff.mpr hbuilt.succeeded),
      h.concat ?_ hbuilt.disciplined ?_ (.writing context .new hbuilt.stream)⟩
    · intro call hcall own hown
      rw [hbuilt.own call hcall] at hown
      exact Option.some.inj hown ▸ hbuilt.fresh
    · rw [hbuilt.allocated_eq]
      exact h.owned.concat_some hbuilt.fresh
  · obtain ⟨call, hcall, hrefusal⟩ := hunbuilt.failed
    rw [hrun]
    refine ⟨calls, _, rfl, .unconstructed hcall hrefusal,
      h.concat hunbuilt.foreign hunbuilt.disciplined ?_ .gone⟩
    rw [hunbuilt.allocated_eq]
    exact h.owned.concat_none

/-- A write, to a writer whose digest was not taken. -/
theorem related_write (h : Related pool views) {field : Field}
    (hlawful : ¬ pool.WritesFinished (.write i field)) : ∃ calls views',
    Accounted ssl pool views (.write i field) (pool.perform ssl (.write i field)) calls views' := by
  show ∃ calls views', Accounted _ _ _ _ (pool.call i (write ssl field) _) calls views'
  rcases hobject : pool.object i with _ | ⟨_ | context⟩
  · rw [WriterPool.call_absent hobject]
    exact ⟨[], views, h.idle (.absentWrite (h.absent hobject))⟩
  · -- a finished writer has no context to write to, and a lawful program does not try
    exact absurd ⟨i, field, rfl, hobject⟩ hlawful
  · have hi := WriterPool.object_eq_some_iff.mp hobject
    obtain ⟨view, hview, hviewed⟩ := h.exists_view hi
    have htriple := @triple_write ssl context pool.log [] field
    rcases hrun : exec (write ssl field) (pool.log, ⟨some context⟩) with ⟨result, log', object'⟩
    cases result with
    | ok value =>
      obtain ⟨hsame, calls, rfl, hcalls, hstream⟩ := htriple.ok feeding_start hrun
      obtain rfl : object' = ⟨some context⟩ := hsame
      rw [WriterPool.call_ok hobject hrun]
      have hall : ∀ call ∈ calls, IsUpdate context call := fun call hcall => (hcalls call hcall).1
      have hgood : firstFailure calls = none :=
        firstFailure_eq_none_iff.mpr fun call hcall => (hcalls call hcall).2
      cases hviewed with
      -- a failed write before this one: the digest is not defined any more
      | broken =>
        exact ⟨calls, _, rfl, .wroteBroken hview hgood, h.updated hi hall (.broken context)⟩
      | writing _ writer hold =>
        refine ⟨calls, _, rfl, .wrote hview hgood, h.updated hi hall (.writing context _ ?_)⟩
        rw [hstream, hold, stream_write]
        rfl
    | error error =>
      obtain ⟨hsame, rfl, calls, last, rfl, hcalls, hlast, hfailed⟩ :=
        htriple.error feeding_start hrun
      obtain rfl : object' = ⟨some context⟩ := hsame
      rw [WriterPool.call_error hobject hrun]
      have hall : ∀ call ∈ calls ++ [last], IsUpdate context call := by
        intro call hcall
        rcases List.mem_append.mp hcall with hcall | hcall
        · exact (hcalls call hcall).1
        · exact List.mem_singleton.mp hcall ▸ hlast
      -- the updates before it went through, so the last one is to blame
      have hfirst : firstFailure (calls ++ [last]) = some last := by
        rw [firstFailure_append fun call hcall => (hcalls call hcall).2]
        exact firstFailure_cons hfailed []
      exact ⟨calls ++ [last], _, rfl, .stopped hview hviewed.isOpen hfirst hlast.refusal_eq,
        h.updated hi hall (.broken context)⟩

/-- `finish`: the digest of the view's stream, or a failure, or the refusal of a second one. -/
theorem related_finish (h : Related pool views) : ∃ calls views',
    Accounted ssl pool views (.finish i) (pool.perform ssl (.finish i)) calls views' := by
  show ∃ calls views', Accounted _ _ _ _ (pool.call i (finish ssl) _) calls views'
  rcases hobject : pool.object i with _ | ⟨_ | context⟩
  · rw [WriterPool.call_absent hobject]
    exact ⟨[], views, h.idle (.absentFinish (h.absent hobject))⟩
  · -- the digest was taken before: nothing happens
    have hi := WriterPool.object_eq_some_iff.mp hobject
    obtain ⟨view, hview, hviewed⟩ := h.exists_view hi
    cases hviewed
    rw [WriterPool.call_error hobject (exec_finish_none pool.log), set_getElem?_self hi]
    exact ⟨[], views, h.idle (.again hview)⟩
  · have hi := WriterPool.object_eq_some_iff.mp hobject
    obtain ⟨view, hview, hviewed⟩ := h.exists_view hi
    have hheld : context ∈ allocated pool.log :=
      h.owned.held (WriterPool.contexts_getElem?.mpr hi)
    rcases finish_cases ssl h.disciplined hheld with ⟨hex, calls, hrun, hdigested⟩ |
      ⟨call, hrun, hundigested⟩
    · rw [WriterPool.call_ok hobject hrun]
      have hset : Related ⟨pool.log ++ calls, pool.writers.set i (some ⟨none⟩)⟩
          (views.set i .finished) := by
        refine h.set hi (fun call hcall => ⟨context, rfl, hdigested.own call hcall⟩)
          hdigested.disciplined ?_ .finished
        rw [hdigested.allocated_eq]
        exact h.owned.set_none (WriterPool.contexts_getElem?.mpr hi)
      refine ⟨calls, views.set i .finished, rfl, ?_, hset⟩
      cases hviewed with
      | broken =>
        -- the context was not fed what the writer was given: all there is to say is the answer
        rw [hdigested.calls_eq, hdigested.answer_eq]
        exact .finishedBroken hview
      | writing _ writer hstream =>
        rw [hdigested.hex_eq _ hstream]
        exact .finished hview (firstFailure_eq_none_iff.mpr hdigested.succeeded)
    · rw [WriterPool.call_error hobject hrun]
      refine ⟨[call], _, rfl, .unfinished hview hviewed.isOpen
        (firstFailure_cons hundigested.failed []) hundigested.refusal_eq,
        h.set hi ?_ hundigested.disciplined ?_ (.broken context)⟩
      · intro call' hcall
        obtain rfl := List.mem_singleton.mp hcall
        exact ⟨context, rfl, hundigested.own⟩
      · rw [hundigested.allocated_eq]
        exact (WriterPool.contexts_set_self hi).symm ▸ h.owned

/-- Destruction gives a context back that is still there. -/
theorem related_destroy (h : Related pool views) : ∃ calls views',
    Accounted ssl pool views (.destroy i) (pool.perform ssl (.destroy i)) calls views' := by
  unfold WriterPool.perform
  rcases hobject : pool.object i with _ | ⟨_ | context⟩
  · simp only [hobject]
    exact ⟨[], views, h.idle (.absentDestroy (h.absent hobject))⟩
  · have hi := WriterPool.object_eq_some_iff.mp hobject
    obtain ⟨view, hview, hviewed⟩ := h.exists_view hi
    simp only [hobject]
    cases hviewed
    -- the digest was taken: there is no context to give back
    refine ⟨[], _, (List.append_nil _).symm, .destroyed hview nofun rfl, ?_⟩
    have hset := @Related.set pool views i h ⟨none⟩ hi [] (by simp) none .gone
    rw [List.append_nil] at hset
    have hempty : pool.contexts[i]? = some none := by
      unfold WriterPool.contexts
      rw [List.getElem?_map, hi]
      rfl
    exact hset h.disciplined (h.owned.set_none_of_none hempty) .gone
  · have hi := WriterPool.object_eq_some_iff.mp hobject
    obtain ⟨view, hview, hviewed⟩ := h.exists_view hi
    have hslot := WriterPool.contexts_getElem?.mpr hi
    -- the context is still there, and only this writer has it
    have halive : view ≠ .gone := by
      rintro rfl
      cases hviewed
    simp only [hobject]
    refine ⟨[.free context], _, rfl, .destroyed hview halive rfl, h.set hi ?_ ?_ ?_ .gone⟩
    · intro call hcall
      obtain rfl := List.mem_singleton.mp hcall
      exact ⟨context, rfl, rfl⟩
    · exact disciplined_call.mpr ⟨h.disciplined, h.owned.held hslot⟩
    · rw [allocated_concat]
      exact h.owned.set_none hslot

/-- **Step.**  Whatever a lawful action does, the machine of views can do with the same calls, and
    the invariant stays. -/
theorem related_perform (h : Related pool views) {action : WriterAction}
    (hlawful : ¬ pool.WritesFinished action) : ∃ calls views',
    Accounted ssl pool views action (pool.perform ssl action) calls views' := by
  cases action with
  | construct => exact related_construct h
  | write i field => exact related_write h hlawful
  | finish i => exact related_finish h
  | destroy i => exact related_destroy h

end Step

/-! ## Runs -/

/-- **Run.**  The calls of the actions, one after the other, are all that was added to the log. -/
theorem related_run {ssl : OpenSsl} : ∀ {actions : List WriterAction} {pool : WriterPool}
    {views : List WriterView}, Related pool views → WriterPool.Lawful ssl actions pool →
    ∃ calls views',
      (WriterPool.run ssl actions pool).2.log = pool.log ++ calls.flatten ∧
      ExplainsAll ssl pool.log views actions calls (WriterPool.run ssl actions pool).1 views' ∧
      Related (WriterPool.run ssl actions pool).2 views'
  | [], pool, views, h, _ => ⟨[], views, (List.append_nil pool.log).symm, .nil, h⟩
  | action :: actions, pool, views, h, hlawful => by
      obtain ⟨first, views₁, hlog, hstep, hrelated⟩ := related_perform h hlawful.1
      obtain ⟨more, views₂, hlogs, hrest, hend⟩ := related_run hrelated hlawful.2
      rw [hlog] at hlogs hrest
      refine ⟨first :: more, views₂, ?_, .cons hstep hrest, hend⟩
      rw [List.flatten_cons, ← List.append_assoc]
      exact hlogs

section Unlawful

variable {ssl : OpenSsl} {pool : WriterPool}

/-- A method that leaves a spoiled log spoiled does so in the pool. -/
theorem call_spoiled {α : Type} {P : EvpLog × IdentityWriterObject → Prop} {i : Nat}
    {method : Method α} {seen : α → Outcome} {object : IdentityWriterObject}
    (hmethod : Triple P method (fun _ state => Spoiled state.1) fun _ state => Spoiled state.1)
    (hobject : pool.object i = some object) (hP : P (pool.log, object)) :
    Spoiled (pool.call i method seen).2.log := by
  rcases hrun : exec method (pool.log, object) with ⟨result, log', object'⟩
  cases result with
  | ok value =>
    rw [WriterPool.call_ok hobject hrun]
    exact hmethod.ok hP hrun
  | error error =>
    rw [WriterPool.call_error hobject hrun]
    exact hmethod.error hP hrun

/-- No action repairs a log in which a rule was broken. -/
theorem perform_spoiled (h : Spoiled pool.log) (action : WriterAction) :
    Spoiled (pool.perform ssl action).2.log := by
  have hcall : ∀ {α : Type} {i : Nat} {method : Method α} {seen : α → Outcome},
      Triple (fun state => Spoiled state.1) method (fun _ state => Spoiled state.1)
        (fun _ state => Spoiled state.1) → Spoiled (pool.call i method seen).2.log := by
    intro α i method seen hmethod
    rcases hobject : pool.object i with _ | object
    · rw [WriterPool.call_absent hobject]
      exact h
    · exact call_spoiled hmethod hobject h
  cases action with
  | construct =>
    have hconstruct := @triple_construct_spoiled ssl pool.log h
    unfold WriterPool.perform
    rcases hrun : exec (construct ssl) pool.log with ⟨result, log'⟩
    rw [hrun] at hconstruct
    cases result with
    | ok object => exact hconstruct
    | error error => exact hconstruct
  | write i field => exact hcall (triple_write_spoiled field)
  | finish i => exact hcall triple_finish_spoiled
  | destroy i =>
    unfold WriterPool.perform
    rcases hobject : pool.object i with _ | object
    · simp only [hobject]
      exact h
    · simp only [hobject]
      exact h.destroy object

/-- Nor does a run, by induction on its actions. -/
theorem run_spoiled : ∀ (actions : List WriterAction) {pool : WriterPool}, Spoiled pool.log →
    Spoiled (WriterPool.run ssl actions pool).2.log
  | [], _, h => h
  | action :: actions, _, h => run_spoiled actions (perform_spoiled h action)

/-- An unlawful action spoils the log, and with it the rest of the run. -/
theorem lawful_of_disciplined : ∀ {actions : List WriterAction} {pool : WriterPool},
    Disciplined (acts (WriterPool.run ssl actions pool).2.log) →
    WriterPool.Lawful ssl actions pool
  | [], _, _ => trivial
  | action :: actions, pool, h => by
      refine ⟨?_, lawful_of_disciplined h⟩
      -- a write to a finished writer hands OpenSSL a null pointer, and nothing mends that
      rintro ⟨i, field, rfl, hobject⟩
      exact run_spoiled actions (call_spoiled (triple_write_null field) hobject rfl) h

end Unlawful

/-! ## The two answers -/

/-- **Memory safety.**  Whatever a program does with any number of writers, in any order and past
    any exception, and whichever calls of OpenSSL fail: its calls on OpenSSL are all in order
    exactly when it never writes to a writer whose digest was taken.  Then the allocated contexts
    are those of the writers, each writer with its own; a context was freed as often as it was
    allocated, but for once while it is; and a program that destroyed its writers leaves nothing
    behind. -/
theorem writers_disciplined (ssl : OpenSsl) (actions : List WriterAction) :
    (Disciplined (acts (WriterPool.run ssl actions .start).2.log) ↔
      WriterPool.Lawful ssl actions .start) ∧
    (Disciplined (acts (WriterPool.run ssl actions .start).2.log) →
      Owned (allocated (WriterPool.run ssl actions .start).2.log)
        (WriterPool.run ssl actions .start).2.contexts ∧
      (∀ context, (acts (WriterPool.run ssl actions .start).2.log).count (.acquire context)
        = (acts (WriterPool.run ssl actions .start).2.log).count (.release context)
          + if context ∈ allocated (WriterPool.run ssl actions .start).2.log then 1 else 0) ∧
      ((∀ i, (WriterPool.run ssl actions .start).2.object i = none) →
        allocated (WriterPool.run ssl actions .start).2.log = ∅)) := by
  refine ⟨⟨lawful_of_disciplined, fun hlawful => ?_⟩, fun hdisciplined => ?_⟩
  · obtain ⟨calls, views, -, -, hend⟩ := related_run related_start hlawful
    exact hend.disciplined
  · obtain ⟨calls, views, -, -, hend⟩ :=
      related_run related_start (lawful_of_disciplined hdisciplined)
    refine ⟨hend.owned, fun context => hdisciplined.count_eq context, fun hnone => ?_⟩
    refine hend.owned.eq_empty fun slot hslot => ?_
    obtain ⟨i, hi⟩ := List.mem_iff_getElem?.mp hslot
    rcases slot with _ | context
    · rfl
    · have hobject := WriterPool.object_eq_some_iff.mpr (WriterPool.contexts_getElem?.mp hi)
      rw [hnone i] at hobject
      cases hobject

end Pkgbuild

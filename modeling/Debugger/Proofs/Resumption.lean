import Debugger.Proofs.Landing

/-! # What is left to do once a set is resumed

The dispatcher resumes the thread of a set unless an event left it suspended.  The machine may then report
another landing at once, which is the next and only thing to handle.
-/

namespace Debugger

variable {s s' : System (Faulty Machine)} {set : EventSet} {id : ThreadId}

/-- What is left to do after the machine resumed a thread. -/
inductive AfterResume (s : System (Faulty Machine)) (id : ThreadId) : Prop
  | runs (done : s.UpToDate) (free : s.session.inner.holds id = false)
  /-- A step of the thread landed, which is to be handled. -/
  | lands {request : RequestId} {location : Location}
    (left : s.Left (.single (.step request id location)))
    (counted : request ∈ s.session.inner.outstanding id) (held : s.session.inner.holds id = true)
    (frames : s.session.inner.framesOf id ≠ [])
  /-- A step of the thread landed where there is no frame, and nobody is told. -/
  | unseen (done : s.UpToDate) (held : s.session.inner.holds id = true)
    (frames : s.session.inner.framesOf id = [])

theorem System.Left.capacity (h : s.Left set) : 0 < s.session.inner.events.capacity := by
  have unread := h.unread
  change s.session.inner.events.receive? s.reader = some (.message set, s.session.inner.events.subscribe)
    at unread
  rw [Channel.receive?] at unread
  split at unread
  · cases unread
  · rename_i fresh
    obtain ⟨a, ha, hp⟩ := Option.map_eq_some_iff.mp unread
    have next := congrArg Reader.next (Prod.mk.inj hp).2
    simp only [Channel.subscribe, Channel.oldest] at next fresh
    omega

/-- The dispatcher goes on as long as nothing in its surroundings changes. -/
theorem System.Attentive.of_scene (h : s.Attentive) (hs : s'.scene = s.scene) : s'.Attentive where
  dispatching := (congrArg Scene.dispatching hs).trans h.dispatching
  running := (congrArg Scene.shutdown hs).trans h.running
  alive := (alive_scene hs).trans h.alive
  connected := (congrArg Scene.disconnected hs).trans h.connected
  unclosed := rfl
  ready := by
    rw [show s'.ready = s.ready from congrArg Scene.ready hs]
    exact h.ready

theorem System.Left.turnTo (h : s.Left set) : s.turnTo.Attentive :=
  ⟨h.dispatching, h.running, h.alive, h.connected, h.unclosed, .inr rfl⟩

/-- What the machine tells of a resumed thread is all that is left. -/
theorem afterResume {m : Machine} (attentive : s.Attentive) (read : s.reader = m.events.subscribe)
    (cap : 0 < m.events.capacity) (tickets : s.session.inner.tickets = m.tickets)
    (h : m.Resumed id s.session.inner) : AfterResume s id := by
  cases h with
  | runs he hh => exact .runs ⟨attentive, by rw [read]; exact congrArg Channel.subscribe he.symm⟩ hh
  | unseen he hh hf =>
    exact .unseen ⟨attentive, by rw [read]; exact congrArg Channel.subscribe he.symm⟩ hh hf
  | @lands request location he hh hf hr =>
    have unread : s.session.inner.events.receive? s.reader =
        some (.message (.single (.step request id location)), s.session.inner.events.subscribe) := by
      rw [he, read]
      exact Channel.receive?_send _ _ cap
    refine .lands ⟨attentive, unread⟩ ?_ hh hf
    rw [Machine.outstanding, tickets]
    exact hr

theorem AfterResume.flush (h : AfterResume s id) : AfterResume s.flush id := by
  cases h with
  | runs done free => exact .runs ⟨done.toAttentive.of_scene rfl, done.read⟩ free
  | lands left counted held frames =>
    exact .lands ⟨left.toAttentive.of_scene rfl, left.unread⟩ counted held frames
  | unseen done held frames => exact .unseen ⟨done.toAttentive.of_scene rfl, done.read⟩ held frames

/-- A set is about the thread that all of its events are about. -/
theorem EventSet.thread?_of_forall (told : set.events ≠ []) (h : ∀ e ∈ set.events, e.thread? = some id) :
    set.thread? = some id := by
  obtain ⟨e, es, hes⟩ := List.exists_cons_of_ne_nil told
  rw [EventSet.thread?, hes, List.findSome?_cons, h e (hes ▸ List.mem_cons_self)]

theorem EventSet.isFinal_of_forall (h : ∀ e ∈ set.events, e.isFinal = false) : set.isFinal = false :=
  List.any_eq_false.mpr fun e he => Bool.not_eq_true _ ▸ h e he

/-- The set of a thread is resumed, or the machine refuses that. -/
theorem resumeSet_cases (policy : set.policy = some .thread) (thread : set.thread? = some id)
    (s : System (Faulty Machine)) :
    (∃ f, (resumeSet set s).2 = { s with session := f } ∧ s.session.inner.Resumed id f.inner ∧
      f.inner.tickets = s.session.inner.tickets ∧ f.failures = s.session.failures) ∨
    (∃ e f, (resumeSet set s).2 = (if e = .disconnected then { s with session := f }.disconnect
        else { s with session := f }) ∧
      (resumeSet set s).2.session = f ∧ f.inner.events = s.session.inner.events ∧
      f.failures = s.session.failures ++ [(.resumeThread, e)]) := by
  have resumption := EventSet.resumption_thread (σ := Faulty Machine) policy thread
  have steady := Faulty.steady_exchange (.resumeThread id s.session)
  rcases Faulty.resumeThread_cases id s.session with ⟨f, h, hr, hf⟩ | ⟨e, f, h, he, hf⟩
  · rw [stateAfter_of_ok h] at steady
    exact .inl ⟨f, congrArg Prod.snd (resumeSet_ok resumption h), hr, steady.inner.tickets, hf⟩
  · have refused := congrArg Prod.snd (resumeSet_error resumption h)
    refine .inr ⟨e, f, refused, ?_, he, hf⟩
    rw [refused]
    split
    · exact (congrArg System.session (System.disconnect_rest { s with session := f }) :)
    · rfl

/-- What comes after the events of a set keeps the books. -/
theorem keeps_afterEvents (h : s.Booked) (set : EventSet) (stay : Bool) :
    Keeps s (if stay || s.disconnected then s else (resumeSet set s).2).flush := by
  refine (StepPath.booked ?_ h).2
  split
  · exact (Path.single (.flush s)).stepPath
  · exact Path.stepPath ((resumeSet_path set s).tail (.flush _))

end Debugger

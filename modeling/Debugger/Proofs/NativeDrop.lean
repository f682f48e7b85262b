import Debugger.Proofs.PoppedFrames
import Debugger.Proofs.StepInto

/-! # Where a drop to a frame ends that pops frames

When the machine pops frames, a drop to a frame pops it once, with what is above it, and then steps into it again from
its caller.  The step is subject to the filters of the target.  The bottom frame has no caller and is not popped.
-/

namespace Debugger

variable {w : Surroundings (Faulty Machine)} {s s₁ s₂ : System (Faulty Machine)} {t : ThreadRef}
  {frames : List FrameRef} {frame : FrameRef} {target caller : RemoteFrame} {deeper stack : List RemoteFrame}
  {f f' : Faulty Machine} {id : ThreadId}

/-- A session that only let calls through pops frames if it did before. -/
theorem Faulty.Turns.canPopFrames (turn : f.Turns f.inner f') :
    Session.canPopFrames f' = Session.canPopFrames f := by
  change (!f'.bare && f'.inner.popsFrames) = (!f.bare && f.inner.popsFrames)
  rw [turn.bare, turn.inner]

theorem Faulty.full_of_pops (pops : Session.canPopFrames f = true) : f.bare = false := by
  change (!f.bare && _) = true at pops
  simp only [Bool.and_eq_true, Bool.not_eq_true'] at pops
  exact pops.1

/-- The machine pops frames and has the thread suspended on the stack; no call fails. -/
structure Unwindable (f : Faulty Machine) (id : ThreadId) (stack : List RemoteFrame) : Prop where
  smooth : f.Smooth
  stands : f.inner.Stands id stack
  pops : Session.canPopFrames f = true

namespace Unwindable

theorem popsFrames (h : Unwindable f id stack) : f.inner.popsFrames = true := by
  have pops := h.pops
  change (!f.bare && f.inner.popsFrames) = true at pops
  simp only [Bool.and_eq_true] at pops
  exact pops.2

theorem turns (h : Unwindable f id stack) (turn : f.Turns f.inner f') : Unwindable f' id stack where
  smooth := turn.smooth
  stands := turn.inner ▸ h.stands
  pops := turn.canPopFrames.trans h.pops

/-- A frame that has a caller is popped. -/
theorem pops_frame (h : Unwindable f id stack)
    (found : stack.dropWhile (·.id ≠ target.id) = target :: caller :: deeper) :
    ∃ f', Session.popFrames id target.id f = .ok () f' ∧
      f.Turns (f.inner.unwound id target (caller :: deeper)) f' := by
  have made := Machine.popFrames_eq h.popsFrames h.stands found
  rw [if_neg (List.cons_ne_nil _ _)] at made
  rw [Faulty.popFrames_full (Faulty.full_of_pops h.pops)]
  exact h.smooth.guarded .popFrames made h.smooth.resumeFailures

/-- The frame at the bottom is not popped. -/
theorem refuses_bottom (h : Unwindable f id stack) (found : stack.dropWhile (·.id ≠ target.id) = [target]) :
    ∃ f', Session.popFrames id target.id f = .error .invalidStackFrame f' ∧
      f.Turns { f.inner with popped := f.inner.popped ++ [(id, target.id)] } f' := by
  have made := Machine.popFrames_eq h.popsFrames h.stands found
  rw [if_pos rfl] at made
  rw [Faulty.popFrames_full (Faulty.full_of_pops h.pops)]
  exact h.smooth.guarded_refused .popFrames made h.smooth.resumeFailures

end Unwindable

/-- What a drop that pops frames needs of the machine, where the thread is. -/
structure Poppable (f : Faulty Machine) (id : ThreadId) (stack : List RemoteFrame) : Prop
    extends Unscripted f id stack where
  pops : Session.canPopFrames f = true
  unreturned : f.inner.forcedReturns.contains id = false

namespace Poppable

theorem unwindable (h : Poppable f id stack) : Unwindable f id stack := ⟨h.smooth, h.stands, h.pops⟩

theorem turns (h : Poppable f id stack) (turn : f.Turns f.inner f') : Poppable f' id stack where
  toUnscripted := h.toUnscripted.turns turn
  pops := (h.unwindable.turns turn).pops
  unreturned := turn.inner ▸ h.unreturned

end Poppable

namespace System

/-- The frames of the thread were popped down to the target, and it can step again, from the rest of the stack. -/
structure Uncovers (s s₁ : System (Faulty Machine)) (t : ThreadRef) (target : RemoteFrame) (rest : List RemoteFrame)
    (frames : List FrameRef) (s₂ : System (Faulty Machine)) : Prop where
  poised : s₁.Poised t frames s₂
  bound : frames.map s₂.frames.remote = rest.map some
  idle : IdlePath s s₁
  smooth : s₁.session.Smooth
  stands : s₁.session.inner.Stands (s₁.thread t).id rest
  inner : s₁.session.inner = s.session.inner.unwound (s.thread t).id target rest
  id : (s₁.thread t).id = (s.thread t).id
  bus : s₁.bus = s.bus

/-- The same where the machine has no landing in store for the thread and the debugger has nothing left to handle. -/
structure Unwinds (s s₁ : System (Faulty Machine)) (t : ThreadRef) (target : RemoteFrame) (rest : List RemoteFrame)
    (frames : List FrameRef) (s₂ : System (Faulty Machine)) : Prop extends s.Uncovers s₁ t target rest frames s₂ where
  occurs : Occurs scripted s₁
  settled : s₁.UpToDate
  unscripted : Unscripted s₁.session (s₁.thread t).id rest

/-- A thread that can step can step from the caller of the frame that is popped. -/
theorem Poised.uncovers (poised : s.Poised t frames s₁) (occurs : Occurs w s)
    (h : Unwindable s.session (s.thread t).id stack)
    (found : stack.dropWhile (·.id ≠ target.id) = target :: caller :: deeper) :
    (∃ f', Session.popFrames (s₁.thread t).id target.id s₁.session = .ok () f') ∧
      ∃ frames' s₂, s.Uncovers (s₁.popFrames t target.id) t target (caller :: deeper) frames' s₂ := by
  obtain ⟨-, bus, turn⟩ := stackFrames_leaves h.smooth poised.suspended poised.shown
  have looked : IdlePath s s₁ := stateAfter_of_ok poised.shown ▸ stackFrames_idle t s
  have idle : IdlePath s (s₁.popFrames t target.id) := looked.tail (.pop s₁ t target.id)
  have ht : t < s₁.threads.size := lt_size_of_suspended ((looked.isSuspended t).trans poised.suspended)
  obtain ⟨f', answer, turn'⟩ := (h.turns turn).pops_frame found
  rw [← looked.id t] at answer
  have session : (s₁.popFrames t target.id).session = f' :=
    (session_popFrames s₁ t target.id).trans (stateAfter_of_ok answer)
  have smooth : (s₁.popFrames t target.id).session.Smooth := session ▸ turn'.smooth
  have inner : (s₁.popFrames t target.id).session.inner =
      s.session.inner.unwound (s.thread t).id target (caller :: deeper) := by
    rw [session, turn'.inner, turn.inner]
  have stands : (s₁.popFrames t target.id).session.inner.Stands ((s₁.popFrames t target.id).thread t).id
      (caller :: deeper) := by
    rw [idle.id t, inner]
    exact Machine.stands_unwound h.stands target (caller :: deeper)
  have suspended : ((s₁.popFrames t target.id).thread t).isSuspended := (idle.isSuspended t).trans poised.suspended
  have stale : ((s₁.popFrames t target.id).thread t).refresh = true :=
    congrArg Thread.refresh (thread_mapThread_self ht Thread.markStale)
  obtain ⟨frames', s₂, shown, bound⟩ :=
    stackFrames_stale (occurs.course idle.path.stepPath.course).tidy suspended stale smooth stands
  refine ⟨⟨f', answer⟩, frames', s₂, ?_, bound, idle, smooth, stands, inner, idle.id t, bus⟩
  refine .of_shown suspended ((idle.stepping t).trans poised.stepping) ?_ shown ?_
  · exact (congrArg₂ (· && ·) idle.alive (congrArg System.replacingCode (idle.rest s.session) :)).trans poised.ready
  · rintro rfl
    cases bound

/-- A step that starts once the frames were popped is a step of the thread. -/
theorem Unwinds.stepped {kind : StepKind} {legs : List Leg} {rest : List RemoteFrame} {s' : System (Faulty Machine)}
    (h : s.Unwinds s₁ t target rest frames s₂) (stepped : s₁.Stepped s' t kind legs stack) :
    s.Stepped s' t kind legs stack where
  settled := stepped.settled
  suspended := stepped.suspended
  stepping := stepped.stepping
  published := by
    have published := stepped.published
    rwa [h.bus, h.id] at published
  queued := stepped.queued
  recorded := by
    obtain ⟨ids, recorded⟩ := stepped.recorded
    rw [h.inner] at recorded
    exact ⟨ids, recorded.length, recorded.steps, recorded.deleted, recorded.resumes⟩
  stands := h.id ▸ stepped.stands
  shown := stepped.shown

end System

/-- The operation looks where the frame is, has it popped, and then steps into it from its caller. -/
theorem dropToFrame_native {index : Nat} (occurs : Occurs w s) (alive : s.targetAlive)
    (poised : s.Poised t frames s₁) (native : Session.canPopFrames s₁.session = true)
    (wrapper : frames[index]? = some frame) :
    dropToFrame t frame s = (do
      popLoop t frame (frames.length - index - 1) (frames.length + 1) frames.length
      startStep t .into s.filters false) s₁ := by
  have asked : (act (canStep t) : Client (Faulty Machine) Bool) s = .ok true s₁ := by simp only [act, poised.answer]
  rw [dropToFrame, run_ok_bind (needTarget_alive alive), act_get_bind, run_ok_bind asked, if_pos rfl,
    run_ok_bind (poised.locates occurs wrapper)]
  dsimp only
  rw [act_get_bind, if_pos native]

/-- One pop is enough, if the frame has a caller. -/
theorem dropToFrame_pops {index : Nat} {rest : List RemoteFrame} {frames' : List FrameRef} (occurs : Occurs w s)
    (alive : s.targetAlive) (poised : s.Poised t frames s₁) (native : Session.canPopFrames s₁.session = true)
    (wrapper : frames[index]? = some frame) (stands : s₁.frames.remote frame = some target)
    (popped : Session.popFrames (s₁.thread t).id target.id s₁.session = .ok () f')
    (uncovers : s.Uncovers (s₁.popFrames t target.id) t target rest frames' s₂)
    (left : frames.length = index + 1 + rest.length) :
    (Operation.dropToFrame t frame).perform s = stateAfter (startStep t .into s.filters false) s₂ := by
  have fits : frames'.length = rest.length := by simpa using congrArg List.length uncovers.bound
  have once : popLoop t frame (frames.length - index - 1) (frames.length + 1) frames.length s₁ = .ok () s₂ :=
    popLoop_once stands popped uncovers.poised.shown (by omega) (by omega)
  rw [Operation.perform, stateAfter, dropToFrame_native occurs alive poised native wrapper, run_ok_bind once,
    stateAfter]

/-- Where a frame is not popped, no step starts. -/
theorem dropToFrame_fails {index : Nat} {e : SessionError} (occurs : Occurs w s) (alive : s.targetAlive)
    (poised : s.Poised t frames s₁) (native : Session.canPopFrames s₁.session = true)
    (wrapper : frames[index]? = some frame) (stands : s₁.frames.remote frame = some target)
    (failed : Session.popFrames (s₁.thread t).id target.id s₁.session = .error e f') :
    dropToFrame t frame s = .error (.session "popping stack frames" e)
      (if e = .invalidStackFrame then
        (s₁.popFrames t target.id).fire ((s₁.popFrames t target.id).element t) (.change .content)
      else s₁.popFrames t target.id) := by
  have inside : index < frames.length := (List.getElem?_eq_some_iff.mp wrapper).1
  have loop : popLoop t frame (frames.length - index - 1) (frames.length + 1) frames.length s₁ = .error _ _ :=
    popLoop_fails stands failed (by omega)
  rw [dropToFrame_native occurs alive poised native wrapper]
  simp only [bind, EStateM.bind, loop]

section

variable {index : Nat} (reachable : Reachable scripted s) (settled : s.UpToDate)
  (poppable : Poppable s.session (s.thread t).id stack) (poised : s.Poised t frames s₁)
  (wrapper : frames[index]? = some frame) (stands : s₁.frames.remote frame = some target)

include reachable settled poppable poised wrapper stands

end

/-- A frame of the library. -/
private def add : RemoteFrame := ⟨3, ⟨⟨⟨2, 201⟩, "add", "java.util.ArrayList", "()V", 0⟩, 0, some 40⟩⟩

/-- A suspended thread on the stack. -/
private def standing (frames : List RemoteFrame) : Machine.Task := { sampleTask 1 with frames }

end Debugger

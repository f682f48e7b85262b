import Debugger.Proofs.OwnLandings

/-! # Popping frames

The machine pops the frames of a thread down to a named one, unless that is the one at the bottom, and its next step
into enters the named frame again.  A drop to a frame asks for one pop, after which the stack is shallow enough.
-/

namespace Debugger

/-! ## The machine -/

namespace Machine

variable {m : Machine} {thread : ThreadId} {stack below : List RemoteFrame} {target : RemoteFrame}

/-- The frames of the thread were popped down to the target, which the next step is to enter again. -/
def unwound (m : Machine) (thread : ThreadId) (target : RemoteFrame) (below : List RemoteFrame) : Machine :=
  { m.mapTask thread fun t => { t with frames := below } with
    popped := m.popped ++ [(thread, target.id)]
    reentry := m.reentry.put thread target }

/-- What a pop names is the first frame of its number. -/
theorem dropWhile_of_first {index : Nat} (there : stack[index]? = some target)
    (first : ∀ above ∈ stack.take index, above.id ≠ target.id) :
    stack.dropWhile (·.id ≠ target.id) = target :: stack.drop (index + 1) := by
  have from_there : stack.drop index = target :: stack.drop (index + 1) := by
    obtain ⟨inside, rfl⟩ := List.getElem?_eq_some_iff.mp there
    exact List.drop_eq_getElem_cons inside
  have skipped : ((stack.take index) ++ stack.drop index).dropWhile (·.id ≠ target.id) =
      (stack.drop index).dropWhile (·.id ≠ target.id) := List.dropWhile_append_of_pos (by simpa using first)
  rw [List.take_append_drop, from_there, List.dropWhile_cons_of_neg (by simp)] at skipped
  exact skipped

/-- A pop is noted in any case, but the frame at the bottom stays. -/
theorem popFrames_eq (pops : m.popsFrames) (stands : m.Stands thread stack)
    (found : stack.dropWhile (·.id ≠ target.id) = target :: below) :
    popFrames thread target.id m = if below = [] then
      .error .invalidStackFrame { m with popped := m.popped ++ [(thread, target.id)] }
      else .ok () (m.unwound thread target below) := by
  obtain ⟨task, here, suspended, rfl⟩ := stands
  have able : (!m.popsFrames) = false := congrArg not pops
  have noted : findSuspended thread { m with popped := m.popped ++ [(thread, target.id)] } = .ok task _ :=
    findSuspended_stands here suspended
  rw [popFrames, act_get_bind, able]
  simp only [Bool.false_eq_true, if_false]
  rw [act_modify_bind, run_ok_bind noted, found]
  cases below with
  | nil => rfl
  | cons caller deeper => rfl

/-- Of a thread that is not suspended no frame is popped. -/
theorem popFrames_unheld (runs : m.holds thread = false) (frame : FrameId) (m' : Machine) :
    popFrames thread frame m ≠ .ok () m' := by
  intro popped
  rw [popFrames, act_get_bind] at popped
  split at popped
  · cases popped
  · -- A pop is noted before the machine looks for the thread.
    obtain ⟨_, m₁, noted, rest⟩ := bind_ok popped
    cases noted
    obtain ⟨task, m₂, found, -⟩ := bind_ok rest
    have held := holds_of_findSuspended found
    exact Bool.false_ne_true (runs.symm.trans held)

theorem stands_unwound (stands : m.Stands thread stack) (target : RemoteFrame) (below : List RemoteFrame) :
    (m.unwound thread target below).Stands thread below := by
  obtain ⟨task, here, suspended, -⟩ := stands
  refine ⟨{ task with frames := below }, ?_, suspended, rfl⟩
  refine (task?_mapTask (f := fun t => { t with frames := below }) (fun _ => by rfl) m thread).trans ?_
  rw [here]
  rfl

end Machine

variable {α : Type} {f f' : Faulty Machine} {m : Machine} {thread : ThreadId} {target : RemoteFrame}

namespace Faulty

/-- A call that the machine refuses is refused. -/
theorem Smooth.guarded_refused (h : f.Smooth) (kind : CallKind) {call : Call Machine α} {e : SessionError}
    (refused : call f.inner = .error e m) (hm : m.resumeFailures = []) :
    ∃ f', Faulty.guarded kind call f = .error e f' ∧ f.Turns m f' := by
  obtain ⟨schedule, passed, smooth⟩ := h.fault kind
  exact ⟨_, guarded_error passed refused, rfl, rfl, smooth.schedule, hm⟩

theorem popFrames_full (full : f.bare = false) (thread : ThreadId) (frame : FrameId) :
    Session.popFrames thread frame f = guarded .popFrames (Machine.popFrames thread frame) f := by
  change (do if (← get).bare then noted .popFrames (throw .unsupported) else
    guarded .popFrames (Machine.popFrames thread frame) : Call (Faulty Machine) Unit) f = _
  rw [act_get_bind, full]
  rfl

end Faulty

/-! ## The loop -/

variable {s s' : System (Faulty Machine)} {t : ThreadRef} {frames : List FrameRef} {frame : FrameRef}
  {desired size : Nat}

private theorem id_preserveFrames (s : System (Faulty Machine)) (t : ThreadRef) :
    ((s.preserveFrames t).thread t).id = (s.thread t).id := IdlePath.id (.single (.preserve s t)) t

theorem session_popFrames (s : System (Faulty Machine)) (t : ThreadRef) (frame : FrameId) :
    (s.popFrames t frame).session = stateAfter (Session.popFrames (s.thread t).id frame) s.session := by
  rw [System.popFrames, id_preserveFrames]

/-- A pop after which few enough frames are left is the only one. -/
theorem popLoop_once (bound : s.frames.remote frame = some target)
    (popped : Session.popFrames (s.thread t).id target.id s.session = .ok () f)
    (shown : stackFrames t (s.popFrames t target.id) = .ok frames s') (deep : desired < size)
    (enough : frames.length ≤ desired) : popLoop t frame desired (size + 1) size s = .ok () s' := by
  rw [← id_preserveFrames] at popped
  have asked : (ask (Session.popFrames ((s.preserveFrames t).thread t).id target.id) : Client _ _)
      (s.preserveFrames t) = .ok (.ok ()) (s.popFrames t target.id) := by
    rw [System.popFrames, stateAfter_of_ok popped]
    simp only [ask, act, show (s.preserveFrames t).session = s.session from rfl, popped]
  rw [popLoop, dif_pos ⟨by omega, deep⟩, act_get_bind, bound]
  dsimp only [Option.map_some]
  rw [act_modify_bind, act_get_bind, run_ok_bind asked]
  dsimp only
  rw [run_ok_bind shown, popLoop, dif_neg (by omega)]
  rfl

/-- A pop that fails is the last one; the client hears of it if the machine does not pop that frame. -/
theorem popLoop_fails {e : SessionError} (bound : s.frames.remote frame = some target)
    (failed : Session.popFrames (s.thread t).id target.id s.session = .error e f) (deep : desired < size) :
    popLoop t frame desired (size + 1) size s = .error (.session "popping stack frames" e)
      (if e = .invalidStackFrame then
        (s.popFrames t target.id).fire ((s.popFrames t target.id).element t) (.change .content)
      else s.popFrames t target.id) := by
  rw [← id_preserveFrames] at failed
  have asked : (ask (Session.popFrames ((s.preserveFrames t).thread t).id target.id) : Client _ _)
      (s.preserveFrames t) = .ok (.error e) (s.popFrames t target.id) := by
    rw [System.popFrames, stateAfter_of_error failed]
    simp only [ask, act, show (s.preserveFrames t).session = s.session from rfl, failed]
  rw [popLoop, dif_pos ⟨by omega, deep⟩, act_get_bind, bound]
  dsimp only [Option.map_some]
  rw [act_modify_bind, act_get_bind, run_ok_bind asked]
  by_cases refused : e = .invalidStackFrame
  · simp only [refused, if_true]
    rfl
  · simp only [refused, if_false]
    rfl

end Debugger

import Debugger.Proofs.TargetChanges

/-! # Reachable systems

A system is reachable if it comes about from an attachment by operations of the client, stretches of the
background tasks, the passing of time and whatever happens around the debugger, in any order.  What may
happen around it is a parameter: which machines are attached to, how a machine changes by itself, and
what others say on the bus.
-/

namespace Debugger

variable {σ : Type}

/-- What a client can ask for, on a thread or on the target. -/
inductive Operation where
  | name (t : ThreadRef)
  | priority (t : ThreadRef)
  | groupName (t : ThreadRef)
  | frames (t : ThreadRef)
  | newFrames (t : ThreadRef)
  | topFrame (t : ThreadRef)
  | hasFrames (t : ThreadRef)
  | frameCount (t : ThreadRef)
  | findVariable (t : ThreadRef) (name : String)
  | ownedMonitors (t : ThreadRef)
  | hasOwnedMonitors (t : ThreadRef)
  | contendedMonitor (t : ThreadRef)
  | isOutOfSync (t : ThreadRef)
  | canStep (t : ThreadRef)
  | canStepWithFilters (t : ThreadRef)
  | canDropToFrame (t : ThreadRef) (frame : FrameRef)
  | resume (t : ThreadRef)
  | resumeQuietly (t : ThreadRef)
  | terminateThread (t : ThreadRef)
  | step (t : ThreadRef) (kind : StepKind) (filters : StepFilters)
  | stepWithTargetFilters (t : ThreadRef) (kind : StepKind)
  | stepWithFilters (t : ThreadRef)
  | stepToFrame (t : ThreadRef) (frame : FrameRef)
  | dropToFrame (t : ThreadRef) (frame : FrameRef)
  | suspend (t : ThreadRef)
  | cancelWatch (n : Nat)
  | atBreakpoint (t : ThreadRef) (b : BreakpointRef) (queued : Bool)
  | atBreakpointQuietly (t : ThreadRef) (b : BreakpointRef)
  | invoke (t : ThreadRef) (target : InvokeTarget) (method : MethodRef) (args : List Value)
      (nonvirtual : Bool)
  | evaluate (t : ThreadRef) (detail : EventDetail) (honors : Bool) (body : EvaluationBody)
  | terminateEvaluation (t : ThreadRef)
  | finishEvaluation (n : Nat)
  | abandonEvaluation (n : Nat)
  | suspendAll
  | resumeAll
  | terminateTarget
  | disconnect
  | shutdown
  | release
  | setFilters (filters : StepFilters)
  | install (typeName : String) (line : Int32) (policy : SuspendPolicy)
  | remove (b : BreakpointRef)
  | addListener (l : Listener)
  | removeListener (name : String)
  | setReplacing (on : Bool)
  | recordReplaceFailure (types : List String)
  deriving Inhabited

/-- The thread whose method the operation is. -/
def Operation.thread? : Operation → Option ThreadRef
  | name t | priority t | groupName t | frames t | newFrames t | topFrame t | hasFrames t | frameCount t
  | findVariable t _ | ownedMonitors t | hasOwnedMonitors t | contendedMonitor t | isOutOfSync t | canStep t
  | canStepWithFilters t | canDropToFrame t _ | resume t | resumeQuietly t | terminateThread t | step t _ _
  | stepWithTargetFilters t _ | stepWithFilters t | stepToFrame t _ | dropToFrame t _ | suspend t
  | atBreakpoint t _ _ | atBreakpointQuietly t _ | invoke t _ _ _ _ | evaluate t _ _ _
  | terminateEvaluation t => some t
  | _ => none

/-- The thread that the operation is asked of exists. -/
def Operation.Known (s : System σ) (o : Operation) : Prop := ∀ t, o.thread? = some t → t < s.threads.size

section

variable [Session σ]

/-- The system after the operation, whether or not it succeeded. -/
def Operation.perform (s : System σ) : Operation → System σ
  | name t => stateAfter (threadName t) s
  | priority t => stateAfter (threadPriority t) s
  | groupName t => stateAfter (threadGroupName t) s
  | frames t => stateAfter (stackFrames t) s
  | newFrames t => stateAfter (newStackFrames t) s
  | topFrame t => stateAfter (Debugger.topFrame t) s
  | hasFrames t => stateAfter (hasStackFrames t) s
  | frameCount t => stateAfter (Debugger.frameCount t) s
  | findVariable t sought => stateAfter (Debugger.findVariable t sought) s
  | ownedMonitors t => stateAfter (Debugger.ownedMonitors t) s
  | hasOwnedMonitors t => stateAfter (Debugger.hasOwnedMonitors t) s
  | contendedMonitor t => stateAfter (Debugger.contendedMonitor t) s
  | isOutOfSync t => stateAfter (Debugger.isOutOfSync t) s
  | canStep t => (Debugger.canStep t s).2
  | canStepWithFilters t => (Debugger.canStepWithFilters t s).2
  | canDropToFrame t frame => (Debugger.canDropToFrame t frame s).2
  | resume t => stateAfter (Debugger.resume t) s
  | resumeQuietly t => stateAfter (Debugger.resumeQuietly t) s
  | terminateThread t => stateAfter (Debugger.terminateThread t) s
  | step t kind filters => stateAfter (Debugger.step t kind filters) s
  | stepWithTargetFilters t kind => stateAfter (Debugger.stepWithTargetFilters t kind) s
  | stepWithFilters t => stateAfter (Debugger.stepWithFilters t) s
  | stepToFrame t frame => stateAfter (Debugger.stepToFrame t frame) s
  | dropToFrame t frame => stateAfter (Debugger.dropToFrame t frame) s
  | suspend t => stateAfter (Debugger.suspend t) s
  | cancelWatch n => (Debugger.cancelWatch n s).2
  | atBreakpoint t b queued => (suspendAtBreakpoint t b queued s).2
  | atBreakpointQuietly t b => (suspendAtBreakpointQuietly t b s).2
  | invoke t target method args nonvirtual =>
    stateAfter (beginInvocation t target method args nonvirtual) s
  | evaluate t detail honors body => (Debugger.evaluate t detail honors body s).2
  | terminateEvaluation t => (Debugger.terminateEvaluation t s).2
  | finishEvaluation n => (Debugger.finishEvaluation n s).2
  | abandonEvaluation n => (Debugger.abandonEvaluation n s).2
  | suspendAll => stateAfter Debugger.suspendAll s
  | resumeAll => stateAfter Debugger.resumeAll s
  | terminateTarget => stateAfter Debugger.terminateTarget s
  | disconnect => s.disconnect
  | shutdown => { s with shutdown := true }
  | release => s.release
  | setFilters filters => { s with filters }
  | install typeName line policy => stateAfter (installBreakpoint typeName line policy) s
  | remove b => stateAfter (removeBreakpoint b) s
  | addListener l => s.addListener l
  | removeListener listener => s.removeListener listener
  | setReplacing on => { s with replacingCode := on }
  | recordReplaceFailure types => s.recordReplaceFailure types

end

/-- What is around a debugger. -/
structure Surroundings (σ : Type) where
  /-- The machines that it may be attached to. -/
  starts : σ → Prop
  /-- How a machine may change without a call of the debugger. -/
  acts : σ → σ → Prop
  /-- The events that others may publish on the bus. -/
  publishes : DebugEvent → Prop

variable [Session σ] {w : Surroundings σ}

/-- One thing that happens. -/
inductive Move (w : Surroundings σ) (s : System σ) : System σ → Prop
  | operation (o : Operation) : Move w s (o.perform s)
  | run : Move w s (runNext s).2
  | wait (time : Nat) : Move w s (s.passTime time)
  | letIn : Move w s (letInHeld s).2
  | machine {m : σ} (h : w.acts s.session m) : Move w s { s with session := m }
  | fire {e : DebugEvent} (h : w.publishes e) : Move w s { s with bus := s.bus.fire e }
  | queue {e : DebugEvent} (h : w.publishes e) : Move w s { s with bus := s.bus.queue e }

inductive Reachable (w : Surroundings σ) : System σ → Prop
  | attach {m : σ} {settings : TargetSettings} {s : System σ} (start : w.starts m)
    (h : attach m settings = .ok s) : Reachable w s
  | move {s s' : System σ} (hs : Reachable w s) (h : Move w s s') : Reachable w s'

/-- Background tasks lead from a reachable system to a reachable one. -/
theorem Reachable.settle {s : System σ} (h : Reachable w s) (fuel : Nat) :
    Reachable w (settle fuel s).2 := by
  induction fuel generalizing s with
  | zero => exact h
  | succ fuel ih =>
    rw [Debugger.settle, run_get_bind]
    split
    · exact h
    · exact ih (h.move .run)

/-- The system after a sequence of operations. -/
def System.performAll (s : System σ) (os : List Operation) : System σ :=
  os.foldl (fun s o => o.perform s) s

theorem Reachable.performAll {s : System σ} (h : Reachable w s) (os : List Operation) :
    Reachable w (s.performAll os) := by
  induction os generalizing s with
  | nil => exact h
  | cons o os ih => exact ih (h.move (.operation o))

/-! ## The changes of a move -/

omit [Session σ] in
/-- Time changes only which tasks can go on. -/
theorem core_passTime (s : System σ) (time : Nat) : (s.passTime time).core = s.core := by
  rw [System.passTime]
  generalize s.sleeping.partition (·.1 ≤ time) = parts
  obtain ⟨due, later⟩ := parts
  exact foldl_keeps (g := System.core) (fun s e => core_wake s e.2) due { s with now := time, sleeping := later }

theorem passTime_path (s : System σ) (time : Nat) : WatchPath s (s.passTime time) := .aside (core_passTime s time)

/-- Whether the operation is about an evaluation. -/
def Operation.evaluates : Operation → Bool
  | evaluate .. | terminateEvaluation _ | finishEvaluation _ | abandonEvaluation _ => true
  | _ => false

/-- Whether the operation is about a suspend request. -/
def Operation.watches : Operation → Bool
  | suspend _ | cancelWatch _ => true
  | _ => false

/-- An operation that is no step makes no step start or end. -/
theorem Operation.perform_changes (s : System σ) {o : Operation} (h : o.evaluates = false)
    (h' : o.watches = false) : Path s (o.perform s) ∨ Started s (o.perform s) := by
  cases o with
  | name t => exact .inl (threadName_idle t s).path
  | priority t => exact .inl (threadPriority_idle t s).path
  | groupName t => exact .inl (threadGroupName_idle t s).path
  | frames t => exact .inl (stackFrames_idle t s).path
  | newFrames t => exact .inl (newStackFrames_idle t s).path
  | topFrame t => exact .inl (topFrame_idle t s).path
  | hasFrames t => exact .inl (hasStackFrames_idle t s).path
  | frameCount t => exact .inl (frameCount_idle t s).path
  | findVariable t name => exact .inl (findVariable_idle t name s).path
  | ownedMonitors t => exact .inl (ownedMonitors_idle t s).path
  | hasOwnedMonitors t => exact .inl (hasOwnedMonitors_idle t s).path
  | contendedMonitor t => exact .inl (contendedMonitor_idle t s).path
  | isOutOfSync t => exact .inl (isOutOfSync_idle t s).path
  | canStep t => exact .inl (canStep_idle t s).path
  | canStepWithFilters t => exact .inl (canStepWithFilters_idle t s).path
  | canDropToFrame t frame => exact .inl (canDropToFrame_idle t frame s).path
  | resume t => exact .inl (resume_path t s)
  | resumeQuietly t => exact .inl (resumeQuietly_path t s)
  | terminateThread t => exact .inl (terminateThread_path t s)
  | step t kind filters => exact .inr (step_started t kind filters s)
  | stepWithTargetFilters t kind => exact .inr (stepWithTargetFilters_started t kind s)
  | stepWithFilters t => exact .inr (stepWithFilters_started t s)
  | stepToFrame t frame => exact .inr (stepToFrame_started t frame s)
  | dropToFrame t frame => exact .inr (dropToFrame_started t frame s)
  | atBreakpoint t b queued => exact .inl (suspendAtBreakpoint_path t b queued s)
  | atBreakpointQuietly t b => exact .inl (suspendAtBreakpointQuietly_path t b s)
  | invoke t target method args nonvirtual =>
    exact .inl (beginInvocation_path t target method args nonvirtual s)
  | evaluate | terminateEvaluation | finishEvaluation | abandonEvaluation => cases h
  | suspend | cancelWatch => cases h'
  | suspendAll => exact .inl (suspendAll_path s)
  | resumeAll => exact .inl (resumeAll_path s)
  | terminateTarget => exact .inl (terminateTarget_path s)
  | disconnect => exact .inl (Path.single (.disconnect s))
  | release => exact .inl (Path.single (.release s))
  | install typeName line policy => exact .inl (installBreakpoint_path typeName line policy s)
  | remove b => exact .inl (removeBreakpoint_path b s)
  | shutdown => exact .inl (.aside rfl rfl)
  | setFilters filters => exact .inl (.aside rfl rfl)
  | addListener l => exact .inl (.aside rfl rfl)
  | removeListener name => exact .inl (.aside rfl rfl)
  | setReplacing on => exact .inl (.aside rfl rfl)
  | recordReplaceFailure types => exact .inl (.aside rfl rfl)

theorem Operation.perform_evaluated (s : System σ) {o : Operation} (h : o.evaluates) :
    EvaluationPath s (o.perform s) := by
  cases o with
  | evaluate t detail honors body => exact evaluate_path t detail honors body s
  | terminateEvaluation t => exact terminateEvaluation_path t s
  | finishEvaluation n => exact finishEvaluation_path n s
  | abandonEvaluation n => exact abandonEvaluation_path n s
  | _ => cases h

theorem Operation.perform_watched (s : System σ) {o : Operation} (h : o.watches) : WatchPath s (o.perform s) := by
  cases o with
  | suspend t => exact suspend_path t s
  | cancelWatch n => exact cancelWatch_path n s
  | _ => cases h

theorem Operation.perform_stepPath (s : System σ) (o : Operation) : StepPath s (o.perform s) := by
  cases h : o.evaluates with
  | true => exact (o.perform_evaluated s h).stepPath
  | false =>
    cases h' : o.watches with
    | true => exact (o.perform_watched s h').stepPath
    | false => exact (o.perform_changes s h h').elim Path.stepPath Started.stepPath

/-- What a move does to a system, by the kind of changes it makes. -/
inductive MoveKind (w : Surroundings σ) (s : System σ) : System σ → Prop
  | path {s' : System σ} (h : Path s s') : MoveKind w s s'
  | started {s' : System σ} (h : Started s s') : MoveKind w s s'
  | handled {s' : System σ} (h : Handled s s') : MoveKind w s s'
  | evaluated {s' : System σ} (h : EvaluationPath s s') : MoveKind w s s'
  | watched {s' : System σ} (h : WatchPath s s') : MoveKind w s s'
  | machine {m : σ} (h : w.acts s.session m) : MoveKind w s { s with session := m }
  | fire {e : DebugEvent} (h : w.publishes e) : MoveKind w s { s with bus := s.bus.fire e }
  | queue {e : DebugEvent} (h : w.publishes e) : MoveKind w s { s with bus := s.bus.queue e }

theorem Move.kind {s s' : System σ} (h : Move w s s') : MoveKind w s s' := by
  cases h with
  | operation o =>
    cases h : o.evaluates with
    | true => exact .evaluated (o.perform_evaluated s h)
    | false =>
      cases h' : o.watches with
      | true => exact .watched (o.perform_watched s h')
      | false =>
        rcases o.perform_changes s h h' with h | h
        · exact .path h
        · exact .started h
  | run =>
    rcases runNext_turn s with ⟨n, turn⟩ | ⟨n, turn⟩ | h
    · exact .evaluated (runNext_evaluated turn)
    · exact .watched (runNext_watched turn)
    · exact .handled h
  | wait time => exact .watched (passTime_path s time)
  | letIn => exact .path (letInHeld_path s)
  | machine h => exact .machine h
  | fire h => exact .fire h
  | queue h => exact .queue h

/-! ## Occurrences -/

/-- The system with which an attachment starts: nothing is known of the machine yet. -/
def System.blank (m : σ) (settings : TargetSettings) : System σ where
  session := m
  settings := settings
  filters := .ofSettings settings.filters
  reader := (Session.events m).subscribe

private theorem addThreads_path (ids : List ThreadId) :
    Within Path (forIn ids PUnit.unit fun id _ => do
      let _ ← act (addThread id)
      return .yield PUnit.unit : Client σ PUnit) := by
  induction ids with
  | nil => exact .pure _
  | cons id ids ih =>
    simp only [List.forIn_cons, bind_assoc, pure_bind] at ih ⊢
    exact .bind (.act (addThread_path id)) fun _ => ih

theorem attach_path {m : σ} {settings : TargetSettings} {s : System σ}
    (h : attach m settings = .ok s) : Path (.blank m settings) s := by
  have path : Within Path (do
      let ids ← askFor "listing threads" Session.allThreads
      for id in ids do
        let _ ← act (addThread id)
      modify (·.fire .target .create) : Client σ Unit) :=
    .bind (askFor_within (.single .allThreads)) fun ids => .bind (addThreads_path ids) fun _ =>
      .modify fun s => Path.single (.fire fun _ => rfl)
  have path := path (.blank m settings)
  unfold attach at h
  dsimp only at h
  split at h
  case h_1 s' hs =>
    cases h
    exact stateAfter_of_ok hs ▸ path
  case h_2 => cases h

/-- One elementary thing happens, in the debugger or around it. -/
inductive Happens (w : Surroundings σ) : System σ → System σ → Prop
  | change {s s' : System σ} (h : StepChange s s') : Happens w s s'
  | machine {s : System σ} {m : σ} (h : w.acts s.session m) : Happens w s { s with session := m }
  | bus (s : System σ) (bus : Bus) : Happens w s { s with bus }

/-- What happens in a while, one elementary thing after another. -/
abbrev Course (w : Surroundings σ) : System σ → System σ → Prop := Relation.ReflTransGen (Happens w)

/-- The system comes about, if only in the midst of an operation. -/
def Occurs (w : Surroundings σ) (s : System σ) : Prop :=
  ∃ m settings, w.starts m ∧ Course w (.blank m settings) s

theorem StepPath.course {s s' : System σ} (h : StepPath s s') : Course w s s' :=
  Relation.ReflTransGen.mono (fun _ _ => .change) _ _ h

theorem Move.course {s s' : System σ} (hm : Move w s s') : Course w s s' := by
  cases hm.kind with
  | path h => exact h.stepPath.course
  | started h => exact h.stepPath.course
  | handled h => exact h.stepPath.course
  | evaluated h => exact h.stepPath.course
  | watched h => exact h.stepPath.course
  | machine h => exact .single (.machine h)
  | fire h => exact .single (.bus _ _)
  | queue h => exact .single (.bus _ _)

theorem Occurs.course {s s' : System σ} (h : Occurs w s) (course : Course w s s') : Occurs w s' := by
  obtain ⟨m, settings, start, before⟩ := h
  exact ⟨m, settings, start, before.trans course⟩

theorem Reachable.occurs {s : System σ} (h : Reachable w s) : Occurs w s := by
  induction h with
  | attach start h => exact ⟨_, _, start, (attach_path h).stepPath.course⟩
  | move _ hm ih => exact ih.course hm.course

/-! ## Invariants -/

/-- A property that attachments establish and that every change keeps. -/
structure Invariant (w : Surroundings σ) (I : System σ → Prop) : Prop where
  blank {m : σ} (settings : TargetSettings) : w.starts m → I (.blank m settings)
  change {s s' : System σ} : StepChange s s' → I s → I s'
  machine {s : System σ} {m : σ} : w.acts s.session m → I s → I { s with session := m }
  bus {s : System σ} (bus : Bus) : I s → I { s with bus }

theorem Invariant.happens {I : System σ → Prop} (hI : Invariant w I) {s s' : System σ}
    (h : Happens w s s') (hs : I s) : I s' := by
  cases h with
  | change h => exact hI.change h hs
  | machine h => exact hI.machine h hs
  | bus bus => exact hI.bus bus hs

theorem Invariant.course {I : System σ → Prop} (hI : Invariant w I) {s s' : System σ}
    (h : Course w s s') (hs : I s) : I s' := by
  induction h with
  | refl => exact hs
  | tail _ hc ih => exact hI.happens hc ih

theorem Invariant.occurs {I : System σ → Prop} (hI : Invariant w I) {s : System σ} (h : Occurs w s) :
    I s := by
  obtain ⟨m, settings, start, course⟩ := h
  exact hI.course course (hI.blank settings start)

theorem Invariant.stepPath {I : System σ → Prop} (hI : Invariant w I) {s s' : System σ}
    (h : StepPath s s') (hs : I s) : I s' := hI.course h.course hs

theorem Invariant.reachable {I : System σ → Prop} (hI : Invariant w I) {s : System σ}
    (h : Reachable w s) : I s := hI.occurs h.occurs

end Debugger

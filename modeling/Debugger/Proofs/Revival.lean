import Debugger.Proofs.BreakpointHits
import Debugger.Proofs.DeadThreads
import Debugger.Proofs.MachineSurroundings

/-! # Dead threads that run again

A thread that has terminated does not run, unless everything is resumed while it is still listed, or it is
resumed after a hit that a listener objects to: neither asks whether the thread lives.  Nothing else that
clients, tasks or events do makes a dead thread run.
-/

namespace Debugger

variable {σ : Type}

/-- A thread that has terminated does not run. -/
def Thread.AtPeace (th : Thread) : Prop := th.terminated → th.running = false

/-- The thread, once at peace, is so afterwards. -/
abbrev Rests (t : ThreadRef) : System σ → System σ → Prop := Retains Thread.AtPeace t

namespace Rests

variable {s s' s₁ : System σ} {t u : ThreadRef}

/-- An update that is about neither the life of a thread nor whether it runs. -/
theorem mapAside (s : System σ) (u : ThreadRef) {f : Thread → Thread}
    (h : ∀ th, ((f th).terminated, (f th).running) = (th.terminated, th.running)) :
    Rests t s (s.mapThread u f) :=
  Retains.mapThread s u fun _ hp ht => by
    obtain ⟨terminated, running⟩ := Prod.mk.inj (h (s.thread t))
    exact running.trans (hp (terminated.symm.trans ht))

theorem stopRunning (s : System σ) (u : ThreadRef) : Rests t s (s.stopRunning u) :=
  Retains.mapThread s u fun _ _ _ => rfl

theorem setStepping (s : System σ) (u : ThreadRef) (st : Option Stepping) :
    Rests t s (s.mapThread u (·.setStepping st)) := mapAside s u fun _ => rfl

/-- A thread that lives, or another one, may run. -/
theorem setRunning (s : System σ) (h : u = t → (s.thread t).terminated = false) :
    Rests t s (s.mapThread u (·.setRunning true)) :=
  Retains.mapThread s u fun hu _ dead => by
    rw [show ((s.thread t).setRunning true).terminated = (s.thread t).terminated from rfl, h hu] at dead
    cases dead

theorem startRunning (s : System σ) (h : u = t → (s.thread t).terminated = false) :
    Rests t s (s.startRunning u) :=
  trans_of (Rests t) (setRunning s h) (Retains.aside (mapAside _ u (f := Thread.markStale) fun _ => rfl) rfl)

/-- Only a thread that lives is suspended. -/
theorem startSuspended (hs : (s.thread u).isSuspended) : Rests t s (s.startRunning u) :=
  startRunning s fun hu => by
    subst hu
    exact (Bool.not_eq_true' _).mp (Bool.and_eq_true_iff.mp hs).2

theorem bury (s : System σ) (u : ThreadRef) : Rests t s (s.bury u) :=
  System.bury_within (.mapThread s u fun _ _ _ => rfl) fun _ _ => .of_eq rfl

theorem suspendListed (s : System σ) : Rests t s s.suspendListed :=
  System.suspendListed_within (fun _ => .of_eq rfl) stopRunning s

private theorem terminated_startRunning (s : System σ) (u t : ThreadRef) :
    ((s.startRunning u).thread t).terminated = (s.thread t).terminated :=
  System.startRunning_keeps (g := Thread.terminated) (fun _ => rfl) s u t

/-- Resuming all that is listed resumes no dead thread that is not. -/
theorem resumeListed (h : (s.thread t).terminated → t ∉ s.registry) : Rests t s s.resumeListed := by
  have started (us : List ThreadRef) (s : System σ) (h : (s.thread t).terminated → t ∉ us) :
      Rests t s (us.foldl System.startRunning s) := by
    induction us generalizing s with
    | nil => exact refl_of (Rests t) s
    | cons u us ih =>
      refine trans_of (Rests t) (startRunning s ?_) (ih _ fun dead hm => ?_)
      · rintro rfl
        exact Bool.eq_false_iff.mpr fun dead => h dead List.mem_cons_self
      · rw [terminated_startRunning] at dead
        exact h dead (List.mem_cons_of_mem u hm)
  have start : Rests t s { s with suspended := false } := .of_eq rfl
  exact trans_of (Rests t) start (started s.registry _ h)

theorem threadDied (s : System σ) (id : ThreadId) : Rests t s (s.threadDied id) :=
  System.threadDied_within (fun _ _ => .of_eq rfl) (fun _ _ => .of_eq rfl) bury s id

theorem disconnect (s : System σ) : Rests t s s.disconnect :=
  System.disconnect_within (fun _ => .of_eq rfl) bury (fun _ => .of_eq rfl) s

theorem arrive (s : System σ) (u : ThreadRef) (b : BreakpointRef) : Rests t s (s.arrive u b) :=
  mapAside s u fun _ => rfl

theorem stopAt (s : System σ) (u : ThreadRef) (b : BreakpointRef) (all : Bool) :
    Rests t s (s.stopAt u b all) := System.stopAt_within (arrive s u b) suspendListed (stopRunning · u) all

/-- A thread that is new and dead does not run. -/
theorem enlist (s : System σ) {th : Thread} (fresh : th.AtPeace) : Rests t s (s.enlist th) := fun ht => by
  rw [thread_enlist]
  split
  · exact fresh
  · exact ht

theorem wake (h : Rests t s s₁) (task : TaskId) : Rests t s (s₁.wake task) :=
  h.aside (congrArg Core.threads (core_wake s₁ task))

end Rests

variable [Session σ] {s s' : System σ} {t u : ThreadRef}

instance (t : ThreadRef) : AllowsCalls (Rests (σ := σ) t) where
  exchange _ := .of_eq rfl

/-- What leaves running, suspension and steps alone leaves the dead alone. -/
theorem IdlePath.rests (h : IdlePath s s') : Rests t s s' := fun ht dead => by
  have stance := h.stance t
  exact (congrArg Thread.running stance).trans (ht ((congrArg Thread.terminated stance).symm.trans dead))

private theorem idle_rests {α : Type} {op : Client σ α} (h : Within IdlePath op) : Within (Rests t) op :=
  h.mono IdlePath.rests

/-! ## Operations -/

theorem deleteStepRequest_rests (request : RequestId) (s : System σ) :
    Rests t s (deleteStepRequest request s).2 := by
  rw [deleteStepRequest_state]
  exact .of_eq rfl

theorem abortStep_rests (u : ThreadRef) : Debug.Within (Rests t) (abortStep u : Debug σ _) := fun s => by
  cases hp : (s.thread u).stepping with
  | none =>
    rw [abortStep_none hp]
    exact refl_of (Rests t) s
  | some st =>
    rw [abortStep_some hp]
    exact trans_of (Rests t) (.setStepping s u none) (deleteStepRequest_rests st.request _)

theorem stepEnd_rests (u : ThreadRef) (request : Option RequestId) (s : System σ) :
    Rests t s (stepEnd u request s).2 := by
  have ended : Rests t s ((s.stopRunning u).mapThread u (·.setStepping none)) :=
    trans_of (Rests t) (.stopRunning s u) (.setStepping _ u none)
  cases request with
  | none => exact ended.aside rfl
  | some request =>
    rw [stepEnd_some]
    exact (trans_of (Rests t) ended (deleteStepRequest_rests request _)).aside rfl

private theorem resumeThread_rests (u : ThreadRef) (notify : Bool) :
    Within (Rests t) (resumeThread u notify : Client σ _) := fun _ =>
  resumeThread_within notify (fun _ => .of_eq rfl) Rests.startSuspended (fun _ => .of_eq rfl) (Rests.bury · u)
    fun s => (Rests.stopRunning s u).aside rfl

private theorem terminateTarget_rests : Within (Rests t) (terminateTarget : Client σ _) :=
  terminateTarget_within (fun _ => .of_eq rfl) Rests.disconnect

theorem runStep_rests (u : ThreadRef) (forced : Bool) (s : System σ) :
    Rests t s (stateAfter (runStep u forced) s) := by
  cases h : letRun (s.thread u).id forced s.session with
  | ok v m =>
    rw [stateAfter_of_ok (runStep_ok h)]
    exact .of_eq rfl
  | error e m =>
    rw [stateAfter_of_error (runStep_error h), System.stepFailed]
    have called : Rests t s { s with session := m } := .of_eq rfl
    exact (trans_of (Rests t) called (stepEnd_rests u _ _)).aside rfl

omit [Session σ] in
private theorem enterStep_rests (st : Stepping) (m : σ) (hs : (s.thread u).isSuspended) :
    Rests t s (s.enterStep u st m) := by
  have marked : Rests t s ({ s with session := m }.mapThread u (·.setStepping (some st))) :=
    (Rests.setStepping s u (some st)).aside rfl
  have suspended : (({ s with session := m }.mapThread u (·.setStepping (some st))).thread u).isSuspended :=
    (System.mapThread_keeps (g := Thread.isSuspended) (f := (·.setStepping (some st))) (fun _ => by rfl)
      { s with session := m } u u).trans hs
  exact (trans_of (Rests t) marked (.startSuspended suspended)).aside rfl

private theorem startStep_rests (u : ThreadRef) (kind : StepKind) (filters : StepFilters) (requested : Bool) :
    Within (Rests t) (startStep u kind filters requested : Client σ _) := by
  intro s
  cases ha : s.targetAlive with
  | false =>
    rw [startStep, stateAfter_bind_error (needTarget_gone ha)]
    exact refl_of (Rests t) s
  | true =>
    have idle := stackFrames_idle u s
    cases hf : stackFrames u s with
    | error e s₁ =>
      rw [stateAfter_of_error hf] at idle
      rw [startStep, stateAfter_bind_ok (needTarget_alive ha), stateAfter_bind_error hf]
      exact idle.rests
    | ok frames s₁ =>
      rw [stateAfter_of_ok hf] at idle
      rw [startStep_state kind filters requested ha hf]
      refine trans_of (Rests t) idle.rests ?_
      cases hr : frames.head?.bind s₁.frames.remote with
      | none => exact refl_of (Rests t) s₁
      | some top =>
        have hne : frames ≠ [] := by
          rintro rfl
          cases hr
        have suspended := (idle.isSuspended u).trans (computeFrames_ok hf hne).1
        dsimp only
        cases Session.createStepRequest (Stepping.nextRequest kind
          ⟨kind.depth, top.location, frames.length⟩ filters requested (s₁.thread u).id) s₁.session with
        | error e m => exact .of_eq rfl
        | ok request m =>
          have entered (st : Stepping) :
              Rests t s₁ ((s₁.enterStep u st m).fire (s₁.element u) (.resume kind.detail)) :=
            (enterStep_rests st m suspended).aside rfl
          exact trans_of (Rests t) (entered _) (runStep_rests u kind.forcesReturn _)

/-- What is done after the question whether the thread can step. -/
private theorem canStepThen_rests {op : Client σ Unit} (u : ThreadRef) (h : Within (Rests t) op) :
    Within (Rests t) (do if ← act (canStep u) then op : Client σ Unit) :=
  .bind (.act ((canStep_idle u).mono IdlePath.rests)) fun _ => .ite h (.pure _)

private theorem stepWithTargetFilters_rests (u : ThreadRef) (kind : StepKind) :
    Within (Rests t) (stepWithTargetFilters u kind : Client σ _) :=
  .bind .needTarget fun _ => .get_bind fun s => canStepThen_rests u (startStep_rests u kind s.filters false) s

private theorem stepWithFilters_rests (u : ThreadRef) : Within (Rests t) (stepWithFilters u : Client σ _) :=
  .bind .needTarget fun _ => .get_bind fun s => by
    dsimp only
    split
    · exact canStepThen_rests u (startStep_rests u .into _ true) s
    · exact refl_of (Rests t) s

private theorem stepToFrame_rests (u : ThreadRef) (frame : FrameRef) :
    Within (Rests t) (stepToFrame u frame : Client σ _) :=
  .bind .needTarget fun _ => .get_bind fun s => by
    refine canStepThen_rests u (.bind (idle_rests (locate_idle u frame)) fun p => ?_) s
    exact startStep_rests u _ s.filters false

private theorem dropToFrame_rests (u : ThreadRef) (frame : FrameRef) :
    Within (Rests t) (dropToFrame u frame : Client σ _) :=
  .bind .needTarget fun _ => .get_bind fun s => by
    refine canStepThen_rests u (.bind (idle_rests (locate_idle u frame)) fun p => ?_) s
    refine .get_bind fun s' => ?_
    split
    · exact Within.bind (idle_rests (popLoop_idle u frame _ _ _)) (fun _ => startStep_rests u .into _ false) s'
    · exact startStep_rests u _ _ false s'

private theorem suspend_rests (u : ThreadRef) : Within (Rests t) (suspend u : Client σ _) :=
  .bind (.act (abortStep_rests u)) fun _ => .get_bind fun s => by
    split
    · exact refl_of (Rests t) s
    · refine Within.bind (.modify fun s => .mapAside s u fun _ => rfl) (fun _ => ?_) s
      exact .modifyGet fun s => .of_eq (congrArg Core.threads (core_wake _ _))

omit [Session σ] in
private theorem cancelWatch_rests (n : Nat) : Debug.Within (Rests t) (cancelWatch n : Debug σ _) :=
  .get_bind fun s => by
    rcases s.watches[n]? with _ | ⟨u, state, cancelled⟩
    · exact refl_of (Rests t) s
    cases state with
    | done r => exact refl_of (Rests t) s
    | asking => exact .of_eq (congrArg Core.threads (core_wake _ _))
    | polling deadline => exact .of_eq (congrArg Core.threads (core_wake _ _))

theorem beginInvocation_rests (u : ThreadRef) (target : InvokeTarget) (method : MethodRef)
    (args : List Value) (nonvirtual : Bool) :
    Within (Rests t) (beginInvocation u target method args nonvirtual : Client σ _) := by
  intro s
  rcases beginInvocation_cases u target method args nonvirtual s with ⟨e, h⟩ | ⟨-, -, hs, call, h⟩
  · rw [stateAfter_of_error h]
    exact refl_of (Rests t) s
  · let marked := s.mapThread u fun th => { th with invoking := true }
    have suspended : (marked.thread u).isSuspended :=
      (System.mapThread_keeps (g := Thread.isSuspended) (fun _ => by rfl) s u u).trans hs
    have entered : Rests t s (s.enterInvocation u call) :=
      (trans_of (Rests t) (.mapAside s u (f := fun th => { th with invoking := true }) fun _ => rfl)
        (Rests.startSuspended (s := marked) suspended)).aside
        (congrArg System.threads (System.liftTimeout_rest (marked.startRunning u) s.session) :)
    rw [stateAfter_of_ok h]
    exact entered.wake _

omit [Session σ] in
/-- Stopping one thread, or all that are listed, before the listeners are asked. -/
private theorem terminated_stopAt (s : System σ) (u : ThreadRef) (b : BreakpointRef) (all : Bool)
    (t : ThreadRef) : ((s.stopAt u b all).thread t).terminated = (s.thread t).terminated := by
  have stopped (s : System σ) (u : ThreadRef) : ((s.stopRunning u).thread t).terminated = (s.thread t).terminated :=
    System.mapThread_keeps (g := Thread.terminated) (fun _ => by rfl) s u t
  have arrived : ((s.arrive u b).thread t).terminated = (s.thread t).terminated :=
    System.mapThread_keeps (g := Thread.terminated) (fun _ => by rfl) s u t
  cases all with
  | true =>
    exact (foldl_keeps (g := fun s : System σ => (s.thread t).terminated) stopped s.registry
      { s.arrive u b with suspended := true }).trans arrived
  | false => exact (stopped _ u).trans arrived

/-- A listener objects to the hit of a breakpoint, whereupon a dead thread is made to run. -/
def System.vetoRevives (s : System σ) (t u : ThreadRef) (b : BreakpointRef) (queued : Bool) : Bool :=
  !(suspendAtBreakpoint u b queued s).1 && (s.thread t).terminated &&
    (u = t || (s.breakpoint b).policy = .vm && s.registry.contains t)

theorem suspendAtBreakpoint_rests {b : BreakpointRef} {queued : Bool}
    (h : s.vetoRevives t u b queued = false) : Rests t s (suspendAtBreakpoint u b queued s).2 := by
  rw [System.vetoRevives, suspendAtBreakpoint_eq] at h
  rw [suspendAtBreakpoint_eq]
  have all : s.stopsAll b = true → (s.breakpoint b).policy = .vm := fun ha =>
    of_decide_eq_true (Bool.and_eq_true_iff.mp ha).1
  have stopped : Rests t s (s.stopAt u b (s.stopsAll b)) := .stopAt s u b _
  have alive := terminated_stopAt s u b (s.stopsAll b) t
  have registry : (s.stopAt u b (s.stopsAll b)).registry = s.registry := by
    cases s.stopsAll b with
    | true => exact (congrArg System.registry (System.suspendListed_rest (s.arrive u b)) :)
    | false => rfl
  generalize s.stopAt u b (s.stopsAll b) = s₁ at h stopped alive registry ⊢
  have asked : (s₁.judge u (s.breakpoint b) s.targetAlive).2.threads = s₁.threads ∧
      (s₁.judge u (s.breakpoint b) s.targetAlive).2.registry = s₁.registry := by
    cases s.targetAlive <;> exact ⟨rfl, rfl⟩
  dsimp only at h ⊢
  generalize s₁.judge u (s.breakpoint b) s.targetAlive = r at h asked ⊢
  obtain ⟨stays, s₂⟩ := r
  obtain ⟨threads, listed⟩ := asked
  have so_far : Rests t s s₂ := stopped.aside threads
  cases stays with
  | true =>
    have told : Rests t s₂ (if s.stopsAll b then s₂.publish queued .target (.suspend .breakpoint) else s₂) := by
      split
      · cases queued <;> exact .of_eq rfl
      · exact refl_of (Rests t) s₂
    have aborted := trans_of (Rests t) told (abortStep_rests u _)
    cases queued <;> exact (trans_of (Rests t) so_far aborted).aside rfl
  | false =>
    have same : (s₂.thread t).terminated = (s.thread t).terminated := by
      rw [System.thread_congr threads]
      exact alive
    refine trans_of (Rests t) so_far ?_
    cases ha : s.stopsAll b with
    | true =>
      refine .resumeListed fun dead hm => ?_
      rw [same] at dead
      rw [listed, registry] at hm
      simp [dead, all ha, hm] at h
    | false =>
      refine .startRunning s₂ fun hu => same.trans (Bool.eq_false_iff.mpr fun dead => ?_)
      simp [dead, hu] at h

private theorem suspendAtBreakpointQuietly_rests (u : ThreadRef) (b : BreakpointRef) :
    Debug.Within (Rests t) (suspendAtBreakpointQuietly u b : Debug σ _) :=
  .bind (.modify fun s => .stopAt s u b false) fun _ => .bind (abortStep_rests u) fun _ => .pure _

omit [Session σ] in
theorem beginEvaluation_rests (u : ThreadRef) (detail : EventDetail) (honors : Bool) :
    Within (Rests t) (beginEvaluation u detail honors : Client σ _) :=
  .get_bind fun s => by
    split
    · exact refl_of (Rests t) s
    · have begun : Rests t s ({ s with nextToken := s.nextToken + 1 }.mapThread u fun th =>
          { th with evaluation := some ⟨s.nextToken, honors, false⟩ }) :=
        Rests.mapAside { s with nextToken := s.nextToken + 1 } u fun _ => rfl
      exact begun.aside rfl

omit [Session σ] in
theorem endEvaluation_rests (s : System σ) (u : ThreadRef) (detail : EventDetail) :
    Rests t s (s.endEvaluation u detail) :=
  Retains.aside (Rests.mapAside s u (f := fun th => { th with evaluation := none }) fun _ => rfl) rfl

omit [Session σ] in
private theorem terminateEvaluation_rests (u : ThreadRef) :
    Debug.Within (Rests t) (terminateEvaluation u : Debug σ _) :=
  .get_bind fun s => by
    rcases (s.thread u).evaluation with _ | e
    · exact refl_of (Rests t) s
    · have marked : Rests t s
          (s.mapThread u fun th => { th with evaluation := some { e with cancelled := true } }) :=
        .mapAside s u fun _ => rfl
      exact marked.aside (congrArg Core.threads (core_wakeEvaluations _ _))

omit [Session σ] in
private theorem finishEvaluation_rests (n : Nat) : Debug.Within (Rests t) (finishEvaluation n : Debug σ _) :=
  .get_bind fun s => by
    rcases s.evaluations[n]? with _ | ⟨u, detail, honors, body, token, finish, state⟩
    · exact refl_of (Rests t) s
    cases state with
    | done r => exact refl_of (Rests t) s
    | _ => exact .of_eq (congrArg Core.threads (core_wake (s.setEvaluation n fun e => { e with finish := true }) _))

omit [Session σ] in
private theorem abandonEvaluation_rests (n : Nat) : Debug.Within (Rests t) (abandonEvaluation n : Debug σ _) :=
  .get_bind fun s => by
    rcases s.evaluations[n]? with _ | ⟨u, detail, honors, body, token, finish, state⟩
    · exact refl_of (Rests t) s
    cases state with
    | done r => exact refl_of (Rests t) s
    | starting => exact .of_eq rfl
    | waiting => exact (endEvaluation_rests s u detail).aside rfl
    | invoking m => exact (endEvaluation_rests s u detail).aside rfl

private theorem suspendAll_rests : Within (Rests t) (suspendAll : Client σ _) :=
  .bind (askFor_within (.single .suspendVm)) fun _ => .modify fun s => (Rests.suspendListed s).aside rfl

private theorem resumeAll_rests (h : (s.thread t).terminated → t ∉ s.registry) :
    Rests t s (stateAfter resumeAll s) := by
  have resumed : Rests t s (s.resumeListed.fire .target (.resume .clientRequest)) := (Rests.resumeListed h).aside rfl
  exact trans_of (Rests t) resumed (askFor_within (.single .resumeVm) _)

private theorem installBreakpoint_rests (typeName : String) (line : Int32) (policy : SuspendPolicy) :
    Within (Rests t) (installBreakpoint typeName line policy : Client σ _) :=
  .bind (.askFor fun _ => .of_eq rfl) fun _ => .modifyGet fun _ => .of_eq rfl

private theorem removeBreakpoint_rests (b : BreakpointRef) :
    Within (Rests t) (removeBreakpoint b : Client σ _) :=
  .get_bind fun s => by
    have left (s : System σ) (u : ThreadRef) : Rests t s (s.leaveBreakpoint b u) := .mapAside s u fun _ => rfl
    have all : Rests t s (s.uninstall b) := System.uninstall_within (fun _ _ => .of_eq rfl) left s
    exact trans_of (Rests t) all (askFor_within (.single (.deleteBreakpoint _)) _)

/-- The operation makes a dead thread run. -/
def Operation.revives (t : ThreadRef) (s : System σ) : Operation → Bool
  | resumeAll => (s.thread t).terminated && s.registry.contains t
  | atBreakpoint u b queued => s.vetoRevives t u b queued
  | _ => false

theorem Operation.rests {o : Operation} (h : o.revives t s = false) : Rests t s (o.perform s) := by
  cases o with
  | name u => exact (threadName_idle u s).rests
  | priority u => exact (threadPriority_idle u s).rests
  | groupName u => exact (threadGroupName_idle u s).rests
  | frames u => exact (stackFrames_idle u s).rests
  | newFrames u => exact (newStackFrames_idle u s).rests
  | topFrame u => exact (topFrame_idle u s).rests
  | hasFrames u => exact (hasStackFrames_idle u s).rests
  | frameCount u => exact (frameCount_idle u s).rests
  | findVariable u sought => exact (findVariable_idle u sought s).rests
  | ownedMonitors u => exact (ownedMonitors_idle u s).rests
  | hasOwnedMonitors u => exact (hasOwnedMonitors_idle u s).rests
  | contendedMonitor u => exact (contendedMonitor_idle u s).rests
  | isOutOfSync u => exact (isOutOfSync_idle u s).rests
  | canStep u => exact (canStep_idle u s).rests
  | canStepWithFilters u => exact (canStepWithFilters_idle u s).rests
  | canDropToFrame u frame => exact (canDropToFrame_idle u frame s).rests
  | resume u => exact resumeThread_rests u true s
  | resumeQuietly u => exact resumeThread_rests u false s
  | terminateThread u => exact Within.bind .needTarget (fun _ => terminateTarget_rests) s
  | step u kind filters => exact canStepThen_rests u (startStep_rests u kind filters false) s
  | stepWithTargetFilters u kind => exact stepWithTargetFilters_rests u kind s
  | stepWithFilters u => exact stepWithFilters_rests u s
  | stepToFrame u frame => exact stepToFrame_rests u frame s
  | dropToFrame u frame => exact dropToFrame_rests u frame s
  | suspend u => exact suspend_rests u s
  | cancelWatch n => exact cancelWatch_rests n s
  | atBreakpoint u b queued => exact suspendAtBreakpoint_rests h
  | atBreakpointQuietly u b => exact suspendAtBreakpointQuietly_rests u b s
  | invoke u target method args nonvirtual => exact beginInvocation_rests u target method args nonvirtual s
  | evaluate u detail honors body =>
    exact .of_eq (congrArg Core.threads (core_wake
      { s with evaluations := s.evaluations.push ⟨u, detail, honors, body, 0, false, .starting⟩ } _))
  | terminateEvaluation u => exact terminateEvaluation_rests u s
  | finishEvaluation n => exact finishEvaluation_rests n s
  | abandonEvaluation n => exact abandonEvaluation_rests n s
  | suspendAll => exact suspendAll_rests s
  | resumeAll =>
    refine resumeAll_rests fun dead hm => ?_
    simp [revives, dead, hm] at h
  | terminateTarget => exact terminateTarget_rests s
  | disconnect => exact .disconnect s
  | release =>
    rw [perform, System.release]
    dsimp only
    split
    · exact .of_eq rfl
    · exact .of_eq rfl
  | install typeName line policy => exact installBreakpoint_rests typeName line policy s
  | remove b => exact removeBreakpoint_rests b s
  | _ => exact .of_eq rfl

end Debugger

import Debugger.Proofs.Handling

/-! # What goes on apart from breakpoints

Most of what the debugger does installs and removes no breakpoint, hits none, and makes a thread run only
if it was suspended or steps.  It comes to the upkeep of the threads there are: operations and background tasks do no
more, and a relation that allows as much holds across all of it.
-/

namespace Debugger

variable {σ α : Type}

/-- The announcement is neither the first nor the last one of its source. -/
def Announcement.isPassing : Announcement → Bool
  | create | terminate => false
  | _ => true

theorem mem_charges_of_watch {s : System σ} {n : Nat} {w : Watch} (task : s.watches[n]? = some w) :
    w.thread ∈ s.charges :=
  List.mem_append_left _ (List.mem_map_of_mem (Array.mem_toList_iff.mpr (Array.mem_of_getElem? task)))

theorem mem_charges_of_evaluation {s : System σ} {n : Nat} {e : EvaluationTask}
    (task : s.evaluations[n]? = some e) : e.thread ∈ s.charges :=
  List.mem_append_right _ (List.mem_map_of_mem (Array.mem_toList_iff.mpr (Array.mem_of_getElem? task)))

/-- A relation that allows the upkeep of the threads there are, and announcements by those that are known. -/
class AllowsUpkeep (known : outParam (ThreadRef → Prop)) (R : System σ → System σ → Prop) : Prop
    extends AllowsHandling known R where
  /-- An announcement about the target. -/
  proclaim (s : System σ) (a : Announcement) : R s (s.fire .target a)
  fire (s : System σ) {t : ThreadRef} {a : Announcement} (ht : known t) (h : a.isPassing) :
    R s (s.fire (s.element t) a)
  flush (s : System σ) : R s s.flush
  /-- A new task about a thread. -/
  charge {s s' : System σ} {t : ThreadRef} (ht : known t) (posts : s'.posts = s.posts) (bus : s'.bus = s.bus)
    (h : ∀ u ∈ s'.charges, u = t ∨ u ∈ s.charges) : R s s'
  run {s : System σ} {t : ThreadRef} (hs : (s.thread t).isSuspended) : R s (s.startRunning t)

section

variable {known : ThreadRef → Prop} {R : System σ → System σ → Prop} [AllowsUpkeep known R] {s s₁ s' : System σ}

include known

theorem upkeep_wake (h : R s s₁) (task : TaskId) : R s (s₁.wake task) :=
  handling_aside h (s₁.affairs_wake task)

theorem preserveFrames_upkeep (s : System σ) (t : ThreadRef) : R s (s.preserveFrames t) :=
  handling_aside (AllowsHandling.update s t (f := Thread.markStale) fun _ => rfl) rfl

theorem updateFrames_upkeep (s : System σ) (t : ThreadRef) (remote : List RemoteFrame) :
    R s (s.updateFrames t remote) := by
  have rest := System.updateFrames_rest s t remote
  have others : ((s.updateFrames t remote).registry, (s.updateFrames t remote).installed,
      (s.updateFrames t remote).breakpoints) = (s.registry, s.installed, s.breakpoints) :=
    (congrArg (fun s : System σ => (s.registry, s.installed, s.breakpoints)) rest :)
  have said : ((s.updateFrames t remote).bus, (s.updateFrames t remote).charges) = (s.bus, s.charges) :=
    (congrArg (fun s : System σ => (s.bus, s.charges)) rest :)
  rcases s.threads_updateFrames t remote with h | ⟨hs, h⟩
  · exact AllowsHandling.aside (Prod.ext (Prod.ext h others) said)
  · have updated : R s (s.mapThread t fun th => { th with frames := hs, refresh := false }) :=
      AllowsHandling.update s t fun _ => rfl
    exact handling_aside updated (Prod.ext (Prod.ext h others) said)

theorem endEvaluation_upkeep (s : System σ) {t : ThreadRef} (ht : known t) (detail : EventDetail) :
    R s (s.endEvaluation t detail) := by
  have done : R s (s.mapThread t fun th => { th with evaluation := none }) := AllowsHandling.update s t fun _ => rfl
  have same := System.element_mapThread (f := fun th => { th with evaluation := none }) (fun _ => rfl) s t t
  have told := trans_of R done (AllowsUpkeep.fire _ ht (a := .suspend detail) rfl)
  rwa [same] at told

theorem beginEvaluation_upkeep {t : ThreadRef} (ht : known t) (detail : EventDetail) (honors : Bool) :
    Within R (beginEvaluation t detail honors : Client σ _) :=
  .get_bind fun s => by
    split
    · exact refl_of R s
    · have marked : R { s with nextToken := s.nextToken + 1 } ({ s with nextToken := s.nextToken + 1 }.mapThread t
          fun th => { th with evaluation := some ⟨s.nextToken, honors, false⟩ }) :=
        AllowsHandling.update _ t fun _ => rfl
      have token : R s { s with nextToken := s.nextToken + 1 } := AllowsHandling.aside rfl
      exact trans_of R (trans_of R token marked) (AllowsUpkeep.fire _ ht rfl)

end

section

variable [Session σ] {known : ThreadRef → Prop} {R : System σ → System σ → Prop} [AllowsUpkeep known R] {s s' : System σ}
  {t : ThreadRef}

include known

/-! ## Looks -/

theorem allowsLooks (t : ThreadRef) : AllowsLooks R t where
  inquiry _ := AllowsHandling.aside rfl
  look {s _ m} _ _ := by
    have called : R s { s with session := m } := AllowsHandling.aside rfl
    exact trans_of R called (updateFrames_upkeep _ t _)
  groupName s _ := AllowsHandling.update s t fun _ => rfl

theorem popLoop_upkeep {t : ThreadRef} (ht : known t) (frame : FrameRef) (desired last size : Nat) :
    Within R (popLoop t frame desired last size : Client σ _) :=
  popLoop_within (allowsLooks t) (fun s _ => handling_aside (preserveFrames_upkeep s t) rfl)
    (fun s => AllowsUpkeep.fire s ht rfl) frame desired last size

/-! ## Steps -/

theorem runStep_upkeep {t : ThreadRef} (ht : known t) (forced : Bool) (s : System σ) :
    R s (stateAfter (runStep t forced) s) := by
  cases h : letRun (s.thread t).id forced s.session with
  | ok v m =>
    rw [stateAfter_of_ok (runStep_ok h)]
    exact AllowsHandling.aside rfl
  | error e m =>
    rw [stateAfter_of_error (runStep_error h), System.stepFailed]
    have called : R s { s with session := m } := AllowsHandling.aside rfl
    exact trans_of R (trans_of R called (stepEnd_handling ht _ _)) (AllowsUpkeep.flush _)

omit [Session σ] in
private theorem enterStep_upkeep (st : Stepping) (m : σ) (hs : (s.thread t).isSuspended) :
    R s (s.enterStep t st m) := by
  have called : R s { s with session := m } := AllowsHandling.aside rfl
  have marked := trans_of R called (setStepping_handling { s with session := m } t (some st))
  have suspended : (({ s with session := m }.mapThread t (·.setStepping (some st))).thread t).isSuspended :=
    (System.mapThread_keeps (g := Thread.isSuspended) (f := (·.setStepping (some st))) (fun _ => by rfl)
      { s with session := m } t t).trans hs
  exact handling_aside (trans_of R marked (AllowsUpkeep.run suspended)) rfl

theorem startStep_upkeep {t : ThreadRef} (ht : known t) (kind : StepKind) (filters : StepFilters) (requested : Bool) :
    Within R (startStep t kind filters requested : Client σ _) := by
  intro s
  cases ha : s.targetAlive with
  | false =>
    rw [startStep, stateAfter_bind_error (needTarget_gone ha)]
    exact refl_of R s
  | true =>
    have looked : R s (stateAfter (stackFrames t) s) := stackFrames_within (allowsLooks t) s
    cases hf : stackFrames t s with
    | error e s₁ =>
      rw [stateAfter_of_error hf] at looked
      rwa [startStep, stateAfter_bind_ok (needTarget_alive ha), stateAfter_bind_error hf]
    | ok frames s₁ =>
      have idle : IdlePath s s₁ := stateAfter_of_ok hf ▸ stackFrames_idle t s
      rw [stateAfter_of_ok hf] at looked
      rw [startStep_state kind filters requested ha hf]
      refine trans_of R looked ?_
      cases hr : frames.head?.bind s₁.frames.remote with
      | none => exact refl_of R s₁
      | some top =>
        have hne : frames ≠ [] := by
          rintro rfl
          cases hr
        have suspended := (idle.isSuspended t).trans (computeFrames_ok hf hne).1
        dsimp only
        cases Session.createStepRequest (Stepping.nextRequest kind
          ⟨kind.depth, top.location, frames.length⟩ filters requested (s₁.thread t).id) s₁.session with
        | error e m => exact AllowsHandling.aside rfl
        | ok request m =>
          let st : Stepping := ⟨kind, ⟨kind.depth, top.location, frames.length⟩, request, filters, requested⟩
          have told := trans_of R (enterStep_upkeep st m suspended)
            (AllowsUpkeep.fire _ ht (a := .resume kind.detail) rfl)
          rw [element_enterStep] at told
          exact trans_of R told (runStep_upkeep ht kind.forcesReturn _)

/-- What is done after the question whether the thread can step. -/
private theorem canStepThen_upkeep {op : Client σ Unit} (t : ThreadRef) (h : Within R op) :
    Within R (do if ← act (canStep t) then op : Client σ Unit) :=
  .bind (.act (canStep_within (allowsLooks t))) fun _ => .ite h (.pure _)

private theorem stepWithTargetFilters_upkeep {t : ThreadRef} (ht : known t) (kind : StepKind) :
    Within R (stepWithTargetFilters t kind : Client σ _) :=
  .bind .needTarget fun _ => .get_bind fun s => canStepThen_upkeep t (startStep_upkeep ht kind s.filters false) s

private theorem stepWithFilters_upkeep {t : ThreadRef} (ht : known t) : Within R (stepWithFilters t : Client σ _) :=
  .bind .needTarget fun _ => .get_bind fun s => by
    dsimp only
    split
    · exact canStepThen_upkeep t (startStep_upkeep ht .into _ true) s
    · exact refl_of R s

private theorem stepToFrame_upkeep {t : ThreadRef} (ht : known t) (frame : FrameRef) :
    Within R (stepToFrame t frame : Client σ _) :=
  .bind .needTarget fun _ => .get_bind fun s => by
    refine canStepThen_upkeep t (.bind (locate_within (allowsLooks t) frame) fun p => ?_) s
    exact startStep_upkeep ht _ s.filters false

private theorem dropToFrame_upkeep {t : ThreadRef} (ht : known t) (frame : FrameRef) :
    Within R (dropToFrame t frame : Client σ _) :=
  .bind .needTarget fun _ => .get_bind fun s => by
    refine canStepThen_upkeep t (.bind (locate_within (allowsLooks t) frame) fun p => ?_) s
    refine .get_bind fun s' => ?_
    split
    · exact Within.bind (popLoop_upkeep ht frame _ _ _) (fun _ => startStep_upkeep ht .into _ false) s'
    · exact startStep_upkeep ht _ _ false s'

/-! ## Resuming, suspending and invoking -/

omit [Session σ] in
/-- The thread counts as suspended, which is announced. -/
private theorem stopAndTell_upkeep (s : System σ) {t : ThreadRef} (ht : known t) (detail : EventDetail) :
    R s ((s.stopRunning t).fire (s.element t) (.suspend detail)) := by
  have same : (s.stopRunning t).element t = s.element t := System.element_mapThread (fun _ => by rfl) s t t
  have told := trans_of R (AllowsHandling.stop s t) (AllowsUpkeep.fire _ ht (a := .suspend detail) rfl)
  rwa [same] at told

private theorem resumeThread_upkeep {t : ThreadRef} (ht : known t) (notify : Bool) :
    Within R (resumeThread t notify : Client σ _) := fun _ =>
  resumeThread_within notify (fun _ => AllowsHandling.aside rfl) AllowsUpkeep.run
    (fun s => AllowsUpkeep.fire s ht rfl) (AllowsHandling.bury · t) fun s => stopAndTell_upkeep s ht .clientRequest

private theorem terminateTarget_upkeep : Within R (terminateTarget : Client σ _) :=
  terminateTarget_within (fun _ => AllowsHandling.aside rfl) disconnect_handling

private theorem suspend_upkeep {t : ThreadRef} (ht : known t) : Within R (suspend t : Client σ _) :=
  .bind (.act (abortStep_handling t)) fun _ => .get_bind fun s => by
    split
    · exact refl_of R s
    · have marked (s : System σ) : R s (s.mapThread t fun th => { th with suspending := true }) :=
        AllowsHandling.update s t fun _ => rfl
      refine Within.bind (.modify marked) (fun _ => ?_) s
      refine .modifyGet fun s => ?_
      have left : R s { s with watches := s.watches.push ⟨t, .asking, false⟩ } :=
        AllowsUpkeep.charge ht rfl rfl fun u hu => by
          simpa [System.charges, or_comm, or_assoc, or_left_comm] using hu
      exact upkeep_wake left _

omit [Session σ] in
private theorem cancelWatch_upkeep (n : Nat) : Debug.Within R (cancelWatch n : Debug σ _) :=
  .get_bind fun s => by
    rcases s.watches[n]? with _ | ⟨t, state, cancelled⟩
    · exact refl_of R s
    cases state with
    | done r => exact refl_of R s
    | _ =>
      have cancelled : R s { s with
          watches := s.watches.modify n fun w => { w with cancelled := true }
          sleeping := s.sleeping.filter fun e => e.2 ≠ TaskId.watch n } :=
        AllowsHandling.aside (congrArg (fun ts => (s.posts, s.bus, ts ++ _)) (map_modify s.watches n fun _ => rfl))
      exact upkeep_wake cancelled _

theorem beginInvocation_upkeep (t : ThreadRef) (target : InvokeTarget) (method : MethodRef)
    (args : List Value) (nonvirtual : Bool) :
    Within R (beginInvocation t target method args nonvirtual : Client σ _) := by
  intro s
  rcases beginInvocation_cases t target method args nonvirtual s with ⟨e, h⟩ | ⟨-, -, hs, call, h⟩
  · rw [stateAfter_of_error h]
    exact refl_of R s
  · let marked := s.mapThread t fun th => { th with invoking := true }
    have suspended : (marked.thread t).isSuspended :=
      (System.mapThread_keeps (g := Thread.isSuspended) (fun _ => by rfl) s t t).trans hs
    have begun : R s marked := AllowsHandling.update s t fun _ => rfl
    have lifted : (marked.startRunning t).liftTimeout.affairs = (marked.startRunning t).affairs :=
      (congrArg System.affairs (System.liftTimeout_rest (marked.startRunning t) s.session) :)
    have entered : R s (s.enterInvocation t call) :=
      handling_aside (trans_of R begun (AllowsUpkeep.run suspended)) lifted
    rw [stateAfter_of_ok h]
    exact upkeep_wake entered _

omit [Session σ] in
private theorem terminateEvaluation_upkeep (t : ThreadRef) :
    Debug.Within R (terminateEvaluation t : Debug σ _) :=
  .get_bind fun s => by
    rcases (s.thread t).evaluation with _ | e
    · exact refl_of R s
    · have marked : R s (s.mapThread t fun th => { th with evaluation := some { e with cancelled := true } }) :=
        AllowsHandling.update s t fun _ => rfl
      exact handling_aside marked (System.affairs_wakeEvaluations _ _)

omit [Session σ] in
private theorem finishEvaluation_upkeep (n : Nat) : Debug.Within R (finishEvaluation n : Debug σ _) :=
  .get_bind fun s => by
    rcases s.evaluations[n]? with _ | ⟨t, detail, honors, body, token, finish, state⟩
    · exact refl_of R s
    have finished : R s (s.setEvaluation n fun e => { e with finish := true }) :=
      AllowsHandling.aside (s.affairs_setEvaluation n fun _ => rfl)
    cases state with
    | done r => exact refl_of R s
    | _ => exact upkeep_wake finished _

omit [Session σ] in
private theorem abandonEvaluation_upkeep {n : Nat} (hn : ∀ e, s.evaluations[n]? = some e → known e.thread) :
    R s (abandonEvaluation n s).2 := by
  rw [abandonEvaluation, run_get_bind]
  rcases task : s.evaluations[n]? with _ | ⟨t, detail, honors, body, token, finish, state⟩
  · exact refl_of R s
  have ended := endEvaluation_upkeep (R := R) s (hn _ task) detail
  cases state with
  | done r => exact refl_of R s
  | starting => exact AllowsHandling.aside (s.affairs_setEvaluation n fun _ => rfl)
  | waiting => exact handling_aside ended (System.affairs_setEvaluation _ n fun _ => rfl)
  | invoking m => exact handling_aside ended (System.affairs_setEvaluation _ n fun _ => rfl)

private theorem suspendAll_upkeep : Within R (suspendAll : Client σ _) :=
  .bind (askFor_within (.single .suspendVm)) fun _ => .modify fun s =>
    trans_of R (suspendListed_handling s) (AllowsUpkeep.proclaim _ _)

/-- The operation neither concerns a breakpoint nor resumes whatever is listed. -/
def Operation.isChore : Operation → Bool
  | atBreakpoint _ _ _ | atBreakpointQuietly _ _ | install _ _ _ | remove _ | resumeAll => false
  | _ => true

theorem Operation.upkeep {o : Operation} (h : o.isChore) (known_of : ∀ t, o.thread? = some t → known t)
    (charged : ∀ t ∈ s.charges, known t) : R s (o.perform s) := by
  have looks (t : ThreadRef) : AllowsLooks R t := allowsLooks t
  cases o with
  | name t => exact threadName_within (looks t) s
  | priority t => exact threadPriority_within (looks t) s
  | groupName t => exact threadGroupName_within (looks t) s
  | frames t => exact stackFrames_within (looks t) s
  | newFrames t => exact newStackFrames_within (looks t) s
  | topFrame t => exact topFrame_within (looks t) s
  | hasFrames t => exact hasStackFrames_within (looks t) s
  | frameCount t => exact frameCount_within (looks t) s
  | findVariable t sought => exact findVariable_within (looks t) sought s
  | ownedMonitors t => exact ownedMonitors_within (looks t) s
  | hasOwnedMonitors t => exact hasOwnedMonitors_within (looks t) s
  | contendedMonitor t => exact contendedMonitor_within (looks t) s
  | isOutOfSync t => exact isOutOfSync_within (looks t) s
  | canStep t => exact canStep_within (looks t) s
  | canStepWithFilters t => exact canStepWithFilters_within (looks t) s
  | canDropToFrame t frame => exact canDropToFrame_within (looks t) frame s
  | resume t => exact resumeThread_upkeep (known_of t rfl) true s
  | resumeQuietly t => exact resumeThread_upkeep (known_of t rfl) false s
  | terminateThread t => exact Within.bind .needTarget (fun _ => terminateTarget_upkeep) s
  | step t kind filters => exact canStepThen_upkeep t (startStep_upkeep (known_of t rfl) kind filters false) s
  | stepWithTargetFilters t kind => exact stepWithTargetFilters_upkeep (known_of t rfl) kind s
  | stepWithFilters t => exact stepWithFilters_upkeep (known_of t rfl) s
  | stepToFrame t frame => exact stepToFrame_upkeep (known_of t rfl) frame s
  | dropToFrame t frame => exact dropToFrame_upkeep (known_of t rfl) frame s
  | suspend t => exact suspend_upkeep (known_of t rfl) s
  | cancelWatch n => exact cancelWatch_upkeep n s
  | atBreakpoint t b queued => cases h
  | atBreakpointQuietly t b => cases h
  | invoke t target method args nonvirtual => exact beginInvocation_upkeep t target method args nonvirtual s
  | evaluate t detail honors body =>
    have left : R s { s with evaluations := s.evaluations.push ⟨t, detail, honors, body, 0, false, .starting⟩ } :=
      AllowsUpkeep.charge (known_of t rfl) rfl rfl fun u hu => by
        simpa [System.charges, or_comm, or_assoc, or_left_comm] using hu
    exact upkeep_wake left _
  | terminateEvaluation t => exact terminateEvaluation_upkeep t s
  | finishEvaluation n => exact finishEvaluation_upkeep n s
  | abandonEvaluation n => exact abandonEvaluation_upkeep fun e task => charged _ (mem_charges_of_evaluation task)
  | suspendAll => exact suspendAll_upkeep s
  | resumeAll => cases h
  | terminateTarget => exact terminateTarget_upkeep s
  | disconnect => exact disconnect_handling s
  | release =>
    rw [perform, System.release]
    dsimp only
    split
    · exact AllowsHandling.aside rfl
    · exact AllowsHandling.aside rfl
  | install typeName line policy => cases h
  | remove b => cases h
  | _ => exact AllowsHandling.aside rfl

/-! ## Background tasks -/

theorem runWatch_upkeep (n : Nat) (charged : ∀ t ∈ s.charges, known t) : R s (runWatch n s).2 :=
  runWatch_within (R := R) fun w task =>
    { suspendThread := fun _ => AllowsHandling.aside rfl
      threadIsSuspended := fun _ => AllowsHandling.aside rfl
      aside := fun h charges => AllowsHandling.aside (System.affairs_of_core h charges)
      suspending := fun s => AllowsHandling.update s w.thread fun _ => rfl
      stop := fun s => stopAndTell_upkeep s (charged _ (mem_charges_of_watch task)) .clientRequest
      bury := fun s => AllowsHandling.bury s w.thread }

private theorem restoreThread_upkeep (t : ThreadRef) : Debug.Within R (restoreThread t : Debug σ _) := by
  refine .bind (abortStep_handling t) fun _ => .bind (.modify fun s => ?_) fun _ => .bind (.modify fun s => ?_) fun _ =>
    .bind (.attempt (stackFrames_within (allowsLooks t))) fun _ => .pure _
  · exact trans_of R (AllowsHandling.stop s t)
      (AllowsHandling.update _ t (f := fun th => { th with invoking := false }) fun _ => rfl)
  · exact AllowsHandling.aside (congrArg System.affairs (System.restoreTimeout_rest s s.session) :)

theorem runInvocation_upkeep (n : Nat) (s : System σ) : R s (runInvocation n s).2 := by
  rcases runInvocation_cases n s with same | ⟨task, -, -, m, -, ran | ⟨result, p, ran⟩⟩
  · rw [same]
    exact refl_of R s
  · rw [ran]
    exact AllowsHandling.aside rfl
  · rw [ran]
    have called : R s { s with session := m } := AllowsHandling.aside rfl
    have restored : R s (restoreThread task.thread { s with session := m }).2 :=
      trans_of R called (restoreThread_upkeep task.thread { s with session := m })
    generalize (restoreThread task.thread { s with session := m }).2 = s₁ at restored ⊢
    have reported : R s (s₁.setInvocation n (.done result)) := handling_aside restored rfl
    exact handling_aside reported (System.affairs_wakeEvaluations _ p)

private theorem startBody_upkeep {e : EvaluationTask} (he : known e.thread) :
    Debug.Within R (startBody e : Debug σ _) := by
  obtain ⟨t, detail, honors, body, token, finish, state⟩ := e
  cases body with
  | succeed => exact .pure _
  | fail => exact .pure _
  | wait => exact fun s => refl_of R s
  | nest =>
    have inside : Within R (evaluateInside t detail : Client σ _) :=
      .bind (beginEvaluation_upkeep he detail true) fun _ => .modify fun s => endEvaluation_upkeep s he detail
    exact .bind (.attempt inside) fun _ => .pure _
  | invoke target method args nonvirtual =>
    refine .bind (.attempt (beginInvocation_upkeep t target method args nonvirtual)) fun r => ?_
    cases r with
    | ok n => exact .pure _
    | error e => exact .pure _

theorem runEvaluation_upkeep (n : Nat) (charged : ∀ t ∈ s.charges, known t) : R s (runEvaluation n s).2 := by
  rw [runEvaluation, run_get_bind]
  rcases task : s.evaluations[n]? with _ | ⟨t, detail, honors, body, token, finish, state⟩
  · exact refl_of R s
  have ht : known t := charged _ (mem_charges_of_evaluation task)
  have noted (s : System σ) {f : EvaluationTask → EvaluationTask} (hf : ∀ e, (f e).thread = e.thread) :
      R s (s.setEvaluation n f) := AllowsHandling.aside (s.affairs_setEvaluation n hf)
  have settled (p : Progress) :
      Debug.Within R (p.note n ⟨t, detail, honors, body, token, finish, state⟩ : Debug σ Unit) := by
    cases p with
    | stay state => exact .modify fun s => noted s fun _ => rfl
    | «over» result =>
      refine .modify fun s => trans_of R (endEvaluation_upkeep s ht detail) ?_
      exact noted _ fun _ => rfl
  cases state with
  | done r => exact refl_of R s
  | waiting => exact settled _ s
  | invoking m => exact settled _ s
  | starting =>
    refine Debug.Within.bind (.attempt (beginEvaluation_upkeep ht detail honors)) (fun r => ?_) s
    cases r with
    | error e => exact .modify fun s => noted s fun _ => rfl
    | ok token => exact .bind (.modify fun s => noted s fun _ => rfl) fun _ => .bind (startBody_upkeep ht) settled

omit [Session σ] in
theorem letInHeld_upkeep : Debug.Within R (letInHeld : Debug σ _) :=
  .get_bind fun s => by
    generalize s.invocations.findIdx? _ = found
    cases found with
    | none => exact refl_of R s
    | some n =>
      have letIn : R s (s.setInvocation n .letIn) := AllowsHandling.aside rfl
      exact upkeep_wake letIn _

/-! ## Breakpoint hits and landings -/

theorem resumeAll_upkeep (run : ∀ s u, R s (s.startRunning u)) : Within R (resumeAll : Client σ _) :=
  .bind (.modify fun s => trans_of R (resumeListed_handling run s) (AllowsUpkeep.proclaim _ _)) fun _ =>
    askFor_within (.single .resumeVm)

/-- A hit, if the relation allows a thread to arrive at the breakpoint, and any thread to run. -/
theorem suspendAtBreakpoint_upkeep {b : BreakpointRef} (ht : known t) (arrive : R s (s.arrive t b))
    (run : ∀ s u, R s (s.startRunning u)) (queued : Bool) : R s (suspendAtBreakpoint t b queued s).2 := by
  cases queued with
  | true =>
    exact suspendAtBreakpoint_handling arrive run (AllowsHandling.holdAll · .breakpoint) fun s =>
      AllowsHandling.hold s .breakpoint ht
  | false =>
    exact suspendAtBreakpoint_handling arrive run (AllowsUpkeep.proclaim · (.suspend .breakpoint)) fun s =>
      AllowsUpkeep.fire s ht rfl

/-- A landing, if the relation allows the thread to go on with its step. -/
theorem landStep_upkeep (ht : known t) (request : RequestId) (landing : Location)
    (goOn : ∀ st, (s.thread t).stepping = some st → ∀ s₁ : System σ, s₁.threads = s.threads →
      R s₁ (s₁.mapThread t (·.setRunning true))) :
    R s (landStep t request landing s).2 := by
  cases h : s.dropGoingOn t request landing with
  | none => exact landStep_handling ht h goOn
  | some onward =>
    obtain ⟨s₂, forced⟩ := onward
    have renewed : R s s₂ := dropGoingOn_handling h goOn
    rw [landStep_drop h]
    exact trans_of R renewed (runStep_upkeep ht forced s₂)

end

/-! ## Attachment -/

section

variable [Session σ] {R : System σ → System σ → Prop} [IsPreorder (System σ) R] {m : σ} {settings : TargetSettings}
  {s : System σ}

private theorem addThreads_within (added : ∀ id, Debug.Within R (addThread id)) (ids : List ThreadId) :
    Within R (forIn ids PUnit.unit fun id _ => do
      let _ ← act (addThread id)
      return .yield PUnit.unit : Client σ PUnit) := by
  induction ids with
  | nil => exact .pure _
  | cons id ids ih =>
    simp only [List.forIn_cons, bind_assoc, pure_bind] at ih ⊢
    exact .bind (.act (added id)) fun _ => ih

/-- To attach is to ask for the threads, to add each of them and to tell of it. -/
theorem attach_within (listed : Within R (askFor "listing threads" Session.allThreads))
    (added : ∀ id, Debug.Within R (addThread id)) (told : ∀ s : System σ, R s (s.fire .target .create))
    (h : attach m settings = .ok s) : R (.blank m settings) s := by
  have attaching : Within R (do
      let ids ← askFor "listing threads" Session.allThreads
      for id in ids do
        let _ ← act (addThread id)
      modify (·.fire .target .create) : Client σ Unit) :=
    .bind listed fun ids => .bind (addThreads_within added ids) fun _ => .modify told
  have attaching := attaching (.blank m settings)
  unfold attach at h
  dsimp only at h
  split at h
  case h_1 s' hs =>
    cases h
    exact stateAfter_of_ok hs ▸ attaching
  case h_2 => cases h

end

theorem attach_chores [Session σ] {known : ThreadRef → Prop} {R : System σ → System σ → Prop} [AllowsChores known R]
    {s : System σ} (told : ∀ s : System σ, R s (s.fire .target .create)) {m : σ} {settings : TargetSettings}
    (h : attach m settings = .ok s) : R (.blank m settings) s :=
  attach_within (askFor_within (.single .allThreads)) addThread_chores told h

end Debugger

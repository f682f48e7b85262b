import Debugger.Proofs.Bystanders
import Debugger.Proofs.DeadThreads

/-! # Operations on other threads

Whatever a client asks of one thread leaves the others alone, whether or not it succeeds: each part of an
operation is an update of its thread, an announcement about its thread or a call on its behalf.
-/

namespace Debugger

/-- The thread that the task is left for. -/
def System.subject? {σ : Type} (s : System σ) : TaskId → Option ThreadRef
  | .dispatcher => none
  | .watch n => s.watches[n]?.map (·.thread)
  | .invocation n => s.invocations[n]?.map (·.thread)
  | .evaluation n => s.evaluations[n]?.map (·.thread)

/-- The thread that the operation is about. -/
def Operation.subject? {σ : Type} (s : System σ) : Operation → Option ThreadRef
  | cancelWatch n => s.subject? (.watch n)
  | finishEvaluation n | abandonEvaluation n => s.subject? (.evaluation n)
  | o => o.thread?

/-- The operation is about its thread only: it does not end the machine, and no breakpoint that stops the
whole machine is hit. -/
def Operation.staysInside {σ : Type} (s : System σ) : Operation → Bool
  | terminateThread _ => false
  | atBreakpoint _ b _ => (s.breakpoint b).policy = .thread
  | _ => true

variable {t u : ThreadRef} {b : ThreadId} {s s₁ s' : System (Faulty Machine)}

/-! ## Parts of operations -/

theorem deleteStepRequest_beside (request : RequestId) (s : System (Faulty Machine)) :
    Beside t u b s (deleteStepRequest request s).2 := by
  rw [deleteStepRequest_state]
  have erased : Beside t u b s
      { s with stepOwners := if s.targetAlive then s.stepOwners.erase request else s.stepOwners } :=
    Aloof.beside (Aloof.ownersKept fun r hr => by
      split at hr
      · exact (Table.mem_entries_erase.mp hr).1
      · exact hr)
  exact trans_of (Beside t u b) erased (.dealing (.deleteStepRequest request _))

theorem abortStep_beside : Debug.Within (Beside t u b) (abortStep t : Debug _ _) := fun s => by
  cases hp : (s.thread t).stepping with
  | none =>
    rw [abortStep_none hp]
    exact refl_of (Beside t u b) s
  | some st =>
    rw [abortStep_some hp]
    exact trans_of (Beside t u b) (.setStepping s none) (deleteStepRequest_beside st.request _)

theorem stepEnd_beside (request : Option RequestId) (s : System (Faulty Machine)) :
    Beside t u b s (stepEnd t request s).2 := by
  have ended : Beside t u b s ((s.stopRunning t).mapThread t (·.setStepping none)) :=
    trans_of (Beside t u b) (.stopRunning s) (.setStepping _ none)
  cases request with
  | none => exact trans_of (Beside t u b) ended (.queue _ _)
  | some request =>
    rw [stepEnd_some]
    exact trans_of (Beside t u b) (trans_of (Beside t u b) ended (deleteStepRequest_beside request _)) (.queue _ _)

private theorem letRun_keeps {id : ThreadId} (h : id ≠ b) (forced : Bool) :
    Within (Faulty.Keeps b) (letRun id forced : Call (Faulty Machine) Unit) := by
  have resumed : Within (Faulty.Keeps b) (Session.resumeThread id : Call (Faulty Machine) Unit) :=
    fun f => Faulty.dealing_keeps h (.resumeThread f)
  cases forced with
  | true => exact .bind (fun f => Faulty.dealing_keeps h (.forceReturn f)) fun _ => resumed
  | false => exact resumed

theorem runStep_beside (forced : Bool) (s : System (Faulty Machine)) :
    Beside t u b s (stateAfter (runStep t forced) s) := fun ht => by
  have kept := letRun_keeps ht forced s.session
  cases h : letRun (s.thread t).id forced s.session with
  | ok v m =>
    rw [stateAfter_of_ok h] at kept
    rw [stateAfter_of_ok (runStep_ok h)]
    exact .called kept
  | error e m =>
    rw [stateAfter_of_error h] at kept
    rw [stateAfter_of_error (runStep_error h), System.stepFailed]
    have ended : Aloof u b { s with session := m } (stepEnd t _ { s with session := m }).2 :=
      stepEnd_beside ((s.thread t).stepping.map (·.request)) _ ht
    exact trans_of (Aloof u b) (trans_of (Aloof u b) (.called kept) ended) (.flush _)

/-- The thread starts to run for a step whose request it owns. -/
private theorem enterStep_beside (st : Stepping) {wanted : StepRequest} {m : Faulty Machine}
    (h : Session.createStepRequest wanted s.session = .ok st.request m) :
    Beside t u b s (s.enterStep t st m) := fun ht => by
  have created : Aloof u b s { s with session := m } :=
    Beside.dealing (stateAfter_of_ok h ▸ .createStepRequest wanted s.session) ht
  have marked := trans_of (Beside t u b) (.setStepping { s with session := m } (some st)) (.startRunning _) ht
  have running := trans_of (Aloof u b) created marked
  refine trans_of (Aloof u b) running (.ownersKept fun r hr => ?_)
  rcases Table.mem_entries_put hr with ⟨-, own⟩ | ⟨old, -⟩
  · exact (ht own.symm).elim
  · exact old

theorem beside_allowsLooks : AllowsLooks (Beside t u b) t where
  inquiry h := .dealing (.inquiry h)
  look {s remote session} hs h :=
    trans_of (Beside t u b) (.dealing (.inquiry (stateAfter_of_ok h ▸ .frames s.session)))
      (Beside.updateFrames (s := { s with session }) hs remote)
  groupName s _ := .mapAside s fun _ => rfl

/-! ## Steps -/

private theorem startStep_beside (kind : StepKind) (filters : StepFilters) (requested : Bool) :
    Within (Beside t u b) (startStep t kind filters requested : Client _ _) := by
  intro s
  cases ha : s.targetAlive with
  | false =>
    rw [startStep, stateAfter_bind_error (needTarget_gone ha)]
    exact refl_of (Beside t u b) s
  | true =>
    have looked := stackFrames_within (beside_allowsLooks (t := t) (u := u) (b := b)) s
    cases hf : stackFrames t s with
    | error e s₁ =>
      rw [stateAfter_of_error hf] at looked
      rw [startStep, stateAfter_bind_ok (needTarget_alive ha), stateAfter_bind_error hf]
      exact looked
    | ok frames s₁ =>
      rw [stateAfter_of_ok hf] at looked
      rw [startStep_state kind filters requested ha hf]
      refine trans_of (Beside t u b) looked ?_
      cases frames.head?.bind s₁.frames.remote with
      | none => exact refl_of (Beside t u b) s₁
      | some top =>
        dsimp only
        cases h : Session.createStepRequest (Stepping.nextRequest kind
          ⟨kind.depth, top.location, frames.length⟩ filters requested (s₁.thread t).id) s₁.session with
        | error e m => exact .dealing (stateAfter_of_error h ▸ .createStepRequest _ s₁.session)
        | ok request m =>
          let st : Stepping := ⟨kind, ⟨kind.depth, top.location, frames.length⟩, request, filters, requested⟩
          have entered : Beside t u b s₁ (s₁.enterStep t st m) := enterStep_beside st h
          rw [← element_enterStep s₁ t st m]
          have told := trans_of (Beside t u b) entered (.fire _ (.resume kind.detail))
          exact trans_of (Beside t u b) told (runStep_beside kind.forcesReturn _)

/-- What is done after the question whether the thread can step. -/
private theorem canStepThen_beside {op : Client (Faulty Machine) Unit} (h : Within (Beside t u b) op) :
    Within (Beside t u b) (do if ← act (canStep t) then op : Client _ Unit) :=
  .bind (.act (canStep_within beside_allowsLooks)) fun _ => .ite h (.pure _)

private theorem stepWithTargetFilters_beside (kind : StepKind) :
    Within (Beside t u b) (stepWithTargetFilters t kind : Client _ _) :=
  .bind .needTarget fun _ => .get_bind fun s => canStepThen_beside (startStep_beside kind s.filters false) s

private theorem stepWithFilters_beside : Within (Beside t u b) (stepWithFilters t : Client _ _) :=
  .bind .needTarget fun _ => .get_bind fun s => by
    dsimp only
    split
    · exact canStepThen_beside (startStep_beside .into _ true) s
    · exact refl_of (Beside t u b) s

private theorem stepToFrame_beside (frame : FrameRef) : Within (Beside t u b) (stepToFrame t frame : Client _ _) :=
  .bind .needTarget fun _ => .get_bind fun s => by
    refine canStepThen_beside (.bind (locate_within beside_allowsLooks frame) fun p => ?_) s
    exact startStep_beside _ s.filters false

private theorem popFrames_beside (s : System (Faulty Machine)) (frame : FrameId) :
    Beside t u b s (s.popFrames t frame) :=
  trans_of (Beside t u b) (.preserveFrames s) (.dealing (.popFrames frame _))

private theorem dropToFrame_beside (frame : FrameRef) : Within (Beside t u b) (dropToFrame t frame : Client _ _) :=
  .bind .needTarget fun _ => .get_bind fun s => by
    refine canStepThen_beside (.bind (locate_within beside_allowsLooks frame) fun p => ?_) s
    refine .get_bind fun s' => ?_
    split
    · have popped := popLoop_within (beside_allowsLooks (t := t) (u := u) (b := b)) popFrames_beside
        (fun s => .fire s _) frame (p.1.length - p.2 - 1) (p.1.length + 1) p.1.length
      exact Within.bind popped (fun _ => startStep_beside .into _ false) s'
    · exact startStep_beside _ _ false s'

/-! ## Running and suspending -/

private theorem stopAndTell_beside (s : System (Faulty Machine)) :
    Beside t u b s ((s.stopRunning t).fire (s.element t) (.suspend .clientRequest)) := fun ht =>
  trans_of (Aloof u b) (Beside.stopRunning s ht) (.fire _ fun same => ht (Element.thread.inj same))

private theorem resumeThread_beside (notify : Bool) :
    Within (Beside t u b) (resumeThread t notify : Client _ _) := fun s ht =>
  resumeThread_within (R := Beside t u b) notify
    (fun s₁ _ => .called (Faulty.dealing_keeps ht (.resumeThread s₁.session))) (fun _ => .startRunning s)
    (fun s => .fire s _) Beside.bury stopAndTell_beside ht

private theorem suspend_beside : Within (Beside t u b) (suspend t : Client _ _) :=
  .bind (.act abortStep_beside) fun _ => .get_bind fun s => by
    split
    · exact refl_of (Beside t u b) s
    · refine Within.bind (.modify fun s => .mapAside s fun _ => rfl) (fun _ => ?_) s
      exact .modifyGet fun s => Aloof.beside (.core (core_wake _ _))

private theorem cancelWatch_aloof (n : Nat) : Debug.Within (Aloof u b) (cancelWatch n : Debug _ _) :=
  .get_bind fun s => by
    rcases s.watches[n]? with _ | ⟨u', state, cancelled⟩
    · exact refl_of (Aloof u b) s
    cases state with
    | done r => exact refl_of (Aloof u b) s
    | asking => exact .core (core_wake _ _)
    | polling deadline => exact .core (core_wake _ _)

/-- What a watch does for its thread. -/
theorem runWatch_beside {n : Nat} (h : s.subject? (.watch n) = some t) : Beside t u b s (runWatch n s).2 :=
  fun ht => by
    obtain ⟨w, hw, rfl⟩ := Option.map_eq_some_iff.mp h
    refine runWatch_within (R := Beside w.thread u b) (fun w' hw' => ?_) ht
    obtain rfl : w = w' := Option.some.inj (hw.symm.trans hw')
    exact
      { suspendThread := fun s₁ _ => .called (Faulty.dealing_keeps ht (.suspendThread s₁.session))
        threadIsSuspended := fun s₁ _ =>
          .called (Faulty.dealing_keeps ht (.inquiry (.threadIsSuspended s₁.session)))
        aside := fun h _ => Aloof.beside (.core h)
        suspending := fun s => .mapAside s fun _ => rfl
        stop := stopAndTell_beside
        bury := Beside.bury }

/-! ## Breakpoints -/

private theorem publish_beside (s : System (Faulty Machine)) (queued : Bool) (a : Announcement) :
    Beside t u b s (s.publish queued (s.element t) a) := by
  cases queued with
  | true => exact .queue s a
  | false => exact .fire s a

private theorem stopAt_beside (s : System (Faulty Machine)) (x : BreakpointRef) :
    Beside t u b s (s.stopAt t x false) :=
  trans_of (Beside t u b) (Beside.mapAside s (f := fun th => { th with breakpoints := th.breakpoints ++ [x] })
    fun _ => rfl) (.stopRunning _)

/-- Only the thread stops at a breakpoint of its own, or runs on. -/
theorem suspendAtBreakpoint_beside {x : BreakpointRef} (h : (s.breakpoint x).policy = .thread) (queued : Bool) :
    Beside t u b s (suspendAtBreakpoint t x queued s).2 := by
  have alone : s.stopsAll x = false := by simp [System.stopsAll, h]
  rw [suspendAtBreakpoint_eq, alone]
  have asked : Beside t u b s ((s.stopAt t x false).judge t (s.breakpoint x) s.targetAlive).2 := by
    refine (stopAt_beside s x).aside ?_
    cases s.targetAlive <;> rfl
  dsimp only
  generalize (s.stopAt t x false).judge t (s.breakpoint x) s.targetAlive = r at asked
  obtain ⟨stays, s₁⟩ := r
  refine trans_of (Beside t u b) asked ?_
  cases stays with
  | true => exact trans_of (Beside t u b) (abortStep_beside s₁) (publish_beside _ queued _)
  | false => exact .startRunning s₁

private theorem suspendAtBreakpointQuietly_beside (x : BreakpointRef) :
    Debug.Within (Beside t u b) (suspendAtBreakpointQuietly t x : Debug _ _) :=
  .bind (.modify fun s => stopAt_beside s x) fun _ => .bind abortStep_beside fun _ => .pure _

/-! ## Invocations and evaluations -/

private theorem setRequestTimeout_beside (ms : Option Nat) (s : System (Faulty Machine)) :
    Beside t u b s { s with session := Session.setRequestTimeout ms s.session } :=
  .dealing (.setRequestTimeout ms s.session)

private theorem liftTimeout_beside (s : System (Faulty Machine)) : Beside t u b s s.liftTimeout := by
  have counted : Beside t u b s { s with activeInvocations := s.activeInvocations + 1 } := .of_sight rfl
  unfold System.liftTimeout
  dsimp only
  split
  · exact (trans_of (Beside t u b) counted (setRequestTimeout_beside none _)).aside rfl
  · exact counted

private theorem restoreTimeout_beside (s : System (Faulty Machine)) : Beside t u b s s.restoreTimeout := by
  have counted : Beside t u b s { s with activeInvocations := s.activeInvocations - 1 } := .of_sight rfl
  unfold System.restoreTimeout
  dsimp only
  split
  · have reset : Beside t u b s
        { s with activeInvocations := s.activeInvocations - 1, savedTimeout := none,
                 session := Session.setRequestTimeout s.savedTimeout s.session } :=
      (trans_of (Beside t u b) counted (setRequestTimeout_beside s.savedTimeout _)).aside rfl
    split
    · exact reset.aside rfl
    · exact reset
  · exact counted

private theorem beginInvocation_beside (target : InvokeTarget) (method : MethodRef) (args : List Value)
    (nonvirtual : Bool) :
    Within (Beside t u b) (beginInvocation t target method args nonvirtual : Client _ _) := by
  intro s
  rcases beginInvocation_cases t target method args nonvirtual s with ⟨e, h⟩ | ⟨-, -, -, call, h⟩
  · rw [stateAfter_of_error h]
    exact refl_of (Beside t u b) s
  · rw [stateAfter_of_ok h]
    have marked : Beside t u b s (s.mapThread t fun th => { th with invoking := true }) := .mapAside s fun _ => rfl
    have running := trans_of (Beside t u b) marked (.startRunning _)
    have entered : Beside t u b s (s.enterInvocation t call) :=
      (trans_of (Beside t u b) running (liftTimeout_beside _)).aside rfl
    exact fun ht => (entered ht).wake _

private theorem restoreThread_beside : Debug.Within (Beside t u b) (restoreThread t : Debug _ _) := by
  refine .bind abortStep_beside fun _ => .bind (.modify fun s => ?_) fun _ =>
    .bind (.modify restoreTimeout_beside) fun _ =>
      .bind (.attempt (stackFrames_within beside_allowsLooks)) fun _ => .pure _
  exact trans_of (Beside t u b) (.stopRunning s)
    (.mapAside _ (f := fun th => { th with invoking := false }) fun _ => rfl)

/-- The call of an invocation is made, and its thread restored. -/
theorem runInvocation_beside {n : Nat} (h : s.subject? (.invocation n) = some t) :
    Beside t u b s (runInvocation n s).2 := by
  obtain ⟨i, hi, rfl⟩ := Option.map_eq_some_iff.mp h
  have made (s : System (Faulty Machine)) {call : Invocation} {m : Faulty Machine}
      (h : Relation.ReflTransGen (Calling call) s.session m) : Beside i.thread u b s { s with session := m } := by
    induction h with
    | refl => exact refl_of (Beside i.thread u b) s
    | @tail m _ _ hc ih =>
      refine trans_of (Beside i.thread u b) ih (.dealing (s := { s with session := m }) ?_)
      cases hc with
      | accept => exact .accept call m
      | invoke => exact .invoke call m
  rcases runInvocation_cases n s with same | ⟨task, hn, -, m, calls, ran | ⟨result, p, ran⟩⟩
  · rw [same]
    exact refl_of (Beside i.thread u b) s
  · rw [ran]
    exact (made s calls).aside rfl
  · obtain rfl : i = task := Option.some.inj (hi.symm.trans hn)
    rw [ran]
    have restored := trans_of (Beside i.thread u b) (made s calls) (restoreThread_beside _)
    generalize (restoreThread i.thread { s with session := m }).2 = s₁ at restored
    have noted : Beside i.thread u b s (s₁.setInvocation n (.done result)) := restored.aside rfl
    exact noted.aside (congrArg Core.sight (core_wakeEvaluations _ p))

private theorem beginEvaluation_beside (detail : EventDetail) (honors : Bool) :
    Within (Beside t u b) (beginEvaluation t detail honors : Client _ _) :=
  .get_bind fun s => by
    split
    · exact refl_of (Beside t u b) s
    · have counted : Beside t u b s { s with nextToken := s.nextToken + 1 } := .of_sight rfl
      have begun := Beside.mapAside (t := t) (u := u) (b := b) { s with nextToken := s.nextToken + 1 }
        (f := fun th => { th with evaluation := some ⟨s.nextToken, honors, false⟩ }) fun _ => rfl
      exact trans_of (Beside t u b) (trans_of (Beside t u b) counted begun) (.fire _ _)

private theorem endEvaluation_beside (s : System (Faulty Machine)) (detail : EventDetail) :
    Beside t u b s (s.endEvaluation t detail) := fun ht =>
  trans_of (Aloof u b) (Beside.mapAside s (f := fun th => { th with evaluation := none }) (fun _ => rfl) ht)
    (.fire _ fun same => ht (Element.thread.inj same))

private theorem terminateEvaluation_beside : Debug.Within (Beside t u b) (terminateEvaluation t : Debug _ _) :=
  .get_bind fun s => by
    rcases (s.thread t).evaluation with _ | e
    · exact refl_of (Beside t u b) s
    · have marked : Beside t u b s
          (s.mapThread t fun th => { th with evaluation := some { e with cancelled := true } }) :=
        .mapAside s fun _ => rfl
      exact marked.aside (congrArg Core.sight (core_wakeEvaluations _ _))

private theorem finishEvaluation_aloof (n : Nat) : Debug.Within (Aloof u b) (finishEvaluation n : Debug _ _) :=
  .get_bind fun s => by
    have told : Aloof u b s (s.setEvaluation n fun e => { e with finish := true }) := .of_sight rfl
    rcases s.evaluations[n]? with _ | ⟨u', detail, honors, body, token, finish, state⟩
    · exact refl_of (Aloof u b) s
    cases state with
    | done r => exact refl_of (Aloof u b) s
    | _ => exact told.wake _

private theorem abandonEvaluation_beside {n : Nat} (h : s.subject? (.evaluation n) = some t) :
    Beside t u b s (abandonEvaluation n s).2 := by
  obtain ⟨⟨t, detail, honors, body, token, finish, state⟩, he, rfl⟩ := Option.map_eq_some_iff.mp h
  rw [abandonEvaluation, run_get_bind, he]
  have ended : Beside t u b s (s.endEvaluation t detail) := endEvaluation_beside s detail
  cases state with
  | done r => exact refl_of (Beside t u b) s
  | starting => exact .of_sight rfl
  | waiting => exact ended.aside rfl
  | invoking m => exact ended.aside rfl

private theorem startBody_beside {e : EvaluationTask} (h : e.thread = t) :
    Debug.Within (Beside t u b) (startBody e : Debug _ _) := by
  obtain ⟨u', detail, honors, body, token, finish, state⟩ := e
  obtain rfl : u' = t := h
  cases body with
  | succeed => exact .pure _
  | fail => exact .pure _
  | wait => exact fun s => refl_of (Beside u' u b) s
  | nest =>
    have inside : Within (Beside u' u b) (evaluateInside u' detail : Client _ _) :=
      .bind (beginEvaluation_beside detail true) fun _ => .modify fun s => endEvaluation_beside s detail
    exact .bind (.attempt inside) fun _ => .pure _
  | invoke target method args nonvirtual =>
    refine .bind (.attempt (beginInvocation_beside target method args nonvirtual)) fun r => ?_
    cases r with
    | ok n => exact .pure _
    | error e => exact .pure _

/-- A stretch of an evaluation. -/
theorem runEvaluation_beside {n : Nat} (h : s.subject? (.evaluation n) = some t) :
    Beside t u b s (runEvaluation n s).2 := by
  obtain ⟨⟨t, detail, honors, body, token, finish, state⟩, he, rfl⟩ := Option.map_eq_some_iff.mp h
  rw [runEvaluation, run_get_bind, he]
  let e : EvaluationTask := ⟨t, detail, honors, body, token, finish, state⟩
  have settled (p : Progress) : Debug.Within (Beside t u b) (p.note n e : Debug _ Unit) := by
    cases p with
    | stay state => exact .modify fun s => .of_sight rfl
    | «over» result => exact .modify fun s => (endEvaluation_beside s detail).aside rfl
  cases state with
  | done r => exact refl_of (Beside t u b) s
  | waiting => exact settled _ s
  | invoking m => exact settled _ s
  | starting =>
    refine Debug.Within.bind (.attempt (beginEvaluation_beside detail honors)) (fun r => ?_) s
    cases r with
    | error e => exact .modify fun s => .of_sight rfl
    | ok token =>
      exact .bind (.modify fun s => .of_sight rfl) fun _ => .bind (startBody_beside (by rfl)) settled

/-! ## Operations -/

/-- An operation that is about one thread only leaves the others alone, whether or not it succeeds. -/
theorem Operation.beside {o : Operation} (ho : o.subject? s = some t) (inside : o.staysInside s) :
    Beside t u b s (o.perform s) := by
  have looks : AllowsLooks (Beside t u b) t := beside_allowsLooks
  cases o with
  | abandonEvaluation n => exact abandonEvaluation_beside ho
  | cancelWatch n => exact Aloof.beside (cancelWatch_aloof n s)
  | finishEvaluation n => exact Aloof.beside (finishEvaluation_aloof n s)
  | terminateThread => cases inside
  | name => cases ho; exact threadName_within looks s
  | priority => cases ho; exact threadPriority_within looks s
  | groupName => cases ho; exact threadGroupName_within looks s
  | frames => cases ho; exact stackFrames_within looks s
  | newFrames => cases ho; exact newStackFrames_within looks s
  | topFrame => cases ho; exact topFrame_within looks s
  | hasFrames => cases ho; exact hasStackFrames_within looks s
  | frameCount => cases ho; exact frameCount_within looks s
  | findVariable _ sought => cases ho; exact findVariable_within looks sought s
  | ownedMonitors => cases ho; exact ownedMonitors_within looks s
  | hasOwnedMonitors => cases ho; exact hasOwnedMonitors_within looks s
  | contendedMonitor => cases ho; exact contendedMonitor_within looks s
  | isOutOfSync => cases ho; exact isOutOfSync_within looks s
  | canStep => cases ho; exact canStep_within looks s
  | canStepWithFilters => cases ho; exact canStepWithFilters_within looks s
  | canDropToFrame _ frame => cases ho; exact canDropToFrame_within looks frame s
  | resume => cases ho; exact resumeThread_beside true s
  | resumeQuietly => cases ho; exact resumeThread_beside false s
  | step _ kind filters => cases ho; exact canStepThen_beside (startStep_beside kind filters false) s
  | stepWithTargetFilters _ kind => cases ho; exact stepWithTargetFilters_beside kind s
  | stepWithFilters => cases ho; exact stepWithFilters_beside s
  | stepToFrame _ frame => cases ho; exact stepToFrame_beside frame s
  | dropToFrame _ frame => cases ho; exact dropToFrame_beside frame s
  | suspend => cases ho; exact suspend_beside s
  | atBreakpoint _ x queued => cases ho; exact suspendAtBreakpoint_beside (of_decide_eq_true inside) queued
  | atBreakpointQuietly _ x => cases ho; exact suspendAtBreakpointQuietly_beside x s
  | invoke _ target method args nonvirtual =>
    cases ho
    exact beginInvocation_beside target method args nonvirtual s
  | evaluate u' detail honors body =>
    have left : Aloof u b s
        { s with evaluations := s.evaluations.push ⟨u', detail, honors, body, 0, false, .starting⟩ } :=
      .of_sight rfl
    exact (left.wake _).beside
  | terminateEvaluation => cases ho; exact terminateEvaluation_beside s
  | _ => cases ho

end Debugger

import Debugger.Proofs.Bookkeeping

/-! # Dead threads

A thread that has terminated is never suspended again, so everything that takes a suspended thread passes
it by: it steps no more, its frames are gone, and whatever is asked of it reaches the machine as a question
at most.
-/

namespace Debugger

variable {σ : Type}

/-- What held of the thread holds of it afterwards. -/
def Retains (P : Thread → Prop) (t : ThreadRef) (s s' : System σ) : Prop := P (s.thread t) → P (s'.thread t)

instance (P : Thread → Prop) (t : ThreadRef) : IsPreorder (System σ) (Retains P t) where
  refl _ h := h
  trans _ _ _ h h' hs := h' (h hs)

namespace Retains

variable {P : Thread → Prop} {s s' s₁ : System σ} {t u : ThreadRef}

theorem of_eq (h : s'.threads = s.threads) : Retains P t s s' := fun ht => by
  rw [System.thread_congr h]
  exact ht

/-- Whatever touches no thread is left out. -/
theorem aside (h : Retains P t s s₁) (hs : s'.threads = s₁.threads) : Retains P t s s' :=
  trans_of (Retains P t) h (of_eq hs)

theorem mapThread (s : System σ) (u : ThreadRef) {f : Thread → Thread}
    (h : u = t → P (s.thread t) → P (f (s.thread t))) : Retains P t s (s.mapThread u f) := fun ht => by
  rw [System.thread_mapThread]
  split
  · rename_i hu
    exact h hu.1 ht
  · exact ht

end Retains

/-! ## The frames of the dead -/

/-- A thread that has terminated has no frames. -/
def Thread.Interred (th : Thread) : Prop := th.terminated → th.frames = []

/-- The thread, once interred, is so afterwards. -/
abbrev Inters (t : ThreadRef) : System σ → System σ → Prop := Retains Thread.Interred t

namespace Inters

variable {s s' : System σ} {t : ThreadRef}

/-- An update that is about neither the life of a thread nor its frames. -/
theorem mapAside (s : System σ) (u : ThreadRef) {f : Thread → Thread}
    (h : ∀ th, ((f th).terminated, (f th).frames) = (th.terminated, th.frames)) :
    Inters t s (s.mapThread u f) :=
  Retains.mapThread s u fun _ hi ht => by
    obtain ⟨terminated, frames⟩ := Prod.mk.inj (h (s.thread t))
    exact frames.trans (hi (terminated.symm.trans ht))

theorem setRunning (s : System σ) (u : ThreadRef) (running : Bool) :
    Inters t s (s.mapThread u (·.setRunning running)) := mapAside s u fun _ => rfl

theorem preserveFrames (s : System σ) (u : ThreadRef) : Inters t s (s.preserveFrames u) :=
  (mapAside s u (f := Thread.markStale) fun _ => rfl).aside rfl

theorem startRunning (s : System σ) (u : ThreadRef) : Inters t s (s.startRunning u) :=
  trans_of (Inters t) (setRunning s u true) (preserveFrames _ u)

theorem setStepping (s : System σ) (u : ThreadRef) (st : Option Stepping) :
    Inters t s (s.mapThread u (·.setStepping st)) := mapAside s u fun _ => rfl

theorem bury (s : System σ) (u : ThreadRef) : Inters t s (s.bury u) :=
  System.bury_within (.mapThread s u fun _ _ _ => rfl) fun _ _ => .of_eq rfl

theorem suspendListed (s : System σ) : Inters t s s.suspendListed :=
  System.suspendListed_within (fun _ => .of_eq rfl) (setRunning · · false) s

theorem threadDied (s : System σ) (id : ThreadId) : Inters t s (s.threadDied id) :=
  System.threadDied_within (fun _ _ => .of_eq rfl) (fun _ _ => .of_eq rfl) bury s id

theorem disconnect (s : System σ) : Inters t s s.disconnect :=
  System.disconnect_within (fun _ => .of_eq rfl) bury (fun _ => .of_eq rfl) s

/-- Only a suspended thread is looked at, which is one that lives. -/
theorem updateFrames {u : ThreadRef} (hs : (s.thread u).isSuspended) (remote : List RemoteFrame) :
    Inters t s (s.updateFrames u remote) := by
  rcases s.threads_updateFrames u remote with same | ⟨frames, looked⟩
  · exact .of_eq same
  · refine Retains.aside (.mapThread s u ?_) looked
    rintro rfl _ dead
    rw [Thread.isSuspended, show (s.thread u).terminated = true from dead, Bool.not_true, Bool.and_false] at hs
    cases hs

/-- A thread that is new has no frames. -/
theorem enlist (s : System σ) {th : Thread} (fresh : th.frames = []) : Inters t s (s.enlist th) := fun ht => by
  rw [thread_enlist]
  split
  · exact fun _ => fresh
  · exact ht

end Inters

variable [Session σ] {s s' : System σ} {t : ThreadRef}

private theorem deleteStepRequest_inters (request : RequestId) (s : System σ) :
    Inters t s (deleteStepRequest request s).2 := by
  rw [deleteStepRequest_state]
  exact .of_eq rfl

private theorem leaveRequest_inters (s : System σ) (u : ThreadRef) (request : RequestId) :
    Inters t s (s.leaveRequest u request) :=
  trans_of (Inters t) (deleteStepRequest_inters request s) (.setRunning _ u true)

private theorem stepEnd_inters (u : ThreadRef) (request : Option RequestId) (s : System σ) :
    Inters t s (stepEnd u request s).2 := by
  have ended : Inters t s ((s.stopRunning u).mapThread u (·.setStepping none)) :=
    trans_of (Inters t) (.setRunning s u false) (.setStepping _ u none)
  cases request with
  | none => exact ended.aside rfl
  | some request =>
    rw [stepEnd_some]
    exact (trans_of (Inters t) ended (deleteStepRequest_inters request _)).aside rfl

theorem Change.inters (h : Change s s') : Inters t s s' := by
  cases h with
  | aside h => exact .of_eq (congrArg Core.threads h)
  | @refresh u remote session hs _ => exact .updateFrames (s := { s with session }) hs remote
  | preserve u => exact .preserveFrames s u
  | pop u frame => exact (Inters.preserveFrames s u).aside rfl
  | run u => exact .startRunning s u
  | stop u => exact .setRunning s u false
  | bury u => exact .bury s u
  | groupName u name => exact .mapAside s u fun _ => rfl
  | @beginInvocation u call alive hi hs =>
    have marked : Inters t s (s.mapThread u fun th => { th with invoking := true }) := .mapAside s u fun _ => rfl
    have rest := System.liftTimeout_rest
      ((s.mapThread u fun th => { th with invoking := true }).startRunning u) s.session
    exact (trans_of (Inters t) marked (.startRunning _ u)).aside (congrArg System.threads rest :)
  | @endInvocation n task =>
    let u := task.thread
    have marked : Inters t (s.stopRunning u)
        ((s.stopRunning u).mapThread u fun th => { th with invoking := false }) := .mapAside _ u fun _ => rfl
    have rest := System.restoreTimeout_rest
      ((s.stopRunning u).mapThread u fun th => { th with invoking := false }) s.session
    exact (trans_of (Inters t) (.setRunning s u false) marked).aside (congrArg System.threads rest :)
  | stopAt u b all =>
    have arrived : Inters t s (s.arrive u b) := .mapAside s u fun _ => rfl
    exact System.stopAt_within arrived Inters.suspendListed (.setRunning · u false) all
  | uninstall b =>
    have left (s : System σ) (u : ThreadRef) : Inters t s (s.leaveBreakpoint b u) := .mapAside s u fun _ => rfl
    exact System.uninstall_within (fun _ _ => .of_eq rfl) left s
  | enlist new fresh => exact .enlist s fresh.frames
  | died id => exact .threadDied s id
  | disconnect => exact .disconnect s
  | release =>
    unfold System.release
    dsimp only
    split
    · exact .of_eq rfl
    · exact .of_eq rfl
  | @renewStep u old new wanted session =>
    exact (trans_of (Inters t) (leaveRequest_inters s u old.request) (.setStepping _ u (some new))).aside rfl
  | abort u =>
    cases hp : (s.thread u).stepping with
    | none =>
      rw [abortStep_none hp]
      exact refl_of (Inters t) s
    | some st =>
      rw [abortStep_some hp]
      exact trans_of (Inters t) (.setStepping s u none) (deleteStepRequest_inters st.request _)
  | _ => exact .of_eq rfl

omit [Session σ] in
theorem Evaluating.inters (h : Evaluating s s') : Inters t s s' := by
  cases h with
  | tasks => exact .of_eq rfl
  | mark u e => exact .mapAside s u fun _ => rfl

omit [Session σ] in
theorem Watching.inters (h : Watching s s') : Inters t s s' := by
  cases h with
  | aside h => exact .of_eq (congrArg Core.threads h)
  | suspending u b => exact .mapAside s u fun _ => rfl

theorem StepChange.inters (h : StepChange s s') : Inters t s s' := by
  cases h with
  | landing h =>
    cases h with
    | change h => exact h.inters
    | finish u h =>
      cases h with
      | finish hp => exact stepEnd_inters u _ s
      | @giveUp stepping _ _ session _ _ =>
        have left : Inters t s { s.leaveRequest u stepping.request with session } :=
          (leaveRequest_inters s u _).aside rfl
        exact trans_of (Inters t) left (stepEnd_inters u none _)
  | start h =>
    cases h with
    | @enter u stepping _ session =>
      have held : Inters t s ({ s with session }.mapThread u (·.setStepping (some stepping))) :=
        .setStepping { s with session } u (some stepping)
      exact (trans_of (Inters t) held (.startRunning _ u)).aside rfl
  | evaluating h => exact h.inters
  | watching h => exact h.inters

theorem interred_invariant (w : Surroundings σ) : Invariant w fun s => ∀ t, (s.thread t).Interred where
  blank settings _ t _ := by
    rw [System.thread_of_size_le (Nat.zero_le _)]
    rfl
  change hc hs t := hc.inters (hs t)
  machine _ hs := hs
  bus _ hs := hs

/-! ## Calls on behalf of the dead -/

/-- A call that asks for no step, lets nothing run and invokes nothing. -/
inductive Passive : σ → σ → Prop
  | threadName (t m) : Passive m (stateAfter (Session.threadName t) m)
  | threadPriority (t m) : Passive m (stateAfter (Session.threadPriority t) m)
  | threadGroup (t m) : Passive m (stateAfter (Session.threadGroup t) m)
  | groupName (g m) : Passive m (stateAfter (Session.groupName g) m)
  | frameCount (t m) : Passive m (stateAfter (Session.frameCount t) m)
  | ownedMonitors (t m) : Passive m (stateAfter (Session.ownedMonitors t) m)
  | contendedMonitor (t m) : Passive m (stateAfter (Session.contendedMonitor t) m)
  | suspendThread (t m) : Passive m (stateAfter (Session.suspendThread t) m)
  | threadIsSuspended (t m) : Passive m (stateAfter (Session.threadIsSuspended t) m)
  | deleteStep (request m) : Passive m (stateAfter (Session.deleteEventRequest .step request) m)
  | setRequestTimeout (ms m) : Passive m (Session.setRequestTimeout ms m)
  | exitVm (code m) : Passive m (stateAfter (Session.exitVm code) m)

/-- Only passive calls are made, and no invocation is left behind to be made. -/
structure Passes (s s' : System σ) : Prop where
  session : Relation.ReflTransGen Passive s.session s'.session
  invocations : s'.invocations = s.invocations

instance : IsPreorder (System σ) Passes where
  refl _ := ⟨.refl, rfl⟩
  trans _ _ _ h h' := ⟨h.session.trans h'.session, h'.invocations.trans h.invocations⟩

namespace Passes

theorem of_eq (session : s'.session = s.session) (invocations : s'.invocations = s.invocations) :
    Passes s s' := ⟨session ▸ .refl, invocations⟩

/-- Whatever touches neither the machine nor an invocation is left out. -/
theorem aside {s₁ : System σ} (h : Passes s s₁) (session : s'.session = s₁.session)
    (invocations : s'.invocations = s₁.invocations) : Passes s s' :=
  trans_of Passes h (of_eq session invocations)

theorem called {m : σ} (h : Relation.ReflTransGen Passive s.session m) : Passes s { s with session := m } :=
  ⟨h, rfl⟩

theorem disconnect (s : System σ) : Passes s s.disconnect :=
  .of_eq (congrArg System.session (System.disconnect_rest s) :)
    (congrArg System.invocations (System.disconnect_rest s) :)

theorem bury (s : System σ) (t : ThreadRef) : Passes s (s.bury t) :=
  .of_eq (congrArg System.session (System.bury_rest s t) :) (congrArg System.invocations (System.bury_rest s t) :)

theorem askFor {α : Type} {activity : String} {call : Call σ α}
    (h : Within (Relation.ReflTransGen Passive) call) : Within Passes (askFor activity call) :=
  .askFor fun s => called (h s.session)

theorem ask {α β : Type} {call : Call σ α} {f : Except SessionError α → Client σ β}
    (h : ∀ m, Passive m (stateAfter call m)) (hf : ∀ r, Within Passes (f r)) : Within Passes (ask call >>= f) :=
  .bind (.ask fun s => called (.single (h s.session))) hf

end Passes

/-! ## Operations that pass a thread by unless it is suspended -/

section

variable (hs : (s.thread t).isSuspended = false)

include hs

theorem computeFrames_passes_by (force : Bool) : computeFrames t force s = .ok [] s := by
  rw [computeFrames, act_get_bind, hs]
  rfl

theorem stackFrames_passes_by : stackFrames t s = .ok [] s := computeFrames_passes_by hs false

private theorem canStep_passes_by : canStep t s = (false, s) := by
  rw [canStep, run_get_bind]
  simp only [hs]
  rfl

private theorem hasStackFrames_passes_by : stateAfter (hasStackFrames t) s = s := by
  have tried : (attempt (stackFrames t) : Client σ _) s = .ok (.ok []) s := by
    simp only [attempt, act, stackFrames_passes_by hs]
  rw [hasStackFrames, stateAfter_bind_ok tried]
  rfl

private theorem findVariable_passes_by (name : String) : stateAfter (findVariable t name) s = s := by
  rw [findVariable, stateAfter_get_bind]
  simp only [hs]
  rfl

private theorem hasOwnedMonitors_passes_by : stateAfter (hasOwnedMonitors t) s = s := by
  rw [hasOwnedMonitors, stateAfter_get_bind, hs]
  rfl

private theorem canStepWithFilters_passes_by : (canStepWithFilters t s).2 = s := by
  rw [canStepWithFilters, run_get_bind]
  split
  · rw [canStep_passes_by hs]
  · rfl

private theorem canDropToFrame_passes_by (frame : FrameRef) : (canDropToFrame t frame s).2 = s := by
  rw [canDropToFrame, run_bind (canStep_passes_by hs)]
  rfl

private theorem resumeThread_passes_by (notify : Bool) : stateAfter (resumeThread t notify) s = s := by
  rw [resumeThread, stateAfter_get_bind, hs]
  rfl

private theorem beginInvocation_passes_by (target : InvokeTarget) (method : MethodRef) (args : List Value)
    (nonvirtual : Bool) : ∃ e, beginInvocation t target method args nonvirtual s = .error e s := by
  rcases beginInvocation_cases t target method args nonvirtual s with refused | ⟨-, -, suspended, -⟩
  · exact refused
  · rw [hs] at suspended
    cases suspended

omit hs [Session σ] in
/-- What is done in a target that lives. -/
private theorem needTargetThen_passes_by {op : Client σ Unit} (h : stateAfter op s = s) :
    stateAfter (needTarget >>= fun _ => op) s = s := by
  cases ha : s.targetAlive with
  | false => exact stateAfter_bind_error (needTarget_gone ha)
  | true => rw [stateAfter_bind_ok (needTarget_alive ha), h]

private theorem isOutOfSync_passes_by : stateAfter (isOutOfSync t) s = s := by
  cases ha : s.targetAlive with
  | false => exact stateAfter_bind_error (needTarget_gone ha)
  | true =>
    rw [isOutOfSync, stateAfter_bind_ok (needTarget_alive ha), stateAfter_get_bind, hs]
    rfl

/-- What a thread would do if it could step. -/
private theorem canStepThen_passes_by (op : Client σ Unit) :
    stateAfter (do if ← act (canStep t) then op : Client σ Unit) s = s := by
  have can : (act (canStep t) : Client σ Bool) s = .ok false s := by
    simp only [act, canStep_passes_by hs]
  rw [stateAfter_bind_ok can]
  rfl

private theorem step_passes_by (kind : StepKind) (filters : StepFilters) :
    stateAfter (step t kind filters) s = s := canStepThen_passes_by hs _

private theorem stepWithTargetFilters_passes_by (kind : StepKind) :
    stateAfter (stepWithTargetFilters t kind) s = s := by
  rw [stepWithTargetFilters]
  refine needTargetThen_passes_by ?_
  rw [stateAfter_get_bind]
  exact step_passes_by hs kind s.filters

private theorem stepWithFilters_passes_by : stateAfter (stepWithFilters t) s = s := by
  rw [stepWithFilters]
  refine needTargetThen_passes_by ?_
  rw [stateAfter_get_bind]
  dsimp only
  split
  · exact canStepThen_passes_by hs _
  · rfl

private theorem stepToFrame_passes_by (frame : FrameRef) : stateAfter (stepToFrame t frame) s = s := by
  rw [stepToFrame]
  refine needTargetThen_passes_by ?_
  rw [stateAfter_get_bind]
  exact canStepThen_passes_by hs _

private theorem dropToFrame_passes_by (frame : FrameRef) : stateAfter (dropToFrame t frame) s = s := by
  rw [dropToFrame]
  refine needTargetThen_passes_by ?_
  rw [stateAfter_get_bind]
  exact canStepThen_passes_by hs _

end

/-! ## Operations that only ask -/

theorem abortStep_passes (t : ThreadRef) : Debug.Within Passes (abortStep t : Debug σ _) := fun s => by
  cases hp : (s.thread t).stepping with
  | none =>
    rw [abortStep_none hp]
    exact refl_of Passes s
  | some st =>
    rw [abortStep_some hp, deleteStepRequest_state]
    exact ⟨.single (.deleteStep st.request s.session), rfl⟩

/-- A task that gets ready makes no difference. -/
private theorem Passes.wake (h : Passes s s') (task : TaskId) : Passes s (s'.wake task) :=
  h.aside (congrArg Core.session (core_wake s' task)) (congrArg Core.invocations (core_wake s' task))

private theorem groupOf_passive (id : ThreadId) : Within (Relation.ReflTransGen Passive) (do
    match ← Session.threadGroup id with
    | some group => return some (← Session.groupName group)
    | none => return none : Call σ (Option String)) :=
  .bind (fun m => .single (.threadGroup id m)) fun group => by
    cases group with
    | none => exact .pure _
    | some group => exact .bind (fun m => .single (.groupName group m)) fun _ => .pure _

private theorem groupName_passes (t : ThreadRef) : Within Passes (threadGroupName t : Client σ _) :=
  .get_bind fun s => by
    dsimp only
    split
    · exact refl_of Passes s
    · refine Within.bind (Passes.askFor (groupOf_passive _)) (fun name => ?_) s
      exact .bind (.modify fun s => .of_eq rfl rfl) fun _ => .pure _

private theorem frameCount_passes (t : ThreadRef) : Within Passes (frameCount t : Client σ _) :=
  .get_bind fun s => Passes.ask (.frameCount _) (fun r => by
    split
    · exact .pure _
    · exact .throw _
    · exact .throw _) s

private theorem ownedMonitors_passes (t : ThreadRef) : Within Passes (ownedMonitors t : Client σ _) :=
  .get_bind fun s => Passes.ask (.ownedMonitors _) (fun r => by
    split
    · exact .pure _
    · exact .pure _
    · exact .throw _) s

private theorem contendedMonitor_passes (t : ThreadRef) : Within Passes (contendedMonitor t : Client σ _) :=
  .get_bind fun s => Passes.ask (.contendedMonitor _) (fun r => by
    split
    · exact .pure _
    · exact .pure _
    · exact .throw _) s

private theorem terminateTarget_passes : Within Passes (terminateTarget : Client σ _) :=
  terminateTarget_within (fun s => .called (.single (.exitVm _ s.session))) .disconnect

private theorem suspend_passes (t : ThreadRef) : Within Passes (suspend t : Client σ _) :=
  .bind (.act (abortStep_passes t)) fun _ => .get_bind fun s => by
    split
    · exact refl_of Passes s
    · refine Within.bind (.modify fun s => .of_eq rfl rfl) (fun _ => ?_) s
      refine .modifyGet fun s => ?_
      have watched : Passes s { s with watches := s.watches.push ⟨t, .asking, false⟩ } := .of_eq rfl rfl
      exact watched.wake _

private theorem suspendAtBreakpoint_passes (t : ThreadRef) (b : BreakpointRef) (queued : Bool) :
    Debug.Within Passes (suspendAtBreakpoint t b queued : Debug σ _) := by
  intro s
  have stopped : Passes s (s.stopAt t b (s.stopsAll b)) := by
    cases s.stopsAll b with
    | true =>
      have rest := System.suspendListed_rest (s.arrive t b)
      exact .of_eq (congrArg System.session rest :) (congrArg System.invocations rest :)
    | false => exact .of_eq rfl rfl
  rw [suspendAtBreakpoint_eq]
  generalize s.stopAt t b (s.stopsAll b) = s₁ at stopped
  have asked : Passes s₁ (s₁.judge t (s.breakpoint b) s.targetAlive).2 := by
    cases s.targetAlive <;> exact .of_eq rfl rfl
  dsimp only
  generalize s₁.judge t (s.breakpoint b) s.targetAlive = r at asked
  obtain ⟨stays, s₂⟩ := r
  refine trans_of Passes (trans_of Passes stopped asked) ?_
  have told (s : System σ) (source : Element) (a : Announcement) : Passes s (s.publish queued source a) := by
    cases queued <;> exact .of_eq rfl rfl
  cases stays with
  | true =>
    have all : Passes s₂ (if s.stopsAll b then s₂.publish queued .target (.suspend .breakpoint) else s₂) := by
      split
      · exact told _ _ _
      · exact refl_of Passes s₂
    exact trans_of Passes (trans_of Passes all (abortStep_passes t _)) (told _ _ _)
  | false =>
    cases s.stopsAll b with
    | true =>
      have rest := System.resumeListed_rest s₂
      exact .of_eq (congrArg System.session rest :) (congrArg System.invocations rest :)
    | false => exact .of_eq rfl rfl

private theorem terminateEvaluation_passes (t : ThreadRef) :
    Debug.Within Passes (terminateEvaluation t : Debug σ _) :=
  .get_bind fun s => by
    rcases (s.thread t).evaluation with _ | e
    · exact refl_of Passes s
    · have marked : Passes s (s.mapThread t fun th => { th with evaluation := some { e with cancelled := true } }) :=
        .of_eq rfl rfl
      exact marked.aside (congrArg Core.session (core_wakeEvaluations _ _))
        (congrArg Core.invocations (core_wakeEvaluations _ _))

/-! ## The operations on a thread -/

/-- What a client asks of a thread that is not suspended reaches the machine as passive calls at most. -/
theorem Operation.passes {o : Operation} (hs : (s.thread t).isSuspended = false) (ho : o.thread? = some t) :
    Passes s (o.perform s) := by
  have frames (force : Bool) := computeFrames_passes_by hs force
  have same (h : o.perform s = s) : Passes s (o.perform s) := h.symm ▸ refl_of Passes s
  cases o with
  | name => exact Within.get_bindAt (Passes.askFor (fun m => .single (.threadName _ m)) s)
  | priority => exact Within.get_bindAt (Passes.askFor (fun m => .single (.threadPriority _ m)) s)
  | groupName u => exact groupName_passes u s
  | frameCount u => exact frameCount_passes u s
  | ownedMonitors u => exact ownedMonitors_passes u s
  | contendedMonitor u => exact contendedMonitor_passes u s
  | terminateThread u => exact Within.bind .needTarget (fun _ => terminateTarget_passes) s
  | suspend u => exact suspend_passes u s
  | atBreakpoint u b queued => exact suspendAtBreakpoint_passes u b queued s
  | atBreakpointQuietly u b =>
    have stopped : Passes s ((s.arrive u b).stopRunning u) := .of_eq rfl rfl
    exact trans_of Passes stopped (abortStep_passes u _)
  | evaluate u detail honors body =>
    have left : Passes s
        { s with evaluations := s.evaluations.push ⟨u, detail, honors, body, 0, false, .starting⟩ } :=
      .of_eq rfl rfl
    exact left.wake _
  | terminateEvaluation u => exact terminateEvaluation_passes u s
  | frames => cases ho; exact same (stateAfter_of_ok (frames false))
  | newFrames => cases ho; exact same (stateAfter_of_ok (frames true))
  | topFrame => cases ho; exact same (stateAfter_bind_ok (frames false))
  | hasFrames => cases ho; exact same (hasStackFrames_passes_by hs)
  | findVariable _ sought => cases ho; exact same (findVariable_passes_by hs sought)
  | hasOwnedMonitors => cases ho; exact same (hasOwnedMonitors_passes_by hs)
  | isOutOfSync => cases ho; exact same (isOutOfSync_passes_by hs)
  | canStep => cases ho; exact same (congrArg Prod.snd (canStep_passes_by hs))
  | canStepWithFilters => cases ho; exact same (canStepWithFilters_passes_by hs)
  | canDropToFrame _ frame => cases ho; exact same (canDropToFrame_passes_by hs frame)
  | resume => cases ho; exact same (resumeThread_passes_by hs true)
  | resumeQuietly => cases ho; exact same (resumeThread_passes_by hs false)
  | step _ kind filters => cases ho; exact same (step_passes_by hs kind filters)
  | stepWithTargetFilters _ kind => cases ho; exact same (stepWithTargetFilters_passes_by hs kind)
  | stepWithFilters => cases ho; exact same (stepWithFilters_passes_by hs)
  | stepToFrame _ frame => cases ho; exact same (stepToFrame_passes_by hs frame)
  | dropToFrame _ frame => cases ho; exact same (dropToFrame_passes_by hs frame)
  | invoke _ target method args nonvirtual =>
    cases ho
    obtain ⟨e, refused⟩ := beginInvocation_passes_by hs target method args nonvirtual
    exact same (stateAfter_of_error refused)
  | _ => cases ho

/-! ## Tasks that are left for a thread -/

/-- A watch asks for its thread to be suspended, and whether it is. -/
theorem runWatch_passes (n : Nat) : Debug.Within Passes (runWatch n : Debug σ _) := fun _ =>
  runWatch_within fun w _ =>
    { suspendThread := fun s => .called (.single (.suspendThread _ s.session))
      threadIsSuspended := fun s => .called (.single (.threadIsSuspended _ s.session))
      aside := fun h _ => .of_eq (congrArg Core.session h) (congrArg Core.invocations h)
      suspending := fun _ => .of_eq rfl rfl
      stop := fun _ => .of_eq rfl rfl
      bury := fun s => .bury s w.thread }

/-- Nothing is sent when a dead thread is restored after an invocation. -/
private theorem restoreThread_passes (dead : (s.thread t).terminated) (hn : (s.thread t).stepping = none) :
    Passes s (restoreThread t s).2 := by
  let stopped := (s.stopRunning t).mapThread t fun th => { th with invoking := false }
  have rest := System.restoreTimeout_rest stopped s.session
  have restored : Passes s stopped.restoreTimeout := by
    refine ⟨?_, (congrArg System.invocations rest :)⟩
    unfold System.restoreTimeout
    dsimp only
    split
    · split <;> exact .single (.setRequestTimeout _ _)
    · exact .refl
  have still : (stopped.restoreTimeout.thread t).isSuspended = false := by
    have threads : stopped.restoreTimeout.threads = stopped.threads := (congrArg System.threads rest :)
    have terminated : (stopped.thread t).terminated = (s.thread t).terminated :=
      (System.mapThread_keeps (g := Thread.terminated) (fun _ => by rfl) (s.stopRunning t) t t).trans
        (System.mapThread_keeps (g := Thread.terminated) (fun _ => by rfl) s t t)
    rw [System.thread_congr threads, Thread.isSuspended, terminated, dead, Bool.not_true, Bool.and_false]
  have looked := attempt_ok (stackFrames_passes_by still)
  have aborted : abortStep t s = ((), s) := abortStep_none hn
  rw [restoreThread, run_bind aborted, run_modify_bind, run_modify_bind, run_bind looked]
  exact restored

private theorem beginEvaluation_passes (t : ThreadRef) (detail : EventDetail) (honors : Bool) :
    Within Passes (beginEvaluation t detail honors : Client σ _) :=
  .get_bind fun s => by
    split
    · exact refl_of Passes s
    · exact .of_eq rfl rfl

omit [Session σ] in
private theorem isSuspended_beginEvaluation (t u : ThreadRef) (detail : EventDetail) (honors : Bool)
    (s : System σ) :
    ((stateAfter (beginEvaluation t detail honors) s).thread u).isSuspended = (s.thread u).isSuspended := by
  rw [beginEvaluation, stateAfter_get_bind]
  split
  · rfl
  · exact System.mapThread_keeps (g := Thread.isSuspended) (fun _ => by rfl)
      { s with nextToken := s.nextToken + 1 } t u

/-- An evaluation in a thread that is not suspended calls no method. -/
private theorem startBody_passes {e : EvaluationTask} (hs : (s.thread e.thread).isSuspended = false) :
    Passes s (startBody e s).2 := by
  obtain ⟨t, detail, honors, body, token, finish, state⟩ := e
  cases body with
  | succeed => exact refl_of Passes s
  | fail => exact refl_of Passes s
  | wait => exact refl_of Passes s
  | nest =>
    have inside : Within Passes (evaluateInside t detail : Client σ _) :=
      .bind (beginEvaluation_passes t detail true) fun _ => .modify fun s => .of_eq rfl rfl
    exact (attempt_state (evaluateInside t detail) s).symm ▸ inside s
  | invoke target method args nonvirtual =>
    obtain ⟨e, refused⟩ := beginInvocation_passes_by hs target method args nonvirtual
    rw [startBody]
    dsimp only
    rw [run_bind (attempt_error refused)]
    exact refl_of Passes s

/-- An evaluation in a thread that is not suspended sends nothing. -/
theorem runEvaluation_passes {n : Nat} {e : EvaluationTask} (he : s.evaluations[n]? = some e)
    (hs : (s.thread e.thread).isSuspended = false) : Passes s (runEvaluation n s).2 := by
  obtain ⟨t, detail, honors, body, token, finish, state⟩ := e
  have settled (p : Progress) (s : System σ) :
      Passes s (p.note n ⟨t, detail, honors, body, token, finish, state⟩ s).2 := by
    cases p with
    | stay state => exact .of_eq rfl rfl
    | «over» result => exact .of_eq rfl rfl
  rw [runEvaluation, run_get_bind, he]
  cases state with
  | done r => exact refl_of Passes s
  | waiting => exact settled _ s
  | invoking m => exact settled _ s
  | starting =>
    have begun := beginEvaluation_passes t detail honors s
    have same := isSuspended_beginEvaluation t t detail honors s
    dsimp only
    cases hb : beginEvaluation t detail honors s with
    | error err s' =>
      rw [stateAfter_of_error hb] at begun
      rw [run_bind (attempt_error hb)]
      exact begun.aside rfl rfl
    | ok token s' =>
      rw [stateAfter_of_ok hb] at begun same
      rw [run_bind (attempt_ok hb)]
      dsimp only
      rw [run_modify_bind]
      have marked : Passes s (s'.setEvaluation n fun e => { e with token }) :=
        begun.aside rfl rfl
      have body := startBody_passes (s := s'.setEvaluation n fun e => { e with token })
        (e := ⟨t, detail, honors, body, token, finish, .starting⟩) (same.trans hs)
      exact trans_of Passes marked (trans_of Passes body (settled _ _))

/-! ## Dead threads -/

/-- Nothing comes of a dead thread: it steps no more, has no frames, and what is asked of it or left to do
for it reaches the machine as passive calls at most. -/
structure System.Dead (s : System σ) (t : ThreadRef) : Prop where
  terminated : (s.thread t).terminated
  suspended : (s.thread t).isSuspended = false
  stepless : (s.thread t).stepping = none
  frameless : (s.thread t).frames = []
  stack : stackFrames t s = .ok [] s
  landing (request : RequestId) (landing : Location) : landStep t request landing s = (.resume, s)
  operation {o : Operation} (ho : o.thread? = some t) : Passes s (o.perform s)
  watch {n : Nat} {w : Watch} (hw : s.watches[n]? = some w) (ht : w.thread = t) : Passes s (runWatch n s).2
  evaluation {n : Nat} {e : EvaluationTask} (he : s.evaluations[n]? = some e) (ht : e.thread = t) :
    Passes s (runEvaluation n s).2
  restored : Passes s (restoreThread t s).2

/-- Nothing comes of a thread that has terminated. -/
theorem Reachable.dead {w : Surroundings σ} (h : Reachable w s) (terminated : (s.thread t).terminated) :
    s.Dead t := by
  have suspended : (s.thread t).isSuspended = false := by
    rw [Thread.isSuspended, terminated, Bool.not_true, Bool.and_false]
  have stepless := h.sound.dead terminated
  exact {
    terminated
    suspended
    stepless
    frameless := (interred_invariant w).reachable h t terminated
    stack := stackFrames_passes_by suspended
    landing := fun request landing => landStep_stale fun st hp => by
      rw [stepless] at hp
      cases hp
    operation := Operation.passes suspended
    watch := fun _ _ => runWatch_passes _ s
    evaluation := fun he ht => runEvaluation_passes he (ht ▸ suspended)
    restored := restoreThread_passes terminated stepless }

end Debugger

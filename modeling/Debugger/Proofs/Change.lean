import Debugger.Proofs.Parts

/-! # Elementary changes

Every operation of the debugger, and every stretch of its background tasks, is a sequence of the changes
listed here.  What all of them keep is kept by whatever happens.
-/

namespace Debugger

variable {σ : Type} [Session σ]

/-- One call to the machine that neither makes nor deletes a step request, installs nothing, pops no
frames and leaves the request timeout alone. -/
inductive Exchange : σ → σ → Prop
  | allThreads (s) : Exchange s (stateAfter Session.allThreads s)
  | threadName (t s) : Exchange s (stateAfter (Session.threadName t) s)
  | suspendThread (t s) : Exchange s (stateAfter (Session.suspendThread t) s)
  | resumeThread (t s) : Exchange s (stateAfter (Session.resumeThread t) s)
  | threadIsSuspended (t s) : Exchange s (stateAfter (Session.threadIsSuspended t) s)
  | frames (t s) : Exchange s (stateAfter (Session.frames t) s)
  | frameCount (t s) : Exchange s (stateAfter (Session.frameCount t) s)
  | threadGroup (t s) : Exchange s (stateAfter (Session.threadGroup t) s)
  | groupName (g s) : Exchange s (stateAfter (Session.groupName g) s)
  | groupParent (g s) : Exchange s (stateAfter (Session.groupParent g) s)
  | threadPriority (t s) : Exchange s (stateAfter (Session.threadPriority t) s)
  | ownedMonitors (t s) : Exchange s (stateAfter (Session.ownedMonitors t) s)
  | contendedMonitor (t s) : Exchange s (stateAfter (Session.contendedMonitor t) s)
  | accept (call s) : Exchange s (stateAfter (Session.accept call) s)
  | invoke (call s) : Exchange s (stateAfter (Session.invoke call) s)
  | forceReturn (t s) : Exchange s (stateAfter (Session.forceReturn t) s)
  | frameVariable (t f n s) : Exchange s (stateAfter (Session.frameVariable t f n) s)
  | suspendVm (s) : Exchange s (stateAfter Session.suspendVm s)
  | resumeVm (s) : Exchange s (stateAfter Session.resumeVm s)
  | exitVm (code s) : Exchange s (stateAfter (Session.exitVm code) s)
  | deleteBreakpoint (r s) : Exchange s (stateAfter (Session.deleteEventRequest .breakpoint r) s)
  | stepRefused {r s e s'} (h : Session.createStepRequest r s = .error e s') : Exchange s s'
  | breakpointRefused {r s e s'} (h : Session.createBreakpointRequest r s = .error e s') :
    Exchange s s'

/-- A question about a thread, or about groups of threads. -/
inductive Inquiry (t : ThreadId) : σ → σ → Prop
  | threadName (s) : Inquiry t s (stateAfter (Session.threadName t) s)
  | threadIsSuspended (s) : Inquiry t s (stateAfter (Session.threadIsSuspended t) s)
  | frames (s) : Inquiry t s (stateAfter (Session.frames t) s)
  | frameCount (s) : Inquiry t s (stateAfter (Session.frameCount t) s)
  | threadGroup (s) : Inquiry t s (stateAfter (Session.threadGroup t) s)
  | groupName (g s) : Inquiry t s (stateAfter (Session.groupName g) s)
  | groupParent (g s) : Inquiry t s (stateAfter (Session.groupParent g) s)
  | threadPriority (s) : Inquiry t s (stateAfter (Session.threadPriority t) s)
  | ownedMonitors (s) : Inquiry t s (stateAfter (Session.ownedMonitors t) s)
  | contendedMonitor (s) : Inquiry t s (stateAfter (Session.contendedMonitor t) s)
  | frameVariable (f n s) : Inquiry t s (stateAfter (Session.frameVariable t f n) s)

theorem Inquiry.exchange {t : ThreadId} {s s' : σ} (h : Inquiry t s s') : Exchange s s' := by
  cases h with
  | threadName => exact .threadName t s
  | threadIsSuspended => exact .threadIsSuspended t s
  | frames => exact .frames t s
  | frameCount => exact .frameCount t s
  | threadGroup => exact .threadGroup t s
  | groupName g => exact .groupName g s
  | groupParent g => exact .groupParent g s
  | threadPriority => exact .threadPriority t s
  | ownedMonitors => exact .ownedMonitors t s
  | contendedMonitor => exact .contendedMonitor t s
  | frameVariable f n => exact .frameVariable t f n s

/-- The calls of an invocation: it is let in, and carried out. -/
inductive Calling (call : Invocation) : σ → σ → Prop
  | accept (s) : Calling call s (stateAfter (Session.accept call) s)
  | invoke (s) : Calling call s (stateAfter (Session.invoke call) s)

theorem Calling.exchange {call : Invocation} {s s' : σ} (h : Calling call s s') : Exchange s s' := by
  cases h with
  | accept => exact .accept call s
  | invoke => exact .invoke call s

/-- Whether an announcement with that detail is about a step. -/
def EventDetail.isStep : EventDetail → Bool
  | stepInto | stepOver | stepReturn | stepEnd => true
  | _ => false

/-- The invocation is over. -/
def InvocationState.isDone : InvocationState → Bool
  | done _ => true
  | _ => false

/-- What is known of a thread that was just heard of. -/
structure Thread.IsNew (th : Thread) : Prop where
  frames : th.frames = []
  refresh : th.refresh = true
  breakpoints : th.breakpoints = []
  stepping : th.stepping = none
  invoking : th.invoking = false
  suspending : th.suspending = false
  evaluation : th.evaluation = none
  notRunning : th.terminated → th.running = false

/-- The part of a system that is about threads, requests, invocations and announcements. -/
structure Core (σ : Type) where
  session : σ
  bus : Bus
  threads : Array Thread
  frames : FrameStore
  breakpoints : Array Breakpoint
  registry : List ThreadRef
  installed : Table RequestId BreakpointRef
  stepOwners : Table RequestId ThreadId
  suspended : Bool
  disconnected : Bool
  released : Bool
  activeInvocations : Nat
  savedTimeout : Option Nat
  invocations : Array InvocationTask
  evaluations : Array EvaluationTask

/-- The task confirms a suspend request. -/
def TaskId.watches : TaskId → Bool
  | watch _ => true
  | _ => false

/-- The part of a system that suspend requests wait by. -/
structure Clock where
  settings : TargetSettings
  now : Nat
  sleeping : List (Nat × TaskId)
  watches : Array Watch
  notices : List (ThreadId × Status)
  /-- The watches that can go on. -/
  awake : List TaskId

namespace System

def core (s : System σ) : Core σ where
  session := s.session
  bus := s.bus
  threads := s.threads
  frames := s.frames
  breakpoints := s.breakpoints
  registry := s.registry
  installed := s.installed
  stepOwners := s.stepOwners
  suspended := s.suspended
  disconnected := s.disconnected
  released := s.released
  activeInvocations := s.activeInvocations
  savedTimeout := s.savedTimeout
  invocations := s.invocations
  evaluations := s.evaluations

/-- The time, and what there is to do about suspend requests. -/
def clock (s : System σ) : Clock where
  settings := s.settings
  now := s.now
  sleeping := s.sleeping
  watches := s.watches
  notices := s.notices
  awake := s.ready.filter TaskId.watches

/-- What the background tasks for suspend requests and evaluations are at. -/
def errands (s : System σ) : Array EvaluationTask × Clock := (s.evaluations, s.clock)

/-- How the evaluations there ever were are announced. -/
def evaluationDetails (s : System σ) : List EventDetail := s.evaluations.toList.map (·.detail)

/-- No evaluation is announced as if it were a step. -/
def PlainEvaluations (s : System σ) : Prop := ∀ d ∈ s.evaluationDetails, d.isStep = false

/-- A thread that is not listed yet gets an object of its own. -/
def enlist (s : System σ) (th : Thread) : System σ :=
  { s with threads := s.threads.push th, registry := s.registry ++ [s.threads.size] }.fire
    (.thread th.id) .create

/-- The thread runs for an invocation, which is left to a new task. -/
def enterInvocation (s : System σ) (t : ThreadRef) (call : Invocation) : System σ :=
  let s := ((s.mapThread t fun th => { th with invoking := true }).startRunning t).liftTimeout
  { s with invocations := s.invocations.push ⟨t, call, .calling⟩ }

/-- The invocation of a task is over, and its thread is suspended again. -/
def leaveInvocation (s : System σ) (t : ThreadRef) (n : Nat) (result : Except SessionError Value) :
    System σ :=
  ((s.stopRunning t).mapThread t fun th => { th with invoking := false }).restoreTimeout.setInvocation n
    (.done result)

/-- The thread is at the breakpoint, and it or everything is suspended. -/
def stopAt (s : System σ) (t : ThreadRef) (b : BreakpointRef) (all : Bool) : System σ :=
  if all then (s.arrive t b).suspendListed else (s.arrive t b).stopRunning t

omit [Session σ] in
theorem stopAt_within {R : System σ → System σ → Prop} [IsPreorder (System σ) R] {s : System σ} {t : ThreadRef}
    {b : BreakpointRef} (arrive : R s (s.arrive t b)) (suspend : ∀ s, R s s.suspendListed)
    (stop : ∀ s, R s (s.stopRunning t)) (all : Bool) : R s (s.stopAt t b all) := by
  cases all with
  | true => exact trans_of R arrive (suspend _)
  | false => exact trans_of R arrive (stop _)

/-- The breakpoint is installed no more, and no listed thread is at it. -/
def uninstall (s : System σ) (b : BreakpointRef) : System σ :=
  s.registry.foldl (·.leaveBreakpoint b)
    { s with installed := s.installed.erase (s.breakpoint b).request }

omit [Session σ] in
theorem uninstall_within {R : System σ → System σ → Prop} [IsPreorder (System σ) R] {b : BreakpointRef}
    (deinstall : ∀ s installed, R s { s with installed }) (leave : ∀ s t, R s (s.leaveBreakpoint b t)) (s : System σ) :
    R s (s.uninstall b) := trans_of R (deinstall s _) (foldl_within leave s.registry _)

/-- The thread starts to run for a step whose request the machine holds in `session`. -/
def enterStep (s : System σ) (t : ThreadRef) (stepping : Stepping) (session : σ) : System σ :=
  { (({ s with session }.mapThread t (·.setStepping (some stepping))).startRunning t) with
    stepOwners := s.stepOwners.put stepping.request (s.thread t).id }

/-- The frames of a thread are forgotten and the machine is asked to pop some of them. -/
def popFrames (s : System σ) (t : ThreadRef) (frame : FrameId) : System σ :=
  { s.preserveFrames t with
    session := stateAfter (Session.popFrames ((s.preserveFrames t).thread t).id frame) s.session }

/-- The request of a pending step is deleted and the thread runs again. -/
def leaveRequest (s : System σ) (t : ThreadRef) (request : RequestId) : System σ :=
  (deleteStepRequest request s).2.mapThread t (·.setRunning true)

/-- The pending step goes on with another request, which the machine holds in `session`. -/
def renewStep (s : System σ) (t : ThreadRef) (stepping : Stepping) (session : σ) : System σ :=
  { { s with session }.mapThread t (·.setStepping (some stepping)) with
    stepOwners := if s.targetAlive then s.stepOwners.put stepping.request (s.thread t).id
      else s.stepOwners }

end System

/-- One elementary change, other than the start and the end of a step and what concerns evaluations and suspend
requests. -/
inductive Change : System σ → System σ → Prop
  /-- A call to the machine. -/
  | exchange {s : System σ} {session : σ} (h : Exchange s.session session) :
    Change s { s with session }
  /-- Tasks and filters. -/
  | aside {s s' : System σ} (h : s'.core = s.core) (clock : s'.clock = s.clock) : Change s s'
  | fire {s : System σ} {source : Element} {a : Announcement}
    (h : s.PlainEvaluations → (a.event source).detail.isStep = false) : Change s (s.fire source a)
  | queue {s : System σ} {source : Element} {a : Announcement}
    (h : (a.event source).detail.isStep = false) : Change s (s.queue source a)
  | flush (s : System σ) : Change s s.flush
  /-- The known frames of a suspended thread follow its stack. -/
  | refresh {s : System σ} {t : ThreadRef} {remote : List RemoteFrame} {session : σ}
    (hs : (s.thread t).isSuspended)
    (h : Session.frames (s.thread t).id s.session = .ok remote session) :
    Change s ({ s with session }.updateFrames t remote)
  | preserve (s : System σ) (t : ThreadRef) : Change s (s.preserveFrames t)
  /-- The machine is asked to pop frames, none of which is known any more. -/
  | pop (s : System σ) (t : ThreadRef) (frame : FrameId) : Change s (s.popFrames t frame)
  | run (s : System σ) (t : ThreadRef) : Change s (s.startRunning t)
  | stop (s : System σ) (t : ThreadRef) : Change s (s.stopRunning t)
  | bury (s : System σ) (t : ThreadRef) : Change s (s.bury t)
  | groupName (s : System σ) (t : ThreadRef) (name : Option String) :
    Change s (s.mapThread t fun th => { th with groupName := some name })
  | beginInvocation {s : System σ} {t : ThreadRef} (call : Invocation) (alive : s.targetAlive)
    (hi : (s.thread t).invoking = false) (hs : (s.thread t).isSuspended) :
    Change s (s.enterInvocation t call)
  /-- The machine holds an invocation back, or lets it in. -/
  | holdInvocation {s : System σ} {n : Nat} {task : InvocationTask} {state : InvocationState}
    (h : s.invocations[n]? = some task) (pending : task.state.isDone = false)
    (hs : state.isDone = false) : Change s (s.setInvocation n state)
  | endInvocation {s : System σ} {n : Nat} {task : InvocationTask} (result : Except SessionError Value)
    (h : s.invocations[n]? = some task) (pending : task.state.isDone = false)
    (hn : (s.thread task.thread).stepping = none) : Change s (s.leaveInvocation task.thread n result)
  /-- A thread hits a breakpoint. -/
  | stopAt (s : System σ) (t : ThreadRef) (b : BreakpointRef) (all : Bool) :
    Change s (s.stopAt t b all)
  | suspended (s : System σ) (b : Bool) : Change s { s with suspended := b }
  | countHit (s : System σ) (b : BreakpointRef) :
    Change s { s with breakpoints := s.breakpoints.modify b fun bp => { bp with hits := bp.hits + 1 } }
  | install {s : System σ} {r : BreakpointRequest} {request : RequestId} {session : σ}
    (h : Session.createBreakpointRequest r s.session = .ok request session) :
    Change s { s with
      session
      breakpoints := s.breakpoints.push ⟨request, r.typeName, r.line, r.policy, 0⟩
      installed := s.installed.put request s.breakpoints.size }
  | uninstall (s : System σ) (b : BreakpointRef) : Change s (s.uninstall b)
  /-- The target learns of a thread. -/
  | enlist {s : System σ} {th : Thread} (new : s.find? th.id = none) (fresh : th.IsNew) :
    Change s (s.enlist th)
  | died (s : System σ) (id : ThreadId) : Change s (s.threadDied id)
  | disconnect (s : System σ) : Change s s.disconnect
  | release (s : System σ) : Change s s.release
  /-- A landing is not the last one of its step. -/
  | renewStep {s : System σ} {t : ThreadRef} {old new : Stepping} {wanted : StepRequest} {session : σ}
    (hp : (s.thread t).stepping = some old) (hk : new.kind.detail = old.kind.detail)
    (hw : wanted.thread = (s.thread t).id)
    (h : Session.createStepRequest wanted (s.leaveRequest t old.request).session =
      .ok new.request session) :
    Change s ((s.leaveRequest t old.request).renewStep t new session)
  /-- The pending step is cancelled. -/
  | abort (s : System σ) (t : ThreadRef) : Change s (abortStep t s).2

/-- Something becomes of an evaluation: of its task, or of what its thread knows of it. -/
inductive Evaluating : System σ → System σ → Prop
  | tasks {s : System σ} {es : Array EvaluationTask}
    (h : s.evaluationDetails <+: es.toList.map (·.detail)) : Evaluating s { s with evaluations := es }
  | mark (s : System σ) (t : ThreadRef) (e : Option Evaluation) :
    Evaluating s (s.mapThread t fun th => { th with evaluation := e })

/-- What can happen while an evaluation is seen to. -/
inductive Evaluates : System σ → System σ → Prop
  | change {s s' : System σ} (h : Change s s') : Evaluates s s'
  | evaluating {s s' : System σ} (h : Evaluating s s') : Evaluates s s'

/-- Time passes, or a suspend request gets on. -/
inductive Watching : System σ → System σ → Prop
  | aside {s s' : System σ} (h : s'.core = s.core) : Watching s s'
  | suspending (s : System σ) (t : ThreadRef) (b : Bool) :
    Watching s (s.mapThread t fun th => { th with suspending := b })

/-- What can happen while a suspend request is seen to. -/
inductive Watches : System σ → System σ → Prop
  | change {s s' : System σ} (h : Change s s') : Watches s s'
  | watching {s s' : System σ} (h : Watching s s') : Watches s s'

/-- A change that neither runs nor suspends a thread and that concerns no step. -/
inductive Idle : System σ → System σ → Prop
  | exchange {s : System σ} {session : σ} (h : Exchange s.session session) :
    Idle s { s with session }
  | fire {s : System σ} {source : Element} {a : Announcement} (h : (a.event source).detail.isStep = false) :
    Idle s (s.fire source a)
  | refresh {s : System σ} {t : ThreadRef} {remote : List RemoteFrame} {session : σ}
    (hs : (s.thread t).isSuspended)
    (h : Session.frames (s.thread t).id s.session = .ok remote session) :
    Idle s ({ s with session }.updateFrames t remote)
  | preserve (s : System σ) (t : ThreadRef) : Idle s (s.preserveFrames t)
  | pop (s : System σ) (t : ThreadRef) (frame : FrameId) : Idle s (s.popFrames t frame)
  | groupName (s : System σ) (t : ThreadRef) (name : Option String) :
    Idle s (s.mapThread t fun th => { th with groupName := some name })

/-- A step starts in a suspended thread. -/
inductive StepStart : System σ → System σ → Prop
  | enter {s : System σ} {t : ThreadRef} {stepping : Stepping} {wanted : StepRequest} {session : σ}
    (alive : s.targetAlive) (hs : (s.thread t).isSuspended) (hn : (s.thread t).stepping = none)
    (hf : (s.thread t).frames ≠ []) (hw : wanted.thread = (s.thread t).id)
    (h : Session.createStepRequest wanted s.session = .ok stepping.request session) :
    StepStart s ((s.enterStep t stepping session).fire (s.element t) (.resume stepping.kind.detail))

/-- The pending step of a thread is over. -/
inductive StepFinish (t : ThreadRef) : System σ → System σ → Prop
  | finish {s : System σ} {stepping : Stepping} (hp : (s.thread t).stepping = some stepping) :
    StepFinish t s (stepEnd t (some stepping.request) s).2
  /-- The machine refuses the request with which the step was to go on. -/
  | giveUp {s : System σ} {stepping : Stepping} {wanted : StepRequest} {e : SessionError} {session : σ}
    (hp : (s.thread t).stepping = some stepping)
    (h : Session.createStepRequest wanted (s.leaveRequest t stepping.request).session =
      .error e session) :
    StepFinish t s (stepEnd t none { s.leaveRequest t stepping.request with session }).2

/-- What can happen while an event set is handled. -/
inductive Landing : System σ → System σ → Prop
  | change {s s' : System σ} (h : Change s s') : Landing s s'
  | finish {s s' : System σ} (t : ThreadRef) (h : StepFinish t s s') : Landing s s'

/-- Anything that can happen. -/
inductive StepChange : System σ → System σ → Prop
  | landing {s s' : System σ} (h : Landing s s') : StepChange s s'
  | start {s s' : System σ} (h : StepStart s s') : StepChange s s'
  | evaluating {s s' : System σ} (h : Evaluating s s') : StepChange s s'
  | watching {s s' : System σ} (h : Watching s s') : StepChange s s'

/-- A sequence of changes that leave running, suspension and steps alone. -/
abbrev IdlePath : System σ → System σ → Prop := Relation.ReflTransGen Idle

/-- A sequence of changes without the start and the end of a step, and beside all evaluations and suspend requests. -/
abbrev Path : System σ → System σ → Prop := Relation.ReflTransGen Change

/-- A sequence of changes while an evaluation is seen to. -/
abbrev EvaluationPath : System σ → System σ → Prop := Relation.ReflTransGen Evaluates

/-- A sequence of changes while a suspend request is seen to. -/
abbrev WatchPath : System σ → System σ → Prop := Relation.ReflTransGen Watches

/-- A sequence of changes without the start of a step. -/
abbrev LandingPath : System σ → System σ → Prop := Relation.ReflTransGen Landing

/-- A sequence of changes. -/
abbrev StepPath : System σ → System σ → Prop := Relation.ReflTransGen StepChange

theorem Path.single {s s' : System σ} (h : Change s s') : Path s s' := Relation.ReflTransGen.single h

theorem Path.aside {s s' : System σ} (h : s'.core = s.core) (clock : s'.clock = s.clock) : Path s s' :=
  Path.single (.aside h clock)

theorem WatchPath.aside {s s' : System σ} (h : s'.core = s.core) : WatchPath s s' := .single (.watching (.aside h))

theorem Idle.change {s s' : System σ} (h : Idle s s') : Change s s' := by
  cases h with
  | exchange h => exact .exchange h
  | fire h => exact .fire fun _ => h
  | refresh hs h => exact .refresh hs h
  | preserve t => exact .preserve s t
  | pop t frame => exact .pop s t frame
  | groupName t name => exact .groupName s t name

/-- What an idle change cannot touch in a thread. -/
def Thread.stance (th : Thread) : Thread :=
  { th with frames := [], refresh := true, groupName := none }

omit [Session σ] in
theorem stance_updateFrames (s : System σ) (t u : ThreadRef) (remote : List RemoteFrame) :
    ((s.updateFrames t remote).thread u).stance = (s.thread u).stance := by
  rcases s.threads_updateFrames t remote with h | ⟨hs, h⟩
  · rw [System.thread_congr h]
  · rw [System.thread_congr h]
    exact System.mapThread_keeps (g := Thread.stance) (fun _ => by rfl) s t u

theorem Idle.stance {s s' : System σ} (h : Idle s s') (u : ThreadRef) :
    (s'.thread u).stance = (s.thread u).stance := by
  cases h with
  | exchange => rfl
  | fire => rfl
  | refresh => exact stance_updateFrames _ _ _ _
  | preserve t => exact System.mapThread_keeps (g := Thread.stance) (fun _ => by rfl) s t u
  | pop t => exact System.mapThread_keeps (g := Thread.stance) (fun _ => by rfl) s t u
  | groupName t name => exact System.mapThread_keeps (g := Thread.stance) (fun _ => by rfl) s t u

/-- An idle change touches the machine, the bus and the threads' frames. -/
theorem Idle.rest {s s' : System σ} (h : Idle s s') (m : σ) :
    { s' with session := m, bus := default, threads := #[], frames := #[] } =
      { s with session := m, bus := default, threads := #[], frames := #[] } := by
  cases h with
  | @refresh t remote session =>
    exact congrArg (fun s => { s with session := m, bus := default })
      (System.updateFrames_rest { s with session } t remote)
  | _ => rfl

theorem IdlePath.stance {s s' : System σ} (h : IdlePath s s') (u : ThreadRef) :
    (s'.thread u).stance = (s.thread u).stance := by
  induction h with
  | refl => rfl
  | tail _ hc ih => exact (hc.stance u).trans ih

theorem IdlePath.id {s s' : System σ} (h : IdlePath s s') (u : ThreadRef) :
    (s'.thread u).id = (s.thread u).id := (congrArg Thread.id (h.stance u) :)

theorem IdlePath.rest {s s' : System σ} (h : IdlePath s s') (m : σ) :
    { s' with session := m, bus := default, threads := #[], frames := #[] } =
      { s with session := m, bus := default, threads := #[], frames := #[] } := by
  induction h with
  | refl => rfl
  | tail _ hc ih => exact (hc.rest m).trans ih

theorem IdlePath.path {s s' : System σ} (h : IdlePath s s') : Path s s' := by
  induction h with
  | refl => exact .refl
  | tail _ hc ih => exact ih.tail hc.change

theorem Path.landingPath {s s' : System σ} (h : Path s s') : LandingPath s s' := by
  induction h with
  | refl => exact .refl
  | tail _ hc ih => exact ih.tail (.change hc)

theorem LandingPath.stepPath {s s' : System σ} (h : LandingPath s s') : StepPath s s' := by
  induction h with
  | refl => exact .refl
  | tail _ hc ih => exact ih.tail (.landing hc)

theorem Path.stepPath {s s' : System σ} (h : Path s s') : StepPath s s' := h.landingPath.stepPath

theorem Path.evaluationPath {s s' : System σ} (h : Path s s') : EvaluationPath s s' :=
  Relation.ReflTransGen.mono (fun _ _ => .change) _ _ h

theorem EvaluationPath.stepPath {s s' : System σ} (h : EvaluationPath s s') : StepPath s s' := by
  induction h with
  | refl => exact .refl
  | tail _ hc ih =>
    cases hc with
    | change hc => exact ih.tail (.landing (.change hc))
    | evaluating hc => exact ih.tail (.evaluating hc)

theorem Path.watchPath {s s' : System σ} (h : Path s s') : WatchPath s s' :=
  Relation.ReflTransGen.mono (fun _ _ => .change) _ _ h

theorem WatchPath.stepPath {s s' : System σ} (h : WatchPath s s') : StepPath s s' := by
  induction h with
  | refl => exact .refl
  | tail _ hc ih =>
    cases hc with
    | change hc => exact ih.tail (.landing (.change hc))
    | watching hc => exact ih.tail (.watching hc)

/-! ## Suspend requests and evaluations are left alone -/

private theorem errands_delete (s : System σ) (request : RequestId) :
    (deleteStepRequest request s).2.errands = s.errands := by
  rw [deleteStepRequest_state]
  rfl

theorem Change.errands {s s' : System σ} (h : Change s s') : s'.errands = s.errands := by
  cases h with
  | aside h clock => exact Prod.ext (congrArg Core.evaluations h) clock
  | @refresh t remote m _ _ =>
    exact (congrArg System.errands (System.updateFrames_rest { s with session := m } t remote) :)
  | bury t => exact (congrArg System.errands (System.bury_rest s t) :)
  | stopAt t b all =>
    cases all with
    | true => exact (congrArg System.errands (System.suspendListed_rest (s.arrive t b)) :)
    | false => rfl
  | @beginInvocation t =>
    exact (congrArg System.errands (System.liftTimeout_rest
      ((s.mapThread t fun th => { th with invoking := true }).startRunning t) s.session) :)
  | @endInvocation n task =>
    exact (congrArg System.errands (System.restoreTimeout_rest
      ((s.stopRunning task.thread).mapThread task.thread fun th => { th with invoking := false })
      s.session) :)
  | uninstall b =>
    exact (congrArg System.errands (System.leaveBreakpoints_rest
      { s with installed := s.installed.erase (s.breakpoint b).request } b s.registry) :)
  | died id => exact (congrArg System.errands (System.threadDied_rest s id) :)
  | disconnect => exact (congrArg System.errands (System.disconnect_rest s) :)
  | release =>
    unfold System.release
    dsimp only
    split <;> rfl
  | renewStep => exact errands_delete s _
  | abort t => exact (congrArg System.errands (abortStep_rest t s s.session) :)
  | _ => rfl

theorem Change.evaluations {s s' : System σ} (h : Change s s') : s'.evaluations = s.evaluations :=
  congrArg Prod.fst h.errands

theorem Path.errands {s s' : System σ} (h : Path s s') : s'.errands = s.errands := by
  induction h with
  | refl => rfl
  | tail _ hc ih => exact hc.errands.trans ih

theorem Path.evaluations {s s' : System σ} (h : Path s s') : s'.evaluations = s.evaluations :=
  congrArg Prod.fst h.errands

/-- Evaluations may come, and none of those there are is announced otherwise. -/
theorem Evaluates.evaluationDetails {s s' : System σ} (h : Evaluates s s') :
    s.evaluationDetails <+: s'.evaluationDetails := by
  cases h with
  | change h =>
    have same : s'.evaluationDetails = s.evaluationDetails := by
      rw [System.evaluationDetails, h.evaluations, System.evaluationDetails]
    exact same ▸ List.prefix_refl _
  | evaluating h =>
    cases h with
    | tasks h => exact h
    | mark => exact List.prefix_refl _

theorem EvaluationPath.evaluationDetails {s s' : System σ} (h : EvaluationPath s s') :
    s.evaluationDetails <+: s'.evaluationDetails := by
  induction h with
  | refl => exact List.prefix_refl _
  | tail _ hc ih => exact ih.trans hc.evaluationDetails

theorem EvaluationPath.plainEvaluations {s s' : System σ} (h : EvaluationPath s s') (hp : s'.PlainEvaluations) :
    s.PlainEvaluations :=
  fun d hm => hp d (h.evaluationDetails.subset hm)

theorem WatchPath.evaluations {s s' : System σ} (h : WatchPath s s') : s'.evaluations = s.evaluations := by
  induction h with
  | refl => rfl
  | tail _ hc ih =>
    cases hc with
    | change hc => exact hc.evaluations.trans ih
    | watching hc =>
      cases hc with
      | aside h => exact (congrArg Core.evaluations h :).trans ih
      | suspending => exact ih

theorem WatchPath.plainEvaluations {s s' : System σ} (h : WatchPath s s') (hp : s'.PlainEvaluations) :
    s.PlainEvaluations := by
  rw [System.PlainEvaluations, System.evaluationDetails, h.evaluations] at hp
  exact hp

theorem Path.plainEvaluations {s s' : System σ} (h : Path s s') (hp : s'.PlainEvaluations) :
    s.PlainEvaluations := h.evaluationPath.plainEvaluations hp

end Debugger

import Debugger.Thread.Resume

/-! # Stepping a thread

A step is pending while the thread holds a `Stepping`, whose request the machine holds too and whose
owner the target knows.  The three are set and cleared together: `startStep` sets them, `stepEnd` and
`abortStep` clear them, and `landStep` replaces the request when a step goes on.
-/

namespace Debugger

/-- What becomes of a thread that an event left suspended in the machine. -/
inductive Disposition where
  | resume
  | staySuspended
  deriving DecidableEq, Repr, Inhabited

variable {σ : Type} [Session σ]

/-- Forgets a step request; that the machine fails to do so is no concern. -/
def deleteStepRequest (request : RequestId) : Debug σ Unit := do
  modify fun s => if s.targetAlive then { s with stepOwners := s.stepOwners.erase request } else s
  let _ ← ask (Session.deleteEventRequest .step request)

/-- The step of a thread is over: the thread is suspended, and this is announced at the next flush.
`request` is the step's request as far as the machine holds one. -/
def stepEnd (t : ThreadRef) (request : Option RequestId) : Debug σ Unit := do
  modify fun s => (s.stopRunning t).mapThread t (·.setStepping none)
  if let some request := request then deleteStepRequest request
  modify fun s => s.queue (s.element t) (.suspend .stepEnd)

/-- Cancels the pending step, if any, without a word. -/
def abortStep (t : ThreadRef) : Debug σ Unit := do
  if let some stepping := ((← get).thread t).stepping then
    modify (·.mapThread t (·.setStepping none))
    deleteStepRequest stepping.request

/-- Lets a stepping thread run, out of its top frame if `forced` is given. -/
def letRun (id : ThreadId) (forced : Bool) : Call σ Unit := do
  if forced then Session.forceReturn id
  Session.resumeThread id

/-- Lets a stepping thread run; when the machine refuses, the step is over. -/
def runStep (t : ThreadRef) (forced : Bool) : Client σ Unit := do
  let th := (← get).thread t
  match ← ask (letRun th.id forced) with
  | .ok () => return
  | .error e =>
    act (stepEnd t (th.stepping.map (·.request)))
    modify (·.flush)
    throw (.session (if forced then "popping stack frame" else "stepping") e)

/-- Starts a step in a thread that can step. -/
def startStep (t : ThreadRef) (kind : StepKind) (filters : StepFilters) (requested : Bool) :
    Client σ Unit := do
  needTarget
  let frames ← stackFrames t
  let s ← get
  let id := (s.thread t).id
  match frames.head?.bind s.frames.remote with
  | none => return
  | some top =>
    let origin : StepOrigin := ⟨kind.depth, top.location, frames.length⟩
    let wanted := Stepping.nextRequest kind origin filters requested id
    let request ← askFor "creating step request" (Session.createStepRequest wanted)
    let stepping : Stepping := ⟨kind, origin, request, filters, requested⟩
    modify fun s => (s.mapThread t (·.setStepping (some stepping))).startRunning t
    modify fun s => { s with stepOwners := s.stepOwners.put request id }
    modify fun s => s.fire (s.element t) (.resume kind.detail)
    runStep t kind.forcesReturn

/-- Steps with a given snapshot of the filters.  Nothing happens in a thread that cannot step. -/
def step (t : ThreadRef) (kind : StepKind) (filters : StepFilters) : Client σ Unit := do
  if ← act (canStep t) then startStep t kind filters false

/-- Steps with the target's filters. -/
def stepWithTargetFilters (t : ThreadRef) (kind : StepKind) : Client σ Unit := do
  needTarget
  step t kind (← get).filters

def stepInto (t : ThreadRef) : Client σ Unit := stepWithTargetFilters t .into

def stepOver (t : ThreadRef) : Client σ Unit := stepWithTargetFilters t .over

def stepReturn (t : ThreadRef) : Client σ Unit := stepWithTargetFilters t .return

/-- Steps into with filtering on for this one step; without patterns there is nothing to do. -/
def stepWithFilters (t : ThreadRef) : Client σ Unit := do
  needTarget
  let filters := (← get).filters
  if filters.hasPatterns then
    if ← act (canStep t) then startStep t .into filters true

/-- The stack of a thread and the place of a frame in it. -/
def locate (t : ThreadRef) (frame : FrameRef) : Client σ (List FrameRef × Nat) := do
  let frames ← stackFrames t
  match frames.idxOf? frame with
  | some index => return (frames, index)
  | none => throw .foreignFrame

/-- Steps out until the frame is on top. -/
def stepToFrame (t : ThreadRef) (frame : FrameRef) : Client σ Unit := do
  needTarget
  let filters := (← get).filters
  if ← act (canStep t) then
    let (frames, index) ← locate t frame
    startStep t (.toFrame (frames.length - index)) filters false

/-- Pops the frame and what is above it, again and again while the stack is deeper than `desired` and
shrinks; `last` is its depth before the previous pop. -/
def popLoop (t : ThreadRef) (frame : FrameRef) (desired : Nat) (last size : Nat) :
    Client σ Unit := do
  if _within : size < last ∧ size > desired then
    match ((← get).frames.remote frame).map (·.id) with
    | none => return
    | some remote =>
      modify (·.preserveFrames t)
      match ← ask (Session.popFrames ((← get).thread t).id remote) with
      | .ok () =>
        let frames ← stackFrames t
        popLoop t frame desired size frames.length
      | .error e =>
        if e = .invalidStackFrame then
          modify fun s => s.fire (s.element t) (.change .content)
        throw (.session "popping stack frames" e)
termination_by last
decreasing_by omega

/-- Runs the frame again from its start, without the frames above it: the machine pops the frames, or
the thread is made to return from them one by one. -/
def dropToFrame (t : ThreadRef) (frame : FrameRef) : Client σ Unit := do
  needTarget
  let filters := (← get).filters
  if ← act (canStep t) then
    let (frames, index) ← locate t frame
    if Session.canPopFrames (← get).session then
      popLoop t frame (frames.length - index - 1) (frames.length + 1) frames.length
      startStep t .into filters false
    else
      startStep t (.dropToFrame index) filters false

/-- The step goes on with another request after a landing. -/
def continueStep (t : ThreadRef) (stepping : Stepping) : Debug σ Disposition := do
  let id := ((← get).thread t).id
  deleteStepRequest stepping.request
  modify fun s => s.mapThread t (·.setRunning true)
  let wanted :=
    Stepping.nextRequest stepping.kind stepping.origin stepping.filters stepping.requested id
  match ← ask (Session.createStepRequest wanted) with
  | .error _ =>
    stepEnd t none
    return .staySuspended
  | .ok request =>
    modify (·.mapThread t (·.setStepping (some { stepping with request })))
    modify fun s =>
      if s.targetAlive then { s with stepOwners := s.stepOwners.put request id } else s
    match stepping.kind with
    | .dropToFrame _ =>
      let _ ← attempt (runStep t stepping.kind.forcesReturn)
      return .staySuspended
    | _ => return .resume

/-- A step request of the thread completed.  A request that is not the pending one is stale. -/
def landStep (t : ThreadRef) (request : RequestId) (landing : Location) : Debug σ Disposition := do
  let th := (← get).thread t
  match th.stepping with
  | none => return .resume
  | some stepping =>
    if stepping.request ≠ request then return .resume
    let count ← if stepping.needsFrameCount
      then (do return (← ask (Session.frameCount th.id)).map some)
      else pure (.ok none)
    match count with
    | .error _ =>
      stepEnd t (some request)
      return .staySuspended
    | .ok frames =>
      match stepping.land landing frames with
      | (_, .finish) =>
        stepEnd t (some request)
        return .staySuspended
      | (kind, .continue) => continueStep t { stepping with kind }

end Debugger

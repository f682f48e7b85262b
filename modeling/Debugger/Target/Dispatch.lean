import Debugger.Target.Control

/-! # Event dispatch

Every event of a set is handled, and only then what the machine suspended for the set is resumed, unless
an event left its thread suspended.  What was queued on the way is published last.
-/

namespace Debugger

variable {σ : Type} [Session σ]

/-- A step request completed: its landing is judged by the thread whose step it belongs to. -/
def handleStep (request : RequestId) (landing : Location) : Debug σ Disposition := do
  let s ← get
  match (s.stepOwners.find? request).bind s.find? with
  | some t => landStep t request landing
  | none => return .resume

/-- A breakpoint was hit.  A hit in an evaluation that ignores breakpoints is only counted. -/
def handleBreakpoint (request : RequestId) (thread : ThreadId) : Debug σ Disposition := do
  match (← get).installed.find? request with
  | none => return .resume
  | some b =>
    modify fun s =>
      { s with breakpoints := s.breakpoints.modify b fun bp => { bp with hits := bp.hits + 1 } }
    let t ← addThread thread
    unless ((← get).thread t).honorsBreakpoints do return .resume
    if ← suspendAtBreakpoint t b true then return .staySuspended else return .resume

def handleEvent : VmEvent → Debug σ Disposition
  | .step request _ landing => handleStep request landing
  | .breakpoint request thread _ => handleBreakpoint request thread
  | .threadStart thread => do
    let _ ← addThread thread
    return .resume
  | .threadDeath thread => do
    modify (·.threadDied thread)
    return .resume
  | .vmDeath | .disconnected => do
    modify (·.disconnect)
    return .resume

/-- Handles events in order; tells whether one of them left its thread suspended. -/
def handleEvents : List VmEvent → Debug σ Bool
  | [] => return false
  | e :: es => do
    let here ← handleEvent e
    let later ← handleEvents es
    return here = .staySuspended || later

/-- Resumes what the machine suspended for a set. -/
def resumeSet (set : EventSet) : Debug σ Unit := do
  let result ← match set.policy, set.thread? with
    | some .vm, _ => ask Session.resumeVm
    | some .thread, some thread => ask (Session.resumeThread thread)
    | _, _ => pure (.ok ())
  match result with
  | .error .disconnected => modify (·.disconnect)
  | _ => return

/-- Handles an event set. -/
def handleEventSet (set : EventSet) : Debug σ Unit := do
  let stay ← handleEvents set.events
  unless stay || (← get).disconnected do resumeSet set
  modify (·.flush)

/-- Takes the next message off the machine's channel and handles it; tells whether there may be more.
Sets that were missed are passed over, and the end of the channel means that the machine is gone. -/
def dispatchOne : Debug σ Bool := do
  let s ← get
  if s.shutdown || !s.dispatching || !s.targetAlive then
    set { s with dispatching := false }
    return false
  match (Session.events s.session).receive? s.reader with
  | some (.lagged _, reader) =>
    set { s with reader }
    return true
  | some (.message m, reader) =>
    set { s with reader }
    handleEventSet m
    if m.isFinal then modify fun s => { s with dispatching := false }
    return !m.isFinal
  | none =>
    if Session.eventsClosed s.session then
      handleEventSet (.single .disconnected)
      modify fun s => { s with dispatching := false }
    return false

/-- Whether the dispatcher can go on. -/
def System.dispatchable (s : System σ) : Bool :=
  s.dispatching && (s.shutdown || Session.eventsClosed s.session ||
    ((Session.events s.session).receive? s.reader).isSome)

end Debugger

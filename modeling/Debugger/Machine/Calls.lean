import Debugger.Machine.State

/-! # The machine as a session

How the machine answers the calls of its debugger.  No call takes time, except that invocations wait
at the gate if there is one.
-/

namespace Debugger.Machine

/-- The thread of that id. -/
def find (thread : ThreadId) : Call Machine Task := do
  match (← get).task? thread with
  | some t => return t
  | none => throw (unknownThread thread)

/-- The thread of that id, which must be suspended. -/
def findSuspended (thread : ThreadId) : Call Machine Task := do
  let t ← find thread
  if t.suspended then return t else throw .incompatibleThreadState

def findGroup (group : GroupId) : Call Machine Group := do
  match (← get).groups.find? group with
  | some g => return g
  | none => throw .objectCollected

def suspendThread (thread : ThreadId) : Call Machine Unit := do
  unless (← get).ignoresSuspend.contains thread do
    let _ ← find thread
    modify (·.mapTask thread (·.setSuspended true))

/-- Lets the thread run; an armed step that is not deferred is completed at once. -/
def resumeThread (thread : ThreadId) : Call Machine Unit := do
  modify fun m => { m with resumes := m.resumes ++ [thread] }
  match (← get).resumeFailures with
  | e :: es =>
    modify fun m => { m with resumeFailures := es }
    throw e
  | [] =>
    let _ ← find thread
    modify (·.mapTask thread (·.setSuspended false))
    unless (← get).deferred.contains thread do
      modify fun m => match m.completeStep thread with
        | (m, some e) => m.emit (.single e)
        | (m, none) => m

def newRequest : Call Machine RequestId :=
  modifyGet fun m => (m.nextRequest, { m with nextRequest := m.nextRequest + 1 })

def createStepRequest (r : StepRequest) : Call Machine RequestId := do
  let id ← newRequest
  modify fun m => { m with steps := m.steps ++ [⟨id, r, false, false⟩] }
  return id

def createBreakpointRequest (r : BreakpointRequest) : Call Machine RequestId := do
  let id ← newRequest
  modify fun m => { m with breakpoints := m.breakpoints ++ [(id, r)] }
  return id

/-- Marks the first step request of that number. -/
def markDeleted (request : RequestId) : List StepEntry → List StepEntry
  | [] => []
  | e :: es => if e.id = request then { e with deleted := true } :: es else e :: markDeleted request es

def deleteEventRequest (kind : RequestKind) (request : RequestId) : Call Machine Unit :=
  modify fun m => { m with
    steps := if kind = .step then markDeleted request m.steps else m.steps
    deleted := m.deleted ++ [(kind, request)] }

/-- An invocation uses up a permit, or is held back if the gate has none. -/
def accept : Call Machine Bool := do
  let m ← get
  if !m.gated then return true
  else if m.permit then
    set { m with permit := false }
    return true
  else return false

/-- What an invocation gives that has no scripted result. -/
def defaultResult : InvokeTarget → Value
  | .on _ => .int 0
  | .new _ => .object Value.objectTag 9000

def invoke (call : Invocation) : Call Machine Value := do
  let _ ← findSuspended call.thread
  modify fun m => { m with invocations := m.invocations ++ [⟨call, m.timeout⟩] }
  match (← get).invokeResults with
  | [] => return defaultResult call.target
  | r :: rs =>
    modify fun m => { m with invokeResults := rs }
    match r with
    | .ok v => return v
    | .error e => throw e

/-- The bottom frame of a thread cannot be popped. -/
def popFrames (thread : ThreadId) (frame : FrameId) : Call Machine Unit := do
  if !(← get).popsFrames then throw .unsupported
  modify fun m => { m with popped := m.popped ++ [(thread, frame)] }
  let t ← findSuspended thread
  match t.frames.dropWhile (·.id ≠ frame) with
  | deepest :: below@(_ :: _) =>
    modify fun m => { m.mapTask thread fun t => { t with frames := below } with
      reentry := m.reentry.put thread deepest }
  | _ => throw .invalidStackFrame

def forceReturn (thread : ThreadId) : Call Machine Unit := do
  let _ ← findSuspended thread
  modify fun m => { m with forcedReturns := thread :: m.forcedReturns }

instance : Session Machine where
  allThreads := do return (← get).tasks.map (·.id)
  threadName thread := do return (← find thread).name
  suspendThread := suspendThread
  resumeThread := resumeThread
  threadIsSuspended thread := do return (← find thread).suspended
  frames thread := do return (← findSuspended thread).frames
  frameCount thread := do return (← findSuspended thread).frames.length
  threadGroup thread := do
    if (← get).hidesGroups then throw .unsupported
    return (← find thread).group
  groupName group := do return (← findGroup group).name
  groupParent group := do return (← findGroup group).parent
  threadPriority thread := do return (← find thread).priority
  ownedMonitors thread := do
    let _ ← findSuspended thread
    return ((← get).monitors.find? thread).getD []
  contendedMonitor thread := do
    let _ ← findSuspended thread
    return none
  createStepRequest := createStepRequest
  createBreakpointRequest := createBreakpointRequest
  deleteEventRequest := deleteEventRequest
  accept _ := accept
  invoke := invoke
  canPopFrames m := m.popsFrames
  popFrames := popFrames
  forceReturn := forceReturn
  frameVariable thread frame name := do
    let _ ← findSuspended thread
    return (← get).locals.find? (frame.id, name)
  requestTimeout m := m.timeout
  setRequestTimeout t m := { m with timeout := t, timeouts := m.timeouts ++ [t] }
  suspendVm := modify fun m =>
    { m.mapTasks (·.setSuspended true) with vmSuspends := m.vmSuspends + 1 }
  resumeVm := modify fun m =>
    { m.mapTasks (·.setSuspended false) with vmResumes := m.vmResumes + 1 }
  exitVm code := modify fun m => { m with exitCode := some code }.emit (.single .vmDeath)
  events m := m.events
  eventsClosed _ := false

end Debugger.Machine

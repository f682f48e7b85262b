import Debugger.Thread.Stack

/-! # Questions about a thread -/

namespace Debugger

variable {σ : Type} [Session σ]

def threadName (t : ThreadRef) : Client σ String := do
  askFor "retrieving thread name" (Session.threadName ((← get).thread t).id)

def threadPriority (t : ThreadRef) : Client σ Int32 := do
  askFor "retrieving thread priority" (Session.threadPriority ((← get).thread t).id)

/-- The name of the thread's group, if it has one; it is asked for until an answer is known. -/
def threadGroupName (t : ThreadRef) : Client σ (Option String) := do
  let th := (← get).thread t
  match th.groupName with
  | some name => return name
  | none =>
    let name ← askFor "retrieving thread group name" do
      match ← Session.threadGroup th.id with
      | some group => return some (← Session.groupName group)
      | none => return none
    modify (·.mapThread t fun th => { th with groupName := some name })
    return name

def ownedMonitors (t : ThreadRef) : Client σ (List ObjectId) := do
  match ← ask (Session.ownedMonitors ((← get).thread t).id) with
  | .ok objects => return objects
  | .error .incompatibleThreadState => return []
  | .error e => throw (.session "retrieving owned monitors" e)

def hasOwnedMonitors (t : ThreadRef) : Client σ Bool := do
  unless ((← get).thread t).isSuspended do return false
  return !(← ownedMonitors t).isEmpty

def contendedMonitor (t : ThreadRef) : Client σ (Option ObjectId) := do
  match ← ask (Session.contendedMonitor ((← get).thread t).id) with
  | .ok object => return object
  | .error .incompatibleThreadState => return none
  | .error e => throw (.session "retrieving contended monitor" e)

/-- Whether the frame runs a type whose code could not be replaced. -/
def System.frameOutOfSync (s : System σ) (h : FrameRef) : Bool :=
  (s.frames[h]?.getD default).runsOneOf s.obsoleteTypes

/-- Whether some frame of the suspended thread runs obsolete code. -/
def isOutOfSync (t : ThreadRef) : Client σ Bool := do
  needTarget
  let s ← get
  unless (s.thread t).isSuspended && s.replaceFailed do return false
  let frames ← stackFrames t
  return frames.any ((← get).frameOutOfSync ·)

/-- A running thread may execute obsolete code once a replacement has failed. -/
def System.mayBeOutOfSync (s : System σ) (t : ThreadRef) : Bool :=
  !(s.thread t).isSuspended && s.targetAlive && s.replaceFailed

/-- A thread cannot be resumed by itself while the whole machine is suspended. -/
def System.canResume (s : System σ) (t : ThreadRef) : Bool :=
  (s.thread t).isSuspended && !(s.targetAlive && s.suspended)

def System.targetCanTerminate (s : System σ) : Bool :=
  s.settings.allowTerminate && !s.disconnected

def System.canTerminate (s : System σ) (_t : ThreadRef) : Bool :=
  s.targetAlive && s.targetCanTerminate

def System.canTerminateEvaluation (s : System σ) (t : ThreadRef) : Bool :=
  (s.thread t).evaluation.isSome

/-- A thread can step when it is suspended with a stack and does not step already, and no code is being
replaced. -/
def canStep (t : ThreadRef) : Debug σ Bool := do
  let s ← get
  let th := s.thread t
  if !th.isSuspended || th.stepping.isSome then return false
  if s.targetAlive && s.replacingCode then return false
  match ← attempt (stackFrames t) with
  | .ok frames => return !frames.isEmpty
  | .error _ => return false

def canStepWithFilters (t : ThreadRef) : Debug σ Bool := do
  let s ← get
  if s.targetAlive && s.filters.hasPatterns then canStep t else return false

/-- A thread can drop to a frame of its stack; the machine does not pop the bottom frame. -/
def canDropToFrame (t : ThreadRef) (frame : FrameRef) : Debug σ Bool := do
  unless ← canStep t do return false
  match ← attempt (stackFrames t) with
  | .error _ => return false
  | .ok frames =>
    match frames.idxOf? frame with
    | none => return false
    | some index =>
      return !Session.canPopFrames (← get).session || index + 1 < frames.length

end Debugger

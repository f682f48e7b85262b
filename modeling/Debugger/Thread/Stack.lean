import Debugger.System

/-! # Looking at a thread's stack

The frames of a suspended thread are looked up once and then kept until the thread runs again.
-/

namespace Debugger

variable {σ : Type} [Session σ]

/-- The remote stack of a thread, for the client. -/
def remoteFrames (t : ThreadRef) : Client σ (List RemoteFrame) := do
  match ← ask (Session.frames ((← get).thread t).id) with
  | .ok frames => return frames
  | .error .incompatibleThreadState => throw .notSuspended
  | .error e => throw (.session "retrieving stack frames" e)

/-- The known frames brought in line with a remote stack.  Frames can be missing right after a suspend;
then nothing is known yet and the next look asks again. -/
def System.updateFrames (s : System σ) (t : ThreadRef) (remote : List RemoteFrame) : System σ :=
  let th := s.thread t
  match th.frames, remote with
  | [], [] => s
  | [], _ =>
    let (hs, frames) := s.frames.bindFresh th.id remote
    { s with frames }.mapThread t fun th => { th with frames := hs, refresh := false }
  | cached, _ =>
    let (hs, frames) := s.frames.merge th.id cached remote
    { s with frames }.mapThread t fun th => { th with frames := hs, refresh := false }

/-- The frames of the thread, top first, and none while it runs.  The stack is read if the known frames
are stale, or in any case if `force` is given. -/
def computeFrames (t : ThreadRef) (force : Bool) : Client σ (List FrameRef) := do
  let th := (← get).thread t
  unless th.isSuspended do return []
  if force || th.refresh then
    let remote ← remoteFrames t
    modify (·.updateFrames t remote)
  return ((← get).thread t).frames

def stackFrames (t : ThreadRef) : Client σ (List FrameRef) := computeFrames t false

/-- The same after reading the stack again. -/
def newStackFrames (t : ThreadRef) : Client σ (List FrameRef) := computeFrames t true

def topFrame (t : ThreadRef) : Client σ (Option FrameRef) := return (← stackFrames t).head?

def hasStackFrames (t : ThreadRef) : Client σ Bool := do
  match ← attempt (stackFrames t) with
  | .ok frames => return !frames.isEmpty
  | .error e => if e.code = .threadNotSuspended then return false else throw e

/-- The number of frames, asked of the machine. -/
def frameCount (t : ThreadRef) : Client σ Nat := do
  match ← ask (Session.frameCount ((← get).thread t).id) with
  | .ok n => return n
  | .error .incompatibleThreadState => throw .notSuspended
  | .error e => throw (.session "retrieving frame count" e)

/-- Looks a variable up in frames, in order; unbound frames are passed over. -/
def findIn (id : ThreadId) (name : String) : List FrameRef → Client σ (Option Variable)
  | [] => return none
  | h :: hs => do
    match (← get).frames.remote h with
    | none => findIn id name hs
    | some remote =>
      match ← ask (Session.frameVariable id remote name) with
      | .ok (some v) => return some v
      | .ok none => findIn id name hs
      | .error .incompatibleThreadState => return none
      | .error e => throw (.session "looking up variable" e)

/-- The variable of that name in the innermost frame that shows one. -/
def findVariable (t : ThreadRef) (name : String) : Client σ (Option Variable) := do
  let th := (← get).thread t
  unless th.isSuspended do return none
  match ← attempt (stackFrames t) with
  | .ok frames => findIn th.id name frames
  | .error e => if e.code = .threadNotSuspended then return none else throw e

end Debugger

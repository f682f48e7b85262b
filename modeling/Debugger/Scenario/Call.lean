import Debugger.Report.Things
import Debugger.Session

/-! # Session calls as data -/

namespace Debugger

/-- A call to a machine. -/
inductive SessionCall where
  | allThreads
  | threadName (t : ThreadId)
  | suspendThread (t : ThreadId)
  | resumeThread (t : ThreadId)
  | threadIsSuspended (t : ThreadId)
  | frames (t : ThreadId)
  | frameCount (t : ThreadId)
  | threadGroup (t : ThreadId)
  | groupName (g : GroupId)
  | groupParent (g : GroupId)
  | threadPriority (t : ThreadId)
  | ownedMonitors (t : ThreadId)
  | contendedMonitor (t : ThreadId)
  | createStepRequest (r : StepRequest)
  | createBreakpointRequest (r : BreakpointRequest)
  | deleteEventRequest (k : RequestKind) (r : RequestId)
  | invoke (i : Invocation)
  | canPopFrames
  | popFrames (t : ThreadId) (f : FrameId)
  | forceReturn (t : ThreadId)
  | frameVariable (t : ThreadId) (f : RemoteFrame) (name : String)
  | requestTimeout
  | setRequestTimeout (ms : Option Nat)
  | suspendVm
  | resumeVm
  | exitVm (code : Int32)
  deriving Repr, Inhabited

/-- Makes the call, and reports what it gives. -/
def SessionCall.make {σ : Type} [Session σ] : SessionCall → Call σ Doc
  | allThreads => doc <$> Session.allThreads
  | threadName t => doc <$> Session.threadName t
  | suspendThread t => doc <$> Session.suspendThread t
  | resumeThread t => doc <$> Session.resumeThread t
  | threadIsSuspended t => doc <$> Session.threadIsSuspended t
  | frames t => doc <$> Session.frames t
  | frameCount t => doc <$> Session.frameCount t
  | threadGroup t => doc <$> Session.threadGroup t
  | groupName g => doc <$> Session.groupName g
  | groupParent g => doc <$> Session.groupParent g
  | threadPriority t => doc <$> Session.threadPriority t
  | ownedMonitors t => doc <$> Session.ownedMonitors t
  | contendedMonitor t => doc <$> Session.contendedMonitor t
  | createStepRequest r => doc <$> Session.createStepRequest r
  | createBreakpointRequest r => doc <$> Session.createBreakpointRequest r
  | deleteEventRequest k r => doc <$> Session.deleteEventRequest k r
  | invoke i => do
    let _ ← Session.accept i
    return doc (← Session.invoke i)
  | canPopFrames => return doc (Session.canPopFrames (← get))
  | popFrames t f => doc <$> Session.popFrames t f
  | forceReturn t => doc <$> Session.forceReturn t
  | frameVariable t f name => doc <$> Session.frameVariable t f name
  | requestTimeout => return doc (Session.requestTimeout (← get))
  | setRequestTimeout ms => do
    let previous := Session.requestTimeout (← get)
    modify (Session.setRequestTimeout ms)
    return doc previous
  | suspendVm => doc <$> Session.suspendVm
  | resumeVm => doc <$> Session.resumeVm
  | exitVm code => doc <$> Session.exitVm code

end Debugger

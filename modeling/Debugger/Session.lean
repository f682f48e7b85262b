import Debugger.Channel
import Debugger.Error
import Debugger.VmEvent

/-! # Sessions

The only way the debugger talks to the machine.  A session is a state on which calls act; a call that
fails may have changed the state all the same.  What happens in the machine comes back as event sets on
a channel; a set of policy `thread` or `vm` leaves its thread, or everything, suspended until someone
resumes it.
-/

namespace Debugger

/-- A call to the machine. -/
abbrev Call (σ α : Type) := EStateM SessionError σ α

/-- A live connection to a machine, with state `σ`. -/
class Session (σ : Type) where
  allThreads : Call σ (List ThreadId)
  threadName : ThreadId → Call σ String
  suspendThread : ThreadId → Call σ Unit
  resumeThread : ThreadId → Call σ Unit
  threadIsSuspended : ThreadId → Call σ Bool
  /-- The stack, top first; only a suspended thread has one. -/
  frames : ThreadId → Call σ (List RemoteFrame)
  frameCount : ThreadId → Call σ Nat
  threadGroup : ThreadId → Call σ (Option GroupId)
  groupName : GroupId → Call σ String
  groupParent : GroupId → Call σ (Option GroupId)
  threadPriority : ThreadId → Call σ Int32
  ownedMonitors : ThreadId → Call σ (List ObjectId)
  contendedMonitor : ThreadId → Call σ (Option ObjectId)
  createStepRequest : StepRequest → Call σ RequestId
  createBreakpointRequest : BreakpointRequest → Call σ RequestId
  deleteEventRequest : RequestKind → RequestId → Call σ Unit
  /-- An invocation reaches the machine; it is held back if the answer is `false`. -/
  accept : Invocation → Call σ Bool
  /-- Runs an invocation that was admitted. -/
  invoke : Invocation → Call σ Value
  canPopFrames : σ → Bool
  /-- Pops the frame and every frame above it. -/
  popFrames : ThreadId → FrameId → Call σ Unit
  /-- Makes the top frame return as soon as the thread is resumed. -/
  forceReturn : ThreadId → Call σ Unit
  /-- A visible local variable of a frame. -/
  frameVariable : ThreadId → RemoteFrame → String → Call σ (Option Variable)
  /-- How long a request may take, in milliseconds; `none` is forever. -/
  requestTimeout : σ → Option Nat
  setRequestTimeout : Option Nat → σ → σ
  suspendVm : Call σ Unit
  resumeVm : Call σ Unit
  exitVm : Int32 → Call σ Unit
  /-- What the machine reports. -/
  events : σ → Channel EventSet
  /-- Whether no more can come on the channel. -/
  eventsClosed : σ → Bool

end Debugger

import Debugger.Id

/-! # Errors

A failed session call is a `SessionError`; what the debugger tells its client is a `DebugError`,
which either wraps a session failure together with what was being done, or states a precondition
of its own that did not hold.
-/

namespace Debugger

/-- Why a call to the debugged machine failed. -/
inductive SessionError where
  | disconnected
  | incompatibleThreadState
  | invalidStackFrame
  | objectCollected
  | unsupported
  | timeout
  | exception (object : ObjectId)
  | vm (code : UInt16)
  | protocol (text : String)
  deriving DecidableEq, Repr, Inhabited

namespace SessionError

def message : SessionError → String
  | disconnected => "VM disconnected"
  | incompatibleThreadState => "thread is not in a compatible state"
  | invalidStackFrame => "invalid stack frame"
  | objectCollected => "object has been collected"
  | unsupported => "operation not supported by the target VM"
  | timeout => "request timed out"
  | exception object => "invocation threw exception object " ++ toString object
  | vm code => "VM error code " ++ toString code
  | protocol text => text

def isDisconnect : SessionError → Bool
  | disconnected => true
  | _ => false

end SessionError

/-- The classification that every error reported to a client carries. -/
inductive StatusCode where
  | targetRequestFailed
  | threadNotSuspended
  | nestedInvocation
  | incompatibleThreadState
  | suspendTimeout
  | invalidStackFrame
  | unsupported
  | requestFailed
  | cancelled
  deriving DecidableEq, Repr, Inhabited

namespace StatusCode

/-- Every code, in order of declaration. -/
def all : List StatusCode :=
  [targetRequestFailed, threadNotSuspended, nestedInvocation, incompatibleThreadState,
    suspendTimeout, invalidStackFrame, unsupported, requestFailed, cancelled]

def text : StatusCode → String
  | targetRequestFailed => "target request failed"
  | threadNotSuspended => "thread not suspended"
  | nestedInvocation => "nested invocation"
  | incompatibleThreadState => "incompatible thread state"
  | suspendTimeout => "suspend timeout"
  | invalidStackFrame => "invalid stack frame"
  | unsupported => "unsupported"
  | requestFailed => "request failed"
  | cancelled => "cancelled"

end StatusCode

/-- What the debugger reports to its client. -/
inductive DebugError where
  /-- The session failed while the debugger was doing `activity`. -/
  | session (activity : String) (cause : SessionError)
  /-- The debugger refused by itself. -/
  | refused (code : StatusCode) (text : String)
  deriving DecidableEq, Repr, Inhabited

namespace DebugError

/-- A session failure is classified by what the machine reported. -/
def code : DebugError → StatusCode
  | session _ .incompatibleThreadState => .incompatibleThreadState
  | session _ .invalidStackFrame => .invalidStackFrame
  | session _ .unsupported => .unsupported
  | session _ _ => .targetRequestFailed
  | refused code _ => code

def message : DebugError → String
  | session activity cause => activity ++ ": " ++ cause.message
  | refused _ text => text

def source? : DebugError → Option SessionError
  | session _ cause => some cause
  | refused _ _ => none

def isDisconnect (e : DebugError) : Bool := e.source?.any (·.isDisconnect)

/-- A local precondition failed. -/
def requestFailed (text : String) : DebugError := refused .requestFailed text

/-- The operation needs a suspended thread. -/
def notSuspended : DebugError := refused .threadNotSuspended "thread is not suspended"

/-- An evaluation was attempted in a thread that is not suspended. -/
def evaluationNotSuspended : DebugError :=
  refused .threadNotSuspended "evaluation failed: thread not suspended"

/-- An invocation or evaluation already runs in the thread. -/
def nested : DebugError := refused .nestedInvocation "cannot perform nested evaluations"

/-- The frame is no frame of the thread it was used with. -/
def foreignFrame : DebugError :=
  refused .invalidStackFrame "frame does not belong to this thread"

/-- The target that the thread belonged to no longer exists. -/
def targetGone : DebugError := requestFailed "debug target is gone"

/-- The client may not end the machine. -/
def terminateForbidden : DebugError := requestFailed "terminating the VM is not allowed"

end DebugError

/-- A recoverable condition reported beside the result of an operation. -/
structure Status where
  code : StatusCode
  text : String
  deriving DecidableEq, Repr, Inhabited

end Debugger

import Debugger.Report.Doc
import Debugger.DebugEvent
import Debugger.Breakpoint
import Debugger.Session.Faulty

/-! # Written names

How enumerated things are written in reports.
-/

namespace Debugger

instance : Named DebugEventKind where
  names := [("Create", .create), ("Resume", .resume), ("Suspend", .suspend),
    ("Terminate", .terminate), ("Change", .change)]

instance : Named EventDetail where
  names := [("Unspecified", .unspecified), ("ClientRequest", .clientRequest),
    ("StepInto", .stepInto), ("StepOver", .stepOver), ("StepReturn", .stepReturn),
    ("StepEnd", .stepEnd), ("Breakpoint", .breakpoint),
    ("EvaluationImplicit", .evaluationImplicit), ("Evaluation", .evaluation),
    ("Content", .content)]

instance : Named StatusCode where
  names := [("TargetRequestFailed", .targetRequestFailed),
    ("ThreadNotSuspended", .threadNotSuspended), ("NestedInvocation", .nestedInvocation),
    ("IncompatibleThreadState", .incompatibleThreadState), ("SuspendTimeout", .suspendTimeout),
    ("InvalidStackFrame", .invalidStackFrame), ("Unsupported", .unsupported),
    ("RequestFailed", .requestFailed), ("Cancelled", .cancelled)]

instance : Named SuspendPolicy where
  names := [("thread", .thread), ("vm", .vm)]

instance : Named StepDepth where
  names := [("into", .into), ("over", .over), ("out", .out), ("reenter", .reenter)]

instance : Named RequestKind where
  names := [("step", .step), ("breakpoint", .breakpoint)]

instance : Named Vote where
  names := [("suspend", .suspend), ("dont_suspend", .dontSuspend), ("dont_care", .dontCare)]

instance : Named CallKind where
  names := [("all_threads", .allThreads), ("thread_name", .threadName),
    ("suspend_thread", .suspendThread), ("resume_thread", .resumeThread),
    ("thread_is_suspended", .threadIsSuspended), ("frames", .frames),
    ("frame_count", .frameCount), ("thread_group", .threadGroup),
    ("thread_group_name", .groupName), ("thread_group_parent", .groupParent),
    ("thread_priority", .threadPriority), ("owned_monitors", .ownedMonitors),
    ("contended_monitor", .contendedMonitor), ("create_step_request", .createStepRequest),
    ("create_breakpoint_request", .createBreakpointRequest),
    ("delete_event_request", .deleteEventRequest), ("invoke_method", .invokeMethod),
    ("new_instance", .newInstance), ("pop_frames", .popFrames),
    ("force_return", .forceReturn), ("frame_variable", .frameVariable),
    ("suspend_vm", .suspendVm), ("resume_vm", .resumeVm), ("exit_vm", .exitVm)]

/-- The kind of a session error, as it is written. -/
def SessionError.kindName : SessionError → String
  | disconnected => "Disconnected"
  | incompatibleThreadState => "IncompatibleThreadState"
  | invalidStackFrame => "InvalidStackFrame"
  | objectCollected => "ObjectCollected"
  | unsupported => "Unsupported"
  | timeout => "Timeout"
  | exception _ => "Exception"
  | vm _ => "Vm"
  | protocol _ => "Protocol"

end Debugger

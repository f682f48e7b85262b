import Debugger.Frame
import Debugger.Breakpoint
import Debugger.Step

/-! # The state of a thread

What the debugger knows of one thread of the machine.  A thread counts as suspended as long as it
neither runs nor has terminated; breakpoints describe a suspension only, so a thread that starts to run
forgets them.
-/

namespace Debugger

/-- Names a thread object; a thread that dies and comes back under its number is another object. -/
abbrev ThreadRef := Nat

/-- An evaluation under way in a thread. -/
structure Evaluation where
  /-- Tells this evaluation from every other one. -/
  token : Nat
  honorsBreakpoints : Bool
  cancelled : Bool
  deriving DecidableEq, Repr, Inhabited

/-- A thread as the debugger sees it. -/
structure Thread where
  id : ThreadId
  running : Bool
  terminated : Bool
  /-- Whether the thread belongs to the machine itself and not to the program. -/
  system : Bool
  /-- The known frames, top first. -/
  frames : List FrameRef := []
  /-- Whether the known frames have to be brought in line with the stack. -/
  refresh : Bool := true
  /-- The breakpoints responsible for the present suspension. -/
  breakpoints : List BreakpointRef := []
  evaluation : Option Evaluation := none
  invoking : Bool := false
  /-- A suspend request waits for its confirmation. -/
  suspending : Bool := false
  stepping : Option Stepping := none
  /-- The name of the group, once it is known. -/
  groupName : Option (Option String) := none
  deriving Repr

/-- What is said of a thread that there is not. -/
instance : Inhabited Thread := ⟨{ id := default, running := false, terminated := true, system := false }⟩

namespace Thread

def isSuspended (t : Thread) : Bool := !t.running && !t.terminated

def setRunning (running : Bool) (t : Thread) : Thread :=
  { t with running, breakpoints := if running then [] else t.breakpoints }

/-- The known frames no longer show the stack; they are kept for the next look at it. -/
def markStale (t : Thread) : Thread := { t with refresh := true }

def setStepping (s : Option Stepping) (t : Thread) : Thread := { t with stepping := s }

/-- Breakpoints are ignored only during an evaluation that asked for it. -/
def honorsBreakpoints (t : Thread) : Bool := t.evaluation.all (·.honorsBreakpoints)

def canSuspend (t : Thread) : Bool := !t.isSuspended && !t.terminated

/-- The thread is dead: it neither runs nor steps, and has no frames. -/
def bury (t : Thread) : Thread :=
  { t.setRunning false with terminated := true, stepping := none, frames := [], refresh := true }

/-- The thread as a line of text for inspection. -/
def describe (t : Thread) : String :=
  "JdiThread \x7b id: " ++ toString t.id ++ ", running: " ++ toString t.running ++
    ", terminated: " ++ toString t.terminated ++ ", stepping: " ++ toString t.stepping.isSome ++
    ", system_thread: " ++ toString t.system ++ " \x7d"

@[simp] theorem running_setRunning (b : Bool) (t : Thread) : (t.setRunning b).running = b := rfl

@[simp] theorem breakpoints_setRunning_true (t : Thread) : (t.setRunning true).breakpoints = [] :=
  rfl

@[simp] theorem isSuspended_bury (t : Thread) : t.bury.isSuspended = false := by
  simp [bury, isSuspended]

end Thread

end Debugger

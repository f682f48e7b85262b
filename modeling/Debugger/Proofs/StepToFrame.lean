import Debugger.Proofs.OwnLandings

/-! # Where a step to a frame ends

A step to a frame steps out until no more frames are left than there are from the frame on.  It looks only after a
step out, so that it takes one in any case: from the bottom frame, from which nothing returns, that changes nothing.
-/

namespace Debugger

variable {s s₁ : System (Faulty Machine)} {t : ThreadRef} {frames : List FrameRef} {frame : FrameRef}
  {top : RemoteFrame} {below stack : List RemoteFrame} {f : Faulty Machine} {id : ThreadId} {st : Stepping}
  {remaining : Nat}

/-- A suspended thread in `callee`, which `run` called. -/
private def nested : Machine.Task :=
  { sampleTask 1 with frames := sampleFrame 4 103 "callee" 20 :: (sampleTask 1).frames }

private def nestedCalls : Sample := ⟨[.addTask nested], by decide +kernel⟩

/-- The sample program with this thread. -/
private def deep : System (Faulty Machine) := nestedCalls.system

end Debugger

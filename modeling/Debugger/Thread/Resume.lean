import Debugger.Thread.Query

/-! # Resuming a thread, and how threads end -/

namespace Debugger

variable {σ : Type}

/-- The thread is dead, which is announced once. -/
def System.bury (s : System σ) (t : ThreadRef) : System σ :=
  if (s.thread t).terminated then s
  else (s.mapThread t Thread.bury).fire (s.element t) .terminate

/-- The machine is gone: every listed thread ends and no more events are dispatched. -/
def System.disconnect (s : System σ) : System σ :=
  if s.disconnected then s
  else
    let s := s.registry.foldl System.bury { s with disconnected := true }
    { s with stepOwners := .empty, shutdown := true }.fire .target .terminate

variable [Session σ]

/-- Resumes a suspended thread, and announces it if `notify` is given.  When the machine refuses, the
thread counts as suspended again. -/
def resumeThread (t : ThreadRef) (notify : Bool) : Client σ Unit := do
  let s ← get
  unless (s.thread t).isSuspended do return
  modify (·.startRunning t)
  if notify then modify fun s => s.fire (s.element t) (.resume .clientRequest)
  match ← ask (Session.resumeThread (s.thread t).id) with
  | .ok () => return
  | .error .disconnected => modify (·.bury t)
  | .error e =>
    modify fun s => (s.stopRunning t).fire (s.element t) (.suspend .clientRequest)
    throw (.session "resuming thread" e)

def resume (t : ThreadRef) : Client σ Unit := resumeThread t true

/-- Resumes without an announcement. -/
def resumeQuietly (t : ThreadRef) : Client σ Unit := resumeThread t false

end Debugger

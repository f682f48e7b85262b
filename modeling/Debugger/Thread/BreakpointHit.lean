import Debugger.Thread.Stepping

/-! # Breakpoint hits

A thread that hits a breakpoint is suspended before the listeners are asked, so that they find it so.  A
breakpoint that stops the whole machine suspends every listed thread; when a listener objects, all of
them run again.
-/

namespace Debugger

variable {σ : Type}

/-- The breakpoint of that name. -/
def System.breakpoint (s : System σ) (b : BreakpointRef) : Breakpoint := s.breakpoints[b]?.getD default

/-- The whole machine was suspended. -/
def System.suspendListed (s : System σ) : System σ :=
  s.registry.foldl System.stopRunning { s with suspended := true }

/-- The whole machine was resumed. -/
def System.resumeListed (s : System σ) : System σ :=
  s.registry.foldl System.startRunning { s with suspended := false }

/-- Asks every listener, also after one has objected. -/
def System.vote (s : System σ) (t : ThreadRef) (b : Breakpoint) : Bool × System σ :=
  let id := (s.thread t).id
  let votes := s.listeners.map fun l => l.opinion s.ballots id b
  let asked := s.listeners.map fun l => ⟨l.name, id, b.request⟩
  (Vote.carries votes, { s with ballots := s.ballots ++ asked })

/-- Publishes at once, or at the next flush. -/
def System.publish (s : System σ) (queued : Bool) (source : Element) (a : Announcement) : System σ :=
  if queued then s.queue source a else s.fire source a

/-- The thread is at the breakpoint. -/
def System.arrive (s : System σ) (t : ThreadRef) (b : BreakpointRef) : System σ :=
  s.mapThread t fun th => { th with breakpoints := th.breakpoints ++ [b] }

variable [Session σ]

/-- Records a hit and lets the listeners decide.  Tells whether the thread stays suspended; if it does
not, the caller resumes it in the machine, or everything for a breakpoint that stops everything. -/
def suspendAtBreakpoint (t : ThreadRef) (b : BreakpointRef) (queued : Bool) : Debug σ Bool := do
  let s ← get
  let all := (s.breakpoint b).policy = .vm && s.targetAlive
  modify (·.arrive t b)
  modify fun s => if all then s.suspendListed else s.stopRunning t
  let suspend ← if s.targetAlive then modifyGet (·.vote t (s.breakpoint b)) else pure true
  if suspend then
    if all then modify fun s => s.publish queued .target (.suspend .breakpoint)
    abortStep t
    modify fun s => s.publish queued (s.element t) (.suspend .breakpoint)
  else
    modify fun s => if all then s.resumeListed else s.startRunning t
  return suspend

/-- Records a hit without a vote or an announcement. -/
def suspendAtBreakpointQuietly (t : ThreadRef) (b : BreakpointRef) : Debug σ Bool := do
  modify fun s => (s.arrive t b).stopRunning t
  abortStep t
  return true

end Debugger

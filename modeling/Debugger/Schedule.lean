import Debugger.Target.Dispatch
import Debugger.Thread.Suspend
import Debugger.Thread.Evaluation

/-! # Running background tasks

Tasks that are ready run one after another, in the order in which they became ready, each until it waits
or is over; time stands still meanwhile.  A system is settled when no task can go on before time passes.
Time jumps from one sleeper's waking to the next.
-/

namespace Debugger

variable {σ : Type} [Session σ]

/-- The dispatcher gets ready when there is something to dispatch. -/
def System.wakeDispatcher (s : System σ) : System σ :=
  if s.dispatchable then s.wake .dispatcher else s

/-- Runs the task that has been ready longest.  The dispatcher stays in front as long as there is more
to dispatch. -/
def runNext : Debug σ Unit := do
  modify (·.wakeDispatcher)
  match (← get).ready with
  | [] => return
  | .dispatcher :: _ =>
    unless ← dispatchOne do
      modify fun s => { s with ready := s.ready.erase .dispatcher }
  | task :: rest =>
    modify fun s => { s with ready := rest }
    match task with
    | .watch n => runWatch n
    | .invocation n => runInvocation n
    | .evaluation n => runEvaluation n
    | .dispatcher => return

/-- No task can go on before time passes. -/
def System.isSettled (s : System σ) : Bool := s.ready.isEmpty && !s.dispatchable

/-- Runs at most `fuel` stretches of tasks. -/
def settle : Nat → Debug σ Unit
  | 0 => return
  | fuel + 1 => do
    unless (← get).isSettled do
      runNext
      settle fuel

/-- When the next sleeper wakes up. -/
def System.nextWaking (s : System σ) : Option Nat := (s.sleeping.map (·.1)).min?

/-- Time passes until `time`; whoever was to wake up by then is ready. -/
def System.passTime (s : System σ) (time : Nat) : System σ :=
  let (due, later) := s.sleeping.partition (·.1 ≤ time)
  due.foldl (fun s e => s.wake e.2) { s with now := time, sleeping := later }

/-- Time passes until `time`, with every stop on the way: at most `stops` of them. -/
private def passStops (fuel : Nat) : Nat → Nat → Debug σ Unit
  | 0, _ => return
  | stops + 1, time => do
    match (← get).nextWaking with
    | some waking =>
      if waking ≤ time then
        modify (·.passTime waking)
        settle fuel
        passStops fuel stops time
    | none => return

/-- Lets `ms` milliseconds pass.  Between two stops time moves on by at least one millisecond. -/
def advance (fuel ms : Nat) : Debug σ Unit := do
  let time := (← get).now + ms
  passStops fuel (ms + 1) time
  modify (·.passTime time)
  settle fuel

/-- Lets time pass until the watch is over, for at most `stops` stops. -/
def awaitWatch (fuel n : Nat) : Nat → Debug σ Unit
  | 0 => return
  | stops + 1 => do
    if ((← get).outcome? n).isNone then
      if let some waking := (← get).nextWaking then
        modify (·.passTime waking)
        settle fuel
        awaitWatch fuel n stops

end Debugger

import Debugger.StepFilter
import Debugger.Request
import Debugger.DebugEvent

/-! # Stepping

A step that the user asks for may take several step requests: a step into code that is filtered goes
on, a step to an outer frame steps out until few enough frames are left, and a simulated frame drop
counts down.  `Stepping` holds what is needed to make the next request and to judge where the last one
landed; `Stepping.land` is the judgement.
-/

namespace Debugger

/-- What the user asked for. -/
inductive StepKind where
  | over
  | into
  | return
  /-- Step out until at most so many frames are left. -/
  | toFrame (remaining : Nat)
  /-- Return out of so many frames, then enter the one reached again.  The count runs down past zero:
  at zero the frame is entered again, below zero one step into its first line follows. -/
  | dropToFrame (frames : Int)
  deriving DecidableEq, Repr, Inhabited

namespace StepKind

/-- How the step is announced. -/
def detail : StepKind → EventDetail
  | .over => .stepOver
  | .into => .stepInto
  | .return | .toFrame _ | .dropToFrame _ => .stepReturn

/-- The depth of the next request. -/
def depth : StepKind → StepDepth
  | .over => .over
  | .into => .into
  | .return | .toFrame _ => .out
  | .dropToFrame frames => if frames > 0 then .out else if frames = 0 then .reenter else .into

/-- Only stepping into new frames is subject to filters. -/
def filtered : StepKind → Bool
  | .into => true
  | _ => false

/-- Whether the thread is made to return from its top frame when it is resumed. -/
def forcesReturn : StepKind → Bool
  | .dropToFrame frames => frames ≥ 0
  | _ => false

end StepKind

/-- Where the step that the user asked for started. -/
structure StepOrigin where
  depth : StepDepth
  location : Location
  stackDepth : Nat
  deriving DecidableEq, Repr, Inhabited

/-- What follows the landing of a step request. -/
inductive StepTransition where
  /-- Another request takes its place and the thread runs on. -/
  | continue
  | finish
  deriving DecidableEq, Repr, Inhabited

/-- A step under way. -/
structure Stepping where
  kind : StepKind
  origin : StepOrigin
  /-- The request that the machine holds for the step. -/
  request : RequestId
  filters : StepFilters
  /-- The step asked for filtering by itself. -/
  requested : Bool
  deriving Repr, Inhabited

namespace Stepping

/-- Whether filters bear on a step of this kind. -/
def filtering (kind : StepKind) (filters : StepFilters) (requested : Bool) : Bool :=
  kind.filtered && filters.applies requested

/-- The next request of a step.  A step that starts inside filtered code must be able to stop there, so
it excludes nothing. -/
def nextRequest (kind : StepKind) (origin : StepOrigin) (filters : StepFilters) (requested : Bool)
    (thread : ThreadId) : StepRequest where
  thread := thread
  depth := kind.depth
  count := some 1
  exclusions :=
    if filtering kind filters requested && !filters.coversType origin.location.method.declaringType
    then filters.patterns else []
  policy := .thread

/-- Whether the judgement of a landing needs the number of frames. -/
def needsFrameCount (s : Stepping) : Bool :=
  match s.kind with
  | .toFrame _ => true
  | .dropToFrame _ => false
  | _ => s.origin.depth == .into

/-- A landing in filtered code, by a step that did not start in such code. -/
def landsFiltered (s : Stepping) (landing : Location) : Bool :=
  filtering s.kind s.filters s.requested &&
    !s.filters.coversLocation s.origin.location s.requested &&
    s.filters.coversLocation landing s.requested

/-- A step into that only found filtered code comes back to the line it started on. -/
def landsAtOrigin (s : Stepping) (landing : Location) (frames : Option Nat) : Bool :=
  s.origin.depth == .into && frames == some s.origin.stackDepth &&
    s.origin.location.sameLine landing

/-- Judges a landing: the kind to go on with, and whether to go on. -/
def land (s : Stepping) (landing : Location) (frames : Option Nat) : StepKind × StepTransition :=
  let goOn (b : Bool) : StepTransition := if b then .continue else .finish
  match s.kind with
  | .toFrame remaining => (s.kind, goOn (frames.any (· > remaining)))
  | .dropToFrame n => (.dropToFrame (n - 1), goOn (n - 1 ≥ -1))
  | _ => (s.kind, goOn (s.landsFiltered landing || s.landsAtOrigin landing frames))

end Stepping

end Debugger

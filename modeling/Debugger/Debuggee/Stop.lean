import Debugger.Debuggee.State
import Debugger.Wire.Packet

/-! # Steps of a debuggee

A step that was armed goes to the next line as soon as its thread runs, and stops the thread again.  The
breakpoints at the place where it lands are reported with it and before it.
-/

namespace Debugger.Debuggee

open Wire

/-- The events of a stop, all at one place, as bytes; an event without contents may stand in front. -/
def stopPayload (sizes : IdSizes) (unknown : Option UInt8) (policy : UInt8)
    (events : List (UInt8 × RequestId)) (thread : ThreadId) (place : CodePlace) : Bytes :=
  let event (e : UInt8 × RequestId) : Bytes :=
    Encode.u8 e.1 ++ Encode.i32 e.2 ++ Encode.ident sizes.object thread ++ Encode.place sizes place
  Encode.u8 policy ++ Encode.count (events.length + unknown.toList.length) ++
    unknown.toList.flatMap (fun kind => Encode.u8 kind ++ Encode.i32 0) ++ events.flatMap event

/-- Reports a stop. -/
def report (d : Debuggee) (policy : UInt8) (events : List (UInt8 × RequestId)) (thread : ThreadId)
    (place : CodePlace) : Packet × Debuggee :=
  let id := d.lastPacket + 1
  (.event id (stopPayload d.sizes d.unknownEvent policy events thread place),
    { d with lastPacket := id, unknownEvent := none })

/-- The breakpoints at a place that were not cleared. -/
def breakpointsAt (d : Debuggee) (place : CodePlace) : List RequestEntry :=
  d.requests.filter fun r => r.kind = EventKind.breakpoint && r.place = some place &&
    !d.cleared.contains (EventKind.breakpoint, r.id)

/-- Where the next line begins; the last line is never left. -/
def nextPlace (d : Debuggee) (p : CodePlace) : CodePlace :=
  let next := (d.method? p.type p.method).bind fun m => m.lines.find? (·.index > p.index)
  { p with index := (next.map (·.index)).getD p.index }

/-- The thread's top frame goes to the next line, and the thread stops there.  A thread without frames
makes no steps. -/
def completeStep (d : Debuggee) (request : RequestId) (thread : ThreadId) : Option Packet × Debuggee :=
  match (d.thread? thread).map (·.frames) with
  | some (top :: below) =>
    let place := d.nextPlace top.place
    let d := d.mapThread thread fun t => { t with suspendCount := 1, frames := ⟨top.id, place⟩ :: below }
    let hit := d.breakpointsAt place
    let policy := hit.foldl (fun p r => max p r.policy) Policy.thread
    let d :=
      if policy = Policy.all then
        { d with threads := d.threads.map fun t => { t with suspendCount := max t.suspendCount 1 } }
      else d
    let events := hit.map (fun r => (EventKind.breakpoint, r.id)) ++ [(EventKind.step, request)]
    let (packet, d) := d.report policy events thread place
    (some packet, d)
  | _ => (none, d)

def completeSteps (d : Debuggee) : List (RequestId × ThreadId) → List Packet × Debuggee
  | [] => ([], d)
  | (request, thread) :: rest =>
    let (packet, d) := d.completeStep request thread
    let (packets, d) := d.completeSteps rest
    (packet.toList ++ packets, d)

/-- Threads start to run, and with them the steps that were armed for them. -/
def run (d : Debuggee) (threads : List ThreadId) : List Packet × Debuggee :=
  let (due, later) := d.armed.partition fun a => threads.contains a.2
  { d with armed := later }.completeSteps due

end Debugger.Debuggee

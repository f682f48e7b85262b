import Debugger.Scenario.Entry
import Debugger.Machine.Calls
import Debugger.Machine.Script

/-! # Playing on a machine in memory

Plays in which everything that the machine does is commanded too.
-/

namespace Debugger.Scenario

open Doc

instance : Reported Machine.InvocationEntry where
  doc e := record
    [("thread", doc e.call.thread), ("method", doc e.call.method), ("args", doc e.call.args),
      ("on", doc e.call.target), ("single", doc e.call.options.singleThreaded),
      ("nonvirtual", doc e.call.options.nonvirtual), ("timeout", doc e.timeout)]

instance : Reported Machine.StepEntry where
  doc e := record
    [("id", doc e.id), ("thread", doc e.request.thread), ("depth", doc e.request.depth),
      ("count", doc e.request.count), ("exclude", doc e.request.exclusions),
      ("policy", doc e.request.policy)]

private def breakpointDoc (b : RequestId × BreakpointRequest) : Doc :=
  record [("id", doc b.1), ("type", doc b.2.typeName), ("line", doc b.2.line),
    ("policy", doc b.2.policy)]

/-- What a machine recorded between two states. -/
def machineRecord (before after : Machine) : List (String × Doc) :=
  fieldUnlessEmpty "steps" (after.steps.drop before.steps.length) ++
  fieldUnlessEmpty "bps"
    ((after.breakpoints.drop before.breakpoints.length).map breakpointDoc) ++
  fieldUnlessEmpty "deleted" (after.deleted.drop before.deleted.length) ++
  fieldUnlessEmpty "invocations" (after.invocations.drop before.invocations.length) ++
  fieldUnlessEmpty "timeouts" (after.timeouts.drop before.timeouts.length) ++
  fieldUnlessEmpty "resumes" (after.resumes.drop before.resumes.length) ++
  fieldUnlessEmpty "popped" (after.popped.drop before.popped.length) ++
  fieldIfChanged "vm_suspends" before.vmSuspends after.vmSuspends ++
  fieldIfChanged "vm_resumes" before.vmResumes after.vmResumes ++
  (if before.exitCode.isNone && after.exitCode.isSome then [("exit", doc after.exitCode)] else [])

/-- Acts on a machine: the answer and the machine afterwards. -/
def MachineCommand.apply (m : Machine) : MachineCommand → Doc × Machine
  | addTask t => (null, m.addTask t)
  | addGroup id g => (null, m.addGroup id g)
  | setFrames t fs => (null, m.setFrames t fs)
  | frames t => (doc (m.framesOf t), m)
  | isSuspended t => (doc (m.isSuspended t), m)
  | landing t fs => (null, m.addLanding t fs)
  | invokeResult r => (null, m.addInvokeResult r)
  | gate => (null, { m with gated := true })
  | release => (null, if m.gated then { m with permit := true } else m)
  | setVariable f v => (null, m.setVariable f v)
  | setOwnedMonitors t objects => (null, m.setOwnedMonitors t objects)
  | setCanPop on => (null, { m with popsFrames := on })
  | hideGroups on => (null, { m with hidesGroups := on })
  | ignoreSuspend t => (null, m.ignoreSuspend t)
  | defer t => (null, m.deferSteps t)
  | complete t => let (m, b) := m.completeDeferred t; (doc b, m)
  | completeAt t request stepFirst =>
    let (m, b) := m.completeDeferredAt t request stepFirst; (doc b, m)
  | failResume e => (null, m.failNextResume e)
  | hit t request => let (m, b) := m.hit t request; (doc b, m)
  | emit sets => (null, sets.foldl Machine.emit m)
  | stepRequests => (doc (m.steps.map fun e => list [doc e.id, doc e.fired, doc e.deleted]), m)
  | call c =>
    match c.make m with
    | .ok d m => (d, m)
    | .error e m => (doc e, m)
  | fault _ _ => (null, m)

/-- Acts on a machine whose calls may fail on schedule. -/
def MachineCommand.applyFaulty (s : Faulty Machine) : MachineCommand → Doc × Faulty Machine
  | fault kind entries => (null, s.addFaults kind entries)
  | c => let (d, inner) := c.apply s.inner; (d, { s with inner })

/-- Acts on the machine of a play; a release lets in the invocation that waits longest. -/
def onMachine (p : Play (Faulty Machine)) (c : MachineCommand) : Doc × Play (Faulty Machine) :=
  let act (p : Play (Faulty Machine)) : Doc × Play (Faulty Machine) :=
    let (d, session) := c.applyFaulty p.system.session
    (d, p.mapSystem fun s => { s with session })
  match c with
  | .release =>
    match p.act letInHeld with
    | (true, p) => (null, p)
    | (false, p) => act p
  | _ => act p

/-- Attaches to a machine that was set up, and plays commands. -/
def playOnMachine (machine : Faulty Machine) (setup : List MachineCommand)
    (settings : TargetSettings) (logsStatus : Bool) (cs : List (Command MachineCommand)) : Doc :=
  let session := setup.foldl (fun s c => (c.applyFaulty s).2) machine
  match attach session settings with
  | .error e => record [("attach", doc e)]
  | .ok system =>
    let p : Play (Faulty Machine) :=
      { system
        before := { system with session := { session with inner := {} }, ballots := [], notices := [] }
        reader := system.bus.subscribe
        logsStatus }
    list (p.run onMachine (fun a b => machineRecord a.inner b.inner) cs)

end Debugger.Scenario

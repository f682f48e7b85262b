import Debugger.Debuggee.Peer
import Debugger.Report.Debuggee
import Debugger.Scenario.Entry
import Debugger.Wire.Session

/-! # Playing on a debuggee

Plays of the debugger over a connection with a debuggee, and of bare commands to one.
-/

namespace Debugger.Scenario

open Doc Wire

/-! ### The debugger -/

/-- What can be done on the debuggee's side, and to the connection. -/
inductive DebuggeeCommand where
  | unknownEvent (kind : UInt8)
  | isSuspended (t : ThreadId)
  | frameCount (t : ThreadId)
  | timeout (ms : Option Nat)
  | resumeThread (t : ThreadId)
  | shutdown
  deriving Inhabited

/-- The debuggee of a session. -/
def debuggeeOf (s : WireSession Debuggee) : Debuggee := s.resolver.client.peer

/-- Acts on a debuggee or the connection with it. -/
def DebuggeeCommand.apply (s : WireSession Debuggee) : DebuggeeCommand → Doc × WireSession Debuggee
  | unknownEvent kind =>
    (null, s.mapClient fun c => { c with peer := { c.peer with unknownEvent := some kind } })
  | isSuspended t => (doc (((debuggeeOf s).thread? t).any (·.isSuspended)), s)
  | frameCount t => (doc (((debuggeeOf s).thread? t).map (·.frames.length)), s)
  | timeout ms => (doc (Session.requestTimeout s), Session.setRequestTimeout ms s)
  | resumeThread t =>
    match Session.resumeThread t s with
    | .ok () s => (null, s)
    | .error e s => (doc e, s)
  | shutdown => (null, (s.mapClient (·.shutdown)).publishAll)

def onDebuggee (p : Play (WireSession Debuggee)) (c : DebuggeeCommand) :
    Doc × Play (WireSession Debuggee) :=
  let (d, session) := c.apply p.system.session
  (d, p.mapSystem fun s => { s with session })

/-- What a debuggee recorded between two states. -/
def debuggeeRecord (before after : Debuggee) : List (String × Doc) :=
  fieldUnlessEmpty "requests" (after.requests.drop before.requests.length) ++
  fieldUnlessEmpty "cleared" (after.cleared.drop before.cleared.length) ++
  fieldUnlessEmpty "invocations" (after.invocations.drop before.invocations.length) ++
  fieldUnlessEmpty "popped" (after.popped.drop before.popped.length) ++
  fieldIfChanged "thread_resumes" before.threadResumes after.threadResumes ++
  fieldIfChanged "vm_resumes" before.vmResumes after.vmResumes

/-- Connects to a debuggee, attaches to it, and plays commands. -/
def playOnDebuggee (debuggee : Debuggee) (connection : ConnectionSettings) (settings : TargetSettings)
    (cs : List (Command DebuggeeCommand)) : Doc :=
  match Wire.Client.connect connection debuggee with
  | (.error e, _) => record [("connect", doc e.toSession)]
  | (.ok (), client) =>
    match attach (WireSession.new client) settings with
    | .error e => record [("attach", doc e)]
    | .ok system =>
      let p : Play (WireSession Debuggee) :=
        { system
          before := { system with
            session := system.session.mapClient fun c => { c with peer := debuggee }
            ballots := []
            notices := [] }
          reader := system.bus.subscribe
          showsWaits := false }
      list (p.run onDebuggee (fun a b => debuggeeRecord (debuggeeOf a) (debuggeeOf b)) cs)

/-! ### Bare commands -/

/-- A command as it is sent, or an event of an unknown kind that is to stand in front of the next stop. -/
inductive BareCommand where
  | command (set number : UInt8) (payload : Bytes)
  | unknownEvent (kind : UInt8)
  deriving Inhabited

/-- An event packet, with its number. -/
private def eventDoc (p : Packet) : Doc :=
  list [doc p.id, doc p.high, doc p.low, text (hexBytes p.payload)]

/-- What is shown after a command. -/
private def bareEntry (d : Debuggee) (code : UInt16) (r : Debuggee.Response) : Doc :=
  let suspended (t : ThreadId) : Bool := (d.thread? t).any (·.isSuspended)
  let frames (t : ThreadId) : Option Nat := (d.thread? t).map (·.frames.length)
  record ([("error", doc code), ("data", text (hexBytes r.payload)),
      ("events", list (r.events.map eventDoc)), ("suspended", doc ([1, 2].map suspended)),
      ("frames", doc ([1, 2, 3].map frames))] ++
    if r.closes then [("closed", doc true)] else [])

/-- Sends commands until the debuggee closes the connection. -/
def sendAll (d : Debuggee) : List BareCommand → List Doc × Debuggee
  | [] => ([], d)
  | .unknownEvent kind :: cs =>
    let (ds, d) := sendAll { d with unknownEvent := some kind } cs
    (null :: ds, d)
  | .command set number payload :: cs =>
    let ((code, r), d) := d.respond set number payload
    let entry := bareEntry d code r
    if r.closes then ([entry], d)
    else
      let (ds, d) := sendAll d cs
      (entry :: ds, d)

/-- Greets a debuggee and sends it commands. -/
def playBare (greeted : Bytes) (d : Debuggee) (cs : List BareCommand) : Doc :=
  let (output, d) := Peer.greet greeted d
  if output.closes then text "closed"
  else
    let (entries, d) := sendAll d cs
    record [("steps", list entries), ("requests", doc d.requests), ("cleared", doc d.cleared),
      ("popped", doc d.popped), ("invocations", doc d.invocations),
      ("resumes", doc [d.threadResumes, d.vmResumes])]

end Debugger.Scenario

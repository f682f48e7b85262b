import Debugger.Report.Wire
import Debugger.Scenario.Call
import Debugger.Scenario.ScriptedPeer
import Debugger.Wire.Session

/-! # Playing over a connection

Steps of a client and of a session over the same connection, against a peer that answers from a script.
After each step it is shown what came of it, which commands were sent, and what was reported.
-/

namespace Debugger.Scenario

open Doc Wire

/-- A query whose answer goes into a report. -/
def reported {α : Type} [Reported α] (q : Query α) : Query Doc where
  set := q.set
  number := q.number
  payload := q.payload
  reply s := doc <$> q.reply s

/-- Something done over a connection, or by the peer of its own accord. -/
inductive WireCommand where
  | ask (q : Query Doc)
  | askSizes
  | capabilities
  | timeout
  | setTimeout (ms : Option Nat)
  | shutdown
  | session (c : SessionCall)
  | emit (payload : Bytes)
  | raw (bytes : Bytes)
  | close
  deriving Inhabited

/-- A command with the peer's answers, and with a timeout that holds for this command only. -/
structure WireStep where
  command : WireCommand
  answers : List Answer := []
  timeout : Option Nat := none
  deriving Inhabited

/-- The state of a play over a connection. -/
structure WirePlay where
  session : WireSession ScriptedPeer
  /-- Readers of what the machine and the session report. -/
  wireReader : Reader
  reader : Reader

instance : Reported Packet where
  doc p := list [doc p.high, doc p.low, text (hexBytes p.payload)]

namespace WirePlay

def mapSession (p : WirePlay) (f : WireSession ScriptedPeer → WireSession ScriptedPeer) : WirePlay :=
  { p with session := f p.session }

def mapPeer (p : WirePlay) (f : ScriptedPeer → ScriptedPeer) : WirePlay :=
  p.mapSession (·.mapClient fun c => { c with peer := f c.peer })

/-- Makes use of the client. -/
def ask {α : Type} [Reported α] (p : WirePlay) (x : Ask ScriptedPeer α) : Doc × WirePlay :=
  match Resolver.attempt x p.session.resolver with
  | .ok r resolver => (resultDoc r, p.mapSession ({ · with resolver }))
  | .error e resolver => (doc e, p.mapSession ({ · with resolver }))

def act (p : WirePlay) : WireCommand → Doc × WirePlay
  | .ask q => p.ask (Client.ask q)
  | .askSizes => p.ask Client.askSizes
  | .capabilities => (text p.session.connection.capabilities.describe, p)
  | .timeout => (doc p.session.connection.replyTimeout, p)
  | .setTimeout ms =>
    (doc p.session.connection.replyTimeout, p.mapSession (Session.setRequestTimeout ms))
  | .shutdown => (null, p.mapSession (·.mapClient (·.shutdown)))
  | .session c =>
    match c.make p.session with
    | .ok d session => (d, { p with session })
    | .error e session => (doc e, { p with session })
  | .emit payload =>
    let (bytes, peer) := p.session.resolver.client.peer.event payload
    (null, (p.mapPeer fun _ => peer).mapSession (·.mapClient (·.hear { bytes })))
  | .raw bytes => (null, p.mapSession (·.mapClient (·.hear { bytes })))
  | .close => (null, p.mapSession (·.mapClient (·.hear { closes := true })))

/-- Carries out a step. -/
def step (p : WirePlay) (s : WireStep) : Doc × WirePlay :=
  let p := p.mapPeer fun peer => { peer with answers := s.answers, received := [] }
  let (d, p) := match s.timeout with
    | none => p.act s.command
    | some ms =>
      let usual := p.session.connection.replyTimeout
      let (d, p) := (p.mapSession (Session.setRequestTimeout (some ms))).act s.command
      (d, p.mapSession (Session.setRequestTimeout usual))
  (d, p.mapSession (·.publishAll))

/-- The entry for a step. -/
def entry (p : WirePlay) (result : Doc) : Doc × WirePlay :=
  let c := p.session.connection
  let (wireEvents, wireReader) := c.events.receiveAll p.wireReader
  let (events, reader) := p.session.events.receiveAll p.reader
  (record ([("r", result)] ++
      fieldUnlessEmpty "sent" p.session.resolver.client.peer.received ++
      fieldUnlessEmpty "wire_events" wireEvents ++ fieldUnlessEmpty "events" events),
    { p with wireReader, reader })

def steps (p : WirePlay) : List WireStep → List Doc × WirePlay
  | [] => ([], p)
  | s :: ss =>
    let (d, p) := p.step s
    let (d, p) := p.entry d
    let (ds, p) := p.steps ss
    (d :: ds, p)

end WirePlay

/-- Connects to a peer and plays the steps; nothing if one of them would wait forever.  The first entry
tells how the connecting went, and with `showsTimeout` also how long a reply may take. -/
def playOverWire (settings : ConnectionSettings) (peer : ScriptedPeer) (showsTimeout : Bool)
    (steps : List WireStep) : Option Doc :=
  let (r, client) := Client.connect settings peer
  let first := record ([("connect", resultDoc r),
      ("handshake", doc (decide (client.peer.greeted = greeting))),
      ("sent", doc client.peer.received)] ++
    if showsTimeout then [("timeout", doc client.connection.replyTimeout)] else [])
  if client.hangs then none
  else
    match r with
    | .error _ => some (list [first])
    | .ok () =>
      let session := WireSession.new client
      let p : WirePlay :=
        { session
          wireReader := client.connection.events.subscribe
          reader := session.events.subscribe }
      let (entries, p) := p.steps steps
      if p.session.resolver.client.hangs then none else some (list (first :: entries))

end Debugger.Scenario

import Debugger.Wire.Connection
import Debugger.Wire.Query

/-! # Clients

A client asks queries over a connection, one after another.  The peer at the other end answers each packet
at once, so nothing is to wait for: a query that is not answered then is answered never.
-/

namespace Debugger.Wire

/-- What a peer writes, and whether it closes its end after that. -/
structure Output where
  bytes : Bytes := []
  closes : Bool := false
  deriving DecidableEq, Repr, Inhabited

/-- The other end of a connection, with state `π`. -/
class Peer (π : Type) where
  /-- The peer reads the greeting, and writes its own. -/
  greet : Bytes → StateM π Output
  /-- The peer reads a packet. -/
  answer : Packet → StateM π Output

/-- A connection with a peer. -/
structure Client (π : Type) where
  connection : Connection
  peer : π
  /-- Some query waits forever. -/
  hangs : Bool := false
  deriving Inhabited

/-- What a client is connected with. -/
structure ConnectionSettings where
  /-- How long the greeting may take, in milliseconds. -/
  handshake : Nat := 5000
  /-- How long a reply may take, in milliseconds; `none` is forever. -/
  reply : Option Nat := some 3000
  /-- How many event sets are kept for readers. -/
  capacity : Nat := Connection.defaultCapacity
  deriving DecidableEq, Repr, Inhabited

/-- Something done with a client that may fail. -/
abbrev Ask (π α : Type) := EStateM WireError (Client π) α

namespace Client

variable {π α : Type}

def mapConnection (c : Client π) (f : Connection → Connection) : Client π :=
  { c with connection := f c.connection }

/-- What a peer writes arrives. -/
def hear (c : Client π) (o : Output) : Client π :=
  let c := c.mapConnection (·.receive o.bytes)
  if o.closes then c.mapConnection (·.stop) else c

/-- Nobody uses the connection any more. -/
def shutdown (c : Client π) : Client π := c.mapConnection (·.close)

variable [Peer π]

/-- Sends a command; the payload of its reply. -/
def call (set number : UInt8) (payload : Bytes) : Ask π Bytes := do
  let ((n, packet), connection) := (← get).connection.send set number payload
  modify fun c => { c with connection }
  if let some packet := packet then
    let (output, peer) := Peer.answer packet (← get).peer
    modify fun c => { c with peer }
    -- a call that does not wait at all has given up before the reply comes
    if (← get).connection.replyTimeout = some 0 then modify (·.mapConnection (·.giveUp n))
    modify (·.hear output)
  match (← get).connection.result? n with
  | some (.ok bytes) => return bytes
  | some (.error e) => throw e
  | none =>
    if (← get).connection.replyTimeout.isNone then modify ({ · with hangs := true })
    modify (·.mapConnection (·.giveUp n))
    throw .timeout

/-- Asks a query. -/
def ask (q : Query α) : Ask π α := do
  let bytes ← call q.set q.number (q.payload (← get).connection.sizes)
  match (q.reply (← get).connection.sizes).run bytes with
  | .ok a => return a
  | .error m => throw (.malformed m)

/-- Asks for the sizes of identifiers, and uses them from now on. -/
def askSizes : Ask π IdSizes := do
  let sizes ← ask Query.idSizes
  modify (·.mapConnection (·.perform (.setSizes sizes)))
  return sizes

/-- Greets the peer, and asks it for the sizes of identifiers and its capabilities. -/
def connect (s : ConnectionSettings) (peer : π) : Except WireError Unit × Client π :=
  let (output, peer) := Peer.greet greeting peer
  let c : Client π := { connection := .new s.reply s.capacity, peer }
  let heard := output.bytes.take greeting.length
  if s.handshake = 0 then (.error .timeout, c.shutdown)
  else if heard.length < greeting.length then
    (.error (if output.closes then .io "early eof" else .timeout), c.shutdown)
  else if heard ≠ greeting then (.error (.malformed (.greeting heard)), c.shutdown)
  else
    let c := c.hear { output with bytes := output.bytes.drop greeting.length }
    let prepare : Ask π Unit := do
      let _ ← askSizes
      let flags ← ask Query.capabilityFlags
      modify (·.mapConnection (·.perform (.setCapabilities (.ofFlags flags))))
    match prepare c with
    | .ok _ c => (.ok (), c)
    | .error e c => (.error e, c)

end Client

end Debugger.Wire

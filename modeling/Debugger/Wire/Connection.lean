import Debugger.Channel
import Debugger.Table
import Debugger.Wire.Events
import Debugger.Wire.Packet

/-! # Connections

One connection carries the calls of many callers.  Each command has a number of its own, and a reply
completes the call that waits under its number.  A call that gives up waiting is forgotten, so that a late
reply completes nothing; and when the connection ends, by whatever cause, every call that still waits
fails, and so does every later one.

The callers and the receiver of packets go on independently: an `Action` is as much as one of them does
without another coming between, and `Connection.perform` is what it does to the connection.
-/

namespace Debugger.Wire

/-- What the machine replied; the error code zero means success. -/
structure Reply where
  code : UInt16
  payload : Bytes
  deriving DecidableEq, Repr, Inhabited

/-- The result of a call that is replied to. -/
def Reply.result (r : Reply) : Except WireError Bytes :=
  if r.code = 0 then .ok r.payload else .error (.refused r.code)

def Packet.reply? (p : Packet) : Option Reply := if p.isReply then some ⟨p.code, p.payload⟩ else none

/-- How far a call has come. -/
inductive CallStage where
  /-- The connection was open when the call began. -/
  | admitted
  | numbered (id : UInt32)
  /-- Its number is in the table, and its command is being written. -/
  | writing (id : UInt32)
  /-- The reply may take `limit` milliseconds, or forever.  Once the call has found that nothing came yet it
  is `asleep`. -/
  | waiting (id : UInt32) (limit : Option Nat) (asleep : Bool)
  /-- It has given up, and its number is still to be struck from the table. -/
  | leaving (id : UInt32) (error : WireError)
  | finished (id : Option UInt32) (result : Except WireError Bytes)
  deriving Inhabited

/-- One call. -/
structure Caller where
  set : UInt8
  number : UInt8
  payload : Bytes
  stage : CallStage := .admitted
  /-- What was sent to the call: a reply, or that there will be none. -/
  mail : Option (Except WireError Reply) := none
  deriving Inhabited

/-- What the receiver of packets is about. -/
inductive Intake where
  | listening
  /-- A reply was matched with a call and is still to be handed over. -/
  | handing (call : Nat) (reply : Reply)
  /-- It hears no more, and has yet to tell so. -/
  | leaving
  /-- The table is still to be emptied. -/
  | emptying
  /-- These calls are still to be told that there will be no reply. -/
  | closing (calls : List Nat)
  | over
  deriving Inhabited

/-- The state of a connection that has been greeted. -/
structure Connection where
  nextId : UInt32 := 1
  /-- Every call there ever was. -/
  calls : Array Caller := #[]
  /-- Which call waits under a number. -/
  pending : Table UInt32 Nat := .empty
  intake : Intake := .listening
  /-- Bytes received that are no whole packet yet. -/
  input : Bytes := []
  sizes : IdSizes := {}
  capabilities : Capabilities := {}
  /-- How long a call waits, in milliseconds; `none` is forever. -/
  replyTimeout : Option Nat
  events : Channel WireEventSet
  /-- The connection was shut down, or has ended. -/
  ended : Bool := false
  deriving Inhabited

/-- What a caller, the receiver or a user of the connection does next. -/
inductive Action where
  | begin (set number : UInt8) (payload : Bytes)
  | number (call : Nat)
  | register (call : Nat)
  /-- The command is written, unless that fails. -/
  | write (call : Nat) (failure : Option String)
  | sleep (call : Nat)
  | expire (call : Nat)
  | cancel (call : Nat)
  | collect (call : Nat)
  | withdraw (call : Nat)
  /-- The receiver takes a packet off the stream. -/
  | take (p : Packet)
  | hand
  /-- The stream ends, or goes on with a length that no packet has. -/
  | breakOff
  /-- The receiver notices that the connection was shut down. -/
  | heed
  | announce
  | empty
  | tell
  | shutdown
  | setTimeout (limit : Option Nat)
  | setSizes (sizes : IdSizes)
  | setCapabilities (capabilities : Capabilities)
  /-- What has arrived is read, up to a packet that is not whole yet. -/
  | keep (input : Bytes)
  deriving Inhabited

namespace Connection

/-- How many event sets are kept for readers unless something else is asked for. -/
def defaultCapacity : Nat := 256

/-- A new connection. -/
def new (replyTimeout : Option Nat) (capacity : Nat) : Connection :=
  { replyTimeout, events := .new capacity }

def stage? (c : Connection) (n : Nat) : Option CallStage := c.calls[n]?.map (·.stage)

def mail? (c : Connection) (n : Nat) : Option (Except WireError Reply) := c.calls[n]?.bind (·.mail)

def setStage (c : Connection) (n : Nat) (stage : CallStage) : Connection :=
  { c with calls := c.calls.modify n ({ · with stage }) }

def setMail (c : Connection) (n : Nat) (mail : Except WireError Reply) : Connection :=
  { c with calls := c.calls.modify n ({ · with mail := some mail }) }

/-! ### Callers -/

/-- A call begins; a connection that has ended turns it away. -/
def begin (c : Connection) (set number : UInt8) (payload : Bytes) : Connection :=
  let stage := if c.ended then .finished none (.error .closed) else .admitted
  { c with calls := c.calls.push { set, number, payload, stage } }

def number (c : Connection) (n : Nat) : Connection :=
  match c.stage? n with
  | some .admitted => { c.setStage n (.numbered c.nextId) with nextId := c.nextId + 1 }
  | _ => c

def register (c : Connection) (n : Nat) : Connection :=
  match c.stage? n with
  | some (.numbered id) => { c.setStage n (.writing id) with pending := c.pending.put id n }
  | _ => c

def write (c : Connection) (n : Nat) (failure : Option String) : Connection :=
  match c.stage? n, failure with
  | some (.writing id), none => c.setStage n (.waiting id c.replyTimeout false)
  | some (.writing id), some text => c.setStage n (.leaving id (.io text))
  | _, _ => c

/-- Nothing has come yet, so the call sleeps until something does. -/
def sleep (c : Connection) (n : Nat) : Connection :=
  match c.stage? n, c.mail? n with
  | some (.waiting id limit false), none => if c.ended then c else c.setStage n (.waiting id limit true)
  | _, _ => c

/-- The time that the reply may take has passed, which nobody notices of a call that has mail.  It takes
sleep to pass time, unless there is none to pass. -/
def expire (c : Connection) (n : Nat) : Connection :=
  match c.stage? n, c.mail? n with
  | some (.waiting id (some ms) asleep), none =>
    if asleep || ms = 0 then c.setStage n (.leaving id .timeout) else c
  | _, _ => c

/-- The call notices that the connection was shut down or has ended. -/
def cancel (c : Connection) (n : Nat) : Connection :=
  match c.stage? n with
  | some (.waiting id _ _) => if c.ended then c.setStage n (.leaving id .cancelled) else c
  | _ => c

/-- The call reads its mail. -/
def collect (c : Connection) (n : Nat) : Connection :=
  match c.stage? n, c.mail? n with
  | some (.waiting id _ _), some mail => c.setStage n (.finished (some id) (mail.bind Reply.result))
  | _, _ => c

def withdraw (c : Connection) (n : Nat) : Connection :=
  match c.stage? n with
  | some (.leaving id e) =>
    { c.setStage n (.finished (some id) (.error e)) with pending := c.pending.erase id }
  | _ => c

/-! ### The receiver -/

/-- Acts on a packet: a reply is for the call that waits under its number, if there is one, and an event
packet is published; one that cannot be read ends the connection.  Other commands of the machine are passed
over. -/
def take (c : Connection) (p : Packet) : Connection :=
  match c.intake with
  | .listening =>
    if let some reply := p.reply? then
      match c.pending.find? p.id with
      | some n => { c with pending := c.pending.erase p.id, intake := .handing n reply }
      | none => c
    else if p.isEvent then
      match (eventSet c.sizes).run p.payload with
      | .ok set => { c with events := c.events.send set }
      | .error _ => { c with intake := .leaving }
    else c
  | _ => c

def hand (c : Connection) : Connection :=
  match c.intake with
  | .handing n reply => { c.setMail n (.ok reply) with intake := .listening }
  | _ => c

def breakOff (c : Connection) : Connection :=
  match c.intake with
  | .listening => { c with intake := .leaving }
  | _ => c

def heed (c : Connection) : Connection := if c.ended then c.breakOff else c

def announce (c : Connection) : Connection :=
  match c.intake with
  | .leaving => { c with intake := .emptying, ended := true }
  | _ => c

def empty (c : Connection) : Connection :=
  match c.intake with
  | .emptying => { c with intake := .closing c.pending.values, pending := .empty }
  | _ => c

def tell (c : Connection) : Connection :=
  match c.intake with
  | .closing (n :: ns) => { c.setMail n (.error .closed) with intake := .closing ns }
  | .closing [] => { c with intake := .over }
  | _ => c

/-- What an action does; it does nothing unless its time has come. -/
def perform (c : Connection) : Action → Connection
  | .begin set number payload => c.begin set number payload
  | .number n => c.number n
  | .register n => c.register n
  | .write n failure => c.write n failure
  | .sleep n => c.sleep n
  | .expire n => c.expire n
  | .cancel n => c.cancel n
  | .collect n => c.collect n
  | .withdraw n => c.withdraw n
  | .take p => c.take p
  | .hand => c.hand
  | .breakOff => c.breakOff
  | .heed => c.heed
  | .announce => c.announce
  | .empty => c.empty
  | .tell => c.tell
  | .shutdown => { c with ended := true }
  | .setTimeout replyTimeout => { c with replyTimeout }
  | .setSizes sizes => { c with sizes }
  | .setCapabilities capabilities => { c with capabilities }
  | .keep input => { c with input }

def performAll (c : Connection) (as : List Action) : Connection := as.foldl perform c

/-! ### What is done at one go -/

/-- The result of a call that is over. -/
def result? (c : Connection) (n : Nat) : Option (Except WireError Bytes) :=
  match c.stage? n with
  | some (.finished _ result) => some result
  | _ => none

/-- The packet that a call has sent, while it waits for the reply. -/
def sent? (c : Connection) (n : Nat) : Option Packet :=
  match c.calls[n]? with
  | some ⟨set, number, payload, .waiting id _ _, _⟩ => some (.command id set number payload)
  | _ => none

/-- Begins a call: its name, and the packet to send unless the connection has ended. -/
def send (c : Connection) (set number : UInt8) (payload : Bytes) : (Nat × Option Packet) × Connection :=
  let n := c.calls.size
  let c := c.performAll [.begin set number payload, .number n, .register n, .write n none]
  ((n, c.sent? n), c)

/-- The call gives up waiting, unless it waits forever. -/
def giveUp (c : Connection) (n : Nat) : Connection := c.performAll [.sleep n, .expire n, .withdraw n]

/-- A receiver that hears no more ends the connection, and with it every call that waits. -/
def windUp (c : Connection) : Connection :=
  let c := c.perform .announce
  let c := c.performAll (c.pending.values.flatMap fun n => [.cancel n, .withdraw n])
  c.performAll [.empty, .tell]

/-- The stream of bytes ends, or makes no sense. -/
def stop (c : Connection) : Connection := if c.ended then c else (c.perform .breakOff).windUp

/-- Nobody uses the connection any more. -/
def close (c : Connection) : Connection :=
  if c.ended then c else (c.performAll [.shutdown, .heed]).windUp

/-- Acts on a packet to the end. -/
def accept (c : Connection) (p : Packet) : Connection :=
  let c := c.perform (.take p)
  match c.intake with
  | .handing n _ => c.performAll [.hand, .collect n]
  | .leaving => c.windUp
  | _ => c

/-- Acts on packets in order, until one of them ends the connection. -/
def acceptAll (c : Connection) (ps : List Packet) : Connection :=
  ps.foldl (fun c p => if c.ended then c else c.accept p) c

/-- Acts on bytes that arrive: whole packets are acted on, and the rest is kept.  A length that no packet
has ends the connection. -/
def receive (c : Connection) (bytes : Bytes) : Connection :=
  if c.ended then c
  else
    let input := c.input ++ bytes
    let (ps, rest, bad) := Packet.split input.length input
    let c := (c.perform (.keep rest)).acceptAll ps
    if bad then c.stop else c

end Connection

end Debugger.Wire

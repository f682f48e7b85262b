import Debugger.Wire.Client

/-! # Scripted peers

A peer that answers one command after another from a list, whatever it is asked, and that keeps what it
received.
-/

namespace Debugger.Scenario

open Wire

/-- What a peer does when a command arrives. -/
inductive Answer where
  | reply (payload : Bytes)
  | refuse (code : UInt16)
  /-- Writes bytes, and goes on to the next answer. -/
  | raw (bytes : Bytes)
  /-- Reports events, and goes on to the next answer. -/
  | event (payload : Bytes)
  /-- Replies to a command that was never sent, and goes on to the next answer. -/
  | stray (payload : Bytes)
  | silence
  | close
  deriving DecidableEq, Repr, Inhabited

/-- The answers to what every client asks first. -/
def Answer.opening (sizes : IdSizes) (capabilities : List Bool) : List Answer :=
  [.reply (Encode.sizes sizes), .reply (capabilities.flatMap Encode.bool)]

/-- A peer with answers. -/
structure ScriptedPeer where
  /-- What it greets with. -/
  greeting : Bytes := Wire.greeting
  /-- What it was greeted with. -/
  greeted : Bytes := []
  answers : List Answer := []
  /-- The commands that arrived. -/
  received : List Packet := []
  /-- The number of the next event packet. -/
  nextEvent : UInt32 := 0x40000000
  deriving Inhabited

namespace ScriptedPeer

/-- A number that no command gets soon. -/
def strayId : UInt32 := 0xfffffff0

/-- The bytes of an event packet. -/
def event (p : ScriptedPeer) (payload : Bytes) : Bytes × ScriptedPeer :=
  ((Packet.event p.nextEvent payload).encode, { p with nextEvent := p.nextEvent + 1 })

/-- Answers a command from the list; a list that has run out refuses. -/
def answerFrom (p : ScriptedPeer) (id : UInt32) : List Answer → Output × ScriptedPeer
  | [] => ({ bytes := (Packet.reply id Code.notImplemented []).encode }, { p with answers := [] })
  | a :: as =>
    let last (output : Output) : Output × ScriptedPeer := (output, { p with answers := as })
    let more (bytes : Bytes) (p : ScriptedPeer) : Output × ScriptedPeer :=
      let (output, p) := p.answerFrom id as
      ({ output with bytes := bytes ++ output.bytes }, p)
    match a with
    | .reply payload => last { bytes := (Packet.reply id 0 payload).encode }
    | .refuse code => last { bytes := (Packet.reply id code []).encode }
    | .raw bytes => more bytes p
    | .event payload =>
      let (bytes, p) := p.event payload
      more bytes p
    | .stray payload => more (Packet.reply strayId 0 payload).encode p
    | .silence => last {}
    | .close => last { closes := true }

/-- The peer greets in its own words, and closes unless that is a whole greeting. -/
instance : Peer ScriptedPeer where
  greet greeted p :=
    ({ bytes := p.greeting, closes := p.greeting.length < Wire.greeting.length }, { p with greeted })
  answer packet p := { p with received := p.received ++ [packet] }.answerFrom packet.id p.answers

end ScriptedPeer

end Debugger.Scenario

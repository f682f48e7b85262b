import Debugger.Wire.Encode

/-! # Packets

Everything after the greeting travels in packets: the length, a number that pairs a reply with its
command, a flag that tells the two apart, and either what is commanded or how it went.
-/

namespace Debugger.Wire

/-- What each side says first. -/
def greeting : Bytes := Text.Utf8.encode "JDWP-Handshake"

/-- A packet.  The two bytes `high` and `low` are the set and the number of a command, or the error code of
a reply. -/
structure Packet where
  id : UInt32
  flags : UInt8
  high : UInt8
  low : UInt8
  payload : Bytes
  deriving DecidableEq, Repr, Inhabited

namespace Packet

/-- The flag of replies. -/
def replyFlag : UInt8 := 0x80

/-- The bytes before the payload. -/
def headerSize : Nat := 11

/-- No packet is longer. -/
def maxSize : Nat := 16 * 1024 * 1024

def command (id : UInt32) (set number : UInt8) (payload : Bytes) : Packet :=
  ⟨id, 0, set, number, payload⟩

def reply (id : UInt32) (code : UInt16) (payload : Bytes) : Packet :=
  ⟨id, replyFlag, (code >>> 8).toUInt8, code.toUInt8, payload⟩

def isReply (p : Packet) : Bool := p.flags &&& replyFlag != 0

/-- The error code of a reply; zero means success. -/
def code (p : Packet) : UInt16 := p.high.toUInt16 <<< 8 ||| p.low.toUInt16

/-- Whether the packet is a command by which the machine reports events. -/
def isEvent (p : Packet) : Bool := !p.isReply && p.high = 64 && p.low = 100

/-- A packet that reports events. -/
def event (id : UInt32) (payload : Bytes) : Packet := command id 64 100 payload

def encode (p : Packet) : Bytes :=
  Encode.count (headerSize + p.payload.length) ++ Encode.u32 p.id ++
    [p.flags, p.high, p.low] ++ p.payload

/-- What a stream of bytes begins with. -/
inductive Front where
  | packet (p : Packet) (rest : Bytes)
  /-- No packet can have the announced length. -/
  | badLength (n : Nat)
  /-- More bytes are needed. -/
  | short
  deriving DecidableEq, Repr, Inhabited

/-- What the bytes of a stream begin with. -/
def front (bytes : Bytes) : Front :=
  let size := Bytes.toNat (bytes.take 4)
  if bytes.length < headerSize then .short
  else if size < headerSize || maxSize < size then .badLength size
  else if bytes.length < size then .short
  else
    match bytes.drop 8 with
    | flags :: high :: low :: rest =>
      let payload := rest.take (size - headerSize)
      .packet ⟨.ofNat (Bytes.toNat ((bytes.drop 4).take 4)), flags, high, low, payload⟩ (bytes.drop size)
    | _ => .short

/-- All packets of a stream in order, at most `n`; what is left of it; and whether it goes on with a length
that no packet has. -/
def split : (n : Nat) → Bytes → List Packet × Bytes × Bool
  | 0, bytes => ([], bytes, false)
  | n + 1, bytes =>
    match front bytes with
    | .packet p rest =>
      let (ps, rest, bad) := split n rest
      (p :: ps, rest, bad)
    | .badLength _ => ([], bytes, true)
    | .short => ([], bytes, false)

end Packet

end Debugger.Wire

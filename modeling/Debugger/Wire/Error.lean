import Debugger.Error
import Debugger.Text.Quoted
import Debugger.Text.Utf8

/-! # Failures on the wire

A command fails because the machine refuses it, because no answer comes, or because what comes is no
answer.
-/

namespace Debugger.Wire

/-- What is wrong with received bytes. -/
inductive Malformed where
  /-- A packet of `size` bytes ends before the `need` bytes from `offset` on. -/
  | underflow (need offset size : Nat)
  | notText (fault : Text.Utf8.Fault)
  /-- Identifiers cannot have that many bytes. -/
  | idSize (size : Nat)
  /-- The other side did not greet. -/
  | greeting (bytes : List UInt8)
  | other (text : String)
  deriving DecidableEq, Repr, Inhabited

def Malformed.message : Malformed → String
  | underflow need offset size =>
    "buffer underflow: need " ++ toString need ++ " bytes at offset " ++ toString offset ++
      ", packet has " ++ toString size
  | notText fault => "invalid utf-8 string: " ++ fault.message
  | idSize size => "invalid id size: " ++ toString size
  | greeting bytes => "invalid handshake reply: " ++ Text.quoted (Text.Utf8.lossy bytes)
  | other text => text

/-! ### Error codes of the machine -/

namespace Code

def invalidThread : UInt16 := 10
def threadNotSuspended : UInt16 := 13
def threadSuspended : UInt16 := 14
def invalidObject : UInt16 := 20
def invalidClass : UInt16 := 21
def invalidMethod : UInt16 := 23
def invalidFrame : UInt16 := 30
def noMoreFrames : UInt16 := 31
def opaqueFrame : UInt16 := 32
def notImplemented : UInt16 := 99
def absentInformation : UInt16 := 101
def machineDead : UInt16 := 112

end Code

/-- Why a command failed. -/
inductive WireError where
  | io (text : String)
  | malformed (m : Malformed)
  /-- No reply came in time. -/
  | timeout
  /-- The connection was shut down while the reply was awaited. -/
  | cancelled
  | closed
  /-- The machine replied with an error code. -/
  | refused (code : UInt16)
  deriving DecidableEq, Repr, Inhabited

namespace WireError

def message : WireError → String
  | io text => "i/o error: " ++ text
  | malformed m => "protocol error: " ++ m.message
  | timeout => "timed out waiting for a JDWP reply"
  | cancelled => "request cancelled"
  | closed => "JDWP connection closed"
  | refused code => "VM returned error code " ++ toString code

/-- Whether the machine is out of reach for good. -/
def isDisconnect : WireError → Bool
  | io _ | cancelled | closed => true
  | refused code => code == Code.machineDead
  | malformed _ | timeout => false

/-- The same failure as the failure of a session call. -/
def toSession (e : WireError) : SessionError :=
  if e.isDisconnect then .disconnected
  else match e with
    | timeout => .timeout
    | refused code =>
      if code == Code.threadNotSuspended || code == Code.threadSuspended then
        .incompatibleThreadState
      else if code == Code.invalidFrame || code == Code.noMoreFrames || code == Code.opaqueFrame then
        .invalidStackFrame
      else if code == Code.invalidObject then .objectCollected
      else if code == Code.notImplemented then .unsupported
      else .vm code
    | e => .protocol e.message

end WireError

end Debugger.Wire

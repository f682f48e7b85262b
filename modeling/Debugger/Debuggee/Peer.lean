import Debugger.Debuggee.Command
import Debugger.Wire.Client

/-! # A debuggee at the other end of a connection -/

namespace Debugger.Debuggee

open Wire

/-- All that a response sends. -/
def Response.bytes (r : Response) (id : UInt32) (code : UInt16) : Bytes :=
  (Packet.reply id code r.payload).encode ++ r.events.flatMap Packet.encode

/-- Whoever does not greet properly is not greeted. -/
instance : Peer Debuggee where
  greet greeted d :=
    (if greeted = greeting then { bytes := greeting } else { closes := true }, d)
  answer p d :=
    let ((code, r), d) := d.respond p.high p.low p.payload
    ({ bytes := r.bytes p.id code, closes := r.closes }, d)

end Debugger.Debuggee

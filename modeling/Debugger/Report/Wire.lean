import Debugger.Report.Things
import Debugger.Wire.Data
import Debugger.Wire.Error
import Debugger.Wire.Signature

/-! # Reports of what travels on the wire -/

namespace Debugger.Wire

open Doc

instance : Reported CodePlace where
  doc p := list [doc p.typeTag, doc p.type, doc p.method, doc p.index]

instance : Reported FrameEntry := ⟨fun f => doc (f.id, f.place)⟩

instance : Reported LoadedType where
  doc t := list [doc t.tag, doc t.type, doc t.signature, doc t.status]

instance : Reported Member where
  doc m := list [doc m.id, doc m.name, doc m.signature, doc m.modifiers]

instance : Reported LineEntry := ⟨fun e => doc (e.index, e.line)⟩

instance : Reported LineTable where
  doc t := record [("start", doc t.start), ("end", doc t.stop), ("lines", doc t.lines)]

instance : Reported VariableEntry where
  doc v := list [doc v.index, doc v.name, doc v.signature, doc v.length, doc v.slot]

instance : Reported ThreadStatus where
  doc s := list [doc s.status, doc s.suspend, doc s.isSuspended]

instance : Reported InvokeReply where
  doc r := record [("value", doc r.value), ("exception", doc r.exception)]

instance : Reported IdSizes where
  doc s := doc [s.field, s.method, s.object, s.type, s.frame]

instance : Reported Capabilities where
  doc c := doc [c.synthetic, c.ownedMonitors, c.contendedMonitor, c.popFrames, c.forceReturn]

/-- The capabilities in words. -/
def Capabilities.describe (c : Capabilities) : String :=
  "JdwpCapabilities \x7b can_get_synthetic_attribute: " ++ toString c.synthetic ++
    ", can_get_owned_monitor_info: " ++ toString c.ownedMonitors ++
    ", can_get_current_contended_monitor: " ++ toString c.contendedMonitor ++
    ", can_pop_frames: " ++ toString c.popFrames ++
    ", can_force_early_return: " ++ toString c.forceReturn ++ " \x7d"

instance : Reported WireEvent where
  doc
    | .step r t p => list [text "step", doc r, doc t, doc p]
    | .breakpoint r t p => list [text "breakpoint", doc r, doc t, doc p]
    | .threadStart r t => list [text "start", doc r, doc t]
    | .threadDeath r t => list [text "death", doc r, doc t]
    | .vmStart r t => list [text "vm_start", doc r, doc t]
    | .vmDeath => list [text "vm_death"]

instance : Reported WireEventSet where
  doc s := record [("policy", doc s.policy), ("events", doc s.events)]

/-- The ways of losing the connection are reported alike, and a dead machine by its code. -/
instance : Reported WireError where
  doc e :=
    let named (kind : String) : Doc := record [("error", text kind), ("message", text e.message)]
    match e with
    | .io _ | .cancelled | .closed => record [("error", text "Disconnected")]
    | .malformed _ => named "Protocol"
    | .timeout => named "Timeout"
    | .refused _ => named "VmError"

end Debugger.Wire

import Debugger.Debuggee.State
import Debugger.Report.Wire

/-! # Reports of what a debuggee was asked for -/

namespace Debugger.Debuggee

open Doc

instance : Reported StepOrder := ⟨fun s => list [doc s.thread, doc s.size, doc s.depth]⟩

instance : Reported RequestEntry where
  doc r := record
    [("id", doc r.id), ("kind", doc r.kind), ("policy", doc r.policy), ("mods", doc r.modifiers),
      ("count", doc r.count), ("step", doc r.step), ("exclude", doc r.exclusions),
      ("at", doc r.place)]

instance : Reported InvocationEntry where
  doc i := record
    [("cmd", doc [i.set, i.number]), ("method", doc i.method), ("args", doc i.args),
      ("options", doc i.options)]

end Debugger.Debuggee

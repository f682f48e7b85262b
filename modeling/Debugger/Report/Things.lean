import Debugger.Report.Names
import Debugger.Channel
import Debugger.Error
import Debugger.VmEvent

/-! # Reports of things

How values, places, errors and events stand in reports.
-/

namespace Debugger

open Doc

/-- A number in so many hexadecimal digits. -/
def hexDigits (width n : Nat) : String :=
  let ds := Nat.toDigits 16 n
  String.ofList (List.replicate (width - ds.length) '0' ++ ds)

/-- Bytes, two digits each. -/
def hexBytes (bs : List UInt8) : String := String.join (bs.map fun b => hexDigits 2 b.toNat)

instance : Reported Value where
  doc
    | .boolean v => list [text "Z", doc v]
    | .byte v => list [text "B", doc v]
    | .char v => list [text "C", doc v]
    | .short v => list [text "S", doc v]
    | .int v => list [text "I", doc v]
    | .long v => list [text "J", doc v]
    | .float v => list [text "F", text (hexDigits 8 v.toNat)]
    | .double v => list [text "D", text (hexDigits 16 v.toNat)]
    | .void => list [text "V"]
    | .object t i => list [text "obj", doc t, doc i]

instance : Reported MethodRef := ⟨fun m => doc (m.type, m.method)⟩

instance : Reported SuspendPolicy := ⟨fun p => text (Named.nameOf p)⟩

instance : Reported StepDepth := ⟨fun d => text (Named.nameOf d)⟩

instance : Reported RequestKind := ⟨fun k => text (Named.nameOf k)⟩

instance : Reported EventDetail := ⟨fun d => text (Named.nameOf d)⟩

instance : Reported StatusCode := ⟨fun c => text (Named.nameOf c)⟩

instance : Reported Location where
  doc l := record
    [("class", doc l.method.id.type), ("method", doc l.method.id.method),
      ("type", doc l.method.declaringType), ("name", doc l.method.name),
      ("sig", doc l.method.signature), ("mods", doc l.method.modifiers), ("line", doc l.line),
      ("bci", doc l.codeIndex)]

instance : Reported RemoteFrame := ⟨fun f => doc (f.id, f.location)⟩

instance : Reported Variable where
  doc v := record [("name", doc v.name), ("sig", doc v.signature), ("value", doc v.value)]

instance : Reported SessionError where
  doc e := record [("error", text e.kindName), ("message", text e.message)]

instance : Reported DebugError where
  doc e := record ([("error", doc e.code), ("message", text e.message)] ++
    (e.source?.map fun s => ("source", text s.kindName)).toList)

instance : Reported VmEvent where
  doc
    | .step r t l =>
      record [("ev", text "step"), ("request", doc r), ("thread", doc t), ("at", doc l)]
    | .breakpoint r t l =>
      record [("ev", text "breakpoint"), ("request", doc r), ("thread", doc t), ("at", doc l)]
    | .threadStart t => record [("ev", text "start"), ("thread", doc t)]
    | .threadDeath t => record [("ev", text "death"), ("thread", doc t)]
    | .vmDeath => record [("ev", text "vm_death")]
    | .disconnected => record [("ev", text "disconnected")]

instance : Reported EventSet where
  doc s := record [("policy", doc s.policy), ("thread", doc s.thread?), ("final", doc s.isFinal),
    ("events", doc s.events)]

instance : Reported Element where
  doc
    | .target => text "T"
    | .thread t => doc t

instance : Reported DebugEvent where
  doc e := list [doc e.source, text (Named.nameOf e.kind), doc e.detail]

instance {α : Type} [Reported α] : Reported (Received α) where
  doc
    | .message a => doc a
    | .lagged n => list [text "lagged", doc n]

instance : Reported Breakpoint where
  doc b := record [("request", doc b.request), ("type", doc b.typeName), ("line", doc b.line),
    ("policy", doc b.policy), ("hits", doc b.hits)]

instance : Reported Receiver where
  doc
    | .type c => record [("class", doc c)]
    | .object o c => record [("object", doc o), ("class", doc c)]

instance : Reported InvokeTarget where
  doc
    | .on r => doc r
    | .new c => record [("new", doc c)]

/-- What was asked for, or the error in its place. -/
def resultDoc {ε α : Type} [Reported ε] [Reported α] : Except ε α → Doc
  | .ok a => doc a
  | .error e => doc e

end Debugger
